import SqlBind.Text.Infix
import SqlBind.Text.Quoted
import SqlBind.Value.Mapping

/-!
# Looking Names Up in What Is No Mapping

A mapping is asked first whether it has a name, and then for its value. A converter does not check
that its bindings are a mapping, and other values can take part in this to some extent. A collection
has a name that is among its elements, a text one that stands within it; asked for the value they
have none to give. A string of bytes refuses the question, and most values cannot be asked at all.
What is not found is not asked for, so that nothing is wrong with a collection that lacks every
name.

Stretches can be cut from ordered collections of all kinds, and from nothing else.

A generator gives out its elements only once: unless the first name that is looked for is among
them, it is used up, and no other name is found.

## Main definitions

* `LookupProblem`: why a value cannot answer for a name, with the `message`.
* `Value.lookupProblem?`: the problem with one name.
* `Value.stretchName`: what a stretch of a value is.
* `Value.misuse?`: the first problem with several names, looked up one after the other.

## Main results

* `Value.misuse?_of_isMapping`: there is never a problem with a mapping.
-/

namespace SqlBind

open Text

/-- The collections that refuse a name as a place. -/
inductive PlacedKind where
  | text
  | list
  | tuple
  | deque
  deriving DecidableEq, Repr

/-- Why a value cannot answer for a name. -/
inductive LookupProblem where
  /-- It cannot be asked whether it has the name. -/
  | notSearchable (typeName : String)
  /-- It may only be asked for bytes. -/
  | bytesWanted
  /-- It has the name, but no values to give. -/
  | noValues (typeName : String)
  /-- It has the name, but its values go by place. -/
  | valuesByPlace (kind : PlacedKind)
  /-- A stretch is no key. -/
  | stretchNoKey
  /-- Its values go by one place each. -/
  | noStretches
  deriving DecidableEq, Repr

/-- The words of a problem. -/
def LookupProblem.message : LookupProblem → String
  | .notSearchable typeName => "argument of type " ++ quote typeName ++ " is not iterable"
  | .bytesWanted => "a bytes-like object is required, not 'str'"
  | .noValues typeName => quote typeName ++ " object is not subscriptable"
  | .valuesByPlace .text => "string indices must be integers, not 'str'"
  | .valuesByPlace .list => "list indices must be integers or slices, not str"
  | .valuesByPlace .tuple => "tuple indices must be integers or slices, not str"
  | .valuesByPlace .deque => "sequence index must be integer, not 'str'"
  | .stretchNoKey => "unhashable type: 'slice'"
  | .noStretches => "sequence index must be integer, not 'slice'"

/-- How the values of an ordered collection go by place. -/
def SeqKind.placed : SeqKind → PlacedKind
  | .list | .wrapped => .list
  | .tuple | .point => .tuple
  | .deque => .deque

namespace Value

/-- The problem with looking a name up, which is there if the value cannot be asked for the name or
has it. A mapping has no problem. -/
def lookupProblem? (bindings : Value) (name : String) : Option LookupProblem :=
  let among (elements : List Value) : Bool := elements.any (·.equal (.str name))
  match bindings with
  | .dict .. | .layers _ | .range .. | .array _ | .bytes .view _ => none
  | .str s | .wrappedStr s =>
    if standsIn name.toList s.toList then some (.valuesByPlace .text) else none
  | .bytes .. => some .bytesWanted
  | .seq kind items => if among items then some (.valuesByPlace kind.placed) else none
  | .group _ items | .generator items =>
    if among items then some (.noValues bindings.typeName) else none
  | v => some (.notSearchable v.qualifiedName)

/-- The first problem with looking up several names, one after the other. -/
def misuse? (bindings : Value) (names : List String) : Option LookupProblem :=
  match bindings with
  | .generator _ => (names.take 1).findSome? bindings.lookupProblem?
  | _ => names.findSome? bindings.lookupProblem?

/-- The name of the type of the stretches of a value, or the problem with cutting one. -/
def stretchName : Value → Except LookupProblem String
  | .dict .. | .layers _ => .error .stretchNoKey
  | .seq .deque _ => .error .noStretches
  | .seq .point items => .ok (seq .tuple items).typeName
  | v@(.str _) | v@(.wrappedStr _) | v@(.bytes ..) | v@(.seq ..) | v@(.range ..) | v@(.array _) =>
    .ok v.qualifiedName
  | v => .error (.noValues v.qualifiedName)

/-- There is no problem with looking names up in a mapping. -/
@[simp] theorem misuse?_of_isMapping {m : Value} {names : List String} (h : m.isMapping = true) :
    m.misuse? names = none := by
  cases m <;> simp_all [isMapping, misuse?, lookupProblem?]

end Value

end SqlBind
