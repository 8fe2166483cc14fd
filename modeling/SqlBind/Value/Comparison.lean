import SqlBind.Fault.Cause

/-!
# Comparing Values with Integers

Limits are integers, but a setting may hold any value. A real number of any kind compares with an
integer as a quantity; any other value is refused, and the complaint names the two kinds in the
order in which they stand. A wrapper answers for what it wraps, so there the complaint names the
wrapped kind first and turns the relation round if need be. A decimal that is not a number has no
place in any order and is refused too, while a double that is not a number stands in no relation.
Truth values and integers are compared as integers.

## Main definitions

* `Value.compareWith`: a value on the left of an integer.
* `Value.compareFrom`: an integer on the left of a value.
-/

namespace SqlBind

open Number

namespace Relation

/-- Whether two integers stand in a relation. -/
def holdsInt : Relation → Int → Int → Bool
  | .atMost, a, b => a ≤ b
  | .below, a, b => a < b
  | .atLeast, a, b => b ≤ a
  | .above, a, b => b < a

/-- Whether two quantities stand in a relation. -/
def holds : Relation → Quantity → Quantity → Bool
  | .atMost, a, b => a.atMost b
  | .below, a, b => a.less b
  | .atLeast, a, b => b.atMost a
  | .above, a, b => b.less a

/-- The relation seen from the other side. -/
def flip : Relation → Relation
  | .atMost => .atLeast
  | .below => .above
  | .atLeast => .atMost
  | .above => .below

end Relation

namespace Value

/-- The kind that a wrapper compares as. -/
def wrappedName? : Value → Option String
  | .wrappedStr _ => some "str"
  | .seq .wrapped _ => some "list"
  | .dict .readOnly _ => some "dict"
  | _ => none

/-- The answer to a question of order about a value and an integer, unless the value is a decimal
that is not a number. -/
def ordered (v : Value) (answer : Bool) : Outcome Bool :=
  match v with
  | .decimal text =>
    if decimalQuantity text = .undefined then .error .undefinedOrder else .ok answer
  | _ => .ok answer

/-- The integer that a value is. -/
def integer? : Value → Option Int
  | .bool b => some (if b then 1 else 0)
  | .int i => some i
  | _ => none

/-- Whether a value stands in a relation to an integer. -/
def compareWith (v : Value) (relation : Relation) (i : Int) : Outcome Bool :=
  match v.integer?, v.quantity? with
  | some n, _ => .ok (relation.holdsInt n i)
  | none, some q => v.ordered (relation.holds q (.ofInt i))
  | none, none => .error (.incomparable relation (v.wrappedName?.getD v.qualifiedName) "int")

/-- Whether an integer stands in a relation to a value. -/
def compareFrom (i : Int) (relation : Relation) (v : Value) : Outcome Bool :=
  match v.integer?, v.quantity?, v.wrappedName? with
  | some n, _, _ => .ok (relation.holdsInt i n)
  | none, some q, _ => v.ordered (relation.holds (.ofInt i) q)
  | none, none, some name => .error (.incomparable relation.flip name "int")
  | none, none, none => .error (.incomparable relation "int" v.qualifiedName)

/-- Integers compare as integers. -/
@[simp] theorem compareWith_int {a b : Int} {relation : Relation} :
    (int a).compareWith relation b = .ok (relation.holdsInt a b) := rfl

@[simp] theorem compareFrom_int {a b : Int} {relation : Relation} :
    compareFrom a relation (int b) = .ok (relation.holdsInt a b) := rfl

end Value

end SqlBind
