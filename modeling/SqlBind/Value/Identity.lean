import SqlBind.Number.Decimal
import SqlBind.Value.Moment

/-!
# Identity of Keys

Values of different kinds can be one key: a truth value counts as 0 or 1, numbers of all kinds go by
their quantity, a wrapped text is the text that it wraps, strings of bytes go by their bytes, times
at a known distance from universal time by the point of time, and fixed sets ignore order. All this
is said once, by giving each value an *identity*: a list of atoms in which containers are preceded
by their shape and size, so that no two different nestings share a list. Two values are the same key
when they have the same identity.

Some values are the same as nothing that was made apart from them: what is not a number, a
generator, an object of a class of its own. They have no identity, and neither has a container that
holds one. A collection that can change is no key at all and has no identity either; how such
values are compared is another matter (`SqlBind.Value.Equality`).

Since sameness is equality of identities, it is symmetric and transitive by construction, and
reflexive on the values that have an identity. It is not about one value and itself: a mapping may
list a key that it is not found to have, as nobody but the key itself could ask for it. The names
that the library asks for are texts, made when a statement is scanned, and texts have an identity.

## Main definitions

* `Atom` and `Value.identity?`: the identity of a value.
* `Value.equal`: whether two values that were made separately are the same key.
* `Value.unhashable?`: what keeps a value from being a key.

## Main results

* `Value.equal_comm`, `Value.equal_trans`: sameness is a partial equivalence.
* `Value.equal_self_iff`: it is reflexive on the values that have an identity.
-/

namespace SqlBind

open Number

/-- The shapes of containers that can be keys. -/
inductive Shape where
  | tuple
  | range
  | group
  | pair
  deriving DecidableEq, Repr, Ord

instance : Ord MomentKind := ⟨fun a b => compare a.ctorIdx b.ctorIdx⟩

/-- One step of an identity. -/
inductive Atom where
  | null
  | number (n : Numeral)
  | infinite (negative : Bool)
  | text (s : String)
  | bytes (data : List UInt8)
  | moment (kind : MomentKind) (universal : Bool) (micros : Int)
  | uuid (text : String)
  | site (name : String) (position : Int)
  /-- A container of this shape, whose `count` parts follow. -/
  | opening (shape : Shape) (count : Nat)
  deriving DecidableEq, Repr, Ord

namespace Atom

/-- The atom of a quantity; none if it is undefined. -/
def ofQuantity? : Quantity → Option Atom
  | .undefined => none
  | .infinite negative => some (.infinite negative)
  | .finite n => some (.number n)

/-- The atom of an integer. -/
def ofInt (i : Int) : Atom := .number (Numeral.ofInt i).reduced

end Atom

namespace Value

/-- The quantity of a value that is a real number. -/
def quantity? : Value → Option Quantity
  | .bool b => some (.ofInt (if b then 1 else 0))
  | .int i => some (.ofInt i)
  | .float x => some (.ofBinary64 x)
  | .decimal text => some (decimalQuantity text)
  | _ => none

/-- The atoms of a complex number; those of its real part if it has no other. -/
def complexIdentity? (re im : Binary64) : Option (List Atom) := do
  let x ← Atom.ofQuantity? (.ofBinary64 re)
  let y ← Atom.ofQuantity? (.ofBinary64 im)
  if im.isZero then some [x] else some [.opening .pair 2, x, y]

/-- The atoms of a range of a given length. The start matters only if there is an element, and the
step only if there are two, so that these are the same exactly for ranges of the same elements. -/
def rangeIdentity (start step : Int) : Nat → List Atom
  | 0 => [.opening .range 0]
  | 1 => [.opening .range 1, .ofInt start]
  | n => [.opening .range n, .ofInt start, .ofInt step]

/-- The order in which the parts of an unordered container are put. -/
def identityLe (a b : List Atom) : Bool := (compare a b).isLE

/-- The identity of a fixed set from those of its members. -/
def groupIdentity (parts : List (List Atom)) : List Atom :=
  .opening .group parts.length :: (parts.mergeSort identityLe).flatten

/-- The atoms of a calendar value. A time of day is a key by the point of time that it names, and by
the one that a comparison looks at. -/
def momentIdentity (kind : MomentKind) (text : String) : List Atom :=
  let atom := Atom.moment kind (kind.isUniversal text)
  match kind with
  | .time => [atom (kind.micros text), atom (kind.comparedMicros text)]
  | _ => [atom (kind.micros text)]

mutual

/-- The identity of a value; none for a value that is no key, or is the same as nothing made apart
from it. -/
def identity? : Value → Option (List Atom)
  | .null => some [.null]
  | .bool b => some [.ofInt (if b then 1 else 0)]
  | .int i => some [.ofInt i]
  | .float x => (Atom.ofQuantity? (.ofBinary64 x)).map ([·])
  | .complex re im => complexIdentity? re im
  | .decimal text => (Atom.ofQuantity? (decimalQuantity text)).map ([·])
  | .str s | .wrappedStr s => some [.text s]
  | .bytes .growable _ => none
  | .bytes _ data => some [.bytes data]
  | .moment kind text => some (momentIdentity kind text)
  | .uuid text => some [.uuid text]
  | .range start stop step => some (rangeIdentity start step (rangeLength start stop step))
  | .seq .tuple items => (identities? items).map (.opening .tuple items.length :: ·.flatten)
  | .seq .point items => (identities? items).map (.opening .tuple items.length :: ·.flatten)
  | .group .frozen members => (identities? members).map groupIdentity
  | .placeholder p => some [.site p.name p.position]
  | _ => none

/-- The identities of a list of values. -/
def identities? : List Value → Option (List (List Atom))
  | [] => some []
  | v :: rest => do
    let a ← identity? v
    let as ← identities? rest
    some (a :: as)

end

/-- Whether two values made separately are the same key. -/
def equal (a b : Value) : Bool :=
  match a.identity?, b.identity? with
  | some x, some y => x = y
  | _, _ => false

theorem equal_iff {a b : Value} :
    a.equal b = true ↔ ∃ x, a.identity? = some x ∧ b.identity? = some x := by
  simp only [equal]
  split <;> rename_i h₁ h₂
  · simp [h₁, h₂, eq_comm]
  · constructor
    · simp
    · rintro ⟨x, hx, hy⟩
      exact absurd hy (by simpa using h₂ x x hx)

theorem equal_comm {a b : Value} : a.equal b = b.equal a := by
  rw [Bool.eq_iff_iff, equal_iff, equal_iff]
  constructor <;> exact fun ⟨x, h₁, h₂⟩ => ⟨x, h₂, h₁⟩

theorem equal_trans {a b c : Value} (h₁ : a.equal b = true) (h₂ : b.equal c = true) :
    a.equal c = true := by
  obtain ⟨x, ha, hb⟩ := equal_iff.1 h₁
  obtain ⟨y, hb', hc⟩ := equal_iff.1 h₂
  exact equal_iff.2 ⟨x, ha, by rw [hc, ← hb', hb]⟩

/-- A value is the same key as one made like it exactly if it has an identity. -/
theorem equal_self_iff {a : Value} : a.equal a = true ↔ a.identity?.isSome = true := by
  simp only [equal_iff, and_self, Option.isSome_iff_exists]

/-- Two texts are the same key exactly when they are the same. -/
@[simp] theorem equal_str {s t : String} : (str s).equal (str t) = decide (s = t) := by
  simp [equal, identity?]

end Value

/-- What keeps a value from being a key: a part that can change, of a kind with this name, or a
decimal that must not be compared. -/
inductive KeyRefusal where
  | changeable (typeName : String)
  | signalling
  deriving DecidableEq, Repr

namespace Value

mutual

/-- What keeps a value from being a key, if anything does: the value itself, or the first part of a
fixed collection that is to blame. -/
def unhashable? : Value → Option KeyRefusal
  | .seq .tuple items => unhashableIn? items
  | .seq .point items => unhashableIn? items
  | .group .frozen _ => none
  | .decimal text => if isSignalling text then some .signalling else none
  | v@(.seq ..) | v@(.group ..) | v@(.dict ..) | v@(.layers _) | v@(.array _)
  | v@(.bytes .growable _) => some (.changeable v.qualifiedName)
  | _ => none

/-- What keeps the first of a list of values that is no key from being one. -/
def unhashableIn? : List Value → Option KeyRefusal
  | [] => none
  | v :: rest => (unhashable? v).or (unhashableIn? rest)

end

end Value

end SqlBind
