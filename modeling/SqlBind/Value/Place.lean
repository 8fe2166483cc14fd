import SqlBind.Value.Identity

/-!
# Places in Sets

A set lists its members as they lie in a table. Every member has a *place*, a number of 64 bits that
equal members share, and wants to lie where its place modulo the size of the table puts it. If that
slot is taken, the next nine are tried where the table has as many, and then the search goes on
elsewhere: at five times the slot and one more, plus what is left of the place when its lowest five
bits are dropped, and again five at every turn. A table that becomes three fifths full is replaced
by one that has more than four times as many slots as there are members.

The place of a number is what its quantity leaves when it is divided by a prime, so that it does not
depend on the kind of number. As ten has an inverse there, this is a remainder even of a fraction.
The places of fixed collections are mixed from those of their parts. Other values lie where chance
puts them, and a set with such a member lists its members as they came.

## Main definitions

* `Value.place?`: the place of a value, if it does not depend on chance.
* `MemberTable`: a table of members, with `MemberTable.add` and `MemberTable.members`.
* `memberOrder`: the order in which a set lists its members.
-/

namespace SqlBind

open Number

/-! ### Places -/

/-- The prime by which quantities are divided. -/
def placePrime : Nat := twoTo 61 - 1

/-- What a power leaves when it is divided. -/
def powerRemainder (base exponent divisor : Nat) : Nat :=
  if _h : exponent = 0 then 1 % divisor
  else
    let half := powerRemainder (base * base % divisor) (exponent / 2) divisor
    if exponent % 2 = 1 then base * half % divisor else half
termination_by exponent
decreasing_by omega

/-- The place with a number; minus one is no place and gives way to minus two. -/
def placeOfInt (i : Int) : UInt64 :=
  UInt64.ofNat ((if i = -1 then -2 else i) % twoTo 64).toNat

/-- The place of a numeral: what it leaves when it is divided by the prime, with its sign. A power
of ten is the same as one whose exponent differs by a multiple of the prime less one. -/
def Number.Numeral.place (n : Numeral) : UInt64 :=
  let power := powerRemainder 10 (n.exponent % (placePrime - 1 : Nat)).toNat placePrime
  let rest := n.coefficient * power % placePrime
  placeOfInt (if n.negative then -(rest : Int) else rest)

/-- The place of a quantity; none if it is undefined. -/
def Number.Quantity.place? : Quantity → Option UInt64
  | .undefined => none
  | .infinite negative => some (placeOfInt (if negative then -314159 else 314159))
  | .finite n => some n.place

/-- A place that is not the one of minus one, which is replaced by another. -/
def placeExcept (instead place : UInt64) : UInt64 := if place + 1 = 0 then instead else place

/-- The place of a complex number. -/
def complexPlace (re im : UInt64) : UInt64 := placeExcept (placeOfInt (-2)) (re + 1000003 * im)

/-- Adds the place of a part to what the parts before it have left. -/
def mixTuple (mixed place : UInt64) : UInt64 :=
  let sum := mixed + place * 14029467366897019727
  ((sum <<< 31) ||| (sum >>> 33)) * 11400714785074694791

/-- The place of a tuple of parts with these places. -/
def tuplePlace (places : List UInt64) : UInt64 :=
  let start : UInt64 := 2870177450012600261
  let length := UInt64.ofNat places.length
  placeExcept 1546275796 (places.foldl mixTuple start + (length ^^^ start ^^^ (3527539 : UInt64)))

/-- Adds the place of a member to what other members have left, in whatever order. -/
def mixGroup (mixed place : UInt64) : UInt64 :=
  let spread : UInt64 := ((place ^^^ (89869747 : UInt64)) ^^^ (place <<< 16)) * 3644798167
  mixed ^^^ spread

/-- The place of a fixed set of members with these places. -/
def groupPlace (places : List UInt64) : UInt64 :=
  let mixed := places.foldl mixGroup 0 ^^^ (UInt64.ofNat (places.length + 1) * 1927868237)
  let spread := mixed ^^^ (mixed >>> 11) ^^^ (mixed >>> 25)
  placeExcept 590923713 (spread * 69069 + 907133923)

/-- The place of a range with at least two elements. -/
def rangePlace? (start step : Int) (length : Nat) : Option UInt64 :=
  if length < 2 then none
  else some (tuplePlace ([(length : Int), start, step].map fun i => (Numeral.ofInt i).place))

namespace Value

mutual

/-- The place of a value, if it does not depend on chance. -/
def place? : Value → Option UInt64
  | .complex re im => do
    some (complexPlace (← (Quantity.ofBinary64 re).place?) (← (Quantity.ofBinary64 im).place?))
  | .uuid text => some (Numeral.ofInt (uuidNumber text)).place
  | .range start stop step => rangePlace? start step (rangeLength start stop step)
  | .seq .tuple items => (places? items).map tuplePlace
  | .seq .point items => (places? items).map tuplePlace
  | .group .frozen members => (places? members).map groupPlace
  | v => v.quantity?.bind Quantity.place?

/-- The places of several values. -/
def places? : List Value → Option (List UInt64)
  | [] => some []
  | v :: rest => do some ((← place? v) :: (← places? rest))

end

end Value

/-! ### Tables -/

/-- A value with its place. -/
structure Placed where
  place : UInt64
  value : Value

/-- A table of members: its slots, and how many of them are taken. -/
structure MemberTable where
  slots : Array (Option Placed)
  used : Nat

namespace MemberTable

/-- The table of a set without members. -/
def empty : MemberTable := ⟨Array.replicate 8 none, 0⟩

/-- The slot for a new member: a free one among those from `index` on, or else found further on in
at most `fuel` turns, where `place` is what is left of the place. -/
def slotFrom (slots : Array (Option Placed)) : Nat → Nat → Nat → Nat
  | 0, index, _ => index
  | fuel + 1, index, place =>
    let tries := if index + 9 < slots.size then 10 else 1
    let isFree (n : Nat) : Bool := (slots.getD (index + n) none).isNone
    match (List.range tries).find? isFree with
    | some n => index + n
    | none =>
      let place := place / 32
      slotFrom slots fuel ((index * 5 + 1 + place) % slots.size) place

/-- Puts a new member into a free slot. Once nothing is left of the place, the search comes to every
slot in as many turns as there are slots. -/
def seat (slots : Array (Option Placed)) (m : Placed) : Array (Option Placed) :=
  let place := m.place.toNat
  let slot := slotFrom slots (slots.size + 16) (place % slots.size) place
  slots.setIfInBounds slot (some m)

/-- The members in the order of their slots. -/
def members (t : MemberTable) : List Placed := t.slots.toList.filterMap id

/-- The least power of two from `size` on that is above a number, which takes at most `fuel`
doublings. -/
def sizeAbove (n : Nat) : Nat → Nat → Nat
  | 0, size => size
  | fuel + 1, size => if n < size then size else sizeAbove n fuel (2 * size)

/-- The size of a new table for so many members. -/
def sizeFor (used : Nat) : Nat :=
  let least := if 50000 < used then 2 * used else 4 * used
  sizeAbove least least 8

/-- Adds a new member, and replaces the table if it has become too full. -/
def add (t : MemberTable) (m : Placed) : MemberTable :=
  let t : MemberTable := ⟨seat t.slots m, t.used + 1⟩
  if 5 * t.used < 3 * (t.slots.size - 1) then t
  else ⟨t.members.foldl seat (Array.replicate (sizeFor t.used) none), t.used⟩

end MemberTable

/-- The members of a set in order, given as they came: by their slots, if all of them have places.
-/
def memberOrder (members : List Value) : List Value :=
  match members.mapM fun v => v.place?.map (Placed.mk · v) with
  | some placed => (placed.foldl MemberTable.add .empty).members.map (·.value)
  | none => members

end SqlBind
