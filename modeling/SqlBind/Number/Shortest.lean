import SqlBind.Number.Binary64

/-!
# Shortest Decimals

The shortest decimal of a double is the one with the fewest digits among those that read back as
the same double and, of two such, the nearer to its exact value. A double is what every real in an
interval around it is rounded to, the two ends included when its significand is even; so the
question is which is the coarsest decimal grid with a point in the interval. If a grid has a point
there then one of the two grid points around the double itself is there, so only these two are
tried on each grid, in exact arithmetic, for one digit, two digits and so on. Seventeen digits
always suffice.

## Main definitions

* `Decimal`: a run of digits scaled by a power of ten.
* `shortest`: the shortest decimal of a double that is not zero.
-/

namespace SqlBind.Number

/-- A positive decimal: `digits` scaled by ten to the power `exponent`. -/
structure Decimal where
  digits : Nat
  exponent : Int
  deriving DecidableEq, Repr

/-- The reals that are rounded to one double, in a common denominator: its exact value, the two
ends of the interval, and whether the ends belong to it. -/
structure RoundingInterval where
  value : Nat
  low : Nat
  high : Nat
  denominator : Nat
  closed : Bool

/-- The interval of the double with this significand and exponent. Its lower half is narrower
where the significand is the least of 53 bits, since the doubles below lie closer together. -/
def roundingInterval (significand : Nat) (exponent : Int) : RoundingInterval :=
  let below :=
    if significand = twoTo 52 && Binary64.leastExponent < exponent then 1 else 2
  let unit := twoTo (exponent - 2).toNat
  { value := 4 * significand * unit
    low := (4 * significand - below) * unit
    high := (4 * significand + 2) * unit
    denominator := twoTo (2 - exponent).toNat
    closed := significand % 2 = 0 }

/-- The power of ten at or below `num / den`. -/
def leadingPower (num den : Nat) : Int :=
  let guess : Int := (decimalLength num : Int) - decimalLength den
  if den * tenTo guess.toNat ≤ num * tenTo (-guess).toNat then guess else guess - 1

/-- The grid point of `interval` at the power `exponent` that is nearest to its value, if one of
the two around the value lies in the interval. -/
def gridPoint? (interval : RoundingInterval) (exponent : Int) : Option Nat :=
  let unit := interval.denominator * tenTo exponent.toNat
  let scale := tenTo (-exponent).toNat
  let value := interval.value * scale
  let low := interval.low * scale
  let high := interval.high * scale
  let inside (point : Nat) : Bool :=
    if interval.closed then low ≤ point * unit && point * unit ≤ high
    else low < point * unit && point * unit < high
  let floor := value / unit
  let nearest := roundDiv value unit
  let other := if nearest = floor then floor + 1 else floor
  if inside nearest then some nearest
  else if inside other then some other
  else none

/-- Drops the zeros at the end of the digits. -/
def Decimal.normalize (d : Decimal) : Decimal :=
  let zeros := ((decimalDigits d.digits).reverse.takeWhile (· = '0')).length
  if d.digits = 0 then d else ⟨d.digits / tenTo zeros, d.exponent + zeros⟩

/-- The shortest decimal of the double with this significand, which is not zero, and exponent. -/
def shortest (significand : Nat) (exponent : Int) : Decimal :=
  let interval := roundingInterval significand exponent
  let power := leadingPower interval.value interval.denominator
  let grids := (List.range 17).map fun (n : Nat) => power - n
  let found := grids.findSome? fun grid => (gridPoint? interval grid).map (Decimal.mk · grid)
  (found.getD ⟨interval.value, 0⟩).normalize

end SqlBind.Number
