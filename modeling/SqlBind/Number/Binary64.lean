import SqlBind.Number.Numeral

/-!
# Double Precision

Floating-point numbers of 64 bits as exact mathematical objects: a number that is neither infinite
nor undefined is a significand below `2 ^ 53` scaled by a power of two, and the exponent has a
least and a greatest value. Reading a decimal rounds its exact value to the nearest such number,
a tie to the even significand, with natural-number arithmetic throughout; nothing here depends on
the arithmetic of the machine.

## Main definitions

* `Binary64`: a double.
* `roundDiv`: a quotient rounded to the nearest natural number, ties to even.
* `Binary64.ofRatio` and `Binary64.ofNumeral`: the double nearest to a quotient or a numeral.
* `Binary64.ofText?`: reads the text of a double.
-/

namespace SqlBind.Number

/-- A quotient rounded to the nearest natural number, a tie to the even one. -/
def roundDiv (num den : Nat) : Nat :=
  let floor := num / den
  let twice := 2 * (num % den)
  if den < twice || (twice = den && floor % 2 = 1) then floor + 1 else floor

/-- A double. The sign of zero is kept; zero has the least exponent, and every other finite number
has either the least exponent or a significand of 53 bits. -/
inductive Binary64 where
  | nan
  | infinite (negative : Bool)
  | finite (negative : Bool) (significand : Nat) (exponent : Int)
  deriving DecidableEq, Repr

namespace Binary64

/-- The exponent of the numbers nearest to zero. -/
def leastExponent : Int := -1074

/-- The exponent of the numbers farthest from zero. -/
def greatestExponent : Int := 971

/-- Zero with a sign. -/
def zero (negative : Bool) : Binary64 := .finite negative 0 leastExponent

/-- The quotient `num / den` measured in units of two to the power `exponent`. -/
def scaleRatio (num den : Nat) (exponent : Int) : Nat × Nat :=
  (num * twoTo (-exponent).toNat, den * twoTo exponent.toNat)

/-- The exponent at which `num / den` has a significand of 53 bits, or the least exponent if that
is greater. -/
def exponentOfRatio (num den : Nat) : Int :=
  let guess : Int := (Nat.log2 num : Int) - Nat.log2 den - 52
  let scaled := scaleRatio num den guess
  max leastExponent (if scaled.1 / scaled.2 < twoTo 52 then guess - 1 else guess)

/-- The double nearest to `num / den`, infinite beyond the greatest. -/
def ofRatio (negative : Bool) (num den : Nat) : Binary64 :=
  if num = 0 then zero negative
  else
    let exponent := exponentOfRatio num den
    let scaled := scaleRatio num den exponent
    let rounded := roundDiv scaled.1 scaled.2
    let (significand, exponent) :=
      if rounded = twoTo 53 then (twoTo 52, exponent + 1) else (rounded, exponent)
    if greatestExponent < exponent then .infinite negative
    else if significand = 0 then zero negative
    else .finite negative significand exponent

/-- The double nearest to a numeral. A numeral of 310 or more digits before the point is beyond
the greatest double, and one that begins 330 or more places after the point is nearer to zero
than to any other; both are settled without computing the power of ten. -/
def ofNumeral (n : Numeral) : Binary64 :=
  let digits : Int := decimalLength n.coefficient + n.exponent
  if n.coefficient = 0 || digits < -330 then zero n.negative
  else if 310 < digits then .infinite n.negative
  else ofRatio n.negative n.ratio.1 n.ratio.2

/-- Reads the text of a double: a numeral, `nan`, or a signed `inf`. -/
def ofText? (s : String) : Option Binary64 :=
  let (negative, rest) := Numeral.splitSign s.toList
  if rest = ['n', 'a', 'n'] then some .nan
  else if rest = ['i', 'n', 'f'] then some (.infinite negative)
  else (Numeral.ofChars? s.toList).map ofNumeral

/-- Whether the number is zero, with either sign. -/
def isZero : Binary64 → Bool
  | .finite _ significand _ => significand = 0
  | _ => false

end Binary64

end SqlBind.Number
