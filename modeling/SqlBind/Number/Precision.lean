import SqlBind.Number.Shortest

/-!
# Numbers to a Given Precision

A double written with a number of digits that somebody asks for, rounded from its exact value to the
nearest, a tie to the even digit. There are three forms. The *fixed* form has that many digits
behind the point. The *power* form has one digit before the point, that many behind it, and a power
of ten of at least two digits. The *general* form has that many digits in all; it is fixed unless
the power of ten of the first digit is below -4 or leaves no digit behind the point, and it drops
zeros at the end.

The *full* variants keep the point where nothing follows it, and the general one keeps its zeros.

## Main definitions

* `PrecisionForm` and `precisionText`: the text of a double in one of the forms.
-/

namespace SqlBind.Number

/-- The forms of a number to a given precision. -/
inductive PrecisionForm where
  | fixed
  | power
  | general
  deriving DecidableEq, Repr

/-- The first `count` digits of `num / den`, rounded, with the power of ten of the first. -/
def leadingDigits (num den count : Nat) : List Char × Int :=
  if num = 0 then (List.replicate count '0', 0)
  else
    let power := leadingPower num den
    let shift : Int := count - 1 - power
    let n := roundDiv (num * tenTo shift.toNat) (den * tenTo (-shift).toNat)
    if tenTo count ≤ n then (paddedDigits count (n / 10), power + 1)
    else (paddedDigits count n, power)

/-- A whole part and a fraction with a point between them, which may go if nothing follows it. -/
def pointed (full : Bool) (whole fraction : List Char) : List Char :=
  if fraction.isEmpty && !full then whole else whole ++ '.' :: fraction

/-- The text of a power of ten, with a sign and at least two digits. -/
def signedPower (power : Int) : List Char :=
  'e' :: (if power < 0 then '-' else '+') :: paddedDigits 2 power.natAbs

/-- Drops the zeros at the end of a run of digits. -/
def dropFinalZeros (digits : List Char) : List Char :=
  (digits.reverse.dropWhile (· = '0')).reverse

/-- The text of `num / den` in a form. -/
def quotientText (form : PrecisionForm) (full : Bool) (precision num den : Nat) : List Char :=
  match form with
  | .fixed =>
    let digits := paddedDigits (precision + 1) (roundDiv (num * tenTo precision) den)
    let whole := digits.length - precision
    pointed full (digits.take whole) (digits.drop whole)
  | .power =>
    let (digits, power) := leadingDigits num den (precision + 1)
    pointed full (digits.take 1) (digits.drop 1) ++ signedPower power
  | .general =>
    let count := max precision 1
    let (digits, power) := leadingDigits num den count
    let trimmed (fraction : List Char) := if full then fraction else dropFinalZeros fraction
    if power < -4 || (count : Int) ≤ power then
      pointed full (digits.take 1) (trimmed (digits.drop 1)) ++ signedPower power
    else if power < 0 then
      pointed full ['0'] (trimmed (List.replicate (-power - 1).toNat '0' ++ digits))
    else
      let whole := power.toNat + 1
      pointed full (digits.take whole) (trimmed (digits.drop whole))

/-- The text of a double in a form. -/
def precisionText (form : PrecisionForm) (full : Bool) (precision : Nat) : Binary64 → List Char
  | .nan => "nan".toList
  | .infinite negative => (if negative then "-inf" else "inf").toList
  | .finite negative significand exponent =>
    let magnitude := quotientText form full precision (significand * twoTo exponent.toNat)
      (twoTo (-exponent).toNat)
    if negative then '-' :: magnitude else magnitude

end SqlBind.Number
