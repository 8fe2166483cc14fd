/-!
# Decimal Numerals

A decimal numeral is a sign, a whole number of digits, and the power of ten by which they are
scaled: `-1.50` is minus 150 at the power `-2`. The form keeps the value exactly, whatever its
size, and is where every reading of a number from text begins.

## Main definitions

* `Numeral`: the exact value of a numeral.
* `twoTo`, `fiveTo` and `tenTo`: powers of two, of five and of ten.
* `digitsValue`: the number that a run of digits writes.
* `decimalLength` and `decimalDigits`: the number of digits of a natural number, and the digits.
* `paddedDigits`: the digits with zeros in front up to a width.
* `Numeral.ofChars?`: reads digits, a point, digits and an exponent.
* `Numeral.reduced`: the one form of all numerals with the same value.
* `Numeral.whole`: a numeral without its fraction.

## Main results

* `length_paddedDigits`: digits fill the width they are given.
* `decimalLength_tenTo`: ten to a power has one digit more than the power.
-/

namespace SqlBind.Number

/-- Two to a power. -/
def twoTo (n : Nat) : Nat := Nat.pow 2 n

/-- Five to a power. -/
def fiveTo (n : Nat) : Nat := Nat.pow 5 n

/-- Ten to a power. -/
def tenTo (n : Nat) : Nat := Nat.pow 10 n

/-- The value of a decimal digit. -/
def digitValue (c : Char) : Nat := c.toNat - '0'.toNat

/-- The number that a run of decimal digits writes. -/
def digitsValue (digits : List Char) : Nat :=
  digits.foldl (fun n c => n * 10 + digitValue c) 0

/-- The decimal digits of a natural number, first digit first. -/
def decimalDigits (n : Nat) : List Char := Nat.toDigits 10 n

/-- The number of decimal digits of a natural number. -/
def decimalLength (n : Nat) : Nat := (decimalDigits n).length

/-- Ten to a power has one digit more than the power. -/
theorem decimalLength_tenTo (k : Nat) : decimalLength (tenTo k) = k + 1 := by
  have hle : decimalLength (tenTo k) ≤ k + 1 :=
    (Nat.length_toDigits_le_iff (by decide) (Nat.succ_pos k)).mpr
      (Nat.pow_lt_pow_right (by decide) (Nat.lt_succ_self k))
  refine Nat.le_antisymm hle (Nat.lt_of_not_le fun hshort => ?_)
  cases k with
  | zero => exact Nat.not_succ_le_zero 0 hshort
  | succ k =>
    exact Nat.lt_irrefl _ ((Nat.length_toDigits_le_iff (by decide) (Nat.succ_pos k)).mp hshort)

/-- The decimal digits of a number with zeros in front up to a width. -/
def paddedDigits (width n : Nat) : List Char :=
  let digits := decimalDigits n
  List.replicate (width - digits.length) '0' ++ digits

theorem length_paddedDigits {width n : Nat} (h : decimalLength n ≤ width) :
    (paddedDigits width n).length = width := by
  simp only [paddedDigits, decimalLength] at *
  simp only [List.length_append, List.length_replicate]
  omega

/-- The decimal text of an integer. -/
def integerText (i : Int) : List Char :=
  if i < 0 then '-' :: decimalDigits i.natAbs else decimalDigits i.natAbs

/-- A decimal numeral: `coefficient` scaled by ten to the power `exponent`, with a sign. The sign
of zero is kept. -/
structure Numeral where
  negative : Bool
  coefficient : Nat
  exponent : Int
  deriving DecidableEq, Repr, Ord

/-- Moves the zeros at the end of a coefficient into the exponent. -/
def dropZeros (coefficient : Nat) (exponent : Int) : Nat × Int :=
  if coefficient ≠ 0 ∧ coefficient % 10 = 0 then dropZeros (coefficient / 10) (exponent + 1)
  else (coefficient, exponent)
termination_by coefficient
decreasing_by omega

namespace Numeral

/-- Puts a numeral together from its digits before and after the point and its exponent. -/
def ofParts (negative : Bool) (whole fraction : List Char) (exponent : Int) : Numeral :=
  ⟨negative, digitsValue (whole ++ fraction), exponent - fraction.length⟩

/-- Takes a sign off the front of a text; none means plus. -/
def splitSign : List Char → Bool × List Char
  | '-' :: rest => (true, rest)
  | '+' :: rest => (false, rest)
  | rest => (false, rest)

/-- Reads an exponent that ends the text: nothing at all, or a mark, a sign and digits. -/
def exponentOfChars? : List Char → Option Int
  | [] => some 0
  | c :: rest =>
    let (negative, digits) := splitSign rest
    if (c = 'e' || c = 'E') && !digits.isEmpty && digits.all Char.isDigit then
      some (if negative then -(digitsValue digits : Int) else digitsValue digits)
    else none

/-- Reads a numeral that takes up the whole text: a sign, digits with or without a point among
them, and an exponent. -/
def ofChars? (text : List Char) : Option Numeral :=
  let (negative, text) := splitSign text
  let whole := text.takeWhile Char.isDigit
  let (fraction, tail) : List Char × List Char :=
    match text.dropWhile Char.isDigit with
    | '.' :: rest => (rest.takeWhile Char.isDigit, rest.dropWhile Char.isDigit)
    | rest => ([], rest)
  if (whole ++ fraction).isEmpty then none
  else (exponentOfChars? tail).map (ofParts negative whole fraction)

/-- An integer as a numeral. -/
def ofInt (i : Int) : Numeral := ⟨i < 0, i.natAbs, 0⟩

/-- The numeral of the same value whose coefficient does not end in zero. Zero itself has no sign
and the exponent zero. -/
def reduced (n : Numeral) : Numeral :=
  if n.coefficient = 0 then ⟨false, 0, 0⟩
  else
    let (coefficient, exponent) := dropZeros n.coefficient n.exponent
    ⟨n.negative, coefficient, exponent⟩

/-- The power of ten just above the value, without the sign: the number of digits before the
point, if the value has any. -/
def magnitude (n : Numeral) : Int := decimalLength n.coefficient + n.exponent

/-- The value without its fraction, towards zero. A numeral below one is settled without computing
the power of ten. -/
def whole (n : Numeral) : Int :=
  let size :=
    if n.coefficient = 0 || n.magnitude ≤ 0 then 0
    else n.coefficient * tenTo n.exponent.toNat / tenTo (-n.exponent).toNat
  if n.negative then -(size : Int) else size

/-- The value as a quotient of a natural number by a power of ten, without the sign. -/
def ratio (n : Numeral) : Nat × Nat :=
  (n.coefficient * tenTo n.exponent.toNat, tenTo (-n.exponent).toNat)

end Numeral

end SqlBind.Number
