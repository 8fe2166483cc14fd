import SqlBind.Number.Shortest

/-!
# Layouts of Numbers

The digits of a double settle most of its text; what is left is a choice of layout: where the
text changes from a plain number with a point to digits with a power of ten, and how the power is
written. Two layouts are in use, one for the text of a value and one for documents.

## Main definitions

* `Layout`: the choices.
* `Layout.plain`: the layout of values shown in messages.
* `Layout.document`: the layout of numbers in documents, which has no text for what is not finite.
* `Layout.text?`: the text of a double.
-/

namespace SqlBind.Number

/-- How a finite double is laid out. -/
structure Layout where
  /-- The least power of ten of the first digit that is written with a point alone. -/
  pointFrom : Int
  /-- The power of ten of the first digit from which the point is given up. -/
  pointBelow : Int
  /-- What stands before a power of ten that is not negative. -/
  plus : List Char
  /-- The least number of digits of the power. -/
  powerWidth : Nat
  /-- What ends a whole number that is written with a point alone. -/
  wholeEnd : List Char
  /-- The text of what is not a number. -/
  nan : Option String
  /-- The text of positive infinity. -/
  infinity : Option String

namespace Layout

/-- Values in messages: powers of ten from `1e+16` upwards and from `1e-05` downwards. -/
def plain : Layout := ⟨-4, 16, ['+'], 2, ['.', '0'], some "nan", some "inf"⟩

/-- The parts of a complex number: as in `plain`, but a whole number has no point. -/
def plainPart : Layout := { plain with wholeEnd := [] }

/-- Numbers in documents: powers of ten from `1e16` upwards and from `1e-6` downwards. -/
def document : Layout := ⟨-5, 16, [], 1, ['.', '0'], none, none⟩

/-- The text of the power of ten. -/
def powerText (l : Layout) (power : Int) : List Char :=
  let digits := decimalDigits power.natAbs
  'e' :: (if power < 0 then ['-'] else l.plus) ++
    List.replicate (l.powerWidth - digits.length) '0' ++ digits

/-- A run of digits whose first has the power of ten `power`, with a point alone. -/
def pointText (l : Layout) (digits : List Char) (power : Int) : List Char :=
  if power < 0 then
    '0' :: '.' :: List.replicate (-power - 1).toNat '0' ++ digits
  else
    let whole := power.toNat + 1
    if digits.length ≤ whole then
      digits ++ List.replicate (whole - digits.length) '0' ++ l.wholeEnd
    else digits.take whole ++ '.' :: digits.drop whole

/-- A run of digits whose first has the power of ten `power`, as a number with one digit before
the point and the power. -/
def powerForm (l : Layout) (digits : List Char) (power : Int) : List Char :=
  (match digits with
    | first :: second :: rest => first :: '.' :: second :: rest
    | digits => digits) ++ l.powerText power

/-- The text of a double without its sign. -/
def magnitudeText (l : Layout) (significand : Nat) (exponent : Int) : List Char :=
  if significand = 0 then l.pointText ['0'] 0
  else
    let decimal := shortest significand exponent
    let digits := decimalDigits decimal.digits
    let power : Int := digits.length - 1 + decimal.exponent
    if l.pointFrom ≤ power && power < l.pointBelow then l.pointText digits power
    else l.powerForm digits power

/-- The text of a double, where the layout has one. -/
def text? (l : Layout) : Binary64 → Option String
  | .nan => l.nan
  | .infinite negative => l.infinity.map fun s => if negative then "-" ++ s else s
  | .finite negative significand exponent =>
    let magnitude := l.magnitudeText significand exponent
    some (String.ofList (if negative then '-' :: magnitude else magnitude))

end Layout

/-- The text of a double in a message. -/
def Binary64.text (x : Binary64) : String := (Layout.plain.text? x).getD ""

end SqlBind.Number
