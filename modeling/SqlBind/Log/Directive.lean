import SqlBind.Number.Precision
import SqlBind.Text.CodePoint
import SqlBind.Value.Numeric

/-!
# Conversions of Templates

A conversion turns a value into text: as it is, by its description, by its description in ASCII, as
a whole number in base 10, 8 or 16, as a double to a given precision, or as a single character. Five
flags, a width and a precision refine it. The precision cuts a text short, or is the least number of
digits of a whole number, or the precision of a double. The width is filled up: on the left with
spaces, with the sign close to the digits, or with zeros behind the sign; or on the right.

## Main definitions

* `Directive`: the flags, the width, the precision and the letter of a conversion.
* `Directive.convert`: the text of a value.

## Main results

* `Directive.width_le_length_lay`: a laid out text is at least as long as the width.
-/

namespace SqlBind.Log

open Number Text

/-- A conversion. -/
structure Directive where
  /-- Fills the width up on the right. -/
  left : Bool
  /-- Writes a plus before a number that is not negative. -/
  plus : Bool
  /-- Writes a space before a number that is not negative. -/
  blank : Bool
  /-- Writes the base of a whole number, or the point of a double that needs none. -/
  full : Bool
  /-- Fills the width of a number up with zeros. -/
  zeros : Bool
  width : Nat
  precision : Option Nat
  letter : Char
  deriving Repr

/-- A text in ASCII: every other character by its number. -/
def asciiText (s : String) : List Char :=
  s.toList.flatMap fun c =>
    let n := c.toNat
    if n < 0x80 then [c]
    else if n < 0x100 then '\\' :: 'x' :: hexDigits 2 n
    else if n < 0x10000 then '\\' :: 'u' :: hexDigits 4 n
    else '\\' :: 'U' :: hexDigits 8 n

namespace Directive

/-- A text cut at the precision. -/
def cut (d : Directive) (text : List Char) : List Char :=
  match d.precision with
  | some n => text.take n
  | none => text

/-- Lays a text out: a sign, what stands between sign and digits, and the body. -/
def lay (d : Directive) (isNumber : Bool) (sign lead body : List Char) : List Char :=
  let missing := d.width - (sign.length + lead.length + body.length)
  if d.left then sign ++ lead ++ body ++ List.replicate missing ' '
  else if d.zeros && isNumber then sign ++ lead ++ List.replicate missing '0' ++ body
  else List.replicate missing ' ' ++ sign ++ lead ++ body

/-- A laid out text is at least as long as the width. -/
theorem width_le_length_lay {d : Directive} {isNumber : Bool} {sign lead body : List Char} :
    d.width ≤ (d.lay isNumber sign lead body).length := by
  unfold lay
  split
  · simp only [List.length_append, List.length_replicate]
    omega
  · split <;> simp only [List.length_append, List.length_replicate] <;> omega

/-- The sign of a number. -/
def sign (d : Directive) (negative : Bool) : List Char :=
  if negative then ['-'] else if d.plus then ['+'] else if d.blank then [' '] else []

/-- A text that is no number, laid out. -/
def layText (d : Directive) (text : List Char) : List Char := d.lay false [] [] text

/-- A number given by its text, whose sign if any is a minus in front, laid out. -/
def layNumber (d : Directive) (text : List Char) : List Char :=
  match text with
  | '-' :: body => d.lay true (d.sign true) [] body
  | body => d.lay true (d.sign false) [] body

/-- A whole number in a base, laid out; in upper case if asked for. -/
def layWhole (d : Directive) (base : Nat) (upper : Bool) (i : Int) : List Char :=
  let digits := Nat.toDigits base i.natAbs
  let padded := List.replicate (d.precision.getD 0 - digits.length) '0' ++ digits
  let lead := if d.full && base != 10 then ['0', d.letter] else []
  d.lay true (d.sign (i < 0)) lead (if upper then padded.map Char.toUpper else padded)

/-- The greatest number of digits that a whole number can be asked for. -/
def maxPrecision : Nat := twoTo 31 - 4

/-- A whole number in a base, laid out, unless it is asked for with too many digits. -/
def layInteger (d : Directive) (base : Nat) (upper : Bool) (i : Int) : Outcome (List Char) :=
  if maxPrecision < d.precision.getD 0 then templateFault .precisionBeyond
  else if base = 10 && maxDigits < decimalLength i.natAbs then templateFault (.tooManyDigits none)
  else .ok (d.layWhole base upper i)

/-- A double in a form, laid out; in upper case if asked for. -/
def layDouble (d : Directive) (form : PrecisionForm) (upper : Bool) (x : Binary64) : List Char :=
  let text := precisionText form d.full (d.precision.getD 6) x
  d.layNumber (if upper then text.map Char.toUpper else text)

/-- The code point that a value is or has the number of. -/
def codePoint (v : Value) : Outcome CodePoint :=
  match v, v.integer? with
  | .str s, _ =>
    match s.toList with
    | [c] => .ok (.char c)
    | _ => templateFault .noCharacter
  | _, some i =>
    if 0 ≤ i && i.toNat < 0x110000 then .ok (.ofNat i.toNat) else templateFault .characterBeyond
  | _, none => templateFault .noCharacter

/-- A code point, laid out. -/
def layCodePoint (d : Directive) (p : CodePoint) : CodeText :=
  let missing := CodeText.ofChars (List.replicate (d.width - 1) ' ')
  if d.left then p :: missing else missing ++ [p]

/-- The text of a value under a conversion that does not ask for a code point, whose letter stands
at `index`. -/
def writeChars (d : Directive) (index : Nat) (v : Value) : Outcome (List Char) :=
  match d.letter with
  | 's' => return d.layText (d.cut (← ofDisplay v.text).toList)
  | 'r' => return d.layText (d.cut (← ofDisplay v.describe).toList)
  | 'a' => return d.layText (d.cut (asciiText (← ofDisplay v.describe)))
  | 'd' | 'i' | 'u' => do d.layInteger 10 false (← v.wholePart d.letter)
  | 'o' => do d.layInteger 8 false (← v.properInteger d.letter)
  | 'x' => do d.layInteger 16 false (← v.properInteger d.letter)
  | 'X' => do d.layInteger 16 true (← v.properInteger d.letter)
  | 'e' => return d.layDouble .power false (← v.double)
  | 'E' => return d.layDouble .power true (← v.double)
  | 'f' => return d.layDouble .fixed false (← v.double)
  | 'F' => return d.layDouble .fixed true (← v.double)
  | 'g' => return d.layDouble .general false (← v.double)
  | 'G' => return d.layDouble .general true (← v.double)
  | letter => templateFault (.unknownConversion letter index)

/-- The text of a value under a conversion, whose letter stands at `index`, where memory is no
concern. -/
def write (d : Directive) (index : Nat) (v : Value) : Outcome CodeText :=
  match d.letter with
  | 'c' => return d.layCodePoint (← codePoint v)
  | _ => return .ofChars (← d.writeChars index v)

/-- The widths from here on are beyond all memory. -/
def widthBound : Nat := twoTo 40

/-- The text of a value under a conversion, whose letter stands at `index`. That a width is beyond
all memory shows only where nothing else is wrong. -/
def convert (d : Directive) (index : Nat) (v : Value) : Outcome CodeText := do
  if d.width < widthBound then d.write index v
  else
    let _ ← { d with width := 0 }.write index v
    templateFault .beyondMemory

end Directive

end SqlBind.Log
