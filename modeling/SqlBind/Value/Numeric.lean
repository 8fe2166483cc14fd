import SqlBind.Fault.Cause
import SqlBind.Text.Digit
import SqlBind.Value.Comparison

/-!
# Numbers That Values Stand For

Where a template asks for a number, a value may stand for one without being one. A wrapped text
stands for the number that it writes, with digits of any script, blanks around it, and low lines
between digits. A unique identifier stands for the whole number of its hexadecimal digits. A double
or a decimal stands for its whole part where a whole number is asked for.

Whole numbers of very many digits are neither read from text nor written to it.

## Main definitions

* `wholeOfText`, `doubleOfText`: the number that a text writes.
* `Value.wholePart`: the whole number that a value stands for.
* `Value.double`: the double that a value stands for.
-/

namespace SqlBind

open Number Text

/-- The fault of a template that cannot be filled. -/
def templateFault {α : Type} (problem : TemplateProblem) : Outcome α :=
  .error (.badTemplate problem)

/-- Whether no low line stands anywhere but between two digits. -/
def lowLinesFit : Bool → List Char → Bool
  | _, [] => true
  | afterDigit, c :: rest =>
    (c != '_' || (afterDigit && rest.head?.any Char.isDigit)) && lowLinesFit c.isDigit rest

/-- The whole number that a text writes: between blanks, a sign and decimal digits. -/
def wholeOfText (text : String) : Outcome Int :=
  let (negative, rest) := Numeral.splitSign ((plainDigits text).dropWhile isAsciiBlank)
  let run := rest.takeWhile fun c => c.isDigit || c = '_'
  let digits := run.filter (· != '_')
  if digits.isEmpty || !lowLinesFit false run then templateFault (.noWholeNumber text)
  else if maxDigits < digits.length then templateFault (.tooManyDigits (some digits.length))
  else if (rest.drop run.length).all isAsciiBlank then
    let n : Int := digitsValue digits
    .ok (if negative then -n else n)
  else templateFault (.noWholeNumber text)

/-- The double that a text without blanks at its ends writes: a numeral, or one of the words for
what is not finite, in any case. -/
def doubleOfChars? (text : List Char) : Option Binary64 :=
  let (negative, rest) := Numeral.splitSign text
  let word := String.ofList (rest.map Char.toLower)
  if word = "inf" || word = "infinity" then some (.infinite negative)
  else if word = "nan" then some .nan
  else if lowLinesFit false text then
    (Numeral.ofChars? (text.filter (· != '_'))).map Binary64.ofNumeral
  else none

/-- The double that a text writes, between blanks. -/
def doubleOfText (text : String) : Outcome Binary64 :=
  let front := (plainDigits text).dropWhile isAsciiBlank
  match doubleOfChars? (front.reverse.dropWhile isAsciiBlank).reverse with
  | some x => .ok x
  | none => templateFault (.noDouble text)

namespace Value

/-- The whole part of the quantity of a double or a decimal, towards zero. One with too many digits
to be written is refused here, before they are worked out. -/
def wholeOfQuantity (isDecimal : Bool) : Quantity → Outcome Int
  | .undefined => templateFault (.noWholePart false isDecimal)
  | .infinite _ => templateFault (.noWholePart true isDecimal)
  | .finite n =>
    if isDecimal && n.coefficient != 0 && (maxDigits : Int) < n.magnitude then
      templateFault (.tooManyDigits none)
    else .ok n.whole

/-- The whole number that a value stands for, asked for by the conversion with this letter. -/
def wholePart (v : Value) (letter : Char) : Outcome Int :=
  match v.integer?, v.quantity?, v with
  | some i, _, _ => .ok i
  | none, some q, v => wholeOfQuantity (v matches .decimal _) q
  | none, none, .uuid text => .ok (uuidNumber text)
  | none, none, .wrappedStr text => wholeOfText text
  | none, none, v => templateFault (.noNumber letter false v.qualifiedName)

/-- The integer that a value is, asked for by the conversion with this letter. -/
def properInteger (v : Value) (letter : Char) : Outcome Int :=
  match v.integer? with
  | some i => .ok i
  | none => templateFault (.noNumber letter true v.qualifiedName)

/-- The double nearest to an integer, if there is one. -/
def doubleOfInt (i : Int) : Outcome Binary64 :=
  match Binary64.ofNumeral (.ofInt i) with
  | .infinite _ => templateFault .integerTooLarge
  | x => .ok x

/-- The double nearest to a decimal. -/
def doubleOfDecimal (text : String) : Outcome Binary64 :=
  match decimalQuantity text with
  | .undefined => if isSignalling text then templateFault .signalNoDouble else .ok .nan
  | .infinite negative => .ok (.infinite negative)
  | .finite _ => .ok (((Numeral.ofChars? text.toList).map Binary64.ofNumeral).getD .nan)

/-- The double that a value stands for. -/
def double (v : Value) : Outcome Binary64 :=
  match v.integer?, v with
  | some i, _ => doubleOfInt i
  | none, .float x => .ok x
  | none, .decimal text => doubleOfDecimal text
  | none, .wrappedStr text => doubleOfText text
  | none, v => templateFault (.noReal v.qualifiedName)

end Value

end SqlBind
