import SqlBind.Text.Quoted
import SqlBind.Value.Display

/-!
# Problems with Templates

What can go wrong when the conversions of a template are filled with arguments: the template may be
at fault, or the arguments may be too few, too many, or of a kind that a conversion has no use for.

## Main definitions

* `TemplateProblem`: the problems, with their `message`.
-/

namespace SqlBind

open Text

/-- What can go wrong when a template is filled. -/
inductive TemplateProblem where
  /-- Arguments are left over. -/
  | argumentsLeft
  /-- An argument is missing. -/
  | argumentsMissing
  /-- A conversion asks for a key, but the argument is no mapping. -/
  | noMapping
  /-- A conversion asks for a key that the mapping lacks. -/
  | missingKey (key : String)
  /-- A key has no end. -/
  | incompleteKey
  /-- The template ends within a conversion. -/
  | incompleteConversion
  /-- A conversion has a letter that is not known. -/
  | unknownConversion (letter : Char) (index : Nat)
  /-- A width or precision, taken from an argument, is no integer. -/
  | measureNoInteger
  /-- A width or precision, taken from an argument, is beyond what can be counted. -/
  | measureBeyond (isWidth : Bool)
  /-- A width or precision, written in the template, is beyond what can be counted. -/
  | measureTooBig (isWidth : Bool)
  /-- A width is beyond all memory. -/
  | beyondMemory
  /-- A whole number is asked for with more digits than can be counted. -/
  | precisionBeyond
  /-- A number is asked for. -/
  | noNumber (letter : Char) (isInteger : Bool) (typeName : String)
  /-- A double is asked for. -/
  | noReal (typeName : String)
  /-- A double or a decimal has no whole part. -/
  | noWholePart (isInfinite isDecimal : Bool)
  /-- A text does not write a whole number. -/
  | noWholeNumber (text : String)
  /-- A text does not write a double. -/
  | noDouble (text : String)
  /-- A decimal that must not be compared has no double. -/
  | signalNoDouble
  /-- An integer is beyond the greatest double. -/
  | integerTooLarge
  /-- A whole number has too many digits: so many as a text writes, or as would have to be
  written. -/
  | tooManyDigits (written : Option Nat)
  /-- A character or its number is asked for. -/
  | noCharacter
  /-- No character has the number. -/
  | characterBeyond
  deriving DecidableEq, Repr

namespace TemplateProblem

/-- The letter of a conversion as a message shows it: a question mark where it cannot be seen. -/
def shownLetter (letter : Char) : Char :=
  if 31 ≤ letter.toNat && letter.toNat < 127 then letter else '?'

/-- The words of a problem. -/
def message : TemplateProblem → String
  | .argumentsLeft => "not all arguments converted during string formatting"
  | .argumentsMissing => "not enough arguments for format string"
  | .noMapping => "format requires a mapping"
  | .missingKey key => quote key
  | .incompleteKey => "incomplete format key"
  | .incompleteConversion => "incomplete format"
  | .unknownConversion letter index =>
    "unsupported format character '" ++ String.ofList [shownLetter letter] ++ "' (0x" ++
      String.ofList (hexDigits 1 letter.toNat) ++ ") at index " ++ intText index
  | .measureNoInteger => "* wants int"
  | .measureBeyond isWidth =>
    "Python int too large to convert to C " ++ (if isWidth then "ssize_t" else "int")
  | .measureTooBig isWidth => (if isWidth then "width" else "precision") ++ " too big"
  | .beyondMemory => ""
  | .precisionBeyond => "precision too large"
  | .noNumber letter isInteger typeName =>
    "%" ++ String.ofList [letter] ++ " format: " ++
      (if isInteger then "an integer" else "a real number") ++ " is required, not " ++ typeName
  | .noReal typeName => "must be real number, not " ++ typeName
  | .noWholePart isInfinite isDecimal =>
    let name := match isInfinite, isDecimal with
      | true, true => "Infinity"
      | true, false => "float infinity"
      | false, true => "NaN"
      | false, false => "float NaN"
    "cannot convert " ++ name ++ " to integer"
  | .noWholeNumber text =>
    "invalid literal for int() with base 10: " ++ String.ofList ((quote text).toList.take 200)
  | .noDouble text => "could not convert string to float: " ++ quote text
  | .signalNoDouble => "cannot convert signaling NaN to float"
  | .integerTooLarge => "int too large to convert to float"
  | .tooManyDigits written => tooManyDigitsMessage written
  | .noCharacter => "%c requires int or char"
  | .characterBeyond => "%c arg not in range(0x110000)"

end TemplateProblem

end SqlBind
