import SqlBind.Json.Document
import SqlBind.Text.Utf8

/-!
# Reading Documents

Strict JSON: nothing may stand around the value but blanks, nothing may be left out or doubled,
numbers have no leading zero and no bare point, strings hold no control character, and an escape
that gives half of a surrogate pair must be followed by the other half. A number without fraction
and exponent is a whole number, and one with too long a text is refused; any other is the nearest
double, and one beyond the greatest double is refused.

The reader works on the symbols of a document, so that text and bytes share one grammar. A stray
byte is refused like any character that does not belong, except inside a string: there the string
is read to its end first, and if nothing else is wrong with it the document is *not text*, which is
a failure of its own. It is another one if arrays and objects lie in each other too deep: the reader
stops at the first that does, whatever may follow it.

Recursion is bounded by the number of symbols: every step into a container, and every step from one
element to the next, leaves at least one symbol behind.

## Main definitions

* `ReadFailure`: the ways to fail.
* `Json.readSymbols`: reads a whole document.
* `Json.ofText` and `Json.ofBytes`: the same, from text and from bytes.
-/

namespace SqlBind

open Number Text

/-- Why a document cannot be read. -/
inductive ReadFailure where
  /-- It does not follow the grammar. -/
  | malformed
  /-- A string in it is not well-formed UTF-8. -/
  | notText
  /-- Arrays and objects lie in each other too deep. -/
  | tooDeep
  deriving DecidableEq, Repr

namespace Json

/-- Whether a symbol is a blank between the parts of a document. -/
def isBlankSymbol : Symbol → Bool
  | .char c => c = ' ' || c = '\n' || c = '\r' || c = '\t'
  | .stray _ => false

/-- What is left after the blanks in front. -/
def skipBlanks (s : List Symbol) : List Symbol := s.dropWhile isBlankSymbol

/-! ### Strings -/

/-- The value of a hexadecimal digit. -/
def hexDigit? : Symbol → Option Nat
  | .char c =>
    if c.isDigit then some (c.toNat - '0'.toNat)
    else if 'a' ≤ c && c ≤ 'f' then some (c.toNat - 'a'.toNat + 10)
    else if 'A' ≤ c && c ≤ 'F' then some (c.toNat - 'A'.toNat + 10)
    else none
  | .stray _ => none

/-- The number that four hexadecimal digits write. -/
def hexCode? (a b c d : Symbol) : Option Nat := do
  let a ← hexDigit? a
  let b ← hexDigit? b
  let c ← hexDigit? c
  let d ← hexDigit? d
  some (((a * 16 + b) * 16 + c) * 16 + d)

/-- The character that a letter after a backslash stands for. -/
def unescapeLetter? (c : Char) : Option Char :=
  if c = '"' || c = '\\' || c = '/' then some c
  else if c = 'n' then some '\n'
  else if c = 'r' then some '\r'
  else if c = 't' then some '\t'
  else if c = 'b' then some '\x08'
  else if c = 'f' then some '\x0c'
  else none

/-- Whether a number is the first half of a surrogate pair. -/
def isHighSurrogate (n : Nat) : Bool := 0xd800 ≤ n && n ≤ 0xdbff

/-- Whether a number is the second half of a surrogate pair. -/
def isLowSurrogate (n : Nat) : Bool := 0xdc00 ≤ n && n ≤ 0xdfff

/-- The second half of a surrogate pair, written as an escape. -/
def lowSurrogate? (x y a b c d : Symbol) : Option Nat :=
  if x = .char '\\' && y = .char 'u' then (hexCode? a b c d).filter isLowSurrogate else none

/-- What a string holds, as far as it is read: its characters, or nothing once a stray byte has
been met; and what follows it. -/
abbrev StringRead := Except ReadFailure (Option (List Char) × List Symbol)

/-- Puts a character in front of what the rest of a string holds. -/
def StringRead.push (c : Char) : StringRead → StringRead
  | .ok (content, rest) => .ok (content.map (c :: ·), rest)
  | .error e => .error e

/-- Notes that a stray byte stands in front of the rest of a string. -/
def StringRead.spoil : StringRead → StringRead
  | .ok (_, rest) => .ok (none, rest)
  | .error e => .error e

/-- Reads a string from behind its opening quotation mark. -/
def readContent : List Symbol → StringRead
  | [] => .error .malformed
  | .stray _ :: rest => (readContent rest).spoil
  | .char c :: rest =>
    if c = '"' then .ok (some [], rest)
    else if c = '\\' then
      match rest with
      | .char e :: rest =>
        if e = 'u' then
          match rest with
          | a :: b :: c :: d :: rest =>
            match hexCode? a b c d with
            | none => .error .malformed
            | some code =>
              if isHighSurrogate code then
                match rest with
                | x :: y :: a :: b :: c :: d :: rest =>
                  match lowSurrogate? x y a b c d with
                  | none => .error .malformed
                  | some low =>
                    let full := 0x10000 + (code - 0xd800) * 0x400 + (low - 0xdc00)
                    (readContent rest).push (Char.ofNat full)
                | _ => .error .malformed
              else if isLowSurrogate code then .error .malformed
              else (readContent rest).push (Char.ofNat code)
          | _ => .error .malformed
        else
          match unescapeLetter? e with
          | none => .error .malformed
          | some c => (readContent rest).push c
      | _ => .error .malformed
    else if c.toNat < 0x20 then .error .malformed
    else (readContent rest).push c

/-- Reads a string from behind its opening quotation mark; one with a stray byte is not text. -/
def readString (s : List Symbol) : Except ReadFailure (String × List Symbol) :=
  match readContent s with
  | .ok (some content, rest) => .ok (String.ofList content, rest)
  | .ok (none, _) => .error .notText
  | .error e => .error e

/-! ### Numbers and words -/

/-- Takes the decimal digits off the front. -/
def takeDigits : List Symbol → List Char × List Symbol
  | [] => ([], [])
  | .stray b :: rest => ([], .stray b :: rest)
  | .char c :: rest =>
    if c.isDigit then
      let (digits, rest) := takeDigits rest
      (c :: digits, rest)
    else ([], .char c :: rest)

/-- Reads the whole part of a number: zero, or digits that do not begin with zero. -/
def readWhole (s : List Symbol) : Except ReadFailure (List Char × List Symbol) :=
  match takeDigits s with
  | ([], _) => .error .malformed
  | ('0' :: _ :: _, _) => .error .malformed
  | read => .ok read

/-- Reads the fraction of a number, if it has one. -/
def readFraction (s : List Symbol) : Except ReadFailure (Option (List Char) × List Symbol) :=
  match s with
  | .char '.' :: rest =>
    match takeDigits rest with
    | ([], _) => .error .malformed
    | (digits, rest) => .ok (some digits, rest)
  | _ => .ok (none, s)

/-- Takes the sign of an exponent off the front. -/
def takeSign : List Symbol → Bool × List Symbol
  | .char '-' :: rest => (true, rest)
  | .char '+' :: rest => (false, rest)
  | rest => (false, rest)

/-- Reads the exponent of a number, if it has one. -/
def readExponent (s : List Symbol) : Except ReadFailure (Option Int × List Symbol) :=
  match s with
  | .char c :: rest =>
    if c = 'e' || c = 'E' then
      let (negative, rest) := takeSign rest
      match takeDigits rest with
      | ([], _) => .error .malformed
      | (digits, rest) =>
        let n : Int := digitsValue digits
        .ok (some (if negative then -n else n), rest)
    else .ok (none, s)
  | _ => .ok (none, s)

/-- A whole number with a sign. -/
def signedInt (negative : Bool) (digits : List Char) : Int :=
  if negative then -(digitsValue digits : Int) else digitsValue digits

/-- How long the text of a whole number may be, its sign included. -/
def maxWholeLength : Nat := 4300

/-- The whole number that a sign and digits write, unless they are too long. -/
def whole? (negative : Bool) (digits : List Char) : Option Int :=
  if digits.length + negative.toNat ≤ maxWholeLength then some (signedInt negative digits) else none

/-- Reads a number from behind its sign. -/
def readUnsigned (negative : Bool) (s : List Symbol) :
    Except ReadFailure (Json × List Symbol) := do
  let (whole, rest) ← readWhole s
  let (fraction, rest) ← readFraction rest
  let (exponent, rest) ← readExponent rest
  match fraction, exponent with
  | none, none =>
    match whole? negative whole with
    | some i => .ok (.int i, rest)
    | none => .error .malformed
  | _, _ =>
    let numeral := Numeral.ofParts negative whole (fraction.getD []) (exponent.getD 0)
    match Binary64.ofNumeral numeral with
    | .finite negative significand exponent =>
      .ok (.float (.finite negative significand exponent), rest)
    | _ => .error .malformed

/-- Reads a number. -/
def readNumber : List Symbol → Except ReadFailure (Json × List Symbol)
  | .char '-' :: rest => readUnsigned true rest
  | s => readUnsigned false s

/-- Takes a given word off the front. -/
def dropWord? : List Char → List Symbol → Option (List Symbol)
  | [], s => some s
  | c :: word, .char d :: rest => if c = d then dropWord? word rest else none
  | _ :: _, _ => none

/-- Reads one of the three words. -/
def readWord (s : List Symbol) : Except ReadFailure (Json × List Symbol) :=
  match dropWord? "null".toList s, dropWord? "true".toList s, dropWord? "false".toList s with
  | some rest, _, _ => .ok (.null, rest)
  | _, some rest, _ => .ok (.bool true, rest)
  | _, _, some rest => .ok (.bool false, rest)
  | _, _, _ => .error .malformed

/-! ### Values -/

mutual

/-- Reads a value that stands at the front, in at most `fuel` nested steps. Arrays and objects in it
may lie in each other as deep as the first argument says. -/
def readValue : Nat → Nat → List Symbol → Except ReadFailure (Json × List Symbol)
  | depth, fuel + 1, .char c :: rest =>
    if c = '"' then do
      let (s, rest) ← readString rest
      .ok (.str s, rest)
    else if c = '[' then
      match depth, skipBlanks rest with
      | 0, _ => .error .tooDeep
      | _ + 1, .char ']' :: rest => .ok (.array [], rest)
      | depth + 1, rest => do
        let (elements, rest) ← readElements depth fuel rest
        .ok (.array elements, rest)
    else if c = '\x7b' then
      match depth, skipBlanks rest with
      | 0, _ => .error .tooDeep
      | _ + 1, .char '\x7d' :: rest => .ok (.object [], rest)
      | depth + 1, rest => do
        let (members, rest) ← readMembers depth fuel rest
        .ok (.object members, rest)
    else if c = '-' || c.isDigit then readNumber (.char c :: rest)
    else readWord (.char c :: rest)
  | _, _, _ => .error .malformed

/-- Reads the elements of an array up to its closing bracket. There is at least one. -/
def readElements : Nat → Nat → List Symbol → Except ReadFailure (List Json × List Symbol)
  | _, 0, _ => .error .malformed
  | depth, fuel + 1, s => do
    let (j, rest) ← readValue depth fuel s
    match skipBlanks rest with
    | .char ']' :: rest => .ok ([j], rest)
    | .char ',' :: rest => do
      let (js, rest) ← readElements depth fuel (skipBlanks rest)
      .ok (j :: js, rest)
    | _ => .error .malformed

/-- Reads the members of an object up to its closing brace. There is at least one. -/
def readMembers : Nat → Nat → List Symbol → Except ReadFailure (List (String × Json) × List Symbol)
  | depth, fuel + 1, .char '"' :: rest => do
    let (name, rest) ← readString rest
    match skipBlanks rest with
    | .char ':' :: rest => do
      let (j, rest) ← readValue depth fuel (skipBlanks rest)
      match skipBlanks rest with
      | .char '\x7d' :: rest => .ok ([(name, j)], rest)
      | .char ',' :: rest => do
        let (members, rest) ← readMembers depth fuel (skipBlanks rest)
        .ok ((name, j) :: members, rest)
      | _ => .error .malformed
    | _ => .error .malformed
  | _, _, _ => .error .malformed

end

/-- Reads a document: one value with nothing but blanks around it. Arrays and objects may lie in
each other as deep as the first argument says. -/
def readSymbols (deepest : Nat) (s : List Symbol) : Except ReadFailure Json := do
  let (j, rest) ← readValue deepest (2 * s.length + 1) (skipBlanks s)
  if (skipBlanks rest).isEmpty then .ok j else .error .malformed

/-- Reads a document from text. -/
def ofText (deepest : Nat) (s : String) : Except ReadFailure Json :=
  readSymbols deepest (symbolsOfText s)

/-- Reads a document from bytes. -/
def ofBytes (deepest : Nat) (bytes : List UInt8) : Except ReadFailure Json :=
  readSymbols deepest (symbolsOfBytes bytes)

end Json

end SqlBind
