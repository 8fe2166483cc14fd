import SqlBind.Text.Printable

/-!
# Quoted Text

How a text or a string of bytes is shown inside a message: between quotes, with every character
that a reader could not see written as an escape. Apostrophes are the quotes, unless the content
holds an apostrophe and no quotation mark, when quotation marks are; so a quote inside needs a
backslash only where both kinds occur.

Bytes are shown as the ASCII characters they stand for, and all others by number. In a string of
bytes that can grow an apostrophe has a backslash whatever the quotes are.

## Main definitions

* `hexDigits`: a number in lower-case hexadecimal, padded to a width.
* `quote`: a text between quotes.
* `quoteBytes`: a string of bytes between quotes, after the mark `b`.
* `quoteGrowing`: the same for a string of bytes that can grow.
-/

namespace SqlBind.Text

/-- The lower-case hexadecimal digits of `n`, with zeros in front up to `width`. -/
def hexDigits (width n : Nat) : List Char :=
  let digits := Nat.toDigits 16 n
  List.replicate (width - digits.length) '0' ++ digits

/-- The quote that surrounds a content. -/
def quoteMark (content : List Char) : Char :=
  if content.contains '\'' && !content.contains '"' then '"' else '\''

/-- The escapes that have a letter of their own, for a content between two `mark`s. -/
def letterEscape? (mark c : Char) : Option Char :=
  if c = mark || c = '\\' then some c
  else if c = '\n' then some 'n'
  else if c = '\r' then some 'r'
  else if c = '\t' then some 't'
  else none

/-- One character of a text between two `mark`s: as it stands if it is printable, otherwise by
its number in two, four or eight digits. -/
def quoteChar (mark c : Char) : List Char :=
  match letterEscape? mark c with
  | some e => ['\\', e]
  | none =>
    if isPrintable c then [c]
    else if c.toNat < 0x100 then '\\' :: 'x' :: hexDigits 2 c.toNat
    else if c.toNat < 0x10000 then '\\' :: 'u' :: hexDigits 4 c.toNat
    else '\\' :: 'U' :: hexDigits 8 c.toNat

/-- A text between quotes. -/
def quote (s : String) : String :=
  let content := s.toList
  let mark := quoteMark content
  String.ofList (mark :: content.flatMap (quoteChar mark) ++ [mark])

/-- One byte between two `mark`s: an ASCII character that can be seen, or two digits. -/
def quoteByte (mark : Char) (b : UInt8) : List Char :=
  let c := Char.ofNat b.toNat
  match letterEscape? mark c with
  | some e => ['\\', e]
  | none =>
    if 0x20 ≤ b.toNat && b.toNat ≤ 0x7e then [c] else '\\' :: 'x' :: hexDigits 2 b.toNat

/-- The quote that surrounds a string of bytes. -/
def byteMark (bytes : List UInt8) : Char := quoteMark (bytes.map fun b => Char.ofNat b.toNat)

/-- A string of bytes between quotes, after the mark `b`. -/
def quoteBytes (bytes : List UInt8) : String :=
  let mark := byteMark bytes
  String.ofList ('b' :: mark :: bytes.flatMap (quoteByte mark) ++ [mark])

/-- A string of bytes that can grow between quotes, after the mark `b`. Every apostrophe has a
backslash; a quotation mark never needs one, because it only ever stands between apostrophes. -/
def quoteGrowing (bytes : List UInt8) : String :=
  let mark := byteMark bytes
  String.ofList ('b' :: mark :: bytes.flatMap (quoteByte '\'') ++ [mark])

end SqlBind.Text
