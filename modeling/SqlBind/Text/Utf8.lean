/-!
# UTF-8

A document may arrive as bytes, and not every string of bytes is text. Reading it therefore gives
a list of *symbols*: each is a character, or a stray byte that belongs to no well-formed character
(one that is too long for its value, encodes a surrogate, lies beyond the last code point, or is
cut short). A byte below 128 is always a character of its own, so a stray byte never swallows the
punctuation that follows it, and what a reader of symbols finds at an ASCII character does not
depend on what went wrong before.

## Main definitions

* `Symbol`: a character, or a stray byte.
* `symbolsOfBytes` and `symbolsOfText`: the symbols of a document.
* `utf8Bytes`: the bytes of a text.
-/

namespace SqlBind.Text

/-- A character, or a byte that belongs to none. -/
inductive Symbol where
  | char (c : Char)
  | stray (b : UInt8)
  deriving DecidableEq, Repr

/-- The low six bits of a continuation byte. -/
def continuation? (b : UInt8) : Option Nat :=
  if 0x80 ≤ b.toNat && b.toNat ≤ 0xbf then some (b.toNat - 0x80) else none

/-- The number of continuation bytes that a leading byte asks for, the bits it contributes, and
the least code point that needs so many bytes. -/
def leading? (b : UInt8) : Option (Nat × Nat × Nat) :=
  let n := b.toNat
  if n < 0x80 then some (0, n, 0)
  else if 0xc2 ≤ n && n ≤ 0xdf then some (1, n - 0xc0, 0x80)
  else if 0xe0 ≤ n && n ≤ 0xef then some (2, n - 0xe0, 0x800)
  else if 0xf0 ≤ n && n ≤ 0xf4 then some (3, n - 0xf0, 0x10000)
  else none

/-- Takes `count` continuation bytes after the bits `acc`. -/
def continuations? : Nat → Nat → List UInt8 → Option Nat
  | 0, acc, _ => some acc
  | _ + 1, _, [] => none
  | count + 1, acc, b :: rest => do
    continuations? count (acc * 64 + (← continuation? b)) rest

/-- The character at the front of `b :: rest`, with the number of continuation bytes it takes. -/
def character? (b : UInt8) (rest : List UInt8) : Option (Char × Nat) := do
  let (count, bits, least) ← leading? b
  let n ← continuations? count bits rest
  if least ≤ n && n.isValidChar then some (Char.ofNat n, count) else none

/-- The symbols of a string of bytes. -/
def symbolsOfBytes : List UInt8 → List Symbol
  | [] => []
  | b :: rest =>
    match character? b rest with
    | some (c, count) => .char c :: symbolsOfBytes (rest.drop count)
    | none => .stray b :: symbolsOfBytes rest
termination_by bytes => bytes.length
decreasing_by all_goals simp only [List.length_cons, List.length_drop]; omega

/-- The symbols of a text: its characters. -/
def symbolsOfText (s : String) : List Symbol :=
  s.toList.map .char

/-- The bytes of a text. -/
def utf8Bytes (s : String) : List UInt8 :=
  s.toUTF8.toList

end SqlBind.Text
