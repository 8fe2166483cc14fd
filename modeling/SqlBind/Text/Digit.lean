import SqlBind.Text.Blank

/-!
# Decimal Digits

The decimal digits of version 14 of the Unicode character database. They come in runs of ten, from
zero to nine, so a table of the zeros of all scripts but ASCII says it all. Where a text is read as
a number, every one of them counts as the digit of its value, and every blank as a space.

## Main definitions

* `digitValue?`: the value of a decimal digit of any script.
* `plainDigits`: a text with ASCII digits and spaces in place of the others.
-/

namespace SqlBind.Text

/-- The zeros of the scripts other than ASCII. -/
def foreignZeros : List Nat := [
  0x660, 0x6f0, 0x7c0, 0x966, 0x9e6, 0xa66, 0xae6, 0xb66, 0xbe6, 0xc66, 0xce6, 0xd66, 0xde6,
  0xe50, 0xed0, 0xf20, 0x1040, 0x1090, 0x17e0, 0x1810, 0x1946, 0x19d0, 0x1a80, 0x1a90, 0x1b50,
  0x1bb0, 0x1c40, 0x1c50, 0xa620, 0xa8d0, 0xa900, 0xa9d0, 0xa9f0, 0xaa50, 0xabf0, 0xff10, 0x104a0,
  0x10d30, 0x11066, 0x110f0, 0x11136, 0x111d0, 0x112f0, 0x11450, 0x114d0, 0x11650, 0x116c0,
  0x11730, 0x118e0, 0x11950, 0x11c50, 0x11d50, 0x11da0, 0x16a60, 0x16ac0, 0x16b50, 0x1d7ce,
  0x1d7d8, 0x1d7e2, 0x1d7ec, 0x1d7f6, 0x1e140, 0x1e2f0, 0x1e950, 0x1fbf0]

/-- The value of a decimal digit of any script. -/
def digitValue? (c : Char) : Option Nat :=
  if c.isDigit then some (c.toNat - '0'.toNat)
  else
    (foreignZeros.find? fun least => least ≤ c.toNat && c.toNat < least + 10).map (c.toNat - ·)

/-- A character as part of a number: ASCII stands for itself, a digit for its value, a blank for a
space, and anything else for a mark that no number contains. -/
def plainDigit (c : Char) : Char :=
  if c.toNat < 127 then c
  else if isBlank c then ' '
  else
    match digitValue? c with
    | some n => Nat.digitChar n
    | none => '?'

/-- A text with ASCII digits and spaces in place of digits and blanks of other scripts. -/
def plainDigits (s : String) : List Char := s.toList.map plainDigit

/-- A space, or one of the five control characters that move the print position. -/
def isAsciiBlank (c : Char) : Bool := c = ' ' || (0x09 ≤ c.toNat && c.toNat ≤ 0x0d)

/-- The ASCII digits have their values. -/
theorem digitValue?_of_isDigit {c : Char} (h : c.isDigit = true) :
    digitValue? c = some (c.toNat - '0'.toNat) := by
  simp [digitValue?, h]

end SqlBind.Text
