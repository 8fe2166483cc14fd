import SqlBind.Number.Quantity

/-!
# Decimal Values

A decimal value keeps the text it is written with, so that `1.10` and `1.1` remain two texts of one
number. Its quantity is read off the text when the number matters: a numeral, a signed infinity, or
a text that says it is not a number. Of the latter there are two: a quiet one, which is merely
unequal to everything, and a signalling one, which must not be compared with a number at all.

## Main definitions

* `decimalQuantity`: the quantity of a decimal's text.
* `isSignalling`: whether a decimal's text says that it must not be compared.
-/

namespace SqlBind.Number

/-- The quantity that a decimal's text stands for. -/
def decimalQuantity (text : String) : Quantity :=
  let (negative, rest) := Numeral.splitSign text.toList
  if rest = "Infinity".toList then .infinite negative
  else
    match Numeral.ofChars? text.toList with
    | some n => .ofNumeral n
    | none => .undefined

/-- Whether a decimal's text stands for the signalling value that is not a number. -/
def isSignalling (text : String) : Bool :=
  (Numeral.splitSign text.toList).2.head? = some 's'

end SqlBind.Number
