/-!
# Stretches of a Text

Whether a text stands somewhere within another one. The empty text stands in every text.

## Main definitions

* `Text.standsIn`: the test.

## Main results

* `Text.standsIn_iff`: it finds a text exactly where something before and something behind it make
  up the whole.
-/

namespace SqlBind.Text

/-- Whether a text stands somewhere within another one. -/
def standsIn (part : List Char) : List Char → Bool
  | [] => part.isEmpty
  | c :: rest => part.isPrefixOf (c :: rest) || standsIn part rest

/-- A text stands within another exactly where something before and something behind it make up
the whole. -/
theorem standsIn_iff {part whole : List Char} : standsIn part whole = true ↔ part <:+: whole := by
  induction whole with
  | nil => simp [standsIn]
  | cons c rest ih =>
    rw [standsIn, Bool.or_eq_true, ih, List.isPrefixOf_iff_prefix, List.infix_cons_iff]

end SqlBind.Text
