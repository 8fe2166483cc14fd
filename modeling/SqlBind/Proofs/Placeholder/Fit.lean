import SqlBind.Placeholder.Basic
import SqlBind.Text.Slice

/-!
# Placeholders that Fit a Statement

Placeholders may be described by hand, so their offsets need not mean anything. They *fit* a
statement if each has its own text at its offset and none begins before the one in front of it ends.
Then the statement falls apart at them: into the gaps before, between and behind them, and their
texts. `Fits` says so of what is left of a statement when some of it lies behind, which is the form
in which a splice goes over it.

## Main definitions

* `Fits`: placeholders that stand in a statement as they say.
* `gaps`: the stretches around the placeholders, as slices of the statement.
* `alternate`: gaps with texts between them.

## Main results

* `Fits.split`: a statement falls apart at each of the placeholders that fit it.
* `Fits.pairwise`: placeholders that fit come one behind the other.
* `Fits.slice_eq_text`: a placeholder that fits is cut out of the statement by its offsets.
* `Fits.alternate_gaps`: gaps and texts make up the statement.
-/

namespace SqlBind.Placeholder

open Text

/-- Placeholders that stand as they say in the rest of a statement, when the part `behind` of it
lies behind. -/
inductive Fits : List Char → List Char → List Placeholder → Prop
  | nil {behind rest : List Char} : Fits behind rest []
  | cons {behind rest : List Char} {p : Placeholder} {ps : List Placeholder} (gap : List Char) :
      p.position = ((behind ++ gap).length : Int) → Fits (behind ++ gap ++ p.text.toList) rest ps →
      Fits behind (gap ++ (p.text.toList ++ rest)) (p :: ps)

/-- The stretches of a statement from the offset `start` on that lie before, between and behind
placeholders. -/
def gaps (sql : List Char) (start : Int) : List Placeholder → List (List Char)
  | [] => [sliceFrom sql start]
  | p :: rest => slice sql start p.position :: gaps sql p.stop rest

/-- Gaps with texts between them, one after the other. -/
def alternate : List (List Char) → List (List Char) → List Char
  | [], _ => []
  | gap :: _, [] => gap
  | gap :: later, text :: texts => gap ++ text ++ alternate later texts

variable {behind gap rest : List Char} {p : Placeholder} {ps : List Placeholder}

/-- Where a placeholder ends that has some characters in front of it. -/
theorem stop_of_position (h : p.position = (behind.length : Int)) :
    p.stop = ((behind ++ p.text.toList).length : Int) := by
  rw [Placeholder.stop, h, List.length_append, String.length_toList, Int.natCast_add]

/-- A gap is cut out by the offsets of what lies behind and of the placeholder it ends at. -/
theorem slice_gap (h : p.position = ((behind ++ gap).length : Int)) :
    slice (behind ++ (gap ++ rest)) behind.length p.position = gap := by
  rw [h, ← List.append_assoc]
  exact slice_middle behind gap rest

namespace Fits

/-- **A statement falls apart at a placeholder that fits it**: the placeholders in front of it fit
the part in front of it, and those behind it the part behind it. -/
theorem split {before after : List Placeholder} (h : Fits behind rest (before ++ p :: after)) :
    ∃ front back, rest = front ++ (p.text.toList ++ back) ∧
      p.position = ((behind ++ front).length : Int) ∧ Fits behind front before ∧
      Fits (behind ++ front ++ p.text.toList) back after := by
  induction before generalizing behind rest with
  | nil =>
      cases h with
      | @cons _ back _ _ gap hposition hback => exact ⟨gap, back, rfl, hposition, .nil, hback⟩
  | cons q before ih =>
      cases h with
      | @cons _ rest _ _ gap hposition hrest =>
          obtain ⟨front, back, rfl, hp, hbefore, hafter⟩ := ih hrest
          have hmove : behind ++ (gap ++ (q.text.toList ++ front)) =
              behind ++ gap ++ q.text.toList ++ front := by simp only [List.append_assoc]
          refine ⟨gap ++ (q.text.toList ++ front), back, ?_, ?_, .cons gap hposition hbefore, ?_⟩
          · simp only [List.append_assoc]
          · rw [hmove, hp]
          · rw [hmove]
            exact hafter

/-- What lies behind ends before a placeholder that fits begins. -/
theorem length_le_position (h : Fits behind rest ps) (hp : p ∈ ps) :
    (behind.length : Int) ≤ p.position := by
  obtain ⟨before, after, rfl⟩ := List.append_of_mem hp
  obtain ⟨front, back, -, hposition, -, -⟩ := h.split
  rw [hposition, List.length_append]
  omega

/-- **Placeholders that fit come one behind the other.** -/
theorem pairwise (h : Fits behind rest ps) : ps.Pairwise fun p q => p.stop ≤ q.position := by
  induction h with
  | nil => exact .nil
  | cons gap hposition hrest ih =>
      refine .cons (fun q hq => ?_) ih
      rw [stop_of_position hposition]
      exact hrest.length_le_position hq

/-- **A placeholder that fits is cut out by its offsets.** -/
theorem slice_eq_text (h : Fits behind rest ps) (hp : p ∈ ps) :
    slice (behind ++ rest) p.position p.stop = p.text.toList := by
  obtain ⟨before, after, rfl⟩ := List.append_of_mem hp
  obtain ⟨front, back, rfl, hposition, -, -⟩ := h.split
  rw [stop_of_position hposition, hposition, ← List.append_assoc, ← List.append_assoc]
  exact slice_middle (behind ++ front) p.text.toList back

/-- **Gaps and texts make up the statement.** -/
theorem alternate_gaps (h : Fits behind rest ps) :
    alternate (gaps (behind ++ rest) behind.length ps) (ps.map (·.text.toList)) = rest := by
  induction h with
  | nil => exact sliceFrom_append _ _
  | @cons behind rest p ps gap hposition hrest ih =>
      have hmove : behind ++ (gap ++ (p.text.toList ++ rest)) =
          behind ++ gap ++ p.text.toList ++ rest := by simp only [List.append_assoc]
      rw [gaps, slice_gap hposition, stop_of_position hposition, List.map_cons, alternate, hmove,
        ih, List.append_assoc]

end Fits

end SqlBind.Placeholder
