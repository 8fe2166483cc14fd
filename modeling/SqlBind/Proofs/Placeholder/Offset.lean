import Mathlib.Data.List.Chain
import SqlBind.Proofs.Placeholder.Fit

/-!
# Fitting by Offsets

That placeholders fit a statement (`SqlBind.Placeholder.Fits`) is said by taking it apart. Somebody
who describes placeholders by hand knows their offsets only, and these say as much: none is
negative, each placeholder begins where the one in front of it ends or later, the last one ends
within the statement, and the text of each stands between its offsets (`FitsByOffset`, `fits_iff`).
Names and ranks do not matter, and texts need not be tokens; they may be empty.

Some of the placeholders that fit a statement fit it, too (`Fits.sublist`).

## Main results

* `fits_iff`: placeholders fit a statement exactly if their offsets say so.
* `Fits.sublist`: leaving placeholders out.
-/

namespace SqlBind.Placeholder

open Text

/-- Placeholders that fit a statement, by their offsets. -/
structure FitsByOffset (sql : List Char) (ps : List Placeholder) : Prop where
  /-- No offset counts from the end. -/
  nonneg : ∀ p ∈ ps, 0 ≤ p.position
  /-- Each placeholder begins where the one in front of it ends, or later. -/
  ordered : ps.IsChain fun p q => p.stop ≤ q.position
  /-- The last one ends where the statement does, or earlier. -/
  inside : ∀ p, ps.getLast? = some p → p.stop ≤ sql.length
  /-- The text of each stands between its offsets. -/
  slice_eq_text : ∀ p ∈ ps, slice sql p.position p.stop = p.text.toList

variable {behind gap rest sql : List Char} {p : Placeholder} {ps qs : List Placeholder}

/-! ### From the parts to the offsets -/

/-- A placeholder that fits ends within the statement. -/
theorem Fits.stop_le_length (h : Fits behind rest ps) (hp : p ∈ ps) :
    p.stop ≤ ((behind ++ rest).length : Int) := by
  obtain ⟨before, after, rfl⟩ := List.append_of_mem hp
  obtain ⟨front, back, rfl, hposition, -, -⟩ := h.split
  rw [stop_of_position hposition]
  simp only [List.length_append]
  omega

/-! ### From the offsets to the parts -/

/-- No placeholder ends before it begins. -/
theorem position_le_stop (p : Placeholder) : p.position ≤ p.stop := by
  rw [Placeholder.stop]
  omega

/-- If the last of several placeholders in order ends before an offset, then all of them do. -/
theorem stop_le_of_isChain {n : Int} (hordered : ps.IsChain fun p q => p.stop ≤ q.position)
    (hlast : ∀ p, ps.getLast? = some p → p.stop ≤ n) : ∀ p ∈ ps, p.stop ≤ n := by
  induction ps with
  | nil => exact fun p hp => nomatch hp
  | cons p rest ih =>
      cases rest with
      | nil =>
          rw [List.forall_mem_singleton]
          exact hlast p rfl
      | cons q rest =>
          obtain ⟨hle, hrest⟩ := List.isChain_cons_cons.mp hordered
          have hlater := ih hrest fun l hl => hlast l (by rwa [List.getLast?_cons_cons])
          have hq := hlater q List.mem_cons_self
          have hpq := position_le_stop q
          exact List.forall_mem_cons.mpr ⟨by omega, hlater⟩

/-- A placeholder whose text stands between its offsets divides what does not lie behind. -/
theorem exists_split_of_slice (hstart : (behind.length : Int) ≤ p.position)
    (hstop : p.stop ≤ ((behind ++ rest).length : Int))
    (htext : slice (behind ++ rest) p.position p.stop = p.text.toList) :
    ∃ gap later, rest = gap ++ (p.text.toList ++ later) ∧
      p.position = ((behind ++ gap).length : Int) := by
  obtain ⟨n, hn⟩ : ∃ n : Nat, p.position = ((behind.length + n : Nat) : Int) :=
    ⟨(p.position - behind.length).toNat, by omega⟩
  have hstop' : p.stop = ((behind.length + n + p.text.length : Nat) : Int) := by
    rw [Placeholder.stop, hn]
    omega
  have hle : behind.length + n + p.text.length ≤ (behind ++ rest).length := by omega
  rw [hn, hstop', slice_of_le (by omega) hle, List.drop_length_add_append,
    Nat.add_sub_cancel_left] at htext
  refine ⟨rest.take n, (rest.drop n).drop p.text.length, ?_, ?_⟩
  · rw [← htext, List.take_append_drop, List.take_append_drop]
  · rw [List.length_append] at hle
    rw [hn, List.length_append, List.length_take, Nat.min_eq_left (by omega)]

/-- Placeholders in order that stand between their offsets, the first of them not in what lies
behind, fit the rest. -/
theorem fits_of_offsets (hstart : ∀ p, ps.head? = some p → (behind.length : Int) ≤ p.position)
    (hordered : ps.IsChain fun p q => p.stop ≤ q.position)
    (hinside : ∀ p ∈ ps, p.stop ≤ ((behind ++ rest).length : Int))
    (htext : ∀ p ∈ ps, slice (behind ++ rest) p.position p.stop = p.text.toList) :
    Fits behind rest ps := by
  induction ps generalizing behind rest with
  | nil => exact .nil
  | cons p ps ih =>
      obtain ⟨hp, hps⟩ := List.forall_mem_cons.mp hinside
      obtain ⟨hptext, hpstext⟩ := List.forall_mem_cons.mp htext
      obtain ⟨gap, later, rfl, hposition⟩ := exists_split_of_slice (hstart p rfl) hp hptext
      have hmove : behind ++ (gap ++ (p.text.toList ++ later)) =
          behind ++ gap ++ p.text.toList ++ later := by simp only [List.append_assoc]
      rw [hmove] at hps hpstext
      refine .cons gap hposition (ih (fun q hq => ?_) hordered.tail hps hpstext)
      rw [← stop_of_position hposition]
      exact hordered.rel_head? hq

/-- **Placeholders fit a statement exactly if their offsets say so.** -/
theorem fits_iff : Fits [] sql ps ↔ FitsByOffset sql ps := by
  constructor
  · intro h
    exact ⟨fun p hp => h.length_le_position hp, h.pairwise.isChain,
      fun p hp => h.stop_le_length (List.mem_of_getLast? hp), fun p hp => h.slice_eq_text hp⟩
  · intro h
    have hinside := stop_le_of_isChain h.ordered h.inside
    exact fits_of_offsets (fun p hp => h.nonneg p (List.mem_of_head? hp)) h.ordered hinside
      h.slice_eq_text

/-! ### Leaving placeholders out -/

/-- What lies behind may be counted to the rest, as a part of the gap that comes first. -/
theorem Fits.of_append (h : Fits (behind ++ gap) rest ps) : Fits behind (gap ++ rest) ps := by
  cases h with
  | nil => exact .nil
  | @cons _ rest p ps gap' hposition hrest =>
      rw [← List.append_assoc]
      refine .cons (gap ++ gap') ?_ ?_
      · rw [hposition, List.append_assoc]
      · rwa [← List.append_assoc behind]

/-- **Some of the placeholders that fit a statement fit it**, too. -/
theorem Fits.sublist (h : Fits behind rest ps) (hqs : qs.Sublist ps) : Fits behind rest qs := by
  induction h generalizing qs with
  | nil =>
      obtain rfl := List.sublist_nil.mp hqs
      exact .nil
  | @cons behind rest p ps gap hposition hrest ih =>
      cases hqs with
      | cons _ hqs =>
          have h := ih hqs
          rw [List.append_assoc] at h
          rw [← List.append_assoc]
          exact h.of_append
      | cons_cons _ hqs => exact .cons gap hposition (ih hqs)

end SqlBind.Placeholder
