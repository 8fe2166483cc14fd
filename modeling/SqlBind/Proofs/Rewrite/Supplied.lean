import SqlBind.Proofs.Placeholder.Grammar
import SqlBind.Proofs.Placeholder.Offset
import SqlBind.Proofs.Rewrite.OnePass
import SqlBind.Rewrite.Rewritten

/-!
# Supplied Placeholders

A conversion trusts the placeholders that it is given. If they fit the statement by their offsets,
it replaces their spans and nothing else (`convert_supplied`): the statement falls apart at the
spans whose names are bound, and in the converted statement the same gaps stand around marks. Texts
need not be tokens, spans may be empty or touch each other, and a token that is not listed is an
ordinary part of a gap, whatever its name is bound to.

The splice copies a gap in front of every placeholder, also of one that is left as it is. The
invariant that carries the induction counts the text of such a one, too, to the gap that lies open
(`gap_append_splice`).

## Main definitions

* `boundSpans`: the placeholders with bound names, with what these are bound to.
* `ReplacesSpans`: a conversion that replaces given spans by marks.

## Main results

* `gap_append_splice`: splicing writes gaps and marks in turns.
* `convert_supplied`: converting with placeholders that fit.
-/

namespace SqlBind

open Placeholder Text

/-- The placeholders whose names are bound, with what they are bound to. -/
def boundSpans (bindings : Value) (ps : List Placeholder) : List (Placeholder × Value) :=
  ps.filterMap fun p => (bindings.find? p.name).map (p, ·)

/-- What a conversion has to be that replaces spans of a statement by the marks of values. -/
structure ReplacesSpans (sql : List Char) (spans : List (Placeholder × Value)) (c : Conversion) :
    Prop where
  /-- The statement consists of the gaps around the spans, and of their texts. -/
  before : alternate (gaps sql 0 (spans.map (·.1))) (spans.map (·.1.text.toList)) = sql
  /-- The converted statement consists of the same gaps, and of marks. -/
  after : c.sql.toList = alternate (gaps sql 0 (spans.map (·.1))) (spans.map (·.2.marks))
  /-- The parameters are what the marks stand for, in the same order. -/
  parameters : c.parameters = spans.flatMap (·.2.parts)

variable {bindings : Value} {p : Placeholder} {ps : List Placeholder}

/-! ### Bound spans -/

/-- A placeholder whose name is not bound is left out. -/
theorem boundSpans_cons_of_none (h : bindings.find? p.name = none) :
    boundSpans bindings (p :: ps) = boundSpans bindings ps := by
  rw [boundSpans, List.filterMap_cons_none (by rw [h, Option.map_none]), ← boundSpans]

/-- A placeholder whose name is bound comes with its value. -/
theorem boundSpans_cons_of_some {v : Value} (h : bindings.find? p.name = some v) :
    boundSpans bindings (p :: ps) = (p, v) :: boundSpans bindings ps := by
  rw [boundSpans, List.filterMap_cons_some (by rw [h, Option.map_some]), ← boundSpans]

/-- Bound spans are some of the placeholders, in their order. -/
theorem map_fst_boundSpans_sublist (bindings : Value) (ps : List Placeholder) :
    ((boundSpans bindings ps).map (·.1)).Sublist ps := by
  induction ps with
  | nil => exact .slnil
  | cons p rest ih =>
      cases hfind : bindings.find? p.name with
      | none =>
          rw [boundSpans_cons_of_none hfind]
          exact ih.cons p
      | some v =>
          rw [boundSpans_cons_of_some hfind]
          exact ih.cons_cons p

/-- There are no bound spans if no name is bound. -/
theorem boundSpans_eq_nil (h : ∀ p ∈ ps, bindings.find? p.name = none) :
    boundSpans bindings ps = [] := by
  rw [boundSpans, List.filterMap_eq_nil_iff]
  intro p hp
  rw [h p hp, Option.map_none]

/-! ### Splicing -/

/-- **Splicing writes gaps and marks in turns.** What lies behind the splice ends with a gap that
has been copied, and that goes on until the next bound span. -/
theorem gap_append_splice {behind gap front rest : List Char} (h : Fits front rest ps)
    (hfront : front = behind ++ gap) :
    gap ++ splice (front ++ rest) front.length (ps.map fun p => (p, emission bindings p)) =
      alternate (gaps (front ++ rest) behind.length ((boundSpans bindings ps).map (·.1)))
        ((boundSpans bindings ps).map (·.2.marks)) := by
  induction h generalizing behind gap with
  | @nil front rest =>
      have hrest : sliceFrom (front ++ rest) behind.length = gap ++ rest := by
        rw [hfront, List.append_assoc]
        exact sliceFrom_append behind (gap ++ rest)
      rw [List.map_nil, splice, sliceFrom_append]
      exact hrest.symm
  | @cons front rest p ps between hposition hrest ih =>
      have hmove : front ++ (between ++ (p.text.toList ++ rest)) =
          front ++ between ++ p.text.toList ++ rest := by simp only [List.append_assoc]
      rw [List.map_cons, splice, slice_gap hposition, stop_of_position hposition, hmove]
      cases hfind : bindings.find? p.name with
      | none =>
          -- the gap goes on behind the text
          have hopen : front ++ between ++ p.text.toList =
              behind ++ (gap ++ between ++ p.text.toList) := by
            rw [hfront]
            simp only [List.append_assoc]
          rw [boundSpans_cons_of_none hfind, ← ih hopen, emission, hfind]
          simp only [List.append_assoc]
      | some v =>
          -- the gap is complete, and behind the marks an empty one lies open
          have hopen : front ++ between ++ p.text.toList =
              front ++ between ++ p.text.toList ++ [] := (List.append_nil _).symm
          have hgap : slice (front ++ between ++ p.text.toList ++ rest) behind.length p.position =
              gap ++ between := by
            rw [hfront, List.append_assoc behind] at hposition
            rw [hfront, List.append_assoc behind, List.append_assoc, List.append_assoc]
            exact slice_gap hposition
          rw [boundSpans_cons_of_some hfind, List.map_cons, List.map_cons, gaps, alternate, hgap,
            stop_of_position hposition, ← ih hopen, emission, hfind]
          simp only [List.append_assoc, List.nil_append]

/-- Names contribute the parts of what those that are bound are bound to. -/
theorem boundParts_map_name (bindings : Value) (ps : List Placeholder) :
    boundParts bindings (ps.map (·.name)) = (boundSpans bindings ps).flatMap (·.2.parts) := by
  induction ps with
  | nil => rfl
  | cons p rest ih =>
      rw [List.map_cons]
      cases hfind : bindings.find? p.name with
      | none => rw [boundParts_cons_of_none hfind, boundSpans_cons_of_none hfind, ih]
      | some v =>
          rw [boundParts_cons_of_some hfind, boundSpans_cons_of_some hfind, List.flatMap_cons, ih]

/-! ### Converting -/

/-- With placeholders that fit, what they become is spliced in for the bound spans. -/
theorem replacesSpans_ofEmissions {sql : String} (h : Fits [] sql.toList ps) :
    ReplacesSpans sql.toList (boundSpans bindings ps)
      (.ofEmissions sql (ps.map fun p => (p, emission bindings p))) where
  before := by
    have hspans := (h.sublist (map_fst_boundSpans_sublist bindings ps)).alternate_gaps
    rwa [List.map_map] at hspans
  after := by
    rw [Conversion.ofEmissions, String.toList_ofList]
    exact @gap_append_splice bindings ps [] [] _ _ h rfl
  parameters := (flatMap_values_emission bindings ps).trans (boundParts_map_name bindings ps)

/-- Without spans to replace nothing changes. -/
theorem ReplacesSpans.eq_of_nil {sql : String} {c : Conversion}
    (h : ReplacesSpans sql.toList [] c) : c.sql = sql ∧ c.parameters = [] := by
  refine ⟨String.toList_injective ?_, h.parameters⟩
  rw [h.after]
  exact h.before

/-- Any bindings can be asked for no names at all. -/
theorem Value.misuse?_nil (bindings : Value) : bindings.misuse? [] = none := by
  cases bindings <;> rfl

/-- Replacing no placeholders at all leaves a statement as it is. -/
theorem map_emitAll_nil (sql : String) (bindings : Value) :
    (emitAll (.str sql) bindings []).map (Conversion.ofEmissions sql) = .ok ⟨sql, [], 0, []⟩ := by
  have hwhole : splice sql.toList 0 [] = sql.toList := sliceFrom_append [] sql.toList
  have hempty : Conversion.ofEmissions sql [] = ⟨sql, [], 0, []⟩ := by
    rw [Conversion.ofEmissions, hwhole, String.ofList_toList]
    rfl
  exact congrArg Except.ok hempty

/-- Without placeholders a text comes out as it is, and there is no report. -/
theorem runConvert_of_nil (now : Log.Circumstances) (config : Config) (sql : String)
    (bindings : Value) {supplied : Option (List Placeholder)}
    (h : supplied.getD (scan sql) = []) :
    runConvert now config (.str sql) bindings supplied = (.ok ⟨.str sql, []⟩, .none) := by
  have hconvert : convert sql bindings supplied = .ok ⟨sql, [], 0, []⟩ := by
    rw [convert, h, convertAt, List.map_nil, Value.misuse?_nil]
    exact map_emitAll_nil sql bindings
  change runConvertText now config sql bindings supplied = _
  rw [runConvertText, hconvert]
  rfl

/-- **Supplied placeholders are replaced at their own spans, and nothing else is.** With a mapping
and placeholders that fit the statement by their offsets, of any names and texts, none of the names
bound to a sequence that contains a sequence, a conversion succeeds: the gaps around the spans whose
names are bound stay, the spans become marks, and the parameters are what the marks stand for.
Without bound names nothing changes. The placeholders of a scan fit, also if some of them are left
out. And if there are no placeholders, to come out as it is means the same for a statement as to go
through the replacement, with any bindings. -/
theorem convert_supplied {sql : String} (hmap : bindings.isMapping = true)
    (hfits : FitsByOffset sql.toList ps)
    (hflat : ∀ p ∈ ps, ∀ v, bindings.find? p.name = some v →
      ∀ items, v.elements? = some items → ∀ item ∈ items, item.isSequence = false) :
    (∃ c, convert sql bindings (some ps) = .ok c ∧
      ReplacesSpans sql.toList (boundSpans bindings ps) c ∧
      ((∀ p ∈ ps, bindings.find? p.name = none) → c.sql = sql ∧ c.parameters = [])) ∧
    (∀ listed : List Placeholder, listed.Sublist (scan sql) → FitsByOffset sql.toList listed) ∧
    ∀ now config other supplied, supplied.getD (scan sql) = [] →
      runConvert now config (.str sql) other supplied = (.ok ⟨.str sql, []⟩, .none) ∧
        (emitAll (.str sql) other []).map (Conversion.ofEmissions sql) =
          .ok ⟨sql, [], 0, []⟩ := by
  refine ⟨?_, fun listed hlisted => fits_iff.mp ((fits_scan sql).sublist hlisted),
    fun now config other supplied hnone =>
      ⟨runConvert_of_nil now config sql other hnone, map_emitAll_nil sql other⟩⟩
  have hnested : firstNested? bindings (ps.map (·.name)) = none := by
    refine firstNested?_eq_none fun name hname => ?_
    obtain ⟨p, hp, rfl⟩ := List.mem_map.mp hname
    exact hflat p hp
  have hreplaces := @replacesSpans_ofEmissions bindings ps sql (fits_iff.mpr hfits)
  refine ⟨_, ?_, hreplaces, fun hunbound => ?_⟩
  · rw [convert, Option.getD_some, convertAt_of_isMapping hmap, emitAll_eq, hnested]
    rfl
  · rw [boundSpans_eq_nil hunbound] at hreplaces
    exact hreplaces.eq_of_nil

/-- An empty span in front of one that it touches, both no tokens, then one whose name is not bound,
a token that is not listed, and one with a name that is not its own. -/
theorem convert_supplied_by_hand :
    ∃ c, convert "$1$2:b:c" (.dict .plain [(.str "b", .int 5), (.str "ids", .seq .list
        [.int 1, .int 2])]) (some [⟨"b", 0, 7, ""⟩, ⟨"b", 0, 0, "$1"⟩, ⟨"x", 2, -3, "$2"⟩,
          ⟨"ids", 6, 0, ":c"⟩]) = .ok c ∧
      c.sql = "??$2:b(?, ?)" ∧ c.parameters = [.int 5, .int 5, .int 1, .int 2] := by
  have hfits : FitsByOffset "$1$2:b:c".toList [⟨"b", 0, 7, ""⟩, ⟨"b", 0, 0, "$1"⟩,
      ⟨"x", 2, -3, "$2"⟩, ⟨"ids", 6, 0, ":c"⟩] := by
    refine ⟨by decide, by decide, ?_, by decide⟩
    intro p hp
    obtain rfl := Option.some.inj hp
    decide
  have hflat : ∀ p ∈ [(⟨"b", 0, 7, ""⟩ : Placeholder), ⟨"b", 0, 0, "$1"⟩, ⟨"x", 2, -3, "$2"⟩,
      ⟨"ids", 6, 0, ":c"⟩], ∀ v, (Value.dict .plain [(.str "b", .int 5), (.str "ids", .seq .list
        [.int 1, .int 2])]).find? p.name = some v →
      ∀ items, v.elements? = some items → ∀ item ∈ items, item.isSequence = false := by
    intro p hp
    rw [← nestedUnder?_eq_none_iff]
    simp only [List.mem_cons, List.not_mem_nil, or_false] at hp
    rcases hp with rfl | rfl | rfl | rfl <;> rfl
  obtain ⟨⟨c, hc, hreplaces, -⟩, -⟩ := convert_supplied rfl hfits hflat
  refine ⟨c, hc, String.toList_injective ?_, hreplaces.parameters⟩
  rw [hreplaces.after]
  rfl

end SqlBind
