import SqlBind.Proofs.Placeholder.Grammar
import SqlBind.Proofs.Rewrite.Resolved

/-!
# Marks and Values in Step

The text of a converted statement and the list of its values are put together apart from each other.
A driver reads them side by side: the first mark takes the first value, and so on. This module says
that they stay in step at every placeholder (`marks_aligned`). The marks in front of what a
placeholder becomes are those that the statement had there itself and one for each value up to then,
and what it becomes has one mark for each value of its own.

A statement may have marks of its own. They are counted, too; but no placeholder has one in its
text, so none gets lost.

## Main definitions

* `InStep`: marks and values are in step at a placeholder.

## Main results

* `splice_append`: a splice up to a placeholder is the splice of the statement in front of it.
* `count_mark_splice`: the marks of a spliced statement.
* `marks_aligned`: marks and values are in step at every placeholder.
-/

namespace SqlBind

open Placeholder Text

variable {behind front rest : List Char} {p : Placeholder} {ps : List Placeholder}
  {become : Placeholder → Emission}

/-! ### Splices of what fits -/

/-- **A splice up to a placeholder** is the splice of the statement in front of it. Behind it the
splice goes on. -/
theorem splice_append {e : Emission} {after : List (Placeholder × Emission)}
    (h : Fits behind front ps) (hp : p.position = ((behind ++ front).length : Int)) :
    splice (behind ++ (front ++ rest)) behind.length
        (ps.map (fun q => (q, become q)) ++ (p, e) :: after) =
      splice (behind ++ front) behind.length (ps.map fun q => (q, become q)) ++ e.text ++
        splice (behind ++ (front ++ rest)) p.stop after := by
  induction h with
  | nil => rw [List.map_nil, List.nil_append, splice, splice, slice_gap hp, sliceFrom_append]
  | @cons behind front q qs gap hposition hfront ih =>
      -- behind the placeholder the splice goes on with the gap and the placeholder left behind
      have hmove : ∀ s, behind ++ (gap ++ (q.text.toList ++ s)) =
          behind ++ gap ++ q.text.toList ++ s := fun s => by simp only [List.append_assoc]
      have hlater := ih (by rw [hp, hmove])
      rw [List.map_cons, List.cons_append, splice, splice, stop_of_position hposition,
        slice_gap hposition, List.append_assoc gap, List.append_assoc q.text.toList,
        slice_gap hposition, hmove, hmove, hlater]
      simp only [List.append_assoc]

/-- **The marks of a spliced statement** are those of the statement and one for each value, if every
placeholder becomes a text with one more mark for each of its values. -/
theorem count_mark_splice (h : Fits behind rest ps)
    (hbecome : ∀ p ∈ ps,
      (become p).text.count mark = p.text.toList.count mark + (become p).values.length) :
    (splice (behind ++ rest) behind.length (ps.map fun p => (p, become p))).count mark =
      rest.count mark + ((ps.map fun p => (p, become p)).flatMap (·.2.values)).length := by
  induction h with
  | nil =>
      rw [List.map_nil, splice, sliceFrom_append, List.flatMap_nil, List.length_nil, Nat.add_zero]
  | @cons behind rest p ps gap hposition hrest ih =>
      obtain ⟨hp, hps⟩ := List.forall_mem_cons.mp hbecome
      have hmove : behind ++ (gap ++ (p.text.toList ++ rest)) =
          behind ++ gap ++ p.text.toList ++ rest := by simp only [List.append_assoc]
      rw [List.map_cons, splice, slice_gap hposition, stop_of_position hposition, hmove,
        List.count_append, List.count_append, ih hps, hp, List.flatMap_cons, List.length_append,
        List.count_append, List.count_append]
      dsimp only
      omega

/-! ### Marks of emissions -/

/-- A value is replaced by one mark for each of its parts. -/
theorem count_mark_marks (v : Value) : v.marks.count mark = v.parts.length := by
  rw [Value.parts]
  cases h : v.elements? with
  | none =>
      rw [Value.marks, h]
      rfl
  | some items =>
      rw [← markGroup_eq h]
      exact count_mark_markGroup

/-- The placeholders of a scan have no marks in their texts. -/
theorem mark_notMem_text {sql : String} (hp : p ∈ scan sql) : mark ∉ p.text.toList := by
  have hreports := reports_scan sql
  obtain ⟨n, -, hname⟩ := hreports.name_eq p hp
  rw [(hreports.text_eq p hp).1, String.toList_append, hname]
  intro hmem
  rcases List.mem_append.mp hmem with hcolon | hmark
  · revert hcolon
    decide
  · have : isNameChar mark = true := isNameChar_of_mem_leadingName hmark
    revert this
    decide

/-- What a placeholder of a scan becomes has one mark for each value. -/
theorem count_mark_emission {sql : String} (bindings : Value) (hp : p ∈ scan sql) :
    (emission bindings p).text.count mark = (emission bindings p).values.length := by
  rw [emission]
  cases bindings.find? p.name with
  | none => exact List.count_eq_zero.mpr (mark_notMem_text hp)
  | some v => exact count_mark_marks v

/-- So it has one mark more than the text of the placeholder for each value. -/
theorem count_mark_emission_add {sql : String} (bindings : Value) (hp : p ∈ scan sql) :
    (emission bindings p).text.count mark =
      p.text.toList.count mark + (emission bindings p).values.length := by
  rw [count_mark_emission bindings hp, List.count_eq_zero.mpr (mark_notMem_text hp), Nat.zero_add]

/-! ### Converted statements -/

/-- **How marks and values are in step** at the placeholder `p` that became `e`, when others came
before and after it. -/
structure InStep (sql : String) (c : Conversion) (before : List (Placeholder × Emission))
    (p : Placeholder) (e : Emission) (after : List (Placeholder × Emission)) : Prop where
  /-- What it became stands between what the statement became in front of it and behind it. -/
  spliced : c.sql.toList =
    splice (sliceTo sql.toList p.position) 0 before ++ e.text ++ splice sql.toList p.stop after
  /-- In front of it are the marks of the statement, and one for each value up to here. -/
  count_front : (splice (sliceTo sql.toList p.position) 0 before).count mark =
    (sliceTo sql.toList p.position).count mark + (before.flatMap (·.2.values)).length
  /-- It became a text with one mark for each value of its own. -/
  count_text : e.text.count mark = e.values.length
  /-- These are the values that come next. -/
  getElem?_parameters : ∀ k < e.values.length,
    c.parameters[(before.flatMap (·.2.values)).length + k]? = e.values[k]?

/-- In a converted statement marks and values are in step at every placeholder. -/
theorem inStep_converted {sql : String} {bindings : Value} {before after : List Placeholder}
    (h : scan sql = before ++ p :: after) :
    InStep sql (converted sql bindings) (before.map fun q => (q, emission bindings q)) p
      (emission bindings p) (after.map fun q => (q, emission bindings q)) := by
  have hbecome := fun q (hq : q ∈ scan sql) => count_mark_emission_add bindings hq
  have hfits := fits_scan sql
  rw [h] at hfits hbecome
  obtain ⟨front, back, hsql, hposition, hbefore, -⟩ := hfits.split
  have hfront : sliceTo sql.toList p.position = front := by
    rw [hsql, hposition]
    exact sliceTo_append front _
  refine ⟨?_, ?_, ?_, fun k hk => ?_⟩
  · rw [hfront, converted, Conversion.ofEmissions, String.toList_ofList, h, List.map_append,
      List.map_cons, hsql]
    exact splice_append hbefore hposition
  · rw [hfront]
    exact count_mark_splice hbefore fun q hq => hbecome q (List.mem_append_left _ hq)
  · exact count_mark_emission bindings (h ▸ List.mem_append_right _ List.mem_cons_self)
  · rw [converted, Conversion.ofEmissions, h, List.map_append, List.map_cons, List.flatMap_append,
      List.flatMap_cons, List.getElem?_append_right (Nat.le_add_right _ _), Nat.add_sub_cancel_left,
      List.getElem?_append_left hk]

/-- A converted statement has one mark for each value, besides those of the statement. -/
theorem count_mark_converted (sql : String) (bindings : Value) :
    (converted sql bindings).sql.toList.count mark =
      sql.toList.count mark + (converted sql bindings).parameters.length := by
  rw [converted, Conversion.ofEmissions, String.toList_ofList]
  exact count_mark_splice (fits_scan sql) fun q hq => count_mark_emission_add bindings hq

/-- **Marks and values are in step.** A conversion that succeeds settles what each placeholder of a
scan becomes, and wherever one of them stands, marks and values are in step there. A placeholder
whose name is not bound stays and has no values. So the converted statement has one mark for each
value, besides the marks that were there before. -/
theorem marks_aligned {sql : String} {bindings : Value} {c : Conversion}
    (h : convert sql bindings none = .ok c) :
    ∃ es, emitAll (.str sql) bindings (scan sql) = .ok es ∧ es.map (·.1) = scan sql ∧
      (∀ before p e after, es = before ++ (p, e) :: after →
        InStep sql c before p e after ∧
        (bindings.find? p.name = none → e.text = p.text.toList ∧ e.values = [])) ∧
      c.sql.toList.count mark = sql.toList.count mark + c.parameters.length := by
  obtain ⟨-, hnested, rfl⟩ := convert_eq_ok_iff.mp h
  refine ⟨(scan sql).map fun p => (p, emission bindings p), ?_, ?_, ?_, ?_⟩
  · rw [emitAll_eq, map_name_scan, hnested]
  · rw [List.map_map]
    exact List.map_id _
  · intro before p e after hes
    obtain ⟨xs, ys, hscan, rfl, hys⟩ := List.map_eq_append_iff.mp hes
    obtain ⟨q, zs, rfl, hpe, rfl⟩ := List.map_eq_cons_iff.mp hys
    obtain ⟨rfl, rfl⟩ := Prod.mk.inj hpe
    refine ⟨inStep_converted hscan, fun hunbound => ?_⟩
    rw [emission, hunbound]
    exact ⟨rfl, rfl⟩
  · exact count_mark_converted sql bindings

/-- A statement with marks of its own, a value, an unbound name, a sequence, an empty one, and the
first name again. -/
theorem marks_aligned_among_marks :
    ∃ c, convert "a?:x :b:ids:e?:x" (.dict .plain [(.str "x", .int 5),
        (.str "ids", .seq .list [.int 1, .int 2]), (.str "e", .seq .tuple [])]) none = .ok c ∧
      c.sql = "a?? :b(?, ?)()??" ∧ c.parameters = [.int 5, .int 1, .int 2, .int 5] ∧
      (∃ es, es.map (·.1) = scan "a?:x :b:ids:e?:x" ∧ ∀ before p e after,
        es = before ++ (p, e) :: after → InStep "a?:x :b:ids:e?:x" c before p e after) ∧
      c.sql.toList.count mark = "a?:x :b:ids:e?:x".toList.count mark + 4 := by
  have hpieces : pieces "a?:x :b:ids:e?:x".toList =
      [.plain 'a', .plain '?', .token ['x'], .plain ' ', .token ['b'], .token ['i', 'd', 's'],
        .token ['e'], .plain '?', .token ['x']] := pieces_eq_iff.mpr (by decide)
  obtain ⟨c, hc, hsql, hparameters⟩ :
      ∃ c, convert "a?:x :b:ids:e?:x" (.dict .plain [(.str "x", .int 5),
          (.str "ids", .seq .list [.int 1, .int 2]), (.str "e", .seq .tuple [])]) none = .ok c ∧
        c.sql = "a?? :b(?, ?)()??" ∧ c.parameters = [.int 5, .int 1, .int 2, .int 5] :=
    convert_of_pieces rfl hpieces rfl rfl rfl
  obtain ⟨es, -, hes, hstep, hcount⟩ := marks_aligned hc
  rw [hparameters] at hcount
  exact ⟨c, hc, hsql, hparameters,
    ⟨es, hes, fun before p e after h => (hstep before p e after h).1⟩, hcount⟩

end SqlBind
