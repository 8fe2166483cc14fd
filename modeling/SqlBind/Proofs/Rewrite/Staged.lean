import SqlBind.Proofs.Rewrite.Overlay
import SqlBind.Proofs.Rewrite.Rescan

/-!
# Conversion in Stages

A statement may be converted with some bindings first, and what comes out with others later. This
comes to the same as one conversion with the first bindings laid over the second
(`convert_overlay`): the text is the same, the values are those of the two stages interleaved, and a
nested sequence makes the one conversion fail exactly where it makes one of the stages fail.

In terms of pieces the two stages are two rounds of resolving, of which the second passes over what
the first has written (`resolve_resolve`).

The first bindings must not hide a name from the second, as a dictionary with a default does
(`convert_overlay_defaulting`).
-/

namespace SqlBind

open Placeholder

/-- Two lists put together into one, each in its own order. -/
inductive Interleaving {α : Type} : List α → List α → List α → Prop
  | nil : Interleaving [] [] []
  | left {a : α} {xs ys zs : List α} :
      Interleaving xs ys zs → Interleaving (a :: xs) ys (a :: zs)
  | right {a : α} {xs ys zs : List α} :
      Interleaving xs ys zs → Interleaving xs (a :: ys) (a :: zs)

namespace Interleaving

variable {α : Type} {xs ys zs : List α}

/-- More may come in front of the first list. -/
theorem append_left (h : Interleaving xs ys zs) (front : List α) :
    Interleaving (front ++ xs) ys (front ++ zs) := by
  induction front with
  | nil => exact h
  | cons a front ih => exact ih.left

/-- More may come in front of the second list. -/
theorem append_right (h : Interleaving xs ys zs) (front : List α) :
    Interleaving xs (front ++ ys) (front ++ zs) := by
  induction front with
  | nil => exact h
  | cons a front ih => exact ih.right

end Interleaving

variable {first second whole : Value}

/-- Plain characters are passed over. -/
theorem resolve_plain_append (bindings : Value) (s : List Char) (ps : List Piece) :
    resolve bindings (s.map .plain ++ ps) = s.map .plain ++ resolve bindings ps := by
  induction s with
  | nil => rfl
  | cons c rest ih => rw [List.map_cons, List.cons_append, resolve_plain, ih, List.cons_append]

/-- **Resolving twice is resolving once** with what either round binds, the first one deciding. -/
theorem resolve_resolve {ps : List Piece}
    (h : ∀ name ∈ tokenNames ps, whole.find? name = (first.find? name).or (second.find? name)) :
    resolve second (resolve first ps) = resolve whole ps := by
  induction ps with
  | nil => rfl
  | cons p rest ih =>
      cases p with
      | plain c => rw [resolve_plain, resolve_plain, resolve_plain, ih h]
      | token name =>
          obtain ⟨hname, hrest⟩ := List.forall_mem_cons.mp h
          cases hfirst : first.find? (String.ofList name) with
          | some v =>
              rw [hfirst, Option.some_or] at hname
              rw [resolve_token_of_some hfirst, resolve_plain_append, resolve_token_of_some hname,
                ih hrest]
          | none =>
              rw [hfirst, Option.none_or] at hname
              rw [resolve_token_of_none hfirst]
              cases hsecond : second.find? (String.ofList name) with
              | none =>
                  rw [hsecond] at hname
                  rw [resolve_token_of_none hsecond, resolve_token_of_none hname, ih hrest]
              | some v =>
                  rw [hsecond] at hname
                  rw [resolve_token_of_some hsecond, resolve_token_of_some hname, ih hrest]

/-- The values of the names that either of two bindings binds are those of the first and, for the
names that it leaves, those of the second. -/
theorem interleaving_boundParts {names : List String}
    (h : ∀ name ∈ names, whole.find? name = (first.find? name).or (second.find? name)) :
    Interleaving (boundParts first names)
      (boundParts second (names.filter fun name => (first.find? name).isNone))
      (boundParts whole names) := by
  induction names with
  | nil => exact .nil
  | cons name rest ih =>
      obtain ⟨hname, hrest⟩ := List.forall_mem_cons.mp h
      have hlater := ih hrest
      cases hfirst : first.find? name with
      | some v =>
          rw [hfirst, Option.some_or] at hname
          rw [boundParts_cons_of_some hfirst, boundParts_cons_of_some hname,
            List.filter_cons_of_neg (by simp [hfirst])]
          exact hlater.append_left v.parts
      | none =>
          rw [hfirst, Option.none_or] at hname
          rw [boundParts_cons_of_none hfirst, List.filter_cons_of_pos (by simp [hfirst])]
          cases hsecond : second.find? name with
          | some v =>
              rw [hsecond] at hname
              rw [boundParts_cons_of_some hsecond, boundParts_cons_of_some hname]
              exact hlater.append_right v.parts
          | none =>
              rw [hsecond] at hname
              rwa [boundParts_cons_of_none hsecond, boundParts_cons_of_none hname]

/-! ### Failing -/

/-- Whether a statement cannot be converted because one of its names is bound to a nested
sequence. -/
def FailsNested (sql : String) (bindings : Value) : Prop :=
  ∃ name index, convert sql bindings none = .error (nestedSequenceFault name index (.str sql))

/-- With a mapping a conversion either succeeds or fails because of a nested sequence. -/
theorem convert_eq_ok_or_failsNested {bindings : Value} (h : bindings.isMapping = true)
    (sql : String) :
    convert sql bindings none = .ok (converted sql bindings) ∨ FailsNested sql bindings := by
  have hmisuse : bindings.misuse? (tokenNames (pieces sql.toList)) = none :=
    Value.misuse?_of_isMapping h
  cases hnested : firstNested? bindings (tokenNames (pieces sql.toList)) with
  | none => exact Or.inl (convert_eq_ok_iff.mpr ⟨hmisuse, hnested, rfl⟩)
  | some found => exact Or.inr ⟨found.1, found.2, convert_eq_nested_iff.mpr ⟨hmisuse, hnested⟩⟩

/-- A conversion that succeeds does not fail. -/
theorem not_failsNested_of_ok {sql : String} {bindings : Value} {c : Conversion}
    (h : convert sql bindings none = .ok c) : ¬FailsNested sql bindings := by
  rintro ⟨name, index, hfails⟩
  rw [h] at hfails
  cases hfails

/-- With a mapping, a nested sequence under any name in the statement is a failure. -/
theorem failsNested_iff {sql : String} {bindings : Value} (h : bindings.isMapping = true) :
    FailsNested sql bindings ↔
      ∃ name ∈ tokenNames (pieces sql.toList), (nestedUnder? bindings name).isSome = true := by
  have hfirst : FailsNested sql bindings ↔
      (firstNested? bindings (tokenNames (pieces sql.toList))).isSome = true := by
    simp only [FailsNested, convert_eq_nested_iff, Value.misuse?_of_isMapping h, true_and]
    rw [Option.isSome_iff_exists, Prod.exists]
  rw [hfirst, firstNested?, List.isSome_findSome?, List.any_eq_true]
  simp only [Option.isSome_map]

/-- A name is bound to a nested sequence by either of two bindings if the first bind it to one, or
leave it and the second do. -/
theorem isSome_nestedUnder?_whole {name : String}
    (h : whole.find? name = (first.find? name).or (second.find? name)) :
    (nestedUnder? whole name).isSome = true ↔
      (nestedUnder? first name).isSome = true ∨
        first.find? name = none ∧ (nestedUnder? second name).isSome = true := by
  rw [nestedUnder?, nestedUnder?, nestedUnder?, h]
  cases first.find? name with
  | none => simp
  | some v => simp

/-! ### Both stages -/

/-- One conversion fails if the first stage does, or if the second does after the first has
succeeded. -/
theorem failsNested_whole_iff {sql : String} (hfirst : first.isMapping = true)
    (hsecond : second.isMapping = true) (hmap : whole.isMapping = true)
    (h : ∀ name ∈ tokenNames (pieces sql.toList),
      whole.find? name = (first.find? name).or (second.find? name)) :
    FailsNested sql whole ↔
      FailsNested sql first ∨
        ∃ c₁, convert sql first none = .ok c₁ ∧ FailsNested c₁.sql second := by
  constructor
  · intro hfails
    rcases convert_eq_ok_or_failsNested hfirst sql with hok | hearly
    · refine Or.inr ⟨_, hok, ?_⟩
      obtain ⟨name, hname, hnested⟩ := (failsNested_iff hmap).mp hfails
      rcases (isSome_nestedUnder?_whole (h name hname)).mp hnested with hnow | ⟨hleft, hlater⟩
      · exact absurd ((failsNested_iff hfirst).mpr ⟨name, hname, hnow⟩) (not_failsNested_of_ok hok)
      · rw [failsNested_iff hsecond, tokenNames_pieces_converted]
        exact ⟨name, List.mem_filter.mpr ⟨hname, by rw [hleft]; rfl⟩, hlater⟩
    · exact Or.inl hearly
  · rintro (hearly | ⟨c₁, hok, hlate⟩)
    · obtain ⟨name, hname, hnested⟩ := (failsNested_iff hfirst).mp hearly
      have hwhole := (isSome_nestedUnder?_whole (h name hname)).mpr (Or.inl hnested)
      exact (failsNested_iff hmap).mpr ⟨name, hname, hwhole⟩
    · obtain ⟨-, -, rfl⟩ := convert_eq_ok_iff.mp hok
      rw [failsNested_iff hsecond, tokenNames_pieces_converted] at hlate
      obtain ⟨name, hmem, hnested⟩ := hlate
      obtain ⟨hname, hleft⟩ := List.mem_filter.mp hmem
      have hwhole := (isSome_nestedUnder?_whole (h name hname)).mpr
        (Or.inr ⟨Option.isNone_iff_eq_none.mp hleft, hnested⟩)
      exact (failsNested_iff hmap).mpr ⟨name, hname, hwhole⟩

/-- One conversion has the text of the second stage and the values of both. -/
theorem convert_whole {sql : String} {c₁ c₂ : Conversion} (hfirst : first.isMapping = true)
    (hsecond : second.isMapping = true) (hmap : whole.isMapping = true)
    (h : ∀ name ∈ tokenNames (pieces sql.toList),
      whole.find? name = (first.find? name).or (second.find? name))
    (h₁ : convert sql first none = .ok c₁) (h₂ : convert c₁.sql second none = .ok c₂) :
    ∃ c, convert sql whole none = .ok c ∧ c.sql = c₂.sql ∧
      Interleaving c₁.parameters c₂.parameters c.parameters := by
  have hsucceeds : ¬FailsNested sql whole := by
    rw [failsNested_whole_iff hfirst hsecond hmap h]
    rintro (hearly | ⟨c₁', h₁', hlate⟩)
    · exact not_failsNested_of_ok h₁ hearly
    · rw [h₁] at h₁'
      cases h₁'
      exact not_failsNested_of_ok h₂ hlate
  obtain ⟨-, -, rfl⟩ := convert_eq_ok_iff.mp h₁
  obtain ⟨-, -, rfl⟩ := convert_eq_ok_iff.mp h₂
  refine ⟨_, (convert_eq_ok_or_failsNested hmap sql).resolve_right hsucceeds, ?_, ?_⟩
  · rw [converted_sql, converted_sql, pieces_converted, resolve_resolve h]
  · rw [converted_parameters, converted_parameters, converted_parameters,
      tokenNames_pieces_converted]
    exact interleaving_boundParts h

/-- **Two stages are one conversion** with the first mapping laid over the second, as keywords are
over the mapping that they are merged with, provided that the first hides no name of the statement
from the second. Text and values are those of the stages, and nested sequences make the one
conversion fail exactly if they make one of the stages fail. -/
theorem convert_overlay {sql : String} (hfirst : first.isMapping = true)
    (hsecond : second.isMapping = true)
    (hhides : ∀ p ∈ scan sql, Value.hides first second p.name = false) :
    (∀ c₁ c₂, convert sql first none = .ok c₁ → convert c₁.sql second none = .ok c₂ →
      ∃ c, convert sql (Value.overlay first second) none = .ok c ∧ c.sql = c₂.sql ∧
        Interleaving c₁.parameters c₂.parameters c.parameters) ∧
    (FailsNested sql (Value.overlay first second) ↔
      FailsNested sql first ∨
        ∃ c₁, convert sql first none = .ok c₁ ∧ FailsNested c₁.sql second) ∧
    ∀ keywords : Keywords, keywords.toValue = first →
      ∃ merged, Bindings.merge (.str sql) second keywords = .ok merged ∧
        merged.view = Value.overlay first second := by
  have hmap : (Value.overlay first second).isMapping = true := Value.isMapping_overlay hsecond
  have hwhole : ∀ name ∈ tokenNames (pieces sql.toList), (Value.overlay first second).find? name =
      (first.find? name).or (second.find? name) := by
    intro name hname
    obtain ⟨p, hp, rfl⟩ := exists_mem_scan hname
    exact Value.find?_overlay (hhides p hp)
  refine ⟨fun c₁ c₂ h₁ h₂ => ?_, ?_, fun keywords hkeywords => ?_⟩
  · exact convert_whole hfirst hsecond hmap hwhole h₁ h₂
  · exact failsNested_whole_iff hfirst hsecond hmap hwhole
  · rw [← hkeywords]
    exact view_of_merge hsecond _ _

/-- Keywords that bind a name in the statement twice, and a mapping that binds it too, another name
to a sequence, and a third not at all. -/
theorem convert_overlay_keywords :
    ∃ merged, Bindings.merge (.str ":x :y :z :x")
        (.dict .plain [(.str "x", .int 9), (.str "y", .seq .list [.int 2, .int 3])])
        [("x", .int 1)] = .ok merged ∧
      ∃ c, convert ":x :y :z :x" merged.view none = .ok c ∧ c.sql = "? (?, ?) :z ?" ∧
        Interleaving [.int 1, .int 1] [.int 2, .int 3] c.parameters := by
  have hhides : ∀ p ∈ scan ":x :y :z :x", Value.hides (Keywords.toValue [("x", .int 1)])
      (.dict .plain [(.str "x", .int 9), (.str "y", .seq .list [.int 2, .int 3])]) p.name = false :=
    fun p _ => hides_toValue _ _ _
  have hpieces₁ : pieces ":x :y :z :x".toList =
      [.token ['x'], .plain ' ', .token ['y'], .plain ' ', .token ['z'], .plain ' ',
        .token ['x']] := pieces_eq_iff.mpr (by decide)
  have hpieces₂ : pieces "? :y :z ?".toList =
      [.plain '?', .plain ' ', .token ['y'], .plain ' ', .token ['z'], .plain ' ', .plain '?'] :=
    pieces_eq_iff.mpr (by decide)
  obtain ⟨c₁, h₁, hsql₁, hparameters₁⟩ :
      ∃ c₁, convert ":x :y :z :x" (Keywords.toValue [("x", .int 1)]) none = .ok c₁ ∧
        c₁.sql = "? :y :z ?" ∧ c₁.parameters = [.int 1, .int 1] :=
    convert_of_pieces rfl hpieces₁ rfl rfl rfl
  obtain ⟨c₂, h₂, hsql₂, hparameters₂⟩ :
      ∃ c₂, convert "? :y :z ?"
          (.dict .plain [(.str "x", .int 9), (.str "y", .seq .list [.int 2, .int 3])]) none =
          .ok c₂ ∧
        c₂.sql = "? (?, ?) :z ?" ∧ c₂.parameters = [.int 2, .int 3] :=
    convert_of_pieces rfl hpieces₂ rfl rfl rfl
  obtain ⟨hstages, -, hmerge⟩ := convert_overlay rfl rfl hhides
  obtain ⟨c, hc, hsql, hparameters⟩ := hstages c₁ c₂ h₁ (by rwa [hsql₁])
  obtain ⟨merged, hmerged, hview⟩ := hmerge _ rfl
  refine ⟨merged, hmerged, c, ?_, ?_, ?_⟩
  · rwa [hview]
  · rw [hsql, hsql₂]
  · rwa [hparameters₁, hparameters₂] at hparameters

/-- **A dictionary with a default hides names.** Asked for `y`, which it lacks, it answers with an
empty sequence when it is laid over a mapping that binds `y`, while in two stages it leaves `y` to
that mapping. -/
theorem convert_overlay_defaulting :
    ∃ c₁ c₂ c,
      convert ":x :y" (.dict .defaulting [(.str "x", .int 1)]) none = .ok c₁ ∧
      convert c₁.sql (.dict .plain [(.str "y", .int 2)]) none = .ok c₂ ∧
      convert ":x :y" (Value.overlay (.dict .defaulting [(.str "x", .int 1)])
        (.dict .plain [(.str "y", .int 2)])) none = .ok c ∧
      c₂.sql = "? ?" ∧ c.sql = "? ()" ∧ c.parameters = [.int 1] ∧ c.sql ≠ c₂.sql := by
  have hpieces : pieces ":x :y".toList = [.token ['x'], .plain ' ', .token ['y']] :=
    pieces_eq_iff.mpr (by decide)
  have hpieces₂ : pieces "? :y".toList = [.plain '?', .plain ' ', .token ['y']] :=
    pieces_eq_iff.mpr (by decide)
  obtain ⟨c₁, h₁, hsql₁, -⟩ :
      ∃ c₁, convert ":x :y" (.dict .defaulting [(.str "x", .int 1)]) none = .ok c₁ ∧
        c₁.sql = "? :y" ∧ c₁.parameters = [.int 1] :=
    convert_of_pieces rfl hpieces rfl rfl rfl
  obtain ⟨c₂, h₂, hsql₂, -⟩ :
      ∃ c₂, convert "? :y" (.dict .plain [(.str "y", .int 2)]) none = .ok c₂ ∧
        c₂.sql = "? ?" ∧ c₂.parameters = [.int 2] :=
    convert_of_pieces rfl hpieces₂ rfl rfl rfl
  obtain ⟨c, h, hsql, hparameters⟩ :
      ∃ c, convert ":x :y" (Value.overlay (.dict .defaulting [(.str "x", .int 1)])
          (.dict .plain [(.str "y", .int 2)])) none = .ok c ∧
        c.sql = "? ()" ∧ c.parameters = [.int 1] :=
    convert_of_pieces rfl hpieces rfl rfl rfl
  refine ⟨c₁, c₂, c, h₁, ?_, h, hsql₂, hsql, hparameters, ?_⟩
  · rwa [hsql₁]
  · rw [hsql, hsql₂]
    decide

end SqlBind
