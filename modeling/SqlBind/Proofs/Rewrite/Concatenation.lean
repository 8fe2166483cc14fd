import SqlBind.Proofs.Placeholder.Junction
import SqlBind.Proofs.Rewrite.Resolved

/-!
# Converting Statements End to End

Where two statements meet without cutting a token (`Placeholder.CutsToken`), converting is
compositional (`convert_append`): texts and values of the conversions are put end to end, and the
first nested sequence of the two makes the whole fail.

Everything that a conversion is made of is taken over the pieces from left to right, and so over
those of the first statement and then those of the second.
-/

namespace SqlBind

open Placeholder

variable {bindings : Value}

/-- The names of tokens are taken from left to right. -/
theorem tokenNames_append (ps qs : List Piece) :
    tokenNames (ps ++ qs) = tokenNames ps ++ tokenNames qs := by
  induction ps with
  | nil => rfl
  | cons p rest ih =>
      cases p with
      | plain c => exact ih
      | token name => exact congrArg (_ :: ·) ih

/-- Pieces are resolved from left to right. -/
theorem resolve_append (ps qs : List Piece) :
    resolve bindings (ps ++ qs) = resolve bindings ps ++ resolve bindings qs := by
  induction ps with
  | nil => rfl
  | cons p rest ih =>
      cases p with
      | plain c => exact congrArg (_ :: ·) ih
      | token name =>
          rw [List.cons_append]
          cases hfind : bindings.find? (String.ofList name) with
          | none =>
              rw [resolve_token_of_none hfind, resolve_token_of_none hfind, ih, List.cons_append]
          | some v =>
              rw [resolve_token_of_some hfind, resolve_token_of_some hfind, ih, List.append_assoc]

/-- The first nested sequence under two lists of names is the first one under the first list, if
there is one. -/
theorem firstNested?_append (names₁ names₂ : List String) :
    firstNested? bindings (names₁ ++ names₂) =
      (firstNested? bindings names₁).or (firstNested? bindings names₂) :=
  List.findSome?_append

/-- Bindings that can be asked for the names of two lists can be asked for all of them, one after
the other. -/
theorem misuse?_append {names₁ names₂ : List String} (h₁ : bindings.misuse? names₁ = none)
    (h₂ : bindings.misuse? names₂ = none) : bindings.misuse? (names₁ ++ names₂) = none := by
  unfold Value.misuse? at h₁ h₂ ⊢
  split at h₁
  · -- a generator is used up by the first name, whichever list it is from
    cases names₁ with
    | nil => exact h₂
    | cons name rest => exact h₁
  · next hgenerator =>
      split at h₂
      · exact absurd rfl (hgenerator _)
      · rw [List.findSome?_append, h₁, h₂]
        rfl

/-- **Converting is compositional** at every place where no token is cut, with any bindings. If both
statements can be converted, so can the two of them end to end, and texts and values are put end to
end. If a nested sequence makes the first one fail, or else the second, it makes the whole fail with
the same name and place. And the placeholders of the whole are those of the first statement and,
behind it, those of the second. -/
theorem convert_append {u v : String} (h : ¬CutsToken u.toList v.toList) :
    (∀ c₁ c₂, convert u bindings none = .ok c₁ → convert v bindings none = .ok c₂ →
      ∃ c, convert (u ++ v) bindings none = .ok c ∧ c.sql = c₁.sql ++ c₂.sql ∧
        c.parameters = c₁.parameters ++ c₂.parameters) ∧
    (∀ name index, convert u bindings none = .error (nestedSequenceFault name index (.str u)) →
      convert (u ++ v) bindings none =
        .error (nestedSequenceFault name index (.str (u ++ v)))) ∧
    (∀ c₁ name index, convert u bindings none = .ok c₁ →
      convert v bindings none = .error (nestedSequenceFault name index (.str v)) →
      convert (u ++ v) bindings none =
        .error (nestedSequenceFault name index (.str (u ++ v)))) ∧
    scan (u ++ v) = scan u ++ (scan v).map (·.moved u.length (scan u).length) := by
  have hpieces : pieces (u ++ v).toList = pieces u.toList ++ pieces v.toList := by
    rw [String.toList_append, pieces_append_iff.mpr h]
  have hnames : tokenNames (pieces (u ++ v).toList) =
      tokenNames (pieces u.toList) ++ tokenNames (pieces v.toList) := by
    rw [hpieces, tokenNames_append]
  refine ⟨fun c₁ c₂ hu hv => ?_, fun name index hu => ?_, fun c₁ name index hu hv => ?_,
    scan_append h⟩
  · obtain ⟨hmisuse₁, hnested₁, rfl⟩ := convert_eq_ok_iff.mp hu
    obtain ⟨hmisuse₂, hnested₂, rfl⟩ := convert_eq_ok_iff.mp hv
    have hmisuse : bindings.misuse? (tokenNames (pieces (u ++ v).toList)) = none := by
      rw [hnames]
      exact misuse?_append hmisuse₁ hmisuse₂
    have hnested : firstNested? bindings (tokenNames (pieces (u ++ v).toList)) = none := by
      rw [hnames, firstNested?_append, hnested₁, hnested₂]
      rfl
    refine ⟨_, convert_eq_ok_iff.mpr ⟨hmisuse, hnested, rfl⟩, ?_, ?_⟩
    · rw [converted_sql, converted_sql, converted_sql, hpieces, resolve_append, spell_append,
        String.ofList_append]
    · rw [converted_parameters, converted_parameters, converted_parameters, hnames, boundParts,
        List.flatMap_append]
      rfl
  · obtain ⟨-, hnested⟩ := convert_eq_nested_iff.mp hu
    have hmap : bindings.isMapping = true := isMapping_of_firstNested? hnested
    refine convert_eq_nested_iff.mpr ⟨Value.misuse?_of_isMapping hmap, ?_⟩
    rw [hnames, firstNested?_append, hnested]
    rfl
  · obtain ⟨-, hnested₁, -⟩ := convert_eq_ok_iff.mp hu
    obtain ⟨-, hnested₂⟩ := convert_eq_nested_iff.mp hv
    have hmap : bindings.isMapping = true := isMapping_of_firstNested? hnested₂
    refine convert_eq_nested_iff.mpr ⟨Value.misuse?_of_isMapping hmap, ?_⟩
    rw [hnames, firstNested?_append, hnested₁, hnested₂]
    rfl

/-- A word on either side of the place where the statements meet does no harm, since there is no
colon in front of it. -/
theorem convert_append_words :
    ¬CutsToken "a:b1 x".toList "y:c".toList ∧
      ∃ c, convert ("a:b1 x" ++ "y:c")
          (.dict .plain [(.str "b1", .int 5), (.str "c", .seq .list [.int 1, .int 2])]) none =
          .ok c ∧
        c.sql = "a? xy(?, ?)" ∧ c.parameters = [.int 5, .int 1, .int 2] ∧
        scan ("a:b1 x" ++ "y:c") = [⟨"b1", 1, 0, ":b1"⟩, ⟨"c", 7, 1, ":c"⟩] := by
  have hcut : ¬CutsToken "a:b1 x".toList "y:c".toList := by decide
  have hpieces₁ : pieces "a:b1 x".toList =
      [.plain 'a', .token ['b', '1'], .plain ' ', .plain 'x'] := pieces_eq_iff.mpr (by decide)
  have hpieces₂ : pieces "y:c".toList = [.plain 'y', .token ['c']] := pieces_eq_iff.mpr (by decide)
  obtain ⟨c₁, hu, hsql₁, hparameters₁⟩ : ∃ c₁, convert "a:b1 x"
      (.dict .plain [(.str "b1", .int 5), (.str "c", .seq .list [.int 1, .int 2])]) none =
      .ok c₁ ∧ c₁.sql = "a? x" ∧ c₁.parameters = [.int 5] :=
    convert_of_pieces rfl hpieces₁ rfl rfl rfl
  obtain ⟨c₂, hv, hsql₂, hparameters₂⟩ : ∃ c₂, convert "y:c"
      (.dict .plain [(.str "b1", .int 5), (.str "c", .seq .list [.int 1, .int 2])]) none =
      .ok c₂ ∧ c₂.sql = "y(?, ?)" ∧ c₂.parameters = [.int 1, .int 2] :=
    convert_of_pieces rfl hpieces₂ rfl rfl rfl
  obtain ⟨hok, -, -, hscan⟩ := convert_append hcut
  obtain ⟨c, hc, hsql, hparameters⟩ := hok c₁ c₂ hu hv
  refine ⟨hcut, c, hc, ?_, ?_, ?_⟩
  · rw [hsql, hsql₁, hsql₂]
    rfl
  · rw [hparameters, hparameters₁, hparameters₂]
    rfl
  · rw [hscan, scan_eq_locate, scan_eq_locate, hpieces₁, hpieces₂]
    rfl

end SqlBind
