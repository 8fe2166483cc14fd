import SqlBind.Proofs.Rewrite.Outcome
import SqlBind.Proofs.Rewrite.Relevance
import SqlBind.Proofs.Value.Keys

/-!
# Merging as Overriding

Bindings come from keywords alone, from a mapping alone, or from keywords laid over a mapping. A
conversion cannot tell these paths apart: on each of them the view is the mapping overridden by the
keywords (`Overrides`), with every key listed once. A rewrite therefore comes out, and is logged, as
one with a single plain dictionary into which first the mapping and then the keywords were put
(`overridden`); and bindings may be split between a mapping and keywords in any way, as long as
every name is bound to the same in the end.

## Main definitions

* `Overrides`: a view in which keywords override a mapping.
* `overridden`: the plain dictionary of the same content.

## Main results

* `overrides_view_of_merge`: merging gives such a view on all its paths.
* `find?_overridden`: what the plain dictionary binds a name to.
* `runRewrite_congr`: rewrites with the same effective bindings are the same.
* `rewrite_of_overridden`: merging agrees with plain override.
-/

namespace SqlBind

open Log

/-- A view of a mapping that is overridden by keywords, in which every key is listed once. -/
structure Overrides (mapping : Value) (keywords : Keywords) (view : Value) : Prop where
  /-- A key is there if one of both has it. -/
  has : ∀ key, view.has key = (keywords.toValue.has key || mapping.has key)
  /-- The keywords decide about its value, and the mapping if they lack it. -/
  lookup? : ∀ key, view.lookup? key = (keywords.toValue.lookup? key).or (mapping.lookup? key)
  /-- No two keys that are listed are equal. -/
  apart : Apart id view.keys
  /-- Every key that is there is listed once. -/
  once : ∀ key, view.keys.countP (fun k => k.equal key) = if view.has key then 1 else 0
  /-- The keys are the distinct ones of both, and the size is their number. -/
  keys : view.keys = distinctOn id (mapping.keys ++ keywords.toValue.keys)
  size : view.size = (distinctOn id (mapping.keys ++ keywords.toValue.keys)).length

/-- The plain dictionary into which the entries of a mapping and then keywords were put. -/
def overridden (mapping : Value) (keywords : Keywords) : Value :=
  .dictOf .plain (mapping.items ++ keywords.toValue.items)

variable {mapping sql : Value} {keywords : Keywords}

/-! ### The view -/

/-- Nothing has no keys. -/
theorem keys_null : Value.null.keys = [] := by simp [Value.keys, Value.items]

/-- On every path the keys are the distinct ones of both sources. -/
theorem keys_view_of_merge {b : Bindings} (h : Bindings.merge sql mapping keywords = .ok b) :
    b.view.keys = distinctOn id (mapping.keys ++ keywords.toValue.keys) := by
  rcases Bindings.cases_of_merge h with ⟨rfl, rfl⟩ | ⟨-, ⟨rfl, rfl⟩ | rfl⟩
  · rw [keys_null, List.nil_append, distinctOn_eq_self (Value.apart_keys _)]
    rfl
  · have hnone : (Keywords.toValue []).keys = [] := by
      simp [Keywords.toValue, Value.keys, Value.items, distinctOn]
    rw [hnone, List.append_nil, distinctOn_eq_self (Value.apart_keys _)]
    rfl
  · exact Value.keys_layers_pair _ _

/-- **Merging gives the mapping overridden by the keywords**, on all its paths. -/
theorem overrides_view_of_merge {b : Bindings} (h : Bindings.merge sql mapping keywords = .ok b) :
    Overrides mapping keywords b.view where
  has key := by
    rw [← Value.isSome_lookup?, Bindings.lookup?_view_of_merge h, Option.isSome_or,
      Value.isSome_lookup?, Value.isSome_lookup?]
  lookup? := Bindings.lookup?_view_of_merge h
  apart := Value.apart_keys _
  once := Value.countP_keys _
  keys := keys_view_of_merge h
  size := by
    have hsize : b.view.size = b.view.keys.length := by
      rw [Value.size, Value.keys, List.length_map]
    rw [hsize, keys_view_of_merge h]

/-! ### The plain dictionary -/

/-- The plain dictionary binds a name to what the keywords give it, or else to what the mapping
gives it. -/
theorem find?_overridden (mapping : Value) (keywords : Keywords) (name : String) :
    (overridden mapping keywords).find? name = effective? mapping keywords name := by
  rw [overridden, Value.dictOf, Value.find?_dict, insertEntries_append,
    valueFor?_insertEntries (Value.apart_items _), valueFor?_insertEntries (Value.apart_items _),
    Value.valueFor?_items, Value.valueFor?_items, valueFor?_nil, Option.or_none, effective?,
    ← find?_toValue]
  rfl

/-! ### Rewriting -/

/-- **Rewrites with the same effective bindings** are the same, and so are their logs. -/
theorem runRewrite_congr {mapping' : Value} {keywords' : Keywords}
    (h : mapping = .null ∨ mapping.isMapping = true)
    (h' : mapping' = .null ∨ mapping'.isMapping = true)
    (hsame : ∀ name, effective? mapping' keywords' name = effective? mapping keywords name)
    (now : Circumstances) (config : Config) (sql : Value) :
    runRewrite now config sql mapping' keywords' = runRewrite now config sql mapping keywords := by
  obtain ⟨b, hmerge, hmap, hb⟩ := exists_merge_eq h sql keywords
  obtain ⟨b', hmerge', hmap', hb'⟩ := exists_merge_eq h' sql keywords'
  have hreply : ∀ name, b'.view.find? name = b.view.find? name := by
    intro name
    rw [hb, hb', hsame]
  rw [runRewrite, runRewrite, hmerge, hmerge']
  exact runConvert_congr hmap' hmap hreply now config sql

/-- **Merging agrees with plain override.** Let bindings come from a mapping of any kind, or none,
and from keywords. They are merged, and what results is the mapping overridden by the keywords. A
rewrite comes out, and is logged, as with one plain dictionary of that content; and so does a
rewrite whose mapping and keywords split the same bindings in another way. -/
theorem rewrite_of_overridden (h : mapping = .null ∨ mapping.isMapping = true) (sql : Value)
    (keywords : Keywords) :
    (∃ b, Bindings.merge sql mapping keywords = .ok b ∧ Overrides mapping keywords b.view) ∧
    ∀ now config,
      runRewrite now config sql mapping keywords =
        runRewrite now config sql (overridden mapping keywords) [] ∧
      ∀ mapping' keywords', mapping' = .null ∨ mapping'.isMapping = true →
        (∀ name, effective? mapping' keywords' name = effective? mapping keywords name) →
        runRewrite now config sql mapping' keywords' =
          runRewrite now config sql mapping keywords := by
  constructor
  · obtain ⟨b, hmerge, -, -⟩ := exists_merge_eq h sql keywords
    exact ⟨b, hmerge, overrides_view_of_merge hmerge⟩
  · intro now config
    constructor
    · refine (runRewrite_congr h (Or.inr rfl) (fun name => ?_) now config sql).symm
      rw [effective?, List.lookup_nil, Option.none_or, find?_overridden]
    · intro mapping' keywords' h' hsame
      exact runRewrite_congr h h' hsame now config sql

/-- A keyword that binds to nothing a name that the first of two layers binds, a new keyword, and a
number among the keys: the same bindings as one dictionary, and as keywords alone. -/
theorem rewrite_of_overridden_layers :
    ∃ (mapping : Value) (keywords all : Keywords),
      mapping = .layers [.dict .plain [(.str "a", .int 1), (.null, .str "z")],
        .dict .ordered [(.str "b", .int 2), (.str "a", .int 3)]] ∧
      keywords = [("a", .null), ("c", .int 4)] ∧
      all = [("c", .int 4), ("b", .int 2), ("a", .null)] ∧
      (∃ b, Bindings.merge (.str ":a:b") mapping keywords = .ok b ∧
        b.view.keys = [.str "b", .str "a", .null, .str "c"] ∧ b.view.size = 4 ∧
        b.view.lookup? (.str "a") = some .null ∧ b.view.lookup? (.null) = some (.str "z")) ∧
      ∀ now config,
        runRewrite now config (.str ":a:b") mapping keywords =
          runRewrite now config (.str ":a:b") (overridden mapping keywords) [] ∧
        runRewrite now config (.str ":a:b") .null all =
          runRewrite now config (.str ":a:b") mapping keywords := by
  obtain ⟨mapping, hmapping⟩ : ∃ mapping : Value, mapping =
      .layers [.dict .plain [(.str "a", .int 1), (.null, .str "z")],
        .dict .ordered [(.str "b", .int 2), (.str "a", .int 3)]] := ⟨_, rfl⟩
  have hmap : mapping.isMapping = true := hmapping ▸ rfl
  have hsame : ∀ name,
      effective? .null [("c", .int 4), ("b", .int 2), ("a", .null)] name =
        effective? mapping [("a", .null), ("c", .int 4)] name := by
    intro name
    have hnull : Value.null.equal (.str name) = false := rfl
    have hfind : mapping.find? name = if "a" = name then some (.int 1)
        else if "b" = name then some (.int 2) else none := by
      rw [hmapping, Value.find?, Value.lookup?_layers_pair, Value.lookup?_dict]
      simp only [valueFor?_cons, valueFor?_nil, Value.equal_str, hnull, decide_eq_true_eq]
      by_cases ha : "a" = name
      · subst ha
        rfl
      · by_cases hb : "b" = name
        · subst hb
          rfl
        · rw [if_neg ha, if_neg ha, if_neg hb]
          simpa [hb] using ha
    have hnone : Value.null.find? name = none := by simp [Value.find?, Value.lookup?, Value.has]
    rw [effective?, effective?, hfind, hnone]
    by_cases ha : "a" = name
    · subst ha
      rfl
    · by_cases hb : "b" = name
      · subst hb
        rfl
      · rw [if_neg ha, if_neg hb]
        have ha' : (name == "a") = false := by simpa using Ne.symm ha
        have hb' : (name == "b") = false := by simpa using Ne.symm hb
        simp only [List.lookup_cons, List.lookup_nil, ha', hb']
  obtain ⟨⟨b, hmerge, hview⟩, hrewrite⟩ :=
    rewrite_of_overridden (Or.inr hmap) (.str ":a:b") [("a", .null), ("c", .int 4)]
  refine ⟨mapping, _, _, hmapping, rfl, rfl, ⟨b, hmerge, ?_, ?_, ?_, ?_⟩, fun now config => ?_⟩
  · rw [hview.keys, hmapping]
    rfl
  · rw [hview.size, hmapping]
    rfl
  · rw [hview.lookup?, hmapping]
    rfl
  · rw [hview.lookup?, hmapping]
    rfl
  · obtain ⟨hplain, hsplit⟩ := hrewrite now config
    exact ⟨hplain, hsplit .null _ (Or.inl rfl) hsame⟩

end SqlBind
