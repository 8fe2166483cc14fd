import SqlBind.Proofs.Rewrite.Resolved
import SqlBind.Proofs.Value.Rename

/-!
# Names Are Only Labels

Which names the placeholders of a statement have makes no difference, as long as the bindings have
the same ones. Rename both in the same way, with no two names becoming the same: the values that
come out are the same, and the text is the converted text with the names that were left renamed
(`convert_renamed`). A nested sequence is complained of in the same place under the new name.

Renaming moves all offsets, in the statement and again in the converted text. The pieces of both
know no offsets, and resolving them commutes with renaming piece by piece (`resolve_map_renamed`).

## Main results

* `firstNested?_map`, `boundParts_map`, `resolve_map_renamed`: what conversions are made of, under
  new names.
* `convert_renamed`: conversions commute with renaming.
-/

namespace SqlBind

open Placeholder

variable {r : String → String} {b b' : Value}

/-! ### Names -/

/-- The names of tokens among settled pieces are names. -/
theorem Placeholder.Settled.isName_of_mem_tokenNames {ps : List Piece} (h : Settled ps)
    {name : String} (hmem : name ∈ tokenNames ps) : IsName name := by
  induction h with
  | nil => cases hmem
  | plain _ _ ih => exact ih hmem
  | @token chars rest _ hne hchars _ ih =>
      rcases List.mem_cons.mp hmem with rfl | hmem
      · rw [IsName, String.toList_ofList]
        exact ⟨hne, hchars⟩
      · exact ih hmem

/-- The tokens among renamed pieces have the new names. -/
theorem tokenNames_map_renamed (ps : List Piece) :
    tokenNames (ps.map (Piece.renamed r)) = (tokenNames ps).map r := by
  induction ps with
  | nil => rfl
  | cons p rest ih =>
      cases p with
      | plain c => exact ih
      | token name =>
          rw [List.map_cons, Piece.renamed, tokenNames, tokenNames, ih, String.ofList_toList,
            List.map_cons]

section Replies

variable {names : List String} (h : ∀ name ∈ names, b'.find? (r name) = b.find? name)

include h

/-- The same nested sequence is found under the new name. -/
theorem firstNested?_map :
    firstNested? b' (names.map r) =
      (firstNested? b names).map fun found => (r found.1, found.2) := by
  induction names with
  | nil => rfl
  | cons name rest ih =>
      obtain ⟨hname, hrest⟩ := List.forall_mem_cons.mp h
      have hnested : nestedUnder? b' (r name) = nestedUnder? b name := by
        rw [nestedUnder?, nestedUnder?, hname]
      rw [List.map_cons, firstNested?_cons, firstNested?_cons, hnested, ih hrest]
      cases nestedUnder? b name with
      | none => rfl
      | some index => rfl

/-- The new names contribute the same values. -/
theorem boundParts_map : boundParts b' (names.map r) = boundParts b names := by
  rw [boundParts, boundParts, List.flatMap_map]
  refine List.flatMap_congr fun name hname => ?_
  rw [h name hname]

end Replies

/-- **Resolving commutes with renaming.** -/
theorem resolve_map_renamed {ps : List Piece}
    (h : ∀ name ∈ tokenNames ps, b'.find? (r name) = b.find? name) :
    resolve b' (ps.map (Piece.renamed r)) = (resolve b ps).map (Piece.renamed r) := by
  induction ps with
  | nil => rfl
  | cons p rest ih =>
      cases p with
      | plain c => exact congrArg (.plain c :: ·) (ih h)
      | token name =>
          obtain ⟨hname, hrest⟩ := List.forall_mem_cons.mp h
          rw [List.map_cons, Piece.renamed]
          rw [← String.ofList_toList (s := r (String.ofList name))] at hname
          cases hfind : b.find? (String.ofList name) with
          | none =>
              rw [hfind] at hname
              rw [resolve_token_of_none hname, resolve_token_of_none hfind, ih hrest,
                List.map_cons, Piece.renamed]
          | some v =>
              -- marks are no tokens, so nothing in them is renamed
              rw [hfind] at hname
              rw [resolve_token_of_some hname, resolve_token_of_some hfind, ih hrest,
                List.map_append, List.map_map]
              rfl

/-! ### Conversions -/

/-- **Conversions commute with renaming.** Let the texts that a mapping has as keys be names, and
rename the placeholders of a statement and the keys of the mapping, no two names becoming the same.
The new mapping binds a new name to what the old one binds the old name to. Both conversions
succeed, with the same values, and the new text is the old text renamed; or both complain of a
nested sequence, under the old and the new name and in the same place. -/
theorem convert_renamed (hr : Renames r) (hb : b.isMapping = true)
    (hkeys : ∀ name, b.has (.str name) = true → IsName name) (sql : String) :
    (∀ name, IsName name → (b.renameKeys r).find? (r name) = b.find? name) ∧
    ((∃ c c', convert sql b none = .ok c ∧
        convert (renamed r sql) (b.renameKeys r) none = .ok c' ∧ c'.sql = renamed r c.sql ∧
        c'.parameters = c.parameters) ∨
      ∃ name index,
        convert sql b none = .error (nestedSequenceFault name index (.str sql)) ∧
        convert (renamed r sql) (b.renameKeys r) none =
          .error (nestedSequenceFault (r name) index (.str (renamed r sql)))) := by
  have hreply : ∀ name, IsName name → (b.renameKeys r).find? (r name) = b.find? name :=
    fun name hname => Value.find?_renameKeys hr hkeys hname
  have hnames : ∀ name ∈ tokenNames (pieces sql.toList),
      (b.renameKeys r).find? (r name) = b.find? name :=
    fun name hname => hreply name ((settled_pieces sql.toList).isName_of_mem_tokenNames hname)
  have hpieces := pieces_renamed hr sql
  have hmap : (b.renameKeys r).isMapping = true := Value.isMapping_mapEntries hb
  have hnested : firstNested? (b.renameKeys r) (tokenNames (pieces (renamed r sql).toList)) =
      (firstNested? b (tokenNames (pieces sql.toList))).map fun found => (r found.1, found.2) := by
    rw [hpieces, tokenNames_map_renamed, firstNested?_map hnames]
  refine ⟨hreply, ?_⟩
  rw [convert_eq, convert_eq, Value.misuse?_of_isMapping hb, Value.misuse?_of_isMapping hmap,
    hnested]
  cases firstNested? b (tokenNames (pieces sql.toList)) with
  | some found => exact Or.inr ⟨found.1, found.2, rfl, rfl⟩
  | none =>
      refine Or.inl ⟨_, _, rfl, rfl, ?_, ?_⟩
      · rw [converted_sql, hpieces, resolve_map_renamed hnames, ← pieces_converted,
          ← toList_renamed, String.ofList_toList]
      · rw [converted_parameters, converted_parameters, hpieces, tokenNames_map_renamed,
          boundParts_map hnames]

/-- Every name gets an underscore at its end, so that one new name is another old one: with a token
that stands in front of a colon, a name that stays, and a nested sequence. -/
theorem convert_renamed_underscore :
    ∃ (r : String → String) (b : Value), r = (fun name => name ++ "_") ∧ Renames r ∧
      b = .layers [.dict .plain [(.str "a", .int 5)], .dict .defaulting
        [(.str "ab", .seq .list [.int 1, .int 2]), (.str "a_", .str "z"),
          (.str "d", .seq .tuple [.null, .range 0 1 1])]] ∧
      renamed r ":a::ab:c x:a_" = ":a_::ab_:c_ x:a__" ∧
      (∃ c', convert ":a_::ab_:c_ x:a__" (b.renameKeys r) none = .ok c' ∧
        c'.sql = "?:(?, ?):c_ x?" ∧ c'.parameters = [.int 5, .int 1, .int 2, .str "z"]) ∧
      convert (renamed r ":a:d") (b.renameKeys r) none =
        .error (nestedSequenceFault "d_" 1 (.str (renamed r ":a:d"))) := by
  obtain ⟨r, hr⟩ : ∃ r : String → String, r = fun name => name ++ "_" := ⟨_, rfl⟩
  obtain ⟨b, hb⟩ : ∃ b : Value, b = .layers [.dict .plain [(.str "a", .int 5)], .dict .defaulting
      [(.str "ab", .seq .list [.int 1, .int 2]), (.str "a_", .str "z"),
        (.str "d", .seq .tuple [.null, .range 0 1 1])]] := ⟨_, rfl⟩
  have hrenames : Renames r := by
    subst hr
    refine ⟨fun {name} hname => ⟨?_, fun c hc => ?_⟩, fun {m n} _ _ h => ?_⟩
    · rw [String.toList_append]
      exact List.append_ne_nil_of_left_ne_nil hname.1 _
    · rw [String.toList_append] at hc
      rcases List.mem_append.mp hc with hc | hc
      · exact hname.2 c hc
      · obtain rfl := List.mem_singleton.mp hc
        decide
    · have htexts := congrArg String.toList h
      rw [String.toList_append, String.toList_append] at htexts
      exact String.toList_injective (List.append_cancel_right htexts)
  have hkeys : ∀ name, b.has (.str name) = true → IsName name := by
    intro name hname
    subst hb
    simp only [Value.has, Value.hasIn, Option.isSome_map, valueFor?, List.isSome_find?,
      List.any_cons, List.any_nil, Value.equal_str, Bool.or_false, Bool.or_eq_true,
      decide_eq_true_eq] at hname
    rcases hname with rfl | rfl | rfl | rfl <;> decide
  have hpieces : pieces ":a::ab:c x:a_".toList =
      [.token ['a'], .plain ':', .token ['a', 'b'], .token ['c'], .plain ' ', .plain 'x',
        .token ['a', '_']] := pieces_eq_iff.mpr (by decide)
  have hpieces' : pieces ":a:d".toList = [.token ['a'], .token ['d']] :=
    pieces_eq_iff.mpr (by decide)
  have hrenamed : renamed r ":a::ab:c x:a_" = ":a_::ab_:c_ x:a__" := by
    rw [← String.toList_inj, toList_renamed, hpieces, hr]
    rfl
  obtain ⟨c, hc, hsql, hparameters⟩ : ∃ c, convert ":a::ab:c x:a_" b none = .ok c ∧
      c.sql = "?:(?, ?):c x?" ∧ c.parameters = [.int 5, .int 1, .int 2, .str "z"] := by
    subst hb
    exact convert_of_pieces rfl hpieces rfl rfl rfl
  have hpiecesc : pieces c.sql.toList = [.plain '?', .plain ':', .plain '(', .plain '?', .plain ',',
      .plain ' ', .plain '?', .plain ')', .token ['c'], .plain ' ', .plain 'x', .plain '?'] := by
    rw [hsql]
    exact pieces_eq_iff.mpr (by decide)
  have hnested : convert ":a:d" b none = .error (nestedSequenceFault "d" 1 (.str ":a:d")) := by
    rw [convert_eq_nested_iff, hpieces', hb]
    exact ⟨rfl, rfl⟩
  refine ⟨r, b, hr, hrenames, hb, hrenamed, ?_, ?_⟩
  · rcases (convert_renamed hrenames (hb ▸ rfl) hkeys ":a::ab:c x:a_").2 with
      ⟨c₁, c', h₁, h', hsql', hparameters'⟩ | ⟨name, index, h₁, -⟩
    · obtain rfl := Except.ok.inj (hc.symm.trans h₁)
      refine ⟨c', by rwa [hrenamed] at h', ?_, hparameters'.trans hparameters⟩
      rw [hsql', ← String.toList_inj, toList_renamed, hpiecesc, hr]
      rfl
    · rw [hc] at h₁
      cases h₁
  · rcases (convert_renamed hrenames (hb ▸ rfl) hkeys ":a:d").2 with
      ⟨c₁, c', h₁, -⟩ | ⟨name, index, h₁, h'⟩
    · rw [hnested] at h₁
      cases h₁
    · obtain ⟨rfl, rfl⟩ := nestedSequenceFault_inj (Except.error.inj (hnested.symm.trans h₁))
      rw [h', hr]
      rfl

end SqlBind
