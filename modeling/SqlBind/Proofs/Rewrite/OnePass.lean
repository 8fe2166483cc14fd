import SqlBind.Proofs.Rewrite.Resolved

/-!
# Conversion in One Pass

The definition of a conversion that a reader has in mind goes over the characters of a statement
once, from left to right, and knows no offsets: at a colon with a name behind it, the longest run of
name characters is the name, and what the name is bound to decides what is written; every other
character is copied. `onePass` is this definition. Converting by a scan, slices and a join gives the
same text and the same values wherever no name of the statement is bound to a nested sequence
(`convert_eq_onePass`).

The invariant that relates the two is `splice_locate`: what the splice has yet to write is the gap
since the last placeholder and what the remaining pieces become.
-/

namespace SqlBind

open Placeholder

/-- The text and the values that one pass over the characters of a statement writes. -/
def onePass (bindings : Value) : List Char → List Char × List Value
  | [] => ([], [])
  | c :: rest =>
    let name := rest.takeWhile isNameChar
    if c = ':' ∧ name ≠ [] then
      let later := onePass bindings (rest.dropWhile isNameChar)
      match bindings.find? (String.ofList name) with
      | none => (':' :: name ++ later.1, later.2)
      | some v => (v.marks ++ later.1, v.parts ++ later.2)
    else
      let later := onePass bindings rest
      (c :: later.1, later.2)
termination_by s => s.length
decreasing_by
  · have := length_afterName_le rest
    simp only [afterName] at this
    simp only [List.length_cons]
    omega
  · simp

/-- One pass writes what the resolved pieces spell, and the values of the names in order. -/
theorem onePass_eq (bindings : Value) (s : List Char) :
    onePass bindings s =
      (spell (resolve bindings (pieces s)), boundParts bindings (tokenNames (pieces s))) := by
  induction s using pieces.induct with
  | case1 => rw [onePass, pieces, resolve_nil, spell_nil, tokenNames, boundParts, List.flatMap_nil]
  | case2 c rest h ih =>
      obtain ⟨rfl, hname⟩ := h
      rw [onePass, pieces_cons_of_name hname, tokenNames, boundParts, List.flatMap_cons]
      rw [← boundParts]
      simp only [leadingName, afterName] at hname ih ⊢
      rw [if_pos ⟨trivial, hname⟩, ih]
      cases hfind : bindings.find? (String.ofList (rest.takeWhile isNameChar)) with
      | none => simp [resolve_token_of_none hfind]
      | some v => simp [resolve_token_of_some hfind]
  | case3 c rest h ih =>
      rw [onePass, pieces_cons_of_not h, tokenNames, resolve_plain, spell_plain]
      simp only [leadingName] at h
      rw [if_neg h, ih]

/-- No name is bound to a nested sequence if none is bound to a sequence with a sequence in it. -/
theorem firstNested?_eq_none {bindings : Value} {names : List String}
    (h : ∀ name ∈ names, ∀ v, bindings.find? name = some v → ∀ items, v.elements? = some items →
      ∀ item ∈ items, item.isSequence = false) : firstNested? bindings names = none := by
  rw [firstNested?, List.findSome?_eq_none_iff]
  intro name hname
  rw [Option.map_eq_none_iff, nestedUnder?_eq_none_iff]
  exact h name hname

/-- **Converting agrees with one pass.** With a mapping under which no name in the statement is
bound to a sequence that contains a sequence, a conversion succeeds, and its text and its values are
those of one pass from left to right. -/
theorem convert_eq_onePass {sql : String} {bindings : Value} (hmap : bindings.isMapping = true)
    (hflat : ∀ p ∈ scan sql, ∀ v, bindings.find? p.name = some v →
      ∀ items, v.elements? = some items → ∀ item ∈ items, item.isSequence = false) :
    ∃ c, convert sql bindings none = .ok c ∧
      c.sql = String.ofList (onePass bindings sql.toList).1 ∧
      c.parameters = (onePass bindings sql.toList).2 := by
  have hnested : firstNested? bindings (tokenNames (pieces sql.toList)) = none := by
    refine firstNested?_eq_none fun name hname => ?_
    obtain ⟨p, hp, rfl⟩ := exists_mem_scan hname
    exact hflat p hp
  rw [onePass_eq]
  exact convert_of_pieces hmap rfl hnested rfl rfl

/-- What a dictionary binds a name to is in it. -/
theorem exists_mem_of_find?_dict {kind : DictKind} {entries : Entries} {name : String} {v : Value}
    (h : (Value.dict kind entries).find? name = some v) : ∃ key, (key, v) ∈ entries := by
  rw [Value.find?_dict, valueFor?, Option.map_eq_some_iff] at h
  obtain ⟨⟨key, value⟩, hfound, rfl⟩ := h
  exact ⟨key, List.mem_of_find?_eq_some hfound⟩

/-- Tokens that touch each other, a colon in front of a colon, an empty sequence, a name that is not
bound, a colon without a name and a letter that ends a name, all in one statement. -/
theorem convert_eq_onePass_mixed :
    ∃ c, convert "x:a::ids:e :b:aé:"
        (.dict .plain [(.str "a", .int 5), (.str "ids", .seq .list [.int 1, .int 2]),
          (.str "e", .seq .tuple [])]) none = .ok c ∧
      c.sql = "x?:(?, ?)() :b?é:" ∧ c.parameters = [.int 5, .int 1, .int 2, .int 5] := by
  have hpieces : pieces "x:a::ids:e :b:aé:".toList =
      [.plain 'x', .token ['a'], .plain ':', .token ['i', 'd', 's'], .token ['e'], .plain ' ',
        .token ['b'], .token ['a'], .plain 'é', .plain ':'] := pieces_eq_iff.mpr (by decide)
  have hflat : ∀ p ∈ scan "x:a::ids:e :b:aé:", ∀ v,
      (Value.dict .plain [(.str "a", .int 5), (.str "ids", .seq .list [.int 1, .int 2]),
        (.str "e", .seq .tuple [])]).find? p.name = some v →
      ∀ items, v.elements? = some items → ∀ item ∈ items, item.isSequence = false := by
    intro p _ v hv items hitems item hitem
    obtain ⟨key, hmem⟩ := exists_mem_of_find?_dict hv
    simp only [List.mem_cons, Prod.mk.injEq, List.not_mem_nil, or_false] at hmem
    rcases hmem with ⟨-, rfl⟩ | ⟨-, rfl⟩ | ⟨-, rfl⟩
    · cases hitems
    · cases hitems
      simp only [List.mem_cons, List.not_mem_nil, or_false] at hitem
      rcases hitem with rfl | rfl
      · rfl
      · rfl
    · cases hitems
      exact absurd hitem List.not_mem_nil
  obtain ⟨c, hc, hsql, hparameters⟩ := convert_eq_onePass rfl hflat
  refine ⟨c, hc, ?_, ?_⟩
  · rw [hsql, onePass_eq, hpieces]
    rfl
  · rw [hparameters, onePass_eq, hpieces]
    rfl

end SqlBind
