import SqlBind.Proofs.Rewrite.Resolved

/-!
# Scanning a Converted Statement

A conversion captures nothing: scanning the converted statement finds exactly the placeholders that
were left, with their names and texts and in their order, each moved by what the replaced ones in
front of it added to the length (`scan_of_convert`). So no mark joins what stands around it to a new
placeholder, and none is lost. In particular converting once more with the same bindings, or with
any that bind none of the names that were left, changes nothing.

That the pieces of the converted statement are the resolved ones (`pieces_converted`) reduces all
this to counting along the pieces.
-/

namespace SqlBind

open Placeholder

/-- Whether a placeholder stays when a statement is converted. -/
def stays (bindings : Value) (p : Placeholder) : Bool := (bindings.find? p.name).isNone

/-- By how much a statement grows at a placeholder: not at all where it stays. -/
def growth (bindings : Value) (p : Placeholder) : Int :=
  match bindings.find? p.name with
  | none => 0
  | some v => v.marks.length - p.text.length

/-- By how much a statement grows at several placeholders together. -/
def totalGrowth (bindings : Value) : List Placeholder → Int
  | [] => 0
  | p :: rest => growth bindings p + totalGrowth bindings rest

variable {bindings : Value}

/-- Characters in front of pieces move what is located. -/
theorem locate_plain_append (position ordinal : Nat) (s : List Char) (ps : List Piece) :
    locate position ordinal (s.map .plain ++ ps) = locate (position + s.length) ordinal ps := by
  induction s generalizing position with
  | nil => rfl
  | cons c rest ih =>
      rw [List.map_cons, List.cons_append, locate, ih, List.length_cons]
      congr 1
      omega

/-- A token stays if its name is not bound. -/
theorem stays_ofName (name : List Char) (position ordinal : Nat) :
    stays bindings (ofName name position ordinal) =
      (bindings.find? (String.ofList name)).isNone := rfl

/-- The growth at a token with a bound name. -/
theorem growth_ofName {name : List Char} {v : Value}
    (h : bindings.find? (String.ofList name) = some v) (position ordinal : Nat) :
    growth bindings (ofName name position ordinal) = v.marks.length - (1 + name.length) := by
  rw [growth, ofName, h]
  simp only [String.length_ofList, List.length_cons]
  omega

/-- The tokens among resolved pieces are those that stay, wherever they are located. -/
theorem map_locate_resolve (position ordinal position' ordinal' : Nat) (ps : List Piece) :
    (locate position' ordinal' (resolve bindings ps)).map (fun p => (p.name, p.text)) =
      ((locate position ordinal ps).filter (stays bindings)).map fun p => (p.name, p.text) := by
  induction ps generalizing position ordinal position' ordinal' with
  | nil => rfl
  | cons p rest ih =>
      cases p with
      | plain c => exact ih _ _ _ _
      | token name =>
          have hstays := @stays_ofName bindings name position ordinal
          rw [locate]
          cases hfind : bindings.find? (String.ofList name) with
          | none =>
              rw [hfind] at hstays
              rw [resolve_token_of_none hfind, locate, List.filter_cons_of_pos hstays,
                List.map_cons, List.map_cons]
              exact congrArg (_ :: ·) (ih _ _ _ _)
          | some v =>
              rw [hfind] at hstays
              rw [resolve_token_of_some hfind, locate_plain_append,
                List.filter_cons_of_neg (Bool.eq_false_iff.mp hstays)]
              exact ih _ _ _ _

/-- The names of the tokens among resolved pieces are those that are not bound. -/
theorem tokenNames_resolve (ps : List Piece) :
    tokenNames (resolve bindings ps) =
      (tokenNames ps).filter fun name => (bindings.find? name).isNone := by
  have h := congrArg (List.map Prod.fst) (@map_locate_resolve bindings 0 0 0 0 ps)
  rw [List.map_map, List.map_map] at h
  calc tokenNames (resolve bindings ps)
      = (locate 0 0 (resolve bindings ps)).map (·.name) := (map_name_locate 0 0 _).symm
    _ = ((locate 0 0 ps).filter (stays bindings)).map (·.name) := h
    _ = ((locate 0 0 ps).map (·.name)).filter fun name => (bindings.find? name).isNone := by
        rw [List.filter_map]
        rfl
    _ = (tokenNames ps).filter fun name => (bindings.find? name).isNone := by
        rw [map_name_locate]

/-- **Where the tokens that stay are found.** After a shift of the whole by `position' - position`,
a token that stays is moved by the shift and by the growth at the tokens in front of it, and its
rank counts those in front of it that stay. -/
theorem getElem?_locate_resolve {ps : List Piece} {position ordinal position' ordinal' : Nat}
    {before after : List Placeholder} {p : Placeholder}
    (h : locate position ordinal ps = before ++ p :: after) (hp : stays bindings p = true) :
    (locate position' ordinal' (resolve bindings ps))[(before.filter (stays bindings)).length]? =
      some ⟨p.name, p.position + totalGrowth bindings before + (position' - position),
        ordinal' + (before.filter (stays bindings)).length, p.text⟩ := by
  induction ps generalizing position ordinal position' ordinal' before with
  | nil => simp [locate] at h
  | cons q rest ih =>
      cases q with
      | plain c =>
          rw [locate] at h
          rw [resolve_plain, locate, ih h]
          congr 2
          omega
      | token name =>
          have hstays := @stays_ofName bindings name position ordinal
          rw [locate] at h
          cases hfind : bindings.find? (String.ofList name) with
          | none =>
              rw [hfind] at hstays
              rw [resolve_token_of_none hfind, locate]
              cases before with
              | nil =>
                  obtain ⟨rfl, -⟩ := List.cons.inj h
                  have hplace : (ofName name position ordinal).position = position := rfl
                  have hmoved : (position : Int) + 0 + (position' - position) = position' := by
                    omega
                  rw [List.filter_nil, List.length_nil, List.getElem?_cons_zero, totalGrowth,
                    hplace, hmoved]
                  rfl
              | cons first before =>
                  obtain ⟨rfl, htail⟩ := List.cons.inj h
                  have hgrowth : growth bindings (ofName name position ordinal) = 0 := by
                    rw [growth, ofName, hfind]
                  rw [List.filter_cons_of_pos hstays, List.length_cons, List.getElem?_cons_succ,
                    ih htail, totalGrowth, hgrowth]
                  congr 2
                  · omega
                  · omega
          | some v =>
              rw [hfind] at hstays
              rw [resolve_token_of_some hfind, locate_plain_append]
              cases before with
              | nil =>
                  obtain ⟨rfl, -⟩ := List.cons.inj h
                  rw [hstays] at hp
                  exact absurd hp Bool.false_ne_true
              | cons first before =>
                  obtain ⟨rfl, htail⟩ := List.cons.inj h
                  rw [List.filter_cons_of_neg (Bool.eq_false_iff.mp hstays), ih htail, totalGrowth,
                    growth_ofName hfind]
                  congr 2
                  omega

/-! ### Converting once more -/

/-- Where no name of the tokens is bound nothing is resolved. -/
theorem resolve_eq_self {ps : List Piece} (h : ∀ name ∈ tokenNames ps, bindings.find? name = none) :
    resolve bindings ps = ps := by
  induction ps with
  | nil => rfl
  | cons p rest ih =>
      cases p with
      | plain c => rw [resolve_plain, ih h]
      | token name =>
          obtain ⟨hname, hrest⟩ := List.forall_mem_cons.mp h
          rw [resolve_token_of_none hname, ih hrest]

/-- Names that are not bound contribute no values. -/
theorem boundParts_eq_nil {names : List String} (h : ∀ name ∈ names, bindings.find? name = none) :
    boundParts bindings names = [] := by
  rw [boundParts, List.flatMap_eq_nil_iff]
  intro name hname
  rw [h name hname]
  rfl

/-- Names that are not bound are not bound to nested sequences. -/
theorem firstNested?_eq_none_of_unbound {names : List String}
    (h : ∀ name ∈ names, bindings.find? name = none) : firstNested? bindings names = none := by
  rw [firstNested?, List.findSome?_eq_none_iff]
  intro name hname
  rw [nestedUnder?, h name hname]
  rfl

/-- **Nothing happens to a statement none of whose names is bound.** -/
theorem convert_of_unbound {sql : String}
    (hmisuse : bindings.misuse? (tokenNames (pieces sql.toList)) = none)
    (h : ∀ name ∈ tokenNames (pieces sql.toList), bindings.find? name = none) :
    ∃ c, convert sql bindings none = .ok c ∧ c.sql = sql ∧ c.parameters = [] := by
  refine ⟨converted sql bindings, ?_, ?_, ?_⟩
  · exact convert_eq_ok_iff.mpr ⟨hmisuse, firstNested?_eq_none_of_unbound h, rfl⟩
  · rw [converted_sql, resolve_eq_self h, spell_pieces, String.ofList_toList]
  · rw [converted_parameters, boundParts_eq_nil h]

/-- Bindings that can be asked for several names can be asked for those of them that they do not
bind. -/
theorem misuse?_filter_unbound {names : List String} (h : bindings.misuse? names = none) :
    bindings.misuse? (names.filter fun name => (bindings.find? name).isNone) = none := by
  cases hmap : bindings.isMapping with
  | true => exact Value.misuse?_of_isMapping hmap
  | false =>
      have hall : (names.filter fun name => (bindings.find? name).isNone) = names := by
        rw [List.filter_eq_self]
        intro name _
        rw [find?_of_isMapping_eq_false hmap]
        rfl
      rwa [hall]

/-- The names in a converted statement are those that are not bound. -/
theorem tokenNames_pieces_converted (sql : String) (bindings : Value) :
    tokenNames (pieces (converted sql bindings).sql.toList) =
      (tokenNames (pieces sql.toList)).filter fun name => (bindings.find? name).isNone := by
  rw [pieces_converted, tokenNames_resolve]

/-- **A conversion captures nothing.** What is scanned in a converted statement is what stays of the
placeholders of the statement, with the same names and texts in the same order, each moved by the
growth at those in front of it. So converting once more with the same bindings changes nothing, and
neither does converting with a mapping that binds none of the names that stay. -/
theorem scan_of_convert {sql : String} {c : Conversion}
    (h : convert sql bindings none = .ok c) :
    (scan c.sql).map (fun p => (p.name, p.text)) =
        ((scan sql).filter (stays bindings)).map (fun p => (p.name, p.text)) ∧
      (∀ before p after, scan sql = before ++ p :: after → stays bindings p = true →
        (scan c.sql)[(before.filter (stays bindings)).length]? =
          some ⟨p.name, p.position + totalGrowth bindings before,
            (before.filter (stays bindings)).length, p.text⟩) ∧
      (∃ again, convert c.sql bindings none = .ok again ∧ again.sql = c.sql ∧
        again.parameters = []) ∧
      ∀ later : Value, later.isMapping = true →
        (∀ p ∈ scan sql, stays bindings p = true → later.find? p.name = none) →
        ∃ again, convert c.sql later none = .ok again ∧ again.sql = c.sql ∧
          again.parameters = [] := by
  obtain ⟨hmisuse, -, rfl⟩ := convert_eq_ok_iff.mp h
  have hscan : scan (converted sql bindings).sql =
      locate 0 0 (resolve bindings (pieces sql.toList)) := by
    rw [scan_eq_locate, pieces_converted]
  refine ⟨?_, fun before p after hsplit hp => ?_, ?_, fun later hmap hlater => ?_⟩
  · rw [hscan, scan_eq_locate]
    exact map_locate_resolve 0 0 0 0 _
  · rw [scan_eq_locate] at hsplit
    rw [hscan, getElem?_locate_resolve hsplit hp]
    simp
  · refine convert_of_unbound ?_ fun name hname => ?_
    · rw [tokenNames_pieces_converted]
      exact misuse?_filter_unbound hmisuse
    · rw [tokenNames_pieces_converted, List.mem_filter] at hname
      exact Option.isNone_iff_eq_none.mp hname.2
  · refine convert_of_unbound (Value.misuse?_of_isMapping hmap) fun name hname => ?_
    rw [tokenNames_pieces_converted, List.mem_filter] at hname
    obtain ⟨hmem, hunbound⟩ := hname
    obtain ⟨p, hp, rfl⟩ := exists_mem_scan hmem
    exact hlater p hp hunbound

/-- A name that stays between two that become marks, each with a colon in front of its own. -/
theorem scan_of_convert_chain :
    ∃ c, convert ":a::b::c:" (.dict .plain [(.str "a", .int 5), (.str "c", .seq .list [])]) none =
        .ok c ∧
      c.sql = "?::b:():" ∧
      (scan c.sql).map (fun p => (p.name, p.text)) = [("b", ":b")] ∧
      (scan c.sql)[0]? = some ⟨"b", 2, 0, ":b"⟩ ∧
      ∃ again, convert c.sql (.dict .plain [(.str "a", .int 5), (.str "c", .seq .list [])]) none =
        .ok again ∧ again.sql = c.sql ∧ again.parameters = [] := by
  have hpieces : pieces ":a::b::c:".toList =
      [.token ['a'], .plain ':', .token ['b'], .plain ':', .token ['c'], .plain ':'] :=
    pieces_eq_iff.mpr (by decide)
  have hscan : scan ":a::b::c:" = [ofName ['a'] 0 0, ofName ['b'] 3 1, ofName ['c'] 6 2] := by
    rw [scan_eq_locate, hpieces]
    rfl
  have h : convert ":a::b::c:" (.dict .plain [(.str "a", .int 5), (.str "c", .seq .list [])]) none =
      .ok (converted ":a::b::c:" (.dict .plain [(.str "a", .int 5), (.str "c", .seq .list [])])) :=
    convert_eq_ok_iff.mpr ⟨Value.misuse?_of_isMapping rfl, by rw [hpieces]; rfl, rfl⟩
  obtain ⟨hleft, hplaces, hagain, -⟩ := scan_of_convert h
  refine ⟨_, h, ?_, ?_, ?_, hagain⟩
  · rw [converted_sql, hpieces]
    rfl
  · rw [hleft, hscan]
    rfl
  · exact hplaces [ofName ['a'] 0 0] (ofName ['b'] 3 1) [ofName ['c'] 6 2] hscan rfl

end SqlBind
