import SqlBind.Proofs.Placeholder.Piece
import SqlBind.Proofs.Rewrite.Reply

/-!
# Conversion by Pieces

A conversion works with offsets: it takes the placeholders of a scan, cuts the stretches between
them out of the statement and joins these with what the placeholders become. In terms of pieces
(`SqlBind.Proofs.Placeholder.Piece`) all this is one pass: every token with a bound name becomes
plain characters, and everything else stays (`resolve`). `convert_eq` says that the two agree.

The pieces that result are settled again (`Placeholder.Settled.resolve`), so they are the pieces of
the converted statement: marks neither join with what stands around them nor end a name earlier than
before.

## Main results

* `splice_locate`: splicing by offsets spells the resolved pieces.
* `convert_eq`: a conversion in terms of replies and pieces.
* `Placeholder.Settled.resolve`: resolved pieces are settled.
* `pieces_converted`: the pieces of a converted statement are the resolved pieces.
-/

namespace SqlBind

open Placeholder Text

/-- The names of the tokens among pieces. -/
def tokenNames : List Piece → List String
  | [] => []
  | .plain _ :: rest => tokenNames rest
  | .token name :: rest => String.ofList name :: tokenNames rest

/-- Pieces after every token with a bound name has become its marks. -/
def resolve (bindings : Value) : List Piece → List Piece
  | [] => []
  | .plain c :: rest => .plain c :: resolve bindings rest
  | .token name :: rest =>
    match bindings.find? (String.ofList name) with
    | none => .token name :: resolve bindings rest
    | some v => v.marks.map .plain ++ resolve bindings rest

/-- The conversion of a statement none of whose names is bound to a nested sequence. -/
def converted (sql : String) (bindings : Value) : Conversion :=
  .ofEmissions sql ((scan sql).map fun p => (p, emission bindings p))

variable {bindings : Value}

@[simp] theorem resolve_nil : resolve bindings [] = [] := rfl

@[simp] theorem resolve_plain {c : Char} {rest : List Piece} :
    resolve bindings (.plain c :: rest) = .plain c :: resolve bindings rest := rfl

/-- A token whose name is not bound stays. -/
theorem resolve_token_of_none {name : List Char} {rest : List Piece}
    (h : bindings.find? (String.ofList name) = none) :
    resolve bindings (.token name :: rest) = .token name :: resolve bindings rest := by
  rw [resolve, h]

/-- A token whose name is bound becomes marks. -/
theorem resolve_token_of_some {name : List Char} {rest : List Piece} {v : Value}
    (h : bindings.find? (String.ofList name) = some v) :
    resolve bindings (.token name :: rest) = v.marks.map .plain ++ resolve bindings rest := by
  rw [resolve, h]

/-! ### Splicing -/

/-- The names of the placeholders among pieces are those of the tokens. -/
@[simp] theorem map_name_locate (position ordinal : Nat) (ps : List Piece) :
    (locate position ordinal ps).map (·.name) = tokenNames ps := by
  induction ps generalizing position ordinal with
  | nil => rfl
  | cons p rest ih =>
      cases p with
      | plain c => rw [locate, tokenNames, ih]
      | token name => rw [locate, tokenNames, List.map_cons, ih, ofName]

/-- The names of the placeholders of a statement are those of the tokens among its pieces. -/
theorem map_name_scan (sql : String) :
    (scan sql).map (·.name) = tokenNames (pieces sql.toList) := by
  rw [scan_eq_locate, map_name_locate]

/-- A name among the pieces of a statement is that of a placeholder. -/
theorem exists_mem_scan {sql name : String} (h : name ∈ tokenNames (pieces sql.toList)) :
    ∃ p ∈ scan sql, p.name = name := by
  rw [← map_name_scan] at h
  exact List.mem_map.mp h

/-- **Splicing by offsets spells the resolved pieces.** The statement falls into what has been
copied already, a gap of plain characters that the scan has passed but the splice has not copied,
and what the remaining pieces spell. -/
theorem splice_locate {whole front gap : List Char} {ps : List Piece} {ordinal : Nat}
    (h : whole = front ++ gap ++ spell ps) :
    splice whole front.length
        ((locate (front ++ gap).length ordinal ps).map fun p => (p, emission bindings p)) =
      gap ++ spell (resolve bindings ps) := by
  induction ps generalizing front gap ordinal with
  | nil =>
      rw [locate, List.map_nil, splice, h, List.append_assoc, sliceFrom_append, resolve_nil]
  | cons p rest ih =>
      cases p with
      | plain c =>
          -- the character joins the gap
          have hmove : whole = front ++ (gap ++ [c]) ++ spell rest := by
            rw [h, spell_plain]
            simp
          have hlength : (front ++ gap).length + 1 = (front ++ (gap ++ [c])).length := by
            simp only [List.length_append, List.length_cons, List.length_nil]
            omega
          rw [locate, hlength, ih hmove, resolve_plain, spell_plain, List.append_assoc,
            List.singleton_append]
      | token name =>
          -- the gap is copied, and the next stretch begins behind the token
          have hmove : whole = (front ++ gap ++ ':' :: name) ++ [] ++ spell rest := by
            rw [h, spell_token]
            simp
          have hlength : (front ++ gap).length + 1 + name.length =
              ((front ++ gap ++ ':' :: name) ++ []).length := by
            simp only [List.length_append, List.length_cons, List.length_nil]
            omega
          have hstop : (ofName name (front ++ gap).length ordinal).stop =
              ((front ++ gap ++ ':' :: name).length : Int) := by
            simp only [Placeholder.stop, ofName, String.length_ofList, List.length_append,
              List.length_cons]
            omega
          have hgap : slice whole front.length
              (ofName name (front ++ gap).length ordinal).position = gap := by
            rw [ofName, h]
            exact slice_middle front gap _
          rw [locate, List.map_cons, splice, hgap, hstop, hlength, ih hmove, List.nil_append]
          cases hfind : bindings.find? (String.ofList name) with
          | none => simp [emission, ofName, hfind, resolve_token_of_none]
          | some v => simp [emission, ofName, hfind, resolve_token_of_some hfind]

/-- The text of a converted statement. -/
theorem converted_sql (sql : String) :
    (converted sql bindings).sql =
      String.ofList (spell (resolve bindings (pieces sql.toList))) := by
  have hwhole : sql.toList = [] ++ [] ++ spell (pieces sql.toList) := by
    rw [spell_pieces, List.nil_append, List.nil_append]
  have hsplice := @splice_locate bindings _ _ _ _ 0 hwhole
  rw [converted, Conversion.ofEmissions, scan_eq_locate]
  exact congrArg String.ofList hsplice

/-- The values of what placeholders become are those that their names contribute. -/
theorem flatMap_values_emission (bindings : Value) (ps : List Placeholder) :
    (ps.map fun p => (p, emission bindings p)).flatMap (·.2.values) =
      boundParts bindings (ps.map (·.name)) := by
  have hvalues : (fun p => (emission bindings p).values) =
      fun p => ((bindings.find? p.name).map Value.parts).getD [] := by
    funext p
    rw [emission]
    cases bindings.find? p.name <;> rfl
  rw [boundParts, List.flatMap_map, List.flatMap_map]
  exact congrArg (List.flatMap · ps) hvalues

/-- The values of a converted statement. -/
theorem converted_parameters (sql : String) :
    (converted sql bindings).parameters =
      boundParts bindings (tokenNames (pieces sql.toList)) := by
  rw [converted, Conversion.ofEmissions, ← map_name_scan]
  exact flatMap_values_emission bindings (scan sql)

/-! ### Converting -/

/-- **A conversion by replies**: what bindings cannot be asked comes first, then the first name that
is bound to a nested sequence, and otherwise every placeholder is replaced. -/
theorem convert_eq (sql : String) (bindings : Value) :
    convert sql bindings none =
      match bindings.misuse? (tokenNames (pieces sql.toList)) with
      | some problem => .error (.badLookup problem)
      | none =>
        match firstNested? bindings (tokenNames (pieces sql.toList)) with
        | some (name, index) => .error (nestedSequenceFault name index (.str sql))
        | none => .ok (converted sql bindings) := by
  rw [convert, Option.getD_none, convertAt, emitAll_eq, map_name_scan]
  cases bindings.misuse? (tokenNames (pieces sql.toList)) with
  | some problem => rfl
  | none =>
      cases firstNested? bindings (tokenNames (pieces sql.toList)) with
      | some found => rfl
      | none => rfl

/-- When a conversion succeeds, and with what. -/
theorem convert_eq_ok_iff {sql : String} {c : Conversion} :
    convert sql bindings none = .ok c ↔
      bindings.misuse? (tokenNames (pieces sql.toList)) = none ∧
        firstNested? bindings (tokenNames (pieces sql.toList)) = none ∧
        c = converted sql bindings := by
  rw [convert_eq]
  cases bindings.misuse? (tokenNames (pieces sql.toList)) with
  | some problem => simp
  | none =>
      cases firstNested? bindings (tokenNames (pieces sql.toList)) with
      | some found => simp
      | none => simp [eq_comm]

/-- When a conversion fails because of a nested sequence, and because of which. -/
theorem convert_eq_nested_iff {sql name : String} {index : Nat} :
    convert sql bindings none = .error (nestedSequenceFault name index (.str sql)) ↔
      bindings.misuse? (tokenNames (pieces sql.toList)) = none ∧
        firstNested? bindings (tokenNames (pieces sql.toList)) = some (name, index) := by
  rw [convert_eq]
  cases bindings.misuse? (tokenNames (pieces sql.toList)) with
  | some problem => simp [badLookup_ne_nestedSequenceFault]
  | none =>
      cases firstNested? bindings (tokenNames (pieces sql.toList)) with
      | none => simp
      | some found =>
          obtain ⟨name', index'⟩ := found
          simp only [Except.error.injEq, Option.some.injEq, Prod.mk.injEq, true_and]
          constructor
          · exact nestedSequenceFault_inj
          · rintro ⟨rfl, rfl⟩
            rfl

/-- **A conversion from pieces**: with a mapping that binds no name to a nested sequence, the text
is what the resolved pieces spell, and the values are the parts of what the names are bound to. -/
theorem convert_of_pieces {sql text : String} {ps : List Piece} {values : List Value}
    (hmap : bindings.isMapping = true) (hpieces : pieces sql.toList = ps)
    (hnested : firstNested? bindings (tokenNames ps) = none)
    (htext : String.ofList (spell (resolve bindings ps)) = text)
    (hvalues : boundParts bindings (tokenNames ps) = values) :
    ∃ c, convert sql bindings none = .ok c ∧ c.sql = text ∧ c.parameters = values := by
  rw [← hpieces] at hnested htext hvalues
  refine ⟨converted sql bindings, ?_, ?_, ?_⟩
  · exact convert_eq_ok_iff.mpr ⟨Value.misuse?_of_isMapping hmap, hnested, rfl⟩
  · rw [converted_sql, htext]
  · rw [converted_parameters, hvalues]

/-! ### Pieces of a converted statement -/

/-- Characters none of which is a colon are settled in front of settled pieces. -/
theorem Placeholder.Settled.plain_append {s : List Char} {ps : List Piece} (hs : ':' ∉ s)
    (h : Settled ps) : Settled (s.map .plain ++ ps) := by
  induction s with
  | nil => exact h
  | cons c rest ih =>
      have hc : c ≠ ':' := fun hc => hs (by simp [hc])
      have hrest : ':' ∉ rest := fun hrest => hs (List.mem_cons_of_mem c hrest)
      exact .plain (ih hrest) fun heq => absurd heq hc

/-- Marks do not begin with a name character. -/
theorem startsName_marks_append (v : Value) (s : List Char) :
    startsName (v.marks ++ s) = false := by
  have hhead : startsName (v.marks ++ s) = v.marks.head?.any isNameChar := by
    rw [startsName, List.head?_append]
    rcases head?_marks v with h | h <;> rw [h] <;> rfl
  rw [hhead]
  rcases head?_marks v with h | h <;> rw [h] <;> decide

/-- Resolving changes nothing about whether what follows can make a name grow. -/
theorem startsName_spell_resolve (ps : List Piece) :
    startsName (spell (resolve bindings ps)) = startsName (spell ps) := by
  cases ps with
  | nil => rfl
  | cons p rest =>
      cases p with
      | plain c => rfl
      | token name =>
          have hcolon : startsName (spell (.token name :: rest)) = false := isNameChar_colon
          rw [hcolon]
          cases hfind : bindings.find? (String.ofList name) with
          | none =>
              rw [resolve_token_of_none hfind]
              exact isNameChar_colon
          | some v =>
              rw [resolve_token_of_some hfind, spell_append, spell_map_plain]
              exact startsName_marks_append v _

/-- **Resolved pieces are settled**: marks neither are read as something else nor change how what
stands in front of them is read. -/
theorem Placeholder.Settled.resolve {ps : List Piece} (h : Settled ps) :
    Settled (SqlBind.resolve bindings ps) := by
  induction h with
  | nil => exact .nil
  | @plain c rest _ hcolon ih =>
      exact .plain ih fun hc => (startsName_spell_resolve rest).trans (hcolon hc)
  | @token name rest _ hne hname hrest ih =>
      cases hfind : bindings.find? (String.ofList name) with
      | none =>
          rw [resolve_token_of_none hfind]
          exact .token ih hne hname ((startsName_spell_resolve rest).trans hrest)
      | some v =>
          rw [resolve_token_of_some hfind]
          exact ih.plain_append (colon_notMem_marks v)

/-- **The pieces of a converted statement** are the resolved pieces of the statement. -/
theorem pieces_converted (sql : String) :
    pieces (converted sql bindings).sql.toList = resolve bindings (pieces sql.toList) := by
  rw [converted_sql, String.toList_ofList]
  exact pieces_spell (settled_pieces sql.toList).resolve

end SqlBind
