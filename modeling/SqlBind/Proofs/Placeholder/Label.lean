import SqlBind.Proofs.Placeholder.Grammar

/-!
# Renaming the Placeholders of a Statement

A name can be any run of name characters, and a function that takes names to names, no two of them
to the same one, renames them (`Renames`). A statement is renamed by putting a colon and the new
name where a placeholder stood; the gaps between the placeholders stay (`renamed`).

New names may be longer or shorter than the old ones, so everything moves. But nothing is read
differently: a new name neither joins what follows it nor ends early, and no colon of a gap comes to
stand in front of a name. The pieces of the renamed statement are the pieces of the statement with
new names in the tokens (`pieces_renamed`).

## Main definitions

* `IsName`: what can be the name of a placeholder.
* `Renames`: a renaming of names.
* `renamed`: a statement with new names.

## Main results

* `Settled.map_renamed`: pieces stay settled when their tokens are renamed.
* `toList_renamed`, `pieces_renamed`: a renamed statement by its pieces.
-/

namespace SqlBind.Placeholder

open Text

/-- A text that can be the name of a placeholder: not empty, and of name characters alone. -/
def IsName (name : String) : Prop := name.toList ≠ [] ∧ ∀ c ∈ name.toList, isNameChar c = true

instance (name : String) : Decidable (IsName name) :=
  decidable_of_iff (name.toList ≠ [] ∧ name.toList.all isNameChar = true)
    (and_congr_right fun _ => List.all_eq_true)

/-- A function that renames: it takes names to names, and no two names to the same one. What it does
to other texts does not matter. -/
structure Renames (r : String → String) : Prop where
  isName : ∀ {name : String}, IsName name → IsName (r name)
  injective : ∀ {m n : String}, IsName m → IsName n → r m = r n → m = n

/-- The statement in which every placeholder has the new name. -/
def renamed (r : String → String) (sql : String) : String :=
  String.ofList (alternate (gaps sql.toList 0 (scan sql))
    ((scan sql).map fun p => ':' :: (r p.name).toList))

/-- A piece with the new name, if it is a token. -/
def Piece.renamed (r : String → String) : Piece → Piece
  | .plain c => .plain c
  | .token name => .token (r (String.ofList name)).toList

variable {r : String → String}

/-! ### Pieces -/

/-- Renaming changes nothing about whether what follows can make a name grow. -/
theorem startsName_spell_map_renamed (ps : List Piece) :
    startsName (spell (ps.map (Piece.renamed r))) = startsName (spell ps) := by
  cases ps with
  | nil => rfl
  | cons p rest =>
      cases p with
      | plain c => rfl
      | token name => rfl

/-- **Pieces stay settled** when their tokens are renamed. -/
theorem Settled.map_renamed {ps : List Piece} (hr : Renames r) (h : Settled ps) :
    Settled (ps.map (Piece.renamed r)) := by
  induction h with
  | nil => exact .nil
  | @plain c rest _ hcolon ih =>
      exact .plain ih fun hc => (startsName_spell_map_renamed rest).trans (hcolon hc)
  | @token name rest hrest hne hname hstops ih =>
      have hold : IsName (String.ofList name) := by
        rw [IsName, String.toList_ofList]
        exact ⟨hne, hname⟩
      obtain ⟨hne', hname'⟩ := hr.isName hold
      exact .token ih hne' hname' ((startsName_spell_map_renamed rest).trans hstops)

/-! ### Statements -/

/-- **New names between the gaps** spell the renamed pieces. The statement falls into what lies
behind, a gap of plain characters that was passed, and what the remaining pieces spell. -/
theorem alternate_gaps_locate {behind gap : List Char} {ordinal : Nat} {ps : List Piece} :
    alternate
        (gaps (behind ++ (gap ++ spell ps)) behind.length
          (locate (behind ++ gap).length ordinal ps))
        ((locate (behind ++ gap).length ordinal ps).map fun p => ':' :: (r p.name).toList) =
      gap ++ spell (ps.map (Piece.renamed r)) := by
  induction ps generalizing behind gap ordinal with
  | nil => rw [locate, gaps, sliceFrom_append, List.map_nil, alternate, List.map_nil]
  | cons p rest ih =>
      cases p with
      | plain c =>
          -- the character joins the gap
          have hlength : (behind ++ gap).length + 1 = (behind ++ (gap ++ [c])).length := by
            simp only [List.length_append, List.length_cons, List.length_nil]
            omega
          have hwhole : behind ++ (gap ++ spell (.plain c :: rest)) =
              behind ++ (gap ++ [c] ++ spell rest) := by simp
          rw [locate, hlength, hwhole, ih, List.append_assoc]
          rfl
      | token name =>
          have hposition : (ofName name (behind ++ gap).length ordinal).position =
              ((behind ++ gap).length : Int) := rfl
          have htext : (ofName name (behind ++ gap).length ordinal).text.toList = ':' :: name :=
            String.toList_ofList
          have hwhole : behind ++ (gap ++ spell (.token name :: rest)) =
              behind ++ gap ++ ':' :: name ++ ([] ++ spell rest) := by simp
          have hlater := @ih (behind ++ gap ++ ':' :: name) [] (ordinal + 1)
          rw [List.append_nil] at hlater
          rw [locate, gaps, slice_gap hposition, stop_of_position hposition, htext, List.map_cons,
            alternate, ← length_append_token, hwhole, hlater, List.append_assoc]
          rfl

/-- The characters of a renamed statement are those of its renamed pieces. -/
theorem toList_renamed (r : String → String) (sql : String) :
    (renamed r sql).toList = spell ((pieces sql.toList).map (Piece.renamed r)) := by
  have h := @alternate_gaps_locate r [] [] 0 (pieces sql.toList)
  rw [spell_pieces, List.nil_append, List.nil_append, List.nil_append, List.length_nil,
    ← scan_eq_locate] at h
  rw [renamed, String.toList_ofList]
  exact h

/-- **The pieces of a renamed statement** are those of the statement, with new names. -/
theorem pieces_renamed (hr : Renames r) (sql : String) :
    pieces (renamed r sql).toList = (pieces sql.toList).map (Piece.renamed r) := by
  rw [toList_renamed]
  exact pieces_spell ((settled_pieces sql.toList).map_renamed hr)

end SqlBind.Placeholder
