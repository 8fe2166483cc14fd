import SqlBind.Placeholder.Scan

/-!
# The Pieces of a Statement

A scan tells where the placeholders of a statement are, by offsets. This module takes a statement
apart instead: into *pieces*, each a character outside of every placeholder or a placeholder. The
pieces spell the statement (`spell_pieces`), and the placeholders of a scan are the tokens among
them with their offsets counted up (`scanFrom_eq_locate`). What is said about pieces needs no
offsets any more.

Not every list of pieces is the one of a statement: a colon in front of a name would be read as a
token, and a token would swallow a name character behind it. A list of pieces is *settled* if
neither happens anywhere. The settled lists are exactly those that a statement falls into
(`pieces_eq_iff`).

## Main results

* `spell_pieces`: nothing of a statement is lost.
* `pieces_eq_iff`: the pieces of a statement are the settled ones that spell it.
* `scanFrom_eq_locate`: the placeholders of a scan are the tokens among the pieces.
-/

namespace SqlBind.Placeholder

/-- A piece of a statement: a character outside of every placeholder, or a placeholder with its
name. -/
inductive Piece where
  | plain (c : Char)
  | token (name : List Char)
  deriving DecidableEq, Repr

/-- The characters of a piece. -/
def Piece.chars : Piece → List Char
  | .plain c => [c]
  | .token name => ':' :: name

/-- The text that pieces spell. -/
def spell (ps : List Piece) : List Char := ps.flatMap Piece.chars

/-- The pieces of a statement from left to right. -/
def pieces : List Char → List Piece
  | [] => []
  | c :: rest =>
    if c = ':' ∧ leadingName rest ≠ [] then
      .token (leadingName rest) :: pieces (afterName rest)
    else .plain c :: pieces rest
termination_by s => s.length
decreasing_by
  · have := length_afterName_le rest
    simp only [List.length_cons]
    omega
  · simp

/-- Whether a text begins with a name character, so that a colon in front of it is read as the
beginning of a placeholder, and a placeholder in front of it grows. -/
def startsName (s : List Char) : Bool := s.head?.any isNameChar

/-- Pieces none of which is read differently because of what follows it. -/
inductive Settled : List Piece → Prop
  | nil : Settled []
  | plain {c : Char} {rest : List Piece} :
      Settled rest → (c = ':' → startsName (spell rest) = false) → Settled (.plain c :: rest)
  | token {name : List Char} {rest : List Piece} :
      Settled rest → name ≠ [] → (∀ c ∈ name, isNameChar c = true) →
      startsName (spell rest) = false → Settled (.token name :: rest)

/-! ### What pieces spell -/

@[simp] theorem spell_nil : spell [] = [] := rfl

@[simp] theorem spell_plain {c : Char} {rest : List Piece} :
    spell (.plain c :: rest) = c :: spell rest := rfl

@[simp] theorem spell_token {name : List Char} {rest : List Piece} :
    spell (.token name :: rest) = ':' :: (name ++ spell rest) := rfl

@[simp] theorem spell_append {ps qs : List Piece} : spell (ps ++ qs) = spell ps ++ spell qs :=
  List.flatMap_append

/-- Characters spell themselves. -/
@[simp] theorem spell_map_plain (s : List Char) : spell (s.map .plain) = s := by
  induction s with
  | nil => rfl
  | cons c rest ih => rw [List.map_cons, spell_plain, ih]

/-- A colon with a name behind it is a token. -/
theorem pieces_cons_of_name {rest : List Char} (h : leadingName rest ≠ []) :
    pieces (':' :: rest) = .token (leadingName rest) :: pieces (afterName rest) := by
  rw [pieces, if_pos ⟨rfl, h⟩]

/-- Any other character is a piece of its own. -/
theorem pieces_cons_of_not {c : Char} {rest : List Char}
    (h : ¬(c = ':' ∧ leadingName rest ≠ [])) : pieces (c :: rest) = .plain c :: pieces rest := by
  rw [pieces, if_neg h]

/-- **Nothing of a statement is lost**: its pieces spell it. -/
@[simp] theorem spell_pieces (s : List Char) : spell (pieces s) = s := by
  induction s using pieces.induct with
  | case1 => rw [pieces, spell_nil]
  | case2 c rest h ih =>
      obtain ⟨rfl, hname⟩ := h
      rw [pieces_cons_of_name hname, spell_token, ih, leadingName_append_afterName]
  | case3 c rest h ih => rw [pieces_cons_of_not h, spell_plain, ih]

/-! ### Where names end -/

@[simp] theorem startsName_nil : startsName [] = false := rfl

@[simp] theorem startsName_cons {c : Char} {rest : List Char} :
    startsName (c :: rest) = isNameChar c := rfl

/-- A colon is not part of a name. -/
theorem isNameChar_colon : isNameChar ':' = false := by decide

/-- There is a name exactly where a text begins with a name character. -/
theorem leadingName_eq_nil_iff {s : List Char} : leadingName s = [] ↔ startsName s = false := by
  cases s with
  | nil => simp [leadingName]
  | cons c rest => cases h : isNameChar c <;> simp [leadingName, h]

/-- What is left behind a name does not begin with a name character. -/
theorem startsName_afterName (s : List Char) : startsName (afterName s) = false := by
  induction s with
  | nil => rfl
  | cons c rest ih =>
      cases h : isNameChar c with
      | false => simp [afterName, h]
      | true => rwa [afterName, List.dropWhile_cons_of_pos h]

/-- Every character of a name is a name character. -/
theorem isNameChar_of_mem_leadingName {c : Char} {s : List Char} (h : c ∈ leadingName s) :
    isNameChar c = true := by
  induction s with
  | nil => simp [leadingName] at h
  | cons d rest ih =>
      cases hd : isNameChar d with
      | false => simp [leadingName, hd] at h
      | true =>
          rw [leadingName, List.takeWhile_cons_of_pos hd] at h
          rcases List.mem_cons.mp h with rfl | h
          · exact hd
          · exact ih h

/-- A run of name characters that cannot grow is the name that a text begins with. -/
theorem leadingName_append {name rest : List Char} (hname : ∀ c ∈ name, isNameChar c = true)
    (hrest : startsName rest = false) : leadingName (name ++ rest) = name := by
  rw [leadingName, List.takeWhile_append_of_pos hname]
  have hstop : leadingName rest = [] := leadingName_eq_nil_iff.mpr hrest
  rw [leadingName] at hstop
  rw [hstop, List.append_nil]

/-- Behind a run of name characters that cannot grow comes the rest. -/
theorem afterName_append {name rest : List Char} (hname : ∀ c ∈ name, isNameChar c = true)
    (hrest : startsName rest = false) : afterName (name ++ rest) = rest := by
  have h := leadingName_append_afterName (name ++ rest)
  rw [leadingName_append hname hrest] at h
  exact List.append_cancel_left h

/-! ### Settled pieces -/

/-- **The pieces of a statement are settled.** -/
theorem settled_pieces (s : List Char) : Settled (pieces s) := by
  induction s using pieces.induct with
  | case1 =>
      rw [pieces]
      exact .nil
  | case2 c rest h ih =>
      obtain ⟨rfl, hname⟩ := h
      rw [pieces_cons_of_name hname]
      refine .token ih hname (fun c hc => isNameChar_of_mem_leadingName hc) ?_
      rw [spell_pieces]
      exact startsName_afterName rest
  | case3 c rest h ih =>
      rw [pieces_cons_of_not h]
      refine .plain ih fun hc => ?_
      rw [spell_pieces]
      -- a colon that is no token has no name behind it
      have hnil : leadingName rest = [] := Decidable.byContradiction fun hname => h ⟨hc, hname⟩
      exact leadingName_eq_nil_iff.mp hnil

/-- **Settled pieces are read back** from what they spell. -/
theorem pieces_spell {ps : List Piece} (h : Settled ps) : pieces (spell ps) = ps := by
  induction h with
  | nil => rw [spell_nil, pieces]
  | @plain c rest _ hcolon ih =>
      rw [spell_plain, pieces_cons_of_not, ih]
      rintro ⟨hc, hname⟩
      exact hname (leadingName_eq_nil_iff.mpr (hcolon hc))
  | @token name rest _ hne hname hrest ih =>
      have hlead : leadingName (name ++ spell rest) = name := leadingName_append hname hrest
      rw [spell_token, pieces_cons_of_name (by rwa [hlead]), hlead, afterName_append hname hrest,
        ih]

/-- **A statement falls into the settled pieces that spell it.** -/
theorem pieces_eq_iff {s : List Char} {ps : List Piece} :
    pieces s = ps ↔ Settled ps ∧ spell ps = s := by
  constructor
  · rintro rfl
    exact ⟨settled_pieces s, spell_pieces s⟩
  · rintro ⟨hsettled, rfl⟩
    exact pieces_spell hsettled

/-- When a character and what follows it are settled. -/
theorem settled_plain_iff {c : Char} {rest : List Piece} :
    Settled (.plain c :: rest) ↔ Settled rest ∧ (c = ':' → startsName (spell rest) = false) := by
  constructor
  · rintro (_ | ⟨hrest, hcolon⟩)
    exact ⟨hrest, hcolon⟩
  · exact fun ⟨hrest, hcolon⟩ => .plain hrest hcolon

/-- When a token and what follows it are settled. -/
theorem settled_token_iff {name : List Char} {rest : List Piece} :
    Settled (.token name :: rest) ↔
      Settled rest ∧ name ≠ [] ∧ name.all isNameChar = true ∧ startsName (spell rest) = false := by
  rw [List.all_eq_true]
  constructor
  · rintro (_ | _ | ⟨hrest, hne, hname, hstops⟩)
    exact ⟨hrest, hne, hname, hstops⟩
  · exact fun ⟨hrest, hne, hname, hstops⟩ => .token hrest hne hname hstops

/-- Whether pieces are settled can be decided, piece by piece. -/
instance decidableSettled : (ps : List Piece) → Decidable (Settled ps)
  | [] => .isTrue .nil
  | .plain _ :: rest =>
      have := decidableSettled rest
      decidable_of_iff _ settled_plain_iff.symm
  | .token _ :: rest =>
      have := decidableSettled rest
      decidable_of_iff _ settled_token_iff.symm

/-! ### Scanning by pieces -/

/-- The placeholders among pieces, when `position` characters and `ordinal` placeholders lie
behind. -/
def locate (position ordinal : Nat) : List Piece → List Placeholder
  | [] => []
  | .plain _ :: rest => locate (position + 1) ordinal rest
  | .token name :: rest =>
    ofName name position ordinal :: locate (position + 1 + name.length) (ordinal + 1) rest

/-- **A scan finds the tokens** among the pieces of a statement. -/
theorem scanFrom_eq_locate (position ordinal : Nat) (s : List Char) :
    scanFrom position ordinal s = locate position ordinal (pieces s) := by
  induction s using pieces.induct generalizing position ordinal with
  | case1 => rw [scanFrom_nil, pieces, locate]
  | case2 c rest h ih =>
      obtain ⟨rfl, hname⟩ := h
      rw [scanFrom_cons_of_name hname, pieces_cons_of_name hname, locate, ih]
  | case3 c rest h ih => rw [scanFrom_cons_of_not h, pieces_cons_of_not h, locate, ih]

/-- The placeholders of a statement are those among its pieces. -/
theorem scan_eq_locate (sql : String) : scan sql = locate 0 0 (pieces sql.toList) :=
  scanFrom_eq_locate 0 0 sql.toList

end SqlBind.Placeholder
