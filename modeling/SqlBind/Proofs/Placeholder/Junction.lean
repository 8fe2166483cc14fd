import SqlBind.Proofs.Placeholder.Piece

/-!
# Statements End to End

Two statements put end to end are read as the two of them, unless a placeholder stands across the
place where they meet: the first ends in a colon with name characters behind it, or none, and the
second begins with a name character (`CutsToken`). A run of name characters that is not behind a
colon does no harm. The condition is exact (`pieces_append_iff`).

Where it holds the placeholders are those of the first statement, followed by those of the second
moved behind it (`scan_append`).
-/

namespace SqlBind

/-- A placeholder that is described in a text further on. -/
def Placeholder.moved (p : Placeholder) (characters ranks : Int) : Placeholder :=
  { p with position := p.position + characters, ordinal := p.ordinal + ranks }

namespace Placeholder

/-- Whether a placeholder, or a colon that becomes one, stands across the place where two texts
meet. -/
def CutsToken (u v : List Char) : Prop :=
  (∃ front name, u = front ++ ':' :: name ∧ ∀ c ∈ name, isNameChar c = true) ∧
    startsName v = true

/-! ### Cutting a token -/

/-- A text ends in a colon and a name if a colon is what it ends in after its last name characters
are taken away. -/
theorem exists_colon_name_iff {u : List Char} :
    (∃ front name, u = front ++ ':' :: name ∧ ∀ c ∈ name, isNameChar c = true) ↔
      (u.reverse.dropWhile isNameChar).head? = some ':' := by
  constructor
  · rintro ⟨front, name, rfl, hname⟩
    have hmem : ∀ c ∈ name.reverse, isNameChar c = true :=
      fun c hc => hname c (List.mem_reverse.mp hc)
    rw [List.reverse_append, List.reverse_cons, List.append_assoc,
      List.dropWhile_append_of_pos hmem]
    rfl
  · intro h
    obtain ⟨front, hfront⟩ := List.head?_eq_some_iff.mp h
    have hsplit := @List.takeWhile_append_dropWhile _ isNameChar u.reverse
    rw [hfront] at hsplit
    refine ⟨front.reverse, (u.reverse.takeWhile isNameChar).reverse, ?_, fun c hc => ?_⟩
    · have hreverse := congrArg List.reverse hsplit
      rw [List.reverse_reverse, List.reverse_append, List.reverse_cons, List.append_assoc]
        at hreverse
      exact hreverse.symm
    · exact isNameChar_of_mem_leadingName (List.mem_reverse.mp hc)

instance (u v : List Char) : Decidable (CutsToken u v) :=
  decidable_of_iff
    ((u.reverse.dropWhile isNameChar).head? = some ':' ∧ startsName v = true)
    (and_congr exists_colon_name_iff.symm Iff.rfl)

/-- More text in front of a token that is cut changes nothing. -/
theorem CutsToken.append_left {u v : List Char} (h : CutsToken u v) (front : List Char) :
    CutsToken (front ++ u) v := by
  obtain ⟨⟨before, name, rfl, hname⟩, hv⟩ := h
  exact ⟨⟨front ++ before, name, (List.append_assoc front before _).symm, hname⟩, hv⟩

/-- What begins with no name character still does not with more behind it, if the more begins with
none. -/
theorem startsName_append {s t : List Char} (hs : startsName s = false)
    (ht : s = [] → startsName t = false) : startsName (s ++ t) = false := by
  cases s with
  | nil => exact ht rfl
  | cons c rest => exact hs

/-! ### Pieces end to end -/

/-- **Settled pieces end to end are settled** if no token is cut. -/
theorem Settled.append {ps qs : List Piece} (hps : Settled ps) (hqs : Settled qs)
    (h : ¬CutsToken (spell ps) (spell qs)) : Settled (ps ++ qs) := by
  induction hps with
  | nil => exact hqs
  | @plain c rest _ hcolon ih =>
      have hrest : ¬CutsToken (spell rest) (spell qs) := fun hcut => h (hcut.append_left [c])
      rw [List.cons_append]
      refine .plain (ih hrest) fun hc => ?_
      rw [spell_append]
      refine startsName_append (hcolon hc) fun hend => ?_
      -- the colon is the last character of the first text
      refine Bool.eq_false_iff.mpr fun hstarts => h ⟨⟨[], [], ?_, ?_⟩, hstarts⟩
      · rw [spell_plain, hc, hend]
        rfl
      · exact fun d hd => nomatch hd
  | @token name rest _ hne hname hstops ih =>
      have hrest : ¬CutsToken (spell rest) (spell qs) :=
        fun hcut => h (hcut.append_left (':' :: name))
      rw [List.cons_append]
      refine .token (ih hrest) hne hname ?_
      rw [spell_append]
      refine startsName_append hstops fun hend => ?_
      -- the name is what the first text ends in
      refine Bool.eq_false_iff.mpr fun hstarts => h ⟨⟨[], name, ?_, hname⟩, hstarts⟩
      rw [spell_token, hend, List.append_nil]
      rfl

/-- What follows a run of name characters begins with none if the run does not grow. -/
theorem startsName_of_append {s t : List Char} (hs : ∀ c ∈ s, isNameChar c = true)
    (h : startsName (s ++ t) = false) : startsName t = false := by
  cases s with
  | nil => exact h
  | cons c rest =>
      rw [List.cons_append, startsName_cons, hs c List.mem_cons_self] at h
      cases h

/-- Pieces that are settled end to end cut no token. -/
theorem not_cutsToken_of_settled {ps qs : List Piece} (h : Settled (ps ++ qs)) :
    ¬CutsToken (spell ps) (spell qs) := by
  rintro ⟨⟨front, name, hspell, hname⟩, hstarts⟩
  -- behind the colon of the token that is cut there is nothing that could end its name
  have hcut : ∀ rest, startsName (spell (rest ++ qs)) = false →
      (∀ c ∈ spell rest, isNameChar c = true) → False := by
    intro rest hstops hall
    rw [spell_append] at hstops
    rw [startsName_of_append hall hstops] at hstarts
    cases hstarts
  induction ps generalizing front with
  | nil => cases front <;> cases hspell
  | cons p rest ih =>
      cases h with
      | @plain c _ hsettled hcolon =>
          cases front with
          | nil =>
              obtain ⟨rfl, rfl⟩ := List.cons.inj hspell
              exact hcut rest (hcolon rfl) hname
          | cons d front => exact ih hsettled front (List.cons.inj hspell).2
      | @token word _ hsettled _ hword hstops =>
          cases front with
          | nil =>
              obtain ⟨-, hrest⟩ := List.cons.inj hspell
              refine hcut rest hstops fun c hc => hname c ?_
              rw [← hrest]
              exact List.mem_append_right word hc
          | cons d front =>
              -- the name of this token has no colon in it, so the colon comes behind it
              obtain ⟨-, hrest⟩ := List.cons.inj hspell
              rcases List.append_eq_append_iff.mp hrest with ⟨gap, rfl, hgap⟩ | ⟨gap, hgap, hgap'⟩
              · exact ih hsettled gap hgap
              · cases gap with
                | nil => exact ih hsettled [] hgap'.symm
                | cons e gap =>
                    obtain ⟨rfl, -⟩ := List.cons.inj hgap'
                    have hmem : ':' ∈ word := by simp [hgap]
                    have hcolon := hword ':' hmem
                    rw [isNameChar_colon] at hcolon
                    cases hcolon

/-- **The pieces of two texts end to end** are those of the one and then those of the other exactly
if no token is cut. -/
theorem pieces_append_iff {u v : List Char} :
    pieces (u ++ v) = pieces u ++ pieces v ↔ ¬CutsToken u v := by
  have hspell : spell (pieces u ++ pieces v) = u ++ v := by
    rw [spell_append, spell_pieces, spell_pieces]
  rw [pieces_eq_iff, and_iff_left hspell]
  constructor
  · intro hsettled
    have hcut := not_cutsToken_of_settled hsettled
    rwa [spell_pieces, spell_pieces] at hcut
  · intro hcut
    exact (settled_pieces u).append (settled_pieces v) (by rwa [spell_pieces, spell_pieces])

/-! ### Placeholders end to end -/

/-- What lies behind only moves what is located. -/
theorem locate_eq_map_moved (position ordinal : Nat) (ps : List Piece) :
    locate position ordinal ps = (locate 0 0 ps).map (·.moved position ordinal) := by
  have hmoved : ∀ (position' ordinal' : Nat),
      locate (position' + position) (ordinal' + ordinal) ps =
        (locate position' ordinal' ps).map (·.moved position ordinal) := by
    induction ps with
    | nil => exact fun _ _ => rfl
    | cons p rest ih =>
        intro position' ordinal'
        cases p with
        | plain c =>
            rw [locate, locate, ← ih, Nat.add_right_comm]
        | token name =>
            have hposition : position' + position + 1 + name.length =
                position' + 1 + name.length + position := by omega
            have hordinal : ordinal' + ordinal + 1 = ordinal' + 1 + ordinal := by omega
            rw [locate, locate, List.map_cons, ← ih, hposition, hordinal]
            simp [ofName, moved]
  have h := hmoved 0 0
  rwa [Nat.zero_add, Nat.zero_add] at h

/-- Placeholders among pieces end to end are located one part behind the other. -/
theorem locate_append (position ordinal : Nat) (ps qs : List Piece) :
    locate position ordinal (ps ++ qs) =
      locate position ordinal ps ++
        locate (position + (spell ps).length) (ordinal + (locate position ordinal ps).length)
          qs := by
  induction ps generalizing position ordinal with
  | nil => rfl
  | cons p rest ih =>
      cases p with
      | plain c =>
          have hposition : position + 1 + (spell rest).length =
              position + (spell (.plain c :: rest)).length := by
            rw [spell_plain, List.length_cons]
            omega
          rw [List.cons_append, locate, locate, ih, hposition]
      | token name =>
          have hposition : position + 1 + name.length + (spell rest).length =
              position + (spell (.token name :: rest)).length := by
            rw [spell_token, List.length_cons, List.length_append]
            omega
          rw [List.cons_append, locate, locate, ih, hposition, List.length_cons, List.cons_append]
          congr 3
          omega

/-- **The placeholders of two statements end to end** are those of the first, and those of the
second moved behind it, if no token is cut. -/
theorem scan_append {u v : String} (h : ¬CutsToken u.toList v.toList) :
    scan (u ++ v) = scan u ++ (scan v).map (·.moved u.length (scan u).length) := by
  rw [scan_eq_locate, scan_eq_locate u, scan_eq_locate v, String.toList_append,
    pieces_append_iff.mpr h, locate_append, spell_pieces, String.length_toList, Nat.zero_add,
    Nat.zero_add, locate_eq_map_moved u.length]

end Placeholder

end SqlBind
