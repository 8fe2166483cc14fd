import Mathlib.Data.List.Sort
import SqlBind.Proofs.Placeholder.Fit
import SqlBind.Proofs.Placeholder.Piece

/-!
# The Grammar of Placeholders

Which placeholders a statement has can be said without a scan, offset by offset: one begins wherever
a colon stands with a name character behind it (`TokenAt`), and its name is the longest run of name
characters there. A scan reports exactly these placeholders (`eq_scan_iff`). It goes on behind each
one that it finds, and misses nothing by that: there is no colon in a name.

The placeholders of a scan fit the statement (`fits_scan`), so the statement falls apart at them,
and no placeholder begins in a gap.

## Main definitions

* `TokenAt`: a placeholder begins at an offset of a text.
* `Reports`: what placeholders have to be to report a statement exactly.

## Main results

* `exists_position_iff`: where the tokens among settled pieces begin.
* `fits_scan`: the placeholders of a scan fit the statement.
* `not_tokenAt_of_mem_gaps`: there is no token in the gaps between tokens.
* `eq_scan_iff`: a scan reports a statement exactly, and nothing else does.
-/

namespace SqlBind.Placeholder

open Text

/-- A placeholder begins at an offset of a text: a colon stands there, with a name character behind
it. -/
def TokenAt (s : List Char) (n : Nat) : Prop :=
  s[n]? = some ':' ∧ ∃ c, s[n + 1]? = some c ∧ isNameChar c = true

/-- The characters of names are the ASCII letters and digits and the underscore. -/
theorem isNameChar_iff {c : Char} :
    isNameChar c = true ↔
      ('A' ≤ c ∧ c ≤ 'Z') ∨ ('a' ≤ c ∧ c ≤ 'z') ∨ ('0' ≤ c ∧ c ≤ '9') ∨ c = '_' := by
  have hunfold : isNameChar c =
      (decide (c.val ≥ 'A'.val ∧ c.val ≤ 'Z'.val) ||
        (decide (c.val ≥ 'a'.val) && decide (c.val ≤ 'z'.val)) ||
        (decide (c.val ≥ '0'.val) && decide (c.val ≤ '9'.val)) || decide (c = '_')) := rfl
  simp only [hunfold, Bool.or_eq_true, Bool.and_eq_true, decide_eq_true_eq, or_assoc]
  rfl

/-! ### Where tokens begin -/

/-- No token begins in an empty text. -/
theorem not_tokenAt_nil (n : Nat) : ¬TokenAt [] n := fun h => nomatch h.1

/-- A token begins with a colon and a name. -/
theorem tokenAt_zero {c : Char} {s : List Char} :
    TokenAt (c :: s) 0 ↔ c = ':' ∧ startsName s = true := by
  cases s <;> simp [TokenAt]

/-- A character in front of a text moves its tokens. -/
theorem tokenAt_succ {c : Char} {s : List Char} {n : Nat} :
    TokenAt (c :: s) (n + 1) ↔ TokenAt s n := Iff.rfl

/-- No token begins in a name. -/
theorem tokenAt_name_append {name s : List Char} {n : Nat}
    (hname : ∀ c ∈ name, isNameChar c = true) :
    TokenAt (name ++ s) n ↔ ∃ k, n = name.length + k ∧ TokenAt s k := by
  induction name generalizing n with
  | nil => simp
  | cons c rest ih =>
      obtain ⟨hc, hrest⟩ := List.forall_mem_cons.mp hname
      cases n with
      | zero =>
          have hcolon : c ≠ ':' := by
            rintro rfl
            rw [isNameChar_colon] at hc
            cases hc
          rw [List.cons_append, tokenAt_zero]
          constructor
          · exact fun h => absurd h.1 hcolon
          · rintro ⟨k, hk, -⟩
            rw [List.length_cons] at hk
            omega
      | succ n =>
          rw [List.cons_append, tokenAt_succ, ih hrest]
          refine exists_congr fun k => and_congr_left fun _ => ?_
          rw [List.length_cons]
          omega

/-! ### Tokens among pieces -/

/-- How far it is to the end of a token. -/
theorem length_append_token (front name : List Char) :
    (front ++ ':' :: name).length = front.length + 1 + name.length := by
  rw [List.length_append, List.length_cons]
  omega

/-- Where the tokens are located that stand behind a gap of plain characters, they fit the text. -/
theorem fits_locate {behind gap : List Char} {ordinal : Nat} {ps : List Piece} :
    Fits behind (gap ++ spell ps) (locate (behind ++ gap).length ordinal ps) := by
  induction ps generalizing behind gap ordinal with
  | nil => exact .nil
  | cons p rest ih =>
      cases p with
      | plain c =>
          -- the character joins the gap
          have h := @ih behind (gap ++ [c]) ordinal
          rwa [← List.append_assoc, List.length_append, List.append_assoc] at h
      | token name =>
          have h := @ih (behind ++ gap ++ ':' :: name) [] (ordinal + 1)
          rw [List.append_nil, length_append_token] at h
          have htext : (ofName name (behind ++ gap).length ordinal).text.toList = ':' :: name :=
            String.toList_ofList
          rw [locate, spell_token, ← List.cons_append, ← htext]
          refine .cons gap rfl ?_
          rwa [htext]

/-- **The placeholders of a scan fit the statement.** -/
theorem fits_scan (sql : String) : Fits [] sql.toList (scan sql) := by
  have h := @fits_locate [] [] 0 (pieces sql.toList)
  rwa [spell_pieces, List.nil_append, List.nil_append, List.length_nil, ← scan_eq_locate] at h

/-- Nothing is located in what lies behind. -/
theorem position_le_of_mem_locate {position ordinal : Nat} {ps : List Piece} {p : Placeholder}
    (h : p ∈ locate position ordinal ps) : (position : Int) ≤ p.position := by
  induction ps generalizing position ordinal with
  | nil => cases h
  | cons q rest ih =>
      cases q with
      | plain c =>
          have := ih h
          omega
      | token name =>
          rcases List.mem_cons.mp h with rfl | h
          · exact Int.le_refl _
          · have := ih h
            omega

/-- **Tokens are located where they begin.** -/
theorem exists_position_iff {ps : List Piece} (h : Settled ps) (position ordinal n : Nat) :
    (∃ p ∈ locate position ordinal ps, p.position = ((position + n : Nat) : Int)) ↔
      TokenAt (spell ps) n := by
  induction h generalizing position ordinal n with
  | nil => simp [locate, not_tokenAt_nil]
  | @plain c rest _ hcolon ih =>
      rw [locate, spell_plain]
      cases n with
      | zero =>
          rw [tokenAt_zero]
          constructor
          · rintro ⟨p, hp, hposition⟩
            have := position_le_of_mem_locate hp
            omega
          · rintro ⟨hc, hstarts⟩
            rw [hcolon hc] at hstarts
            cases hstarts
      | succ n => rw [tokenAt_succ, ← ih (position + 1) ordinal, Nat.add_right_comm, Nat.add_assoc]
  | @token name rest _ hne hname hstops ih =>
      have hhead : (ofName name position ordinal).position = (position : Int) := rfl
      simp only [locate, spell_token, List.mem_cons, exists_eq_or_imp, hhead]
      cases n with
      | zero =>
          have hstarts : startsName (name ++ spell rest) = true := by
            obtain ⟨c, tail, rfl⟩ := List.exists_cons_of_ne_nil hne
            exact hname c List.mem_cons_self
          rw [tokenAt_zero]
          exact ⟨fun _ => ⟨rfl, hstarts⟩, fun _ => Or.inl rfl⟩
      | succ n =>
          -- behind the colon comes the name, in which no token begins
          rw [tokenAt_succ, tokenAt_name_append hname]
          constructor
          · rintro (hposition | ⟨p, hp, hposition⟩)
            · omega
            · have hle := position_le_of_mem_locate hp
              obtain ⟨k, rfl⟩ : ∃ k, n = name.length + k := ⟨n - name.length, by omega⟩
              refine ⟨k, rfl, (ih (position + 1 + name.length) (ordinal + 1) k).mp ⟨p, hp, ?_⟩⟩
              omega
          · rintro ⟨k, rfl, hk⟩
            obtain ⟨p, hp, hposition⟩ := (ih (position + 1 + name.length) (ordinal + 1) k).mpr hk
            refine Or.inr ⟨p, hp, ?_⟩
            omega

/-! ### What tokens say -/

/-- A located token has the name that a scan reads behind its colon, and its text. -/
theorem leadingName_of_mem_locate {ps : List Piece} (h : Settled ps) {position ordinal : Nat}
    {p : Placeholder} (hp : p ∈ locate position ordinal ps) :
    ∃ n, p.position = ((position + n : Nat) : Int) ∧
      p.name.toList = leadingName ((spell ps).drop (n + 1)) ∧ p.text = ":" ++ p.name := by
  induction h generalizing position ordinal with
  | nil => cases hp
  | @plain c rest _ _ ih =>
      obtain ⟨n, hposition, hname, htext⟩ := ih hp
      refine ⟨n + 1, ?_, hname, htext⟩
      rw [hposition]
      omega
  | @token name rest _ _ hname hstops ih =>
      rcases List.mem_cons.mp hp with rfl | hp
      · refine ⟨0, rfl, ?_, ?_⟩
        · rw [ofName, String.toList_ofList]
          exact (leadingName_append hname hstops).symm
        · exact @String.ofList_append [':'] name
      · obtain ⟨n, hposition, hlead, htext⟩ := ih hp
        refine ⟨1 + name.length + n, ?_, ?_, htext⟩
        · rw [hposition]
          omega
        · have hdrop : 1 + name.length + n + 1 = (':' :: name).length + (n + 1) := by
            rw [List.length_cons]
            omega
          rw [hlead, spell_token, ← List.cons_append, hdrop, List.drop_length_add_append]

/-- Located tokens are ranked in their order. -/
theorem ordinal_of_getElem?_locate {position ordinal i : Nat} {ps : List Piece} {p : Placeholder}
    (h : (locate position ordinal ps)[i]? = some p) : p.ordinal = ((ordinal + i : Nat) : Int) := by
  induction ps generalizing position ordinal i with
  | nil => cases h
  | cons q rest ih =>
      cases q with
      | plain c => exact ih h
      | token name =>
          cases i with
          | zero =>
              obtain rfl := Option.some.inj h
              rfl
          | succ i =>
              rw [ih h]
              omega

/-! ### Gaps -/

/-- Pieces stay settled without what stands in front of them. -/
theorem Settled.of_append_right {ps qs : List Piece} (h : Settled (ps ++ qs)) : Settled qs := by
  induction ps with
  | nil => exact h
  | cons p rest ih =>
      cases h with
      | plain hrest _ => exact ih hrest
      | token hrest _ _ _ => exact ih hrest

/-- What begins with no name character does not either without its end. -/
theorem startsName_of_append_left {s t : List Char} (h : startsName (s ++ t) = false) :
    startsName s = false := by
  cases s with
  | nil => rfl
  | cons c rest => exact h

/-- No token begins among plain characters that are settled. -/
theorem Settled.not_tokenAt {gap : List Char} {ps : List Piece}
    (h : Settled (gap.map .plain ++ ps)) (n : Nat) : ¬TokenAt gap n := by
  induction gap generalizing n with
  | nil => exact not_tokenAt_nil n
  | cons c rest ih =>
      obtain ⟨hrest, hcolon⟩ := settled_plain_iff.mp h
      cases n with
      | zero =>
          rw [tokenAt_zero]
          rintro ⟨hc, hstarts⟩
          have hstops : startsName (spell (rest.map .plain ++ ps)) = false := hcolon hc
          rw [spell_append, spell_map_plain] at hstops
          rw [startsName_of_append_left hstops] at hstarts
          cases hstarts
      | succ n => exact ih hrest n

/-- **No token begins in a gap** between tokens of settled pieces. -/
theorem not_tokenAt_of_mem_gaps {behind gap stretch : List Char} {ordinal : Nat} {ps : List Piece}
    (h : Settled (gap.map .plain ++ ps))
    (hstretch : stretch ∈ gaps (behind ++ (gap ++ spell ps)) behind.length
      (locate (behind ++ gap).length ordinal ps)) (n : Nat) : ¬TokenAt stretch n := by
  induction ps generalizing behind gap ordinal with
  | nil =>
      rw [locate, gaps, sliceFrom_append, List.mem_singleton, spell_nil, List.append_nil]
        at hstretch
      rw [hstretch]
      exact h.not_tokenAt n
  | cons p rest ih =>
      cases p with
      | plain c =>
          -- the character joins the gap
          refine @ih behind (gap ++ [c]) ordinal ?_ ?_
          · simpa using h
          · simpa [locate, Nat.add_assoc] using hstretch
      | token name =>
          have hposition : (ofName name (behind ++ gap).length ordinal).position =
              ((behind ++ gap).length : Int) := rfl
          have htext : (ofName name (behind ++ gap).length ordinal).text.toList = ':' :: name :=
            String.toList_ofList
          rw [locate, gaps, slice_gap hposition, stop_of_position hposition, List.mem_cons]
            at hstretch
          rcases hstretch with rfl | hstretch
          · exact h.not_tokenAt n
          · -- behind the token a new gap begins
            obtain ⟨hrest, -⟩ := settled_token_iff.mp h.of_append_right
            have hwhole : behind ++ (gap ++ spell (.token name :: rest)) =
                behind ++ gap ++ ':' :: name ++ ([] ++ spell rest) := by simp
            rw [htext, hwhole, ← length_append_token] at hstretch
            refine @ih (behind ++ gap ++ ':' :: name) [] (ordinal + 1) hrest ?_
            rwa [List.append_nil]

/-! ### The scan -/

/-- What placeholders have to be to report a statement exactly. -/
structure Reports (sql : List Char) (ps : List Placeholder) : Prop where
  /-- A placeholder is reported at an offset exactly if a token begins there. -/
  position_iff : ∀ n : Nat, (∃ p ∈ ps, p.position = n) ↔ TokenAt sql n
  /-- The name of a placeholder is the longest run of name characters behind its colon. -/
  name_eq : ∀ p ∈ ps, ∃ n : Nat, p.position = n ∧
    p.name.toList = (sql.drop (n + 1)).takeWhile isNameChar
  /-- Its text is the colon and the name, as they stand between its offsets. -/
  text_eq : ∀ p ∈ ps, p.text = ":" ++ p.name ∧ slice sql p.position p.stop = p.text.toList
  /-- Its rank is its place in the list. -/
  ordinal_eq : ∀ (i : Nat) (p : Placeholder), ps[i]? = some p → p.ordinal = i
  /-- Placeholders come in the order of their offsets and do not overlap. -/
  ordered : ps.Pairwise fun p q => p.position < q.position ∧ p.stop ≤ q.position
  /-- No token begins in the gaps between them, before the first or behind the last. -/
  gap_free : ∀ gap ∈ gaps sql 0 ps, ∀ n, ¬TokenAt gap n
  /-- The gaps and their texts, one after the other, are the statement. -/
  spelled : alternate (gaps sql 0 ps) (ps.map (·.text.toList)) = sql

/-- The placeholders of a scan report the statement exactly. -/
theorem reports_scan (sql : String) : Reports sql.toList (scan sql) := by
  have hsettled := settled_pieces sql.toList
  have hfits := fits_scan sql
  have hsays : ∀ p ∈ scan sql, ∃ n : Nat, p.position = n ∧
      p.name.toList = leadingName (sql.toList.drop (n + 1)) ∧ p.text = ":" ++ p.name := by
    intro p hp
    rw [scan_eq_locate] at hp
    have h := leadingName_of_mem_locate hsettled hp
    simpa only [Nat.zero_add, spell_pieces] using h
  refine ⟨fun n => ?_, fun p hp => ?_, fun p hp => ?_, fun i p hp => ?_, ?_, ?_,
    hfits.alternate_gaps⟩
  · have h := exists_position_iff hsettled 0 0 n
    rwa [← scan_eq_locate, spell_pieces, Nat.zero_add] at h
  · obtain ⟨n, hposition, hname, -⟩ := hsays p hp
    exact ⟨n, hposition, hname⟩
  · obtain ⟨-, -, -, htext⟩ := hsays p hp
    exact ⟨htext, hfits.slice_eq_text hp⟩
  · rw [scan_eq_locate] at hp
    have h := ordinal_of_getElem?_locate hp
    rwa [Nat.zero_add] at h
  · refine hfits.pairwise.imp_of_mem fun {p q} hp _ hle => ⟨?_, hle⟩
    obtain ⟨-, -, -, htext⟩ := hsays p hp
    have hlength : 0 < p.text.length := by
      rw [htext, String.length_append]
      exact Nat.lt_of_lt_of_le Nat.one_pos (Nat.le_add_right _ _)
    simp only [Placeholder.stop] at hle
    omega
  · intro gap hgap
    rw [scan_eq_locate] at hgap
    refine @not_tokenAt_of_mem_gaps [] [] gap 0 (pieces sql.toList) hsettled ?_
    rwa [spell_pieces]

/-- Where two lists report a statement exactly, placeholders of the same offset in the same place
are the same. -/
theorem Reports.eq_of_position_eq {sql : List Char} {ps qs : List Placeholder}
    (hps : Reports sql ps) (hqs : Reports sql qs) {i : Nat} {p q : Placeholder}
    (hp : ps[i]? = some p) (hq : qs[i]? = some q) (h : p.position = q.position) : p = q := by
  have hpmem := List.mem_of_getElem? hp
  have hqmem := List.mem_of_getElem? hq
  obtain ⟨n, hn, hpname⟩ := hps.name_eq p hpmem
  obtain ⟨m, hm, hqname⟩ := hqs.name_eq q hqmem
  obtain rfl : n = m := by omega
  have hname : p.name = q.name := String.toList_injective (hpname.trans hqname.symm)
  have htext : p.text = q.text := by
    rw [(hps.text_eq p hpmem).1, (hqs.text_eq q hqmem).1, hname]
  have hordinal : p.ordinal = q.ordinal :=
    (hps.ordinal_eq i p hp).trans (hqs.ordinal_eq i q hq).symm
  obtain ⟨name, position, ordinal, text⟩ := p
  obtain ⟨name', position', ordinal', text'⟩ := q
  rw [Placeholder.mk.injEq]
  exact ⟨hname, h, hordinal, htext⟩

/-- At most one list of placeholders reports a statement exactly. -/
theorem Reports.unique {sql : List Char} {ps qs : List Placeholder} (hps : Reports sql ps)
    (hqs : Reports sql qs) : ps = qs := by
  have hsubset : ∀ {as bs : List Placeholder}, Reports sql as → Reports sql bs →
      ∀ x ∈ as.map (·.position), x ∈ bs.map (·.position) := by
    intro as bs has hbs x hx
    obtain ⟨p, hp, rfl⟩ := List.mem_map.mp hx
    obtain ⟨n, hn, -⟩ := has.name_eq p hp
    obtain ⟨q, hq, hposition⟩ := (hbs.position_iff n).mpr ((has.position_iff n).mp ⟨p, hp, hn⟩)
    exact List.mem_map.mpr ⟨q, hq, hposition.trans hn.symm⟩
  have hsorted : ∀ {as : List Placeholder}, Reports sql as →
      (as.map (·.position)).Pairwise (· < ·) :=
    fun has => List.pairwise_map.mpr (has.ordered.imp And.left)
  have hpositions : ps.map (·.position) = qs.map (·.position) :=
    (hsorted hps).eq_of_mem_iff (hsorted hqs) fun x => ⟨hsubset hps hqs x, hsubset hqs hps x⟩
  refine List.ext_getElem? fun i => ?_
  have hi := congrArg (·[i]?) hpositions
  simp only [List.getElem?_map] at hi
  cases hp : ps[i]? with
  | none =>
      rw [hp, Option.map_none] at hi
      exact (Option.map_eq_none_iff.mp hi.symm).symm
  | some p =>
      rw [hp, Option.map_some] at hi
      obtain ⟨q, hq, hposition⟩ := Option.map_eq_some_iff.mp hi.symm
      rw [hq, hps.eq_of_position_eq hqs hp hq hposition.symm]

/-- **A scan reports exactly the placeholders of a statement**, and is the only list that does,
where the characters of names are the ASCII letters and digits and the underscore. -/
theorem eq_scan_iff (sql : String) :
    (∀ c, isNameChar c = true ↔
      ('A' ≤ c ∧ c ≤ 'Z') ∨ ('a' ≤ c ∧ c ≤ 'z') ∨ ('0' ≤ c ∧ c ≤ '9') ∨ c = '_') ∧
    ∀ ps, ps = scan sql ↔ Reports sql.toList ps := by
  refine ⟨fun _ => isNameChar_iff, fun ps => ⟨?_, fun h => h.unique (reports_scan sql)⟩⟩
  rintro rfl
  exact reports_scan sql

end SqlBind.Placeholder
