import Mathlib.Data.List.Basic
import SqlBind.Proofs.Placeholder.Grammar
import SqlBind.Proofs.Rewrite.Rescan

/-!
# Introspection

Before a statement is converted it can be asked for its names, for the number of its placeholders,
and whether it has any. Each answer comes from a look of its own at the statement, and all of them
agree with the scan (`Introspects`). They also say what a conversion will do: placeholders are left
exactly if some name is not bound, and every occurrence of a bound name is one placeholder less
(`introspection_convert`).

## Main definitions

* `Introspects`: the answers about a statement agree with its scan.

## Main results

* `pairwise_idxOf_eraseDups`: names that are listed once are in the order of first appearance.
* `occursIn_iff_tokenAt`, `occursIn_iff_scan_ne_nil`: when a statement has a placeholder.
* `introspection_convert`: the answers, and what they say about a conversion.
-/

namespace SqlBind

open Placeholder

/-- **The answers about a statement** agree with what a scan finds in it. -/
structure Introspects (sql : String) : Prop where
  /-- No name is listed twice. -/
  nodup : (names sql).Nodup
  /-- The listed names are those of the placeholders. -/
  mem_iff : ∀ name, name ∈ names sql ↔ ∃ p ∈ scan sql, p.name = name
  /-- A name is listed before another one if it appears before it for the first time. -/
  ordered : (names sql).Pairwise fun a b =>
    ((scan sql).map (·.name)).idxOf a < ((scan sql).map (·.name)).idxOf b
  /-- All placeholders are counted, also those with the same name. -/
  count_eq : count sql = (scan sql).length
  /-- There is a placeholder exactly if a colon has an ASCII letter, digit or underscore directly
  behind it. -/
  occursIn_iff : occursIn sql = true ↔
    ∃ n c, sql.toList[n]? = some ':' ∧ sql.toList[n + 1]? = some c ∧
      (('A' ≤ c ∧ c ≤ 'Z') ∨ ('a' ≤ c ∧ c ≤ 'z') ∨ ('0' ≤ c ∧ c ≤ '9') ∨ c = '_')

variable {sql : String} {bindings : Value}

/-! ### The order of first appearance -/

/-- What comes first among those that pass a test comes first among all. -/
theorem idxOf_lt_of_idxOf_filter_lt {names : List String} {test : String → Bool} {a b : String}
    (ha : test a = true) (hb : test b = true)
    (h : (names.filter test).idxOf a < (names.filter test).idxOf b) :
    names.idxOf a < names.idxOf b := by
  induction names with
  | nil => exact h
  | cons name rest ih =>
      by_cases hna : name = a
      · subst hna
        rw [List.filter_cons_of_pos ha, List.idxOf_cons_self] at h
        have hne : name ≠ b := by
          rintro rfl
          rw [List.idxOf_cons_self] at h
          omega
        rw [List.idxOf_cons_self, List.idxOf_cons_ne _ hne]
        omega
      · by_cases hnb : name = b
        · subst hnb
          rw [List.filter_cons_of_pos hb, List.idxOf_cons_self] at h
          omega
        · rw [List.idxOf_cons_ne _ hna, List.idxOf_cons_ne _ hnb]
          refine Nat.succ_lt_succ (ih ?_)
          cases hname : test name with
          | true =>
              rw [List.filter_cons_of_pos hname, List.idxOf_cons_ne _ hna,
                List.idxOf_cons_ne _ hnb] at h
              omega
          | false => rwa [List.filter_cons_of_neg (Bool.eq_false_iff.mp hname)] at h

/-- **Names of which each is listed once are in the order of first appearance.** -/
theorem pairwise_idxOf_eraseDups (names : List String) :
    names.eraseDups.Pairwise fun a b => names.idxOf a < names.idxOf b := by
  -- behind the first name come those of a shorter list, without this name
  induction h : names.length using Nat.strongRecOn generalizing names with
  | ind n ih =>
      cases names with
      | nil => exact .nil
      | cons name rest =>
          have hlength := List.length_filter_le (fun other => !other == name) rest
          rw [List.length_cons] at h
          have hrest := ih _ (by omega) (rest.filter fun other => !other == name) rfl
          have hkept : ∀ {other}, other ∈ (rest.filter fun other => !other == name).eraseDups →
              (!other == name) = true ∧ name ≠ other := by
            intro other hother
            rw [List.mem_eraseDups] at hother
            have hkept := (List.mem_filter.mp hother).2
            refine ⟨hkept, ?_⟩
            rintro rfl
            simp at hkept
          rw [List.eraseDups_cons]
          refine .cons (fun b hb => ?_) (hrest.imp_of_mem fun {a b} ha hb hlt => ?_)
          · rw [List.idxOf_cons_self, List.idxOf_cons_ne _ (hkept hb).2]
            exact Nat.succ_pos _
          · obtain ⟨ha, hna⟩ := hkept ha
            obtain ⟨hb, hnb⟩ := hkept hb
            rw [List.idxOf_cons_ne _ hna, List.idxOf_cons_ne _ hnb]
            exact Nat.succ_lt_succ (idxOf_lt_of_idxOf_filter_lt ha hb hlt)

/-- Leaving out what was there before leaves everything once. -/
theorem nodup_eraseDups (names : List String) : names.eraseDups.Nodup := by
  refine (pairwise_idxOf_eraseDups names).imp fun {a b} hlt heq => ?_
  rw [heq] at hlt
  exact Nat.lt_irrefl _ hlt

/-! ### Whether there is a placeholder -/

/-- A search for a colon with a name character behind it succeeds where a token begins. -/
theorem occursInChars_iff {s : List Char} : occursInChars s = true ↔ ∃ n, TokenAt s n := by
  induction s with
  | nil => simp [occursInChars, not_tokenAt_nil]
  | cons c rest ih =>
      rw [← Nat.or_exists_add_one]
      simp only [tokenAt_zero, tokenAt_succ]
      rw [← ih, occursInChars, Bool.or_eq_true, Bool.and_eq_true, decide_eq_true_eq]
      rfl

/-- There is a placeholder exactly if a token begins somewhere. -/
theorem occursIn_iff_tokenAt : occursIn sql = true ↔ ∃ n, TokenAt sql.toList n :=
  occursInChars_iff

/-- **There is a placeholder exactly if a scan finds one.** -/
theorem occursIn_iff_scan_ne_nil : occursIn sql = true ↔ scan sql ≠ [] := by
  have hreports := reports_scan sql
  rw [occursIn_iff_tokenAt]
  constructor
  · rintro ⟨n, hn⟩
    obtain ⟨p, hp, -⟩ := (hreports.position_iff n).mpr hn
    exact List.ne_nil_of_mem hp
  · intro hne
    obtain ⟨p, rest, hscan⟩ := List.exists_cons_of_ne_nil hne
    have hp : p ∈ scan sql := by
      rw [hscan]
      exact List.mem_cons_self
    obtain ⟨n, hposition, -⟩ := hreports.name_eq p hp
    exact ⟨n, (hreports.position_iff n).mp ⟨p, hp, hposition⟩⟩

/-! ### Introspection and conversion -/

/-- The answers about any statement agree with its scan. -/
theorem introspects (sql : String) : Introspects sql := by
  refine ⟨nodup_eraseDups _, fun name => ?_, pairwise_idxOf_eraseDups _, rfl, ?_⟩
  · rw [names, List.mem_eraseDups, List.mem_map]
  · rw [occursIn_iff_tokenAt]
    refine exists_congr fun n => ?_
    rw [TokenAt, ← exists_and_left]
    exact exists_congr fun c => and_congr_right fun _ => and_congr_right fun _ => isNameChar_iff

/-- A name is bound exactly if it is a key. -/
theorem isNone_find?_eq_not_has (bindings : Value) (name : String) :
    (bindings.find? name).isNone = !bindings.has (.str name) := by
  rw [← Value.isSome_lookup?, Option.not_isSome, Value.find?]

/-- The placeholders that are left are as many as there are placeholders with names that are not
bound. -/
theorem count_converted (sql : String) (bindings : Value) :
    count (converted sql bindings).sql =
      ((scan sql).filter fun p => !bindings.has (.str p.name)).length := by
  calc count (converted sql bindings).sql
      = (tokenNames (pieces (converted sql bindings).sql.toList)).length := by
        rw [count, ← map_name_scan, List.length_map]
    _ = (((scan sql).map (·.name)).filter fun name => !bindings.has (.str name)).length := by
        rw [tokenNames_pieces_converted, map_name_scan]
        simp only [isNone_find?_eq_not_has]
    _ = ((scan sql).filter fun p => !bindings.has (.str p.name)).length := by
        rw [List.filter_map, List.length_map]
        rfl

/-- There is no placeholder exactly if there are none to count. -/
theorem occursIn_eq_false_iff : occursIn sql = false ↔ count sql = 0 := by
  rw [← Bool.not_eq_true, occursIn_iff_scan_ne_nil, not_not, count, List.length_eq_zero_iff]

/-- **Introspection says what a conversion will do.** The names of a statement are listed once each
and in the order of first appearance, its placeholders are counted, and whether it has one is found
out, all as its scan has it. Whenever a conversion of it succeeds, with whatever bindings, the
converted statement has no placeholder exactly if every listed name is bound, and what it has are as
many as before without the occurrences of bound names. -/
theorem introspection_convert (sql : String) :
    Introspects sql ∧ ∀ bindings c, convert sql bindings none = .ok c →
      (occursIn c.sql = false ↔ ∀ name ∈ names sql, bindings.has (.str name) = true) ∧
      count c.sql + ((scan sql).filter fun p => bindings.has (.str p.name)).length =
        count sql := by
  refine ⟨introspects sql, fun bindings c hc => ?_⟩
  obtain ⟨-, -, rfl⟩ := convert_eq_ok_iff.mp hc
  constructor
  · rw [occursIn_eq_false_iff, count_converted, List.length_eq_zero_iff, List.filter_eq_nil_iff]
    simp only [(introspects sql).mem_iff, Bool.not_eq_true', Bool.not_eq_false]
    constructor
    · rintro h name ⟨p, hp, rfl⟩
      exact h p hp
    · exact fun h p hp => h p.name ⟨p, hp, rfl⟩
  · rw [count_converted, Nat.add_comm, count]
    exact (List.length_eq_length_filter_add _).symm

/-- Two names that repeat, one of them behind a colon, and a third one that is bound only by the
second of two mappings. -/
theorem introspection_convert_repeated :
    names ":b :a::b :c:a" = ["b", "a", "c"] ∧ count ":b :a::b :c:a" = 5 ∧
      (∃ c, convert ":b :a::b :c:a" (.dict .plain [(.str "a", .int 5), (.str "b", .seq .tuple [])])
          none = .ok c ∧
        c.sql = "() ?:() :c?" ∧ occursIn c.sql = true ∧ count c.sql = 1) ∧
      ∃ c, convert ":b :a::b :c:a" (.dict .plain [(.str "a", .int 5), (.str "b", .seq .tuple []),
          (.str "c", .null)]) none = .ok c ∧
        c.sql = "() ?:() ??" ∧ occursIn c.sql = false ∧ count c.sql = 0 := by
  have hpieces : pieces ":b :a::b :c:a".toList =
      [.token ['b'], .plain ' ', .token ['a'], .plain ':', .token ['b'], .plain ' ', .token ['c'],
        .token ['a']] := pieces_eq_iff.mpr (by decide)
  have hscan : scan ":b :a::b :c:a" =
      [ofName ['b'] 0 0, ofName ['a'] 3 1, ofName ['b'] 6 2, ofName ['c'] 9 3,
        ofName ['a'] 11 4] := by
    rw [scan_eq_locate, hpieces]
    rfl
  have hnames : names ":b :a::b :c:a" = ["b", "a", "c"] := by
    rw [names, hscan]
    rfl
  have hcount : count ":b :a::b :c:a" = 5 := by
    rw [count, hscan]
    rfl
  obtain ⟨-, hpredicted⟩ := introspection_convert ":b :a::b :c:a"
  refine ⟨hnames, hcount, ?_, ?_⟩
  · obtain ⟨c, hc, hsql, -⟩ : ∃ c, convert ":b :a::b :c:a" (.dict .plain [(.str "a", .int 5),
        (.str "b", .seq .tuple [])]) none = .ok c ∧ c.sql = "() ?:() :c?" ∧
          c.parameters = [.int 5, .int 5] :=
      convert_of_pieces rfl hpieces rfl rfl rfl
    obtain ⟨hoccurs, hleft⟩ := hpredicted _ c hc
    rw [hnames] at hoccurs
    rw [hcount, hscan] at hleft
    refine ⟨c, hc, hsql, ?_, Nat.add_right_cancel hleft⟩
    rw [← Bool.not_eq_false, hoccurs]
    intro h
    have hbound := h "c" (by decide)
    cases hbound
  · obtain ⟨c, hc, hsql, -⟩ : ∃ c, convert ":b :a::b :c:a" (.dict .plain [(.str "a", .int 5),
        (.str "b", .seq .tuple []), (.str "c", .null)]) none = .ok c ∧ c.sql = "() ?:() ??" ∧
          c.parameters = [.int 5, .null, .int 5] :=
      convert_of_pieces rfl hpieces rfl rfl rfl
    obtain ⟨hoccurs, hleft⟩ := hpredicted _ c hc
    rw [hnames] at hoccurs
    rw [hcount, hscan] at hleft
    refine ⟨c, hc, hsql, ?_, Nat.add_right_cancel hleft⟩
    rw [hoccurs]
    intro name hname
    simp only [List.mem_cons, List.not_mem_nil, or_false] at hname
    rcases hname with rfl | rfl | rfl <;> rfl

end SqlBind
