import SqlBind.Proofs.Json.Line
import SqlBind.Proofs.Json.Refusal
import SqlBind.Proofs.Log.Structured

/-!
# Structured Lines Are Lines

Whatever a record holds, its structured line is one line: it has no character below the space, so
nothing in a statement, a value, a key or an exception can end it early
(`Record.structuredLine_one_line`). It is also read again as one object, if the numbers in its
fields fit. Names that several keys give do not stand in the way: the object then has each of them
once.

The condition on numbers is needed. A whole number of 4300 digits is written also where a sign
stands before it, and then the line is not read at all (`Record.structuredLine_not_object`).

## Main results

* `Record.structuredLine_one_line`: a structured line is one line and one object.
-/

namespace SqlBind.Log.Record

open Json Number Text

variable {r : Record} {host : Host} {current : Option CodeText} {pattern line : String}
  {written read : Nat}

/-- The text of a dictionary is read as a dictionary, if the numbers in it fit. -/
theorem exists_members_of_encode {entries : Entries}
    (h : (Value.dict .plain entries).encode written = .ok line)
    (hfit : ∀ e ∈ entries, e.2.numbersFit = true) (hread : written ≤ read) :
    ∃ members, (Value.str line).decode read = .ok (.dict .plain members) := by
  have hall : (Value.dict .plain entries).numbersFit = true :=
    Value.numbersFitInEntries_iff.mpr hfit
  obtain ⟨j, hj, hdecode⟩ := Value.exists_decode_of_encode h hall hread
  rw [Value.toJson] at hj
  obtain ⟨members, -, rfl⟩ := exists_of_map_eq_ok hj
  rw [settled, toValue] at hdecode
  exact ⟨_, hdecode⟩

/-- **A structured line is one line and one object.** Whatever the record, the correlation id and
the pattern of its timestamp, a line that is written is the text of some fields. It has no
character below the space; and if the numbers among the values of the fields fit, it is read as a
dictionary, wherever a document may be as deep as where it was written. -/
theorem structuredLine_one_line (h : r.structuredLine host current pattern = .ok line) :
    (∀ c ∈ line.toList, 0x20 ≤ c.toNat) ∧
      ∃ entries, r.entry host current pattern = .ok entries ∧
        ((∀ e ∈ entries, e.2.numbersFit = true) → ∀ read, host.deepest ≤ read →
          ∃ members, (Value.str line).decode read = .ok (.dict .plain members)) := by
  obtain ⟨entries, hentry, hencode⟩ := exists_of_bind_eq_ok h
  refine ⟨fun _ => Value.le_of_mem_encode hencode, entries, hentry, fun hfit read hread => ?_⟩
  exact exists_members_of_encode hencode hfit hread

/-- Line breaks in the message, in keys, in a value that is described, in the correlation id and in
the exception; keys that give one name; and a set, a tuple and a number as keys and values. -/
theorem structuredLine_one_line_breaks :
    ∃ r : Record, r.template = "SELECT\n1" ∧
      r.exception = some (.ofRaised (.other "ValueError" [.str "no\r\n"])) ∧
      r.extra = some (.dict .plain [(.str "a\nb", .thing "<odd\n>"), (.int 1, .str "\x00"),
        (.str "1", .group .set [.int 2]), (.seq .tuple [.str "\t"], .seq .deque [.str "\n"]),
        (.null, .int (-7))]) ∧
      ∃ line members, r.structuredLine (.quiet 2) (some (.ofString "i\nd")) "" = .ok line ∧
        (∀ c ∈ line.toList, 0x20 ≤ c.toNat) ∧
        (Value.str line).decode 2 = .ok (.dict .plain members) := by
  obtain ⟨r, hr⟩ : ∃ r : Record, r = { sample "SELECT\n1" [] [(.str "a\nb", .thing "<odd\n>"),
        (.int 1, .str "\x00"), (.str "1", .group .set [.int 2]),
        (.seq .tuple [.str "\t"], .seq .deque [.str "\n"]), (.null, .int (-7))] 0 with
      exception := some (.ofRaised (.other "ValueError" [.str "no\r\n"])) } := ⟨_, rfl⟩
  obtain ⟨entries, hentries⟩ : ∃ entries, entries = r.fields (some (.ofString "i\nd"))
      "1970-01-01 00:00:00,000" (CodeText.ofString "SELECT\n1") r.extraValue.items := ⟨_, rfl⟩
  have hentry : r.entry (.quiet 2) (some (.ofString "i\nd")) "" = .ok entries := by
    rw [hentries, hr]
    exact entry_eq timestamp_zero renderMessage_nil (.inr rfl)
  -- Numbers agree with numbers as keys by their quantity, which takes the kernel to evaluate.
  have hchecked : (Value.dict .plain entries).refusal? = none ∧
      (Value.dict .plain entries).writtenDepth ≤ 2 ∧
      ∀ e ∈ entries, e.2.numbersFit = true := by
    rw [hentries, hr]
    decide +kernel
  obtain ⟨hrefusal, hdepth, hfit⟩ := hchecked
  have hline := @Value.encode_of_no_refusal (.dict .plain entries) 2 hrefusal
  rw [if_pos hdepth] at hline
  obtain ⟨line, hencode⟩ := hline
  have hwritten : r.structuredLine (.quiet 2) (some (.ofString "i\nd")) "" = .ok line := by
    rw [structuredLine, hentry]
    exact hencode
  obtain ⟨hvisible, found, hfound, hread⟩ := structuredLine_one_line hwritten
  obtain rfl : entries = found := Except.ok.inj (hentry.symm.trans hfound)
  obtain ⟨members, hdecode⟩ := hread hfit 2 (Nat.le_refl 2)
  exact ⟨r, hr ▸ rfl, hr ▸ rfl, hr ▸ rfl, line, members, hwritten, hvisible, hdecode⟩

/-- A line with a whole number that is written but too long to be read is no object. -/
theorem structuredLine_not_object :
    ∃ r line, r = sample "told" [] [(.str "timestamp", .int (-(tenTo 4299 : Int)))] 0 ∧
      r.structuredLine (.quiet 1) none "" = .ok line ∧
      ¬∃ members, (Value.str line).decode 1 = .ok (.dict .plain members) := by
  have hjson : (Value.int (-(tenTo 4299 : Int))).toJson = .ok (.int (-(tenTo 4299 : Int))) :=
    Value.toJson_int Value.isOverlong_neg_tenTo_4299
  obtain ⟨members, hline⟩ := exists_structuredLine_sample hjson 1
  refine ⟨_, _, rfl, hline.trans (if_neg (Nat.lt_irrefl 1)), ?_⟩
  rintro ⟨members, hdecode⟩
  change ofRead (ofText 1 _) = _ at hdecode
  rw [ofText_object_long Value.maxWholeLength_lt_length] at hdecode
  nomatch hdecode

end SqlBind.Log.Record
