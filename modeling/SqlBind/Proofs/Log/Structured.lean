import SqlBind.Log.Record
import SqlBind.Proofs.Json.Readable
import SqlBind.Value.Members

/-!
# Structured Lines, Read Back

The fields of a structured line come from four sources: what the record says of itself, the
correlation id in force, the extra fields of the record, and the exception. Where two of them use
one name the later one decides what the field holds, and the earlier one where it stands
(`Record.said?`, `Record.names`).

This module proves it of the line itself, as a text that is written and read again. Not every
record has such a line. The clock may have no timestamp, and the message may not format. What is
said under some name may hold half of a surrogate pair, so that it cannot be written; it may be too
deep to be written, or hold a whole number that is written but too long to be read. A record with
none of these troubles is *legible* (`Record.Legible`). What another field takes the place of is not
said, and does no harm.

## Main definitions

* `Record.Legible`: a record without these troubles.
* `Record.said?`: what a structured line says under a name.
* `Record.names`: the names in a structured line, in their order.

## Main results

* `Record.valueFor?_fields` and `Record.map_fields`: the fields are what is said, in that order.
* `Record.structuredLine_readback`: the line of a legible record comes back as its fields.
-/

namespace SqlBind.Log.Record

open Json Number Text

variable {r : Record} {host : Host} {current : Option CodeText} {pattern time : String}
  {message : CodeText} {extra : Entries} {depth : Nat}

/-! ### What a line says -/

/-- The extra fields of a record as one value, which is nothing if there are none. -/
def extraValue (r : Record) : Value := r.extra.getD .null

/-- What a record says of itself under a name, given the text of its time and its message. -/
def standard? (r : Record) (time : String) (message : CodeText) : String → Option Value
  | "timestamp" => some (.str time)
  | "level" => some (.str (Level.name r.level))
  | "logger" => some (textField r.logger)
  | "message" => some (textField message)
  | "module" => some (.str r.origin.module)
  | "function" => some ((r.origin.function.map Value.str).getD .null)
  | "line" => some (.int r.origin.line)
  | _ => none

/-- The correlation id under its name, unless it is empty. -/
def correlation? (current : Option CodeText) (name : String) : Option Value :=
  if name = "correlation_id" then (current.filter fun id => !id.isEmpty).map textField else none

/-- The exception of a record under its name. -/
def exception? (r : Record) (name : String) : Option Value :=
  if name = "exception" then r.exception.map fun e => textField e.text else none

/-- **What a structured line says** under a name: the exception comes before the extra fields, these
before the correlation id, and this before what the record says of itself. -/
def said? (r : Record) (current : Option CodeText) (time : String) (message : CodeText)
    (name : String) : Option Value :=
  (r.exception? name).or ((r.extraValue.find? name).or
    ((correlation? current name).or (r.standard? time message name)))

/-- The names under which a record speaks of itself. -/
def standardNames : List Value :=
  [.str "timestamp", .str "level", .str "logger", .str "message", .str "module", .str "function",
    .str "line"]

/-- The name of the correlation id, unless that is empty. -/
def correlationNames (current : Option CodeText) : List Value :=
  if (current.filter fun id => !id.isEmpty).isSome then [.str "correlation_id"] else []

/-- The name of the exception, if there is one. -/
def exceptionNames (r : Record) : List Value :=
  if r.exception.isSome then [.str "exception"] else []

/-- **The names in a structured line**: those of the record itself, of the correlation id, of the
extra fields and of the exception, each where it comes first. -/
def names (r : Record) (current : Option CodeText) : List Value :=
  distinctOn id (standardNames ++ correlationNames current ++ r.extraValue.keys ++ r.exceptionNames)

/-! ### The fields -/

/-- The fields that are there before the extra ones. -/
def firstFields (r : Record) (current : Option CodeText) (time : String) (message : CodeText) :
    Entries :=
  r.standardFields time message ++ correlationField current

/-- The field of the exception. -/
def exceptionField (r : Record) : Entries :=
  match r.exception with
  | some e => [(.str "exception", textField e.text)]
  | none => []

theorem fields_eq : r.fields current time message extra =
    insertEntries (insertEntries (r.firstFields current time message) extra) r.exceptionField := by
  rw [fields, putException, exceptionField]
  cases r.exception <;> rfl

theorem map_firstFields :
    (r.firstFields current time message).map (·.1) = standardNames ++ correlationNames current := by
  cases current with
  | none => rfl
  | some id =>
      rw [firstFields, correlationField, correlationNames, Option.filter_some]
      cases id.isEmpty <;> rfl

theorem map_exceptionField : r.exceptionField.map (·.1) = r.exceptionNames := by
  rw [exceptionField, exceptionNames]
  cases r.exception <;> rfl

/-- No name is there twice before the extra fields come. -/
theorem apart_firstNames : Apart id (standardNames ++ correlationNames current) := by
  rw [correlationNames, standardNames]
  split <;> simp [Apart]

theorem apart_exceptionField : Apart (·.1) r.exceptionField := by
  rw [exceptionField]
  cases r.exception with
  | none => exact .nil
  | some e => exact List.pairwise_singleton _ _

theorem valueFor?_standardFields {name : String} :
    valueFor? (.str name) (r.standardFields time message) = r.standard? time message name := by
  unfold standard?
  split
  case h_8 =>
    simp only [standardFields, messageKey, valueFor?_cons, Value.equal_str, decide_eq_true_eq]
    simp_all [eq_comm]
  all_goals rfl

theorem valueFor?_correlationField {name : String} :
    valueFor? (.str name) (correlationField current) = correlation? current name := by
  cases current with
  | none => simp [correlationField, correlation?]
  | some id =>
      rw [correlationField, correlation?, Option.filter_some]
      cases id.isEmpty <;> simp [valueFor?_cons, eq_comm]

theorem valueFor?_exceptionField {name : String} :
    valueFor? (.str name) r.exceptionField = r.exception? name := by
  rw [exceptionField, exception?]
  cases r.exception <;> simp [valueFor?_cons, eq_comm]

/-- A record says nothing of itself under the name of the correlation id. -/
theorem standard?_or_correlation? {name : String} :
    (r.standard? time message name).or (correlation? current name) =
      (correlation? current name).or (r.standard? time message name) := by
  by_cases hname : name = "correlation_id"
  · subst hname
    change (none : Option Value).or _ = Option.or _ none
    rw [Option.none_or, Option.or_none]
  · rw [correlation?, if_neg hname, Option.none_or, Option.or_none]

/-- **The fields are what is said**, if the extra fields are those of the record. -/
theorem valueFor?_fields {name : String} :
    valueFor? (.str name) (r.fields current time message r.extraValue.items) =
      r.said? current time message name := by
  rw [fields_eq, valueFor?_insertEntries apart_exceptionField,
    valueFor?_insertEntries (Value.apart_items _), firstFields, valueFor?_append,
    valueFor?_exceptionField, Value.valueFor?_items, valueFor?_standardFields,
    valueFor?_correlationField, standard?_or_correlation?, said?, Value.find?]

/-- **They come in the order of their names.** -/
theorem map_fields :
    (r.fields current time message r.extraValue.items).map (·.1) = r.names current := by
  have hfirst : Apart id ((r.firstFields current time message).map (·.1)) := by
    rw [map_firstFields]
    exact apart_firstNames
  have hextra := map_insertEntries hfirst r.extraValue.items
  have hlast := map_insertEntries (hextra ▸ apart_distinctOn _) r.exceptionField
  rw [fields_eq, hlast, hextra, distinctOn_distinctOn_append, map_firstFields, map_exceptionField]
  rfl

/-- No name is there twice. -/
theorem apart_fields : Apart (·.1) (r.fields current time message r.extraValue.items) := by
  have hnames : Apart id ((r.fields current time message r.extraValue.items).map (·.1)) := by
    rw [map_fields]
    exact apart_distinctOn _
  exact List.pairwise_map.mp hnames

/-- The names in a line are texts if those of the extra fields are. -/
theorem exists_str_of_mem_names (h : ∀ k ∈ r.extraValue.keys, ∃ name, k = .str name) {k : Value}
    (hk : k ∈ r.names current) : ∃ name, k = .str name := by
  have hkey := mem_of_mem_distinctOn hk
  rw [List.mem_append, List.mem_append, List.mem_append] at hkey
  rcases hkey with ((hstandard | hcorrelation) | hextra) | hexception
  · simp only [standardNames, List.mem_cons, List.not_mem_nil, or_false] at hstandard
    rcases hstandard with rfl | rfl | rfl | rfl | rfl | rfl | rfl <;> exact ⟨_, rfl⟩
  · rw [correlationNames] at hcorrelation
    split at hcorrelation
    · exact ⟨_, List.mem_singleton.mp hcorrelation⟩
    · exact absurd hcorrelation List.not_mem_nil
  · exact h k hextra
  · rw [exceptionNames] at hexception
    split at hexception
    · exact ⟨_, List.mem_singleton.mp hexception⟩
    · exact absurd hexception List.not_mem_nil

/-! ### Legible records -/

/-- **A legible record**: one whose structured line can be written and read while `current` is the
correlation id, with the timestamp `time`, the message `message`, and fields that are no deeper than
`depth`. -/
structure Legible (r : Record) (zone : Zone) (current : Option CodeText) (pattern time : String)
    (message : CodeText) (depth : Nat) : Prop where
  /-- The clock has a timestamp. -/
  clock : timestamp zone pattern r.time = .ok time
  /-- The message formats. -/
  formats : r.message = .ok message
  /-- There are no extra fields, or they are a mapping. -/
  mapping : r.extraValue = .null ∨ r.extraValue.isMapping = true
  /-- The extra fields have names that can be written. -/
  names : ∀ k ∈ r.extraValue.keys, ∃ name, k = .str name
  /-- What is said comes back. -/
  said : ∀ name v, r.said? current time message name = some v → v.Readable depth

/-- The extra fields are the entries of the mapping, also if it counts as false. -/
theorem extraFields_eq (h : r.extraValue = .null ∨ r.extraValue.isMapping = true) :
    r.extraFields = .ok r.extraValue.items := by
  unfold extraFields extraValue at *
  cases hextra : r.extra with
  | none => simp [Value.items]
  | some m =>
      rw [hextra] at h
      change (if m.isTruthy then putFields [] m else .ok []) = Except.ok m.items
      cases htruthy : m.isTruthy with
      | false => rw [Value.items_of_isTruthy_eq_false htruthy]; rfl
      | true =>
          have hmapping : m.isMapping = true := by
            rcases h with (rfl : m = .null) | hmapping
            · cases htruthy
            · exact hmapping
          have hput : insertEntries [] m.items = m.items :=
            insertEntries_of_apart (Value.apart_items m)
          rw [if_pos rfl, putFields, if_pos hmapping, hput]

/-- A record has fields if its clock has a timestamp and its message formats. -/
theorem entry_eq (hclock : timestamp host.zone pattern r.time = .ok time)
    (hformats : r.message = .ok message)
    (hmapping : r.extraValue = .null ∨ r.extraValue.isMapping = true) :
    r.entry host current pattern = .ok (r.fields current time message r.extraValue.items) := by
  unfold entry
  rw [hclock, hformats, extraFields_eq hmapping]
  rfl

/-- All fields of a legible record together come back. -/
theorem Legible.readable_fields (h : r.Legible host.zone current pattern time message depth) :
    (Value.dict .plain (r.fields current time message r.extraValue.items)).Readable
      (depth + 1) := by
  have hkeys : ∀ e ∈ r.fields current time message r.extraValue.items,
      ∃ name, e.1 = .str name := by
    intro e he
    have hname : e.1 ∈ r.names current := map_fields ▸ List.mem_map_of_mem he
    exact exists_str_of_mem_names h.names hname
  refine .dict hkeys apart_fields fun e he => ?_
  obtain ⟨name, hname⟩ := hkeys e he
  have hself : e.1.equal e.1 = true := by
    rw [hname, Value.equal_str, decide_eq_true_eq]
  have hfound := valueFor?_of_mem apart_fields he hself
  rw [hname, valueFor?_fields] at hfound
  exact h.said name e.2 hfound

/-- The line of a legible record is that of its fields. -/
theorem Legible.structuredLine_eq (h : r.Legible host.zone current pattern time message depth) :
    r.structuredLine host current pattern =
      (Value.dict .plain (r.fields current time message r.extraValue.items)).encode
        host.deepest := by
  rw [structuredLine, entry_eq h.clock h.formats h.mapping]
  rfl

/-- A record of the logger `sqlpilot` with a message, extra fields and a clock. -/
def sample (template : String) (args : List Value) (extra : Entries) (time : Int) : Record where
  logger := .ofString "sqlpilot"
  level := 20
  template := template
  args := args
  extra := some (.dict .plain extra)
  correlation := none
  origin := ⟨"m", none, 1⟩
  time := time
  exception := none

/-- The timestamp of the beginning in universal time. -/
theorem timestamp_zero : timestamp .universal "" 0 = .ok "1970-01-01 00:00:00,000" := by
  have hsome : (timestamp .universal "" 0).toOption = some "1970-01-01 00:00:00,000" := by
    decide +kernel
  cases htime : timestamp .universal "" 0 with
  | ok time => rw [htime] at hsome; exact congrArg _ (Option.some.inj hsome)
  | error e => rw [htime] at hsome; cases hsome

/-- **The structured line of a legible record comes back** as an object without a repeated name,
wherever a document may be one level deeper than its fields. Its names are those of the record, of
the correlation id, of the extra fields and of the exception, each where it comes first; and under
each of them it has what is said there. -/
theorem structuredLine_readback {read : Nat}
    (h : r.Legible host.zone current pattern time message depth) (hwritten : depth < host.deepest)
    (hread : depth < read) :
    ∃ line entries, r.structuredLine host current pattern = .ok line ∧
      (Value.str line).decode read = .ok (.dict .plain entries) ∧
      Apart (·.1) entries ∧ entries.map (·.1) = r.names current ∧
      ∀ name, valueFor? (.str name) entries = r.said? current time message name := by
  obtain ⟨line, hencode, hdecode⟩ := h.readable_fields.exists_encode hwritten hread
  have hline : r.structuredLine host current pattern = .ok line := h.structuredLine_eq.trans hencode
  exact ⟨line, _, hline, hdecode, apart_fields, map_fields, fun _ => valueFor?_fields⟩

/-- Extra fields in the place of the level, of the correlation id and of the exception, and a new
one between them: the exception takes its own place back, and that half of a surrogate pair is the
correlation id does no harm. -/
theorem structuredLine_readback_overridden :
    ∃ r : Record, r.level = 20 ∧
      r.exception = some (.ofRaised (.other "ValueError" [.str "no"])) ∧
      r.extra = some (.dict .plain [(.str "level", .str "loud"), (.str "n", .seq .list [.int 1]),
        (.str "correlation_id", .null), (.str "exception", .bool true)]) ∧
      ∃ line entries,
        r.structuredLine (.quiet 2) (some [.surrogate 0xd800]) "" = .ok line ∧
        (Value.str line).decode 2 = .ok (.dict .plain entries) ∧
        entries.map (·.1) = [.str "timestamp", .str "level", .str "logger", .str "message",
          .str "module", .str "function", .str "line", .str "correlation_id", .str "n",
          .str "exception"] ∧
        valueFor? (.str "level") entries = some (.str "loud") ∧
        valueFor? (.str "correlation_id") entries = some .null ∧
        valueFor? (.str "n") entries = some (.seq .list [.int 1]) ∧
        valueFor? (.str "exception") entries = some (.str "ValueError: no") ∧
        valueFor? (.str "message") entries = some (.str "told") := by
  obtain ⟨r, hr⟩ : ∃ r : Record, r = {
      sample "told" [] [(.str "level", .str "loud"), (.str "n", .seq .list [.int 1]),
        (.str "correlation_id", .null), (.str "exception", .bool true)] 0 with
      exception := some (.ofRaised (.other "ValueError" [.str "no"])) } := ⟨_, rfl⟩
  have hentries : r.fields (some [.surrogate 0xd800]) "1970-01-01 00:00:00,000"
      (CodeText.ofString "told") r.extraValue.items =
      [(.str "timestamp", .str "1970-01-01 00:00:00,000"), (.str "level", .str "loud"),
        (.str "logger", .str "sqlpilot"), (.str "message", .str "told"), (.str "module", .str "m"),
        (.str "function", .null), (.str "line", .int 1), (.str "correlation_id", .null),
        (.str "n", .seq .list [.int 1]), (.str "exception", .str "ValueError: no")] := by
    rw [hr]
    rfl
  have hlegible : r.Legible .universal (some [.surrogate 0xd800]) "" "1970-01-01 00:00:00,000"
      (CodeText.ofString "told") 1 := by
    refine ⟨?_, ?_, .inr ?_, ?_, ?_⟩
    · rw [hr]
      exact timestamp_zero
    · rw [hr]
      exact renderMessage_nil
    · rw [hr]
      rfl
    · rw [hr]
      change ∀ k ∈ [Value.str "level", .str "n", .str "correlation_id", .str "exception"], _
      simp
    · intro name v hsaid
      rw [← valueFor?_fields, hentries] at hsaid
      obtain ⟨e, hfound, rfl⟩ := Option.map_eq_some_iff.mp hsaid
      have he := List.mem_of_find?_eq_some hfound
      have hlist : (Value.seq .list [.int 1]).Readable (0 + 1) :=
        .list (List.forall_mem_singleton.mpr (.int (by decide)))
      simp only [List.mem_cons, List.not_mem_nil, or_false] at he
      rcases he with rfl | rfl | rfl | rfl | rfl | rfl | rfl | rfl | rfl | rfl
      any_goals exact .str
      · exact .null
      · exact .int (by decide)
      · exact .null
      · exact hlist
  obtain ⟨line, entries, hline, hdecode, -, hnames, hsaid⟩ :=
    @structuredLine_readback r (.quiet 2) (some [.surrogate 0xd800]) "" _ _ 1 2 hlegible
      (by decide) (by decide)
  refine ⟨r, hr ▸ rfl, hr ▸ rfl, hr ▸ rfl, line, entries, hline, hdecode, ?_, ?_, ?_, ?_, ?_, ?_⟩
  · rw [hnames, hr]
    rfl
  all_goals rw [hsaid, hr]
  all_goals rfl

/-! ### Records without such a line -/

/-- A clock without a timestamp is a fault. -/
theorem structuredLine_of_clock {problem : TimestampProblem}
    (hclock : timestamp host.zone pattern r.time = .error problem) :
    r.structuredLine host current pattern = .error (.badTimestamp problem) := by
  rw [structuredLine, entry, hclock]
  rfl

/-- Lists in each other, so many deep. -/
def nestedLists : Nat → Value
  | 0 => .null
  | n + 1 => .seq .list [nestedLists n]

theorem exists_toJson_nestedLists (n : Nat) :
    ∃ j, (nestedLists n).toJson = .ok j ∧ j.depth = n := by
  induction n with
  | zero => exact ⟨.null, by rw [nestedLists, Value.toJson], rfl⟩
  | succ n ih =>
      obtain ⟨j, hj, hdepth⟩ := ih
      refine ⟨.array [j], ?_, ?_⟩
      · rw [nestedLists, Value.toJson, Value.toJsonAll, hj]
        rfl
      · rw [Json.depth, depthOfElements, depthOfElements, hdepth, Nat.max_zero]

/-- A field in the place of the timestamp comes first in the line, and with it the line is one level
deeper than the field. -/
theorem exists_structuredLine_sample {v : Value} {j : Json} (hj : v.toJson = .ok j)
    (deepest : Nat) :
    ∃ members,
      (sample "told" [] [(.str "timestamp", v)] 0).structuredLine (.quiet deepest) none "" =
        if deepest < j.depth + 1 then .error .writtenTooDeep
        else .ok (String.ofList (Json.object (("timestamp", j) :: members)).print) := by
  obtain ⟨rest, members, hfields, hrest, hmembers⟩ : ∃ rest members,
      (sample "told" [] [(.str "timestamp", v)] 0).fields none "1970-01-01 00:00:00,000"
        (CodeText.ofString "told") [(.str "timestamp", v)] = (.str "timestamp", v) :: rest ∧
      Value.toMembers rest = .ok members ∧ depthOfMembers members = 0 :=
    ⟨_, [("level", .str "INFO"), ("logger", .str "sqlpilot"), ("message", .str "told"),
      ("module", .str "m"), ("function", .null), ("line", .int 1)],
      rfl, by with_unfolding_all exact rfl, rfl⟩
  have hentry :
      (sample "told" [] [(.str "timestamp", v)] 0).entry (.quiet deepest) none "" = _ :=
    entry_eq timestamp_zero renderMessage_nil (.inr rfl)
  have hjson : (Value.dict .plain ((.str "timestamp", v) :: rest)).toJson =
      .ok (.object (("timestamp", j) :: members)) := by
    rw [Value.toJson, Value.toMembers, hj, hrest]
    rfl
  have hdepth : (Json.object (("timestamp", j) :: members)).depth = j.depth + 1 := by
    rw [Json.depth, depthOfMembers, hmembers, Nat.max_zero]
  refine ⟨members, ?_⟩
  rw [structuredLine, hentry.trans (congrArg Except.ok hfields)]
  change (Value.dict .plain _).encode deepest = _
  rw [Value.encode, hjson, ← hdepth]

/-- **Records without a legible line.** A whole number may be written that is not read; lists may be
too deep for any writer; the message or the correlation id may hold half of a surrogate pair, and
the clock may have no timestamp. -/
theorem structuredLine_illegible :
    (∃ line, (sample "told" [] [(.str "timestamp", .int (-(tenTo 4299 : Int)))] 0).structuredLine
        (.quiet 1) none "" = .ok line ∧
      (Value.str line).decode 1 = .error (serializationFault "Unable to decode JSON document")) ∧
    (∀ deepest, (sample "told" [] [(.str "timestamp", nestedLists deepest)] 0).structuredLine
      (.quiet deepest) none "" = .error .writtenTooDeep) ∧
    (∃ message, (sample "%c" [.int 0xd800] [] 0).message = .ok message ∧
      (sample "%c" [.int 0xd800] [] 0).structuredLine (.quiet 1) none "" =
        .error (.undisplayable (.surrogates 0 [0xd800]))) ∧
    (sample "told" [] [] 0).structuredLine (.quiet 1) (some [.char 'a', .surrogate 0xd800]) "" =
      .error (.undisplayable (.surrogates 1 [0xd800])) ∧
    ∃ problem, (sample "told" [] [] (tenTo 30)).structuredLine (.quiet 1) none "" =
      .error (.badTimestamp problem) := by
  refine ⟨?_, fun deepest => ?_, ?_, ?_, ?_⟩
  · have hjson : (Value.int (-(tenTo 4299 : Int))).toJson = .ok (.int (-(tenTo 4299 : Int))) :=
      Value.toJson_int Value.isOverlong_neg_tenTo_4299
    obtain ⟨members, hline⟩ := exists_structuredLine_sample hjson 1
    refine ⟨_, hline.trans (if_neg (Nat.lt_irrefl 1)), ?_⟩
    change ofRead (ofText 1 _) = _
    rw [ofText_object_long Value.maxWholeLength_lt_length]
    rfl
  · obtain ⟨j, hj, hdeep⟩ := exists_toJson_nestedLists deepest
    obtain ⟨members, hline⟩ := exists_structuredLine_sample hj deepest
    exact hline.trans (if_pos (hdeep ▸ Nat.lt_succ_self _))
  · have hformats : (sample "%c" [.int 0xd800] [] 0).message = .ok [.surrogate 0xd800] := by
      with_unfolding_all exact rfl
    have hentry : (sample "%c" [.int 0xd800] [] 0).entry (.quiet 1) none "" = _ :=
      entry_eq timestamp_zero hformats (.inr rfl)
    refine ⟨_, hformats, ?_⟩
    rw [structuredLine, hentry]
    rfl
  · have hentry : (sample "told" [] [] 0).entry (.quiet 1)
        (some [.char 'a', .surrogate 0xd800]) "" = _ :=
      entry_eq timestamp_zero renderMessage_nil (.inr rfl)
    rw [structuredLine, hentry]
    rfl
  · have herror : (timestamp .universal "" (tenTo 30)).toOption = none := by decide +kernel
    cases htime : timestamp .universal "" (tenTo 30) with
    | ok time => rw [htime] at herror; cases herror
    | error problem => exact ⟨problem, structuredLine_of_clock htime⟩

end SqlBind.Log.Record
