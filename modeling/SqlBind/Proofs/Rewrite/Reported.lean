import SqlBind.Proofs.Rewrite.Diagnostics
import SqlBind.Proofs.Rewrite.Introspection
import SqlBind.Proofs.Rewrite.Overlay
import SqlBind.Session

/-!
# What a Log Is Told

A conversion makes one record if it succeeds, if it had placeholders, and if the configuration and
the logger let it be reported; otherwise it makes none (`conversion_reported`). Every handler of the
logger, or of one above it, receives this record once, and nothing else. A handler that cannot write
the line of the record may keep this to itself; if it raises the fault instead, there is no result.

The record keeps books of its own: how many placeholders there were, and which names were left.
These agree with what scanning the two statements says. In particular the names that were left, in
order and each once, are those that a scan finds in the converted statement.

## Main definitions

* `Log.Circumstances.records`, `conversionRecords`: the records that logging fields makes, and those
  that a conversion makes.
* `Log.Circumstances.deliverAll`: what handlers make of records.
* `Log.Delivery.after`: an outcome after a delivery.
* `Faithful`: a record says of a conversion what is true of it.

## Main results

* `pairwise_lt_sortedNames`: sorted names increase.
* `runConvert_of_limits`: a conversion with a report in terms of its records.
* `silent_of_error` and `reported_of_ok`: what is reported of one that fails, and of one that
  succeeds.
* `conversion_reported`: when there is a record, and that it is faithful.
-/

namespace SqlBind

open Log Placeholder Text

namespace Log

/-- The field of a record with a given name. -/
def Record.field? (r : Record) (name : String) : Option Value := r.extra.bind (·.find? name)

namespace Circumstances

/-- The records that logging fields at a logger makes: one if the logger is enabled for the
level. -/
def records (now : Circumstances) (name : String) (level : Int) (message : String)
    (fields : Keywords) : List Record :=
  if now.registry.isEnabled name level then
    [now.record name level message [] (some fields.toValue)]
  else []

/-- The handlers that a record goes to: those of its logger, whose name is a text. -/
def handlersOf (now : Circumstances) (r : Record) : List (HandlerRef × Handler) :=
  (r.logger.toString?.map now.registry.handlersFor).getD []

/-- What the handlers make of records, one record after the other. -/
def deliverAll (now : Circumstances) : List Record → Delivery
  | [] => .none
  | r :: rest =>
    (deliver now.host r now.correlation (now.handlersOf r)).andThen (now.deliverAll rest)

/-- A record that a logger makes goes to the handlers for its name. -/
theorem handlersOf_record (now : Circumstances) {name template : String} {level : Int}
    {args : List Value} {extra : Option Value} :
    now.handlersOf (now.record name level template args extra) =
      now.registry.handlersFor name := by
  rw [handlersOf, record, CodeText.toString?_ofString]
  rfl

end Circumstances

/-- An outcome after a delivery, which is a fault instead if the delivery ended with one. -/
def Delivery.after {α : Type} (d : Delivery) (outcome : Outcome α) : Outcome α :=
  match d.fault with
  | some fault => .error fault
  | Option.none => outcome

/-- There is a result if there was one, and the delivery ended without a fault. -/
theorem Delivery.after_eq_ok_iff {α : Type} {d : Delivery} {outcome : Outcome α} {a : α} :
    d.after outcome = .ok a ↔ d.fault = Option.none ∧ outcome = .ok a := by
  rw [after]
  cases d.fault <;> simp

/-- There is a fault if the delivery ended with it, or if there was one and no other came. -/
theorem Delivery.after_eq_error_iff {α : Type} {d : Delivery} {outcome : Outcome α}
    {fault : Fault} : d.after outcome = .error fault ↔
      d.fault = some fault ∨ (d.fault = Option.none ∧ outcome = .error fault) := by
  rw [after]
  cases d.fault <;> simp

end Log

/-- The records that a conversion makes: that of its report, if it succeeds and is reported. -/
def conversionRecords (now : Circumstances) (config : Config) (sql : String) (bindings : Value)
    (supplied : Option (List Placeholder)) : List Record :=
  match convert sql bindings supplied with
  | .error _ => []
  | .ok c =>
    match c.report config sql with
    | .error _ => []
    | .ok fields =>
      if isReported now config c then
        now.records converterName Level.debug reportMessage fields
      else []

/-- A text as a report shows it: in full if it is no longer than a bound, and otherwise as many
leading characters with three dots behind them. -/
def shownText (bound : Nat) (text : String) : String :=
  if text.length ≤ bound then text else String.ofList (text.toList.take bound) ++ "..."

/-- **A record says what is true** of a conversion of `sql` to `text` with `parameters`, under
limits and with or without values. -/
structure Faithful (length count : Nat) (showsValues : Bool) (sql text : String)
    (parameters : List Value) (r : Record) : Prop where
  /-- It is a record of the logger for rewrites, at the level of debugging. -/
  origin : r.logger = .ofString converterName ∧ r.level = Level.debug
  /-- It has the message of a report, and no exception. -/
  message : r.message = .ok (.ofString reportMessage) ∧ r.exception = none
  /-- It shows both statements up to the limit. -/
  before : r.field? "sql" = some (.str (shownText length sql))
  after : r.field? "converted_sql" = some (.str (shownText length text))
  /-- It counts the placeholders of the statement, and the values. -/
  placeholders : r.field? "placeholder_count" = some (.int (Placeholder.count sql))
  values : r.field? "parameter_count" = some (.int parameters.length)
  /-- It lists the names in the converted statement in order, each once. -/
  unresolved : ∃ names : List String,
    r.field? "unresolved" = some (.seq .list (names.map .str)) ∧ names.Pairwise (· < ·) ∧
      ∀ name, name ∈ names ↔ name ∈ Placeholder.names text
  /-- It has the leading values, up to the limit, exactly if values are to be shown. -/
  shown : r.field? "parameters" =
    if showsValues then some (.seq .list (parameters.take count)) else none
  /-- It says whether some are missing, likewise. -/
  truncated : r.field? "parameters_truncated" =
    if showsValues then some (.bool (decide ((parameters.take count).length < parameters.length)))
    else none

/-- A step of a session converts a statement with bindings under a configuration: through a
converter that holds the configuration, or through a rewriter that merges the bindings first. -/
inductive Session.Converts (s : Session) (config : Config) (sql : String) (bindings : Value) :
    Step → Prop
  | convert {id : String} :
      s.workspace.look (.converter id) = .ok config →
      Converts s config sql bindings (.convert id (.str sql) bindings none)
  | rewrite {rewriter : Option String} {mapping : Value} {keywords : Keywords} {b : Bindings} :
      s.rewriterConfig rewriter = .ok config →
      Bindings.merge (.str sql) mapping keywords = .ok b → b.view = bindings →
      Converts s config sql bindings (.rewrite rewriter (.str sql) mapping keywords)

variable {config : Config} {now : Circumstances} {length count : Nat}

/-! ### Names in order -/

/-- The sorted names are the names. -/
theorem mem_sortedNames {names : List String} {name : String} :
    name ∈ sortedNames names ↔ name ∈ names := by
  rw [sortedNames, List.mem_mergeSort, List.mem_eraseDups]

/-- **Sorted names increase.** -/
theorem pairwise_lt_sortedNames (names : List String) : (sortedNames names).Pairwise (· < ·) := by
  have hle : (sortedNames names).Pairwise fun a b => decide (a ≤ b) = true := by
    refine List.pairwise_mergeSort (fun a b c hab hbc => ?_) (fun a b => ?_) _
    · rw [decide_eq_true_eq] at hab hbc ⊢
      exact String.le_trans hab hbc
    · rw [Bool.or_eq_true, decide_eq_true_eq, decide_eq_true_eq]
      exact String.le_total a b
  have hne : (sortedNames names).Pairwise (· ≠ ·) :=
    (List.mergeSort_perm _ _).nodup_iff.mpr (nodup_eraseDups names)
  refine (hle.and hne).imp fun {a b} hab => ?_
  obtain ⟨hle, hne⟩ := hab
  rw [decide_eq_true_eq] at hle
  exact Decidable.byContradiction fun hlt => hne (String.le_antisymm hle (String.not_lt.mp hlt))

/-! ### Records -/

/-- A delivery behind which nothing comes. -/
theorem andThen_none (d : Delivery) : d.andThen .none = d := by
  obtain ⟨entries, fault⟩ := d
  cases fault with
  | none => simp [Delivery.andThen, Delivery.none]
  | some fault => rfl

/-- Fields none of which has a reserved name are logged as a record. -/
theorem emitFields_eq_deliverAll {fields : Keywords} (name message : String) (level : Int)
    (h : ∀ f ∈ fields, reservedNames.contains f.1 = false) :
    now.emitFields name level message fields =
      now.deliverAll (now.records name level message fields) := by
  have hfree : (fields.find? fun f => reservedNames.contains f.1) = none :=
    List.find?_eq_none.mpr fun f hf => by rw [h f hf]; exact Bool.false_ne_true
  rw [Circumstances.emitFields, hfree]
  dsimp only
  rw [Circumstances.emitRecord, Circumstances.records]
  split
  · rw [Circumstances.deliverAll, Circumstances.deliverAll, andThen_none,
      Circumstances.handlersOf_record]
    rfl
  · rfl

/-- **A conversion with a report** comes out as one without, unless a handler raises a fault, and
the handlers receive what they make of its records. -/
theorem runConvert_of_limits (h : config.Limits length count) (now : Circumstances) (sql : String)
    (bindings : Value) (supplied : Option (List Placeholder)) :
    runConvert now config (.str sql) bindings supplied =
      let delivery := now.deliverAll (conversionRecords now config sql bindings supplied)
      (delivery.after ((convert sql bindings supplied).map Conversion.result), delivery) := by
  change runConvertText now config sql bindings supplied = _
  rw [runConvertText, conversionRecords]
  cases convert sql bindings supplied with
  | error fault => rfl
  | ok c =>
      obtain ⟨fields, hfields, hfree⟩ :=
        exists_report_of_integers h.statementLength h.parameterCount c sql
      have hdelivery : reportConversion now config sql c =
          now.deliverAll (if isReported now config c then
            now.records converterName Level.debug reportMessage fields else []) := by
        rw [reportConversion, hfields]
        split
        · exact emitFields_eq_deliverAll _ _ _ hfree
        · rfl
      dsimp only
      rw [hfields, hdelivery]
      generalize now.deliverAll _ = delivery
      obtain ⟨entries, fault⟩ := delivery
      cases fault <;> rfl

/-! ### What a record says -/

/-- A natural number says how many elements a stretch from the beginning has. -/
theorem sliceTo_natCast {α : Type} (xs : List α) (n : Nat) : sliceTo xs n = xs.take n := by
  rw [sliceTo, clampOffset, if_neg (by omega), Int.toNat_natCast, List.take_eq_take_iff]
  omega

/-- A text is cut at a natural number as a report shows it. -/
theorem cutAt_natCast (bound : Nat) (text : String) : cutAt bound text = shownText bound text := by
  rw [cutAt, shownText, sliceTo_natCast]
  by_cases hle : text.length ≤ bound
  · rw [if_pos hle, if_pos (by omega)]
  · rw [if_neg hle, if_neg (by omega), String.ofList_append]

/-- The names that a conversion leaves. -/
theorem unresolved_converted (sql : String) (bindings : Value) :
    (converted sql bindings).unresolved =
      (tokenNames (pieces sql.toList)).filter fun name => (bindings.find? name).isNone := by
  have hresolved : ∀ p : Placeholder,
      (!(emission bindings p).resolved) = (bindings.find? p.name).isNone := by
    intro p
    rw [emission]
    cases bindings.find? p.name with
    | none => rfl
    | some v => rfl
  rw [converted, Conversion.ofEmissions, ← map_name_scan, List.filter_map, List.filter_map,
    List.map_map]
  simp only [Function.comp_def, hresolved]

/-- They are those that a scan finds in the converted statement. -/
theorem mem_unresolved_converted_iff {sql name : String} {bindings : Value} :
    name ∈ (converted sql bindings).unresolved ↔
      name ∈ Placeholder.names (converted sql bindings).sql := by
  rw [Placeholder.names, List.mem_eraseDups, map_name_scan, tokenNames_pieces_converted,
    unresolved_converted]

/-- The fields of a record are those that were logged. -/
theorem field?_record (fields : Keywords) (name : String) :
    (now.record converterName Level.debug reportMessage [] (some fields.toValue)).field? name =
      fields.lookup name := find?_toValue fields name

/-- **The record of a report is faithful.** -/
theorem faithful_record (now : Circumstances) (length count : Nat) (shows : Bool) (sql : String)
    (bindings : Value) :
    Faithful length count shows sql (converted sql bindings).sql (converted sql bindings).parameters
      (now.record converterName Level.debug reportMessage []
        (some (Keywords.toValue ((converted sql bindings).textFields length sql ++
          if shows then (converted sql bindings).valueFields count else [])))) where
  origin := ⟨rfl, rfl⟩
  message := ⟨renderMessage_nil, rfl⟩
  before := by
    rw [field?_record, ← cutAt_natCast]
    rfl
  after := by
    rw [field?_record, ← cutAt_natCast]
    rfl
  placeholders := by
    rw [field?_record, Placeholder.count,
      ← @List.length_map _ _ _ fun p => (p, emission bindings p)]
    rfl
  values := by
    rw [field?_record]
    rfl
  unresolved := by
    refine ⟨sortedNames (converted sql bindings).unresolved, ?_, pairwise_lt_sortedNames _,
      fun name => ?_⟩
    · rw [field?_record]
      rfl
    · rw [mem_sortedNames, mem_unresolved_converted_iff]
  shown := by
    rw [field?_record, ← sliceTo_natCast]
    cases shows with
    | false => rfl
    | true => rfl
  truncated := by
    have hcut : decide (((converted sql bindings).parameters.take count).length <
        (converted sql bindings).parameters.length) =
          decide ((count : Int) < (converted sql bindings).parameters.length) := by
      rw [List.length_take, decide_eq_decide]
      omega
    rw [field?_record, hcut]
    cases shows with
    | false => rfl
    | true => rfl

/-- A handler without a formatter writes the message of a faithful record. -/
theorem Faithful.formatted_none {shows : Bool} {sql text : String} {parameters : List Value}
    {r : Record} (h : Faithful length count shows sql text parameters r) (host : Host)
    (current : Option CodeText) :
    formatted host none r current = .ok (.ofString reportMessage) := by
  rw [formatted, Record.bareLine, h.message.1]
  change Except.ok (r.withReport _) = _
  rw [Record.withReport, h.message.2]

/-- **The records of a conversion** that succeeds. -/
theorem conversionRecords_of_ok (h : config.Limits length count) {sql : String} {bindings : Value}
    {supplied : Option (List Placeholder)} {c : Conversion}
    (hc : convert sql bindings supplied = .ok c) :
    conversionRecords now config sql bindings supplied =
      if isReported now config c then
        now.records converterName Level.debug reportMessage
          (c.textFields length sql ++
            if config.logParameters.isTruthy then c.valueFields count else [])
      else [] := by
  rw [conversionRecords, hc]
  dsimp only
  rw [report_of_integers h.statementLength h.parameterCount]

/-- A conversion is reported if it had placeholders, and the configuration and the logger let it. -/
theorem isReported_converted_iff {sql : String} {bindings : Value} :
    isReported now config (converted sql bindings) = true ↔
      scan sql ≠ [] ∧ config.logRewrites.isTruthy = true ∧
        now.registry.isEnabled converterName Level.debug = true := by
  have hcount : (converted sql bindings).placeholders = (scan sql).length := List.length_map _
  rw [isReported, hcount, Bool.and_eq_true, Bool.and_eq_true, and_assoc, bne_iff_ne, ne_eq,
    List.length_eq_zero_iff]

/-- A step that converts answers with what comes out, and the handlers receive what the conversion
delivers. -/
theorem step_of_converts {s : Session} {sql : String} {bindings : Value} {x : Step}
    (h : s.Converts config sql bindings x) :
    (s.step x).answer = (runConvert s.circumstances config (.str sql) bindings none).1.map
        .rewritten ∧
      (s.step x).received =
        s.received (runConvert s.circumstances config (.str sql) bindings none).2 := by
  cases h with
  | convert hlook =>
      rw [Session.step, hlook]
      exact ⟨rfl, rfl⟩
  | rewrite hconfig hmerge hview =>
      rw [Session.step, hconfig]
      dsimp only
      rw [runRewrite, hmerge]
      dsimp only
      rw [hview]
      exact ⟨rfl, rfl⟩

/-- What handlers make of a record that the logger for rewrites makes: they all receive it, unless
one of them raises a fault, which the host does not contain. -/
theorem deliverAll_record {r : Record} {fields : Keywords}
    (hr : r = now.record converterName Level.debug reportMessage [] (some fields.toValue)) :
    ((now.deliverAll [r]).fault = none → Received now.host r now.correlation
      (now.registry.handlersFor converterName) (now.deliverAll [r]).entries) ∧
    ∀ fault, (now.deliverAll [r]).fault = some fault → now.host.contains fault = false := by
  have hargs : r.args = [] := hr ▸ rfl
  have hextra : ∀ m, r.extra = some m → m.isMapping = true := by
    intro m hm
    rw [hr] at hm
    obtain rfl := Option.some.inj hm
    rfl
  have hone : now.deliverAll [r] =
      deliver now.host r now.correlation (now.registry.handlersFor converterName) := by
    rw [Circumstances.deliverAll, Circumstances.deliverAll, andThen_none, hr,
      Circumstances.handlersOf_record]
  rw [hone]
  exact ⟨received_deliver hargs, fun _ hfault => (escapes_of_deliver hargs hextra hfault).raised⟩

/-- The records of a conversion: none, or one that is made of a report. -/
theorem conversionRecords_cases (now : Circumstances) (config : Config) (sql : String)
    (bindings : Value) (supplied : Option (List Placeholder)) :
    conversionRecords now config sql bindings supplied = [] ∨
      ∃ fields : Keywords, conversionRecords now config sql bindings supplied =
        [now.record converterName Level.debug reportMessage [] (some fields.toValue)] := by
  rw [conversionRecords]
  split
  · exact .inl rfl
  · split
    · exact .inl rfl
    · next fields _ =>
        split
        · rw [Circumstances.records]
          split
          · exact .inr ⟨fields, rfl⟩
          · exact .inl rfl
        · exact .inl rfl

/-- A conversion that fails makes none. -/
theorem conversionRecords_of_error {sql : String} {bindings : Value}
    {supplied : Option (List Placeholder)} {fault : Fault}
    (hc : convert sql bindings supplied = .error fault) :
    conversionRecords now config sql bindings supplied = [] := by
  rw [conversionRecords, hc]

/-- **A reported conversion that fails** made no record, and handlers received nothing; or it would
have succeeded, and the fault is one that a handler raised. -/
theorem silent_of_error (h : config.Limits length count) {sql : String} {bindings : Value}
    {fault : Fault} (hfault : (runConvert now config (.str sql) bindings none).1 = .error fault) :
    (convert sql bindings none = .error fault ∧
        conversionRecords now config sql bindings none = [] ∧
        (runConvert now config (.str sql) bindings none).2.entries = []) ∨
      ∃ c, convert sql bindings none = .ok c ∧
        (runConvert now config (.str sql) bindings none).2.fault = some fault ∧
        now.host.contains fault = false := by
  rw [runConvert_of_limits h] at hfault ⊢
  cases hc : convert sql bindings none with
  | error problem =>
      rw [hc, conversionRecords_of_error hc] at hfault
      obtain rfl := Except.error.inj hfault
      rw [conversionRecords_of_error hc]
      exact .inl ⟨rfl, rfl, rfl⟩
  | ok c =>
      rw [hc] at hfault
      obtain hraised | ⟨-, hfailed⟩ := Delivery.after_eq_error_iff.mp hfault
      · refine .inr ⟨c, rfl, hraised, ?_⟩
        obtain hnone | ⟨fields, hone⟩ := conversionRecords_cases now config sql bindings none
        · rw [hnone] at hraised
          cases hraised
        · rw [hone] at hraised
          exact (deliverAll_record rfl).2 _ hraised
      · cases hfailed

/-- **A reported conversion that succeeds** made one record if it is to be reported, a faithful one
that all handlers received, and no record otherwise. -/
theorem reported_of_ok (h : config.Limits length count) {sql : String} {bindings : Value}
    {r : Rewritten} (hr : (runConvert now config (.str sql) bindings none).1 = .ok r) :
    ∃ text, r.sql = .str text ∧
      if scan sql ≠ [] ∧ config.logRewrites.isTruthy = true ∧
          now.registry.isEnabled converterName Level.debug = true then
        ∃ record, conversionRecords now config sql bindings none = [record] ∧
          Faithful length count config.logParameters.isTruthy sql text r.parameters record ∧
          Received now.host record now.correlation (now.registry.handlersFor converterName)
            (runConvert now config (.str sql) bindings none).2.entries
      else conversionRecords now config sql bindings none = [] ∧
        (runConvert now config (.str sql) bindings none).2.entries = [] := by
  rw [runConvert_of_limits h] at hr ⊢
  obtain ⟨hwhole, hr⟩ := Delivery.after_eq_ok_iff.mp hr
  obtain ⟨c, hc, rfl⟩ := exists_of_map_eq_ok hr
  have hrecords := @conversionRecords_of_ok config now length count h sql bindings none c hc
  obtain ⟨-, -, rfl⟩ := convert_eq_ok_iff.mp hc
  refine ⟨(converted sql bindings).sql, rfl, ?_⟩
  split
  case isTrue hreported =>
    rw [if_pos (isReported_converted_iff.mpr hreported), Circumstances.records,
      if_pos hreported.2.2] at hrecords
    rw [hrecords] at hwhole ⊢
    exact ⟨_, rfl, faithful_record now length count _ sql bindings,
      (deliverAll_record rfl).1 hwhole⟩
  case isFalse hsilent =>
    rw [if_neg fun hreported => hsilent (isReported_converted_iff.mp hreported)] at hrecords
    rw [hrecords]
    exact ⟨rfl, rfl⟩

/-- **When a conversion is reported, and how.** In all circumstances that a session may have come
to, and under every configuration whose limits are valid, a conversion that fails makes no record,
and no handler receives anything, except where it fails because a handler raised a fault that the
host does not contain. If it succeeds there is exactly one record, and a faithful one, of which each
handler of the logger for rewrites receives one entry, provided that the statement has placeholders,
that the configuration asks for reports, and that the logger is enabled for debugging. Otherwise
there is no record, and handlers receive nothing. -/
theorem conversion_reported (h : config.Limits length count) (now : Circumstances) (sql : String)
    (bindings : Value) :
    let records := conversionRecords now config sql bindings none
    let result := runConvert now config (.str sql) bindings none
    (∀ fault, result.1 = .error fault →
      (convert sql bindings none = .error fault ∧ records = [] ∧ result.2.entries = []) ∨
        ∃ c, convert sql bindings none = .ok c ∧ result.2.fault = some fault ∧
          now.host.contains fault = false) ∧
    (∀ r, result.1 = .ok r →
      ∃ text, r.sql = .str text ∧
        if scan sql ≠ [] ∧ config.logRewrites.isTruthy = true ∧
            now.registry.isEnabled converterName Level.debug = true then
          ∃ record, records = [record] ∧
            Faithful length count config.logParameters.isTruthy sql text r.parameters record ∧
            Received now.host record now.correlation (now.registry.handlersFor converterName)
              result.2.entries
        else records = [] ∧ result.2.entries = []) ∧
    ∀ (s : Session) (x : Step), s.circumstances = now → s.Converts config sql bindings x →
      (s.step x).answer = result.1.map .rewritten ∧ (s.step x).received = s.received result.2 := by
  refine ⟨fun fault => silent_of_error h, fun r => reported_of_ok h, fun s x hnow hx => ?_⟩
  obtain ⟨hanswer, hreceived⟩ := step_of_converts hx
  rw [hnow] at hanswer hreceived
  exact ⟨hanswer, hreceived⟩

/-- With room for three characters and one value: a statement with a bound name, a sequence and a
name that is left. A handler of the logger for rewrites captures the record, and then one of the
root logger writes its message. -/
theorem conversion_reported_briefly :
    ∃ config : Config, config = ⟨.bool true, .bool true, .int 3, .int 1⟩ ∧ config.Limits 3 1 ∧
      ∃ now : Circumstances,
        now = ⟨.quiet 0, ⟨[⟨rootName, 0, 0, [0]⟩, ⟨converterName, Level.debug, 1, [1]⟩],
          [⟨"lines", .stream, none, true, 0⟩, ⟨"parts", .capture, none, false, 0⟩], 0⟩, none, 0,
          ⟨"m", none, 1⟩⟩ ∧
        ∃ record,
          Faithful 3 1 true ":b:a:ids" ":b?(?, ?)" [.int 5, .int 1, .int 2] record ∧
          (runConvert now config (.str ":b:a:ids") (.dict .plain [(.str "a", .int 5),
            (.str "ids", .seq .list [.int 1, .int 2])]) none).2.entries =
            [(1, .captured ⟨.ofString converterName, Level.debug, .ofString reportMessage,
                record.correlation, record.extra⟩),
              (0, .line (.ofString reportMessage))] := by
  obtain ⟨now, hnow⟩ : ∃ now : Circumstances,
      now = ⟨.quiet 0, ⟨[⟨rootName, 0, 0, [0]⟩, ⟨converterName, Level.debug, 1, [1]⟩],
        [⟨"lines", .stream, none, true, 0⟩, ⟨"parts", .capture, none, false, 0⟩], 0⟩, none, 0,
        ⟨"m", none, 1⟩⟩ := ⟨_, rfl⟩
  have hpieces : pieces ":b:a:ids".toList = [.token ['b'], .token ['a'], .token ['i', 'd', 's']] :=
    pieces_eq_iff.mpr (by decide)
  have hscan : scan ":b:a:ids" ≠ [] := by
    rw [scan_eq_locate, hpieces]
    exact List.cons_ne_nil _ _
  have henabled : now.registry.isEnabled converterName Level.debug = true := by
    rw [hnow]
    cbv
  have hhandlers : now.registry.handlersFor converterName =
      [(1, ⟨"parts", .capture, none, false, 0⟩), (0, ⟨"lines", .stream, none, true, 0⟩)] := by
    rw [hnow]
    cbv
  have hlimits : Config.Limits ⟨.bool true, .bool true, .int 3, .int 1⟩ 3 1 :=
    ⟨rfl, rfl, by decide⟩
  have hquiet : now.host.Contains := hnow ▸ Host.contains_quiet 0
  obtain ⟨c, hc, hsql, hparameters⟩ : ∃ c, convert ":b:a:ids" (.dict .plain [(.str "a", .int 5),
      (.str "ids", .seq .list [.int 1, .int 2])]) none = .ok c ∧ c.sql = ":b?(?, ?)" ∧
        c.parameters = [.int 5, .int 1, .int 2] :=
    convert_of_pieces rfl hpieces rfl rfl rfl
  obtain ⟨-, hok, -⟩ := conversion_reported hlimits now ":b:a:ids"
    (.dict .plain [(.str "a", .int 5), (.str "ids", .seq .list [.int 1, .int 2])])
  have hresult : (runConvert now ⟨.bool true, .bool true, .int 3, .int 1⟩ (.str ":b:a:ids")
      (.dict .plain [(.str "a", .int 5), (.str "ids", .seq .list [.int 1, .int 2])]) none).1 =
        .ok c.result := by
    have hintegral : Config.Integral ⟨.bool true, .bool true, .int 3, .int 1⟩ :=
      fun s => by cases s <;> rfl
    have hout := comesOut_runConvertText now hintegral ":b:a:ids" (.dict .plain
      [(.str "a", .int 5), (.str "ids", .seq .list [.int 1, .int 2])]) none
    refine (hout.eq_of_contains hquiet).trans ?_
    rw [hc]
    rfl
  obtain ⟨text, htext, hreported⟩ := hok c.result hresult
  rw [if_pos ⟨hscan, rfl, henabled⟩, ← Value.str.inj htext, hsql, hhandlers] at hreported
  obtain ⟨record, -, hfaithful, hreceived⟩ := hreported
  rw [Conversion.result, hparameters] at hfaithful
  refine ⟨_, rfl, hlimits, now, hnow, record, hfaithful, ?_⟩
  rw [← hfaithful.origin.1, ← hfaithful.origin.2]
  refine hreceived.unique (.cons ⟨rfl, .captured rfl hfaithful.message.1⟩
    (.cons ⟨rfl, .line rfl ?_⟩ .nil))
  exact hfaithful.formatted_none now.host now.correlation

end SqlBind
