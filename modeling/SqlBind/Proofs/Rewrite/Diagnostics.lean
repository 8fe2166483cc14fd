import Mathlib.Data.List.Forall2
import SqlBind.Proofs.Config.Integral
import SqlBind.Rewrite.Rewritten

/-!
# Diagnostics without Consequences

A report to the log is made after a conversion and before its result is handed out, so a report that
failed would take the result with it. With integers and truth values in the configuration no report
fails (`fault_reportConversion`): limits compare with lengths and bound slices, whatever their sign,
the names of the fields are not reserved, and a message without arguments is told as it stands. What
a formatter cannot write is the entry of its handler and ends nothing, unless the handler raises the
fault again, which then takes the place of the result (`Host.ComesOut`).

So if handlers keep such faults to themselves (`Host.Contains`), neither the configuration nor the
loggers and handlers matter for what comes out (`outcome_of_diagnostics`). Whoever switches reports
on, cuts them, or binds a value that cannot be shown gets the same statement and values as everybody
else, or the same error.

## Main definitions

* `Conversion.textFields`, `Conversion.valueFields`: what a report says where the limits are
  integers.
* `Log.Handler.Makes`: what a handler makes of a record.
* `Log.Received`: all handlers have received a record.
* `Log.Host.Escapes`: a fault escapes a handler.
* `Log.Host.ComesOut`: what an operation comes out as where it is reported.

## Main results

* `report_of_integers`: that it says so.
* `exists_report_eq`: a report is made, and no field of it has a reserved name.
* `Log.Received.unique`: what handlers have made of a record is determined by it.
* `received_deliver`: a record without arguments is received by all handlers, unless one raises a
  fault.
* `escapes_of_reportConversion`: a report fails with nothing but such a fault.
* `comesOut_runRewrite`: a rewrite with reports comes out as one without, unless such a fault takes
  its place.
* `outcome_of_diagnostics`: outcomes under any two configurations and in any two circumstances.
-/

namespace SqlBind

open Log Text

/-- A text as it is cut at an integer. -/
def cutAt (i : Int) (text : String) : String :=
  if text.length ≤ i then text else String.ofList (sliceTo text.toList i ++ ['.', '.', '.'])

/-- The fields of a report that are always there, when statements are cut at an integer. -/
def Conversion.textFields (c : Conversion) (length : Int) (sql : String) : Keywords :=
  [("sql", .str (cutAt length sql)), ("converted_sql", .str (cutAt length c.sql)),
    ("placeholder_count", .int c.placeholders), ("parameter_count", .int c.parameters.length),
    ("unresolved", .seq .list ((sortedNames c.unresolved).map .str))]

/-- The fields of a report about values, of which an integer says how many are shown. -/
def Conversion.valueFields (c : Conversion) (count : Int) : Keywords :=
  [("parameters", .seq .list (sliceTo c.parameters count)),
    ("parameters_truncated", .bool (decide (count < c.parameters.length)))]

/-- **What a handler makes of a record** while `current` is the correlation id: the line of the
record, or that there is none, or the parts of the record. -/
inductive Log.Handler.Makes (host : Host) (r : Record) (current : Option CodeText) (h : Handler) :
    Entry → Prop
  | line {text : CodeText} : h.kind = .stream →
      formatted host h.formatter r current = .ok text → Makes host r current h (.line text)
  | failed {fault : Fault} : h.kind = .stream →
      formatted host h.formatter r current = .error fault → Makes host r current h (.failed fault)
  | captured {message : CodeText} : h.kind = .capture → r.message = .ok message →
      Makes host r current h
        (.captured ⟨r.logger, r.level, message, r.correlation, r.extra⟩)

/-- **All handlers have received a record**: each of them has made one entry of it, in order. -/
def Log.Received (host : Host) (r : Record) (current : Option CodeText) :
    List (HandlerRef × Handler) → List (HandlerRef × Entry) → Prop :=
  List.Forall₂ fun h e => e.1 = h.1 ∧ h.2.Makes host r current e.2

/-- A handler makes one thing of a record. -/
theorem Log.Handler.Makes.unique {host : Host} {r : Record} {current : Option CodeText}
    {h : Handler} {first second : Entry} (h₁ : h.Makes host r current first)
    (h₂ : h.Makes host r current second) : first = second := by
  cases h₁ with
  | line hkind hline =>
      cases h₂ with
      | line _ hother => rw [Except.ok.inj (hline.symm.trans hother)]
      | failed _ hother => cases hline.symm.trans hother
      | captured hother => cases hkind.symm.trans hother
  | failed hkind hline =>
      cases h₂ with
      | line _ hother => cases hline.symm.trans hother
      | failed _ hother => rw [Except.error.inj (hline.symm.trans hother)]
      | captured hother => cases hkind.symm.trans hother
  | captured hkind hmessage =>
      cases h₂ with
      | line hother | failed hother => cases hkind.symm.trans hother
      | captured _ hother => rw [Except.ok.inj (hmessage.symm.trans hother)]

/-- So all handlers together make one list of entries. -/
theorem Log.Received.unique {host : Host} {r : Record} {current : Option CodeText}
    {handlers : List (HandlerRef × Handler)} {first second : List (HandlerRef × Entry)}
    (h₁ : Received host r current handlers first) (h₂ : Received host r current handlers second) :
    first = second := by
  refine List.right_unique_forall₂' (fun _ _ _ hfirst hsecond => ?_) h₁ h₂
  exact Prod.ext (hfirst.1.trans hsecond.1.symm) (hfirst.2.unique hsecond.2)

/-- **A fault that escapes a handler** which writes the lines of reports: the host does not contain
it, and if it is an error of the library, it is one about a document. -/
structure Log.Host.Escapes (host : Host) (fault : Fault) : Prop where
  raised : host.contains fault = false
  kind : ∀ e, fault = .library e → e.kind = .general .serialization

/-- **What an operation comes out as where it is reported**: the same as without, unless it has a
result and a fault escapes a handler. -/
inductive Log.Host.ComesOut {α : Type} (host : Host) (plain : Outcome α) : Outcome α → Prop
  | same : ComesOut host plain plain
  | escaped {fault : Fault} {a : α} : plain = .ok a → host.Escapes fault →
      ComesOut host plain (.error fault)

/-- Nothing escapes if every fault is contained. -/
theorem Log.Host.ComesOut.eq_of_contains {α : Type} {host : Host} {plain outcome : Outcome α}
    (h : host.ComesOut plain outcome) (hhost : host.Contains) : outcome = plain := by
  cases h with
  | same => rfl
  | escaped _ hescapes => cases (hhost _).symm.trans hescapes.raised

variable {config : Config} {now : Circumstances}

/-! ### Making a report -/

section Limits

variable {limit : Value} {i : Int}

/-- An integer bounds a slice. -/
theorem sliceBound_of_integer (h : limit.integer? = some i) : sliceBound limit = .ok (some i) := by
  unfold Value.integer? at h
  split at h
  · rw [sliceBound, h]
  · rw [sliceBound, h]
  · cases h

/-- An integer compares with a length. -/
theorem compareFrom_of_integer (n : Int) (relation : Relation) (h : limit.integer? = some i) :
    Value.compareFrom n relation limit = .ok (relation.holdsInt n i) := by
  rw [Value.compareFrom, h]

/-- **A text is cut at any integer**, be it negative. -/
theorem truncate_of_integer (text : String) (h : limit.integer? = some i) :
    truncate text limit = .ok (cutAt i text) := by
  rw [truncate, compareFrom_of_integer _ _ h, sliceBound_of_integer h, cutAt]
  by_cases hle : (text.length : Int) ≤ i
  · simp [Relation.holdsInt, hle, bind, Except.bind, pure, Except.pure]
  · simp [Relation.holdsInt, hle, takeBound, bind, Except.bind, pure, Except.pure]

/-- The values of a conversion are reported up to any integer. -/
theorem parameterReport_of_integer (c : Conversion) (h : limit.integer? = some i) :
    c.parameterReport limit = .ok (c.valueFields i) := by
  rw [Conversion.parameterReport, compareFrom_of_integer _ _ h, sliceBound_of_integer h]
  rfl

end Limits

/-- **What a report says** where the limits are integers. -/
theorem report_of_integers {length count : Int}
    (hlength : config.statementLength.integer? = some length)
    (hcount : config.parameterCount.integer? = some count) (c : Conversion) (sql : String) :
    c.report config sql =
      .ok (c.textFields length sql ++
        if config.logParameters.isTruthy then c.valueFields count else []) := by
  rw [Conversion.report, truncate_of_integer sql hlength, truncate_of_integer c.sql hlength,
    parameterReport_of_integer c hcount]
  cases config.logParameters.isTruthy with
  | false => rfl
  | true => rfl

/-- No field that is always there has a reserved name. -/
theorem not_reserved_of_mem_textFields (c : Conversion) (length : Int) (sql : String) :
    ∀ f ∈ c.textFields length sql, reservedNames.contains f.1 = false := by
  simp only [Conversion.textFields, List.forall_mem_cons]
  decide

/-- No field about values has a reserved name. -/
theorem not_reserved_of_mem_valueFields (c : Conversion) (count : Int) :
    ∀ f ∈ c.valueFields count, reservedNames.contains f.1 = false := by
  simp only [Conversion.valueFields, List.forall_mem_cons]
  decide

/-- **A report is made** where the limits are integers. No field of it has a reserved name. -/
theorem exists_report_of_integers {length count : Int}
    (hlength : config.statementLength.integer? = some length)
    (hcount : config.parameterCount.integer? = some count) (c : Conversion) (sql : String) :
    ∃ fields, c.report config sql = .ok fields ∧
      ∀ f ∈ fields, reservedNames.contains f.1 = false := by
  refine ⟨_, report_of_integers hlength hcount c sql, ?_⟩
  rw [List.forall_mem_append]
  refine ⟨not_reserved_of_mem_textFields c length sql, ?_⟩
  cases config.logParameters.isTruthy with
  | false => exact List.forall_mem_nil _
  | true => exact not_reserved_of_mem_valueFields c count

/-- **A report is made** under every integral configuration. -/
theorem exists_report_eq (h : config.Integral) (c : Conversion) (sql : String) :
    ∃ fields, c.report config sql = .ok fields ∧
      ∀ f ∈ fields, reservedNames.contains f.1 = false := by
  obtain ⟨length, hlength⟩ := Option.isSome_iff_exists.mp (h .statementLength)
  obtain ⟨count, hcount⟩ := Option.isSome_iff_exists.mp (h .parameterCount)
  exact exists_report_of_integers hlength hcount c sql

/-! ### Delivering it -/

section Deliver

variable {host : Host} {r : Record} {current : Option CodeText}
  {handlers : List (HandlerRef × Handler)}

/-- An entry that a handler makes is made of the record that it is given. -/
theorem makes_of_receive {h : Handler} {entry : Entry}
    (hentry : h.receive host r current = .ok entry) : h.Makes host r current entry := by
  unfold Handler.receive at hentry
  cases hkind : h.kind with
  | stream =>
      rw [hkind] at hentry
      dsimp only at hentry
      cases hline : formatted host h.formatter r current with
      | ok text =>
          rw [hline] at hentry
          obtain rfl := Except.ok.inj hentry
          exact .line hkind hline
      | error fault =>
          rw [hline] at hentry
          dsimp only at hentry
          split at hentry
          · obtain rfl := Except.ok.inj hentry
            exact .failed hkind hline
          · cases hentry
  | capture =>
      rw [hkind] at hentry
      obtain ⟨message, hmessage, rfl⟩ := exists_of_map_eq_ok hentry
      exact .captured hkind hmessage

/-- No error of the library keeps a record from having fields, if it has no arguments and its extra
fields are a mapping. -/
theorem entry_ne_library {pattern : String} {e : LibraryError} (hargs : r.args = [])
    (hextra : ∀ m, r.extra = some m → m.isMapping = true) :
    r.entry host current pattern ≠ .error (.library e) := by
  have hfields : ∃ entries, r.extraFields = .ok entries := by
    unfold Record.extraFields
    cases hgiven : r.extra with
    | none => exact ⟨_, rfl⟩
    | some m =>
        dsimp only
        split
        · rw [putFields, if_pos (hextra m hgiven)]
          exact ⟨_, rfl⟩
        · exact ⟨_, rfl⟩
  obtain ⟨entries, hentries⟩ := hfields
  intro hfault
  rw [Record.entry, Record.message, hargs, renderMessage_nil, hentries] at hfault
  cases htime : timestamp host.zone pattern r.time with
  | ok time => rw [htime] at hfault; cases hfault
  | error problem => rw [htime] at hfault; cases hfault

/-- An error of the library that keeps such a record from having a line is one about a document. -/
theorem kind_of_formatted {formatter : Option Formatter} {e : LibraryError} (hargs : r.args = [])
    (hextra : ∀ m, r.extra = some m → m.isMapping = true)
    (hfault : formatted host formatter r current = .error (.library e)) :
    e.kind = .general .serialization := by
  match formatter with
  | none =>
      rw [formatted, Record.bareLine, Record.message, hargs, renderMessage_nil] at hfault
      cases hfault
  | some .plain =>
      rw [formatted, Record.plainLine, Record.message, hargs, renderMessage_nil] at hfault
      cases htime : timestamp host.zone "" r.time with
      | ok time => rw [htime] at hfault; cases hfault
      | error problem => rw [htime] at hfault; cases hfault
  | some .structured =>
      rw [formatted, Record.structuredLine] at hfault
      cases hentry : r.entry host current "" with
      | error fault =>
          rw [hentry] at hfault
          obtain rfl := Except.error.inj hfault
          exact absurd hentry (entry_ne_library hargs hextra)
      | ok entries =>
          rw [hentry] at hfault
          cases hline : (Value.dict .plain entries).encode host.deepest with
          | ok line =>
              change Except.map _ (Value.encode _ _) = _ at hfault
              rw [hline] at hfault
              cases hfault
          | error fault =>
              change Except.map _ (Value.encode _ _) = _ at hfault
              rw [hline] at hfault
              obtain rfl := Except.error.inj hfault
              exact Value.kind_of_encode hline

/-- **What a handler raises** of such a record escapes it. -/
theorem escapes_of_receive {h : Handler} {fault : Fault} (hargs : r.args = [])
    (hextra : ∀ m, r.extra = some m → m.isMapping = true)
    (hfault : h.receive host r current = .error fault) : host.Escapes fault := by
  unfold Handler.receive at hfault
  cases hkind : h.kind with
  | stream =>
      rw [hkind] at hfault
      dsimp only at hfault
      cases hline : formatted host h.formatter r current with
      | ok text =>
          rw [hline] at hfault
          cases hfault
      | error raised =>
          rw [hline] at hfault
          dsimp only at hfault
          split at hfault
          case isTrue => cases hfault
          case isFalse hraised =>
            obtain rfl := Except.error.inj hfault
            refine ⟨Bool.eq_false_iff.mpr hraised, fun e he => ?_⟩
            exact kind_of_formatted hargs hextra (he ▸ hline)
  | capture =>
      rw [hkind, Record.message, hargs, renderMessage_nil] at hfault
      cases hfault

/-- A handler leaves a record without arguments as it is. -/
theorem pass_eq (hargs : r.args = []) (h : Handler) : h.pass host r = r := by
  have htold : r.told = r := by
    rw [Record.told, argumentsAfter, hargs, List.map_nil, ← hargs]
  rw [Handler.pass, htold, ite_self]

/-- **A record without arguments is received by all handlers**, unless one of them raises a
fault. -/
theorem received_deliver (hargs : r.args = [])
    (hwhole : (deliver host r current handlers).fault = none) :
    Received host r current handlers (deliver host r current handlers).entries := by
  induction handlers with
  | nil => exact List.Forall₂.nil
  | cons handler rest ih =>
      obtain ⟨ref, h⟩ := handler
      rw [deliver] at hwhole ⊢
      cases hentry : h.receive host r current with
      | error fault =>
          rw [hentry] at hwhole
          cases hwhole
      | ok entry =>
          rw [hentry] at hwhole
          dsimp only at hwhole ⊢
          -- the next handler finds the record as this one did
          rw [pass_eq hargs] at hwhole ⊢
          exact List.Forall₂.cons ⟨rfl, makes_of_receive hentry⟩ (ih hwhole)

/-- That is a fault which escapes it. -/
theorem escapes_of_deliver {fault : Fault} (hargs : r.args = [])
    (hextra : ∀ m, r.extra = some m → m.isMapping = true)
    (hfault : (deliver host r current handlers).fault = some fault) : host.Escapes fault := by
  induction handlers with
  | nil => cases hfault
  | cons handler rest ih =>
      obtain ⟨ref, h⟩ := handler
      rw [deliver] at hfault
      cases hentry : h.receive host r current with
      | error raised =>
          rw [hentry] at hfault
          obtain rfl := Option.some.inj hfault
          exact escapes_of_receive hargs hextra hentry
      | ok entry =>
          rw [hentry] at hfault
          dsimp only at hfault
          rw [pass_eq hargs] at hfault
          exact ih hfault

end Deliver

/-- If none of the fields that are logged has a reserved name, a fault that this ends with escapes a
handler. -/
theorem escapes_of_emitFields {fields : Keywords} {level : Int} {name message : String}
    {fault : Fault} (h : ∀ f ∈ fields, reservedNames.contains f.1 = false)
    (hfault : (now.emitFields name level message fields).fault = some fault) :
    now.host.Escapes fault := by
  have hfree : (fields.find? fun f => reservedNames.contains f.1) = none :=
    List.find?_eq_none.mpr fun f hf => by rw [h f hf]; exact Bool.false_ne_true
  rw [Circumstances.emitFields, hfree] at hfault
  dsimp only at hfault
  rw [Circumstances.emitRecord] at hfault
  split at hfault
  · refine escapes_of_deliver rfl (fun m hm => ?_) hfault
    obtain rfl := Option.some.inj hm
    rfl
  · cases hfault

/-- **A report fails with nothing but a fault that escapes a handler**, under an integral
configuration. -/
theorem escapes_of_reportConversion (h : config.Integral) {sql : String} {c : Conversion}
    {fault : Fault} (hfault : (reportConversion now config sql c).fault = some fault) :
    now.host.Escapes fault := by
  obtain ⟨fields, hfields, hfree⟩ := exists_report_eq h c sql
  rw [reportConversion] at hfault
  split at hfault
  · rw [hfields] at hfault
    exact escapes_of_emitFields hfree hfault
  · cases hfault

/-! ### What comes out -/

/-- A conversion with a report comes out as one without, unless a fault escapes a handler. -/
theorem comesOut_runConvertText (now : Circumstances) (h : config.Integral) (sql : String)
    (bindings : Value) (supplied : Option (List Placeholder)) :
    now.host.ComesOut ((convert sql bindings supplied).map Conversion.result)
      (runConvertText now config sql bindings supplied).1 := by
  rw [runConvertText]
  cases convert sql bindings supplied with
  | error fault => exact .same
  | ok c =>
      dsimp only
      cases hfault : (reportConversion now config sql c).fault with
      | none => exact .same
      | some fault => exact .escaped rfl (escapes_of_reportConversion h hfault)

/-- **A rewrite with a report comes out as one without**, unless a fault escapes a handler. -/
theorem comesOut_runRewrite (now : Circumstances) (h : config.Integral) (sql mapping : Value)
    (keywords : Keywords) :
    now.host.ComesOut (rewrite sql mapping keywords)
      (runRewrite now config sql mapping keywords).1 := by
  unfold runRewrite rewrite
  cases Bindings.merge sql mapping keywords with
  | error fault => exact .same
  | ok bindings =>
      unfold runConvert
      cases statementText sql with
      | error fault => exact .same
      | ok text => exact comesOut_runConvertText now h text bindings.view none

/-- **Neither configuration nor logging matters for what comes out.** Under any two configurations
that arise from integers and truth values, and in any two circumstances where handlers keep what
they cannot write to themselves, a conversion comes out the same, and so does a rewrite: the same
statement and values, or the same error. -/
theorem outcome_of_diagnostics {config₁ config₂ : Config} (h₁ : config₁.Arises)
    (h₂ : config₂.Arises) {now₁ now₂ : Circumstances} (hhost₁ : now₁.host.Contains)
    (hhost₂ : now₂.host.Contains) (sql : String) :
    (∀ bindings supplied,
      (runConvert now₁ config₁ (.str sql) bindings supplied).1 =
        (runConvert now₂ config₂ (.str sql) bindings supplied).1) ∧
    (∀ mapping keywords,
      (runRewrite now₁ config₁ (.str sql) mapping keywords).1 =
        (runRewrite now₂ config₂ (.str sql) mapping keywords).1) := by
  constructor
  · intro bindings supplied
    have hfirst := comesOut_runConvertText now₁ h₁.integral sql bindings supplied
    have hsecond := comesOut_runConvertText now₂ h₂.integral sql bindings supplied
    exact (hfirst.eq_of_contains hhost₁).trans (hsecond.eq_of_contains hhost₂).symm
  · intro mapping keywords
    have hfirst := comesOut_runRewrite now₁ h₁.integral (.str sql) mapping keywords
    have hsecond := comesOut_runRewrite now₂ h₂.integral (.str sql) mapping keywords
    rw [hfirst.eq_of_contains hhost₁, hsecond.eq_of_contains hhost₂]

/-- Limits of minus three and of zero and reports with values, at the level of debugging, with a
handler that writes structured lines and one that captures, make no difference for a value that
cannot be shown. -/
theorem outcome_of_diagnostics_unshowable :
    ∃ config : Config, config = ⟨.bool true, .bool true, .int (-3), .int 0⟩ ∧ config.Arises ∧
      Config.default.Arises ∧
      (runRewrite
        ⟨.quiet 2, ⟨[⟨rootName, Level.debug, 0, [0, 1]⟩, ⟨converterName, Level.notSet, 1, []⟩],
          [⟨"lines", .stream, some .structured, true, 0⟩, ⟨"parts", .capture, none, false, 0⟩], 0⟩,
          some (.ofString "id"), 7, ⟨"m", none, 1⟩⟩
        config (.str ":x :ys") (.dict .plain [(.str "x", .unshowable .wrongType)])
        [("ys", .seq .list [.int 1, .int 2])]).1 =
      (runRewrite ⟨.quiet 0, .initial, none, 0, ⟨"m", none, 1⟩⟩ .default (.str ":x :ys")
        (.dict .plain [(.str "x", .unshowable .wrongType)])
        [("ys", .seq .list [.int 1, .int 2])]).1 := by
  have hlength : Config.Arises ⟨.bool true, .bool false, .int (-3), .int 100⟩ :=
    @Config.Arises.assign _ _ "sql_truncation_length" (.int (-3)) Config.arises_default rfl rfl
  have hcount : Config.Arises ⟨.bool true, .bool false, .int (-3), .int 0⟩ :=
    @Config.Arises.assign _ _ "parameter_truncation_count" (.int 0) hlength rfl rfl
  have hloud : Config.Arises ⟨.bool true, .bool true, .int (-3), .int 0⟩ :=
    @Config.Arises.assign _ _ "log_parameters" (.bool true) hcount rfl rfl
  exact ⟨_, rfl, hloud, Config.arises_default,
    (outcome_of_diagnostics hloud Config.arises_default (Host.contains_quiet 2)
      (Host.contains_quiet 0) _).2 _ _⟩

end SqlBind
