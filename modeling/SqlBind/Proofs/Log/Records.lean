import SqlBind.Proofs.Rewrite.Reported

/-!
# The Records of a Step

Which records a step of a session makes (`Session.made`): what the program logs itself, if the
logger is enabled for it, and the reports of the conversions that the step carries out, one after
the other. What the handlers receive during the step is what they make of these records
(`Session.received_step`), so nothing else is logged.

All records of a step are made alike, by a logger under the circumstances of the step
(`Session.isMade_of_mem_made`). In particular each of them carries the correlation id that its
logger puts on it then.

## Main definitions

* `Session.made`: the records that a step makes.
* `Log.Circumstances.IsMade`: a record is made by a logger under given circumstances.

## Main results

* `Session.received_step`: what handlers receive during a step.
* `Session.isMade_of_mem_made`: how its records are made.
-/

namespace SqlBind

open Log

/-- The records of converting a statement, which should be a text. -/
def convertRecords (now : Circumstances) (config : Config) (sql bindings : Value)
    (supplied : Option (List Placeholder)) : List Record :=
  match statementText sql with
  | .ok text => conversionRecords now config text bindings supplied
  | .error _ => []

/-- The records of a rewrite. -/
def rewriteRecords (now : Circumstances) (config : Config) (sql mapping : Value)
    (keywords : Keywords) : List Record :=
  match Bindings.merge sql mapping keywords with
  | .ok bindings => convertRecords now config sql bindings.view none
  | .error _ => []

/-- The records of rewriting with one mapping after the other. -/
def rewriteAgainRecords (now : Circumstances) (config : Config) (sql : Value) :
    List Value → List Record
  | [] => []
  | mapping :: rest =>
    rewriteRecords now config sql mapping [] ++
      match (runRewrite now config sql mapping []).1 with
      | .ok r => rewriteAgainRecords now config r.sql rest
      | .error _ => []

/-- The record of logging a template with arguments, if the logger is enabled for the level. -/
def Log.Circumstances.plainRecords (now : Circumstances) (name : String) (level : Int)
    (template : String) (args : List Value) : List Record :=
  if now.registry.isEnabled name level then [now.record name level template args none] else []

/-- **The records that a step makes**, in order. -/
def Session.made (s : Session) : Step → List Record
  | .rewrite rewriter sql mapping keywords =>
    match s.rewriterConfig rewriter with
    | .ok config => rewriteRecords s.circumstances config sql mapping keywords
    | .error _ => []
  | .convert converter sql bindings supplied =>
    match s.workspace.look (.converter converter) with
    | .ok config => convertRecords s.circumstances config sql bindings supplied
    | .error _ => []
  | .rewriteAgain sql mappings => rewriteAgainRecords s.circumstances .default sql mappings
  | .log name level message fields =>
    let (s, full) := s.asking name
    if fields.any fun f => reservedNames.contains f.1 then []
    else s.circumstances.records full level message fields
  | .logPlain name level template args =>
    let (s, full) := s.asking name
    s.circumstances.plainRecords full level template args
  | _ => []

/-- A record is made by a logger under given circumstances, with some fields or without any. -/
def Log.Circumstances.IsMade (now : Circumstances) (r : Record) : Prop :=
  ∃ name level template args, ∃ fields : Option Keywords,
    r = now.record name level template args (fields.map Keywords.toValue)

variable {now : Circumstances} {config : Config} {sql bindings mapping : Value}
  {keywords : Keywords} {supplied : Option (List Placeholder)} {r : Record}

/-! ### How records are made -/

theorem isMade_of_mem_records {name message : String} {level : Int} {fields : Keywords}
    (h : r ∈ now.records name level message fields) : now.IsMade r := by
  rw [Circumstances.records] at h
  split at h
  · obtain rfl := List.mem_singleton.mp h
    exact ⟨name, level, message, [], some fields, rfl⟩
  · exact absurd h List.not_mem_nil

theorem isMade_of_mem_plainRecords {name template : String} {level : Int} {args : List Value}
    (h : r ∈ now.plainRecords name level template args) : now.IsMade r := by
  rw [Circumstances.plainRecords] at h
  split at h
  · obtain rfl := List.mem_singleton.mp h
    exact ⟨name, level, template, args, none, rfl⟩
  · exact absurd h List.not_mem_nil

theorem isMade_of_mem_convertRecords (h : r ∈ convertRecords now config sql bindings supplied) :
    now.IsMade r := by
  rw [convertRecords] at h
  split at h
  case h_2 => exact absurd h List.not_mem_nil
  case h_1 text _ =>
    rw [conversionRecords] at h
    split at h
    case h_1 => exact absurd h List.not_mem_nil
    case h_2 =>
      split at h
      case h_1 => exact absurd h List.not_mem_nil
      case h_2 =>
        split at h
        · exact isMade_of_mem_records h
        · exact absurd h List.not_mem_nil

theorem isMade_of_mem_rewriteRecords (h : r ∈ rewriteRecords now config sql mapping keywords) :
    now.IsMade r := by
  rw [rewriteRecords] at h
  split at h
  · exact isMade_of_mem_convertRecords h
  · exact absurd h List.not_mem_nil

theorem isMade_of_mem_rewriteAgainRecords {mappings : List Value}
    (h : r ∈ rewriteAgainRecords now config sql mappings) : now.IsMade r := by
  induction mappings generalizing sql with
  | nil => exact absurd h List.not_mem_nil
  | cons mapping rest ih =>
      rw [rewriteAgainRecords] at h
      rcases List.mem_append.mp h with hfirst | hlater
      · exact isMade_of_mem_rewriteRecords hfirst
      · split at hlater
        · exact ih hlater
        · exact absurd hlater List.not_mem_nil

/-- **Records are made under the circumstances of the step**: with the correlation id that is in
force before it, and with the loggers that there are after it. -/
theorem Session.isMade_of_mem_made {s : Session} {x : Step} (h : r ∈ s.made x) :
    Circumstances.IsMade ⟨s.host, (s.step x).next.registry, s.correlation, s.clock, s.origin⟩
      r := by
  cases x with
  | rewrite rewriter sql mapping keywords =>
      rw [made] at h
      rw [step]
      cases hconfig : s.rewriterConfig rewriter with
      | error fault =>
          rw [hconfig] at h
          exact absurd h List.not_mem_nil
      | ok config =>
          rw [hconfig] at h
          exact isMade_of_mem_rewriteRecords h
  | convert converter sql bindings supplied =>
      rw [made] at h
      rw [step]
      cases hlook : s.workspace.look (.converter converter) with
      | error fault =>
          rw [hlook] at h
          exact absurd h List.not_mem_nil
      | ok config =>
          rw [hlook] at h
          exact isMade_of_mem_convertRecords h
  | rewriteAgain sql mappings => exact isMade_of_mem_rewriteAgainRecords h
  | log name level message fields =>
      rw [made] at h
      dsimp only at h
      split at h
      · exact absurd h List.not_mem_nil
      · exact isMade_of_mem_records h
  | logPlain name level template args => exact isMade_of_mem_plainRecords h
  | _ => exact absurd h List.not_mem_nil

/-! ### What handlers make of them -/

/-- No field of a report has a reserved name, whatever the limits are. -/
theorem not_reserved_of_report {c : Conversion} {text : String} {fields : Keywords}
    (h : c.report config text = .ok fields) :
    ∀ f ∈ fields, reservedNames.contains f.1 = false := by
  rw [Conversion.report] at h
  obtain ⟨before, -, h⟩ := exists_of_bind_eq_ok h
  obtain ⟨after, -, h⟩ := exists_of_bind_eq_ok h
  have hcounts : ∀ f ∈ ([("sql", .str before), ("converted_sql", .str after),
      ("placeholder_count", .int c.placeholders), ("parameter_count", .int c.parameters.length),
      ("unresolved", .seq .list ((sortedNames c.unresolved).map .str))] : Keywords),
      reservedNames.contains f.1 = false := by
    simp only [List.forall_mem_cons]
    decide
  split at h
  case isFalse =>
    obtain rfl := Except.ok.inj h
    exact hcounts
  case isTrue =>
    obtain ⟨values, hvalues, h⟩ := exists_of_map_eq_ok h
    obtain rfl := h
    rw [Conversion.parameterReport] at hvalues
    obtain ⟨bound, -, hvalues⟩ := exists_of_bind_eq_ok hvalues
    obtain ⟨cut, -, hvalues⟩ := exists_of_bind_eq_ok hvalues
    obtain rfl := Except.ok.inj hvalues
    refine List.forall_mem_append.mpr ⟨hcounts, ?_⟩
    simp only [List.forall_mem_cons]
    decide

/-- **A result with a delivery reports records**: handlers receive what they make of them, and if
there is a result at all nothing else has happened. -/
structure Reports (now : Circumstances) (result : Outcome Rewritten × Delivery)
    (records : List Record) : Prop where
  entries : result.2.entries = (now.deliverAll records).entries
  whole : ∀ r, result.1 = .ok r → result.2 = now.deliverAll records

/-- A conversion reports its records. -/
theorem reports_runConvert :
    Reports now (runConvert now config sql bindings supplied)
      (convertRecords now config sql bindings supplied) := by
  have hquiet (outcome : Outcome Rewritten) : Reports now (outcome, .none) [] :=
    ⟨rfl, fun _ _ => rfl⟩
  unfold runConvert
  rw [convertRecords]
  cases statementText sql with
  | error fault =>
      -- nothing is reported of what is no text
      cases supplied with
      | none => exact hquiet _
      | some placeholders => cases placeholders <;> exact hquiet _
  | ok text =>
      dsimp only
      rw [runConvertText, conversionRecords]
      cases convert text bindings supplied with
      | error fault => exact hquiet _
      | ok c =>
          dsimp only
          rw [reportConversion]
          cases hreport : c.report config text with
          | error fault =>
              cases isReported now config c with
              | true =>
                  refine ⟨rfl, fun _ h => ?_⟩
                  cases h
              | false => exact hquiet _
          | ok fields =>
              cases isReported now config c with
              | true =>
                  have hsent (name message : String) (level : Int) :
                      now.emitFields name level message fields =
                        now.deliverAll (now.records name level message fields) :=
                    emitFields_eq_deliverAll name message level (not_reserved_of_report hreport)
                  split <;> exact ⟨congrArg Delivery.entries (hsent _ _ _), fun _ _ => hsent _ _ _⟩
              | false => exact hquiet _

/-- A rewrite reports its records. -/
theorem reports_runRewrite :
    Reports now (runRewrite now config sql mapping keywords)
      (rewriteRecords now config sql mapping keywords) := by
  rw [runRewrite, rewriteRecords]
  cases Bindings.merge sql mapping keywords with
  | error fault => exact ⟨rfl, fun _ _ => rfl⟩
  | ok bindings => exact reports_runConvert

theorem andThen_assoc (a b c : Delivery) : (a.andThen b).andThen c = a.andThen (b.andThen c) := by
  obtain ⟨entries, fault⟩ := a
  cases fault with
  | some fault => rfl
  | none =>
      obtain ⟨more, fault⟩ := b
      cases fault with
      | some fault => rfl
      | none => simp [Delivery.andThen]

/-- What handlers make of records in two portions. -/
theorem deliverAll_append (first later : List Record) :
    now.deliverAll (first ++ later) = (now.deliverAll first).andThen (now.deliverAll later) := by
  induction first with
  | nil => rfl
  | cons r rest ih =>
      rw [List.cons_append, Circumstances.deliverAll, ih, Circumstances.deliverAll, andThen_assoc]

/-- What handlers receive of several rewrites is what they make of their records. -/
theorem entries_rewriteAgain (mappings : List Value) :
    (rewriteAgain now config sql mappings).2.entries =
      (now.deliverAll (rewriteAgainRecords now config sql mappings)).entries := by
  induction mappings generalizing sql with
  | nil => rfl
  | cons mapping rest ih =>
      have hfirst := @reports_runRewrite now config sql mapping []
      rw [rewriteAgain, rewriteAgainRecords]
      cases hresult : runRewrite now config sql mapping [] with
      | mk outcome d =>
          rw [hresult] at hfirst
          cases outcome with
          | error fault =>
              dsimp only
              rw [List.append_nil]
              exact hfirst.entries
          | ok r =>
              dsimp only
              rw [deliverAll_append, ← hfirst.whole r rfl, Delivery.andThen, Delivery.andThen]
              cases d.fault with
              | some fault => rfl
              | none =>
                  dsimp only
                  rw [ih]

/-- What they receive of a record without fields is what they make of it. -/
theorem emitRecord_eq_deliverAll (name template : String) (level : Int) (args : List Value) :
    now.emitRecord name level template args none =
      now.deliverAll (now.plainRecords name level template args) := by
  rw [Circumstances.emitRecord, Circumstances.plainRecords]
  split
  · rw [Circumstances.deliverAll, Circumstances.deliverAll, andThen_none,
      Circumstances.handlersOf_record]
  · rfl

/-- **What handlers receive during a step is what they make of the records of the step.** -/
theorem Session.received_step (s : Session) (x : Step) :
    (s.step x).received =
      (s.step x).next.received ((s.step x).next.circumstances.deliverAll (s.made x)) := by
  have hreceived {t : Session} {a b : Delivery} (h : a.entries = b.entries) :
      t.received a = t.received b := by
    rw [received, received, h]
  have hquiet {x : Step} (hstep : (s.step x).received = []) (hmade : s.made x = []) :
      (s.step x).received =
        (s.step x).next.received ((s.step x).next.circumstances.deliverAll (s.made x)) := by
    rw [hstep, hmade]
    rfl
  cases x with
  | rewrite rewriter sql mapping keywords =>
      rw [made, step]
      cases s.rewriterConfig rewriter with
      | error fault => rfl
      | ok config => exact hreceived reports_runRewrite.entries
  | convert converter sql bindings supplied =>
      rw [made, step]
      cases s.workspace.look (.converter converter) with
      | error fault => rfl
      | ok config => exact hreceived reports_runConvert.entries
  | rewriteAgain sql mappings => exact hreceived (entries_rewriteAgain mappings)
  | log name level message fields =>
      rw [made, step]
      dsimp only
      by_cases hreserved : (fields.any fun f => reservedNames.contains f.1) = true
      · rw [if_pos hreserved]
        have hfound : (fields.find? fun f => reservedNames.contains f.1).isSome = true := by
          rwa [List.isSome_find?]
        obtain ⟨f, hf⟩ := Option.isSome_iff_exists.mp hfound
        refine hreceived ?_
        rw [Circumstances.emitFields, hf]
        rfl
      · rw [if_neg hreserved]
        refine hreceived (congrArg Delivery.entries (emitFields_eq_deliverAll _ _ _ fun f hf => ?_))
        exact Bool.eq_false_iff.mpr fun h => hreserved (List.any_eq_true.mpr ⟨f, hf, h⟩)
  | logPlain name level template args =>
      exact hreceived (congrArg Delivery.entries (emitRecord_eq_deliverAll _ _ _ _))
  | makeConfig | makeCopy | assign | makeRewriter | makeConverter => exact hquiet rfl rfl
  | attach | detach =>
      refine hquiet ?_ rfl
      rw [step]
      dsimp only
      split <;> rfl
  | _ => rfl

end SqlBind
