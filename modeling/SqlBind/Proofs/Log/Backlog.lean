import SqlBind.Proofs.Log.Filters
import SqlBind.Proofs.Log.Records
import SqlBind.Proofs.Log.Structured

/-!
# Lines That Are Written Later

A handler need not write the line of a record at once; it may keep the record and write it when
other steps have been done, in any order and more than once. A session together with the records
that were made in it is a *backlog*. The records stay in it, in order, and what happens later
changes nothing about them but the arguments of their messages (`Backlog.exists_kept_run`).

So a record has the correlation id that was in force when it was made, if a logger with a filter
made it. Its structured line does not: there the id is the one that is in force when the line is
written, whatever the record has (`Backlog.line_of_kept`). They agree if and only if these two ids
do. A record that was made without an id may get one in its line (`Backlog.line_differs`).

## Main definitions

* `Log.HasId`: a line has a correlation id, or none.
* `Backlog`: a session and the records that were made in it.
* `Backlog.Act`: a step of the session, or a line that is written of a record.
* `Backlog.inForce`: the correlation id in force after some acts.

## Main results

* `Record.exists_members_of_structuredLine`: what a structured line holds.
* `Backlog.line_of_kept`: the correlation id of a record and the one in its line.
-/

namespace SqlBind

open Log Text

namespace Log

/-- The correlation id that records and lines get while one is in force: that one, but an empty id
counts as none. -/
def noted (current : Option CodeText) : Option CodeText := current.filter fun id => !id.isEmpty

/-- The members of a line have a correlation id, or none. -/
def HasId (members : List (String × Json)) (current : Option CodeText) : Prop :=
  ∃ id : Option String, id.map CodeText.ofString = current ∧
    members.lookup "correlation_id" = id.map .str

/-- They have one correlation id at most. -/
theorem HasId.unique {members : List (String × Json)} {first second : Option CodeText}
    (h₁ : HasId members first) (h₂ : HasId members second) : first = second := by
  obtain ⟨id₁, rfl, hlookup₁⟩ := h₁
  obtain ⟨id₂, rfl, hlookup₂⟩ := h₂
  have hinjective : Function.Injective (Option.map Json.str) :=
    Option.map_injective fun _ _ h => Json.str.inj h
  rw [hinjective (hlookup₁.symm.trans hlookup₂)]

/-! ### The members of a line -/

/-- Members are looked up like the entries that they are written of. -/
theorem lookup_of_toMembers {entries : Entries} {members : List (String × Json)} {name : String}
    (hkeys : ∀ e ∈ entries, ∃ name, e.1 = .str name)
    (hok : Value.toMembers entries = .ok members) :
    (members.lookup name).map .ok = (valueFor? (.str name) entries).map Value.toJson := by
  induction entries generalizing members with
  | nil =>
      obtain rfl := Except.ok.inj hok
      rfl
  | cons e rest ih =>
      obtain ⟨⟨first, hfirst⟩, hothers⟩ := List.forall_mem_cons.mp hkeys
      obtain ⟨found, j, members, hfound, hj, hrest, rfl⟩ := Value.exists_of_toMembers_cons hok
      rw [hfirst] at hfound
      obtain rfl : first = found := Except.ok.inj hfound
      rw [valueFor?_cons, hfirst, Value.equal_str, List.lookup_cons]
      by_cases hname : first = name
      · subst hname
        simp [hj]
      · have hother : (name == first) = false := beq_false_of_ne (Ne.symm hname)
        rw [hother, decide_eq_false hname]
        exact ih hothers hrest

namespace Record

variable {r : Record} {host : Host} {current : Option CodeText} {pattern line : String}

/-- The fields of a line, if it has any, are those of some time and some message. -/
theorem exists_fields_of_entry {entries : Entries} (h : r.entry host current pattern = .ok entries)
    (hmapping : r.extraValue = .null ∨ r.extraValue.isMapping = true) :
    ∃ time message, entries = r.fields current time message r.extraValue.items := by
  rw [entry] at h
  obtain ⟨time, -, h⟩ := exists_of_bind_eq_ok h
  obtain ⟨message, -, h⟩ := exists_of_bind_eq_ok h
  obtain ⟨extra, hextra, h⟩ := exists_of_bind_eq_ok h
  obtain rfl : r.extraValue.items = extra :=
    Except.ok.inj ((extraFields_eq hmapping).symm.trans hextra)
  exact ⟨time, message, (Except.ok.inj h).symm⟩

/-- Extra fields that are given by name are a mapping, or there are none. -/
theorem isMapping_of_named {fields : Option Keywords} (h : r.extra = fields.map Keywords.toValue) :
    r.extraValue = .null ∨ r.extraValue.isMapping = true := by
  rw [extraValue, h]
  cases fields with
  | none => exact .inl rfl
  | some fields => exact .inr rfl

/-- Their names are texts. -/
theorem exists_str_of_named {fields : Option Keywords} (h : r.extra = fields.map Keywords.toValue) :
    ∀ k ∈ r.extraValue.keys, ∃ name, k = .str name := by
  intro k hk
  rw [extraValue, h] at hk
  cases fields with
  | none => exact absurd hk List.not_mem_nil
  | some fields =>
      obtain ⟨e, he, rfl⟩ := List.mem_map.mp hk
      obtain ⟨f, -, rfl⟩ := List.mem_map.mp (mem_of_mem_distinctOn he)
      exact ⟨f.1, rfl⟩

/-- **What a structured line holds**, if the extra fields of the record are given by name: it is the
text of an object without a repeated name, which has under each name what is said there. -/
theorem exists_members_of_structuredLine {fields : Option Keywords}
    (hextra : r.extra = fields.map Keywords.toValue)
    (h : r.structuredLine host current pattern = .ok line) :
    ∃ members time message, line = String.ofList (Json.object members).print ∧
      (members.map (·.1)).Nodup ∧ ∀ name,
        (members.lookup name).map .ok = (r.said? current time message name).map Value.toJson := by
  obtain ⟨entries, hentry, hencode⟩ := exists_of_bind_eq_ok h
  obtain ⟨time, message, rfl⟩ := exists_fields_of_entry hentry (isMapping_of_named hextra)
  obtain ⟨j, hj, -, rfl⟩ := Value.exists_of_encode hencode
  rw [Value.toJson] at hj
  obtain ⟨members, hmembers, rfl⟩ := exists_of_map_eq_ok hj
  have hkeys : ∀ e ∈ r.fields current time message r.extraValue.items, ∃ name, e.1 = .str name := by
    intro e he
    have hname : e.1 ∈ r.names current := map_fields ▸ List.mem_map_of_mem he
    exact exists_str_of_mem_names (exists_str_of_named hextra) hname
  refine ⟨members, time, message, rfl, Value.nodup_of_toMembers hkeys apart_fields hmembers, ?_⟩
  intro name
  rw [lookup_of_toMembers hkeys hmembers, valueFor?_fields]

/-- What is said under the name of the correlation id: what an extra field says, or else the id in
force. -/
theorem said?_correlation {time : String} {message : CodeText} :
    r.said? current time message "correlation_id" =
      (r.extraValue.find? "correlation_id").or ((noted current).map textField) := by
  have hexception : r.exception? "correlation_id" = none := if_neg (by decide)
  have hstandard : r.standard? time message "correlation_id" = none := rfl
  rw [said?, hexception, hstandard, Option.none_or, Option.or_none, correlation?, if_pos rfl]
  rfl

/-- **The correlation id in a line**, unless an extra field takes its place, is the one that is in
force when the line is written. -/
theorem hasId_noted {members : List (String × Json)} {time : String} {message : CodeText}
    (hlookup : (members.lookup "correlation_id").map .ok =
      (r.said? current time message "correlation_id").map Value.toJson)
    (hextra : r.extraValue.find? "correlation_id" = none) : HasId members (noted current) := by
  rw [said?_correlation, hextra, Option.none_or] at hlookup
  cases hnoted : noted current with
  | none =>
      rw [hnoted] at hlookup
      exact ⟨none, rfl, Option.map_eq_none_iff.mp hlookup⟩
  | some id =>
      rw [hnoted, Option.map_some, Option.map_some] at hlookup
      obtain ⟨j, hfound, hj⟩ := Option.map_eq_some_iff.mp hlookup
      cases htext : id.toString? with
      | some text =>
          obtain rfl := CodeText.ofString_of_toString? htext
          rw [textField_ofString, Value.toJson] at hj
          obtain rfl := Except.ok.inj hj
          exact ⟨some text, rfl, hfound⟩
      | none =>
          -- an id that cannot be written is in no line
          rw [textField, htext] at hj
          cases hj

end Record

end Log

/-! ### Records that are kept -/

/-- A session, and the records that were made in it and are kept. -/
structure Backlog where
  session : Session
  kept : List Record

namespace Backlog

/-- What happens to a backlog: a step of the session, or that the structured line of a kept record
is written. -/
inductive Act where
  | step (x : Step)
  | write (index : Nat) (pattern : String)

/-- The step of the session that an act is. -/
def Act.step? : Act → Option Step
  | .step x => some x
  | .write .. => none

/-- The correlation id that an act sets, if it sets one or takes it away. -/
def Act.sets? : Act → Option (Option CodeText)
  | .step (.setCorrelation id) => some id
  | _ => none

/-- The steps of a session among some acts. -/
def stepsOf (acts : List Act) : List Step := acts.filterMap Act.step?

/-- The correlation id in force after some acts in a new session: the one that was set last. -/
def inForce (acts : List Act) : Option CodeText := (acts.filterMap Act.sets?).getLast?.getD none

/-- A new session, with no record yet. -/
def start (host : Host) (origin : Origin) : Backlog := ⟨Session.start host origin, []⟩

/-- A record after its structured line was written. That tells its message, if there is a timestamp
to begin the line with. -/
def written (zone : Zone) (pattern : String) (r : Record) : Record :=
  if (timestamp zone pattern r.time).isOk then r.told else r

/-- **One act.** The records of a step are kept behind those before. -/
def act (b : Backlog) : Act → Backlog
  | .step x => ⟨(b.session.step x).next, b.kept ++ b.session.made x⟩
  | .write index pattern =>
    { b with kept := b.kept.modify index (written b.session.host.zone pattern) }

/-- Acts one after the other. -/
def run (b : Backlog) (acts : List Act) : Backlog := acts.foldl act b

/-- The structured line that is written of a kept record now. -/
def line? (b : Backlog) (index : Nat) (pattern : String) : Option (Outcome String) :=
  (b.kept[index]?).map fun r => r.structuredLine b.session.host b.session.correlation pattern

variable {b : Backlog} {index : Nat} {r : Record}

theorem run_append (first later : List Act) : b.run (first ++ later) = (b.run first).run later :=
  List.foldl_append

/-- The session of a run. -/
theorem session_run (acts : List Act) :
    (b.run acts).session = (b.session.run (stepsOf acts)).1 := by
  induction acts generalizing b with
  | nil => rfl
  | cons a rest ih =>
      cases a with
      | step x => exact ih
      | write index pattern => exact ih

/-- Only one kind of step changes the correlation id in force. -/
theorem correlation_step (s : Session) (x : Step) :
    (s.step x).next.correlation = ((Act.step x).sets?).getD s.correlation := by
  cases x with
  | rewrite | convert =>
      rw [Session.step]
      split <;> rfl
  | attach | detach =>
      rw [Session.step]
      dsimp only
      split <;> rfl
  | _ => rfl

/-- No step changes the host. -/
theorem host_step (s : Session) (x : Step) : (s.step x).next.host = s.host := by
  cases x with
  | rewrite | convert =>
      rw [Session.step]
      split <;> rfl
  | attach | detach =>
      rw [Session.step]
      dsimp only
      split <;> rfl
  | _ => rfl

/-- Nor does a run. -/
theorem host_run (acts : List Act) : (b.run acts).session.host = b.session.host := by
  induction acts generalizing b with
  | nil => rfl
  | cons a rest ih =>
      have hone : (b.act a).session.host = b.session.host := by
        cases a with
        | step x => exact host_step b.session x
        | write index pattern => rfl
      change ((b.act a).run rest).session.host = _
      rw [ih, hone]

/-- The correlation id in force after a run is the one that was set last. -/
theorem correlation_run (acts : List Act) : (b.run acts).session.correlation =
    (acts.filterMap Act.sets?).getLast?.getD b.session.correlation := by
  induction acts generalizing b with
  | nil => rfl
  | cons a rest ih =>
      have hone : (b.act a).session.correlation = a.sets?.getD b.session.correlation := by
        cases a with
        | step x => exact correlation_step b.session x
        | write index pattern => rfl
      change ((b.act a).run rest).session.correlation = _
      rw [ih, hone, List.filterMap_cons]
      cases a.sets? with
      | none => rfl
      | some id =>
          dsimp only
          rw [List.getLast?_cons]
          rfl

/-- **One act leaves a kept record where it is**, and changes at most the arguments of its
message. -/
theorem exists_kept_act (h : b.kept[index]? = some r) (a : Act) :
    ∃ args, (b.act a).kept[index]? = some { r with args } := by
  cases a with
  | step x =>
      have hlt : index < b.kept.length := (List.getElem?_eq_some_iff.mp h).1
      exact ⟨r.args, (List.getElem?_append_left hlt).trans h⟩
  | write other pattern =>
      have hmodified : (b.act (.write other pattern)).kept[index]? =
          some (if other = index then written b.session.host.zone pattern r else r) := by
        rw [act, List.getElem?_modify, h]
        rfl
      rw [hmodified, written]
      split
      case isTrue =>
        split
        · exact ⟨_, rfl⟩
        · exact ⟨r.args, rfl⟩
      case isFalse => exact ⟨r.args, rfl⟩

/-- **So does a run.** -/
theorem exists_kept_run (h : b.kept[index]? = some r) (acts : List Act) :
    ∃ args, (b.run acts).kept[index]? = some { r with args } := by
  induction acts generalizing b r with
  | nil => exact ⟨r.args, h⟩
  | cons a rest ih =>
      obtain ⟨args, hact⟩ := exists_kept_act h a
      obtain ⟨args, hrest⟩ := ih hact
      exact ⟨args, hrest⟩

/-- The records of a step are kept. -/
theorem kept_act_step {x : Step} {i : Nat} (h : (b.session.made x)[i]? = some r) :
    (b.act (.step x)).kept[b.kept.length + i]? = some r := by
  rw [act, List.getElem?_append_right (Nat.le_add_right _ _), Nat.add_sub_cancel_left]
  exact h

/-- What a logger puts on a record as its correlation id: it does so if it has a filter. -/
theorem stamp_of_filtered {registry : Registry} {asked : List String} (h : registry.Filtered asked)
    (name : String) (current : Option CodeText) :
    registry.stamp name current = if name ∈ asked then noted current else none := by
  rw [Registry.stamp]
  cases hfound : registry.logger? name with
  | none =>
      have hnot : name ∉ asked := fun hasked => by
        have hthere :=
          Registry.isSome_logger?_iff.mpr (h.present name (List.mem_cons_of_mem _ hasked))
        rw [hfound] at hthere
        nomatch hthere
      rw [if_neg hnot]
  | some l =>
      have hcount := h.counts (l.name, l.filters)
        (List.mem_map_of_mem (List.mem_of_find?_eq_some hfound))
      dsimp only at hcount ⊢
      rw [Registry.name_of_logger? hfound] at hcount
      rw [hcount]
      by_cases hasked : name ∈ asked
      · rw [if_pos hasked, if_pos hasked, if_neg Nat.one_ne_zero, noted]
      · rw [if_neg hasked, if_neg hasked, if_pos rfl]

/-- **The correlation id of a record that is made** is the one in force, if somebody has asked for
its logger by name by then. -/
theorem correlation_of_made (host : Host) (origin : Origin) (before : List Act) {x : Step}
    (h : r ∈ ((start host origin).run before).session.made x) :
    ∃ name, r.logger = .ofString name ∧
      r.correlation = if name ∈ askedBy (stepsOf (before ++ [.step x]))
        then noted (inForce before) else none := by
  have hfiltered : (((start host origin).run before).session.step x).next.registry.Filtered
      (askedBy (stepsOf (before ++ [.step x]))) := by
    have hsession : (((start host origin).run before).session.step x).next =
        ((Session.start host origin).run (stepsOf (before ++ [.step x]))).1 := by
      have hrun := @session_run (start host origin) (before ++ [.step x])
      rwa [run_append] at hrun
    rw [hsession]
    exact Session.filtered_session host origin _
  obtain ⟨name, level, template, args, fields, rfl⟩ := Session.isMade_of_mem_made h
  have hcurrent : ((start host origin).run before).session.correlation = inForce before :=
    correlation_run before
  rw [← hcurrent]
  exact ⟨name, rfl, stamp_of_filtered hfiltered name _⟩

/-- A record that the logger `sqlpilot.worker` makes in a new session. -/
def warning (correlation : Option CodeText) : Record where
  logger := .ofString "sqlpilot.worker"
  level := 30
  template := "told"
  args := []
  extra := none
  correlation := correlation
  origin := ⟨"m", none, 1⟩
  time := 0
  exception := none

theorem made_warning (correlation : Option CodeText) :
    Session.made { Session.start (.quiet 1) ⟨"m", none, 1⟩ with correlation }
      (.logPlain (some "worker") 30 "told" []) = [warning (noted correlation)] := by
  obtain ⟨registry, hregistry⟩ : ∃ registry : Registry, registry = ⟨[⟨rootName, 0, 0, []⟩,
    ⟨converterName, 0, 1, []⟩, ⟨"sqlpilot.worker", 0, 1, []⟩], [], 0⟩ := ⟨_, rfl⟩
  have hasked : Registry.initial.getLogger (some "worker") = (registry, "sqlpilot.worker") := by
    rw [hregistry]
    decide
  have henabled : registry.isEnabled "sqlpilot.worker" 30 = true := by
    rw [hregistry]
    cbv
  have hstamp : registry.stamp "sqlpilot.worker" correlation = noted correlation := by
    rw [hregistry]
    rfl
  have hrecord : (Circumstances.mk (.quiet 1) registry correlation 0 ⟨"m", none, 1⟩).record
      "sqlpilot.worker" 30 "told" [] none = warning (noted correlation) := by
    rw [Circumstances.record, hstamp]
    rfl
  rw [Session.made, Session.asking]
  dsimp only [Session.start]
  rw [hasked, ← hrecord]
  exact if_pos henabled

/-- It is legible while any text is the correlation id. -/
theorem legible_warning (correlation : Option CodeText) (current : Option String) :
    (warning correlation).Legible (Host.quiet 1).zone (current.map CodeText.ofString) ""
      "1970-01-01 00:00:00,000" (CodeText.ofString "told") 0 where
  clock := Record.timestamp_zero
  formats := renderMessage_nil
  mapping := .inl rfl
  names := List.forall_mem_nil _
  said name v hsaid := by
    rw [← Record.valueFor?_fields] at hsaid
    obtain ⟨e, hfound, rfl⟩ := Option.map_eq_some_iff.mp hsaid
    rcases List.mem_append.mp (List.mem_of_find?_eq_some hfound) with hstandard | hcorrelation
    · simp only [Record.standardFields, List.mem_cons, List.not_mem_nil, or_false] at hstandard
      rcases hstandard with rfl | rfl | rfl | rfl | rfl | rfl | rfl
      any_goals exact .str
      · exact .null
      · exact .int (show (Number.integerText 1).length ≤ Json.maxWholeLength by decide)
    · cases current with
      | none => exact absurd hcorrelation List.not_mem_nil
      | some id =>
          rw [Option.map_some, Record.correlationField] at hcorrelation
          split at hcorrelation
          · exact absurd hcorrelation List.not_mem_nil
          · obtain rfl := List.mem_singleton.mp hcorrelation
            rw [textField_ofString]
            exact .str

/-- **A record keeps its correlation id, and its line does not.** A record that a step makes is
still there after any further acts, with other arguments of its message at most. It has the
correlation id that was in force before the step, if somebody had asked for its logger by name by
then, and none otherwise. Its structured line is written with the id in force at that time. This is
what the line has, unless an extra field takes its place, and so it has the id of the record if and
only if the two are the same. -/
theorem line_of_kept (host : Host) (origin : Origin) (before after : List Act) (x : Step)
    (pattern : String) {i : Nat}
    (h : (((start host origin).run before).session.made x)[i]? = some r) :
    let acts := before ++ .step x :: after
    let last := (start host origin).run acts
    let index := ((start host origin).run before).kept.length + i
    ∃ kept, last.kept[index]? = some kept ∧ (∃ args, kept = { r with args }) ∧
      (∃ name, kept.logger = .ofString name ∧
        kept.correlation = if name ∈ askedBy (stepsOf (before ++ [.step x]))
          then noted (inForce before) else none) ∧
      last.line? index pattern = some (kept.structuredLine host (inForce acts) pattern) ∧
      (∀ time message depth, kept.Legible host.zone (inForce acts) pattern time message depth →
        depth < host.deepest → ∃ line, last.line? index pattern = some (.ok line)) ∧
      ∀ line, last.line? index pattern = some (.ok line) → ∃ members,
        line = String.ofList (Json.object members).print ∧ (members.map (·.1)).Nodup ∧
        (kept.extraValue.find? "correlation_id" = none →
          HasId members (noted (inForce acts)) ∧
          (HasId members kept.correlation ↔ noted (inForce acts) = kept.correlation)) := by
  intro acts last index
  obtain ⟨args, hkept⟩ : ∃ args, last.kept[index]? = some { r with args } := by
    have hrun : last = (((start host origin).run before).act (.step x)).run after :=
      run_append _ _
    rw [hrun]
    exact exists_kept_run (kept_act_step h) after
  have hmem := List.mem_of_getElem? h
  have hcurrent : last.session.correlation = inForce acts := correlation_run acts
  have hhost : last.session.host = host := host_run acts
  have hline : last.line? index pattern =
      some (Record.structuredLine { r with args } host (inForce acts) pattern) := by
    rw [line?, hkept, Option.map_some, hcurrent, hhost]
  obtain ⟨name, hlogger, hstamp⟩ := correlation_of_made host origin before hmem
  refine ⟨{ r with args }, hkept, ⟨args, rfl⟩, ⟨name, hlogger, hstamp⟩, hline,
    fun time message depth hlegible hdepth => ?_, fun line hwritten => ?_⟩
  · obtain ⟨line, hencode, -⟩ := hlegible.readable_fields.exists_encode hdepth (Nat.lt_succ_self _)
    exact ⟨line, hline.trans (congrArg some (hlegible.structuredLine_eq.trans hencode))⟩
  · obtain ⟨_, _, _, _, fields, hmade⟩ := Session.isMade_of_mem_made hmem
    have hextra : Record.extra { r with args } = fields.map Keywords.toValue := by
      rw [hmade]
      rfl
    have hok := Option.some.inj (hline.symm.trans hwritten)
    obtain ⟨members, time, message, hprinted, hnodup, hlookup⟩ :=
      Record.exists_members_of_structuredLine hextra hok
    refine ⟨members, hprinted, hnodup, fun hfree => ?_⟩
    have hid := Record.hasId_noted (hlookup "correlation_id") hfree
    exact ⟨hid, hid.unique, fun heq => heq ▸ hid⟩

/-- A record that is made while one correlation id is in force, and written while another one is:
the record has the first, and its line the second. -/
theorem line_of_kept_overtaken :
    let last := (start (.quiet 1) ⟨"m", none, 1⟩).run
      [.step (.setCorrelation (some (.ofString "first"))),
        .step (.logPlain (some "worker") 30 "told" []),
        .step (.setCorrelation (some (.ofString "second")))]
    ∃ kept line members, last.kept[0]? = some kept ∧
      kept.correlation = some (.ofString "first") ∧ last.line? 0 "" = some (.ok line) ∧
      line = String.ofList (Json.object members).print ∧
      members.lookup "correlation_id" = some (.str "second") := by
  intro last
  have hmade := made_warning (some (.ofString "first"))
  obtain ⟨kept, hkept, -, hstamp, -, hlegible, hmembers⟩ :=
    line_of_kept (.quiet 1) ⟨"m", none, 1⟩ [.step (.setCorrelation (some (.ofString "first")))]
      [.step (.setCorrelation (some (.ofString "second")))]
      (.logPlain (some "worker") 30 "told" []) "" (i := 0) (congrArg (·[0]?) hmade)
  have hall : last.kept = [warning (some (.ofString "first"))] :=
    congrArg (fun made => [] ++ made ++ []) hmade
  obtain rfl : warning (some (.ofString "first")) = kept := by
    refine Option.some.inj (Eq.trans ?_ hkept)
    exact (congrArg (·[0]?) hall).symm
  obtain ⟨line, hline⟩ := hlegible _ _ 0 (legible_warning _ (some "second")) Nat.one_pos
  obtain ⟨members, hprinted, -, hid⟩ := hmembers line hline
  obtain ⟨id, hsecond, hlookup⟩ := (hid rfl).1
  obtain ⟨text, rfl, htext⟩ := Option.map_eq_some_iff.mp hsecond
  obtain rfl := CodeText.ofString_injective htext
  exact ⟨_, line, members, hkept, rfl, hline, hprinted, hlookup⟩

/-- A record that is made while no correlation id is in force has none, and its line has the one
that is in force later. -/
theorem line_differs :
    let last := (start (.quiet 1) ⟨"m", none, 1⟩).run
      [.step (.logPlain (some "worker") 30 "told" []),
        .step (.setCorrelation (some (.ofString "later")))]
    ∃ kept line members, last.kept[0]? = some kept ∧ kept.correlation = none ∧ kept.extra = none ∧
      last.line? 0 "" = some (.ok line) ∧ line = String.ofList (Json.object members).print ∧
      members.lookup "correlation_id" = some (.str "later") := by
  intro last
  have hall : last.kept = [warning none] :=
    congrArg (fun made => [] ++ made ++ []) (made_warning none)
  have hkept : last.kept[0]? = some (warning none) := congrArg (·[0]?) hall
  have hlegible := legible_warning none (some "later")
  have hreadable := @Record.Legible.readable_fields _ (.quiet 1) _ _ _ _ _ hlegible
  obtain ⟨line, hencode, -⟩ := hreadable.exists_encode Nat.one_pos Nat.one_pos
  have hline : (warning none).structuredLine (.quiet 1) (some (.ofString "later")) "" = .ok line :=
    hlegible.structuredLine_eq.trans hencode
  obtain ⟨members, time, message, hprinted, -, hlookup⟩ :=
    Record.exists_members_of_structuredLine (show (warning none).extra = none.map _ from rfl) hline
  obtain ⟨id, hlater, hid⟩ := Record.hasId_noted (hlookup "correlation_id") rfl
  obtain ⟨text, rfl, htext⟩ := Option.map_eq_some_iff.mp hlater
  obtain rfl := CodeText.ofString_injective htext
  refine ⟨warning none, line, members, hkept, rfl, rfl, ?_, hprinted, hid⟩
  rw [line?, hkept]
  exact congrArg some hline

end Backlog

end SqlBind
