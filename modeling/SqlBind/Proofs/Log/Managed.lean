import Mathlib.Data.List.Nodup
import SqlBind.Proofs.Log.Attachment
import SqlBind.Session

/-!
# One Managed Handler

Whatever a session does, configuring leaves the root logger with one managed handler
(`Session.installs_of_configure`): the one that was asked for, attached once, with the formatter
that was asked for. The managed handlers that were there before are gone and closed, and handlers
that were never installed are as they were.

A handler keeps its mark when it is replaced, so a replaced handler that the program attaches again
is managed again, and for a while there can be several. What a registry keeps to all the time is
weaker (`Registry.Sound`): the root logger is there and has no handler twice, and whatever is
managed was installed at some time. Every step of a session preserves this (`Session.sound_step`),
and so does a run (`Session.sound_run`).

## Main definitions

* `Registry.Sound`: what a registry keeps to all the time.
* `Registry.Edits`: the changes of a registry other than configuring.
* `Registry.Installs`: what configuring is expected to do.
* `Session.installed`: the handlers that were installed in a run.

## Main results

* `Session.edits_or_configures`: a step changes the registry in one of the known ways.
* `Session.sound_run`: a registry is sound at any time.
* `Session.installs_of_configure`: what configuring does at any time.
-/

namespace SqlBind

open Log Text

namespace Log.Registry

variable {r next : Registry} {installed : List HandlerRef} {ref : HandlerRef}

/-- What a registry keeps to while handlers are `installed`: there is the root logger, it has no
handler twice, and the managed handlers are among the installed ones. -/
structure Sound (installed : List HandlerRef) (r : Registry) : Prop where
  root : (r.logger? rootName).isSome = true
  nodup : r.attached.Nodup
  managed : ∀ h, r.isManaged h = true → h ∈ installed

/-- The changes of a registry other than configuring. -/
inductive Edits (r : Registry) : Registry → Prop
  | none : Edits r r
  | asked {name : Option String} : Edits r (r.getLogger name).1
  | made {id : String} {kind : HandlerKind} : Edits r (r.makeHandler id kind)
  | attached {name : Option String} {ref : HandlerRef} {full : String} :
      Edits r ((r.getLogger name).1.attach ref full)
  | detached {name : Option String} {ref : HandlerRef} {full : String} :
      Edits r ((r.getLogger name).1.detach ref full)

/-- **What configuring is expected to do** to a registry in which handlers are `installed`, with a
level, a formatter and a handler. -/
structure Installs (installed : List HandlerRef) (r : Registry) (n : Int) (formatter : Formatter)
    (ref : HandlerRef) (next : Registry) : Prop where
  /-- The handler is the only managed one of the root logger, and attached once. -/
  managed : next.attached.filter next.isManaged = [ref]
  /-- It has the formatter. -/
  formatter : (next.handler? ref).bind (·.formatter) = some formatter
  /-- The root logger has the level. -/
  level : (next.logger? rootName).map (·.level) = some n
  /-- Managed handlers that it replaces are removed and closed. -/
  replaced : ∀ h ∈ r.attached, r.isManaged h = true → h ≠ ref →
    h ∉ next.attached ∧ next.handler? h = (r.handler? h).map Handler.close
  /-- Handlers that were never installed are as they were. -/
  untouched : ∀ h ∉ ref :: installed, next.handler? h = r.handler? h
  /-- They are attached where they were, in the same order. -/
  order : next.attached.filter (· ∉ ref :: installed) = r.attached.filter (· ∉ ref :: installed)
  /-- All other loggers are as they were. -/
  elsewhere : ∀ name ≠ rootName, next.logger? name = r.logger? name

/-! ### What edits preserve -/

theorem Sound.mono {more : List HandlerRef} (h : r.Sound installed) :
    r.Sound (installed ++ more) :=
  ⟨h.root, h.nodup, fun ref hm => List.mem_append_left _ (h.managed ref hm)⟩

/-- A registry stays sound while it keeps the root logger, has the same handlers and attaches each
at most once. -/
theorem Sound.of_eq (h : r.Sound installed) (hroot : (next.logger? rootName).isSome = true)
    (hnodup : next.attached.Nodup) (hhandler : ∀ ref, next.handler? ref = r.handler? ref) :
    next.Sound installed :=
  ⟨hroot, hnodup, fun ref hm => h.managed ref (isManaged_eq (hhandler ref) ▸ hm)⟩

/-- The root logger is there already. -/
theorem Sound.ensureLogger_eq (h : r.Sound installed) : r.ensureLogger rootName = r :=
  if_pos h.root

/-- Changing a logger removes none. -/
theorem isSome_updateLogger {name : String} {f : Logger → Logger} (hf : ∀ l, (f l).name = l.name)
    (h : (r.logger? rootName).isSome = true) :
    ((r.updateLogger name f).logger? rootName).isSome = true := by
  rw [logger?_updateLogger hf, Option.isSome_map, h]

/-- Nor does asking for one. -/
theorem isSome_getLogger {name : Option String} (h : (r.logger? rootName).isSome = true) :
    ((r.getLogger name).1.logger? rootName).isSome = true := by
  have hensured (n : String) : ((r.ensureLogger n).logger? rootName).isSome = true := by
    rw [logger?_ensureLogger]
    split
    · rfl
    · exact h
  cases name with
  | none => exact hensured rootName
  | some name => exact isSome_updateLogger name_addFilter (hensured _)

theorem attached_getLogger {name : Option String} : (r.getLogger name).1.attached = r.attached := by
  cases name with
  | none => exact attached_ensureLogger
  | some name =>
      exact (attached_updateLogger name_addFilter handlers_addFilter).trans attached_ensureLogger

theorem handler?_getLogger {name : Option String} :
    (r.getLogger name).1.handler? ref = r.handler? ref := by
  cases name with
  | none => exact handler?_ensureLogger
  | some name => exact handler?_ensureLogger

/-- Adding a handler anywhere adds it once. -/
theorem nodup_attach {name : String} (h : r.attached.Nodup) :
    (r.attach ref name).attached.Nodup := by
  by_cases hname : rootName = name
  · subst hname
    cases hroot : r.logger? rootName with
    | none =>
        unfold attach attached
        rw [logger?_updateLogger_self name_appendHandler, hroot]
        exact List.nodup_nil
    | some l =>
        rw [attached_attach hroot]
        split
        case isTrue => exact h
        case isFalse hnot => exact List.concat_eq_append ▸ h.concat hnot
  · unfold attach
    rwa [attached_updateLogger_of_ne name_appendHandler hname]

theorem nodup_detach {name : String} (h : r.attached.Nodup) :
    (r.detach ref name).attached.Nodup := by
  by_cases hname : rootName = name
  · subst hname
    rw [attached_detach]
    exact h.filter _
  · rwa [attached_eq (logger?_detach_of_ne hname)]

theorem isManaged_makeHandler {id : String} {kind : HandlerKind} {h : HandlerRef}
    (hm : (r.makeHandler id kind).isManaged h = true) : r.isManaged h = true := by
  by_cases hh : h = r.handlers.length
  · subst hh
    simp [isManaged, handler?, makeHandler] at hm
  · exact isManaged_eq (handler?_makeHandler_of_ne hh) ▸ hm

/-- **Edits keep a registry sound**, and install nothing. -/
theorem Sound.edits (h : r.Sound installed) (hedits : r.Edits next) : next.Sound installed := by
  have hasked {name : Option String} : (r.getLogger name).1.Sound installed :=
    h.of_eq (isSome_getLogger h.root) (by rw [attached_getLogger]; exact h.nodup)
      fun _ => handler?_getLogger
  cases hedits with
  | none => exact h
  | asked => exact hasked
  | made => exact ⟨h.root, h.nodup, fun ref hm => h.managed ref (isManaged_makeHandler hm)⟩
  | attached =>
      exact hasked.of_eq (isSome_updateLogger name_appendHandler hasked.root)
        (nodup_attach hasked.nodup) fun _ => rfl
  | detached =>
      exact hasked.of_eq (isSome_updateLogger (fun _ => rfl) hasked.root)
        (nodup_detach hasked.nodup) fun _ => rfl

/-! ### What configuring does -/

variable {n : Int} {formatter : Formatter}

theorem Configured.isManaged_of_ne (h : r.Configured n formatter ref next) {other : HandlerRef}
    (hne : other ≠ ref) : next.isManaged other = r.isManaged other := by
  unfold isManaged
  rw [h.others other hne, Option.map_map]
  refine congrArg (Option.getD · false) (Option.map_congr fun x _ => ?_)
  rw [Function.comp_apply]
  split <;> rfl

theorem Configured.isManaged_self (h : r.Configured n formatter ref next) :
    next.isManaged ref = true := by
  obtain ⟨x, hx, hmanaged, -⟩ := h.installed
  unfold isManaged
  rw [hx]
  exact hmanaged

theorem Configured.mem_attached_iff (h : r.Configured n formatter ref next) {other : HandlerRef}
    (hne : other ≠ ref) :
    other ∈ next.attached ↔ other ∈ r.attached ∧ r.isManaged other = false := by
  rw [h.attached]
  split <;> simp [hne]

/-- Among the handlers left, only the one installed is managed. -/
theorem Configured.managed (h : r.Configured n formatter ref next) (hnodup : r.attached.Nodup) :
    next.attached.filter next.isManaged = [ref] := by
  -- What was kept is unmanaged or the handler itself, and the others keep their marks.
  have hkept : (r.attached.filter fun h => !r.isManaged h || h == ref).filter next.isManaged =
      r.attached.filter (· == ref) := by
    rw [List.filter_filter]
    refine List.filter_congr fun other _ => ?_
    by_cases hne : other = ref
    · subst hne
      simp [h.isManaged_self]
    · rw [h.isManaged_of_ne hne, beq_eq_false_iff_ne.mpr hne]
      cases r.isManaged other <;> rfl
  rw [h.attached]
  split
  case isTrue hmem =>
    rw [hkept, List.filter_beq, List.count_eq_one_of_mem hnodup hmem]
    rfl
  case isFalse hmem =>
    rw [List.filter_append, hkept, List.filter_beq, List.count_eq_zero_of_not_mem hmem]
    simp [h.isManaged_self]

/-- **Configuring does what is expected** of it while the registry is sound. -/
theorem Configured.installs (h : r.Configured n formatter ref next) (hsound : r.Sound installed) :
    r.Installs installed n formatter ref next where
  managed := h.managed hsound.nodup
  formatter := by
    obtain ⟨x, hx, -, hformatter⟩ := h.installed
    rw [hx]
    exact hformatter
  level := h.level
  replaced other hmem hmanaged hne := by
    refine ⟨fun hnext => ?_, ?_⟩
    · have := ((h.mem_attached_iff hne).mp hnext).2
      simp [this] at hmanaged
    · rw [h.others other hne]
      simp [hmem, hmanaged]
  untouched other hnot := by
    obtain ⟨hne, hnot⟩ := List.ne_and_not_mem_of_not_mem_cons hnot
    have hunmanaged : r.isManaged other ≠ true := fun hm => hnot (hsound.managed other hm)
    rw [h.others other hne]
    simp [hunmanaged]
  order := by
    have hleft : (r.attached.filter fun h => !r.isManaged h || h == ref).filter
        (· ∉ ref :: installed) = r.attached.filter (· ∉ ref :: installed) := by
      rw [List.filter_filter]
      refine List.filter_congr fun other _ => ?_
      cases hm : r.isManaged other with
      | true => simp [hsound.managed other hm]
      | false => simp
    rw [h.attached]
    split
    case isTrue => exact hleft
    case isFalse =>
      rw [List.filter_append, hleft]
      simp
  elsewhere := h.elsewhere

theorem Configured.sound (h : r.Configured n formatter ref next) (hsound : r.Sound installed) :
    next.Sound (installed ++ [ref]) := by
  refine ⟨?_, ?_, fun other hm => ?_⟩
  · rw [← Option.isSome_map, h.level, Option.isSome_some]
  · have hkept := hsound.nodup.filter fun h => !r.isManaged h || h == ref
    rw [h.attached]
    split
    case isTrue => exact hkept
    case isFalse hmem =>
      exact List.concat_eq_append ▸ hkept.concat fun hm => hmem (List.mem_of_mem_filter hm)
  · by_cases hne : other = ref
    · simp [hne]
    · rw [h.isManaged_of_ne hne] at hm
      exact List.mem_append_left _ (hsound.managed other hm)

end Log.Registry

namespace Session

variable {s : Session}

/-- The kind of formatter that configuring sets. -/
def formatterOf (structured : Bool) : Formatter := if structured then .structured else .plain

/-- The handler that a step installs: the one whose id configuring answers with. -/
def installs? (s : Session) (x : Step) : Option HandlerRef :=
  match (s.step x).answer with
  | .ok (.configured id _) => (s.step x).next.registry.ref? id
  | _ => none

/-- The handlers that a run installs, in order. -/
def installed (s : Session) : List Step → List HandlerRef
  | [] => []
  | x :: rest => (s.installs? x).toList ++ (s.step x).next.installed rest

/-- What a registry and an answer come to when the root logger is configured. -/
theorem step_of_configure {level : String} {structured : Bool} {handler : Option String}
    {registry : Registry} {outcome : Outcome String}
    (h : s.registry.configure level (formatterOf structured) handler = (registry, outcome)) :
    s.step (.configure level structured handler) =
      { s with registry }.answering (outcome.map (.configured · (formatterOf structured))) := by
  unfold formatterOf at h ⊢
  simp only [step, h]

/-- **What a step does to the registry**: one of the edits, or configuring that succeeds. -/
theorem edits_or_configures (s : Session) (x : Step) :
    s.registry.Edits (s.step x).next.registry ∨
      ∃ level structured handler registry id,
        x = .configure level structured handler ∧
          s.registry.configure level (formatterOf structured) handler = (registry, .ok id) := by
  have hsame {next : Registry} (h : next = s.registry) : s.registry.Edits next := h ▸ .none
  cases x with
  | configure level structured handler =>
      cases hconfigure : s.registry.configure level (formatterOf structured) handler with
      | mk registry outcome =>
          cases outcome with
          | ok id => exact .inr ⟨level, structured, handler, _, _, rfl, hconfigure⟩
          | error fault =>
              rw [step_of_configure hconfigure]
              obtain rfl | rfl := Registry.eq_of_configure_error hconfigure
              · exact .inl .none
              · exact .inl (@Registry.Edits.asked _ none)
  | makeConfig | makeCopy | assign | makeRewriter | makeConverter => exact .inl .none
  | rewrite | convert =>
      refine .inl (hsame ?_)
      simp only [step]
      split <;> rfl
  | getLogger | log | logPlain => exact .inl .asked
  | makeHandler => exact .inl .made
  | attach id name =>
      refine .inl ?_
      simp only [step]
      split
      · exact .attached
      · exact .asked
  | detach id name =>
      refine .inl ?_
      simp only [step]
      split
      · exact .detached
      · exact .asked
  | _ => exact .inl .none

/-- **One step keeps the registry sound**: what it installs is added to what was installed. -/
theorem sound_step {before : List HandlerRef} (h : s.registry.Sound before) (x : Step) :
    (s.step x).next.registry.Sound (before ++ (s.installs? x).toList) := by
  obtain hedits | ⟨level, structured, handler, registry, id, rfl, hconfigure⟩ :=
    s.edits_or_configures x
  -- An edit installs nothing that counts; configuring adds the handler it answers with.
  · exact (h.edits hedits).mono
  · obtain ⟨⟨n, hn⟩, hknown⟩ := Registry.known_of_configure (congrArg Prod.snd hconfigure)
    obtain ⟨id', ref, next, hnext, -, -, href, hconfigured⟩ :=
      Registry.configure_of_level (formatterOf structured) h.nodup hn hknown
    obtain ⟨rfl, rfl⟩ : next = registry ∧ id' = id := by
      rw [hnext] at hconfigure
      simpa using hconfigure
    have hinstalls : s.installs? (.configure level structured handler) = some ref := by
      unfold installs?
      rw [step_of_configure hconfigure]
      exact href
    rw [hinstalls, step_of_configure hconfigure]
    exact hconfigured.sound h

/-- **A run keeps the registry sound.** -/
theorem sound_run {before : List HandlerRef} {steps : List Step} (h : s.registry.Sound before) :
    (s.run steps).1.registry.Sound (before ++ s.installed steps) := by
  induction steps generalizing s before with
  | nil => simpa [run, installed] using h
  | cons x rest ih =>
      have := ih (sound_step h x)
      rwa [List.append_assoc] at this

theorem sound_start {host : Host} {origin : Origin} :
    (Session.start host origin).registry.Sound [] :=
  ⟨rfl, List.nodup_nil, fun _ h => nomatch h⟩

/-- **Configuring leaves one managed handler**, after any steps. With a level that is known it
succeeds: it answers with the handler that it was given, or with a new one, and does to the handlers
and loggers what is expected. With any other level it fails and changes nothing. -/
theorem installs_of_configure (host : Host) (origin : Origin) (steps : List Step) (level : String)
    (structured : Bool) {handler : Option String}
    (hknown : ∀ id ∈ handler,
      (((Session.start host origin).run steps).1.registry.ref? id).isSome) :
    let s := ((Session.start host origin).run steps).1
    let result := s.step (.configure level structured handler)
    match Level.ofName? (uppercase level) with
    | some n => ∃ id ref,
        result.answer = .ok (.configured id (formatterOf structured)) ∧
        (∀ given ∈ handler, id = given) ∧ s.registry.Provides ref handler ∧
        result.next.registry.ref? id = some ref ∧
        s.registry.Installs ((Session.start host origin).installed steps) n (formatterOf structured)
          ref result.next.registry
    | none => result.answer = .error (.unknownLevel (uppercase level)) ∧ result.next = s := by
  intro s result
  have hsound : s.registry.Sound ((Session.start host origin).installed steps) :=
    sound_run sound_start
  cases hn : Level.ofName? (uppercase level) with
  | some n =>
      obtain ⟨id, ref, next, hnext, hid, hprovides, href, hconfigured⟩ :=
        Registry.configure_of_level (formatterOf structured) hsound.nodup hn hknown
      have hresult := step_of_configure hnext
      refine ⟨id, ref, ?_, hid, hprovides, ?_, ?_⟩
      · exact congrArg StepResult.answer hresult
      · rw [show result = _ from hresult]
        exact href
      · rw [show result = _ from hresult]
        exact hconfigured.installs hsound
  | none =>
      have hrefused := Registry.configure_of_unknown_level (formatterOf structured) hn hknown
      -- the root logger was there, so that asking for it changed nothing
      rw [hsound.ensureLogger_eq] at hrefused
      have hresult := step_of_configure hrefused
      exact ⟨congrArg StepResult.answer hresult, congrArg StepResult.next hresult⟩

/-- A handler that was replaced is attached again beside the one that replaced it, and then given
back: it alone is left. -/
theorem installs_of_configure_given_back :
    ∃ steps : List Step,
      steps = [.configure "INFO" true none, .makeHandler "app" .stream, .attach "app" none,
        .configure "warn" false (some "app"), .attach "stderr1" none] ∧
      ∃ s : Session, s = ((Session.start (.quiet 0) ⟨"m", none, 1⟩).run steps).1 ∧
        s.registry.attached.filter s.registry.isManaged = [1, 0] ∧
        s.registry.ref? "stderr1" = some 0 ∧
        s.registry.Installs [0, 1] Level.debug .structured 0
          (s.step (.configure "debug" true (some "stderr1"))).next.registry := by
  obtain ⟨steps, hsteps⟩ : ∃ steps : List Step,
      steps = [.configure "INFO" true none, .makeHandler "app" .stream, .attach "app" none,
        .configure "warn" false (some "app"), .attach "stderr1" none] := ⟨_, rfl⟩
  have hinstalled : (Session.start (.quiet 0) ⟨"m", none, 1⟩).installed steps = [0, 1] := by
    subst hsteps
    decide
  have href : ((Session.start (.quiet 0) ⟨"m", none, 1⟩).run steps).1.registry.ref? "stderr1" =
      some 0 := by
    subst hsteps
    decide
  have hlevel : Level.ofName? (uppercase "debug") = some Level.debug := by decide
  have hresult := @installs_of_configure (.quiet 0) ⟨"m", none, 1⟩ steps "debug" true
    (some "stderr1") (by rintro id ⟨⟩; rw [href]; rfl)
  rw [hlevel] at hresult
  obtain ⟨id, ref, -, -, hprovides, -, hinstalls⟩ := hresult
  obtain rfl : 0 = ref := Option.some.inj (href.symm.trans hprovides)
  refine ⟨steps, hsteps, _, rfl, ?_, href, hinstalled ▸ hinstalls⟩
  subst hsteps
  decide

end Session

end SqlBind
