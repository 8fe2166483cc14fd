import SqlBind.Log.Registry

/-!
# What Changes Leave Alone

A registry is looked at in three ways: through its loggers (`Registry.logger?`), through its
handlers (`Registry.handler?`) and through the ids that stand for handlers (`Registry.ref?`). Each
change of a registry is described by what each of the three sees afterwards, so that no later proof
opens a change. Changing a logger leaves handlers and ids alone; changing a handler leaves loggers
alone, and ids too as long as the handler keeps its own.

Configuring is five such changes, one after the other. Its outcome is described once, for all that
it can be asked (`Registry.configure_of_level`): which handlers of the root logger are left, and
what every handler and every other logger looks like.

## Main definitions

* `Handler.close`: a handler that was closed once more.
* `Registry.attached`, `Registry.isManaged`: the handlers of the root logger, and which handlers are
  managed.
* `Registry.Provides`: what configuring is asked to install, and what it takes for it.
* `Registry.Configured`: a registry before and after configuring.

## Main results

* `Registry.attached_foldl_retire`, `Registry.handler?_foldl_retire`: what retiring handlers does.
* `Registry.configure_of_level`: what configuring does under a level that is known.
* `Registry.configure_of_unknown_level`: configuring is refused under any other.
-/

namespace SqlBind.Log

open Text

/-- A handler that was closed once more. -/
def Handler.close (h : Handler) : Handler := { h with closes := h.closes + 1 }

namespace Registry

variable {r : Registry} {name : String} {ref : HandlerRef}

/-- The handlers of the root logger, in order. -/
def attached (r : Registry) : List HandlerRef := ((r.logger? rootName).map (·.handlers)).getD []

/-- Whether a handler is managed. -/
def isManaged (r : Registry) (ref : HandlerRef) : Bool :=
  ((r.handler? ref).map (·.managed)).getD false

/-- The ids of all handlers made so far, in order. -/
def ids (r : Registry) : List String := r.handlers.map (·.id)

/-! ### Loggers -/

theorem logger?_updateLogger {f : Logger → Logger} (hf : ∀ l, (f l).name = l.name) (n : String) :
    (r.updateLogger name f).logger? n =
      (r.logger? n).map fun l => if l.name = name then f l else l := by
  unfold logger? updateLogger
  rw [List.find?_map]
  congr 1
  refine congrArg (List.find? · r.loggers) (funext fun l => ?_)
  by_cases h : l.name = name <;> simp [h, hf]

theorem name_of_logger? {n : String} {l : Logger} (h : r.logger? n = some l) : l.name = n := by
  simpa using List.find?_some h

/-- Changing a logger changes what is found under its name. -/
theorem logger?_updateLogger_self {f : Logger → Logger} (hf : ∀ l, (f l).name = l.name) :
    (r.updateLogger name f).logger? name = (r.logger? name).map f := by
  rw [logger?_updateLogger hf]
  refine Option.map_congr fun l hl => ?_
  rw [if_pos (name_of_logger? hl)]

/-- Changing a logger leaves the others alone. -/
theorem logger?_updateLogger_of_ne {f : Logger → Logger} (hf : ∀ l, (f l).name = l.name)
    {n : String} (hn : n ≠ name) : (r.updateLogger name f).logger? n = r.logger? n := by
  rw [logger?_updateLogger hf]
  cases h : r.logger? n with
  | none => rfl
  | some l =>
      have hl : l.name ≠ name := name_of_logger? h ▸ hn
      simp [hl]

/-- Afterwards there is a logger, with no handlers if it is new; the others are left alone. -/
theorem logger?_ensureLogger (n : String) :
    (r.ensureLogger name).logger? n =
      if n = name then some ((r.logger? name).getD ⟨name, 0, 0, []⟩) else r.logger? n := by
  unfold ensureLogger
  cases h : r.logger? name with
  | some l =>
      by_cases hn : n = name
      · subst hn
        simp [h]
      · simp [hn]
  | none =>
      by_cases hn : n = name
      · subst hn
        unfold logger? at h ⊢
        simp [List.find?_append, h]
      · unfold logger?
        simp [List.find?_append, hn, Ne.symm hn]

@[simp] theorem handler?_ensureLogger : (r.ensureLogger name).handler? ref = r.handler? ref := by
  unfold ensureLogger
  split <;> rfl

@[simp] theorem ids_ensureLogger : (r.ensureLogger name).ids = r.ids := by
  unfold ensureLogger
  split <;> rfl

/-! ### Handlers -/

@[simp] theorem logger?_updateHandler {f : Handler → Handler} {n : String} :
    (r.updateHandler ref f).logger? n = r.logger? n := rfl

/-- Changing a handler changes no other. -/
theorem handler?_updateHandler {f : Handler → Handler} (h : HandlerRef) :
    (r.updateHandler ref f).handler? h =
      (r.handler? h).map fun x => if h = ref then f x else x := by
  unfold handler? updateHandler
  rw [List.getElem?_modify]
  by_cases hr : h = ref
  · simp [hr]
  · simp [hr, Ne.symm hr]

theorem ids_updateHandler {f : Handler → Handler} (hf : ∀ h, (f h).id = h.id) :
    (r.updateHandler ref f).ids = r.ids := by
  unfold ids updateHandler
  refine List.ext_getElem? fun i => ?_
  rw [List.getElem?_map, List.getElem?_map, List.getElem?_modify]
  cases r.handlers[i]? with
  | none => rfl
  | some h => by_cases hi : ref = i <;> simp [hi, hf]

/-- The ids that handlers have decide what an id stands for. -/
theorem ref?_eq_of_ids {r r' : Registry} (h : r'.ids = r.ids) (id : String) :
    r'.ref? id = r.ref? id := by
  have hview (r : Registry) : r.ref? id =
      (r.ids.reverse.findIdx? (· = id)).map fun back => r.ids.length - 1 - back := by
    unfold ref? ids
    rw [← List.map_reverse, List.findIdx?_map, List.length_map]
    rfl
  rw [hview, hview, h]

/-- The latest handler takes its id over. -/
theorem ref?_makeHandler {id : String} {kind : HandlerKind} :
    (r.makeHandler id kind).ref? id = some r.handlers.length := by
  simp [ref?, makeHandler, List.findIdx?_cons]

theorem lt_length_of_ref? {id : String} (h : r.ref? id = some ref) : ref < r.handlers.length := by
  obtain ⟨back, hback, rfl⟩ := Option.map_eq_some_iff.mp h
  have hlt := (List.findIdx?_eq_some_iff_findIdx_eq.mp hback).1
  rw [List.length_reverse] at hlt
  exact Nat.lt_of_le_of_lt (Nat.sub_le _ _) (Nat.sub_one_lt_of_lt hlt)

theorem handler?_makeHandler_of_ne {id : String} {kind : HandlerKind} {h : HandlerRef}
    (hh : h ≠ r.handlers.length) : (r.makeHandler id kind).handler? h = r.handler? h := by
  rcases Nat.lt_or_ge h r.handlers.length with hlt | hge
  · exact handler?_makeHandler hlt
  · unfold handler? makeHandler
    rw [List.getElem?_eq_none hge, List.getElem?_eq_none]
    rw [List.length_append, List.length_singleton]
    exact Nat.lt_of_le_of_ne hge (Ne.symm hh)

/-! ### The root logger -/

theorem isManaged_eq {r r' : Registry} (h : r'.handler? ref = r.handler? ref) :
    r'.isManaged ref = r.isManaged ref := by
  unfold isManaged
  rw [h]

theorem attached_eq {r r' : Registry} (h : r'.logger? rootName = r.logger? rootName) :
    r'.attached = r.attached := by
  unfold attached
  rw [h]

@[simp] theorem attached_ensureLogger : (r.ensureLogger name).attached = r.attached := by
  unfold attached
  rw [logger?_ensureLogger]
  by_cases h : rootName = name
  · subst h
    cases hr : r.logger? rootName <;> simp
  · rw [if_neg h]

theorem attached_of_logger? {l : Logger} (h : r.logger? rootName = some l) :
    r.attached = l.handlers := by
  unfold attached
  rw [h]
  rfl

theorem attached_updateLogger_of_ne {f : Logger → Logger} (hf : ∀ l, (f l).name = l.name)
    (h : rootName ≠ name) : (r.updateLogger name f).attached = r.attached :=
  attached_eq (logger?_updateLogger_of_ne hf h)

/-- Changing loggers in other respects changes no handlers. -/
theorem attached_updateLogger {f : Logger → Logger} (hf : ∀ l, (f l).name = l.name)
    (hh : ∀ l, (f l).handlers = l.handlers) :
    (r.updateLogger name f).attached = r.attached := by
  unfold attached
  rw [logger?_updateLogger hf, Option.map_map]
  refine congrArg (Option.getD · []) (Option.map_congr fun l _ => ?_)
  by_cases h : l.name = name <;> simp [h, hh]

theorem name_appendHandler (l : Logger) : (appendHandler ref l).name = l.name := by
  unfold appendHandler
  split <;> rfl

theorem name_addFilter (l : Logger) : (addFilter l).name = l.name := by
  unfold addFilter
  split <;> rfl

theorem handlers_addFilter (l : Logger) : (addFilter l).handlers = l.handlers := by
  unfold addFilter
  split <;> rfl

/-- Adding a handler puts it last, unless it is there. -/
theorem attached_attach {l : Logger} (h : r.logger? rootName = some l) :
    (r.attach ref rootName).attached =
      if ref ∈ r.attached then r.attached else r.attached ++ [ref] := by
  have hnext : (r.attach ref rootName).logger? rootName = some (appendHandler ref l) := by
    unfold attach
    rw [logger?_updateLogger_self name_appendHandler, h]
    rfl
  rw [attached_of_logger? h, attached_of_logger? hnext]
  unfold appendHandler
  by_cases hm : ref ∈ l.handlers <;> simp [hm]

theorem logger?_detach : (r.detach ref name).logger? name =
    (r.logger? name).map fun l => { l with handlers := l.handlers.filter (· != ref) } := by
  unfold detach
  exact logger?_updateLogger_self fun _ => rfl

theorem logger?_detach_of_ne {n : String} (h : n ≠ name) :
    (r.detach ref name).logger? n = r.logger? n := by
  unfold detach
  exact logger?_updateLogger_of_ne (fun _ => by rfl) h

theorem attached_detach : (r.detach ref rootName).attached = r.attached.filter (· != ref) := by
  unfold attached
  rw [logger?_detach]
  cases r.logger? rootName <;> rfl

/-! ### Retiring -/

theorem attached_retire : (r.retire ref).attached = r.attached.filter (· != ref) :=
  attached_detach

theorem handler?_retire (h : HandlerRef) :
    (r.retire ref).handler? h = (r.handler? h).map fun x => if h = ref then x.close else x :=
  handler?_updateHandler h

theorem ids_retire : (r.retire ref).ids = r.ids := ids_updateHandler fun _ => rfl

theorem logger?_retire_of_ne {n : String} (h : n ≠ rootName) :
    (r.retire ref).logger? n = r.logger? n :=
  logger?_detach_of_ne h

/-- Retiring leaves the root logger in place, with its level. -/
theorem level_retire :
    ((r.retire ref).logger? rootName).map (·.level) = (r.logger? rootName).map (·.level) := by
  unfold retire
  rw [logger?_updateHandler, logger?_detach, Option.map_map]
  rfl

variable {refs : List HandlerRef}

/-- **Retired handlers are gone**, and the order of the others stays. -/
theorem attached_foldl_retire :
    (refs.foldl retire r).attached = r.attached.filter fun h => decide (h ∉ refs) := by
  induction refs generalizing r with
  | nil => exact (List.filter_eq_self.mpr fun _ _ => by simp).symm
  | cons ref refs ih =>
      rw [List.foldl_cons, ih, attached_retire, List.filter_filter]
      refine List.filter_congr fun h _ => ?_
      by_cases hr : h = ref <;> simp [hr]

/-- **Retired handlers are closed**, once each, and no others. -/
theorem handler?_foldl_retire (hnodup : refs.Nodup) (h : HandlerRef) :
    (refs.foldl retire r).handler? h =
      (r.handler? h).map fun x => if h ∈ refs then x.close else x := by
  induction refs generalizing r with
  | nil => simp
  | cons ref refs ih =>
      obtain ⟨hout, hnodup⟩ := List.nodup_cons.mp hnodup
      rw [List.foldl_cons, ih hnodup, handler?_retire, Option.map_map]
      refine Option.map_congr fun x _ => ?_
      by_cases hr : h = ref
      · subst hr
        simp [hout]
      · simp [hr]

/-- What retiring a handler leaves as it is, retiring several leaves as it is. -/
theorem foldl_retire_eq {α : Type} (view : Registry → α)
    (h : ∀ r ref, view (retire r ref) = view r) : view (refs.foldl retire r) = view r := by
  induction refs generalizing r with
  | nil => rfl
  | cons ref refs ih => rw [List.foldl_cons, ih, h]

theorem ids_foldl_retire : (refs.foldl retire r).ids = r.ids :=
  foldl_retire_eq ids fun _ _ => ids_retire

theorem logger?_foldl_retire_of_ne {n : String} (h : n ≠ rootName) :
    (refs.foldl retire r).logger? n = r.logger? n :=
  foldl_retire_eq (·.logger? n) fun _ _ => logger?_retire_of_ne h

theorem level_foldl_retire :
    ((refs.foldl retire r).logger? rootName).map (·.level) =
      (r.logger? rootName).map (·.level) :=
  foldl_retire_eq (fun r => (r.logger? rootName).map (·.level)) fun _ _ => level_retire

/-! ### Configuring, stage by stage -/

/-- The registry with a level for the root logger. -/
def leveled (r : Registry) (n : Int) : Registry :=
  (r.ensureLogger rootName).updateLogger rootName fun l => { l with level := n }

theorem level_leveled {n : Int} : ((r.leveled n).logger? rootName).map (·.level) = some n := by
  unfold leveled
  rw [logger?_updateLogger_self, logger?_ensureLogger, if_pos rfl]
  · rfl
  · exact fun _ => rfl

theorem logger?_leveled_of_ne {n : Int} (h : name ≠ rootName) :
    (r.leveled n).logger? name = r.logger? name := by
  unfold leveled
  rw [logger?_updateLogger_of_ne (fun _ => by rfl) h, logger?_ensureLogger, if_neg h]

theorem handler?_leveled {n : Int} : (r.leveled n).handler? ref = r.handler? ref :=
  handler?_ensureLogger

theorem ids_leveled {n : Int} : (r.leveled n).ids = r.ids := ids_ensureLogger

theorem attached_leveled {n : Int} : (r.leveled n).attached = r.attached := by
  unfold leveled
  rw [attached_updateLogger, attached_ensureLogger]
  · exact fun _ => rfl
  · exact fun _ => rfl

theorem mem_replaced {kept : Option HandlerRef} {h : HandlerRef} :
    h ∈ r.replaced kept ↔ h ∈ r.attached ∧ r.isManaged h = true ∧ some h ≠ kept := by
  unfold replaced
  rw [List.mem_filter, Bool.and_eq_true, bne_iff_ne]
  rfl

/-- The registry after the managed handlers other than `kept` were retired. -/
def cleared (r : Registry) (kept : Option HandlerRef) : Registry :=
  (r.replaced kept).foldl retire r

/-- The registry with a handler installed: managed, with a formatter, and attached. -/
def installing (r : Registry) (ref : HandlerRef) (formatter : Formatter) : Registry :=
  (r.updateHandler ref fun h => { h with formatter := some formatter, managed := true }).attach
    ref rootName

theorem level_installing {formatter : Formatter} :
    ((r.installing ref formatter).logger? rootName).map (·.level) =
      (r.logger? rootName).map (·.level) := by
  unfold installing attach
  rw [logger?_updateLogger_self name_appendHandler, logger?_updateHandler, Option.map_map]
  refine Option.map_congr fun l _ => ?_
  unfold appendHandler
  rw [Function.comp_apply]
  split <;> rfl

theorem logger?_installing_of_ne {formatter : Formatter} (h : name ≠ rootName) :
    (r.installing ref formatter).logger? name = r.logger? name :=
  logger?_updateLogger_of_ne name_appendHandler h

theorem handler?_installing {formatter : Formatter} (h : HandlerRef) :
    (r.installing ref formatter).handler? h = (r.handler? h).map fun x =>
      if h = ref then { x with formatter := some formatter, managed := true } else x :=
  handler?_updateHandler h

theorem ids_installing {formatter : Formatter} : (r.installing ref formatter).ids = r.ids :=
  ids_updateHandler fun _ => rfl

theorem attached_installing {formatter : Formatter} {l : Logger}
    (h : r.logger? rootName = some l) :
    (r.installing ref formatter).attached =
      if ref ∈ r.attached then r.attached else r.attached ++ [ref] :=
  attached_attach h

/-! ### Configuring -/

theorem configure_eq {level : String} {n : Int} {formatter : Formatter} {handler : Option String}
    {given : Option HandlerRef} (hn : Level.ofName? (uppercase level) = some n)
    (hgiven : r.givenHandler handler = .ok given) :
    r.configure level formatter handler =
      let c := (r.leveled n).cleared given
      let provided := c.provideHandler given
      (provided.1.installing provided.2 formatter, .ok (handler.getD c.nextId)) := by
  unfold configure setLevel
  rw [hgiven, hn]
  rfl

/-- **A registry before and after configuring** with a level, a formatter and a handler. -/
structure Configured (r : Registry) (n : Int) (formatter : Formatter) (ref : HandlerRef)
    (next : Registry) : Prop where
  /-- The root logger has the level. -/
  level : (next.logger? rootName).map (·.level) = some n
  /-- Its managed handlers are gone, and the handler is behind the others unless it was there. -/
  attached : next.attached =
    let kept := r.attached.filter fun h => !r.isManaged h || h == ref
    if ref ∈ r.attached then kept else kept ++ [ref]
  /-- The handler is managed and has the formatter. -/
  installed : ∃ h, next.handler? ref = some h ∧ h.managed = true ∧ h.formatter = some formatter
  /-- Any other handler was closed if it was managed and attached, and is as it was otherwise. -/
  others : ∀ h ≠ ref, next.handler? h =
    (r.handler? h).map fun x => if h ∈ r.attached ∧ r.isManaged h = true then x.close else x
  /-- Any other logger is as it was. -/
  elsewhere : ∀ name ≠ rootName, next.logger? name = r.logger? name

/-- Installing the handler that was meant, after the others were retired. -/
theorem configured_installing {n : Int} {formatter : Formatter} {given : Option HandlerRef}
    {provided : Registry} (hnodup : r.attached.Nodup)
    (hloggers : ∀ name, provided.logger? name = ((r.leveled n).cleared given).logger? name)
    (hothers : ∀ h ≠ ref, provided.handler? h = ((r.leveled n).cleared given).handler? h)
    (hthere : ∃ x, provided.handler? ref = some x)
    (hmeant : ∀ h, r.isManaged h = true → (some h ≠ given ↔ h ≠ ref)) :
    r.Configured n formatter ref (provided.installing ref formatter) := by
  obtain ⟨x, hthere⟩ := hthere
  have hreplaced (h : HandlerRef) :
      h ∈ (r.leveled n).replaced given ↔ h ∈ r.attached ∧ r.isManaged h = true ∧ h ≠ ref := by
    rw [mem_replaced, attached_leveled, isManaged_eq handler?_leveled]
    exact and_congr_right fun _ => and_congr_right fun hm => hmeant h hm
  have hlevel : (provided.logger? rootName).map (·.level) = some n := by
    rw [hloggers]
    exact level_foldl_retire.trans level_leveled
  obtain ⟨root, hroot, -⟩ := Option.map_eq_some_iff.mp hlevel
  have hkept : provided.attached = r.attached.filter fun h => !r.isManaged h || h == ref := by
    rw [attached_eq (hloggers rootName)]
    refine attached_foldl_retire.trans ?_
    rw [attached_leveled]
    refine List.filter_congr fun h hmem => ?_
    have := hreplaced h
    by_cases hm : r.isManaged h = true <;> by_cases hr : h = ref <;> simp [*]
  have hnodup' : ((r.leveled n).replaced given).Nodup := by
    have : (r.leveled n).attached.Nodup := by rwa [attached_leveled]
    exact this.filter _
  refine ⟨level_installing.trans hlevel, ?_, ?_, fun h hr => ?_, fun name hname => ?_⟩
  · rw [attached_installing hroot, hkept]
    simp
  · refine ⟨{ x with formatter := some formatter, managed := true }, ?_, rfl, rfl⟩
    rw [handler?_installing, hthere, Option.map_some, if_pos rfl]
  · rw [handler?_installing, hothers h hr, cleared, handler?_foldl_retire hnodup',
      handler?_leveled, Option.map_map]
    refine Option.map_congr fun x _ => ?_
    simp [hreplaced, hr]
  · rw [logger?_installing_of_ne hname, hloggers, cleared, logger?_foldl_retire_of_ne hname,
      logger?_leveled_of_ne hname]

/-- The handler that configuring installs: the one that was given, or else one that was not there
before. -/
def Provides (r : Registry) (ref : HandlerRef) : Option String → Prop
  | some id => r.ref? id = some ref
  | none => r.handler? ref = none

theorem exists_givenHandler {handler : Option String}
    (hknown : ∀ id ∈ handler, (r.ref? id).isSome) :
    ∃ given, r.givenHandler handler = .ok given := by
  cases handler with
  | some id =>
      obtain ⟨ref, href⟩ := Option.isSome_iff_exists.mp (hknown id rfl)
      exact ⟨some ref, by simp [givenHandler, href]⟩
  | none => exact ⟨none, rfl⟩

/-- **Configuring with a level that is known succeeds**, for any handler that is known or for none,
and answers with the id of the handler that it installed. -/
theorem configure_of_level {level : String} {n : Int} {handler : Option String}
    (formatter : Formatter) (hnodup : r.attached.Nodup)
    (hn : Level.ofName? (uppercase level) = some n)
    (hknown : ∀ id ∈ handler, (r.ref? id).isSome) :
    ∃ id ref next, r.configure level formatter handler = (next, .ok id) ∧
      (∀ given ∈ handler, id = given) ∧ r.Provides ref handler ∧ next.ref? id = some ref ∧
      r.Configured n formatter ref next := by
  have hids (given : Option HandlerRef) : ((r.leveled n).cleared given).ids = r.ids :=
    ids_foldl_retire.trans ids_leveled
  cases handler with
  | some id =>
      obtain ⟨ref, href⟩ := Option.isSome_iff_exists.mp (hknown id rfl)
      have hgiven : r.givenHandler (some id) = .ok (some ref) := by simp [givenHandler, href]
      have href' : ((r.leveled n).cleared (some ref)).ref? id = some ref :=
        (ref?_eq_of_ids (hids _) id).trans href
      have hthere : ∃ x, ((r.leveled n).cleared (some ref)).handler? ref = some x :=
        ⟨_, List.getElem?_eq_getElem (lt_length_of_ref? href')⟩
      refine ⟨_, ref, _, configure_eq hn hgiven, by simp, href, ?_, ?_⟩
      · exact (ref?_eq_of_ids ids_installing id).trans href'
      · exact configured_installing hnodup (fun _ => rfl) (fun _ _ => rfl) hthere (by simp)
  | none =>
      -- The new handler comes behind all that there were.
      have hlength : ((r.leveled n).cleared none).handlers.length = r.handlers.length := by
        have := congrArg List.length (hids none)
        rwa [ids, ids, List.length_map, List.length_map] at this
      have hnew : r.handler? r.handlers.length = none := List.getElem?_eq_none (Nat.le_refl _)
      refine ⟨_, r.handlers.length, _, configure_eq hn rfl, by simp, hnew, ?_, ?_⟩
      · refine (ref?_eq_of_ids ids_installing _).trans ?_
        exact ref?_makeHandler.trans (congrArg some hlength)
      · unfold provideHandler
        rw [hlength]
        refine configured_installing hnodup (fun _ => rfl) (fun h hh => ?_) ?_ ?_
        · exact handler?_makeHandler_of_ne (hlength.symm ▸ hh)
        · unfold handler? makeHandler
          exact ⟨_, by rw [← hlength]; exact List.getElem?_concat_length⟩
        · intro h hm
          refine iff_of_true (by simp) ?_
          rintro rfl
          simp [isManaged, hnew] at hm

/-- A level that is not known is refused, and all that happened is that the root logger was asked
for. -/
theorem configure_of_unknown_level {level : String} {handler : Option String}
    (formatter : Formatter) (hn : Level.ofName? (uppercase level) = none)
    (hknown : ∀ id ∈ handler, (r.ref? id).isSome) :
    r.configure level formatter handler =
      (r.ensureLogger rootName, .error (.unknownLevel (uppercase level))) := by
  obtain ⟨given, hgiven⟩ := exists_givenHandler hknown
  unfold configure setLevel
  rw [hgiven, hn]
  rfl

/-- An id that stands for no handler is refused, and nothing happened. -/
theorem configure_of_unknown_handler {level id : String} (formatter : Formatter)
    (h : r.ref? id = none) :
    r.configure level formatter (some id) = (r, .error (.unknownName id)) := by
  have hgiven : r.givenHandler (some id) = .error (.unknownName id) := by simp [givenHandler, h]
  rw [configure, hgiven]

/-- Configuring that is refused does no more than to ask for the root logger. -/
theorem eq_of_configure_error {level : String} {formatter : Formatter} {handler : Option String}
    {next : Registry} {fault : Fault}
    (h : r.configure level formatter handler = (next, .error fault)) :
    next = r ∨ next = (r.getLogger none).1 := by
  unfold configure setLevel at h
  cases hgiven : r.givenHandler handler with
  | error problem =>
      rw [hgiven] at h
      exact .inl (congrArg Prod.fst h).symm
  | ok given =>
      rw [hgiven] at h
      cases hn : Level.ofName? (uppercase level) with
      | some n => rw [hn] at h; cases congrArg Prod.snd h
      | none => rw [hn] at h; exact .inr (congrArg Prod.fst h).symm

/-- Configuring succeeds only with a level and a handler that are known. -/
theorem known_of_configure {level : String} {formatter : Formatter} {handler : Option String}
    {id : String} (h : (r.configure level formatter handler).2 = .ok id) :
    (∃ n, Level.ofName? (uppercase level) = some n) ∧ ∀ id ∈ handler, (r.ref? id).isSome := by
  have hknown : ∀ id ∈ handler, (r.ref? id).isSome := by
    rintro id rfl
    cases href : r.ref? id with
    | some ref => rfl
    | none =>
        rw [configure_of_unknown_handler formatter href] at h
        cases h
  refine ⟨?_, hknown⟩
  cases hn : Level.ofName? (uppercase level) with
  | some n => exact ⟨n, rfl⟩
  | none =>
      rw [configure_of_unknown_level formatter hn hknown] at h
      cases h

end Registry

end SqlBind.Log
