import SqlBind.Proofs.Log.Managed

/-!
# Which Loggers Have a Filter

A logger gets a filter when it is asked for by a name, and at no other time. Loggers are asked for
by many steps: to have them, to attach a handler to them or to detach one, and to log. Whatever the
steps and their order, a logger has one filter if it was ever asked for by a name that stands for
it, and none otherwise (`Registry.Filtered`); one step preserves this (`Session.filtered_step`), and
so does a run (`Session.filtered_run`).

The root logger can be asked for without a name. What is handed out then is the same logger, but
nothing is done to it, so it has a filter only if somebody asked for it by its name as well
(`Session.filters_of_getLogger`). In a new session it has none (`Session.getLogger_unfiltered`).

## Main definitions

* `Registry.filterCounts`: the loggers by name, with the number of their filters.
* `Registry.Filtered`: one filter for each logger that was asked for by name, and no other.
* `Step.asks?`: the name by which a step asks for a logger.

## Main results

* `Session.filtered_run`: which loggers have a filter, at any time.
* `Session.filters_of_getLogger`: what asking for a logger gives.
-/

namespace SqlBind

open Log

namespace Log

/-! ### Names under the root name -/

/-- A name under the root name is the root name or begins with it and a dot. -/
theorem isUnderRoot_iff {name : String} :
    isUnderRoot name = true ↔ name = rootName ∨ ∃ rest, name = rootName ++ "." ++ rest := by
  have hdot : (rootName ++ ".").toList = rootName.toList ++ ['.'] := String.toList_append
  rw [isUnderRoot, Bool.or_eq_true, decide_eq_true_eq, List.isPrefixOf_iff_prefix]
  refine or_congr_right ⟨?_, ?_⟩
  · rintro ⟨rest, hrest⟩
    refine ⟨String.ofList rest, String.toList_inj.mp ?_⟩
    rw [String.toList_append, hdot, String.toList_ofList, hrest]
  · rintro ⟨rest, rfl⟩
    rw [String.toList_append, hdot]
    exact List.prefix_append _ _

/-- Only the root name stands for the root logger. -/
theorem qualify_eq_rootName_iff {name : String} : qualify name = rootName ↔ name = rootName := by
  rw [qualify]
  split
  case isTrue => exact Iff.rfl
  case isFalse hout =>
    constructor
    · intro heq
      have hlength := congrArg String.length heq
      rw [String.length_append, String.length_append] at hlength
      have hdot : ".".length = 1 := rfl
      omega
    · rintro rfl
      exact absurd (isUnderRoot_iff.mpr (.inl rfl)) hout

namespace Registry

variable {r next : Registry} {asked : List String} {name : String} {ref : HandlerRef}

/-- The loggers by name, with the number of their filters. -/
def filterCounts (r : Registry) : List (String × Nat) := r.loggers.map fun l => (l.name, l.filters)

/-- **The loggers that were asked for by name have one filter**, and the others have none. No name
has two loggers, and the root logger is always there. -/
structure Filtered (asked : List String) (r : Registry) : Prop where
  nodup : (r.filterCounts.map (·.1)).Nodup
  present : ∀ name ∈ rootName :: asked, name ∈ r.filterCounts.map (·.1)
  counts : ∀ e ∈ r.filterCounts, e.2 = if e.1 ∈ asked then 1 else 0

/-! ### What leaves filters alone -/

theorem Filtered.of_eq (h : r.Filtered asked) (heq : next.filterCounts = r.filterCounts) :
    next.Filtered asked :=
  ⟨heq ▸ h.nodup, heq ▸ h.present, heq ▸ h.counts⟩

/-- Changing a logger in other respects leaves its filters alone. -/
theorem filterCounts_updateLogger {f : Logger → Logger} (hname : ∀ l, (f l).name = l.name)
    (hfilters : ∀ l, (f l).filters = l.filters) :
    (r.updateLogger name f).filterCounts = r.filterCounts := by
  rw [filterCounts, updateLogger, List.map_map]
  refine List.map_congr_left fun l _ => ?_
  rw [Function.comp_apply]
  split
  · rw [hname, hfilters]
  · rfl

theorem filterCounts_attach : (r.attach ref name).filterCounts = r.filterCounts := by
  refine filterCounts_updateLogger name_appendHandler fun l => ?_
  rw [appendHandler]
  split <;> rfl

theorem filterCounts_detach : (r.detach ref name).filterCounts = r.filterCounts :=
  filterCounts_updateLogger (fun _ => rfl) fun _ => rfl

/-- Configuring asks for the root logger, and leaves filters alone otherwise. -/
theorem filterCounts_of_configure {level : String} {formatter : Formatter} {handler : Option String}
    {id : String} (h : r.configure level formatter handler = (next, .ok id)) :
    next.filterCounts = (r.ensureLogger rootName).filterCounts := by
  obtain ⟨⟨n, hn⟩, hknown⟩ := known_of_configure (congrArg Prod.snd h)
  obtain ⟨given, hgiven⟩ := exists_givenHandler hknown
  rw [configure_eq hn hgiven] at h
  obtain rfl : _ = next := congrArg Prod.fst h
  have hprovided (c : Registry) : (c.provideHandler given).1.filterCounts = c.filterCounts := by
    cases given <;> rfl
  have hcleared : ((r.leveled n).cleared given).filterCounts = (r.leveled n).filterCounts :=
    foldl_retire_eq filterCounts fun _ _ => filterCounts_detach
  have hleveled : (r.leveled n).filterCounts = (r.ensureLogger rootName).filterCounts :=
    filterCounts_updateLogger (fun _ => rfl) fun _ => rfl
  exact filterCounts_attach.trans ((hprovided _).trans (hcleared.trans hleveled))

/-! ### Asking for a logger -/

theorem isSome_logger?_iff :
    (r.logger? name).isSome = true ↔ name ∈ r.filterCounts.map (·.1) := by
  rw [logger?, List.find?_isSome, filterCounts, List.map_map, List.mem_map]
  simp

/-- A logger that is made has no filter. -/
theorem filterCounts_ensureLogger : (r.ensureLogger name).filterCounts =
    r.filterCounts ++ if name ∈ r.filterCounts.map (·.1) then [] else [(name, 0)] := by
  rw [ensureLogger]
  by_cases hthere : name ∈ r.filterCounts.map (·.1)
  · rw [if_pos (isSome_logger?_iff.mpr hthere), if_pos hthere, List.append_nil]
  · rw [if_neg fun hsome => hthere (isSome_logger?_iff.mp hsome), if_neg hthere, filterCounts,
      List.map_append]
    rfl

theorem mem_ensureLogger : name ∈ (r.ensureLogger name).filterCounts.map (·.1) := by
  rw [filterCounts_ensureLogger]
  split
  case isTrue hthere => rwa [List.append_nil]
  case isFalse =>
    rw [List.map_append]
    exact List.mem_append_right _ List.mem_cons_self

/-- Making a logger that nobody asked for by name keeps the others as they are. -/
theorem Filtered.ensureLogger (h : r.Filtered asked) (name : String) :
    (r.ensureLogger name).Filtered asked := by
  have hcounts := @filterCounts_ensureLogger r name
  split at hcounts
  case isTrue => exact h.of_eq (hcounts.trans (List.append_nil _))
  case isFalse hnew =>
    have hnot : name ∉ asked := fun hasked => hnew (h.present name (List.mem_cons_of_mem _ hasked))
    refine ⟨?_, fun other hother => ?_, fun e he => ?_⟩
    · rw [hcounts, List.map_append]
      exact List.concat_eq_append ▸ h.nodup.concat hnew
    · rw [hcounts, List.map_append]
      exact List.mem_append_left _ (h.present other hother)
    · rw [hcounts, List.mem_append, List.mem_singleton] at he
      rcases he with he | rfl
      · exact h.counts e he
      · rw [if_neg hnot]

/-- A logger gets a filter unless it has one. -/
theorem filterCounts_addFilter : (r.updateLogger name addFilter).filterCounts =
    r.filterCounts.map fun e => if e.1 = name ∧ e.2 = 0 then (e.1, 1) else e := by
  rw [filterCounts, filterCounts, updateLogger, List.map_map, List.map_map]
  refine List.map_congr_left fun l _ => ?_
  rw [Function.comp_apply, Function.comp_apply, addFilter]
  by_cases hname : l.name = name <;> by_cases hfilters : l.filters = 0 <;> simp [hname, hfilters]

/-- Giving a logger a filter is what asking for it by name does. -/
theorem Filtered.addFilter (h : r.Filtered asked) (hthere : name ∈ r.filterCounts.map (·.1)) :
    (r.updateLogger name addFilter).Filtered (asked ++ [name]) := by
  have hnames : (r.updateLogger name Registry.addFilter).filterCounts.map (·.1) =
      r.filterCounts.map (·.1) := by
    rw [filterCounts_addFilter, List.map_map]
    refine List.map_congr_left fun e _ => ?_
    rw [Function.comp_apply]
    split <;> rfl
  refine ⟨hnames ▸ h.nodup, fun other hother => ?_, fun e he => ?_⟩
  · rw [hnames]
    rw [← List.cons_append, List.mem_append, List.mem_singleton] at hother
    rcases hother with hother | rfl
    · exact h.present other hother
    · exact hthere
  · rw [filterCounts_addFilter] at he
    obtain ⟨before, hbefore, rfl⟩ := List.mem_map.mp he
    have hcount := h.counts before hbefore
    by_cases hname : before.1 = name
    · -- the one that is asked for had a filter before, or gets one now
      rw [hname] at hcount
      by_cases hasked : name ∈ asked
      · simp [hname, hcount, hasked]
      · simp [hname, hcount, hasked]
    · simp [hname, hcount]

/-- **Asking for a logger** gives it a filter if it is asked for by name. -/
theorem Filtered.getLogger (h : r.Filtered asked) (name : Option String) :
    (r.getLogger name).1.Filtered (asked ++ (name.map qualify).toList) := by
  cases name with
  | none =>
      rw [Option.map_none, Option.toList_none, List.append_nil]
      exact h.ensureLogger rootName
  | some name => exact (h.ensureLogger _).addFilter mem_ensureLogger

/-- There is one logger of a name. -/
theorem Filtered.countP_eq_one (h : r.Filtered asked) (hthere : name ∈ r.filterCounts.map (·.1)) :
    r.loggers.countP (·.name = name) = 1 := by
  have hnames : r.filterCounts.map (·.1) = r.loggers.map (·.name) := List.map_map
  have hone := List.count_eq_one_of_mem h.nodup hthere
  rw [hnames, List.count, List.countP_map] at hone
  exact hone

/-- What is found under a name is a logger with as many filters as it should have. -/
theorem Filtered.exists_logger? (h : r.Filtered asked)
    (hthere : name ∈ r.filterCounts.map (·.1)) :
    ∃ l, r.logger? name = some l ∧ l.filters = if name ∈ asked then 1 else 0 := by
  obtain ⟨l, hl⟩ := Option.isSome_iff_exists.mp (isSome_logger?_iff.mpr hthere)
  have hcount := h.counts (l.name, l.filters) (List.mem_map_of_mem (List.mem_of_find?_eq_some hl))
  rw [name_of_logger? hl] at hcount
  exact ⟨l, hl, hcount⟩

/-- Asking for a logger that is there makes no other. -/
theorem names_getLogger (hthere : qualify name ∈ r.filterCounts.map (·.1)) :
    (r.getLogger (some name)).1.loggers.map (·.name) = r.loggers.map (·.name) := by
  have hsame : r.ensureLogger (qualify name) = r := if_pos (isSome_logger?_iff.mpr hthere)
  rw [getLogger, hsame]
  dsimp only
  rw [updateLogger, List.map_map]
  refine List.map_congr_left fun l _ => ?_
  rw [Function.comp_apply]
  split
  · exact name_addFilter l
  · rfl

end Registry

end Log

/-- The name, in full, of the logger that is asked for by a name or without one. -/
def fullName : Option String → String
  | none => rootName
  | some name => qualify name

/-- The name by which a step asks for a logger. -/
def Step.asks? : Step → Option String
  | .getLogger name | .attach _ name | .detach _ name | .log name _ _ _ | .logPlain name _ _ _ =>
    name
  | _ => none

/-- The names, in full, of the loggers that were asked for by name when steps are done: that of the
logger for rewrites, which is there from the beginning, and those that the steps ask for. -/
def askedBy (steps : List Step) : List String :=
  converterName :: (steps.filterMap Step.asks?).map qualify

namespace Session

variable {s : Session} {asked : List String}

/-- **One step** gives a filter to the logger that it asks for by name. -/
theorem filtered_step (h : s.registry.Filtered asked) (x : Step) :
    (s.step x).next.registry.Filtered (asked ++ (x.asks?.map qualify).toList) := by
  have hnothing {next : Registry} (hnext : next.Filtered asked) :
      next.Filtered (asked ++ ((none : Option String).map qualify).toList) := by
    rwa [Option.map_none, Option.toList_none, List.append_nil]
  cases x with
  | getLogger name => exact h.getLogger name
  | log name | logPlain name => exact h.getLogger name
  | attach id name =>
      rw [step]
      dsimp only
      split
      · exact (h.getLogger name).of_eq Registry.filterCounts_attach
      · exact h.getLogger name
  | detach id name =>
      rw [step]
      dsimp only
      split
      · exact (h.getLogger name).of_eq Registry.filterCounts_detach
      · exact h.getLogger name
  | configure level structured handler =>
      refine hnothing ?_
      cases hconfigure : s.registry.configure level (formatterOf structured) handler with
      | mk registry outcome =>
          rw [step_of_configure hconfigure]
          cases outcome with
          | ok id =>
              exact (h.ensureLogger rootName).of_eq (Registry.filterCounts_of_configure hconfigure)
          | error fault =>
              obtain rfl | rfl := Registry.eq_of_configure_error hconfigure
              · exact h
              · exact h.ensureLogger rootName
  | makeHandler => exact hnothing (h.of_eq rfl)
  | rewrite | convert =>
      refine hnothing ?_
      rw [step]
      split <;> exact h
  | _ => exact hnothing h

/-- **A run** gives filters to the loggers that its steps ask for by name. -/
theorem filtered_run {steps : List Step} (h : s.registry.Filtered asked) :
    (s.run steps).1.registry.Filtered (asked ++ (steps.filterMap Step.asks?).map qualify) := by
  induction steps generalizing s asked with
  | nil => rwa [List.filterMap_nil, List.map_nil, List.append_nil]
  | cons x rest ih =>
      have hrest := ih (filtered_step h x)
      rw [List.append_assoc] at hrest
      have hsplit : ((x :: rest).filterMap Step.asks?).map qualify =
          (x.asks?.map qualify).toList ++ (rest.filterMap Step.asks?).map qualify := by
        cases hx : x.asks? <;> simp [hx]
      rw [hsplit]
      exact hrest

theorem filtered_start {host : Host} {origin : Origin} :
    (Session.start host origin).registry.Filtered [converterName] := by
  have hinitial : Registry.initial.Filtered [converterName] := ⟨by decide, by decide, by decide⟩
  exact hinitial

/-- Which loggers have a filter in a session, at any time. -/
theorem filtered_session (host : Host) (origin : Origin) (steps : List Step) :
    ((Session.start host origin).run steps).1.registry.Filtered (askedBy steps) :=
  filtered_run filtered_start

/-! ### What asking for a logger gives -/

/-- The root logger was asked for by name if its own name was used. -/
theorem rootName_mem_askedBy_iff {steps : List Step} :
    rootName ∈ askedBy steps ↔ rootName ∈ steps.filterMap Step.asks? := by
  have hconverter : rootName ≠ converterName := by decide
  rw [askedBy, List.mem_cons, or_iff_right hconverter, List.mem_map]
  constructor
  · rintro ⟨name, hname, hroot⟩
    rwa [← qualify_eq_rootName_iff.mp hroot]
  · intro hroot
    exact ⟨rootName, hroot, qualify_eq_rootName_iff.mpr rfl⟩

/-- A logger that a step asks for was asked for by name when the steps are done, unless none of them
has the name of the root logger, for which this one had no name. -/
theorem fullName_mem_askedBy_iff {before after : List Step} {name : Option String} :
    fullName name ∈ askedBy (before ++ .getLogger name :: after) ↔
      ¬(name = none ∧ rootName ∉ (before ++ after).filterMap Step.asks?) := by
  cases name with
  | none =>
      have hskip : (before ++ .getLogger none :: after).filterMap Step.asks? =
          (before ++ after).filterMap Step.asks? := by
        rw [List.filterMap_append, List.filterMap_append]
        rfl
      rw [fullName, rootName_mem_askedBy_iff, hskip, not_and, imp_iff_right rfl, not_not]
  | some name =>
      have hmem : name ∈ (before ++ .getLogger (some name) :: after).filterMap Step.asks? :=
        List.mem_filterMap.mpr ⟨_, List.mem_append_right _ List.mem_cons_self, rfl⟩
      exact iff_of_true (List.mem_cons_of_mem _ (List.mem_map_of_mem hmem)) (by simp)

/-- It is there, in any case. -/
theorem fullName_mem_filterCounts {r : Registry} {before after : List Step} {name : Option String}
    (h : r.Filtered (askedBy (before ++ .getLogger name :: after))) :
    fullName name ∈ r.filterCounts.map (·.1) := by
  refine h.present _ ?_
  cases name with
  | none => exact List.mem_cons_self
  | some name => exact List.mem_cons_of_mem _ (fullName_mem_askedBy_iff.mpr (by simp))

/-- The logger that is asked for is under the root name, and its full name stands for itself. -/
theorem isUnderRoot_fullName (name : Option String) : isUnderRoot (fullName name) = true := by
  cases name with
  | none => exact isUnderRoot_iff.mpr (.inl rfl)
  | some name => exact isUnderRoot_qualify

/-- What asking for a logger answers, after any steps. -/
theorem answer_getLogger (host : Host) (origin : Origin) (before : List Step)
    (name : Option String) :
    ∃ level, (((Session.start host origin).run before).1.step (.getLogger name)).answer =
      .ok (.logger (fullName name)
        (if name = none ∧ rootName ∉ before.filterMap Step.asks? then 0 else 1) level) := by
  obtain ⟨s, hs⟩ : ∃ s, s = ((Session.start host origin).run before).1 := ⟨_, rfl⟩
  have hnext : (s.registry.getLogger name).1.Filtered
      (askedBy (before ++ [.getLogger name])) := by
    have hrun := filtered_session host origin (before ++ [.getLogger name])
    rw [run_append, ← hs] at hrun
    exact hrun
  obtain ⟨l, hl, hcount⟩ := hnext.exists_logger? (fullName_mem_filterCounts hnext)
  have hasked := @fullName_mem_askedBy_iff before [] name
  rw [List.append_nil] at hasked
  rw [if_congr hasked rfl rfl, ite_not] at hcount
  have hfull : (s.registry.getLogger name).2 = fullName name := by cases name <;> rfl
  refine ⟨(s.registry.getLogger name).1.effectiveLevel (fullName name), ?_⟩
  rw [← hs, ← hcount, step, asking]
  dsimp only
  rw [hfull, hl]
  rfl

/-- **What asking for a logger gives**, after any steps. Its name is the root name or begins with it
and a dot. It has one filter, except if it was asked for without a name, and nobody had asked for
the root logger by its name: then it has none. After any further steps it is the only logger of its
name, and it still has one filter, unless it has none for the same reason; and whoever asks for it
by the name that was handed out gets it again, with one filter. -/
theorem filters_of_getLogger (host : Host) (origin : Origin) (before after : List Step)
    (name : Option String) :
    let s := ((Session.start host origin).run before).1
    let last := ((s.step (.getLogger name)).next.run after).1
    ∃ full level,
      (s.step (.getLogger name)).answer = .ok (.logger full
        (if name = none ∧ rootName ∉ before.filterMap Step.asks? then 0 else 1) level) ∧
      (full = rootName ∨ ∃ rest, full = rootName ++ "." ++ rest) ∧
      last.registry.loggers.countP (·.name = full) = 1 ∧
      (∀ l ∈ last.registry.loggers, l.name = full → l.filters =
        if name = none ∧ rootName ∉ (before ++ after).filterMap Step.asks? then 0 else 1) ∧
      ∃ level, (last.step (.getLogger (some full))).answer = .ok (.logger full 1 level) ∧
        (last.step (.getLogger (some full))).next.registry.loggers.map (·.name) =
          last.registry.loggers.map (·.name) := by
  intro s last
  have hlast : last.registry.Filtered (askedBy (before ++ .getLogger name :: after)) := by
    have hrun := filtered_session host origin (before ++ .getLogger name :: after)
    rwa [run_append] at hrun
  have hthere := fullName_mem_filterCounts hlast
  have hqualify : qualify (fullName name) = fullName name := if_pos (isUnderRoot_fullName name)
  obtain ⟨level, hanswer⟩ := answer_getLogger host origin before name
  refine ⟨fullName name, level, hanswer, isUnderRoot_iff.mp (isUnderRoot_fullName name),
    hlast.countP_eq_one hthere, fun l hl hname => ?_, ?_⟩
  · have hcount := hlast.counts (l.name, l.filters) (List.mem_map_of_mem hl)
    dsimp only at hcount
    rw [hcount, hname, if_congr fullName_mem_askedBy_iff rfl rfl, ite_not]
  · obtain ⟨level, hagain⟩ :=
      answer_getLogger host origin (before ++ .getLogger name :: after) (some (fullName name))
    rw [run_append, if_neg (by simp), fullName, hqualify] at hagain
    exact ⟨level, hagain, Registry.names_getLogger (hqualify.symm ▸ hthere)⟩

/-- In a new session the root logger, asked for without a name, has no filter. -/
theorem getLogger_unfiltered :
    ∃ level, ((Session.start (.quiet 0) ⟨"m", none, 1⟩).step (.getLogger none)).answer =
        .ok (.logger rootName 0 level) ∧
      ∀ full level, ((Session.start (.quiet 0) ⟨"m", none, 1⟩).step (.getLogger none)).answer ≠
        .ok (.logger full 1 level) := by
  refine ⟨_, rfl, fun full level h => ?_⟩
  injection h with h
  injection h with _ hfilters
  nomatch hfilters

end Session

end SqlBind
