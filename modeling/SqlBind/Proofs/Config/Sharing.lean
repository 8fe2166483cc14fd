import SqlBind.Proofs.Config.Holding
import SqlBind.Proofs.Config.Integral
import SqlBind.Session

/-!
# Who Shares a Configuration

A workspace finds the configuration of a holder behind a reference. This module says without
references what a holder sees after a run: what its configuration was made with, changed by the
assignments that were made since then through the holders that share it (`Workspace.Isolated`).

To a run belong the events in which it made a configuration, let a converter share one, or assigned
a setting (`Session.events`). What carries the proof is that the configurations of a workspace are
those that were made, in the same order: the reference of a holder is the place of the one that it
holds (`Workspace.Traced`). A step comes to one event or to none, and keeps track of them.

Comparing is left out. It may change the values that it compares, wherever they are.

## Main definitions

* `Workspace.event?` and `Session.events`: the event of a step, and the events of a run.
* `Workspace.Becomes`: what an event makes of a workspace.
* `Workspace.Traced`: the configurations of a workspace are the given ones.
* `Workspace.Isolated`: what holders see follows from the events.

## Main results

* `Workspace.Traced.becomes`: an event keeps track of the configurations.
* `Session.traced_step` and `Session.traced_run`: so does a step, and a run.
* `Session.isolated_run`: after a run, configurations are isolated.
-/

namespace SqlBind

namespace Config

variable {c : Config} {name : String} {v : Value}

/-- An assignment to a setting succeeds, whatever is assigned. -/
theorem assign_eq_ok {setting : Setting} (h : Setting.ofName? name = some setting) :
    c.assign name v = .ok (c.set setting v) := by
  unfold assign
  rw [h]

/-- An assignment to anything else fails. -/
theorem exists_assign_eq_error (c : Config) (v : Value) (h : Setting.ofName? name = none) :
    ∃ fault, c.assign name v = .error fault := by
  unfold assign
  rw [h]
  exact ⟨_, rfl⟩

end Config

namespace Workspace

variable {w w' : Workspace} {hs : List Holding} {e : Event}

/-! ### What events make of a workspace -/

/-- What an event makes of a workspace: which configurations there are, what they hold, and which of
them the holders refer to. -/
inductive Becomes (w w' : Workspace) : Event → Prop
  | made {t : Target} {c : Config} : w'.objects.length = w.objects.length + 1 →
      w'.read w.objects.length = c → (∀ r < w.objects.length, w'.read r = w.read r) →
      (∀ u, w'.ref? u = if u = t then some w.objects.length else w.ref? u) →
      Becomes w w' (.made t c)
  | shared {converter : String} {source : Target} {r : ConfigRef} : w.ref? source = some r →
      w'.objects.length = w.objects.length → (∀ r, w'.read r = w.read r) →
      (∀ u, w'.ref? u = if u = .converter converter then some r else w.ref? u) →
      Becomes w w' (.shared converter source)
  | assigned {t : Target} {setting : Setting} {v : Value} {r : ConfigRef} : w.ref? t = some r →
      w'.objects.length = w.objects.length →
      (∀ r', w'.read r' = if r' = r then (w.read r).set setting v else w.read r') →
      (∀ u, w'.ref? u = w.ref? u) → Becomes w w' (.assigned t setting v)

/-- The configuration behind a reference is the given one: it has its settings, and its holders are
those that refer to it. -/
structure Holds (w : Workspace) (r : ConfigRef) (h : Holding) : Prop where
  fields : w.read r = h.fields
  holders : ∀ u, h.holders u = true ↔ w.ref? u = some r

/-- The converter in each rewriter logs with the configuration that the rewriter shows. -/
def Inner (w : Workspace) : Prop := ∀ e ∈ w.rewriters, e.2.used = e.2.shown

/-- **The configurations of a workspace are the given ones**, in their order, and nothing else is
referred to. -/
structure Traced (w : Workspace) (hs : List Holding) : Prop where
  length : hs.length = w.objects.length
  holds : ∀ r h, hs[r]? = some h → w.Holds r h
  valid : ∀ u r, w.ref? u = some r → r < w.objects.length
  inner : w.Inner

/-- What holds a configuration before an event holds what the event makes of it afterwards. -/
theorem Holds.becomes {r : ConfigRef} {h : Holding} (hr : w.Holds r h)
    (hlt : r < w.objects.length) (hw : w.Becomes w' e) : w'.Holds r (h.after e) := by
  cases hw with
  | @made t c _ _ hread href =>
      refine ⟨(hread r hlt).trans hr.fields, fun u => ?_⟩
      have hne : w.objects.length ≠ r := Nat.ne_of_gt hlt
      rw [href, Holding.after]
      by_cases hu : u = t
      · simp [hu, hne]
      · simp [hu, hr.holders]
  | @shared converter source r₀ hsource _ hread href =>
      refine ⟨(hread r).trans hr.fields, fun u => ?_⟩
      rw [href, Holding.after]
      by_cases hu : u = .converter converter
      · simp [hu, hr.holders, hsource]
      · simp [hu, hr.holders]
  | @assigned t setting v r₀ ht _ hread href =>
      rw [Holding.after]
      by_cases hheld : h.holders t = true
      · -- the assignment comes through a holder, so it is the one behind this reference
        obtain rfl : r₀ = r := Option.some.inj (ht.symm.trans ((hr.holders t).mp hheld))
        rw [if_pos hheld]
        refine ⟨?_, fun u => ?_⟩
        · rw [hread, if_pos rfl, hr.fields]
        · rw [href]
          exact hr.holders u
      · have hne : r ≠ r₀ := by
          rintro rfl
          exact hheld ((hr.holders t).mpr ht)
        rw [if_neg hheld]
        refine ⟨?_, fun u => ?_⟩
        · rw [hread, if_neg hne, hr.fields]
        · rw [href]
          exact hr.holders u

/-- A configuration that was just made is held by its maker alone. -/
theorem holds_made {t : Target} {c : Config} (hvalid : ∀ u r, w.ref? u = some r →
    r < w.objects.length) (hw : w.Becomes w' (.made t c)) :
    w'.Holds w.objects.length (.made t c) := by
  cases hw with
  | made _ hnew _ href =>
      refine ⟨hnew, fun u => ?_⟩
      rw [href]
      by_cases hu : u = t
      · simp [Holding.made, hu]
      · have hother : w.ref? u ≠ some w.objects.length := fun hr =>
          Nat.lt_irrefl _ (hvalid u _ hr)
        simp [Holding.made, hu, hother]

/-- There are as many configurations more as an event makes. -/
theorem Becomes.length (hw : w.Becomes w' e) :
    w'.objects.length = w.objects.length + (holdings [e]).length := by
  cases hw with
  | made hlength | shared _ hlength | assigned _ hlength => exact hlength

/-- An event leaves nothing that refers beyond the configurations. -/
theorem Becomes.valid (hw : w.Becomes w' e)
    (hvalid : ∀ u r, w.ref? u = some r → r < w.objects.length) :
    ∀ u r, w'.ref? u = some r → r < w'.objects.length := by
  intro u r hr
  cases hw with
  | made hlength _ _ href =>
      rw [href] at hr
      rw [hlength]
      split at hr
      · obtain rfl := Option.some.inj hr
        exact Nat.lt_succ_self _
      · exact Nat.lt_succ_of_lt (hvalid u r hr)
  | shared hsource hlength _ href =>
      rw [href] at hr
      rw [hlength]
      split at hr
      · obtain rfl := Option.some.inj hr
        exact hvalid _ _ hsource
      · exact hvalid u r hr
  | assigned _ hlength _ href =>
      rw [href] at hr
      rw [hlength]
      exact hvalid u r hr

/-- **An event keeps track of the configurations.** -/
theorem Traced.becomes (h : w.Traced hs) (hw : w.Becomes w' e) (hinner : w'.Inner) :
    w'.Traced (hs.map (·.after e) ++ holdings [e]) := by
  refine ⟨?_, fun r h' hget => ?_, hw.valid h.valid, hinner⟩
  · rw [List.length_append, List.length_map, h.length, hw.length]
  · rw [List.getElem?_append] at hget
    split at hget
    · rw [List.getElem?_map] at hget
      obtain ⟨h₀, hh₀, rfl⟩ := Option.map_eq_some_iff.mp hget
      have hlt : r < w.objects.length := h.length ▸ (List.getElem?_eq_some_iff.mp hh₀).1
      exact (h.holds r h₀ hh₀).becomes hlt hw
    · -- behind those that were there stands the one that was made, if one was
      rename_i hge
      rw [List.length_map, h.length] at hge hget
      cases e with
      | made t c =>
          obtain ⟨hzero, rfl⟩ : r - w.objects.length = 0 ∧ Holding.made t c = h' := by
            simpa [holdings, Holding.follow, List.getElem?_singleton] using hget
          obtain rfl : r = w.objects.length :=
            Nat.le_antisymm (Nat.sub_eq_zero_iff_le.mp hzero) (Nat.not_lt.mp hge)
          exact holds_made h.valid hw
      | shared | assigned => cases hget

/-! ### What operations come to -/

/-- What a copy of the configuration behind a holder starts with: the settings that are seen there,
unless the check refuses them. -/
def copied? (w : Workspace) (source : Target) : Option Config :=
  (w.look source).toOption.filter fun c => c.validate.isOk

/-- The event of a step, if it makes, shares or changes a configuration. One that is made from
settings has these, and the defaults for the others; a copy, and what a rewriter is made with, has
the settings of its source. -/
def event? (w : Workspace) : Step → Option Event
  | .makeConfig id settings =>
    if (Config.create settings).isOk then
      some (.made (.config id) (Config.default.override settings))
    else none
  | .makeCopy id source => (w.copied? source).map (.made (.config id))
  | .makeRewriter id (some source) => (w.copied? source).map (.made (.rewriter id))
  | .makeRewriter id none => some (.made (.rewriter id) .default)
  | .makeConverter id (some source) => (w.ref? source).map fun _ => .shared id source
  | .makeConverter id none => some (.made (.converter id) .default)
  | .assign t name v => (w.ref? t).bind fun _ => (Setting.ofName? name).map (.assigned t · v)
  | _ => none

/-- What is done to a workspace comes to an event and succeeds, or there is no event, and it fails
and changes nothing. -/
def Does (w : Workspace) (event : Option Event) (done : Workspace × Outcome Unit) : Prop :=
  match event with
  | some e => done.2 = .ok () ∧ w.Becomes done.1 e ∧ (w.Inner → done.1.Inner)
  | none => (∃ fault, done.2 = .error fault) ∧ done.1 = w

variable {t source : Target} {r : ConfigRef} {id : String}

theorem ref_eq_ok (h : w.ref? t = some r) : w.ref t = .ok r := by
  unfold ref
  rw [h]

theorem exists_ref_eq_error (h : w.ref? t = none) : ∃ fault, w.ref t = .error fault := by
  unfold ref
  rw [h]
  cases t <;> exact ⟨_, rfl⟩

theorem look_eq_ok (h : w.ref? t = some r) : w.look t = .ok (w.read r) := by
  rw [look, ref_eq_ok h]
  rfl

/-- What a holder sees is what its reference stands for. -/
theorem look_eq_ok_iff {c : Config} :
    w.look t = .ok c ↔ ∃ r, w.ref? t = some r ∧ w.read r = c := by
  cases href : w.ref? t with
  | some r => simp [look_eq_ok href]
  | none =>
      obtain ⟨fault, hfault⟩ := exists_ref_eq_error href
      rw [look, hfault]
      simp [bind, Except.bind]

theorem byName?_cons {α : Type} (name : String) (a : α) (holders : List (String × α)) :
    byName? ((name, a) :: holders) id = if name = id then some a else byName? holders id := by
  unfold byName?
  rw [List.find?_cons]
  by_cases h : name = id <;> simp [h]

/-- A new holder refers to what it is given; the others refer to what they did. -/
theorem ref?_hold (u : Target) : (w.hold r t).ref? u = if u = t then some r else w.ref? u := by
  cases t with
  | config id =>
      cases u with
      | config id' => simp [hold, ref?, byName?_cons, eq_comm]
      | rewriter | converter => simp [hold, ref?]
  | rewriter id =>
      cases u with
      | rewriter id' =>
          by_cases h : id = id'
          · simp [hold, ref?, byName?_cons, h]
          · simp [hold, ref?, byName?_cons, h, Ne.symm h]
      | config | converter => simp [hold, ref?]
  | converter id =>
      cases u with
      | converter id' => simp [hold, ref?, byName?_cons, eq_comm]
      | config | rewriter => simp [hold, ref?]

theorem objects_hold : (w.hold r t).objects = w.objects := by
  cases t <;> rfl

theorem read_hold (r' : ConfigRef) : (w.hold r t).read r' = w.read r' := by
  cases t <;> rfl

/-- A rewriter that is made refers to one configuration twice. -/
theorem inner_hold (h : w.Inner) : (w.hold r t).Inner := by
  cases t with
  | rewriter id => exact List.forall_mem_cons.mpr ⟨rfl, h⟩
  | config | converter => exact h

/-- **A configuration that is added** is the last one, and is held by its maker. -/
theorem does_held_adopt {o : ConfigObject} (hobjects : w'.objects = w.objects ++ [o])
    (href : ∀ u, w'.ref? u = w.ref? u) (hrewriters : w'.rewriters = w.rewriters) :
    w.Does (some (.made t o.values)) (held t (w', .ok w.objects.length)) := by
  refine ⟨rfl, .made ?_ ?_ (fun r hr => ?_) fun u => ?_, fun h => inner_hold ?_⟩
  · simp [held, objects_hold, hobjects]
  · refine (read_hold _).trans ?_
    simp [read, object, hobjects]
  · refine (read_hold _).trans ?_
    simp [read, object, hobjects, List.getElem?_append_left hr]
  · rw [held, ref?_hold, href]
  · rw [Inner, hrewriters]
    exact h

/-- A configuration of new values is added. -/
theorem does_held_add (c : Config) : w.Does (some (.made t c)) (held t (w.add (.ok c))) := by
  refine @does_held_adopt _ (w.allocate c).1 t ⟨c, _⟩ rfl (fun u => ?_) rfl
  cases u <;> rfl

/-- **A copy is added** if there is something to copy and the check accepts it. -/
theorem does_held_duplicate :
    w.Does ((w.copied? source).map (.made t)) (held t (w.duplicate source)) := by
  rw [copied?, duplicate]
  cases href : w.ref? source with
  | none =>
      obtain ⟨fault, hfault⟩ := exists_ref_eq_error href
      rw [look, hfault]
      exact ⟨⟨fault, rfl⟩, rfl⟩
  | some r =>
      rw [look_eq_ok href, ref_eq_ok href]
      dsimp only
      cases hcopy : (w.read r).copy with
      | error fault =>
          have hrefused : (w.read r).validate.isOk = false := by
            rw [Config.copy] at hcopy
            rw [hcopy]
            rfl
          rw [Except.toOption, Option.filter_some, hrefused]
          exact ⟨⟨fault, rfl⟩, rfl⟩
      | ok values =>
          have hok : (w.read r).validate.isOk = true := by
            rw [Config.copy] at hcopy
            rw [hcopy]
            rfl
          obtain rfl : values = w.read r := Config.eq_of_validate hcopy
          rw [Except.toOption, Option.filter_some, hok]
          refine @does_held_adopt _ (w.adopt (w.object r)).1 t (w.object r) rfl (fun u => ?_) rfl
          cases u <;> rfl

theorem does_makeConfig {settings : List (String × Value)} :
    w.Does (w.event? (.makeConfig id settings)) (w.makeConfig id settings) := by
  rw [event?, makeConfig]
  cases hcreate : Config.create settings with
  | error fault => exact ⟨⟨fault, rfl⟩, rfl⟩
  | ok c =>
      obtain rfl := Config.eq_of_create hcreate
      exact does_held_add _

theorem does_makeRewriter {source : Option Target} :
    w.Does (w.event? (.makeRewriter id source)) (w.makeRewriter id source) := by
  cases source with
  | none => exact does_held_add _
  | some source => exact does_held_duplicate

theorem does_makeConverter {source : Option Target} :
    w.Does (w.event? (.makeConverter id source)) (w.makeConverter id source) := by
  cases source with
  | none => exact does_held_add _
  | some source =>
      rw [event?, makeConverter]
      cases href : w.ref? source with
      | none =>
          obtain ⟨fault, hfault⟩ := exists_ref_eq_error href
          rw [hfault]
          exact ⟨⟨fault, rfl⟩, rfl⟩
      | some r =>
          rw [ref_eq_ok href]
          exact ⟨rfl, .shared href (by rw [held, objects_hold]) read_hold ref?_hold, inner_hold⟩

/-- What is written is read, and nothing else is disturbed. -/
theorem read_write {o : ConfigObject} (h : r < w.objects.length) (r' : ConfigRef) :
    (w.write r o).read r' = if r' = r then o.values else w.read r' := by
  by_cases heq : r' = r
  · subst heq
    simp [read, object, write, List.getElem?_set_self h]
  · simp [read, object, write, List.getElem?_set_ne (Ne.symm heq), heq]

theorem does_assign {name : String} {v : Value}
    (hvalid : ∀ r, w.ref? t = some r → r < w.objects.length) :
    w.Does (w.event? (.assign t name v)) (w.assign t name v) := by
  rw [event?, assign]
  cases href : w.ref? t with
  | none =>
      obtain ⟨fault, hfault⟩ := exists_ref_eq_error href
      rw [hfault]
      exact ⟨⟨fault, rfl⟩, rfl⟩
  | some r =>
      rw [ref_eq_ok href]
      dsimp only
      cases hname : Setting.ofName? name with
      | none =>
          obtain ⟨fault, hfault⟩ := (w.read r).exists_assign_eq_error v hname
          rw [hfault]
          exact ⟨⟨fault, rfl⟩, rfl⟩
      | some setting =>
          rw [Config.assign_eq_ok hname]
          refine ⟨rfl, .assigned href ?_ (fun r' => ?_) fun u => ?_, fun h => h⟩
          · exact List.length_set
          · exact read_write (hvalid r href) r'
          · cases u <;> rfl

end Workspace

/-! ### Runs -/

namespace Session

open Workspace

variable {s : Session} {hs : List Holding}

/-- The events of a run, in order. -/
def events (s : Session) : List Step → List Event
  | [] => []
  | x :: rest => (s.workspace.event? x).toList ++ (s.step x).next.events rest

/-- What comes to an event keeps track of the configurations. -/
theorem traced_changing {before : List Event} {event : Option Event}
    {done : Workspace × Outcome Unit} {t : Target} (h : s.workspace.Traced (holdings before))
    (hdoes : s.workspace.Does event done) :
    (s.changing done t).next.workspace.Traced (holdings (before ++ event.toList)) := by
  change done.1.Traced _
  cases event with
  | none =>
      rw [hdoes.2, Option.toList_none, List.append_nil]
      exact h
  | some e =>
      obtain ⟨-, hbecomes, hinner⟩ := hdoes
      rw [Option.toList_some, holdings_append]
      exact h.becomes hbecomes (hinner h.inner)

/-- **A step keeps track of the configurations**, unless it compares. -/
theorem traced_step {before : List Event} (h : s.workspace.Traced (holdings before)) {x : Step}
    (hx : ∀ a b, x ≠ .compare a b) :
    (s.step x).next.workspace.Traced (holdings (before ++ (s.workspace.event? x).toList)) := by
  have hsame {next : Workspace} (hnext : next = s.workspace) :
      next.Traced (holdings (before ++ [])) := by
    rw [hnext, List.append_nil]
    exact h
  cases x with
  | compare a b => exact absurd rfl (hx a b)
  | makeConfig => exact traced_changing h does_makeConfig
  | makeCopy => exact traced_changing h does_held_duplicate
  | makeRewriter => exact traced_changing h does_makeRewriter
  | makeConverter => exact traced_changing h does_makeConverter
  | assign => exact traced_changing h (does_assign (h.valid _))
  | rewrite | convert | attach | detach =>
      refine hsame ?_
      simp only [step]
      split <;> rfl
  | _ => exact hsame rfl

/-- **A run keeps track of the configurations**, unless it compares. -/
theorem traced_run {before : List Event} {steps : List Step}
    (h : s.workspace.Traced (holdings before)) (hsteps : ∀ a b, .compare a b ∉ steps) :
    (s.run steps).1.workspace.Traced (holdings (before ++ s.events steps)) := by
  induction steps generalizing s before with
  | nil =>
      rw [events, List.append_nil]
      exact h
  | cons x rest ih =>
      have hx : ∀ a b, x ≠ .compare a b := fun a b heq => hsteps a b (heq ▸ List.mem_cons_self)
      have hrest := ih (traced_step h hx) fun a b hmem => hsteps a b (List.mem_cons_of_mem _ hmem)
      rw [List.append_assoc] at hrest
      exact hrest

/-- In the beginning nothing was made. -/
theorem traced_start (host : Log.Host) (origin : Log.Origin) :
    (Session.start host origin).workspace.Traced (holdings []) where
  length := rfl
  holds _ _ hget := nomatch hget
  valid u r hr := by cases u <;> nomatch hr
  inner := List.forall_mem_nil _

end Session

/-! ### Isolation -/

namespace Workspace

variable {w : Workspace} {events : List Event}

/-- **Configurations are isolated**: after some events, what a holder sees, who shares it with whom,
and what rewriters log with, is as it should be. -/
structure Isolated (w : Workspace) (events : List Event) : Prop where
  /-- A holder sees the configuration that it holds: what that was made with, changed by the
  assignments that were made through its holders. -/
  seen : ∀ t c, w.look t = .ok c ↔ ∃ before u made later, events = before ++ .made u made :: later ∧
    ((Holding.made u made).follow later).holders t = true ∧
      ((Holding.made u made).follow later).fields = c
  /-- Its holders are those that refer to one object. -/
  shared : ∀ h ∈ holdings events, ∀ t u, h.holders t = true →
    (h.holders u = true ↔ w.ref? u = w.ref? t)
  /-- Only converters that were made from it hold it beside its maker, and nobody does if there are
  none. -/
  confined : ∀ h ∈ holdings events, h.Confined events ∧
    ((∀ id, .shared id h.maker ∉ events) → ∀ u, h.holders u = true → u = h.maker)
  /-- The converter in a rewriter logs with what the rewriter shows. -/
  inner : ∀ id, w.rewriterConfig id = w.look (.rewriter id)

theorem Traced.seen (h : w.Traced (holdings events)) (t : Target) (c : Config) :
    w.look t = .ok c ↔ ∃ h ∈ holdings events, h.holders t = true ∧ h.fields = c := by
  rw [look_eq_ok_iff]
  constructor
  · rintro ⟨r, href, hread⟩
    have hlt : r < (holdings events).length := h.length.symm ▸ h.valid t r href
    have hholds := h.holds r _ (List.getElem?_eq_getElem hlt)
    exact ⟨_, List.getElem_mem hlt, (hholds.holders t).mpr href, hholds.fields.symm.trans hread⟩
  · rintro ⟨held, hmem, hheld, hfields⟩
    obtain ⟨r, hlt, rfl⟩ := List.getElem_of_mem hmem
    have hholds := h.holds r _ (List.getElem?_eq_getElem hlt)
    exact ⟨r, (hholds.holders t).mp hheld, hholds.fields.trans hfields⟩

theorem Inner.rewriterConfig_eq (h : w.Inner) (id : String) :
    w.rewriterConfig id = w.look (.rewriter id) := by
  unfold rewriterConfig
  cases hname : byName? w.rewriters id with
  | none =>
      have href : w.ref? (.rewriter id) = none := by rw [ref?, hname]; rfl
      unfold look ref
      rw [href]
      rfl
  | some handle =>
      have href : w.ref? (.rewriter id) = some handle.shown := by rw [ref?, hname]; rfl
      obtain ⟨e, he, rfl⟩ := Option.map_eq_some_iff.mp hname
      change Except.ok (w.read e.2.used) = _
      rw [look_eq_ok href, h e (List.mem_of_find?_eq_some he)]

/-- **Configurations of which one keeps track are isolated.** -/
theorem Traced.isolated (h : w.Traced (holdings events)) : w.Isolated events where
  seen t c := by
    rw [h.seen]
    constructor
    · rintro ⟨held, hmem, hheld, hfields⟩
      obtain ⟨before, u, made, later, hsplit, rfl⟩ := mem_holdings_iff.mp hmem
      exact ⟨before, u, made, later, hsplit, hheld, hfields⟩
    · rintro ⟨before, u, made, later, hsplit, hheld, hfields⟩
      exact ⟨_, mem_holdings_iff.mpr ⟨before, u, made, later, hsplit, rfl⟩, hheld, hfields⟩
  shared held hmem t u ht := by
    obtain ⟨r, hlt, rfl⟩ := List.getElem_of_mem hmem
    have hholds := h.holds r _ (List.getElem?_eq_getElem hlt)
    rw [(hholds.holders t).mp ht]
    exact hholds.holders u
  confined held hmem :=
    have hconfined := confined_of_mem_holdings hmem
    ⟨hconfined, fun hnone u hu => (hconfined u hu).eq_maker hnone⟩
  inner := h.inner.rewriterConfig_eq

end Workspace

namespace Config

variable {c : Config}

/-- The error about a value that a configuration cannot honour. -/
theorem configurationFault_eq (message : String) :
    configurationFault message = .library ⟨.general .configuration, message, []⟩ :=
  raised_general _ message

/-- The check refuses an integer that is a limit: the length, or the count if the length is
accepted. -/
def Refuses (c : Config) (i : Int) : Prop :=
  (c.statementLength.integer? = some i ∧ i ≤ 0) ∨
    (c.statementLength.compareWith .atMost 0 = .ok false ∧
      c.parameterCount.integer? = some i ∧ i < 0)

/-- **The fault of a limit that the check refuses**: an error about the configuration, which shows
the limit. One with too many digits cannot be shown, and then that is the fault. -/
inductive RefusalFault (i : Int) : Fault → Prop
  | shown {e : LibraryError} : isOverlong i = false → e.kind = .general .configuration →
      RefusalFault i (.library e)
  | overlong : isOverlong i = true → RefusalFault i (.undisplayable .tooManyDigits)

/-- It is the fault of a limit that is an integer. -/
theorem refusalFault_limitFault {v : Value} {i : Int} (h : v.integer? = some i) (setting : Setting)
    (complaint : String) : RefusalFault i (limitFault setting complaint v) := by
  have hshown {text : String} (htext : v.text = .ok text) (hdigits : isOverlong i = false) :
      RefusalFault i (limitFault setting complaint v) := by
    rw [limitFault, htext]
    change RefusalFault i (configurationFault _)
    rw [configurationFault_eq]
    exact .shown hdigits rfl
  cases v with
  | bool b =>
      refine hshown rfl ?_
      obtain rfl := Option.some.inj h
      cases b <;> decide
  | int j =>
      obtain rfl := Option.some.inj h
      have htext : (Value.int j).text = showInt j := rfl
      cases hdigits : isOverlong j with
      | false => exact hshown (htext.trans (showInt_of_not_isOverlong hdigits)) hdigits
      | true =>
          rw [limitFault, htext, showInt, hdigits]
          exact .overlong hdigits
  | _ => cases h

/-- The check fails with it. -/
theorem Refuses.validate {i : Int} (h : c.Refuses i) :
    ∃ fault, RefusalFault i fault ∧ c.validate = .error fault := by
  obtain ⟨hlength, hi⟩ | ⟨hlong, hcount, hi⟩ := h
  · refine ⟨_, refusalFault_limitFault hlength .statementLength " must be positive, got ", ?_⟩
    rw [Config.validate, compareWith_of_integer hlength]
    simp only [Relation.holdsInt, decide_eq_true hi]
    rfl
  · refine ⟨_, refusalFault_limitFault hcount .parameterCount " must not be negative, got ", ?_⟩
    rw [Config.validate, hlong, compareWith_of_integer hcount]
    simp only [Relation.holdsInt, decide_eq_true hi]
    rfl

end Config

namespace Session

open Workspace

variable {s : Session}

/-- A copy of a configuration that the check refuses is not made, nor is a rewriter, and nothing
changes. -/
theorem step_of_copy_error {source : Target} {c : Config} {fault : Fault}
    (hlook : s.workspace.look source = .ok c) (hcopy : c.copy = .error fault) (id : String) :
    s.step (.makeCopy id source) = s.answering (.error fault) ∧
      s.step (.makeRewriter id (some source)) = s.answering (.error fault) := by
  obtain ⟨r, href, rfl⟩ := look_eq_ok_iff.mp hlook
  have hdup : s.workspace.duplicate source = (s.workspace, .error fault) := by
    rw [duplicate, ref_eq_ok href]
    dsimp only
    rw [hcopy]
  constructor
  · rw [step, makeCopy, hdup]
    rfl
  · rw [step, makeRewriter, hdup]
    rfl

/-- **Configurations are isolated over whole runs** that do not compare them. Every holder sees what
its configuration was made with, changed by exactly the assignments that came through its holders;
and a copy of a configuration that was given invalid limits, or a rewriter from it, is refused
and leaves everything as it was. The fault is an error about the configuration, unless the limit has
too many digits to be shown in one. -/
theorem isolated_run (host : Log.Host) (origin : Log.Origin) {steps : List Step}
    (hsteps : ∀ a b, .compare a b ∉ steps) :
    let s := ((Session.start host origin).run steps).1
    s.workspace.Isolated ((Session.start host origin).events steps) ∧
    ∀ source c i, s.workspace.look source = .ok c → c.Refuses i → ∀ id,
      ∃ fault, Config.RefusalFault i fault ∧
        s.step (.makeCopy id source) = s.answering (.error fault) ∧
        s.step (.makeRewriter id (some source)) = s.answering (.error fault) := by
  intro s
  constructor
  · exact (traced_run (traced_start host origin) hsteps).isolated
  · intro source c i hlook hrefuses id
    obtain ⟨fault, hfault, hrefused⟩ := hrefuses.validate
    exact ⟨fault, hfault, step_of_copy_error hlook hrefused id⟩

/-- A converter keeps a configuration whose name passed on to another one, and so does a converter
that was made from this one; a rewriter and a copy have their own, and the copy is spoilt. -/
theorem isolated_run_shared :
    ∃ steps : List Step,
      steps = [.makeConfig "c" [("sql_truncation_length", .int 5)],
        .makeConverter "v" (some (.config "c")), .makeRewriter "r" (some (.config "c")),
        .makeConverter "w" (some (.converter "v")), .makeCopy "d" (.rewriter "r"),
        .assign (.converter "w") "log_rewrites" (.int 0), .makeConfig "c" [],
        .assign (.rewriter "r") "sql_truncation_length" (.int 7),
        .assign (.config "d") "sql_truncation_length" (.int 0)] ∧
      ∃ s : Session, s = ((Session.start (.quiet 0) ⟨"m", none, 1⟩).run steps).1 ∧
        s.workspace.Isolated ((Session.start (.quiet 0) ⟨"m", none, 1⟩).events steps) ∧
        s.workspace.look (.converter "v") = .ok ⟨.int 0, .bool false, .int 5, .int 100⟩ ∧
        s.workspace.look (.rewriter "r") = .ok ⟨.bool true, .bool false, .int 7, .int 100⟩ ∧
        s.workspace.look (.config "c") = .ok .default ∧
        ∃ e : LibraryError, e.kind = .general .configuration ∧
          s.step (.makeCopy "x" (.config "d")) = s.answering (.error (.library e)) := by
  obtain ⟨steps, hsteps⟩ : ∃ steps : List Step,
      steps = [.makeConfig "c" [("sql_truncation_length", .int 5)],
        .makeConverter "v" (some (.config "c")), .makeRewriter "r" (some (.config "c")),
        .makeConverter "w" (some (.converter "v")), .makeCopy "d" (.rewriter "r"),
        .assign (.converter "w") "log_rewrites" (.int 0), .makeConfig "c" [],
        .assign (.rewriter "r") "sql_truncation_length" (.int 7),
        .assign (.config "d") "sql_truncation_length" (.int 0)] := ⟨_, rfl⟩
  have hcompare : ∀ a b, .compare a b ∉ steps := by
    intro a b
    simp [hsteps]
  obtain ⟨hisolated, hrefuses⟩ := isolated_run (.quiet 0) ⟨"m", none, 1⟩ hcompare
  have hspoilt : ((Session.start (.quiet 0) ⟨"m", none, 1⟩).run steps).1.workspace.look
      (.config "d") = .ok ⟨.bool true, .bool false, .int 0, .int 100⟩ := by
    rw [hsteps]
    rfl
  obtain ⟨fault, hfault, hrefused, -⟩ :=
    hrefuses (.config "d") _ 0 hspoilt (.inl ⟨rfl, Int.le_refl 0⟩) "x"
  obtain ⟨-, hkind⟩ | hoverlong := hfault
  · refine ⟨steps, hsteps, _, rfl, hisolated, ?_, ?_, ?_, _, hkind, hrefused⟩
    all_goals rw [hsteps]
    all_goals rfl
  · exact absurd hoverlong (by decide)

/-- **A limit with too many digits** is refused, but not with an error about the configuration:
minus ten to the power 4300 cannot be shown in one. -/
theorem refused_overlong :
    ∃ s : Session, s = ((Session.start (.quiet 0) ⟨"m", none, 1⟩).run [.makeConfig "c" [],
        .assign (.config "c") "sql_truncation_length" (.int (-(Number.tenTo 4300 : Int)))]).1 ∧
      s.workspace.look (.config "c") =
        .ok ⟨.bool true, .bool false, .int (-(Number.tenTo 4300 : Int)), .int 100⟩ ∧
      (s.step (.makeCopy "d" (.config "c"))).answer = .error (.undisplayable .tooManyDigits) ∧
      (s.step (.makeRewriter "r" (some (.config "c")))).answer =
        .error (.undisplayable .tooManyDigits) ∧
      ∀ e : LibraryError, (s.step (.makeCopy "d" (.config "c"))).answer ≠ .error (.library e) := by
  obtain ⟨i, hi⟩ : ∃ i : Int, i = -(Number.tenTo 4300 : Int) := ⟨_, rfl⟩
  have hnegative : i ≤ 0 := hi ▸ Int.neg_nonpos_of_nonneg (Int.natCast_nonneg _)
  have hoverlong : isOverlong i = true := by
    rw [hi, isOverlong_neg_tenTo]
    decide
  rw [← hi]
  obtain ⟨s, hs⟩ : ∃ s : Session, s = ((Session.start (.quiet 0) ⟨"m", none, 1⟩).run
      [.makeConfig "c" [], .assign (.config "c") "sql_truncation_length" (.int i)]).1 := ⟨_, rfl⟩
  have hlook : s.workspace.look (.config "c") =
      .ok ⟨.bool true, .bool false, .int i, .int 100⟩ := by
    rw [hs]
    rfl
  have hrefuses : Config.Refuses ⟨.bool true, .bool false, .int i, .int 100⟩ i :=
    .inl ⟨rfl, hnegative⟩
  obtain ⟨fault, hfault, hcopy⟩ := hrefuses.validate
  obtain ⟨hdigits, -⟩ | - := hfault
  · exact absurd (hoverlong.symm.trans hdigits) Bool.noConfusion
  · have hstep := step_of_copy_error hlook hcopy
    have hanswer : (s.step (.makeCopy "d" (.config "c"))).answer =
        .error (.undisplayable .tooManyDigits) := congrArg StepResult.answer (hstep "d").1
    refine ⟨s, hs, hlook, hanswer, congrArg StepResult.answer (hstep "r").2, fun e he => ?_⟩
    cases hanswer.symm.trans he

end Session

end SqlBind
