import SqlBind.Config.Workspace

/-!
# Configurations and Their Holders

What happens to configurations comes down to three kinds of events: one is made, a converter is let
share one, or a setting is assigned. This module follows each configuration from the event in which
it was made through all later ones (`Holding.follow`). It is held by whoever made it. A converter
that is made from one of its holders holds it as well. Whoever takes the name of a holder drops it,
since a name stands for its latest holder. An assignment changes it if it comes through one of its
holders, and not otherwise.

No configuration is held by anybody but its maker and converters that were made from it
(`Holding.Confined`). So what a rewriter was made with is held by that rewriter alone, unless a
converter was made from the rewriter's own.

## Main definitions

* `Event`: what happens to configurations.
* `Holding`: a configuration that was made, with its holders and its settings.
* `holdings`: the configurations that events make, as they are at the end.
* `Reaches`: who may come to hold a configuration.

## Main results

* `mem_holdings_iff`: they are those that were made, each followed from there on.
* `confined_of_mem_holdings`: each is confined to its maker and converters made from it.
-/

namespace SqlBind

/-- What a step does to configurations: one is made for a new holder, or a new converter shares the
one of another holder, or a setting is assigned through a holder. -/
inductive Event where
  | made (t : Target) (c : Config)
  | shared (converter : String) (source : Target)
  | assigned (t : Target) (setting : Setting) (v : Value)

/-- A configuration that was made: by whom, who holds it now, and its settings now. -/
structure Holding where
  maker : Target
  holders : Target → Bool
  fields : Config

namespace Holding

/-- A configuration that was just made is held by its maker alone. -/
def made (t : Target) (c : Config) : Holding := ⟨t, fun u => u = t, c⟩

/-- What an event makes of it. -/
def after (h : Holding) : Event → Holding
  | .made t _ => { h with holders := fun u => if u = t then false else h.holders u }
  | .shared converter source =>
    { h with
      holders := fun u => if u = .converter converter then h.holders source else h.holders u }
  | .assigned t setting v =>
    if h.holders t then { h with fields := h.fields.set setting v } else h

/-- What events make of it, one after the other. -/
def follow (h : Holding) (events : List Event) : Holding := events.foldl after h

end Holding

/-- The configurations that are made in the course of events, as they are at the end. -/
def holdings : List Event → List Holding
  | [] => []
  | .made t c :: rest => (Holding.made t c).follow rest :: holdings rest
  | _ :: rest => holdings rest

/-- One more event changes the configurations that were made, and may make another. -/
theorem holdings_append (events : List Event) (e : Event) :
    holdings (events ++ [e]) = (holdings events).map (·.after e) ++ holdings [e] := by
  induction events with
  | nil => rfl
  | cons first rest ih =>
      have hfollow (h : Holding) : h.follow (rest ++ [e]) = (h.follow rest).after e :=
        List.foldl_append
      cases first with
      | made t c =>
          rw [List.cons_append, holdings, holdings, hfollow, ih]
          rfl
      | shared | assigned => exact ih

/-- The configurations at the end are those that were made, each followed from there on. -/
theorem mem_holdings_iff {h : Holding} {events : List Event} :
    h ∈ holdings events ↔ ∃ before t c later, events = before ++ .made t c :: later ∧
      h = (Holding.made t c).follow later := by
  induction events with
  | nil => simp [holdings]
  | cons first rest ih =>
      have hskip : (∃ before t c later, rest = before ++ .made t c :: later ∧
          h = (Holding.made t c).follow later) → ∃ before t c later,
            first :: rest = before ++ .made t c :: later ∧
              h = (Holding.made t c).follow later := by
        rintro ⟨before, t, c, later, rfl, rfl⟩
        exact ⟨first :: before, t, c, later, rfl, rfl⟩
      constructor
      · intro hmem
        cases first with
        | made t c =>
            rcases List.mem_cons.mp hmem with rfl | hmem
            · exact ⟨[], t, c, rest, rfl, rfl⟩
            · exact hskip (ih.mp hmem)
        | shared | assigned => exact hskip (ih.mp hmem)
      · rintro ⟨before, t, c, later, hsplit, rfl⟩
        cases before with
        | nil =>
            obtain ⟨rfl, rfl⟩ := List.cons.inj hsplit
            exact List.mem_cons_self
        | cons e before =>
            obtain ⟨rfl, rfl⟩ := List.cons.inj hsplit
            have hmem := ih.mpr ⟨before, t, c, later, rfl, rfl⟩
            cases first with
            | made => exact List.mem_cons_of_mem _ hmem
            | shared | assigned => exact hmem

/-- Who may come to hold what a maker made: the maker, and a converter that was made from somebody
who may. -/
inductive Reaches (events : List Event) (maker : Target) : Target → Prop
  | maker : Reaches events maker maker
  | converter {id : String} {source : Target} : Reaches events maker source →
      .shared id source ∈ events → Reaches events maker (.converter id)

theorem Reaches.mono {events : List Event} {maker u : Target} (h : Reaches events maker u)
    (more : List Event) : Reaches (events ++ more) maker u := by
  induction h with
  | maker => exact .maker
  | converter _ hshared ih => exact .converter ih (List.mem_append_left _ hshared)

/-- If no converter was made from the maker, nobody else may hold it. -/
theorem Reaches.eq_maker {events : List Event} {maker u : Target} (h : Reaches events maker u)
    (hnone : ∀ id, .shared id maker ∉ events) : u = maker := by
  induction h with
  | maker => rfl
  | converter _ hshared ih =>
      obtain rfl := ih
      exact absurd hshared (hnone _)

namespace Holding

/-- Nobody holds a configuration but its maker and converters that were made from it. -/
def Confined (h : Holding) (events : List Event) : Prop :=
  ∀ u, h.holders u = true → Reaches events h.maker u

/-- An event does not change who made it. -/
theorem maker_after (h : Holding) (e : Event) : (h.after e).maker = h.maker := by
  cases e with
  | made | shared => rfl
  | assigned t setting v =>
      rw [after]
      split <;> rfl

/-- An event keeps a configuration confined. -/
theorem Confined.after {h : Holding} {events : List Event} (hh : h.Confined events) (e : Event) :
    (h.after e).Confined (events ++ [e]) := by
  have hkept : ∀ u, h.holders u = true → Reaches (events ++ [e]) h.maker u :=
    fun u hu => (hh u hu).mono [e]
  intro u hu
  rw [maker_after]
  cases e with
  | made t c =>
      rw [Holding.after] at hu
      by_cases hut : u = t
      · simp [hut] at hu
      · exact hkept u (by simpa [hut] using hu)
  | shared converter source =>
      rw [Holding.after] at hu
      by_cases hut : u = .converter converter
      · have hsource : h.holders source = true := by simpa [hut] using hu
        exact hut ▸ .converter (hkept source hsource) List.mem_concat_self
      · exact hkept u (by simpa [hut] using hu)
  | assigned t setting v =>
      rw [Holding.after] at hu
      refine hkept u ?_
      split at hu <;> exact hu

/-- A configuration is confined wherever it is followed to. -/
theorem Confined.follow {h : Holding} {events later : List Event} (hh : h.Confined events) :
    (h.follow later).Confined (events ++ later) := by
  induction later generalizing h events with
  | nil => rwa [List.append_nil]
  | cons e later ih =>
      have hrest := ih (hh.after e)
      rwa [List.append_assoc] at hrest

end Holding

/-- Every configuration that was made is confined. -/
theorem confined_of_mem_holdings {h : Holding} {events : List Event} (hmem : h ∈ holdings events) :
    h.Confined events := by
  obtain ⟨before, t, c, later, rfl, rfl⟩ := mem_holdings_iff.mp hmem
  have hmade : (Holding.made t c).Confined (before ++ [.made t c]) := fun u hu =>
    of_decide_eq_true hu ▸ .maker
  have hfollow : ((Holding.made t c).follow later).Confined (_ ++ later) := hmade.follow
  rwa [List.append_assoc] at hfollow

end SqlBind
