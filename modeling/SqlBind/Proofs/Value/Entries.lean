import SqlBind.Value.Mapping

/-!
# Changing the Entries of a Mapping

A mapping can be changed entry by entry, in every layer: its keys, its values, or both
(`Value.mapEntries`). What a change does to the entries of one dictionary it does to the whole
mapping, however its layers lie in each other: if a key is found under another one, with its value
changed, in every dictionary, then it is so in the mapping (`Value.lookup?_mapEntries`). An answer
by default is an empty sequence, and the change has to leave it so.

## Main definitions

* `Value.mapEntries`: a mapping with other entries.
* `Carries`: what a change does to the value of a key in every dictionary.

## Main results

* `Value.lookup?_mapEntries`: what it does to the value of a key in a mapping.
-/

namespace SqlBind

/-- A change `g` of entries carries the value of `key` over to `key'`, changed by `h`, in every
dictionary all of whose keys are as `Q` says. -/
structure Carries (Q : Value → Prop) (g : Value × Value → Value × Value) (h : Value → Value)
    (key key' : Value) : Prop where
  valueFor?_map : ∀ entries : Entries, (∀ k, (valueFor? k entries).isSome = true → Q k) →
    valueFor? key' (entries.map g) = (valueFor? key entries).map h
  /-- An answer by default stays. -/
  default : h (.seq .list []) = .seq .list []

namespace Value

mutual

/-- A mapping with every entry changed, in every layer. -/
def mapEntries (g : Value × Value → Value × Value) : Value → Value
  | .dict kind entries => .dict kind (entries.map g)
  | .layers maps => .layers (mapEntriesIn g maps)
  | m => m

/-- Layers with every entry changed. -/
def mapEntriesIn (g : Value × Value → Value × Value) : List Value → List Value
  | [] => []
  | m :: rest => mapEntries g m :: mapEntriesIn g rest

end

variable {g : Value × Value → Value × Value} {h : Value → Value} {Q : Value → Prop}
  {key key' : Value}

/-- A mapping is still a mapping. -/
theorem isMapping_mapEntries {m : Value} (hm : m.isMapping = true) :
    (m.mapEntries g).isMapping = true := by
  cases m with
  | dict kind entries =>
      rw [mapEntries]
      rfl
  | layers maps =>
      rw [mapEntries]
      rfl
  | _ => cases hm

/-- What is no mapping has no entries to change. -/
theorem mapEntries_of_isMapping_eq_false {m : Value} (hm : m.isMapping = false) :
    m.mapEntries g = m := by
  cases m with
  | dict kind entries => cases hm
  | layers maps => cases hm
  | _ => simp [mapEntries]

mutual

/-- A mapping has a key where it is carried to. -/
theorem has_mapEntries (hcarries : Carries Q g h key key') : ∀ {m : Value},
    (∀ k, m.has k = true → Q k) → (m.mapEntries g).has key' = m.has key
  | .dict kind entries, hm => by
      simp only [has_dict] at hm
      rw [mapEntries, has_dict, has_dict, hcarries.valueFor?_map entries hm, Option.isSome_map]
  | .layers maps, hm => by
      simp only [has] at hm
      rw [mapEntries, has, has, hasIn_mapEntriesIn hcarries hm]
  | .null, _ | .bool _, _ | .int _, _ | .float _, _ | .complex .., _ | .decimal _, _ | .str _, _
  | .wrappedStr _, _ | .bytes .., _ | .moment .., _ | .uuid _, _ | .range .., _ | .array _, _
  | .seq .., _ | .group .., _ | .generator _, _ | .placeholder _, _ | .thing _, _
  | .unshowable _, _ => by simp [mapEntries, has]

/-- Layers have a key where it is carried to. -/
theorem hasIn_mapEntriesIn (hcarries : Carries Q g h key key') : ∀ {maps : List Value},
    (∀ k, hasIn maps k = true → Q k) → hasIn (mapEntriesIn g maps) key' = hasIn maps key
  | [], _ => rfl
  | m :: rest, hm => by
      simp only [hasIn, Bool.or_eq_true] at hm
      rw [mapEntriesIn, hasIn, hasIn, has_mapEntries hcarries fun k hk => hm k (Or.inl hk),
        hasIn_mapEntriesIn hcarries fun k hk => hm k (Or.inr hk)]

end

mutual

/-- A mapping answers with what is carried over. -/
theorem fetch?_mapEntries (hcarries : Carries Q g h key key') : ∀ {m : Value},
    (∀ k, m.has k = true → Q k) → (m.mapEntries g).fetch? key' = (m.fetch? key).map h
  | .dict kind entries, hm => by
      simp only [has_dict] at hm
      have hvalue := hcarries.valueFor?_map entries hm
      cases kind with
      | defaulting =>
          rw [mapEntries, fetch?, fetch?, hvalue]
          cases valueFor? key entries with
          | none => exact congrArg some hcarries.default.symm
          | some v => rfl
      | _ => simp only [mapEntries, fetch?, hvalue]
  | .layers maps, hm => by
      simp only [has] at hm
      rw [mapEntries, fetch?, fetch?, fetchIn?_mapEntriesIn hcarries hm]
  | .null, _ | .bool _, _ | .int _, _ | .float _, _ | .complex .., _ | .decimal _, _ | .str _, _
  | .wrappedStr _, _ | .bytes .., _ | .moment .., _ | .uuid _, _ | .range .., _ | .array _, _
  | .seq .., _ | .group .., _ | .generator _, _ | .placeholder _, _ | .thing _, _
  | .unshowable _, _ => by simp [mapEntries, fetch?]

/-- Layers answer with what is carried over, the first one with an answer deciding as before. -/
theorem fetchIn?_mapEntriesIn (hcarries : Carries Q g h key key') : ∀ {maps : List Value},
    (∀ k, hasIn maps k = true → Q k) →
    fetchIn? (mapEntriesIn g maps) key' = (fetchIn? maps key).map h
  | [], _ => rfl
  | m :: rest, hm => by
      simp only [hasIn, Bool.or_eq_true] at hm
      rw [mapEntriesIn, fetchIn?, fetchIn?, fetch?_mapEntries hcarries fun k hk => hm k (Or.inl hk),
        fetchIn?_mapEntriesIn hcarries fun k hk => hm k (Or.inr hk)]
      cases m.fetch? key with
      | none => rfl
      | some v => rfl

end

/-- **What is found in a mapping with other entries** is what is carried over. -/
theorem lookup?_mapEntries (hcarries : Carries Q g h key key') {m : Value}
    (hm : ∀ k, m.has k = true → Q k) : (m.mapEntries g).lookup? key' = (m.lookup? key).map h := by
  rw [lookup?, lookup?, has_mapEntries hcarries hm, fetch?_mapEntries hcarries hm]
  split
  · rfl
  · rfl

end Value

end SqlBind
