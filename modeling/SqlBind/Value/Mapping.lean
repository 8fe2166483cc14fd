import SqlBind.Value.Place

/-!
# Mappings

A mapping associates values with keys, and equal keys are one key. A dictionary lists its entries
in the order in which the keys came; putting an entry whose key is there already replaces the value
and keeps the place. Layers of mappings are read from the first on: a key that one of them has gets
the value that the first layer with an answer gives it. Their keys are listed from the last layer
on, as if every layer were poured over the next.

A dictionary with a default has an answer to every question: an empty list where it lacks the key.
On its own it is not asked for a key that it lacks; but as a layer it is, if a later layer has the
key, and then its empty list is the value. It keeps what it answered, so that asking can change it.

## Main definitions

* `Value.has`, `Value.fetch?`: whether a mapping has a key, and what it answers when asked for one.
* `Value.lookup?` and `Value.find?`: the value of a key, and of a name.
* `Value.items`, `Value.keys`, `Value.size`: the content of a mapping in order.
* `Value.asked` and `Value.listed`: a mapping after it was asked for one key, or for all it has.
* `insertEntry`, `Value.dictOf`, `Value.layersOf`: mappings built part by part.
* `Value.groupOf`: sets built member by member.

## Main results

* `Value.isSome_lookup?`: exactly the keys that a mapping has have a value.
* `Value.lookup?_layers_pair`: what a first layer without a default knows decides.
* `Value.valueFor?_items`: the entries of a mapping say of every key what looking it up says.
* `valueFor?_insertEntry`: an entry just put is found, and no other key is disturbed.
* `insertEntry_of_forall`: an entry with a new key goes to the end.
-/

namespace SqlBind

open Number

/-- Entries of a dictionary in order. -/
abbrev Entries := List (Value × Value)

/-- The value of a key among entries. -/
def valueFor? (key : Value) (entries : Entries) : Option Value :=
  (entries.find? fun e => e.1.equal key).map (·.2)

/-- Puts an entry: over the one with the same key if there is one, otherwise at the end. -/
def insertEntry (key value : Value) : Entries → Entries
  | [] => [(key, value)]
  | (k, v) :: rest =>
    if k.equal key then (k, value) :: rest else (k, v) :: insertEntry key value rest

/-- Puts entries one after the other. -/
def insertEntries (entries : Entries) (new : Entries) : Entries :=
  new.foldl (fun es e => insertEntry e.1 e.2 es) entries

/-- The members of a list whose keys equal no earlier key. -/
def distinctOn {α : Type} (key : α → Value) : List α → List α
  | [] => []
  | a :: rest => a :: (distinctOn key rest).filter fun b => !(key a).equal (key b)

/-- The entries of two layers together: those of the later layer, with the values that the first
layer answers to their keys, and then those of the first layer whose keys are new. -/
def overlayEntries (answer : Value → Option Value) (first later : Entries) : Entries :=
  later.map (fun e => (e.1, (answer e.1).getD e.2)) ++
    first.filter fun e => (valueFor? e.1 later).isNone

namespace Value

mutual

/-- Whether a mapping has a key. -/
def has : Value → Value → Bool
  | .dict _ entries, key => (valueFor? key entries).isSome
  | .layers maps, key => hasIn maps key
  | _, _ => false

/-- Whether one of several layers has a key. -/
def hasIn : List Value → Value → Bool
  | [], _ => false
  | m :: rest, key => has m key || hasIn rest key

end

mutual

/-- What a mapping answers when it is asked for the value of a key. A dictionary with a default
answers with an empty list where it lacks the key. -/
def fetch? : Value → Value → Option Value
  | .dict .defaulting entries, key => some ((valueFor? key entries).getD (.seq .list []))
  | .dict _ entries, key => valueFor? key entries
  | .layers maps, key => fetchIn? maps key
  | _, _ => none

/-- What layers of mappings answer: what the first layer with an answer answers. -/
def fetchIn? : List Value → Value → Option Value
  | [], _ => none
  | m :: rest, key => (fetch? m key).or (fetchIn? rest key)

end

/-- The value of a key in a mapping; none if the mapping lacks the key. -/
def lookup? (m key : Value) : Option Value := if m.has key then m.fetch? key else none

/-- The value that a mapping binds to a name. -/
def find? (m : Value) (name : String) : Option Value := m.lookup? (.str name)

mutual

/-- The entries of a mapping in order, with each key once. -/
def items : Value → Entries
  | .dict _ entries => distinctOn (·.1) entries
  | .layers maps => layerItems maps
  | _ => []

/-- The entries of layers of mappings in order. -/
def layerItems : List Value → Entries
  | [] => []
  | m :: rest => overlayEntries m.fetch? (items m) (layerItems rest)

end

mutual

/-- A mapping after it was asked for the value of a key. A dictionary with a default that lacked the
key has it from then on. -/
def asked (key : Value) : Value → Value
  | .dict .defaulting entries =>
    if (valueFor? key entries).isSome then .dict .defaulting entries
    else .dict .defaulting (entries ++ [(key, .seq .list [])])
  | .layers maps => .layers (askedIn key maps)
  | m => m

/-- Layers after they were asked for the value of a key, from the first on up to an answer. -/
def askedIn (key : Value) : List Value → List Value
  | [] => []
  | m :: rest => asked key m :: (if (fetch? m key).isSome then rest else askedIn key rest)

end

mutual

/-- A mapping with another value for a key that it has; layers have it in the first that has the
key. -/
def replaceValue (key value : Value) : Value → Value
  | .dict kind entries =>
    .dict kind (entries.map fun e => if e.1.equal key then (e.1, value) else e)
  | .layers maps => .layers (replaceValueIn key value maps)
  | m => m

/-- Layers with another value for a key. -/
def replaceValueIn (key value : Value) : List Value → List Value
  | [] => []
  | m :: rest =>
    if m.has key then replaceValue key value m :: rest else m :: replaceValueIn key value rest

end

/-- The keys of a mapping in order. -/
def keys (m : Value) : List Value := m.items.map (·.1)

/-- A mapping after it was walked through, when it was asked for the value of each of its keys. -/
def listed (m : Value) : Value := m.keys.foldl (fun m key => asked key m) m

/-- The number of keys of a mapping. -/
def size (m : Value) : Nat := m.items.length

/-- The dictionary that results from putting entries one after the other. -/
def dictOf (kind : DictKind) (entries : Entries) : Value := .dict kind (insertEntries [] entries)

/-- Layers of the given mappings. There is always one: without any, it is an empty dictionary. -/
def layersOf (maps : List Value) : Value :=
  .layers (if maps.isEmpty then [.dict .plain []] else maps)

/-- The set of the given values. -/
def groupOf (kind : GroupKind) (members : List Value) : Value :=
  .group kind (memberOrder (distinctOn id members))

@[simp] theorem has_dict {kind : DictKind} {entries : Entries} {key : Value} :
    (dict kind entries).has key = (valueFor? key entries).isSome := by
  simp [has]

/-- A dictionary of any kind gives a key the value that it has for it. -/
@[simp] theorem lookup?_dict {kind : DictKind} {entries : Entries} {key : Value} :
    (dict kind entries).lookup? key = valueFor? key entries := by
  cases kind <;> cases h : valueFor? key entries <;> simp [lookup?, fetch?, h]

@[simp] theorem find?_dict {kind : DictKind} {entries : Entries} {name : String} :
    (dict kind entries).find? name = valueFor? (.str name) entries := by
  simp [find?]

@[simp] theorem lookup?_layers_nil {key : Value} : (layers []).lookup? key = none := by
  simp [lookup?, has, hasIn]

mutual

/-- A mapping has an answer to every key that it has. -/
theorem isSome_fetch?_of_has {key : Value} : ∀ {m : Value}, m.has key = true →
    (m.fetch? key).isSome = true
  | .dict kind entries, h => by
    cases kind <;> simp_all [has, fetch?]
  | .layers maps, h => by
    rw [has] at h
    simpa [fetch?] using isSome_fetchIn?_of_hasIn h
  | .null, h | .bool _, h | .int _, h | .float _, h | .complex .., h | .decimal _, h | .str _, h
  | .wrappedStr _, h | .bytes .., h | .moment .., h | .uuid _, h | .range .., h | .array _, h
  | .seq .., h | .group .., h | .generator _, h | .placeholder _, h | .thing _, h
  | .unshowable _, h => by simp [has] at h

/-- Layers have an answer to every key that one of them has. -/
theorem isSome_fetchIn?_of_hasIn {key : Value} : ∀ {maps : List Value}, hasIn maps key = true →
    (fetchIn? maps key).isSome = true
  | [], h => by simp [hasIn] at h
  | m :: rest, h => by
    rw [hasIn, Bool.or_eq_true] at h
    rw [fetchIn?, Option.isSome_or, Bool.or_eq_true]
    exact h.imp isSome_fetch?_of_has isSome_fetchIn?_of_hasIn

end

/-- Exactly the keys that a mapping has have a value. -/
@[simp] theorem isSome_lookup? {m key : Value} : (m.lookup? key).isSome = m.has key := by
  cases h : m.has key <;> simp [lookup?, h, isSome_fetch?_of_has]

/-- What a first layer without a default knows decides, and the second one answers otherwise. -/
theorem lookup?_layers_pair {entries : Entries} {key m : Value} :
    (layers [dict .plain entries, m]).lookup? key =
      (valueFor? key entries).or (m.lookup? key) := by
  cases h : valueFor? key entries <;>
    simp [lookup?, has, hasIn, fetch?, fetchIn?, h]

end Value

/-! ### Looking keys up -/

/-- Equal keys have the same value. -/
theorem valueFor?_congr {a b : Value} (h : a.equal b = true) (entries : Entries) :
    valueFor? a entries = valueFor? b entries := by
  have key (k : Value) : k.equal a = k.equal b := by
    rw [Bool.eq_iff_iff]
    exact ⟨fun ha => Value.equal_trans ha h, fun hb => Value.equal_trans hb (Value.equal_comm ▸ h)⟩
  simp only [valueFor?, key]

@[simp] theorem valueFor?_nil {key : Value} : valueFor? key [] = none := rfl

/-- The first entry with the key decides. -/
theorem valueFor?_cons {key : Value} {e : Value × Value} {rest : Entries} :
    valueFor? key (e :: rest) = if e.1.equal key then some e.2 else valueFor? key rest := by
  by_cases h : e.1.equal key <;> simp [valueFor?, h]

/-- Entries in front are looked through first. -/
theorem valueFor?_append {key : Value} {a b : Entries} :
    valueFor? key (a ++ b) = (valueFor? key a).or (valueFor? key b) := by
  induction a with
  | nil => simp
  | cons e rest ih => by_cases h : e.1.equal key <;> simp [valueFor?_cons, h, ih]

/-- Leaving out entries with other keys changes nothing. -/
theorem valueFor?_filter {key : Value} {entries : Entries} {p : Value × Value → Bool}
    (h : ∀ e, e.1.equal key = true → p e = true) :
    valueFor? key (entries.filter p) = valueFor? key entries := by
  induction entries with
  | nil => rfl
  | cons e rest ih =>
    by_cases he : e.1.equal key
    · rw [List.filter_cons_of_pos (h e he), valueFor?_cons, valueFor?_cons, if_pos he, if_pos he]
    · by_cases hp : p e
      · rw [List.filter_cons_of_pos hp, valueFor?_cons, valueFor?_cons, if_neg he, if_neg he, ih]
      · rw [List.filter_cons_of_neg hp, valueFor?_cons, if_neg he, ih]

/-- The first entry with a key is the one that counts. -/
theorem valueFor?_distinctOn {key : Value} {entries : Entries} :
    valueFor? key (distinctOn (·.1) entries) = valueFor? key entries := by
  induction entries with
  | nil => rfl
  | cons e rest ih =>
    rw [distinctOn, valueFor?_cons, valueFor?_cons]
    by_cases he : e.1.equal key
    · rw [if_pos he, if_pos he]
    · rw [if_neg he, if_neg he, valueFor?_filter, ih]
      intro f hf
      cases hc : e.1.equal f.1 with
      | false => rfl
      | true => exact absurd (Value.equal_trans hc hf) he

/-- What the first layer answers to a key that the later one has is the value; a key that is new
has the value of the first layer. -/
theorem valueFor?_overlayEntries {key : Value} {answer : Value → Option Value}
    {first later : Entries} (congr : ∀ {a b : Value}, a.equal b = true → answer a = answer b) :
    valueFor? key (overlayEntries answer first later) =
      match valueFor? key later with
      | some v => some ((answer key).getD v)
      | none => valueFor? key first := by
  have front : valueFor? key (later.map fun e => (e.1, (answer e.1).getD e.2)) =
      (valueFor? key later).map fun v => (answer key).getD v := by
    induction later with
    | nil => rfl
    | cons e rest ih =>
      rw [List.map_cons, valueFor?_cons, valueFor?_cons]
      by_cases he : e.1.equal key
      · simp [he, congr he]
      · simp [he, ih]
  rw [overlayEntries, valueFor?_append, front]
  cases hl : valueFor? key later with
  | some v => simp
  | none =>
    rw [valueFor?_filter]
    · simp
    · intro e he
      simp [valueFor?_congr he later, hl]

namespace Value

mutual

/-- A mapping answers the same to equal keys. -/
theorem fetch?_congr {a b : Value} (h : a.equal b = true) :
    ∀ {m : Value}, m.fetch? a = m.fetch? b
  | .dict kind entries => by
    cases kind <;> simp [fetch?, valueFor?_congr h entries]
  | .layers maps => by simpa [fetch?] using fetchIn?_congr h
  | .null | .bool _ | .int _ | .float _ | .complex .. | .decimal _ | .str _ | .wrappedStr _
  | .bytes .. | .moment .. | .uuid _ | .range .. | .array _ | .seq .. | .group .. | .generator _
  | .placeholder _ | .thing _ | .unshowable _ => by simp [fetch?]

/-- Layers answer the same to equal keys. -/
theorem fetchIn?_congr {a b : Value} (h : a.equal b = true) :
    ∀ {maps : List Value}, fetchIn? maps a = fetchIn? maps b
  | [] => rfl
  | m :: rest => by rw [fetchIn?, fetchIn?, fetch?_congr h, fetchIn?_congr h]

end

mutual

/-- The entries of a mapping say of every key what looking it up says. -/
theorem valueFor?_items {key : Value} : ∀ {m : Value}, valueFor? key m.items = m.lookup? key
  | .dict .. => by
    rw [items, valueFor?_distinctOn, lookup?_dict]
  | .layers maps => by
    rw [items, valueFor?_layerItems (m := maps), lookup?, has, fetch?]
  | .null | .bool _ | .int _ | .float _ | .complex .. | .decimal _ | .str _ | .wrappedStr _
  | .bytes .. | .moment .. | .uuid _ | .range .. | .array _ | .seq .. | .group .. | .generator _
  | .placeholder _ | .thing _ | .unshowable _ => by simp [items, lookup?, has]

theorem valueFor?_layerItems {key : Value} :
    ∀ {m : List Value}, valueFor? key (layerItems m) =
      if hasIn m key then fetchIn? m key else none
  | [] => by simp [layerItems, hasIn]
  | m :: rest => by
    rw [layerItems, valueFor?_overlayEntries (fun h => fetch?_congr h), valueFor?_items (m := m),
      valueFor?_layerItems (m := rest), hasIn, fetchIn?, lookup?]
    cases hr : hasIn rest key
    · cases hm : m.has key
      · simp
      · have := isSome_fetch?_of_has hm
        cases hf : m.fetch? key <;> simp_all
    · have := isSome_fetchIn?_of_hasIn hr
      cases hf : fetchIn? rest key
      · simp [hf] at this
      · cases m.fetch? key <;> simp

end

end Value

/-! ### Putting entries -/

/-- An entry just put is found under its own key, and no other key is disturbed. -/
theorem valueFor?_insertEntry {key k v : Value} {entries : Entries} :
    valueFor? key (insertEntry k v entries) =
      if k.equal key then some v else valueFor? key entries := by
  induction entries with
  | nil => by_cases h : k.equal key <;> simp [insertEntry, valueFor?, h]
  | cons e rest ih =>
    obtain ⟨k', v'⟩ := e
    simp only [valueFor?] at ih
    by_cases h' : k'.equal k = true
    · have : k'.equal key = k.equal key := by
        rw [Bool.eq_iff_iff]
        exact ⟨Value.equal_trans (Value.equal_comm ▸ h'), Value.equal_trans h'⟩
      by_cases h : k.equal key <;> simp_all [insertEntry, valueFor?]
    · by_cases h : k'.equal key = true
      · have : k.equal key = false := by
          refine Bool.eq_false_iff.2 fun hc => h' ?_
          exact Value.equal_trans h (Value.equal_comm ▸ hc)
        simp_all [insertEntry, valueFor?]
      · simp_all [insertEntry, valueFor?]

/-- An entry with a new key goes to the end. -/
theorem insertEntry_of_forall {k v : Value} {entries : Entries}
    (h : ∀ e ∈ entries, e.1.equal k = false) : insertEntry k v entries = entries ++ [(k, v)] := by
  induction entries with
  | nil => rfl
  | cons e rest ih =>
    simp only [List.mem_cons, forall_eq_or_imp] at h
    simp [insertEntry, h.1, ih h.2]

end SqlBind
