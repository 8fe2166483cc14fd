import SqlBind.Value.Mapping
import SqlBind.Value.Truth

/-!
# Keys of Mappings

A mapping of any kind lists every key that it has exactly once (`Value.countP_keys`): no two of the
listed keys are equal (`Value.apart_keys`), and a key that it has equals one of them. Of the keys
that it lists it has those with an identity (`Value.has_iff_of_mem_keys`). This is so also of
layers, however deep they lie in each other, whose keys are those of the last layer and then those
of the others that are new (`Value.keys_layers_pair`).

The same holds of entries that are put one after the other, as long as the new ones have no two
equal keys: each is found under its key, and what was there before is found under all other keys
(`valueFor?_insertEntries`).

## Main definitions

* `Apart`: no two members of a list have equal keys.

## Main results

* `Value.apart_items`: a mapping lists no key twice.
* `Value.countP_keys`: it lists every key that it has once.
* `Value.has_iff_of_mem_keys`: which of the listed keys it has.
* `Value.items_of_isTruthy_eq_false`: one that counts as false has no entries.
* `Value.keys_layers_pair`: the keys of two layers are the distinct ones among those of both.
* `valueFor?_insertEntries`: what is found after entries were put.
* `map_insertEntries`: the keys after entries were put.
* `valueFor?_of_mem`: an entry is found under its key.
-/

namespace SqlBind

/-- No two members of a list have equal keys. -/
def Apart {α : Type} (key : α → Value) (as : List α) : Prop :=
  as.Pairwise fun a b => (key a).equal (key b) = false

section Lists

variable {α : Type} {key : α → Value}

/-- What is left of a list without repeated keys has no two equal keys. -/
theorem apart_distinctOn (as : List α) : Apart key (distinctOn key as) := by
  induction as with
  | nil => exact .nil
  | cons a rest ih =>
      rw [distinctOn]
      refine List.pairwise_cons.mpr ⟨fun b hb => ?_, ih.filter _⟩
      have hne := (List.mem_filter.mp hb).2
      exact Bool.not_eq_true' _ ▸ hne

/-- Nothing is left out of a list without two equal keys. -/
theorem distinctOn_eq_self {as : List α} (h : Apart key as) : distinctOn key as = as := by
  induction as with
  | nil => rfl
  | cons a rest ih =>
      obtain ⟨hne, hrest⟩ := List.pairwise_cons.mp h
      rw [distinctOn, ih hrest, List.filter_eq_self.mpr fun b hb => by rw [hne b hb]; rfl]

/-- Of two lists, what is left of the first is left, and what is new in the second. -/
theorem distinctOn_append (as bs : List α) :
    distinctOn key (as ++ bs) = distinctOn key as ++
      (distinctOn key bs).filter fun b => as.all fun a => !(key a).equal (key b) := by
  induction as with
  | nil => exact (List.filter_eq_self.mpr fun b _ => rfl).symm
  | cons a rest ih =>
      rw [List.cons_append, distinctOn, ih, List.filter_append, List.filter_filter, distinctOn,
        List.cons_append]
      rfl

/-- Leaving out repeated keys leaves the same keys. -/
theorem any_distinctOn (as : List α) (k : Value) :
    ((distinctOn key as).any fun a => (key a).equal k) = as.any fun a => (key a).equal k := by
  induction as with
  | nil => rfl
  | cons a rest ih =>
      rw [distinctOn, List.any_cons, List.any_cons, List.any_filter, ← ih]
      cases hk : (key a).equal k with
      | true => rfl
      | false =>
          -- what was left out here has the key of the first member, which is another one
          have hother : ∀ b, (!(key a).equal (key b) && (key b).equal k) = (key b).equal k := by
            intro b
            cases hab : (key a).equal (key b) with
            | false => rfl
            | true =>
                cases hb : (key b).equal k with
                | false => rfl
                | true => cases hk.symm.trans (Value.equal_trans hab hb)
          simp only [hother]

/-- Repeated keys may be left out of the first of two lists beforehand. -/
theorem distinctOn_distinctOn_append (as bs : List α) :
    distinctOn key (distinctOn key as ++ bs) = distinctOn key (as ++ bs) := by
  have hall : ∀ b, ((distinctOn key as).all fun a => !(key a).equal (key b)) =
      as.all fun a => !(key a).equal (key b) := by
    intro b
    rw [← List.not_any_eq_all_not, any_distinctOn, List.not_any_eq_all_not]
  rw [distinctOn_append, distinctOn_append, distinctOn_eq_self (apart_distinctOn as)]
  simp only [hall]

/-- In a list without two equal keys a key occurs once, or not at all. -/
theorem countP_of_apart {as : List α} (h : Apart key as) (k : Value) :
    as.countP (fun a => (key a).equal k) = if as.any (fun a => (key a).equal k) then 1 else 0 := by
  induction as with
  | nil => rfl
  | cons a rest ih =>
      obtain ⟨hne, hrest⟩ := List.pairwise_cons.mp h
      rw [List.countP_cons, List.any_cons, ih hrest]
      cases hk : (key a).equal k with
      | false => rw [Bool.false_or, if_neg Bool.false_ne_true, Nat.add_zero]
      | true =>
          -- the key is that of the first member, hence of no other
          have hnone : (rest.any fun b => (key b).equal k) = false := by
            rw [List.any_eq_false]
            intro b hb heq
            have hab := Value.equal_trans hk (Value.equal_comm ▸ heq)
            rw [hne b hb] at hab
            cases hab
          rw [hnone]
          rfl

end Lists

/-! ### Putting entries -/

/-- **Entries without two equal keys that are put** are found under their keys, and what was there
before is found under all others. -/
theorem valueFor?_insertEntries {entries new : Entries} (h : Apart (·.1) new) (key : Value) :
    valueFor? key (insertEntries entries new) =
      (valueFor? key new).or (valueFor? key entries) := by
  induction new generalizing entries with
  | nil => rfl
  | cons e rest ih =>
      obtain ⟨hne, hrest⟩ := List.pairwise_cons.mp h
      have hput : valueFor? key (insertEntries entries (e :: rest)) =
          (valueFor? key rest).or (valueFor? key (insertEntry e.1 e.2 entries)) := ih hrest
      rw [hput, valueFor?_insertEntry, valueFor?_cons]
      by_cases hk : e.1.equal key = true
      · -- no later entry has the key of this one
        have hnone : valueFor? key rest = none := by
          rw [valueFor?, Option.map_eq_none_iff, List.find?_eq_none]
          intro f hf heq
          have hef := Value.equal_trans hk (Value.equal_comm ▸ heq)
          rw [hne f hf] at hef
          cases hef
        rw [if_pos hk, if_pos hk, hnone, Option.none_or, Option.some_or]
      · rw [if_neg hk, if_neg hk]

/-- An entry that is put adds its key, unless it is there. -/
theorem map_insertEntry (k v : Value) (entries : Entries) :
    (insertEntry k v entries).map (·.1) =
      entries.map (·.1) ++ if entries.any (fun e => e.1.equal k) then [] else [k] := by
  induction entries with
  | nil => rfl
  | cons e rest ih =>
      rw [insertEntry, List.any_cons]
      cases hk : e.1.equal k with
      | true => simp
      | false =>
          rw [if_neg Bool.false_ne_true, List.map_cons, ih, Bool.false_or]
          rfl

/-- **The keys of entries that are put one after the other** are the distinct ones in the order in
which they come. -/
theorem map_insertEntries {entries : Entries} (h : Apart id (entries.map (·.1))) (new : Entries) :
    (insertEntries entries new).map (·.1) =
      distinctOn id (entries.map (·.1) ++ new.map (·.1)) := by
  induction new generalizing entries with
  | nil => rw [List.map_nil, List.append_nil, distinctOn_eq_self h]; rfl
  | cons e rest ih =>
      have hput : (insertEntry e.1 e.2 entries).map (·.1) =
          distinctOn id (entries.map (·.1) ++ [e.1]) := by
        rw [map_insertEntry, distinctOn_append, distinctOn_eq_self h, distinctOn, distinctOn,
          List.filter_nil, List.filter_cons, ← List.not_any_eq_all_not, List.any_map]
        cases hany : entries.any fun e' => e'.1.equal e.1 with
        | true => simp [Function.comp_def, hany]
        | false => simp [Function.comp_def, hany]
      have hrest := ih (hput ▸ apart_distinctOn _ : Apart id ((insertEntry e.1 e.2 entries).map _))
      rw [hput, distinctOn_distinctOn_append, List.append_assoc] at hrest
      exact hrest

/-- Entries with new keys that differ go to the end. -/
theorem insertEntries_of_apart {entries new : Entries} (h : Apart (·.1) (entries ++ new)) :
    insertEntries entries new = entries ++ new := by
  induction new generalizing entries with
  | nil => exact (List.append_nil entries).symm
  | cons e rest ih =>
      have hlast : insertEntry e.1 e.2 entries = entries ++ [e] :=
        insertEntry_of_forall fun e' he' =>
          (List.pairwise_append.mp h).2.2 e' he' e List.mem_cons_self
      have hrest : insertEntries (entries ++ [e]) rest = (entries ++ [e]) ++ rest := by
        refine ih ?_
        rwa [List.append_assoc]
      rw [insertEntries, List.foldl_cons, hlast]
      refine hrest.trans ?_
      rw [List.append_assoc]
      rfl

/-- An entry is found under its key if no other has an equal key. -/
theorem valueFor?_of_mem {entries : Entries} {e : Value × Value} (h : Apart (·.1) entries)
    (he : e ∈ entries) (hself : e.1.equal e.1 = true) : valueFor? e.1 entries = some e.2 := by
  induction entries with
  | nil => exact absurd he List.not_mem_nil
  | cons first rest ih =>
      obtain ⟨hne, hrest⟩ := List.pairwise_cons.mp h
      rw [valueFor?_cons]
      rcases List.mem_cons.mp he with rfl | hin
      · rw [if_pos hself]
      · rw [if_neg (Bool.eq_false_iff.mp (hne e hin)), ih hrest hin]

/-- Putting entries in two portions is putting them all. -/
theorem insertEntries_append (entries new more : Entries) :
    insertEntries entries (new ++ more) = insertEntries (insertEntries entries new) more :=
  List.foldl_append

/-! ### Mappings -/

/-- Two layers without two equal keys each have none together. -/
theorem apart_overlayEntries {answer : Value → Option Value} {first later : Entries}
    (hfirst : Apart (·.1) first) (hlater : Apart (·.1) later) :
    Apart (·.1) (overlayEntries answer first later) := by
  refine List.pairwise_append.mpr ⟨List.pairwise_map.mpr hlater, hfirst.filter _, ?_⟩
  intro e he f hf
  obtain ⟨e', he', rfl⟩ := List.mem_map.mp he
  obtain ⟨-, hnew⟩ := List.mem_filter.mp hf
  rw [valueFor?, Option.isNone_map, Option.isNone_iff_eq_none, List.find?_eq_none] at hnew
  exact Bool.eq_false_iff.mpr (hnew e' he')

namespace Value

mutual

/-- **A mapping lists no key twice.** -/
theorem apart_items : ∀ m : Value, Apart (·.1) m.items
  | .dict _ entries => by
      rw [items]
      exact apart_distinctOn entries
  | .layers maps => by
      rw [items]
      exact apart_layerItems maps
  | .null | .bool _ | .int _ | .float _ | .complex .. | .decimal _ | .str _ | .wrappedStr _
  | .bytes .. | .moment .. | .uuid _ | .range .. | .array _ | .seq .. | .group .. | .generator _
  | .placeholder _ | .thing _ | .unshowable _ => by
      simp only [items]
      exact .nil

/-- Layers list no key twice. -/
theorem apart_layerItems : ∀ maps : List Value, Apart (·.1) (layerItems maps)
  | [] => .nil
  | m :: rest => by
      rw [layerItems]
      exact apart_overlayEntries (apart_items m) (apart_layerItems rest)

end

/-- No two keys of a mapping are equal. -/
theorem apart_keys (m : Value) : Apart id m.keys := List.pairwise_map.mpr (apart_items m)

/-- The keys that a mapping has are those that equal a listed one. -/
theorem any_keys (m key : Value) : (m.keys.any fun k => k.equal key) = m.has key := by
  rw [← isSome_lookup?, ← valueFor?_items, valueFor?, Option.isSome_map, List.isSome_find?, keys,
    List.any_map]
  rfl

/-- **A mapping lists every key that it has once**, and no other key. -/
theorem countP_keys (m key : Value) :
    m.keys.countP (fun k => k.equal key) = if m.has key then 1 else 0 := by
  rw [← any_keys]
  exact countP_of_apart (apart_keys m) key

/-- **Of the keys that it lists it has those with an identity.** The others are equal to nothing
that is made apart from them, so that asking for a key made like them finds none. -/
theorem has_iff_of_mem_keys {m key : Value} (h : key ∈ m.keys) :
    m.has key = true ↔ key.identity?.isSome = true := by
  rw [← any_keys, List.any_eq_true, ← equal_self_iff]
  constructor
  · rintro ⟨k, -, hk⟩
    have hback : key.equal k = true := equal_comm.trans hk
    exact equal_trans hback hk
  · intro hself
    exact ⟨key, h, hself⟩

mutual

/-- A mapping that counts as false has no entries. -/
theorem items_of_isTruthy_eq_false : ∀ {m : Value}, m.isTruthy = false → m.items = []
  | .dict kind entries, h => by
      rw [isTruthy, Bool.not_eq_false', List.isEmpty_iff] at h
      rw [items, h]
      rfl
  | .layers maps, h => by
      rw [isTruthy] at h
      rw [items, layerItems_of_anyTruthy_eq_false h]
  | .null, _ | .bool _, _ | .int _, _ | .float _, _ | .complex .., _ | .decimal _, _ | .str _, _
  | .wrappedStr _, _ | .bytes .., _ | .moment .., _ | .uuid _, _ | .range .., _ | .array _, _
  | .seq .., _ | .group .., _ | .generator _, _ | .placeholder _, _ | .thing _, _
  | .unshowable _, _ => by simp [items]

/-- Layers all of which count as false have no entries. -/
theorem layerItems_of_anyTruthy_eq_false :
    ∀ {maps : List Value}, anyTruthy maps = false → layerItems maps = []
  | [], _ => by rw [layerItems]
  | m :: rest, h => by
      rw [anyTruthy, Bool.or_eq_false_iff] at h
      rw [layerItems, items_of_isTruthy_eq_false h.1, layerItems_of_anyTruthy_eq_false h.2]
      rfl

end

/-- A mapping that counts as false has no keys. -/
theorem has_of_isTruthy_eq_false {m key : Value} (h : m.isTruthy = false) : m.has key = false := by
  rw [← isSome_lookup?, ← valueFor?_items, items_of_isTruthy_eq_false h]
  rfl

/-- One layer has the entries of its mapping. -/
theorem layerItems_singleton (m : Value) : layerItems [m] = m.items := by
  rw [layerItems, layerItems, overlayEntries, List.map_nil, List.nil_append]
  exact List.filter_eq_self.mpr fun e _ => rfl

/-- **The keys of two layers** are those of the later one, and then those of the first one that are
new: the distinct ones among both. -/
theorem keys_layers_pair (first later : Value) :
    (layers [first, later]).keys = distinctOn id (later.keys ++ first.keys) := by
  have hnew : ∀ key, (later.keys.all fun k => !k.equal key) = !later.has key := by
    intro key
    rw [← any_keys, List.not_any_eq_all_not]
  have hkeys : (layers [first, later]).keys =
      later.keys ++ first.keys.filter fun key => !later.has key := by
    have hlacks : ∀ e : Value × Value, (valueFor? e.1 later.items).isNone = !later.has e.1 := by
      intro e
      rw [valueFor?_items, ← Option.not_isSome, isSome_lookup?]
    rw [keys, items, layerItems, layerItems_singleton, overlayEntries, List.map_append,
      List.map_map, keys, keys, List.filter_map]
    simp only [hlacks]
    rfl
  rw [hkeys, distinctOn_append, distinctOn_eq_self (apart_keys later),
    distinctOn_eq_self (apart_keys first)]
  simp only [id_eq, hnew]

end Value

end SqlBind
