import SqlBind.Proofs.Placeholder.Label
import SqlBind.Proofs.Value.Entries

/-!
# Renaming What a Mapping Binds

A mapping that binds names can be given other names for the same values: every key that is a text,
in every layer, is renamed (`Value.renameKeys`). If the texts among its keys are names, and no two
names become the same, then the new mapping binds a new name to what the old one binds the old name
to (`Value.find?_renameKeys`). A wrapped text is the same key as the text that it wraps
(`Value.eq_str_or_of_equal`) and is renamed with it.

## Main definitions

* `Value.renameKeys`: a mapping with other names.

## Main results

* `Value.eq_str_or_of_equal`: the values that are the same key as a text.
* `Value.find?_renameKeys`: what a new name is bound to.
-/

namespace SqlBind

open Number Placeholder

/-- No quantity counts as a text. -/
theorem Atom.ofQuantity?_ne_text (q : Quantity) (s : String) : ofQuantity? q ≠ some (.text s) := by
  cases q with
  | undefined => nofun
  | infinite negative => nofun
  | finite n => nofun

namespace Value

/-- A key with another name, if it is a text. -/
def renameKey (r : String → String) : Value → Value
  | .str s => .str (r s)
  | .wrappedStr s => .wrappedStr (r s)
  | v => v

/-- A mapping in which every key that is a text has another name. -/
def renameKeys (r : String → String) (m : Value) : Value :=
  m.mapEntries fun e => (renameKey r e.1, e.2)

/-! ### Keys that are texts -/

/-- **The values that are the same key as a text** are the text and the one that wraps it. -/
theorem eq_str_or_of_equal {v : Value} {s : String} (h : v.equal (.str s) = true) :
    v = .str s ∨ v = .wrappedStr s := by
  obtain ⟨x, hv, hs⟩ := equal_iff.mp h
  obtain rfl : [Atom.text s] = x := by simpa [identity?] using hs
  cases v with
  | str t => simpa [identity?] using hv
  | wrappedStr t => simpa [identity?] using hv
  | bool b => simp [identity?, Atom.ofInt] at hv
  | int i => simp [identity?, Atom.ofInt] at hv
  | float x => simp [identity?, Atom.ofQuantity?_ne_text] at hv
  | decimal text => simp [identity?, Atom.ofQuantity?_ne_text] at hv
  | complex re im =>
      rw [identity?, complexIdentity?] at hv
      simp only [bind, Option.bind_eq_some_iff] at hv
      obtain ⟨a, ha, b, -, hv⟩ := hv
      split at hv
      · obtain ⟨rfl, -⟩ := List.cons.inj (Option.some.inj hv)
        exact absurd ha (Atom.ofQuantity?_ne_text _ s)
      · cases hv
  | range start stop step =>
      rw [identity?] at hv
      unfold rangeIdentity at hv
      split at hv <;> cases hv
  | moment kind text => cases kind <;> simp [identity?, momentIdentity] at hv
  | bytes kind data => cases kind <;> simp [identity?] at hv
  | seq kind items => cases kind <;> simp [identity?] at hv
  | group kind members => cases kind <;> simp [identity?, groupIdentity] at hv
  | _ => simp [identity?] at hv

/-- A wrapped text and a text are the same key exactly when the texts are the same. -/
theorem equal_wrappedStr_str {s t : String} :
    (wrappedStr s).equal (.str t) = decide (s = t) := by
  simp [equal, identity?]

variable {r : String → String} {name : String}

/-- A key and a name stay the same key, or stay different ones, when both are renamed. -/
theorem equal_renameKey (hr : Renames r) (hname : IsName name) {key : Value}
    (hkey : ∀ s, key.equal (.str s) = true → IsName s) :
    (renameKey r key).equal (.str (r name)) = key.equal (.str name) := by
  have hsame : ∀ s, IsName s → decide (r s = r name) = decide (s = name) := by
    intro s hs
    rw [decide_eq_decide]
    exact ⟨hr.injective hs hname, congrArg r⟩
  cases key with
  | str s =>
      rw [renameKey, equal_str, equal_str]
      exact hsame s (hkey s (by rw [equal_str, decide_eq_true rfl]))
  | wrappedStr s =>
      rw [renameKey, equal_wrappedStr_str, equal_wrappedStr_str]
      exact hsame s (hkey s (by rw [equal_wrappedStr_str, decide_eq_true rfl]))
  | _ =>
      -- no other value is the same key as any text
      refine Bool.eq_iff_iff.mpr (iff_of_false (fun h => ?_) fun h => ?_)
      · rcases eq_str_or_of_equal h with h | h <;> cases h
      · rcases eq_str_or_of_equal h with h | h <;> cases h

/-- Entries whose texts are names are found under their new names. -/
theorem valueFor?_map_renameKey (hr : Renames r) (hname : IsName name) {entries : Entries}
    (h : ∀ s, (valueFor? (.str s) entries).isSome = true → IsName s) :
    valueFor? (.str (r name)) (entries.map fun e => (renameKey r e.1, e.2)) =
      valueFor? (.str name) entries := by
  induction entries with
  | nil => rfl
  | cons e rest ih =>
      have hkey : ∀ s, e.1.equal (.str s) = true → IsName s := by
        intro s hs
        refine h s ?_
        rw [valueFor?_cons, if_pos hs]
        rfl
      have hrest : ∀ s, (valueFor? (.str s) rest).isSome = true → IsName s := by
        intro s hs
        refine h s ?_
        rw [valueFor?_cons]
        split
        · rfl
        · exact hs
      rw [List.map_cons, valueFor?_cons, valueFor?_cons, equal_renameKey hr hname hkey, ih hrest]

/-! ### Mappings -/

/-- **What a new name is bound to** is what the old one is bound to, if the texts that the mapping
has as keys are names. -/
theorem find?_renameKeys (hr : Renames r) {m : Value}
    (h : ∀ s, m.has (.str s) = true → IsName s) (hname : IsName name) :
    (m.renameKeys r).find? (r name) = m.find? name := by
  have hcarries : Carries (fun k => ∀ s, k = .str s → IsName s)
      (fun e => (renameKey r e.1, e.2)) id (.str name) (.str (r name)) := by
    refine ⟨fun entries hentries => ?_, rfl⟩
    rw [Option.map_id_fun, id_eq]
    exact valueFor?_map_renameKey hr hname fun s hs => hentries (.str s) hs s rfl
  have hlookup := lookup?_mapEntries hcarries (m := m) fun k hk s hs => h s (hs ▸ hk)
  rwa [Option.map_id_fun, id_eq] at hlookup

end Value

end SqlBind
