import SqlBind.Proofs.Json.Readback

/-!
# Values That Come Back

Which values come back when they are written and read again, said of the values alone and not of
their documents: they have to be of the kinds that documents have a form for, the text of a whole
number must not be too long, lists and dictionaries must not lie in each other too deep, and the
keys of a dictionary must differ (`Value.Readable`). Such a value can be written, its text can be
read, and it comes back as it was (`Value.Readable.exists_encode`).

## Main definitions

* `Value.Readable`: such a value.

## Main results

* `Value.Readable.exists_toJson`: it has a document that is steady and no deeper than the value.
* `Value.Readable.exists_encode`: it can be written, and comes back.
-/

namespace SqlBind.Value

open Json Number Text

variable {v : Value} {depth : Nat}

/-- A value of a kind that documents have a form for, in which no whole number is too long, no
dictionary has a key twice, and lists and dictionaries lie in each other no deeper than `depth`. -/
inductive Readable : Nat → Value → Prop
  | null {depth : Nat} : Readable depth .null
  | bool {depth : Nat} {b : Bool} : Readable depth (.bool b)
  | int {depth : Nat} {i : Int} : (integerText i).length ≤ maxWholeLength → Readable depth (.int i)
  | str {depth : Nat} {s : String} : Readable depth (.str s)
  | list {depth : Nat} {items : List Value} : (∀ v ∈ items, Readable depth v) →
      Readable (depth + 1) (.seq .list items)
  | dict {depth : Nat} {entries : Entries} : (∀ e ∈ entries, ∃ name, e.1 = .str name) →
      Apart (·.1) entries → (∀ e ∈ entries, Readable depth e.2) →
      Readable (depth + 1) (.dict .plain entries)

/-- It is of the kinds that documents have a form for. -/
theorem Readable.native (h : v.Readable depth) : v.Native := by
  induction h with
  | null => exact .null
  | bool => exact .bool
  | int => exact .int
  | str => exact .str
  | list _ ih => exact .list ih
  | dict hkeys _ _ ih => exact .dict hkeys ih

/-- The keys of a dictionary of texts become names of their own. -/
theorem nodup_of_toMembers {entries : Entries} {members : List (String × Json)}
    (hkeys : ∀ e ∈ entries, ∃ name, e.1 = .str name) (hapart : Apart (·.1) entries)
    (hok : toMembers entries = .ok members) : (members.map (·.1)).Nodup := by
  have hnames : entries.map (·.1) = members.map fun m => .str m.1 := by
    induction entries generalizing members with
    | nil =>
        obtain rfl := Except.ok.inj hok
        rfl
    | cons e rest ih =>
        obtain ⟨⟨name, hname⟩, hothers⟩ := List.forall_mem_cons.mp hkeys
        obtain ⟨name', j, members, hname', -, hrest, rfl⟩ := exists_of_toMembers_cons hok
        rw [hname] at hname'
        obtain rfl := Except.ok.inj hname'
        rw [List.map_cons, List.map_cons, hname, ih hothers hapart.of_cons hrest]
  have hdiffer : (entries.map (·.1)).Pairwise fun a b => a.equal b = false :=
    List.pairwise_map.mpr hapart
  rw [hnames, List.pairwise_map] at hdiffer
  refine List.pairwise_map.mpr (hdiffer.imp fun hne heq => ?_)
  rw [Value.equal_str, decide_eq_false_iff_not] at hne
  exact hne heq

/-- Elements that have steady documents have them together. -/
theorem exists_toJsonAll {items : List Value}
    (h : ∀ v ∈ items, ∃ j, v.toJson = .ok j ∧ j.Steady ∧ j.depth ≤ depth) :
    ∃ elements, toJsonAll items = .ok elements ∧ (∀ j ∈ elements, Steady j) ∧
      depthOfElements elements ≤ depth := by
  induction items with
  | nil => exact ⟨[], rfl, List.forall_mem_nil _, Nat.zero_le _⟩
  | cons v items ih =>
      obtain ⟨⟨j, hj, hsteady, hdepth⟩, hitems⟩ := List.forall_mem_cons.mp h
      obtain ⟨elements, hall, hsteadyAll, hdepthAll⟩ := ih hitems
      refine ⟨j :: elements, ?_, List.forall_mem_cons.mpr ⟨hsteady, hsteadyAll⟩,
        Nat.max_le.mpr ⟨hdepth, hdepthAll⟩⟩
      rw [toJsonAll, hj, hall]
      rfl

/-- Entries with texts as keys whose values have steady documents have members. -/
theorem exists_toMembers {entries : Entries} (hkeys : ∀ e ∈ entries, ∃ name, e.1 = .str name)
    (h : ∀ e ∈ entries, ∃ j, e.2.toJson = .ok j ∧ j.Steady ∧ j.depth ≤ depth) :
    ∃ members, toMembers entries = .ok members ∧ (∀ m ∈ members, Steady m.2) ∧
      depthOfMembers members ≤ depth := by
  induction entries with
  | nil => exact ⟨[], rfl, List.forall_mem_nil _, Nat.zero_le _⟩
  | cons e entries ih =>
      obtain ⟨k, v⟩ := e
      obtain ⟨⟨name, (rfl : k = .str name)⟩, hothers⟩ := List.forall_mem_cons.mp hkeys
      obtain ⟨⟨j, hj, hsteady, hdepth⟩, hrest⟩ := List.forall_mem_cons.mp h
      obtain ⟨members, hall, hsteadyAll, hdepthAll⟩ := ih hothers hrest
      refine ⟨(name, j) :: members, ?_, List.forall_mem_cons.mpr ⟨hsteady, hsteadyAll⟩,
        Nat.max_le.mpr ⟨hdepth, hdepthAll⟩⟩
      rw [toMembers, hj, hall]
      rfl

/-- **It has a document**, which is steady and no deeper than the value. -/
theorem Readable.exists_toJson (h : v.Readable depth) :
    ∃ j, v.toJson = .ok j ∧ j.Steady ∧ j.depth ≤ depth := by
  induction h with
  | null => exact ⟨.null, by rw [toJson], .null, Nat.zero_le _⟩
  | @bool _ b => exact ⟨.bool b, by rw [toJson], .bool, Nat.zero_le _⟩
  | @int _ i hlength =>
      exact ⟨.int i, toJson_int (isOverlong_of_length_le hlength), .int hlength, Nat.zero_le _⟩
  | @str _ s => exact ⟨.str s, by rw [toJson], .str, Nat.zero_le _⟩
  | list _ ih =>
      obtain ⟨elements, hall, hsteady, hdepth⟩ := exists_toJsonAll ih
      refine ⟨.array elements, ?_, .array hsteady, Nat.succ_le_succ hdepth⟩
      rw [toJson, hall]
      rfl
  | dict hkeys hapart _ ih =>
      obtain ⟨members, hall, hsteady, hdepth⟩ := exists_toMembers hkeys ih
      refine ⟨.object members, ?_, .object hsteady (nodup_of_toMembers hkeys hapart hall),
        Nat.succ_le_succ hdepth⟩
      rw [toJson, hall]
      rfl

/-- **It can be written, and comes back as it was**, wherever a document may be so deep. -/
theorem Readable.exists_encode {written read : Nat} (h : v.Readable depth)
    (hwritten : depth ≤ written) (hread : depth ≤ read) :
    ∃ text, v.encode written = .ok text ∧ (Value.str text).decode read = .ok v := by
  obtain ⟨j, hj, hsteady, hdepth⟩ := h.exists_toJson
  refine ⟨String.ofList j.print, encode_of_toJson hj (Nat.le_trans hdepth hwritten), ?_⟩
  change ofRead (Json.ofText read (String.ofList j.print)) = _
  rw [hsteady.ofText_print (Nat.le_trans hdepth hread)]
  change Except.ok j.settled.toValue = _
  rw [h.native.toValue_eq hj hsteady]

end SqlBind.Value
