import SqlBind.Json.Codec
import SqlBind.Proofs.Json.Documents
import SqlBind.Proofs.Value.Keys

/-!
# Values, Read Back

A value that was written and read again need not be the same value: a tuple comes back as a list, a
date as a text, and whatever has no form of its own in a document as its description. Written once
more, though, it gives the very same text (`Value.decode_encode`), provided that no number was lost
and no two keys of a dictionary gave one name. A value of the kinds that documents have a form for
comes back as it was.

The first half is a fact about documents: the value that a document stands for has that document
again (`Json.Steady.toJson_toValue`). A dictionary lists the members in their order, since each has
a name of its own.

Whole numbers have a limit. The reader refuses one whose text is longer than 4300 characters, and it
counts the sign, so there are numbers that can be written and not read (`Value.decode_long`).

## Main definitions

* `Value.Native`: a value of the kinds that documents have a form for.

## Main results

* `Json.Steady.toJson_toValue`: the value of a document has that document again.
* `Value.Native.toValue_eq`: a native value is the value of its document.
* `Value.decode_encode`: written, read and written again, a value gives the same text.
* `Value.decode_long`: a whole number with a longer text is not read.
-/

namespace SqlBind

open Number Text

namespace Json

variable {elements : List Json} {members : List (String × Json)}

/-! ### From documents to values and back -/

/-- A whole number whose text is not too long has not too many digits. -/
theorem isOverlong_of_length_le {i : Int} (h : (integerText i).length ≤ maxWholeLength) :
    isOverlong i = false := by
  refine decide_eq_false (Nat.not_lt.mpr (Nat.le_trans ?_ h))
  unfold integerText decimalLength
  split
  · exact Nat.le_succ _
  · exact Nat.le_refl _

theorem map_settledMembers :
    (settledMembers members).map (·.1) = members.map (·.1) := by
  induction members with
  | nil => rfl
  | cons m members ih => rw [settledMembers, List.map_cons, List.map_cons, ih]

/-- Each member becomes an entry. -/
theorem toEntries_eq_map :
    toEntries members = members.map fun m => (.str m.1, m.2.toValue) := by
  induction members with
  | nil => rfl
  | cons m members ih => rw [toEntries, ih, List.map_cons]

/-- Members with names of their own become entries without two equal keys. -/
theorem apart_toEntries (hnames : (members.map (·.1)).Nodup) :
    Apart (·.1) (toEntries members) := by
  rw [toEntries_eq_map]
  refine List.pairwise_map.mpr ((List.pairwise_map.mp hnames).imp fun hne => ?_)
  simpa using hne

/-- The value of an object is the dictionary of its members. -/
theorem toValue_object (hnames : (members.map (·.1)).Nodup) :
    (Json.object members).toValue = .dict .plain (toEntries members) := by
  have hput : insertEntries [] (toEntries members) = toEntries members :=
    insertEntries_of_apart (apart_toEntries hnames)
  rw [toValue, Value.dictOf, hput]

theorem toJsonAll_toValues (h : ∀ j ∈ elements, j.settled.toValue.toJson = .ok j.settled) :
    Value.toJsonAll (toValues (settledElements elements)) = .ok (settledElements elements) := by
  induction elements with
  | nil => rfl
  | cons j elements ih =>
      obtain ⟨hj, hrest⟩ := List.forall_mem_cons.mp h
      rw [settledElements, toValues, Value.toJsonAll, hj, ih hrest]
      rfl

theorem toMembers_toEntries (h : ∀ m ∈ members, m.2.settled.toValue.toJson = .ok m.2.settled) :
    Value.toMembers (toEntries (settledMembers members)) = .ok (settledMembers members) := by
  induction members with
  | nil => rfl
  | cons m members ih =>
      obtain ⟨hm, hrest⟩ := List.forall_mem_cons.mp h
      rw [settledMembers, toEntries, Value.toMembers, hm, ih hrest]
      rfl

/-- **The value of a document has that document again.** -/
theorem Steady.toJson_toValue {j : Json} (h : j.Steady) :
    j.settled.toValue.toJson = .ok j.settled := by
  induction h with
  | int hshort => simp [settled, toValue, Value.toJson, isOverlong_of_length_le hshort]
  | float hx => simp [settled, hx, toValue, Value.toJson]
  | array _ ih =>
      rw [settled, toValue, Value.toJson, toJsonAll_toValues ih]
      rfl
  | object _ hnames ih =>
      rw [← map_settledMembers] at hnames
      rw [settled, toValue_object hnames, Value.toJson, toMembers_toEntries ih]
      rfl
  | _ => simp [settled, toValue, Value.toJson]

end Json

namespace Value

open Json

variable {v : Value} {text : String} {deepest : Nat}

/-! ### Native values -/

/-- A value of the kinds that documents have a form for: nothing, truth values, whole numbers,
texts, lists, and dictionaries whose keys are texts. -/
inductive Native : Value → Prop
  | null : Native .null
  | bool {b : Bool} : Native (.bool b)
  | int {i : Int} : Native (.int i)
  | str {s : String} : Native (.str s)
  | list {items : List Value} : (∀ v ∈ items, Native v) → Native (.seq .list items)
  | dict {entries : Entries} : (∀ e ∈ entries, ∃ name, e.1 = .str name) →
      (∀ e ∈ entries, Native e.2) → Native (.dict .plain entries)

/-- What is written of values is written of each of them. -/
theorem exists_of_toJsonAll_cons {items : List Value} {elements : List Json}
    (h : toJsonAll (v :: items) = .ok elements) :
    ∃ j rest, v.toJson = .ok j ∧ toJsonAll items = .ok rest ∧ elements = j :: rest := by
  rw [toJsonAll] at h
  obtain ⟨j, hj, h⟩ := exists_of_bind_eq_ok h
  obtain ⟨rest, hrest, h⟩ := exists_of_bind_eq_ok h
  exact ⟨j, rest, hj, hrest, (Except.ok.inj h).symm⟩

/-- What is written of entries is written of each of them. -/
theorem exists_of_toMembers_cons {e : Value × Value} {entries : Entries}
    {members : List (String × Json)} (h : toMembers (e :: entries) = .ok members) :
    ∃ name j rest, e.1.memberName = .ok name ∧ e.2.toJson = .ok j ∧
      toMembers entries = .ok rest ∧ members = (name, j) :: rest := by
  rw [toMembers] at h
  obtain ⟨name, hname, h⟩ := exists_of_bind_eq_ok h
  obtain ⟨j, hj, h⟩ := exists_of_bind_eq_ok h
  obtain ⟨rest, hrest, h⟩ := exists_of_bind_eq_ok h
  exact ⟨name, j, rest, hname, hj, hrest, (Except.ok.inj h).symm⟩

theorem toValues_of_toJsonAll {items : List Value} {elements : List Json}
    (hitems : ∀ v ∈ items, ∀ {j : Json}, v.toJson = .ok j → j.Steady → j.settled.toValue = v)
    (hok : toJsonAll items = .ok elements) (hsteady : ∀ j ∈ elements, Steady j) :
    toValues (settledElements elements) = items := by
  induction items generalizing elements with
  | nil =>
      obtain rfl := Except.ok.inj hok
      rfl
  | cons v items ih =>
      obtain ⟨hv, hitems⟩ := List.forall_mem_cons.mp hitems
      obtain ⟨j, rest, hj, hrest, rfl⟩ := exists_of_toJsonAll_cons hok
      obtain ⟨hsteadyj, hsteady⟩ := List.forall_mem_cons.mp hsteady
      rw [settledElements, toValues, hv hj hsteadyj, ih hitems hrest hsteady]

theorem toEntries_of_toMembers {entries : Entries} {members : List (String × Json)}
    (hkeys : ∀ e ∈ entries, ∃ name, e.1 = .str name)
    (hvalues : ∀ e ∈ entries, ∀ {j : Json}, e.2.toJson = .ok j → j.Steady →
      j.settled.toValue = e.2)
    (hok : toMembers entries = .ok members) (hsteady : ∀ m ∈ members, Steady m.2) :
    toEntries (settledMembers members) = entries := by
  induction entries generalizing members with
  | nil =>
      obtain rfl := Except.ok.inj hok
      rfl
  | cons e entries ih =>
      obtain ⟨k, v⟩ := e
      obtain ⟨⟨name, (rfl : k = .str name)⟩, hothers⟩ := List.forall_mem_cons.mp hkeys
      obtain ⟨hv, hvalues⟩ := List.forall_mem_cons.mp hvalues
      obtain ⟨name', j, rest, hname, hj, hrest, rfl⟩ := exists_of_toMembers_cons hok
      obtain ⟨hsteadyj, hsteadyRest⟩ := List.forall_mem_cons.mp hsteady
      obtain rfl := Except.ok.inj hname
      rw [settledMembers, toEntries, hv hj hsteadyj, ih hothers hvalues hrest hsteadyRest]

/-- **A native value is the value of its document.** -/
theorem Native.toValue_eq (h : v.Native) {j : Json} (hj : v.toJson = .ok j) (hsteady : j.Steady) :
    j.settled.toValue = v := by
  induction h generalizing j with
  | list _ ih =>
      rw [toJson] at hj
      obtain ⟨elements, helements, hj⟩ := exists_of_bind_eq_ok hj
      obtain rfl := Except.ok.inj hj
      cases hsteady with
      | array hsteady => rw [settled, toValue, toValues_of_toJsonAll ih helements hsteady]
  | dict hkeys _ ih =>
      rw [toJson] at hj
      obtain ⟨members, hmembers, hj⟩ := exists_of_bind_eq_ok hj
      obtain rfl := Except.ok.inj hj
      cases hsteady with
      | object hsteady hnames =>
          rw [← map_settledMembers] at hnames
          rw [settled, toValue_object hnames, toEntries_of_toMembers hkeys ih hmembers hsteady]
  | int =>
      rw [toJson] at hj
      split at hj
      · cases hj
      · obtain rfl := Except.ok.inj hj
        rfl
  | _ =>
      rw [toJson] at hj
      obtain rfl := Except.ok.inj hj
      rfl

/-! ### Written, read, and written again -/

theorem encode_of_toJson {j : Json} (hj : v.toJson = .ok j) (hdepth : j.depth ≤ deepest) :
    v.encode deepest = .ok (String.ofList j.print) := by
  unfold encode
  rw [hj]
  exact if_neg (Nat.not_lt.mpr hdepth)

theorem exists_of_encode (h : v.encode deepest = .ok text) :
    ∃ j, v.toJson = .ok j ∧ j.depth ≤ deepest ∧ String.ofList j.print = text := by
  unfold encode at h
  split at h
  case h_1 j hj =>
    split at h
    case isTrue => nomatch h
    case isFalse hdepth => exact ⟨j, hj, Nat.not_lt.mp hdepth, Except.ok.inj h⟩
  all_goals nomatch h

/-- **Text that was written is read, and written again it is the same text.** This holds of every
value that can be written, if the document of the value is steady: it has no double with a text of
its own, no whole number with a text of more than 4300 characters, and no object with two members of
one name. A native value comes back as it was. Documents may be `deepest` deep where the value is
written, and so deep at least where its text is read and written again. -/
theorem decode_encode {j : Json} {read again : Nat} (h : v.encode deepest = .ok text)
    (hj : v.toJson = .ok j) (hsteady : j.Steady) (hread : deepest ≤ read)
    (hagain : deepest ≤ again) :
    ∃ w, (Value.str text).decode read = .ok w ∧ w.encode again = .ok text ∧ (v.Native → w = v) := by
  obtain ⟨j', hj', hdepth, rfl⟩ := exists_of_encode h
  obtain rfl : j = j' := Except.ok.inj (hj.symm.trans hj')
  refine ⟨j.settled.toValue, ?_, ?_, fun hnative => hnative.toValue_eq hj hsteady⟩
  · change ofRead (Json.ofText read (String.ofList j.print)) = _
    rw [hsteady.ofText_print (Nat.le_trans hdepth hread)]
    rfl
  · have hsettled : j.settled.depth ≤ again := by
      rw [hsteady.depth_settled]
      exact Nat.le_trans hdepth hagain
    rw [encode_of_toJson hsteady.toJson_toValue hsettled, hsteady.print_settled]

/-- A number as a key, characters to escape, an object without a form and a double without a text:
all of them come back as something else, with the same text. -/
theorem decode_encode_mixed :
    ∃ v : Value, v = .dict .plain [(.int 1, .seq .tuple [.str "\"\n", .thing "<odd>"]),
      (.null, .float .nan)] ∧
      ∃ text, text = "\x7b\"1\":[\"\\\"\\n\",\"<odd>\"],\"None\":null\x7d" ∧
        v.encode 2 = .ok text ∧ ∃ w, (Value.str text).decode 2 = .ok w ∧ w.encode 2 = .ok text := by
  have hj : (Value.dict .plain [(.int 1, .seq .tuple [.str "\"\n", .thing "<odd>"]),
      (.null, .float .nan)]).toJson = .ok (.object [("1", .array [.str "\"\n", .str "<odd>"]),
        ("None", .float .nan)]) := by rfl
  have hencode : Value.encode _ 2 = _ := encode_of_toJson hj (by decide)
  have hsteady : Steady (.object [("1", .array [.str "\"\n", .str "<odd>"]),
      ("None", .float .nan)]) := by
    refine .object ?_ (by decide)
    simp only [List.mem_cons, List.not_mem_nil, or_false, forall_eq_or_imp, forall_eq]
    exact ⟨.array (by simp [Steady.str]), .float rfl⟩
  obtain ⟨w, hdecode, hagain, -⟩ :=
    decode_encode hencode hj hsteady (Nat.le_refl 2) (Nat.le_refl 2)
  exact ⟨_, rfl, _, rfl, hencode, w, hdecode, hagain⟩

/-- A whole number with few enough digits is its own document. -/
theorem toJson_int {i : Int} (h : isOverlong i = false) : (Value.int i).toJson = .ok (.int i) := by
  rw [toJson, h]
  rfl

/-- **A whole number whose digits are just not too many, but whose text is too long with the sign**,
can be written, but is not read. -/
theorem decode_long {i : Int} (h : maxWholeLength < (integerText i).length)
    (hdigits : isOverlong i = false) (written read : Nat) :
    (Value.int i).encode written = .ok (intText i) ∧
      (Value.str (intText i)).decode read =
        .error (serializationFault "Unable to decode JSON document") := by
  refine ⟨encode_of_toJson (toJson_int hdigits) (Nat.zero_le _), ?_⟩
  have hmalformed : Json.ofText read (intText i) = .error .malformed := by
    have hend : Follows [] := trivial
    have hread : readValue read (2 * (integerText i).length + 1) _ = .error .malformed :=
      readValue_long h hend
    rw [List.append_nil] at hread
    unfold ofText readSymbols symbolsOfText intText
    rw [String.toList_ofList, List.length_map, hread]
    rfl
  change ofRead (Json.ofText read (intText i)) = _
  rw [hmalformed]
  rfl

/-- Minus ten to a power has one digit more than the power, and a sign. -/
theorem length_integerText_neg_tenTo (k : Nat) :
    (integerText (-(tenTo k : Int))).length = k + 2 := by
  have hpos : 0 < tenTo k := Nat.pow_pos (by decide)
  have hdigits : (decimalDigits (tenTo k)).length = k + 1 := decimalLength_tenTo k
  rw [integerText, if_pos (by omega), Int.natAbs_neg, Int.natAbs_natCast, List.length_cons, hdigits]

/-- With 4300 digits and a sign it is too long to be read. -/
theorem maxWholeLength_lt_length : maxWholeLength < (integerText (-(tenTo 4299 : Int))).length := by
  rw [length_integerText_neg_tenTo]
  decide

/-- And has not too many digits to be written. -/
theorem isOverlong_neg_tenTo_4299 : isOverlong (-(tenTo 4299 : Int)) = false :=
  (isOverlong_neg_tenTo 4299).trans (by decide)

/-- Minus ten to the power 4299, with 4300 digits and a sign, is written and not read. -/
theorem decode_encode_beyond :
    ∃ v : Value, v = .int (-(tenTo 4299 : Int)) ∧ v.Native ∧ ∀ written read,
      ∃ text, v.encode written = .ok text ∧
        (Value.str text).decode read =
          .error (serializationFault "Unable to decode JSON document") := by
  refine ⟨_, rfl, .int, fun written read => ?_⟩
  obtain ⟨hwritten, hread⟩ :=
    decode_long maxWholeLength_lt_length isOverlong_neg_tenTo_4299 written read
  exact ⟨_, hwritten, hread⟩

end Value

end SqlBind
