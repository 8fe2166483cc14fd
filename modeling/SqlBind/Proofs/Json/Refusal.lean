import SqlBind.Proofs.Json.Readback

/-!
# Values That Cannot Be Written

Whether a value can be written is decided by two things that can be read off the value. One is the
complaint about the first part of it that refuses to be shown, in the order in which the parts of
the value are written (`Value.refusal?`): an object wherever a description stands in for it, at any
depth, in a key as well as in a value, and inside what is described as a whole; and a whole number
with too many digits, wherever it stands. The other is how deep the arrays and objects of its
document lie in each other (`Value.writtenDepth`).

A complaint about a wrong type becomes the error that names the kind of the whole value. No other
complaint does: it is passed on as it is, and so is a document that is too deep
(`Value.encode_outcome`). Writing therefore does not end in a text or in that error for every value
(`Value.encode_misvalued`).

## Main definitions

* `Value.refusal?`: the complaint about the first part of a value that refuses to be shown.
* `Value.writtenDepth`: the depth of the document of a value.
* `Value.WrittenOrReported`: writing a value ends in a text, or in the error that names its kind.

## Main results

* `Value.complaint?_toJson`: a value has a document unless a part of it refuses.
* `Value.encode_outcome`: what writing a value ends in.
-/

namespace SqlBind

open Json

/-- The complaint that an attempt ends with, if it fails. -/
def complaint? {α : Type} : Except DisplayFailure α → Option DisplayFailure
  | .ok _ => none
  | .error failure => some failure

/-- Of two attempts after each other, the first that fails complains. -/
theorem complaint?_bind {α β : Type} (first : Except DisplayFailure α)
    (second : α → Except DisplayFailure β) {rest : Option DisplayFailure}
    (h : ∀ a, complaint? (second a) = rest) :
    complaint? (first >>= second) = (complaint? first).or rest := by
  cases first with
  | ok a => exact h a
  | error failure => rfl

theorem complaint?_map {α β : Type} (first : Except DisplayFailure α) (f : α → β) :
    complaint? (do return f (← first)) = complaint? first := by
  cases first <;> rfl

/-- The complaint about several whole numbers, one of which has too many digits. -/
def overlong? (is : List Int) : Option DisplayFailure :=
  if is.any isOverlong then some .tooManyDigits else none

theorem overlong?_cons (i : Int) (is : List Int) :
    overlong? (i :: is) = (overlong? [i]).or (overlong? is) := by
  unfold overlong?
  cases h : isOverlong i <;> simp [h]

theorem complaint?_showInt (i : Int) : complaint? (showInt i) = overlong? [i] := by
  unfold showInt overlong?
  cases h : isOverlong i <;> simp [h, complaint?]

/-- Whole numbers are shown unless one of them has too many digits. -/
theorem complaint?_mapM_showInt (is : List Int) : complaint? (is.mapM showInt) = overlong? is := by
  induction is with
  | nil => rfl
  | cons i is ih =>
      rw [List.mapM_cons, complaint?_bind _ _ fun _ => complaint?_map _ _, complaint?_showInt, ih,
        ← overlong?_cons]

namespace Value

variable {v : Value} {deepest : Nat}

/-! ### The first refusal -/

mutual

/-- The complaint about the first part of a value that refuses to be shown, if there is one. What a
generator yields is not looked at. -/
def refusal? : Value → Option DisplayFailure
  | .int i => overlong? [i]
  | .range start stop step => overlong? ([start, stop] ++ if step = 1 then [] else [step])
  | .array items => overlong? items
  | .placeholder p => overlong? [p.ordinal, p.position]
  | .seq _ items => refusalIn? items
  | .group _ members => refusalIn? members
  | .dict _ entries => refusalInEntries? entries
  | .layers maps => refusalIn? maps
  | .unshowable failure => some failure
  | _ => none

/-- The complaint about the first such part of several values. -/
def refusalIn? : List Value → Option DisplayFailure
  | [] => none
  | v :: rest => (refusal? v).or (refusalIn? rest)

/-- The complaint about the first such part of keys and values. -/
def refusalInEntries? : List (Value × Value) → Option DisplayFailure
  | [] => none
  | (k, v) :: rest => ((refusal? k).or (refusal? v)).or (refusalInEntries? rest)

end

mutual

/-- A value is described unless a part of it refuses. -/
theorem complaint?_describe : (v : Value) → complaint? v.describe = v.refusal?
  | .int i => complaint?_showInt i
  | .range start stop step => (complaint?_map _ _).trans (complaint?_mapM_showInt _)
  | .array [] => rfl
  | .array (i :: is) => (complaint?_map _ _).trans (complaint?_mapM_showInt (i :: is))
  | .placeholder p => by
      rw [describe, Placeholder.describe, complaint?_bind _ _ fun _ => complaint?_map _ _,
        complaint?_showInt, complaint?_showInt, ← overlong?_cons, refusal?]
  | .seq _ items => by rw [describe, complaint?_map, complaint?_describeAll items, refusal?]
  | .group _ members => by rw [describe, complaint?_map, complaint?_describeAll members, refusal?]
  | .dict _ entries => by
      rw [describe, complaint?_map, complaint?_describeEntries entries, refusal?]
  | .layers maps => by rw [describe, complaint?_map, complaint?_describeAll maps, refusal?]
  | .bytes kind _ => by cases kind <;> rfl
  | .null | .bool _ | .float _ | .complex .. | .decimal _ | .str _ | .wrappedStr _
  | .moment .. | .uuid _ | .generator _ | .thing _ | .unshowable _ => rfl

theorem complaint?_describeAll :
    (items : List Value) → complaint? (describeAll items) = refusalIn? items
  | [] => rfl
  | v :: rest => by
      rw [describeAll, complaint?_bind _ _ fun _ => complaint?_map _ _, complaint?_describe v,
        complaint?_describeAll rest, refusalIn?]

theorem complaint?_describeEntries :
    (entries : List (Value × Value)) →
      complaint? (describeEntries entries) = refusalInEntries? entries
  | [] => rfl
  | (k, v) :: rest => by
      rw [describeEntries,
        complaint?_bind _ _ fun _ => complaint?_bind _ _ fun _ => complaint?_map _ _,
        complaint?_describe k, complaint?_describe v, complaint?_describeEntries rest,
        refusalInEntries?, Option.or_assoc]

end

/-- A key gives a name unless a part of it refuses. -/
theorem complaint?_memberName (k : Value) : complaint? k.memberName = k.refusal? := by
  cases k with
  | int i => exact complaint?_showInt i
  | str | float | decimal | uuid | moment | bytes => rfl
  | _ => exact complaint?_describe _

mutual

/-- **A value has a document unless a part of it refuses to be shown**, and then the complaint is
about the first of these. -/
theorem complaint?_toJson : (v : Value) → complaint? v.toJson = v.refusal?
  | .int i => by
      rw [toJson, refusal?, overlong?, List.any_cons, List.any_nil, Bool.or_false]
      cases isOverlong i <;> rfl
  | .seq .list items | .seq .tuple items | .seq .point items => by
      rw [toJson, complaint?_map, complaint?_toJsonAll items, refusal?]
  | .group _ members => by rw [toJson, complaint?_map, complaint?_toJsonAll members, refusal?]
  | .dict .plain entries | .dict .ordered entries | .dict .defaulting entries => by
      rw [toJson, complaint?_map, complaint?_toMembers entries, refusal?]
  | .seq .deque _ | .seq .wrapped _ | .dict .readOnly _ | .dict .wrapped _ | .layers _
  | .array _ | .range .. | .placeholder _ => (complaint?_map _ _).trans (complaint?_describe _)
  | .null | .bool _ | .float _ | .complex .. | .decimal _ | .str _ | .wrappedStr _
  | .bytes .. | .moment .. | .uuid _ | .generator _ | .thing _ | .unshowable _ => rfl

theorem complaint?_toJsonAll :
    (items : List Value) → complaint? (toJsonAll items) = refusalIn? items
  | [] => rfl
  | v :: rest => by
      rw [toJsonAll, complaint?_bind _ _ fun _ => complaint?_map _ _, complaint?_toJson v,
        complaint?_toJsonAll rest, refusalIn?]

theorem complaint?_toMembers :
    (entries : List (Value × Value)) → complaint? (toMembers entries) = refusalInEntries? entries
  | [] => rfl
  | (k, v) :: rest => by
      rw [toMembers, complaint?_bind _ _ fun _ => complaint?_bind _ _ fun _ => complaint?_map _ _,
        complaint?_memberName k, complaint?_toJson v, complaint?_toMembers rest,
        refusalInEntries?, Option.or_assoc]

end

/-! ### The depth of a document -/

mutual

/-- How deep the arrays and objects of the document of a value lie in each other. What is described
as a whole is a text, however deep it is. -/
def writtenDepth : Value → Nat
  | .seq .list items | .seq .tuple items | .seq .point items => writtenDepthIn items + 1
  | .group _ members => writtenDepthIn members + 1
  | .dict .plain entries | .dict .ordered entries | .dict .defaulting entries =>
    writtenDepthInEntries entries + 1
  | _ => 0

/-- The depth of the deepest of several values. -/
def writtenDepthIn : List Value → Nat
  | [] => 0
  | v :: rest => max (writtenDepth v) (writtenDepthIn rest)

/-- The depth of the deepest of the values of several entries. -/
def writtenDepthInEntries : List (Value × Value) → Nat
  | [] => 0
  | (_, v) :: rest => max (writtenDepth v) (writtenDepthInEntries rest)

end

mutual

/-- The document of a value is as deep as the value says. -/
theorem depth_of_toJson : (v : Value) → {j : Json} → v.toJson = .ok j → j.depth = v.writtenDepth
  | .seq .list items, _, h | .seq .tuple items, _, h | .seq .point items, _, h => by
      rw [toJson] at h
      obtain ⟨elements, hall, rfl⟩ := exists_of_map_eq_ok h
      rw [Json.depth, writtenDepth, depthOfElements_of_toJsonAll items hall]
  | .group _ members, _, h => by
      rw [toJson] at h
      obtain ⟨elements, hall, rfl⟩ := exists_of_map_eq_ok h
      rw [Json.depth, writtenDepth, depthOfElements_of_toJsonAll members hall]
  | .dict .plain entries, _, h | .dict .ordered entries, _, h
  | .dict .defaulting entries, _, h => by
      rw [toJson] at h
      obtain ⟨members, hall, rfl⟩ := exists_of_map_eq_ok h
      rw [Json.depth, writtenDepth, depthOfMembers_of_toMembers entries hall]
  | .seq .deque _, _, h | .seq .wrapped _, _, h | .dict .readOnly _, _, h | .dict .wrapped _, _, h
  | .layers _, _, h | .array _, _, h | .complex .., _, h | .wrappedStr _, _, h | .range .., _, h
  | .generator _, _, h | .placeholder _, _, h | .thing _, _, h | .unshowable _, _, h => by
      obtain ⟨_, -, rfl⟩ := exists_of_map_eq_ok h
      rfl
  | .int i, _, h => by
      rw [toJson] at h
      split at h
      · cases h
      · obtain rfl := Except.ok.inj h
        rfl
  | .null, _, h | .bool _, _, h | .float _, _, h | .decimal _, _, h | .str _, _, h
  | .bytes .., _, h | .moment .., _, h | .uuid _, _, h => by
      obtain rfl := Except.ok.inj h
      rfl

theorem depthOfElements_of_toJsonAll :
    (items : List Value) → {elements : List Json} → toJsonAll items = .ok elements →
      depthOfElements elements = writtenDepthIn items
  | [], _, h => by
      obtain rfl := Except.ok.inj h
      rfl
  | v :: rest, _, h => by
      obtain ⟨j, elements, hj, hrest, rfl⟩ := exists_of_toJsonAll_cons h
      rw [depthOfElements, writtenDepthIn, depth_of_toJson v hj,
        depthOfElements_of_toJsonAll rest hrest]

theorem depthOfMembers_of_toMembers :
    (entries : List (Value × Value)) → {members : List (String × Json)} →
      toMembers entries = .ok members → depthOfMembers members = writtenDepthInEntries entries
  | [], _, h => by
      obtain rfl := Except.ok.inj h
      rfl
  | (k, v) :: rest, _, h => by
      obtain ⟨name, j, members, -, hj, hrest, rfl⟩ := exists_of_toMembers_cons h
      rw [depthOfMembers, writtenDepthInEntries, depth_of_toJson v hj,
        depthOfMembers_of_toMembers rest hrest]

end

/-! ### What writing ends in -/

/-- The error about a value that cannot be written, which names its kind. -/
def unwritable (v : Value) : LibraryError :=
  ⟨.general .serialization, "Unable to encode " ++ v.typeName ++ " as JSON", []⟩

/-- How the complaint about a part of a value is reported when the value is to be written. -/
def refused (v : Value) : DisplayFailure → Fault
  | .wrongType => .library v.unwritable
  | failure => .undisplayable failure

/-- Writing a value, where a document may be so deep, ends in a text, or in the error that names its
kind. -/
def WrittenOrReported (v : Value) (deepest : Nat) : Prop :=
  (∃ text, v.encode deepest = .ok text) ∨ v.encode deepest = .error (.library v.unwritable)

/-- A value in which nothing refuses is written, unless its document is too deep. -/
theorem encode_of_no_refusal (h : v.refusal? = none) :
    if v.writtenDepth ≤ deepest then ∃ text, v.encode deepest = .ok text
    else v.encode deepest = .error .writtenTooDeep := by
  have hcomplaint := complaint?_toJson v
  cases hj : v.toJson with
  | ok j =>
      have hdeep : j.depth = v.writtenDepth := depth_of_toJson v hj
      split
      case isTrue hle => exact ⟨_, encode_of_toJson hj (hdeep ▸ hle)⟩
      case isFalse hlt =>
        unfold encode
        rw [hj]
        exact if_pos (hdeep ▸ Nat.lt_of_not_le hlt)
  | error failure =>
      rw [hj, h] at hcomplaint
      nomatch hcomplaint

/-- A value in which something refuses is not written, and the first complaint decides how that is
reported. -/
theorem encode_of_refusal {failure : DisplayFailure} (h : v.refusal? = some failure) :
    v.encode deepest = .error (v.refused failure) := by
  have hcomplaint := complaint?_toJson v
  cases hj : v.toJson with
  | ok j =>
      rw [hj, h] at hcomplaint
      nomatch hcomplaint
  | error found =>
      rw [hj, h] at hcomplaint
      obtain rfl := Option.some.inj hcomplaint
      unfold encode
      rw [hj]
      cases found with
      | wrongType => exact congrArg Except.error (serializationFault_eq _)
      | wrongValue | tooManyDigits | surrogates => rfl

/-- **What writing a value ends in.** Let the value not be both too deep and have a part that
refuses to be shown. Then there is a text exactly if no part refuses and the document is not too
deep; the error that names the kind of the value exactly if the first complaint is about a wrong
type; any other first complaint, about a wrong value, too many digits or surrogates, is passed on;
and a document that is too deep is a fault of its own. -/
theorem encode_outcome (h : v.writtenDepth ≤ deepest ∨ v.refusal? = none) :
    (v.WrittenOrReported deepest ↔ v.writtenDepth ≤ deepest ∧
        (v.refusal? = none ∨ v.refusal? = some .wrongType)) ∧
      ((∃ text, v.encode deepest = .ok text) ↔ v.writtenDepth ≤ deepest ∧ v.refusal? = none) ∧
      (v.encode deepest = .error (.library v.unwritable) ↔ v.refusal? = some .wrongType) ∧
      (∀ failure, failure ≠ .wrongType →
        (v.encode deepest = .error (.undisplayable failure) ↔ v.refusal? = some failure)) ∧
      (v.encode deepest = .error .writtenTooDeep ↔ deepest < v.writtenDepth) := by
  unfold WrittenOrReported
  cases hrefusal : v.refusal? with
  | none =>
      have hend := @encode_of_no_refusal v deepest hrefusal
      split at hend
      case isTrue hle =>
        obtain ⟨text, htext⟩ := hend
        simp [htext, hle]
      case isFalse hlt => simp [hend, hlt, Nat.lt_of_not_le hlt]
  | some failure =>
      have hend : v.encode deepest = _ := encode_of_refusal hrefusal
      have hle : v.writtenDepth ≤ deepest := h.resolve_right (by simp [hrefusal])
      cases failure with
      | wrongType => simpa [hend, refused, hle] using fun _ hne => Ne.symm hne
      | wrongValue | tooManyDigits | surrogates => simp [hend, refused, hle]

/-- An object deep in a key that complains about a wrong type, in front of one that complains about
a wrong value: the error names the kind of the whole. -/
theorem encode_outcome_in_key :
    ∃ v : Value, v = .seq .list [.int 1, .dict .plain [(.seq .tuple [.unshowable .wrongType],
        .seq .deque [.unshowable .wrongValue])]] ∧
      v.writtenDepth ≤ 2 ∧ v.encode 2 = .error (.library v.unwritable) ∧
        v.unwritable.message = "Unable to encode list as JSON" := by
  refine ⟨_, rfl, by decide, ?_, by decide⟩
  exact (encode_outcome (.inl (by decide))).2.2.1.mpr (by decide)

/-- However deep a document may be, a list with an object that complains about a wrong value is
neither written nor reported as a list that cannot be written. -/
theorem encode_misvalued :
    ∃ v : Value, v = .seq .list [.unshowable .wrongValue] ∧ ∀ deepest,
      ¬v.WrittenOrReported deepest ∧
        v.encode deepest = .error (.undisplayable .wrongValue) := by
  have hrefusal : (Value.seq .list [.unshowable .wrongValue]).refusal? = some .wrongValue := rfl
  refine ⟨_, rfl, fun deepest => ?_⟩
  have hend : Value.encode _ deepest = _ := encode_of_refusal hrefusal
  refine ⟨?_, hend⟩
  rintro (⟨text, htext⟩ | hreported)
  · rw [hend] at htext
    nomatch htext
  · rw [hend] at hreported
    nomatch hreported

end Value

end SqlBind
