import SqlBind.Proofs.Json.Readback

/-!
# Documents as Lines

The text of a document stands on one line: no character in it is below the space
(`Json.visible_print`), whatever the strings in the document hold. Strings are the one place where
anything could come in, and there such characters are escaped; everything else is made of digits,
signs, letters and brackets.

Which values are read again once they are written is said here of the value and not of its document:
the numbers that are written as numbers have to fit (`Value.numbersFit`). How often a key gives one
name does not matter to that, nor what the objects in the value look like.

## Main definitions

* `Visible`: a text with no character below the space.
* `Value.numbersFit`: whether the numbers of a value are read where they are written.

## Main results

* `Json.visible_print`: the text of a document has no character below the space.
* `Value.lossless_of_toJson`: if the numbers of a value fit, none is lost in its document.
* `Value.exists_decode_of_encode`: its text is read again then.
-/

namespace SqlBind

open Number Text

/-! ### Texts without control characters -/

/-- A text with no character below the space. -/
def Visible (text : List Char) : Prop := ∀ c ∈ text, 0x20 ≤ c.toNat

namespace Visible

variable {text more : List Char} {c : Char}

theorem nil : Visible [] := List.forall_mem_nil _

/-- A given text can be looked at character by character. -/
theorem of_all (h : (text.all fun c => decide (0x20 ≤ c.toNat)) = true) : Visible text :=
  fun c hc => of_decide_eq_true (List.all_eq_true.mp h c hc)

theorem cons (hc : 0x20 ≤ c.toNat) (h : Visible text) : Visible (c :: text) :=
  List.forall_mem_cons.mpr ⟨hc, h⟩

theorem append (h : Visible text) (hmore : Visible more) : Visible (text ++ more) :=
  List.forall_mem_append.mpr ⟨h, hmore⟩

theorem take (h : Visible text) (n : Nat) : Visible (text.take n) :=
  fun c hc => h c (List.mem_of_mem_take hc)

theorem drop (h : Visible text) (n : Nat) : Visible (text.drop n) :=
  fun c hc => h c (List.mem_of_mem_drop hc)

theorem zeros (n : Nat) : Visible (List.replicate n '0') := by
  intro c hc
  obtain rfl := List.eq_of_mem_replicate hc
  decide

theorem decimalDigits (n : Nat) : Visible (Number.decimalDigits n) := by
  intro c hc
  have hdigit : c.isDigit = true := Json.isDigit_of_mem_decimalDigits hc
  simp only [Char.isDigit, Bool.and_eq_true, decide_eq_true_eq] at hdigit
  exact Nat.le_trans (by decide) hdigit.1

theorem integerText (i : Int) : Visible (Number.integerText i) := by
  unfold Number.integerText
  split
  · exact .cons (by decide) (.decimalDigits _)
  · exact .decimalDigits _

end Visible

namespace Number.Layout

variable {l : Layout} {digits : List Char}

theorem visible_powerText (hplus : Visible l.plus) (power : Int) : Visible (l.powerText power) := by
  have hsign : Visible (if power < 0 then ['-'] else l.plus) := by
    split
    · exact .of_all rfl
    · exact hplus
  exact .append (.append (.cons (by decide) hsign) (.zeros _)) (.decimalDigits _)

theorem visible_powerForm (hplus : Visible l.plus) (hdigits : Visible digits) (power : Int) :
    Visible (l.powerForm digits power) := by
  refine .append ?_ (visible_powerText hplus power)
  split
  case h_1 first second rest =>
    obtain ⟨hfirst, hrest⟩ := List.forall_mem_cons.mp hdigits
    exact .cons hfirst (.cons (by decide) hrest)
  case h_2 => exact hdigits

theorem visible_pointText (hend : Visible l.wholeEnd) (hdigits : Visible digits) (power : Int) :
    Visible (l.pointText digits power) := by
  unfold pointText
  split
  · exact .append (.cons (by decide) (.cons (by decide) (.zeros _))) hdigits
  · dsimp only
    split
    · exact .append (.append hdigits (.zeros _)) hend
    · exact .append (hdigits.take _) (.cons (by decide) (hdigits.drop _))

/-- The text of a double in a document. -/
theorem visible_document {x : Binary64} {text : String} (h : document.text? x = some text) :
    Visible text.toList := by
  have hplus : Visible document.plus := .nil
  have hend : Visible document.wholeEnd := .of_all rfl
  cases x with
  | nan => nomatch h
  | infinite => nomatch h
  | finite negative significand exponent =>
      obtain rfl := Option.some.inj h
      have hmagnitude : Visible (document.magnitudeText significand exponent) := by
        unfold magnitudeText
        split
        · exact visible_pointText hend (.of_all rfl) 0
        · dsimp only
          split
          · exact visible_pointText hend (.decimalDigits _) _
          · exact visible_powerForm hplus (.decimalDigits _) _
      rw [String.toList_ofList]
      split
      · exact .cons (by decide) hmagnitude
      · exact hmagnitude

end Number.Layout

namespace Json

theorem visible_printFloat (x : Binary64) : Visible (printFloat x) := by
  unfold printFloat
  cases htext : Layout.document.text? x with
  | none => exact .of_all rfl
  | some text => exact Layout.visible_document htext

theorem visible_commaJoin {parts : List (List Char)} (h : ∀ part ∈ parts, Visible part) :
    Visible (commaJoin parts) := by
  induction parts with
  | nil => exact .nil
  | cons part parts ih =>
      obtain ⟨hpart, hrest⟩ := List.forall_mem_cons.mp h
      cases parts with
      | nil => exact hpart
      | cons next parts => exact hpart.append (.cons (by decide) (ih hrest))

mutual

/-- **The text of a document has no character below the space**, whatever its strings hold. -/
theorem visible_print : (j : Json) → Visible j.print
  | .null | .bool true | .bool false => .of_all rfl
  | .int i => .integerText i
  | .float x => visible_printFloat x
  | .str _ => fun _ => le_of_mem_printString
  | .array elements => by
      have hparts := visible_commaJoin (visible_printElements elements)
      exact .append (.cons (by decide) hparts) (.of_all rfl)
  | .object members => by
      have hparts := visible_commaJoin (visible_printMembers members)
      exact .append (.cons (by decide) hparts) (.of_all rfl)

theorem visible_printElements :
    (elements : List Json) → ∀ part ∈ printElements elements, Visible part
  | [] => List.forall_mem_nil _
  | j :: rest => List.forall_mem_cons.mpr ⟨visible_print j, visible_printElements rest⟩

theorem visible_printMembers :
    (members : List (String × Json)) → ∀ part ∈ printMembers members, Visible part
  | [] => List.forall_mem_nil _
  | (name, j) :: rest => by
      have hname : Visible (printString name) := fun _ => le_of_mem_printString
      exact List.forall_mem_cons.mpr
        ⟨hname.append (.cons (by decide) (visible_print j)), visible_printMembers rest⟩

end

end Json

namespace Value

open Json

variable {v : Value} {text : String} {written read : Nat}

/-! ### Values whose numbers fit -/

mutual

/-- Whether the numbers of a value are read where they are written: the text of a whole number must
not be too long, and a double must have no text. Keys are written as names, and what is described is
written as a text; neither has to fit. -/
def numbersFit : Value → Bool
  | .int i => (integerText i).length ≤ maxWholeLength
  | .float x => (Layout.document.text? x).isNone
  | .seq .list items | .seq .tuple items | .seq .point items => numbersFitIn items
  | .group _ members => numbersFitIn members
  | .dict .plain entries | .dict .ordered entries | .dict .defaulting entries =>
    numbersFitInEntries entries
  | _ => true

/-- Whether the numbers of several values are. -/
def numbersFitIn : List Value → Bool
  | [] => true
  | v :: rest => numbersFit v && numbersFitIn rest

/-- Whether the numbers of the values of several entries are. -/
def numbersFitInEntries : List (Value × Value) → Bool
  | [] => true
  | (_, v) :: rest => numbersFit v && numbersFitInEntries rest

end

theorem numbersFitInEntries_iff {entries : Entries} :
    numbersFitInEntries entries = true ↔ ∀ e ∈ entries, e.2.numbersFit = true := by
  induction entries with
  | nil => simp [numbersFitInEntries]
  | cons e entries ih => rw [numbersFitInEntries, Bool.and_eq_true, ih, List.forall_mem_cons]

mutual

/-- **If the numbers of a value fit, none is lost in its document.** -/
theorem lossless_of_toJson :
    (v : Value) → {j : Json} → v.toJson = .ok j → v.numbersFit = true → j.Lossless
  | .int i, _, h, hfit => by
      rw [toJson] at h
      split at h
      · cases h
      · obtain rfl := Except.ok.inj h
        exact .int (of_decide_eq_true hfit)
  | .float x, _, h, hfit => by
      obtain rfl := Except.ok.inj h
      exact .float (Option.isNone_iff_eq_none.mp hfit)
  | .seq .list items, _, h, hfit | .seq .tuple items, _, h, hfit
  | .seq .point items, _, h, hfit => by
      rw [toJson] at h
      obtain ⟨elements, hall, rfl⟩ := exists_of_map_eq_ok h
      exact .array (lossless_of_toJsonAll items hall hfit)
  | .group _ members, _, h, hfit => by
      rw [toJson] at h
      obtain ⟨elements, hall, rfl⟩ := exists_of_map_eq_ok h
      exact .array (lossless_of_toJsonAll members hall hfit)
  | .dict .plain entries, _, h, hfit | .dict .ordered entries, _, h, hfit
  | .dict .defaulting entries, _, h, hfit => by
      rw [toJson] at h
      obtain ⟨members, hall, rfl⟩ := exists_of_map_eq_ok h
      exact .object (lossless_of_toMembers entries hall hfit)
  | .seq .deque _, _, h, _ | .seq .wrapped _, _, h, _ | .dict .readOnly _, _, h, _
  | .dict .wrapped _, _, h, _ | .layers _, _, h, _ | .array _, _, h, _ | .complex .., _, h, _
  | .wrappedStr _, _, h, _ | .range .., _, h, _ | .generator _, _, h, _ | .placeholder _, _, h, _
  | .thing _, _, h, _ | .unshowable _, _, h, _ => by
      obtain ⟨_, -, rfl⟩ := exists_of_map_eq_ok h
      exact .str
  | .null, _, h, _ => by
      obtain rfl := Except.ok.inj h
      exact .null
  | .bool _, _, h, _ => by
      obtain rfl := Except.ok.inj h
      exact .bool
  | .decimal _, _, h, _ | .str _, _, h, _ | .bytes .., _, h, _ | .moment .., _, h, _
  | .uuid _, _, h, _ => by
      obtain rfl := Except.ok.inj h
      exact .str

theorem lossless_of_toJsonAll :
    (items : List Value) → {elements : List Json} → toJsonAll items = .ok elements →
      numbersFitIn items = true → ∀ j ∈ elements, Lossless j
  | [], _, h, _ => by
      obtain rfl := Except.ok.inj h
      exact List.forall_mem_nil _
  | v :: rest, _, h, hfit => by
      obtain ⟨j, elements, hj, hrest, rfl⟩ := exists_of_toJsonAll_cons h
      rw [numbersFitIn, Bool.and_eq_true] at hfit
      exact List.forall_mem_cons.mpr
        ⟨lossless_of_toJson v hj hfit.1, lossless_of_toJsonAll rest hrest hfit.2⟩

theorem lossless_of_toMembers :
    (entries : List (Value × Value)) → {members : List (String × Json)} →
      toMembers entries = .ok members → numbersFitInEntries entries = true →
      ∀ m ∈ members, Lossless m.2
  | [], _, h, _ => by
      obtain rfl := Except.ok.inj h
      exact List.forall_mem_nil _
  | (k, v) :: rest, _, h, hfit => by
      obtain ⟨name, j, members, -, hj, hrest, rfl⟩ := exists_of_toMembers_cons h
      rw [numbersFitInEntries, Bool.and_eq_true] at hfit
      exact List.forall_mem_cons.mpr
        ⟨lossless_of_toJson v hj hfit.1, lossless_of_toMembers rest hrest hfit.2⟩

end

/-! ### The text of a value -/

/-- The text of a value has no character below the space. -/
theorem le_of_mem_encode (h : v.encode written = .ok text) {c : Char} (hc : c ∈ text.toList) :
    0x20 ≤ c.toNat := by
  obtain ⟨j, -, -, rfl⟩ := exists_of_encode h
  rw [String.toList_ofList] at hc
  exact visible_print j c hc

/-- If its numbers fit, it is read wherever a document may be as deep as where it was written. -/
theorem exists_decode_of_encode (h : v.encode written = .ok text) (hfit : v.numbersFit = true)
    (hread : written ≤ read) :
    ∃ j, v.toJson = .ok j ∧ (Value.str text).decode read = .ok j.settled.toValue := by
  obtain ⟨j, hj, hdepth, rfl⟩ := exists_of_encode h
  refine ⟨j, hj, ?_⟩
  change ofRead (Json.ofText read (String.ofList j.print)) = _
  rw [(lossless_of_toJson v hj hfit).ofText_print (Nat.le_trans hdepth hread)]
  rfl

end Value

end SqlBind
