import SqlBind.Json.Printer
import SqlBind.Json.Reader

/-!
# Strings and Numbers, Read Back

What the reader makes of a string or of a whole number that was printed, whatever stands behind it.

A string comes back one character at a time: what the reader does with the text of a character is
to put that character in front of what it makes of the rest (`Json.readContent_escapeChar`). There
are three kinds of such texts, the same that printing tells apart.

A whole number ends where the digits end, so what stands behind it must not go on with it. In a
printed document nothing does: behind a value comes a comma, a closing bracket, or nothing
(`Json.Follows`). A number comes back unless its text is too long (`Json.readNumber_integerText`).

## Main definitions

* `Json.Follows`: what may stand behind a value in a printed document.

## Main results

* `Json.readString_escaped`: a printed string comes back.
* `Json.readNumber_integerText`: so does a printed whole number, if its text is not too long.
-/

namespace SqlBind.Json

open Number Text

/-! ### Strings -/

/-- The letter of an escape stands for the character that was escaped. -/
theorem unescapeLetter?_of_escapeLetter? {c e : Char} (h : escapeLetter? c = some e) :
    unescapeLetter? e = some c ∧ e ≠ 'u' := by
  unfold escapeLetter? at h
  split at h
  case isTrue hself =>
    obtain rfl := Option.some.inj h
    simp only [Bool.or_eq_true, decide_eq_true_eq] at hself
    rcases hself with rfl | rfl <;> decide
  case isFalse =>
    repeat' split at h
    all_goals simp only [Option.some.injEq, reduceCtorEq] at h
    all_goals subst_vars; decide

/-- The number of a control character has two zeros in front, and is read as it was written. -/
theorem hexCode?_of_control : ∀ n < 0x20,
    hexDigits 4 n = ['0', '0', Nat.digitChar (n / 16), Nat.digitChar (n % 16)] ∧
      hexCode? (.char '0') (.char '0') (.char (Nat.digitChar (n / 16)))
        (.char (Nat.digitChar (n % 16))) = some n := by
  decide

/-- **A printed character comes back**, in front of the rest of the string. -/
theorem readContent_escapeChar (c : Char) (rest : List Symbol) :
    readContent ((escapeChar c).map .char ++ rest) = (readContent rest).push c := by
  unfold escapeChar
  -- The cases are those of printing: a letter, a number, or the character itself.
  split
  case h_1 e he =>
    obtain ⟨hback, hu⟩ := unescapeLetter?_of_escapeLetter? he
    change readContent (.char '\\' :: .char e :: rest) = _
    rw [readContent.eq_def]
    simp [hback, hu]
  case h_2 hnone =>
    split
    case isTrue hcontrol =>
      obtain ⟨hdigits, hcode⟩ := hexCode?_of_control c.toNat hcontrol
      -- A control character is far below the surrogates, so its number stands for itself.
      have hhigh : isHighSurrogate c.toNat = false := by simp [isHighSurrogate]; omega
      have hlow : isLowSurrogate c.toNat = false := by simp [isLowSurrogate]; omega
      rw [hdigits]
      change readContent (.char '\\' :: .char 'u' :: .char '0' :: .char '0' :: .char _ ::
        .char _ :: rest) = _
      rw [readContent.eq_def]
      simp [hcode, hhigh, hlow]
    case isFalse hvisible =>
      have hplain : c ≠ '"' ∧ c ≠ '\\' := by
        constructor <;> rintro rfl <;> simp [escapeLetter?] at hnone
      change readContent (.char c :: rest) = _
      rw [readContent.eq_def]
      simp [hplain, hvisible]

/-- The characters of a string come back up to its closing quotation mark. -/
theorem readContent_escaped (content : List Char) (rest : List Symbol) :
    readContent ((content.flatMap escapeChar).map .char ++ .char '"' :: rest) =
      .ok (some content, rest) := by
  induction content with
  | nil =>
      change readContent (.char '"' :: rest) = _
      rw [readContent.eq_def]
      rfl
  | cons c content ih =>
      rw [List.flatMap_cons, List.map_append, List.append_assoc, readContent_escapeChar, ih]
      rfl

/-- **A printed string comes back**, whatever stands behind it. -/
theorem readString_escaped (s : String) (rest : List Symbol) :
    readString ((s.toList.flatMap escapeChar ++ ['"']).map .char ++ rest) = .ok (s, rest) := by
  unfold readString
  rw [List.map_append, List.append_assoc]
  have hread := readContent_escaped s.toList rest
  rw [show [('"' : Char)].map Symbol.char ++ rest = .char '"' :: rest from rfl, hread]
  simp

/-! ### Numbers -/

/-- What may stand behind a value in a printed document: nothing, a comma, or a closing bracket. -/
def Follows : List Symbol → Prop
  | [] => True
  | .char c :: _ => c = ',' ∨ c = ']' ∨ c = '\x7d'
  | .stray _ :: _ => False

variable {rest : List Symbol}

/-- The digits end where something follows that may stand behind a value. -/
theorem takeDigits_append {digits : List Char} (hdigits : ∀ c ∈ digits, c.isDigit = true)
    (hrest : Follows rest) : takeDigits (digits.map .char ++ rest) = (digits, rest) := by
  induction digits with
  | nil =>
      match rest with
      | [] => rfl
      | .char c :: rest =>
          rcases hrest with rfl | rfl | rfl <;> rfl
  | cons c digits ih =>
      obtain ⟨hc, hdigits⟩ := List.forall_mem_cons.mp hdigits
      simp [takeDigits, hc, ih hdigits]

theorem readFraction_of_follows (h : Follows rest) : readFraction rest = .ok (none, rest) := by
  match rest with
  | [] => rfl
  | .char c :: rest => rcases h with rfl | rfl | rfl <;> rfl

theorem readExponent_of_follows (h : Follows rest) : readExponent rest = .ok (none, rest) := by
  match rest with
  | [] => rfl
  | .char c :: rest => rcases h with rfl | rfl | rfl <;> rfl

theorem isDigit_of_mem_decimalDigits {n : Nat} {c : Char} (h : c ∈ decimalDigits n) :
    c.isDigit = true :=
  Nat.isDigit_of_mem_toDigits (by decide) (by decide) h

theorem exists_decimalDigits_eq (n : Nat) : ∃ c tail, decimalDigits n = c :: tail :=
  List.exists_cons_of_ne_nil Nat.toDigits_ne_nil

/-- The digits of a number that is not zero do not begin with zero. -/
theorem head?_decimalDigits_ne {n : Nat} (h : 0 < n) : (decimalDigits n).head? ≠ some '0' := by
  induction n using Nat.strongRecOn with
  | ind n ih =>
      rcases Nat.lt_or_ge n 10 with hlt | hge
      · rw [decimalDigits, Nat.toDigits_of_lt_base hlt]
        have : ∀ m < 10, 0 < m → [m.digitChar].head? ≠ some '0' := by decide
        exact this n hlt h
      · have hfront := ih (n / 10) (by omega) (by omega)
        obtain ⟨c, tail, hdigits⟩ := exists_decimalDigits_eq (n / 10)
        unfold decimalDigits at hfront hdigits ⊢
        rw [Nat.toDigits_of_base_le (by decide) hge]
        rwa [hdigits] at hfront ⊢

theorem readWhole_decimalDigits {n : Nat} (hrest : Follows rest) :
    readWhole ((decimalDigits n).map .char ++ rest) = .ok (decimalDigits n, rest) := by
  unfold readWhole
  rw [takeDigits_append (fun _ => isDigit_of_mem_decimalDigits) hrest]
  rcases Nat.eq_zero_or_pos n with rfl | hpos
  · rfl
  · have hhead := head?_decimalDigits_ne hpos
    split
    case h_1 hnil => exact absurd (congrArg Prod.fst hnil) Nat.toDigits_ne_nil
    case h_2 hzero => exact absurd (congrArg (·.1.head?) hzero) hhead
    case h_3 => rfl

theorem digitsValue_decimalDigits {n : Nat} : digitsValue (decimalDigits n) = n := by
  have : digitsValue (decimalDigits n) = Nat.ofDigitChars 10 (Nat.toDigits 10 n) 0 := by
    unfold digitsValue Nat.ofDigitChars decimalDigits digitValue
    simp only [Nat.mul_comm]
  rw [this, Nat.ofDigitChars_toDigits (by decide) (by decide)]

theorem signedInt_natAbs (i : Int) : signedInt (i < 0) (decimalDigits i.natAbs) = i := by
  unfold signedInt
  rw [digitsValue_decimalDigits]
  split
  case isTrue h => simp only [decide_eq_true_eq] at h; omega
  case isFalse h => simp only [decide_eq_true_eq] at h; omega

/-- Behind its sign, a printed number comes back unless its text is too long. -/
theorem readUnsigned_decimalDigits {negative : Bool} {n : Nat} (hrest : Follows rest) :
    readUnsigned negative ((decimalDigits n).map .char ++ rest) =
      match whole? negative (decimalDigits n) with
      | some i => .ok (.int i, rest)
      | none => .error .malformed := by
  unfold readUnsigned
  rw [readWhole_decimalDigits hrest]
  cases hwhole : whole? negative (decimalDigits n) <;>
    simp only [bind, Except.bind, readFraction_of_follows hrest, readExponent_of_follows hrest,
      hwhole]

theorem whole?_natAbs (i : Int) : whole? (i < 0) (decimalDigits i.natAbs) =
    if (integerText i).length ≤ maxWholeLength then some i else none := by
  unfold whole? integerText
  rw [signedInt_natAbs]
  by_cases h : i < 0 <;> simp [h]

/-- **A printed whole number comes back** unless its text is too long. -/
theorem readNumber_integerText (i : Int) (hrest : Follows rest) :
    readNumber ((integerText i).map .char ++ rest) =
      if (integerText i).length ≤ maxWholeLength then .ok (.int i, rest)
      else .error .malformed := by
  have hsign : readNumber ((integerText i).map .char ++ rest) =
      readUnsigned (i < 0) ((decimalDigits i.natAbs).map .char ++ rest) := by
    unfold integerText
    split
    case isTrue h =>
      rw [decide_eq_true h]
      rfl
    case isFalse h =>
      rw [decide_eq_false h]
      obtain ⟨c, tail, hdigits⟩ := exists_decimalDigits_eq i.natAbs
      have hc : c.isDigit = true := isDigit_of_mem_decimalDigits (hdigits ▸ List.mem_cons_self)
      rw [hdigits, List.map_cons, List.cons_append]
      unfold readNumber
      split
      case h_1 heq =>
        obtain ⟨rfl, -⟩ : c = '-' ∧ _ := by simpa using heq
        nomatch hc
      case h_2 => rfl
  rw [hsign, readUnsigned_decimalDigits hrest, whole?_natAbs]
  by_cases h : (integerText i).length ≤ maxWholeLength
  · rw [if_pos h, if_pos h]
  · rw [if_neg h, if_neg h]

end SqlBind.Json
