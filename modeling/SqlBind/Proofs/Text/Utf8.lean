import SqlBind.Text.Utf8

/-!
# Text, Read from Its Bytes

The symbols of the bytes of a text are its characters (`Text.symbolsOfBytes_utf8Bytes`). So bytes
with a stray byte among their symbols are the bytes of no text at all (`Text.ne_utf8Bytes`).

A character is written as one to four bytes, by the size of its number. Each size is one case: the
leading byte asks for as many continuation bytes as follow it, and the bits that it and they
contribute are put together again as the number.

## Main results

* `Text.character?_encoded`: a character is read from its bytes, whatever follows them.
* `Text.symbolsOfBytes_utf8Bytes`: the symbols of the bytes of a text are its characters.
-/

namespace SqlBind.Text

/-! ### The bytes of a text -/

theorem toList_loop_eq (bytes : ByteArray) (i : Nat) (front : List UInt8) :
    ByteArray.toList.loop bytes i front = front.reverse ++ bytes.data.toList.drop i := by
  induction i, front using ByteArray.toList.loop.induct bytes with
  | case1 i front hlt ih =>
      have hi : i < bytes.data.toList.length := hlt
      rw [ByteArray.toList.loop, if_pos hlt, ih, List.drop_eq_getElem_cons hi, List.reverse_cons,
        List.append_assoc]
      simp [ByteArray.get!, hlt]
  | case2 i front hge =>
      have hi : bytes.data.toList.length ≤ i := Nat.le_of_not_lt hge
      rw [ByteArray.toList.loop, if_neg hge, List.drop_eq_nil_of_le hi, List.append_nil]

/-- The bytes of a text are those of its characters. -/
theorem utf8Bytes_eq (s : String) : utf8Bytes s = s.toList.flatMap String.utf8EncodeChar := by
  have hbytes : s.toUTF8 = s.toList.utf8Encode := String.utf8Encode_toList.symm
  rw [utf8Bytes, hbytes, ByteArray.toList, toList_loop_eq]
  exact List.toList_data_toByteArray

/-! ### One character -/

/-- The low six bits of a number come back from the continuation byte that holds them. -/
theorem continuation?_ofNat {n : Nat} (h : n < 64) :
    continuation? (UInt8.ofNat (n + 128)) = some n := by
  have hbyte : (UInt8.ofNat (n + 128)).toNat = n + 128 :=
    UInt8.toNat_ofNat_of_lt' (show _ < 256 by omega)
  unfold continuation?
  rw [hbyte, if_pos (by simp; omega), Nat.add_sub_cancel]

theorem continuations?_cons {n count acc : Nat} (h : n < 64) (rest : List UInt8) :
    continuations? (count + 1) acc (UInt8.ofNat (n + 128) :: rest) =
      continuations? count (acc * 64 + n) rest := by
  rw [continuations?, continuation?_ofNat h]
  rfl

/-- A leading byte that asks for one continuation byte. -/
theorem leading?_two {n : Nat} (hlow : 2 ≤ n) (hhigh : n < 32) :
    leading? (UInt8.ofNat (n + 192)) = some (1, n, 0x80) := by
  have hbyte : (UInt8.ofNat (n + 192)).toNat = n + 192 :=
    UInt8.toNat_ofNat_of_lt' (show _ < 256 by omega)
  unfold leading?
  simp only [hbyte]
  rw [if_neg (by omega), if_pos (by simp; omega), Nat.add_sub_cancel]

/-- A leading byte that asks for two. -/
theorem leading?_three {n : Nat} (h : n < 16) :
    leading? (UInt8.ofNat (n + 224)) = some (2, n, 0x800) := by
  have hbyte : (UInt8.ofNat (n + 224)).toNat = n + 224 :=
    UInt8.toNat_ofNat_of_lt' (show _ < 256 by omega)
  unfold leading?
  simp only [hbyte]
  rw [if_neg (by omega), if_neg (by simp), if_pos (by simp; omega), Nat.add_sub_cancel]

/-- A leading byte that asks for three. -/
theorem leading?_four {n : Nat} (h : n ≤ 4) :
    leading? (UInt8.ofNat (n + 240)) = some (3, n, 0x10000) := by
  have hbyte : (UInt8.ofNat (n + 240)).toNat = n + 240 :=
    UInt8.toNat_ofNat_of_lt' (show _ < 256 by omega)
  unfold leading?
  simp only [hbyte]
  rw [if_neg (by omega), if_neg (by simp), if_neg (by simp), if_pos (by simp; omega),
    Nat.add_sub_cancel]

/-- A character is read if the bits of its bytes are those of its number. -/
theorem character?_eq {c : Char} {b : UInt8} {rest : List UInt8} {count bits least : Nat}
    (hlead : leading? b = some (count, bits, least)) (hleast : least ≤ c.toNat)
    (hbits : continuations? count bits rest = some c.toNat) :
    character? b rest = some (c, count) := by
  have hvalid : c.toNat.isValidChar := c.valid
  simp [character?, hlead, hbits, hleast, hvalid]

/-- **A character is read from its bytes**, whatever follows them. -/
theorem character?_encoded (c : Char) (rest : List UInt8) :
    ∃ b tail, String.utf8EncodeChar c = b :: tail ∧
      character? b (tail ++ rest) = some (c, tail.length) := by
  have hrange : c.toNat < 0x110000 := by
    rcases c.valid with h | h <;> simp only [Char.toNat] <;> omega
  obtain ⟨n, hn⟩ : ∃ n, c.toNat = n := ⟨_, rfl⟩
  have hcode : c.val.toNat = n := hn
  unfold String.utf8EncodeChar
  simp only [hcode]
  split
  case isTrue =>
    have hlead : leading? (UInt8.ofNat n) = some (0, n, 0) := by
      have hbyte : (UInt8.ofNat n).toNat = n := UInt8.toNat_ofNat_of_lt' (show _ < 256 by omega)
      simp only [leading?, hbyte]
      exact if_pos (by omega)
    exact ⟨_, [], rfl, character?_eq hlead (Nat.zero_le _) (hn ▸ rfl)⟩
  case isFalse =>
    split
    case isTrue =>
      have hbits : continuations? 1 (n / 64 % 32) (UInt8.ofNat (n % 64 + 128) :: rest) =
          some c.toNat := by
        rw [continuations?_cons (by omega), continuations?, hn]
        congr 1
        omega
      exact ⟨_, [_], rfl, character?_eq (leading?_two (by omega) (by omega)) (by omega) hbits⟩
    case isFalse =>
      split
      case isTrue =>
        have hbits : continuations? 2 (n / 4096 % 16) (UInt8.ofNat (n / 64 % 64 + 128) ::
            UInt8.ofNat (n % 64 + 128) :: rest) = some c.toNat := by
          rw [continuations?_cons (by omega), continuations?_cons (by omega), continuations?, hn]
          congr 1
          omega
        exact ⟨_, [_, _], rfl, character?_eq (leading?_three (by omega)) (by omega) hbits⟩
      case isFalse =>
        have hbits : continuations? 3 (n / 262144 % 8) (UInt8.ofNat (n / 4096 % 64 + 128) ::
            UInt8.ofNat (n / 64 % 64 + 128) :: UInt8.ofNat (n % 64 + 128) :: rest) =
            some c.toNat := by
          rw [continuations?_cons (by omega), continuations?_cons (by omega),
            continuations?_cons (by omega), continuations?, hn]
          congr 1
          omega
        exact ⟨_, [_, _, _], rfl, character?_eq (leading?_four (by omega)) (by omega) hbits⟩

/-! ### A text -/

theorem symbolsOfBytes_encoded (c : Char) (rest : List UInt8) :
    symbolsOfBytes (String.utf8EncodeChar c ++ rest) = .char c :: symbolsOfBytes rest := by
  obtain ⟨b, tail, hbytes, hread⟩ := character?_encoded c rest
  rw [hbytes, List.cons_append, symbolsOfBytes, hread]
  change Symbol.char c :: symbolsOfBytes ((tail ++ rest).drop tail.length) = _
  rw [List.drop_left]

/-- **The symbols of the bytes of a text are its characters.** -/
theorem symbolsOfBytes_utf8Bytes (s : String) : symbolsOfBytes (utf8Bytes s) = symbolsOfText s := by
  rw [utf8Bytes_eq, symbolsOfText]
  induction s.toList with
  | nil => rw [List.flatMap_nil, symbolsOfBytes, List.map_nil]
  | cons c chars ih => rw [List.flatMap_cons, symbolsOfBytes_encoded, ih, List.map_cons]

/-- **Bytes with a stray byte among their symbols are the bytes of no text.** -/
theorem ne_utf8Bytes {bytes : List UInt8} {b : UInt8} (h : .stray b ∈ symbolsOfBytes bytes)
    (s : String) : bytes ≠ utf8Bytes s := by
  rintro rfl
  rw [symbolsOfBytes_utf8Bytes, symbolsOfText] at h
  simp at h

end SqlBind.Text
