import SqlBind.Json.Codec
import SqlBind.Proofs.Json.Documents
import SqlBind.Proofs.Text.Utf8

/-!
# What Reading a Document Ends In

Reading ends in a value or in one of three failures, and each failure is borne out by the symbols of
the document (`Json.Blames`): a string is not text only where there is a stray byte, and arrays and
objects are too deep only where there are more opening brackets than the limit. Both are shown of
every reader alike. A reader leaves behind the end of what it was given, so that what it says of
that end holds of the whole (`Json.Accounts`), and where two readers follow each other the second
speaks of what the first one left (`Json.Accounts.bind`).

Of the three failures only the first becomes the error about documents. A document that is not text
and one that is too deep are faults of their own, so that not every text and not every string of
bytes is decoded or reported (`Value.decode_unreported`); but a text without too many brackets is,
and so are its bytes (`Value.decode_outcome`).

## Main definitions

* `Json.openings`: how many symbols open an array or an object.
* `Json.Accounts`: what a reader says of the symbols it was given.
* `Value.DecodedOrReported`: decoding ends in a value, or in the error about documents.

## Main results

* `Json.accounts_read`: every value, every list of elements and every list of members is read so.
* `Json.readValue_nested`: brackets beyond the limit are too deep, whatever stands behind them.
* `Value.decodeBytes_utf8Bytes`: the bytes of a text are decoded as the text is.
* `Value.decode_outcome`: what decoding a text or bytes ends in.
-/

namespace SqlBind

open Text

namespace Json

variable {α β : Type} {s rest : List Symbol} {depth fuel : Nat}

/-! ### What a failure is borne out by -/

/-- Whether a symbol opens an array or an object. -/
def isOpening : Symbol → Bool
  | .char c => c = '[' || c = '\x7b'
  | .stray _ => false

/-- How many symbols open an array or an object. Those inside strings count as well. -/
def openings (s : List Symbol) : Nat := s.countP isOpening

/-- What a failure to read says of the symbols, if arrays and objects may be so deep. -/
def Blames (depth : Nat) (s : List Symbol) : ReadFailure → Prop
  | .malformed => True
  | .notText => ∃ b, .stray b ∈ s
  | .tooDeep => depth < openings s

/-- What is borne out by the end of the symbols is borne out by all of them. -/
theorem Blames.of_suffix {e : ReadFailure} (h : Blames depth rest e) (hrest : rest <:+ s) :
    Blames depth s e := by
  cases e with
  | malformed => trivial
  | notText =>
      obtain ⟨b, hb⟩ := h
      exact ⟨b, hrest.subset hb⟩
  | tooDeep => exact Nat.lt_of_lt_of_le h (hrest.sublist.countP_le)

/-- **A reader accounts for the symbols it was given**: what it leaves behind is the end of them,
and a failure is borne out by them. -/
def Accounts (depth : Nat) (s : List Symbol) : Except ReadFailure (α × List Symbol) → Prop
  | .ok (_, rest) => rest <:+ s
  | .error e => Blames depth s e

theorem Accounts.of_suffix {read : Except ReadFailure (α × List Symbol)}
    (h : Accounts depth rest read) (hrest : rest <:+ s) : Accounts depth s read := by
  cases read with
  | ok found => exact List.IsSuffix.trans h hrest
  | error e => exact Blames.of_suffix h hrest

/-- Of two readers after each other, the second accounts for what the first one left. -/
theorem Accounts.bind {first : Except ReadFailure (α × List Symbol)}
    {second : α × List Symbol → Except ReadFailure (β × List Symbol)}
    (h : Accounts depth s first) (hsecond : ∀ a rest, Accounts depth rest (second (a, rest))) :
    Accounts depth s (first >>= second) := by
  cases first with
  | ok found =>
      obtain ⟨a, rest⟩ := found
      exact (hsecond a rest).of_suffix h
  | error e => exact h

/-- Behind an opening bracket one level less is left. -/
theorem Accounts.enter {c : Char} {more : List Symbol}
    {read : Except ReadFailure (α × List Symbol)} (h : Accounts depth rest read)
    (hc : isOpening (.char c) = true) (hrest : rest <:+ more) :
    Accounts (depth + 1) (.char c :: more) read := by
  have hall : Accounts depth more read := h.of_suffix hrest
  match read with
  | .ok (_, behind) => exact List.IsSuffix.trans hall (List.suffix_cons _ _)
  | .error .malformed => trivial
  | .error .notText =>
      obtain ⟨b, hb⟩ := hall
      exact ⟨b, List.mem_cons_of_mem _ hb⟩
  | .error .tooDeep =>
      have hmore : depth < openings more := hall
      change depth + 1 < openings (.char c :: more)
      rw [openings, List.countP_cons_of_pos hc]
      exact Nat.succ_lt_succ hmore

/-! ### Strings -/

/-- What the characters of a string are read as: there are none only where a stray byte is, and
nothing but the grammar can be offended. -/
def StringRead.Sound (s : List Symbol) : StringRead → Prop
  | .ok (content, rest) => rest <:+ s ∧ (content = none → ∃ b, .stray b ∈ s)
  | .error e => e = .malformed

theorem StringRead.Sound.push {read : StringRead} {c : Char} (h : read.Sound rest)
    (hrest : rest <:+ s) : (read.push c).Sound s := by
  match read with
  | .error e => exact h
  | .ok (content, behind) =>
      refine ⟨h.1.trans hrest, fun hnone => ?_⟩
      obtain ⟨b, hb⟩ := h.2 (Option.map_eq_none_iff.mp hnone)
      exact ⟨b, hrest.subset hb⟩

theorem StringRead.Sound.spoil {read : StringRead} {b : UInt8} (h : read.Sound rest) :
    read.spoil.Sound (.stray b :: rest) := by
  match read with
  | .error e => exact h
  | .ok (content, behind) =>
      exact ⟨h.1.trans (List.suffix_cons _ _), fun _ => ⟨b, List.mem_cons_self⟩⟩

theorem sound_readContent (s : List Symbol) : (readContent s).Sound s := by
  fun_induction readContent s
  case case2 ih => exact ih.spoil
  case case3 => exact ⟨List.suffix_cons _ _, nofun⟩
  -- A character is put in front of the rest: a pair of escapes, one escape, a letter, or itself.
  case case6 ih => exact ih.push (by simp [List.suffix_cons_iff])
  case case9 ih => exact ih.push (by simp [List.suffix_cons_iff])
  case case12 ih => exact ih.push (by simp [List.suffix_cons_iff])
  case case15 ih => exact ih.push (List.suffix_cons _ _)
  all_goals rfl

theorem accounts_readString : Accounts depth s (readString s) := by
  have hsound := sound_readContent s
  unfold readString
  split
  case h_1 hread =>
    rw [hread] at hsound
    exact hsound.1
  case h_2 hread =>
    rw [hread] at hsound
    exact hsound.2 rfl
  case h_3 hread =>
    rw [hread] at hsound
    obtain rfl : _ = ReadFailure.malformed := hsound
    trivial

/-! ### Numbers and words -/

theorem skipBlanks_suffix : skipBlanks s <:+ s := List.dropWhile_suffix _

/-- What stands behind the first symbol after blanks. -/
theorem suffix_of_skipBlanks {first : Symbol} {more : List Symbol}
    (h : skipBlanks s = first :: more) : more <:+ s := by
  have hblanks : skipBlanks s <:+ s := skipBlanks_suffix
  rw [h] at hblanks
  exact (List.suffix_cons _ _).trans hblanks

theorem takeDigits_suffix : (takeDigits s).2 <:+ s := by
  fun_induction takeDigits s
  case case3 hread ih =>
    rw [hread] at ih
    exact ih.trans (List.suffix_cons _ _)
  all_goals exact List.suffix_refl _

theorem accounts_readWhole : Accounts depth s (readWhole s) := by
  have hdigits : (takeDigits s).2 <:+ s := takeDigits_suffix
  unfold readWhole
  split
  · trivial
  · trivial
  · exact hdigits

theorem accounts_readFraction : Accounts depth s (readFraction s) := by
  unfold readFraction
  split
  case h_1 rest =>
    have hdigits : (takeDigits rest).2 <:+ rest := takeDigits_suffix
    split
    case h_1 => trivial
    case h_2 hread =>
      rw [hread] at hdigits
      exact hdigits.trans (List.suffix_cons _ _)
  case h_2 => exact List.suffix_refl _

theorem takeSign_suffix : (takeSign s).2 <:+ s := by
  unfold takeSign
  split
  · exact List.suffix_cons _ _
  · exact List.suffix_cons _ _
  · exact List.suffix_refl _

theorem accounts_readExponent : Accounts depth s (readExponent s) := by
  unfold readExponent
  split
  case h_1 c rest =>
    have hdigits : (takeDigits (takeSign rest).2).2 <:+ rest :=
      takeDigits_suffix.trans takeSign_suffix
    split
    case isTrue =>
      dsimp only
      split
      case h_1 => trivial
      case h_2 hread =>
        rw [hread] at hdigits
        exact hdigits.trans (List.suffix_cons _ _)
    case isFalse => exact List.suffix_refl _
  case h_2 => exact List.suffix_refl _

theorem accounts_readUnsigned {negative : Bool} : Accounts depth s (readUnsigned negative s) := by
  refine accounts_readWhole.bind fun whole rest => ?_
  refine accounts_readFraction.bind fun fraction rest => ?_
  refine accounts_readExponent.bind fun exponent rest => ?_
  dsimp only
  split
  · split
    · exact List.suffix_refl _
    · trivial
  · split
    · exact List.suffix_refl _
    · trivial

theorem accounts_readNumber : Accounts depth s (readNumber s) := by
  unfold readNumber
  split
  · exact accounts_readUnsigned.of_suffix (List.suffix_cons _ _)
  · exact accounts_readUnsigned

theorem dropWord?_suffix {word : List Char} (h : dropWord? word s = some rest) : rest <:+ s := by
  fun_induction dropWord? word s with
  | case1 s =>
      obtain rfl := Option.some.inj h
      exact List.suffix_refl _
  | case2 word d more ih => exact (ih h).trans (List.suffix_cons _ _)
  | case3 => nomatch h
  | case4 => nomatch h

theorem accounts_readWord : Accounts depth s (readWord s) := by
  unfold readWord
  split
  case h_1 hword => exact dropWord?_suffix hword
  case h_2 hword _ => exact dropWord?_suffix hword
  case h_3 hword _ _ => exact dropWord?_suffix hword
  case h_4 => trivial

/-! ### Values -/

/-- A first symbol that opens an array or an object is one level. -/
theorem pos_openings {c : Char} (hc : isOpening (.char c) = true) :
    0 < openings (.char c :: rest) := by
  rw [openings, List.countP_cons_of_pos hc]
  exact Nat.succ_pos _

theorem accounts_readValue
    (helements : ∀ depth s, Accounts depth s (readElements depth fuel s))
    (hmembers : ∀ depth s, Accounts depth s (readMembers depth fuel s)) :
    Accounts depth s (readValue depth (fuel + 1) s) := by
  rw [readValue.eq_def]
  rcases s with - | ⟨c | b, rest⟩
  case nil => trivial
  case cons.stray => trivial
  case cons.char =>
    dsimp only
    split
    case isTrue =>
      have hstring : Accounts depth rest (readString rest) := accounts_readString
      refine Accounts.of_suffix (Accounts.bind hstring fun text behind => ?_)
        (List.suffix_cons _ _)
      exact List.suffix_refl _
    case isFalse =>
      split
      case isTrue hc =>
        subst hc
        split
        case h_1 => exact pos_openings rfl
        case h_2 hclose => exact (suffix_of_skipBlanks hclose).trans (List.suffix_cons _ _)
        case h_3 =>
          refine Accounts.enter (Accounts.bind (helements _ _) fun elements behind => ?_) rfl
            skipBlanks_suffix
          exact List.suffix_refl _
      case isFalse =>
        split
        case isTrue hc =>
          subst hc
          split
          case h_1 => exact pos_openings rfl
          case h_2 hclose => exact (suffix_of_skipBlanks hclose).trans (List.suffix_cons _ _)
          case h_3 =>
            refine Accounts.enter (Accounts.bind (hmembers _ _) fun members behind => ?_) rfl
              skipBlanks_suffix
            exact List.suffix_refl _
        case isFalse =>
          split
          · exact accounts_readNumber
          · exact accounts_readWord

theorem accounts_readElements
    (hvalue : ∀ depth s, Accounts depth s (readValue depth fuel s))
    (hrest : ∀ depth s, Accounts depth s (readElements depth fuel s)) :
    Accounts depth s (readElements depth (fuel + 1) s) := by
  rw [readElements]
  refine (hvalue depth s).bind fun j behind => ?_
  dsimp only
  split
  case h_1 hclose => exact suffix_of_skipBlanks hclose
  case h_2 hcomma =>
    refine Accounts.of_suffix (Accounts.bind (hrest depth _) fun elements last => ?_)
      (skipBlanks_suffix.trans (suffix_of_skipBlanks hcomma))
    exact List.suffix_refl _
  case h_3 => trivial

theorem accounts_readMembers
    (hvalue : ∀ depth s, Accounts depth s (readValue depth fuel s))
    (hrest : ∀ depth s, Accounts depth s (readMembers depth fuel s)) :
    Accounts depth s (readMembers depth (fuel + 1) s) := by
  rw [readMembers.eq_def]
  split
  case h_2 => trivial
  case h_1 depth _ _ _ less rest hfuel =>
    obtain rfl : fuel = less := Nat.succ.inj hfuel
    have hname : Accounts depth rest (readString rest) := accounts_readString
    refine Accounts.of_suffix (Accounts.bind hname fun name behind => ?_) (List.suffix_cons _ _)
    dsimp only
    split
    case h_2 => trivial
    case h_1 hcolon =>
      refine Accounts.of_suffix (Accounts.bind (hvalue depth _) fun j after => ?_)
        (skipBlanks_suffix.trans (suffix_of_skipBlanks hcolon))
      dsimp only
      split
      case h_1 hclose => exact suffix_of_skipBlanks hclose
      case h_2 hcomma =>
        refine Accounts.of_suffix (Accounts.bind (hrest depth _) fun members last => ?_)
          (skipBlanks_suffix.trans (suffix_of_skipBlanks hcomma))
        exact List.suffix_refl _
      case h_3 => trivial

/-- **Every value, every list of elements and every list of members** is read by a reader that
accounts for the symbols. The induction is on the fuel, over all three at once. -/
theorem accounts_read (fuel : Nat) :
    (∀ depth s, Accounts depth s (readValue depth fuel s)) ∧
      (∀ depth s, Accounts depth s (readElements depth fuel s)) ∧
      ∀ depth s, Accounts depth s (readMembers depth fuel s) := by
  induction fuel with
  | zero =>
      refine ⟨fun depth s => ?_, fun depth s => ?_, fun depth s => ?_⟩
      · rw [readValue.eq_def]
        trivial
      · rw [readElements.eq_def]
        trivial
      · rw [readMembers.eq_def]
        trivial
  | succ fuel ih =>
      obtain ⟨hvalue, helements, hmembers⟩ := ih
      exact ⟨fun _ _ => accounts_readValue helements hmembers,
        fun _ _ => accounts_readElements hvalue helements,
        fun _ _ => accounts_readMembers hvalue hmembers⟩

/-- A failure to read a document is borne out by its symbols. -/
theorem blames_of_readSymbols {e : ReadFailure} (h : readSymbols depth s = .error e) :
    Blames depth s e := by
  have hread := ((accounts_read (2 * s.length + 1)).1 depth (skipBlanks s)).of_suffix
    skipBlanks_suffix
  unfold readSymbols at h
  cases hvalue : readValue depth (2 * s.length + 1) (skipBlanks s) with
  | ok found =>
      rw [hvalue] at h
      change (if _ then _ else Except.error ReadFailure.malformed) = _ at h
      split at h
      · nomatch h
      · obtain rfl := Except.error.inj h
        trivial
  | error e' =>
      rw [hvalue] at h hread
      obtain rfl : e' = e := Except.error.inj h
      exact hread

/-! ### Documents that are too deep -/

/-- **Brackets beyond the limit are too deep**, whatever stands behind them. -/
theorem readValue_nested {n : Nat} (hdepth : depth < n) (hfuel : 2 * depth < fuel) :
    readValue depth fuel (List.replicate n (.char '[') ++ rest) = .error .tooDeep := by
  induction depth generalizing n fuel with
  | zero =>
      obtain ⟨fuel, rfl⟩ : ∃ less, fuel = less + 1 := ⟨fuel - 1, by omega⟩
      obtain ⟨n, rfl⟩ : ∃ less, n = less + 1 := ⟨n - 1, by omega⟩
      rw [List.replicate_succ, readValue.eq_def]
      rfl
  | succ depth ih =>
      -- One step of fuel goes into the value, one into the element that it begins with.
      obtain ⟨fuel, rfl⟩ : ∃ less, fuel = less + 2 := ⟨fuel - 2, by omega⟩
      obtain ⟨n, rfl⟩ : ∃ less, n = less + 2 := ⟨n - 2, by omega⟩
      have hinside : readValue depth fuel (.char '[' :: (List.replicate n (.char '[') ++ rest)) =
          .error .tooDeep := by
        have hless : depth < n + 1 := by omega
        exact ih hless (by omega)
      rw [List.replicate_succ, List.replicate_succ, List.cons_append, List.cons_append,
        readValue_array rfl (by decide), readElements, hinside]
      rfl

/-- A text of nothing but brackets is not read if there are more of them than the limit. -/
theorem ofText_nested {n : Nat} (h : depth < n) :
    ofText depth (String.ofList (List.replicate n '[')) = .error .tooDeep := by
  obtain ⟨less, rfl⟩ : ∃ less, n = less + 1 := ⟨n - 1, by omega⟩
  have hsymbols : symbolsOfText (String.ofList (List.replicate (less + 1) '[')) =
      List.replicate (less + 1) (.char '[') ++ [] := by
    rw [symbolsOfText, String.toList_ofList, List.map_replicate, List.append_nil]
  have hblanks : skipBlanks (List.replicate (less + 1) (.char '[') ++ []) =
      List.replicate (less + 1) (.char '[') ++ [] := skipBlanks_cons '[' rfl
  unfold ofText readSymbols
  rw [hsymbols, hblanks, readValue_nested h (by simp; omega)]
  rfl

end Json

namespace Value

open Json

variable {v : Value} {deepest : Nat}

/-! ### What decoding ends in -/

/-- The error about a document that cannot be read. -/
def undecodable : LibraryError :=
  ⟨.general .serialization, "Unable to decode JSON document", []⟩

/-- Decoding, where a document may be so deep, ends in a value, or in the error about documents. -/
def DecodedOrReported (v : Value) (deepest : Nat) : Prop :=
  (∃ w, v.decode deepest = .ok w) ∨ v.decode deepest = .error (.library undecodable)

/-- What the fault of reading symbols is, and what it is borne out by. -/
theorem ofRead_outcome {found : Outcome Value} {s : List Symbol}
    (h : ofRead (readSymbols deepest s) = found) :
    ((∃ w, found = .ok w) ∨ found = .error (.library undecodable)) ∨
      (found = .error .decodedNoText ∧ ∃ b, .stray b ∈ s) ∨
      (found = .error .readTooDeep ∧ deepest < openings s) := by
  subst h
  cases hread : readSymbols deepest s with
  | ok j => exact .inl (.inl ⟨j.toValue, rfl⟩)
  | error e =>
      have hblames : Blames deepest s e := blames_of_readSymbols hread
      cases e with
      | malformed => exact .inl (.inr (congrArg Except.error (serializationFault_eq _)))
      | notText => exact .inr (.inl ⟨rfl, hblames⟩)
      | tooDeep => exact .inr (.inr ⟨rfl, hblames⟩)

/-- The bytes of a text are decoded as the text is. -/
theorem decodeBytes_utf8Bytes (s : String) :
    decodeBytes deepest (utf8Bytes s) = decodeText deepest s := by
  rw [decodeBytes, Json.ofBytes, symbolsOfBytes_utf8Bytes]
  rfl

/-- **What decoding ends in.** A text is decoded or reported, unless it has more opening brackets
than arrays and objects may be deep. Bytes are decoded or reported too, unless they are the bytes of
no text or have more opening brackets than that; and each of the two has a fault of its own. -/
theorem decode_outcome (deepest : Nat) (s : String) (kind : BytesKind) (data : List UInt8) :
    ((Value.str s).DecodedOrReported deepest ∨
      ((Value.str s).decode deepest = .error .readTooDeep ∧
        deepest < openings (symbolsOfText s))) ∧
    ((Value.bytes kind data).DecodedOrReported deepest ∨
      ((Value.bytes kind data).decode deepest = .error .decodedNoText ∧
        ∀ s, data ≠ utf8Bytes s) ∨
      ((Value.bytes kind data).decode deepest = .error .readTooDeep ∧
        deepest < openings (symbolsOfBytes data))) := by
  have htext : ofRead (readSymbols deepest (symbolsOfText s)) = (Value.str s).decode deepest := rfl
  have hbytes : ofRead (readSymbols deepest (symbolsOfBytes data)) =
      (Value.bytes kind data).decode deepest := rfl
  constructor
  · rcases ofRead_outcome htext with hreported | ⟨-, b, hb⟩ | hdeep
    · exact .inl hreported
    · simp [symbolsOfText] at hb
    · exact .inr hdeep
  · rcases ofRead_outcome hbytes with hreported | ⟨hnoText, b, hb⟩ | hdeep
    · exact .inl hreported
    · exact .inr (.inl ⟨hnoText, ne_utf8Bytes hb⟩)
    · exact .inr (.inr hdeep)

theorem not_decodedOrReported {fault : Fault} (h : v.decode deepest = .error fault)
    (hfault : ∀ e, fault ≠ .library e) : ¬v.DecodedOrReported deepest := by
  rintro (⟨w, hw⟩ | hreported)
  · rw [h] at hw
    nomatch hw
  · rw [h] at hreported
    exact hfault _ (Except.error.inj hreported)

/-- Too many brackets have a fault of their own. -/
theorem decode_nested {n : Nat} (h : deepest < n) :
    (Value.str (String.ofList (List.replicate n '['))).decode deepest = .error .readTooDeep := by
  change ofRead (ofText _ _) = _
  rw [ofText_nested h]
  rfl

/-- However deep a document may be, a stray byte between quotation marks is neither decoded nor
reported, and nor are brackets that are one too many. -/
theorem decode_unreported :
    (∃ v : Value, v = .bytes .fixed [0x22, 0xff, 0x22] ∧ ∀ deepest,
      v.decode deepest = .error .decodedNoText ∧ ¬v.DecodedOrReported deepest) ∧
    ∀ deepest, ∃ v : Value, v = .str (String.ofList (List.replicate (deepest + 1) '[')) ∧
      v.decode deepest = .error .readTooDeep ∧ ¬v.DecodedOrReported deepest := by
  constructor
  · have hsymbols : symbolsOfBytes [0x22, 0xff, 0x22] = [.char '"', .stray 0xff, .char '"'] := by
      simp [symbolsOfBytes, character?, leading?, continuations?]
    have hend (deepest : Nat) : (Value.bytes .fixed [0x22, 0xff, 0x22]).decode deepest =
        .error .decodedNoText := by
      change ofRead (readSymbols deepest (symbolsOfBytes _)) = _
      rw [hsymbols]
      rfl
    exact ⟨_, rfl, fun deepest => ⟨hend deepest, not_decodedOrReported (hend deepest) (by simp)⟩⟩
  · intro deepest
    have hend := decode_nested (Nat.lt_succ_self deepest)
    exact ⟨_, rfl, hend, not_decodedOrReported hend (by simp)⟩

end Value

end SqlBind
