/-!
# Code Points

A message may name a character by its number, and some numbers are those of *surrogates*, which are
no characters: they come in pairs, and only a pair stands for one. A text of code points can hold a
surrogate that stands alone. Such a text can be kept and passed on, but it cannot be written as
UTF-8.

## Main definitions

* `CodePoint`, `CodeText`: a character or a surrogate, and texts of them.
* `CodeText.ofString`, `CodeText.toString?`: texts of characters alone.
* `CodeText.surrogates`: the surrogates that keep a text from being written.

## Main results

* `CodeText.toString?_ofString`: a text of characters alone is a text.
* `CodeText.ofString_injective`: which is the only one with these characters.
-/

namespace SqlBind.Text

/-- A character, or a surrogate that stands alone. -/
inductive CodePoint where
  | char (c : Char)
  | surrogate (n : Nat)
  deriving DecidableEq, Repr

namespace CodePoint

/-- The code point with a number. -/
def ofNat (n : Nat) : CodePoint :=
  if 0xd800 ≤ n && n ≤ 0xdfff then .surrogate n else .char (Char.ofNat n)

/-- The character that a code point is. -/
def char? : CodePoint → Option Char
  | .char c => some c
  | .surrogate _ => none

/-- The number of a code point that is a surrogate. -/
def surrogate? : CodePoint → Option Nat
  | .char _ => none
  | .surrogate n => some n

end CodePoint

/-- A text that may hold surrogates. -/
abbrev CodeText := List CodePoint

namespace CodeText

/-- Characters as code points. -/
def ofChars (chars : List Char) : CodeText := chars.map .char

/-- A text as code points. -/
def ofString (s : String) : CodeText := ofChars s.toList

/-- The text, if it consists of characters alone. -/
def toString? (t : CodeText) : Option String := (t.mapM CodePoint.char?).map String.ofList

/-- The first surrogate of a text, by its offset, and the surrogates that follow it closely. -/
def surrogates (t : CodeText) : Nat × List Nat :=
  let front := t.takeWhile (·.char?.isSome)
  (front.length, ((t.drop front.length).takeWhile (·.char?.isNone)).filterMap CodePoint.surrogate?)

/-- A text of characters alone is that text. -/
@[simp] theorem toString?_ofString {s : String} : (ofString s).toString? = some s := by
  have h (chars : List Char) : (ofChars chars).mapM CodePoint.char? = some chars := by
    induction chars with
    | nil => rfl
    | cons c rest ih =>
      rw [ofChars] at ih
      simp [ofChars, CodePoint.char?, ih]
  simp [ofString, toString?, h]

/-- Two texts with the same characters are the same. -/
theorem ofString_injective {s t : String} (h : ofString s = ofString t) : s = t := by
  have hsome : some s = some t := by rw [← toString?_ofString, h, toString?_ofString]
  exact Option.some.inj hsome

/-- A text that can be written consists of its characters. -/
theorem ofString_of_toString? {t : CodeText} {s : String} (h : t.toString? = some s) :
    ofString s = t := by
  obtain ⟨chars, hchars, rfl⟩ := Option.map_eq_some_iff.mp h
  rw [ofString, String.toList_ofList]
  clear h
  induction t generalizing chars with
  | nil =>
      obtain rfl := Option.some.inj hchars
      rfl
  | cons p rest ih =>
      rw [List.mapM_cons] at hchars
      obtain ⟨c, hc, hchars⟩ := Option.bind_eq_some_iff.mp hchars
      obtain ⟨more, hmore, hchars⟩ := Option.bind_eq_some_iff.mp hchars
      obtain rfl := Option.some.inj hchars
      cases p with
      | char d =>
          obtain rfl : d = c := Option.some.inj hc
          exact congrArg (CodePoint.char d :: ·) (ih more hmore)
      | surrogate n => nomatch hc

theorem ofString_append (s t : String) : ofString (s ++ t) = ofString s ++ ofString t := by
  rw [ofString, String.toList_append]
  exact List.map_append

theorem isEmpty_ofString (s : String) : (ofString s).isEmpty = s.isEmpty := by
  rw [Bool.eq_iff_iff, List.isEmpty_iff, String.isEmpty_iff, ofString, ofChars,
    List.map_eq_nil_iff, String.toList_eq_nil_iff]

end CodeText

end SqlBind.Text
