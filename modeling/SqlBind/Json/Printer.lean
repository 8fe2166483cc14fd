import SqlBind.Json.Document
import SqlBind.Text.Quoted

/-!
# Printing Documents

The compact text of a document: no blanks, members in their own order. Inside a string the
quotation mark, the backslash and the characters below the space are escaped, five of them by a
letter and the others by number; all other characters stand for themselves. A double that is not
finite has no JSON text and is printed as `null`.

## Main definitions

* `Json.escapeChar` and `Json.printString`: the text of a string.
* `Json.print`: the text of a document.

## Main results

* `Json.le_of_mem_printString`: the text of a string has no character below the space.
-/

namespace SqlBind.Json

open Number Text

/-- The letter that follows the backslash in the escape of a character, if it has one. -/
def escapeLetter? (c : Char) : Option Char :=
  if c = '"' || c = '\\' then some c
  else if c = '\n' then some 'n'
  else if c = '\r' then some 'r'
  else if c = '\t' then some 't'
  else if c = '\x08' then some 'b'
  else if c = '\x0c' then some 'f'
  else none

/-- One character inside a string. -/
def escapeChar (c : Char) : List Char :=
  match escapeLetter? c with
  | some e => ['\\', e]
  | none => if c.toNat < 0x20 then '\\' :: 'u' :: hexDigits 4 c.toNat else [c]

/-- The text of a string. -/
def printString (s : String) : List Char :=
  '"' :: s.toList.flatMap escapeChar ++ ['"']

/-- The text of a double; `null` if it is not finite. -/
def printFloat (x : Binary64) : List Char :=
  ((Layout.document.text? x).getD "null").toList

/-- Texts with commas between them. -/
def commaJoin : List (List Char) → List Char
  | [] => []
  | [part] => part
  | part :: rest => part ++ ',' :: commaJoin rest

mutual

/-- The text of a document. -/
def print : Json → List Char
  | .null => ['n', 'u', 'l', 'l']
  | .bool true => ['t', 'r', 'u', 'e']
  | .bool false => ['f', 'a', 'l', 's', 'e']
  | .int i => integerText i
  | .float x => printFloat x
  | .str s => printString s
  | .array elements => '[' :: commaJoin (printElements elements) ++ [']']
  | .object members => '\x7b' :: commaJoin (printMembers members) ++ ['\x7d']

/-- The texts of the elements of an array. -/
def printElements : List Json → List (List Char)
  | [] => []
  | j :: rest => print j :: printElements rest

/-- The texts of the members of an object. -/
def printMembers : List (String × Json) → List (List Char)
  | [] => []
  | (name, j) :: rest => (printString name ++ ':' :: print j) :: printMembers rest

end

/-! ### Strings -/

/-- Every digit of a number in base 16 is at or above the space. -/
theorem le_of_mem_hexDigits {width n : Nat} {c : Char} (h : c ∈ hexDigits width n) :
    0x20 ≤ c.toNat := by
  have digit : ∀ d < 16, 0x20 ≤ (Nat.digitChar d).toNat := by decide
  have core : ∀ (fuel m : Nat) (acc : List Char), (∀ c ∈ acc, 0x20 ≤ c.toNat) →
      ∀ c ∈ Nat.toDigitsCore 16 fuel m acc, 0x20 ≤ c.toNat := by
    intro fuel
    induction fuel with
    | zero => exact fun m acc h => h
    | succ fuel ih =>
      intro m acc h
      have h' : ∀ c ∈ (m % 16).digitChar :: acc, 0x20 ≤ c.toNat := by
        simp only [List.mem_cons, forall_eq_or_imp]
        exact ⟨digit _ (Nat.mod_lt _ (by decide)), h⟩
      rw [Nat.toDigitsCore]
      split
      · exact h'
      · exact ih _ _ h'
  simp only [hexDigits, List.mem_append, List.mem_replicate] at h
  rcases h with ⟨_, rfl⟩ | h
  · decide
  · exact core _ _ _ (by simp) _ h

/-- The text of a string has no character below the space, whatever the string holds. -/
theorem le_of_mem_printString {s : String} {c : Char} (h : c ∈ printString s) :
    0x20 ≤ c.toNat := by
  simp only [printString, List.cons_append, List.mem_cons, List.mem_append, List.mem_flatMap,
    List.not_mem_nil, or_false] at h
  rcases h with rfl | ⟨d, -, h⟩ | rfl
  · decide
  · simp only [escapeChar] at h
    split at h
    · rename_i e he
      simp only [List.mem_cons, List.not_mem_nil, or_false] at h
      rcases h with rfl | rfl
      · decide
      · simp only [escapeLetter?] at he
        repeat' split at he
        all_goals simp only [Option.some.injEq, reduceCtorEq] at he
        · subst he
          rename_i hd
          simp only [Bool.or_eq_true, decide_eq_true_eq] at hd
          rcases hd with rfl | rfl <;> decide
        all_goals subst he; decide
    · split at h
      · simp only [List.mem_cons] at h
        rcases h with rfl | rfl | h
        · decide
        · decide
        · exact le_of_mem_hexDigits h
      · simp only [List.mem_cons, List.not_mem_nil, or_false] at h
        subst h
        omega
  · decide

end SqlBind.Json
