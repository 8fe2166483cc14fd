import SqlBind.Placeholder.Basic

/-!
# Scanning a Statement

The placeholders of a statement are found without knowledge of SQL: wherever a colon is followed
by at least one ASCII letter, digit or underscore, the longest run of such characters is a name.
Quotes and comments mean nothing to the scan, and neither does a colon in front of the colon. After
a placeholder the scan goes on behind it, so placeholders do not overlap; everywhere else it goes on
with the next character.

## Main definitions

* `Placeholder.isNameChar`: the characters of names.
* `Placeholder.scan`: the placeholders of a statement from left to right.
* `Placeholder.names`: their names, each once, in the order of first appearance.
* `Placeholder.occursIn`: whether a statement has a placeholder at all, found without a scan.

## Main results

* `Placeholder.scanFrom_cons_of_name`, `Placeholder.scanFrom_cons_of_not`: one step of the scan.
-/

namespace SqlBind.Placeholder

/-- Whether a character may stand in a name. Only ASCII letters and digits count. -/
def isNameChar (c : Char) : Bool := c.isAlphanum || c = '_'

/-- The name that a statement begins with, behind a colon: empty if there is none. -/
def leadingName (s : List Char) : List Char := s.takeWhile isNameChar

/-- What is left of a statement behind the name that it begins with. -/
def afterName (s : List Char) : List Char := s.dropWhile isNameChar

theorem leadingName_append_afterName (s : List Char) : leadingName s ++ afterName s = s :=
  List.takeWhile_append_dropWhile

theorem length_afterName_le (s : List Char) : (afterName s).length ≤ s.length := by
  have := congrArg List.length (leadingName_append_afterName s)
  simp only [List.length_append] at this
  omega

/-- The placeholder with this name at this position. -/
def ofName (name : List Char) (position ordinal : Nat) : Placeholder :=
  ⟨String.ofList name, position, ordinal, String.ofList (':' :: name)⟩

/-- The placeholders of what is left of a statement, when `position` characters and `ordinal`
placeholders lie behind. -/
def scanFrom (position ordinal : Nat) : List Char → List Placeholder
  | [] => []
  | c :: rest =>
    if c = ':' ∧ leadingName rest ≠ [] then
      ofName (leadingName rest) position ordinal ::
        scanFrom (position + 1 + (leadingName rest).length) (ordinal + 1) (afterName rest)
    else scanFrom (position + 1) ordinal rest
termination_by s => s.length
decreasing_by
  · have := length_afterName_le rest
    simp only [List.length_cons]
    omega
  · simp

/-- The placeholders of a statement from left to right. -/
def scan (sql : String) : List Placeholder := scanFrom 0 0 sql.toList

/-- The names of the placeholders of a statement, each once, in the order of first appearance. -/
def names (sql : String) : List String := ((scan sql).map (·.name)).eraseDups

/-- How many placeholders a statement has, repeated names included. -/
def count (sql : String) : Nat := (scan sql).length

/-- Whether a colon with a name character behind it occurs among the characters. -/
def occursInChars : List Char → Bool
  | [] => false
  | c :: rest => (c = ':' && rest.head?.any isNameChar) || occursInChars rest

/-- Whether a statement has a placeholder. -/
def occursIn (sql : String) : Bool := occursInChars sql.toList

@[simp] theorem scanFrom_nil {position ordinal : Nat} : scanFrom position ordinal [] = [] := by
  simp [scanFrom]

/-- A colon with a name behind it is a placeholder, and the scan goes on behind the name. -/
theorem scanFrom_cons_of_name {position ordinal : Nat} {rest : List Char}
    (h : leadingName rest ≠ []) :
    scanFrom position ordinal (':' :: rest) =
      ofName (leadingName rest) position ordinal ::
        scanFrom (position + 1 + (leadingName rest).length) (ordinal + 1) (afterName rest) := by
  rw [scanFrom]
  simp [h]

/-- Any other character is passed over. -/
theorem scanFrom_cons_of_not {position ordinal : Nat} {c : Char} {rest : List Char}
    (h : ¬(c = ':' ∧ leadingName rest ≠ [])) :
    scanFrom position ordinal (c :: rest) = scanFrom (position + 1) ordinal rest := by
  rw [scanFrom, if_neg h]

end SqlBind.Placeholder
