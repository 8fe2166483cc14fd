import SqlBind.Fault.Cause
import SqlBind.Placeholder.Scan
import SqlBind.Text.Slice

/-!
# Conversion to Marks

A conversion replaces the placeholders of a statement by question marks and lines up the bound
values in the order of their marks. A placeholder whose name is bound to a sequence becomes a group
in parentheses with one mark per element; any other bound value becomes a single mark; a
placeholder whose name is not bound stays as it is. A sequence with an element that is itself a
sequence has no positional form, and the whole conversion fails at the first one.

What each placeholder becomes is settled first, from left to right; then the statement is spliced
together from the stretches between the placeholders and what they became. Placeholders may be
supplied from outside, in any order and with any offsets; the stretches follow the rules of slices.

Bindings are not checked to be a mapping. Other values bind no name; but looking a name up in them
may fail, and then there is no conversion. A statement that is no text is not checked either; the
conversion of it fails, at the latest when everything is joined.

## Main definitions

* `Emission` and `emit`: what one placeholder becomes.
* `splice`: the statement with every placeholder replaced.
* `Conversion` and `convert`: the whole of it.
* `noTextFault`: the fault of converting what is no text.

## Main results

* `length_emission_values`: an emission has as many marks as values.
* `convertAt_of_isMapping`: with a mapping, what placeholders become is all that matters.
-/

namespace SqlBind

open Text

/-- The mark that stands for one value. -/
def mark : Char := '?'

/-- What separates the marks of a group. -/
def markSeparator : List Char := [',', ' ']

/-- Marks for `n` values, separated. -/
def markRun : Nat → List Char
  | 0 => []
  | 1 => [mark]
  | n + 2 => mark :: markSeparator ++ markRun (n + 1)

/-- The group of marks for `n` values. -/
def markGroup (n : Nat) : List Char := '(' :: markRun n ++ [')']

/-- What a placeholder becomes: the text that takes its place, the values that the marks in the
text stand for, and whether its name was bound. -/
structure Emission where
  text : List Char
  values : List Value
  resolved : Bool

/-- What a placeholder of a statement becomes under bindings. -/
def emit (sql bindings : Value) (p : Placeholder) : Outcome Emission :=
  match bindings.find? p.name with
  | none => .ok ⟨p.text.toList, [], false⟩
  | some v =>
    match v.elements? with
    | none => .ok ⟨[mark], [v], true⟩
    | some items =>
      match items.findIdx? Value.isSequence with
      | some index => .error (nestedSequenceFault p.name index sql)
      | none => .ok ⟨markGroup items.length, items, true⟩

/-- What placeholders become, from left to right. -/
def emitAll (sql bindings : Value) :
    List Placeholder → Outcome (List (Placeholder × Emission))
  | [] => .ok []
  | p :: rest => do
    let e ← emit sql bindings p
    let es ← emitAll sql bindings rest
    return (p, e) :: es

/-- The statement from the offset `start` on, with every placeholder replaced. -/
def splice (sql : List Char) (start : Int) : List (Placeholder × Emission) → List Char
  | [] => sliceFrom sql start
  | (p, e) :: rest => slice sql start p.position ++ e.text ++ splice sql p.stop rest

/-- A converted statement: its text, the values of its marks in order, how many placeholders there
were, and the names of those that were left. -/
structure Conversion where
  sql : String
  parameters : List Value
  placeholders : Nat
  unresolved : List String

/-- The conversion of a statement whose placeholders become the given emissions. -/
def Conversion.ofEmissions (sql : String) (emissions : List (Placeholder × Emission)) :
    Conversion where
  sql := String.ofList (splice sql.toList 0 emissions)
  parameters := emissions.flatMap (·.2.values)
  placeholders := emissions.length
  unresolved := (emissions.filter (!·.2.resolved)).map (·.1.name)

/-- Converts a statement, given its placeholders. Bindings that are no mapping bind no name, and may
be unable to answer for one. -/
def convertAt (sql : String) (bindings : Value) (placeholders : List Placeholder) :
    Outcome Conversion :=
  match bindings.misuse? (placeholders.map (·.name)) with
  | some problem => .error (.badLookup problem)
  | none => (emitAll (.str sql) bindings placeholders).map (.ofEmissions sql)

/-- Converts a statement, whose placeholders are scanned unless they are supplied. -/
def convert (sql : String) (bindings : Value) (supplied : Option (List Placeholder)) :
    Outcome Conversion :=
  convertAt sql bindings (supplied.getD (Placeholder.scan sql))

/-- The text of a statement; anything that is no text cannot be scanned. -/
def statementText : Value → Outcome String
  | .str s => .ok s
  | .bytes .. | .array _ => .error .scannedBytes
  | v => .error (.scannedNoText v.qualifiedName)

/-- The fault of converting a statement that is no text, whose placeholders are supplied: it has no
stretches, or a placeholder is at fault, or the first of the stretches cannot be joined. -/
def noTextFault (sql bindings : Value) (placeholders : List Placeholder) : Fault :=
  match sql.stretchName, bindings.misuse? (placeholders.map (·.name)) with
  | .error problem, _ => .badLookup problem
  | .ok _, some problem => .badLookup problem
  | .ok name, none =>
    match emitAll sql bindings placeholders with
    | .error fault => fault
    | .ok _ => .joinedNoText 0 name

/-- With a mapping, what the placeholders become is all that matters. -/
theorem convertAt_of_isMapping {sql : String} {bindings : Value} {placeholders : List Placeholder}
    (h : bindings.isMapping = true) :
    convertAt sql bindings placeholders =
      (emitAll (.str sql) bindings placeholders).map (.ofEmissions sql) := by
  rw [convertAt, Value.misuse?_of_isMapping h]

/-- What placeholders become is told of all of them. -/
theorem length_emitAll {sql bindings : Value} {placeholders : List Placeholder}
    {emissions : List (Placeholder × Emission)}
    (h : emitAll sql bindings placeholders = .ok emissions) :
    emissions.length = placeholders.length := by
  induction placeholders generalizing emissions with
  | nil =>
    cases h
    rfl
  | cons p rest ih =>
    rw [emitAll] at h
    obtain ⟨e, -, h⟩ := exists_of_bind_eq_ok h
    obtain ⟨es, hr, h⟩ := exists_of_bind_eq_ok h
    rw [← Except.ok.inj h, List.length_cons, List.length_cons, ih hr]

/-! ### Marks -/

theorem count_mark_markRun {n : Nat} : (markRun n).count mark = n := by
  fun_induction markRun n with
  | case1 => rfl
  | case2 => rfl
  | case3 n ih =>
    have comma : ',' ≠ mark := by decide
    have blank : ' ' ≠ mark := by decide
    simp [markSeparator, ih, comma, blank]

/-- A group has one mark per value. -/
theorem count_mark_markGroup {n : Nat} : (markGroup n).count mark = n := by
  have left : '(' ≠ mark := by decide
  have right : ')' ≠ mark := by decide
  simp [markGroup, List.count_append, count_mark_markRun, left, right]

/-- A resolved emission has as many marks as values. -/
theorem length_emission_values {sql bindings : Value} {p : Placeholder} {e : Emission}
    (h : emit sql bindings p = .ok e) (hr : e.resolved = true) :
    e.text.count mark = e.values.length := by
  unfold emit at h
  split at h
  · cases h
    simp at hr
  · split at h
    · cases h
      simp
    · split at h
      · cases h
      · cases h
        exact count_mark_markGroup

end SqlBind
