import SqlBind.Rewrite.Conversion

/-!
# What Bindings Reply to a Name

A conversion asks its bindings for the name of each placeholder, and only the reply matters: no
value, a value that stands for itself, or a sequence. This module says in terms of the reply what
becomes of one placeholder (`emit_eq`) and of many (`emitAll_eq`): either the first name that is
bound to a nested sequence decides, or every placeholder becomes what its own name is bound to.

The marks of a value are described here independently of the way in which a conversion writes them
(`markGroup_eq`).

## Main definitions

* `Value.marks`, `Value.parts`: the text that takes the place of a value, and the values in it.
* `Value.nestedAt?`: where a sequence holds another one.
* `firstNested?`: the first of several names that is bound to a nested sequence.

## Main results

* `emitAll_eq`: what placeholders become, by the replies to their names.
* `nestedSequenceFault_eq`: the error about a nested sequence carries the name, the place and the
  statement.
-/

namespace SqlBind

namespace Value

/-- The text that takes the place of a bound value: one mark, or for a sequence a group in
parentheses of one mark per element, separated by a comma and a blank. -/
def marks (v : Value) : List Char :=
  match v.elements? with
  | none => ['?']
  | some items => '(' :: [',', ' '].intercalate (List.replicate items.length ['?']) ++ [')']

/-- The values that the marks of a bound value stand for: itself, or the elements of a sequence. -/
def parts (v : Value) : List Value := v.elements?.getD [v]

/-- The least place at which a sequence has an element that is itself a sequence. -/
def nestedAt? (v : Value) : Option Nat := v.elements?.bind (·.findIdx? isSequence)

end Value

/-- What a placeholder becomes if its name is not bound to a nested sequence. -/
def emission (bindings : Value) (p : Placeholder) : Emission :=
  match bindings.find? p.name with
  | none => ⟨p.text.toList, [], false⟩
  | some v => ⟨v.marks, v.parts, true⟩

/-- The least place at which the sequence that a name is bound to has another one. -/
def nestedUnder? (bindings : Value) (name : String) : Option Nat :=
  (bindings.find? name).bind Value.nestedAt?

/-- The first of several names that is bound to a nested sequence, with the place of the inner
one. -/
def firstNested? (bindings : Value) (names : List String) : Option (String × Nat) :=
  names.findSome? fun name => (nestedUnder? bindings name).map (name, ·)

/-- The values that several names contribute, in order. -/
def boundParts (bindings : Value) (names : List String) : List Value :=
  names.flatMap fun name => ((bindings.find? name).map Value.parts).getD []

/-! ### Marks -/

/-- Marks in a run are marks with separators between them. -/
theorem markRun_eq (n : Nat) :
    markRun n = [',', ' '].intercalate (List.replicate n ['?']) := by
  induction n using markRun.induct with
  | case1 => rfl
  | case2 => rfl
  | case3 n ih =>
      rw [markRun, ih]
      rfl

/-- A sequence is replaced by the group of its marks. -/
theorem markGroup_eq {v : Value} {items : List Value} (h : v.elements? = some items) :
    markGroup items.length = v.marks := by
  rw [markGroup, markRun_eq, Value.marks, h]

/-- Marks begin with a mark or an opening parenthesis. -/
theorem head?_marks (v : Value) : v.marks.head? = some '?' ∨ v.marks.head? = some '(' := by
  unfold Value.marks
  cases v.elements? with
  | none => exact Or.inl rfl
  | some items => exact Or.inr rfl

/-- There is no colon in a run of marks. -/
theorem colon_notMem_markRun (n : Nat) : ':' ∉ markRun n := by
  induction n using markRun.induct with
  | case1 => decide
  | case2 => decide
  | case3 n ih =>
      rw [markRun, List.mem_append, not_or]
      exact ⟨by decide, ih⟩

/-- There is no colon among marks. -/
theorem colon_notMem_marks (v : Value) : ':' ∉ v.marks := by
  cases h : v.elements? with
  | none =>
      rw [Value.marks, h]
      decide
  | some items =>
      rw [← markGroup_eq h, markGroup]
      simpa using colon_notMem_markRun items.length

/-! ### The error about a nested sequence -/

/-- Without a detail of its own before, a new error has the one that it is given. -/
theorem settleDetail_nil (detail : Value) :
    LibraryError.settleDetail none detail [] = (detail, []) := by
  unfold LibraryError.settleDetail
  split <;> rfl

/-- A message followed by a statement is a text. -/
theorem exists_withStatement_eq (message sql : String) :
    ∃ detail, LibraryError.withStatement (.str message) (.str sql) = .ok (.str detail) := by
  unfold LibraryError.withStatement
  split
  · exact ⟨_, rfl⟩
  · exact ⟨_, rfl⟩

/-- The error about a nested sequence carries the statement, the name and the place at fault. -/
theorem nestedSequenceFault_eq (name : String) (index : Nat) (sql : String) :
    ∃ detail, nestedSequenceFault name index (.str sql) =
      .library ⟨.nestedSequence (.str sql) (.str name) (.int index), detail, []⟩ := by
  obtain ⟨detail, hdetail⟩ := exists_withStatement_eq
    (LibraryError.nestedSequenceWords (Text.quote name) (intText index)) sql
  refine ⟨detail, ?_⟩
  simp only [nestedSequenceFault, hdetail]
  rfl

/-- So errors about nested sequences of one statement differ in the name or the place. -/
theorem nestedSequenceFault_inj {name₁ name₂ sql : String} {index₁ index₂ : Nat}
    (h : nestedSequenceFault name₁ index₁ (.str sql) =
      nestedSequenceFault name₂ index₂ (.str sql)) : name₁ = name₂ ∧ index₁ = index₂ := by
  obtain ⟨detail₁, h₁⟩ := nestedSequenceFault_eq name₁ index₁ sql
  obtain ⟨detail₂, h₂⟩ := nestedSequenceFault_eq name₂ index₂ sql
  rw [h₁, h₂] at h
  injection h with h
  injection h with hsubject
  injection hsubject with _ hname hindex
  injection hname with hname
  injection hindex with hindex
  exact ⟨hname, Int.ofNat.inj hindex⟩

/-- A name that bindings cannot answer for is another matter than a nested sequence. -/
theorem badLookup_ne_nestedSequenceFault (problem : LookupProblem) (name : String) (index : Nat)
    (sql : String) : Fault.badLookup problem ≠ nestedSequenceFault name index (.str sql) := by
  obtain ⟨detail, h⟩ := nestedSequenceFault_eq name index sql
  rw [h]
  exact fun h => Fault.noConfusion h

/-! ### Replies -/

/-- What a placeholder becomes hangs on the reply to its name. -/
theorem emit_eq (sql bindings : Value) (p : Placeholder) :
    emit sql bindings p =
      match nestedUnder? bindings p.name with
      | some index => .error (nestedSequenceFault p.name index sql)
      | none => .ok (emission bindings p) := by
  unfold emit emission nestedUnder?
  cases bindings.find? p.name with
  | none => rfl
  | some v =>
      simp only [Option.bind_some, Value.nestedAt?]
      cases h : v.elements? with
      | none => simp [Value.marks, Value.parts, h, mark]
      | some items =>
          simp only [Option.bind_some]
          cases items.findIdx? Value.isSequence with
          | some index => rfl
          | none => simp [markGroup_eq h, Value.parts, h]

/-- What is no mapping binds no name. -/
theorem find?_of_isMapping_eq_false {bindings : Value} (h : bindings.isMapping = false)
    (name : String) : bindings.find? name = none := by
  cases bindings <;> simp_all [Value.isMapping, Value.find?, Value.lookup?, Value.has]

/-- So what binds a name to a nested sequence is a mapping. -/
theorem isMapping_of_firstNested? {bindings : Value} {names : List String} {found : String × Nat}
    (h : firstNested? bindings names = some found) : bindings.isMapping = true := by
  cases hmap : bindings.isMapping with
  | true => rfl
  | false =>
      obtain ⟨name, -, hfound⟩ := List.exists_of_findSome?_eq_some h
      rw [nestedUnder?, find?_of_isMapping_eq_false hmap] at hfound
      cases hfound

/-- No place is found under a name exactly if it is bound to no sequence with a sequence in it. -/
theorem nestedUnder?_eq_none_iff {bindings : Value} {name : String} :
    nestedUnder? bindings name = none ↔
      ∀ v, bindings.find? name = some v → ∀ items, v.elements? = some items →
        ∀ item ∈ items, item.isSequence = false := by
  simp only [nestedUnder?, Value.nestedAt?, Option.bind_eq_none_iff, List.findIdx?_eq_none_iff]

/-- The first name decides, unless it is bound to no nested sequence. -/
theorem firstNested?_cons (bindings : Value) (name : String) (rest : List String) :
    firstNested? bindings (name :: rest) =
      ((nestedUnder? bindings name).map (name, ·)).or (firstNested? bindings rest) := by
  rw [firstNested?, List.findSome?_cons]
  cases nestedUnder? bindings name <;> rfl

/-- A name that is not bound contributes no values. -/
theorem boundParts_cons_of_none {bindings : Value} {name : String} {rest : List String}
    (h : bindings.find? name = none) :
    boundParts bindings (name :: rest) = boundParts bindings rest := by
  rw [boundParts, List.flatMap_cons, h]
  rfl

/-- A name that is bound contributes the parts of its value. -/
theorem boundParts_cons_of_some {bindings : Value} {name : String} {rest : List String} {v : Value}
    (h : bindings.find? name = some v) :
    boundParts bindings (name :: rest) = v.parts ++ boundParts bindings rest := by
  rw [boundParts, List.flatMap_cons, h]
  rfl

/-- **What placeholders become**: the first name that is bound to a nested sequence makes all of
them fail, and without one each becomes what its own name is bound to. -/
theorem emitAll_eq (sql bindings : Value) (ps : List Placeholder) :
    emitAll sql bindings ps =
      match firstNested? bindings (ps.map (·.name)) with
      | some (name, index) => .error (nestedSequenceFault name index sql)
      | none => .ok (ps.map fun p => (p, emission bindings p)) := by
  induction ps with
  | nil => rfl
  | cons p rest ih =>
      rw [emitAll, emit_eq, List.map_cons, firstNested?_cons, ih]
      cases nestedUnder? bindings p.name with
      | some index => rfl
      | none =>
          simp only [Option.map_none, Option.none_or]
          cases firstNested? bindings (rest.map (·.name)) with
          | some found => rfl
          | none => rfl

end SqlBind
