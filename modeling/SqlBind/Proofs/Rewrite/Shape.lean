import SqlBind.Proofs.Rewrite.Reported

/-!
# What a Log Reveals

Of a value that is bound to a name the log reveals its *shape* only: whether it is a sequence, how
many elements it has, and which of these are sequences themselves. Two conversions of a statement
whose bindings agree in shape on the names of the placeholders fail alike, with the same error, or
agree in everything but the values (`convert_of_shape`). So they make the same records, unless
values are to be shown, and then too as long as those that are shown agree
(`log_of_shape`).

## Main definitions

* `Value.shape`, `shapeUnder`: the shape of a value, and of what a name is bound to.
* `Conversion.SameOutline`: two conversions differ at most in their values.

## Main results

* `convert_of_shape`: conversions with bindings of the same shape.
* `log_of_shape`: the log of two such conversions.
-/

namespace SqlBind

open Log Placeholder Text

/-- The shape of a value: of a sequence, which of its elements are sequences. Other values have
none. -/
def Value.shape (v : Value) : Option (List Bool) := v.elements?.map (·.map Value.isSequence)

/-- The shape of what a name is bound to, if it is bound at all. -/
def shapeUnder (bindings : Value) (name : String) : Option (Option (List Bool)) :=
  (bindings.find? name).map Value.shape

/-- Two conversions are the same but for their values, of which they have equally many. -/
structure Conversion.SameOutline (c₁ c₂ : Conversion) : Prop where
  sql : c₁.sql = c₂.sql
  placeholders : c₁.placeholders = c₂.placeholders
  unresolved : c₁.unresolved = c₂.unresolved
  parameters : c₁.parameters.length = c₂.parameters.length

variable {b₁ b₂ : Value} {config : Config} {length count : Nat}

/-! ### Shapes of values -/

namespace Value

variable {v₁ v₂ : Value}

/-- Values of the same shape are both no sequences, or both sequences of which the same elements are
sequences. -/
theorem elements?_of_shape (h : v₁.shape = v₂.shape) :
    (v₁.elements? = none ∧ v₂.elements? = none) ∨
      ∃ items₁ items₂, v₁.elements? = some items₁ ∧ v₂.elements? = some items₂ ∧
        items₁.map isSequence = items₂.map isSequence := by
  unfold shape at h
  cases h₁ : v₁.elements? with
  | none =>
      rw [h₁, Option.map_none, eq_comm, Option.map_eq_none_iff] at h
      exact Or.inl ⟨rfl, h⟩
  | some items₁ =>
      rw [h₁, Option.map_some, eq_comm, Option.map_eq_some_iff] at h
      obtain ⟨items₂, h₂, hitems⟩ := h
      exact Or.inr ⟨items₁, items₂, rfl, h₂, hitems.symm⟩

/-- Where a sequence holds another one hangs on its shape. -/
theorem nestedAt?_of_shape (h : v₁.shape = v₂.shape) : v₁.nestedAt? = v₂.nestedAt? := by
  have hshape : ∀ v : Value, v.nestedAt? = v.shape.bind (·.findIdx? id) := by
    intro v
    rw [nestedAt?, shape, Option.bind_map]
    simp only [Function.comp_def, List.findIdx?_map, id_eq]
  rw [hshape, hshape, h]

/-- So do the marks of a value. -/
theorem marks_of_shape (h : v₁.shape = v₂.shape) : v₁.marks = v₂.marks := by
  rcases elements?_of_shape h with ⟨h₁, h₂⟩ | ⟨items₁, items₂, h₁, h₂, hitems⟩
  · rw [marks, marks, h₁, h₂]
  · have hlength : items₁.length = items₂.length := by
      have := congrArg List.length hitems
      rwa [List.length_map, List.length_map] at this
    rw [marks, marks, h₁, h₂]
    simp only [hlength]

/-- And the number of values that the marks stand for. -/
theorem length_parts_of_shape (h : v₁.shape = v₂.shape) : v₁.parts.length = v₂.parts.length := by
  rcases elements?_of_shape h with ⟨h₁, h₂⟩ | ⟨items₁, items₂, h₁, h₂, hitems⟩
  · rw [parts, parts, h₁, h₂]
    rfl
  · rw [parts, parts, h₁, h₂, Option.getD_some, Option.getD_some, ← List.length_map isSequence,
      hitems, List.length_map]

end Value

/-! ### Shapes of bindings -/

section Names

variable {name : String} {names : List String}

/-- Bindings of the same shape both lack a name, or bind it to values of the same shape. -/
theorem find?_of_shapeUnder (h : shapeUnder b₁ name = shapeUnder b₂ name) :
    (b₁.find? name = none ∧ b₂.find? name = none) ∨
      ∃ v₁ v₂, b₁.find? name = some v₁ ∧ b₂.find? name = some v₂ ∧ v₁.shape = v₂.shape := by
  unfold shapeUnder at h
  cases h₁ : b₁.find? name with
  | none =>
      rw [h₁, Option.map_none, eq_comm, Option.map_eq_none_iff] at h
      exact Or.inl ⟨rfl, h⟩
  | some v₁ =>
      rw [h₁, Option.map_some, eq_comm, Option.map_eq_some_iff] at h
      obtain ⟨v₂, h₂, hshape⟩ := h
      exact Or.inr ⟨v₁, v₂, rfl, h₂, hshape.symm⟩

/-- They have the same first nested sequence. -/
theorem firstNested?_of_shape (h : ∀ name ∈ names, shapeUnder b₁ name = shapeUnder b₂ name) :
    firstNested? b₁ names = firstNested? b₂ names := by
  induction names with
  | nil => rfl
  | cons name rest ih =>
      obtain ⟨hname, hrest⟩ := List.forall_mem_cons.mp h
      have hnested : nestedUnder? b₁ name = nestedUnder? b₂ name := by
        rw [nestedUnder?, nestedUnder?]
        rcases find?_of_shapeUnder hname with ⟨h₁, h₂⟩ | ⟨v₁, v₂, h₁, h₂, hshape⟩
        · rw [h₁, h₂]
        · rw [h₁, h₂, Option.bind_some, Option.bind_some, Value.nestedAt?_of_shape hshape]
      rw [firstNested?_cons, firstNested?_cons, hnested, ih hrest]

end Names

/-! ### Conversions -/

/-- What a placeholder becomes under bindings of the same shape differs at most in the values. -/
theorem emission_of_shape {p : Placeholder} (h : shapeUnder b₁ p.name = shapeUnder b₂ p.name) :
    (emission b₁ p).text = (emission b₂ p).text ∧
      (emission b₁ p).resolved = (emission b₂ p).resolved ∧
      (emission b₁ p).values.length = (emission b₂ p).values.length := by
  rw [emission, emission]
  rcases find?_of_shapeUnder h with ⟨h₁, h₂⟩ | ⟨v₁, v₂, h₁, h₂, hshape⟩
  · rw [h₁, h₂]
    exact ⟨rfl, rfl, rfl⟩
  · rw [h₁, h₂]
    exact ⟨Value.marks_of_shape hshape, rfl, Value.length_parts_of_shape hshape⟩

/-- Conversions by emissions under bindings of the same shape have the same outline. -/
theorem sameOutline_ofEmissions (sql : String) {ps : List Placeholder}
    (h : ∀ p ∈ ps, shapeUnder b₁ p.name = shapeUnder b₂ p.name) :
    (Conversion.ofEmissions sql (ps.map fun p => (p, emission b₁ p))).SameOutline
      (.ofEmissions sql (ps.map fun p => (p, emission b₂ p))) where
  sql := by
    refine congrArg String.ofList (?_ : splice _ 0 _ = splice _ 0 _)
    generalize (0 : Int) = start
    induction ps generalizing start with
    | nil => rfl
    | cons p rest ih =>
        obtain ⟨hp, hrest⟩ := List.forall_mem_cons.mp h
        rw [List.map_cons, List.map_cons, splice, splice, (emission_of_shape hp).1, ih hrest]
  placeholders := by
    rw [Conversion.ofEmissions, Conversion.ofEmissions, List.length_map, List.length_map]
  unresolved := by
    rw [Conversion.ofEmissions, Conversion.ofEmissions]
    induction ps with
    | nil => rfl
    | cons p rest ih =>
        obtain ⟨hp, hrest⟩ := List.forall_mem_cons.mp h
        have hih := ih hrest
        dsimp only at hih ⊢
        rw [List.map_cons, List.map_cons, List.filter_cons, List.filter_cons,
          (emission_of_shape hp).2.1]
        split
        · rw [List.map_cons, List.map_cons, hih]
        · exact hih
  parameters := by
    rw [Conversion.ofEmissions, Conversion.ofEmissions]
    induction ps with
    | nil => rfl
    | cons p rest ih =>
        obtain ⟨hp, hrest⟩ := List.forall_mem_cons.mp h
        have hih := ih hrest
        dsimp only at hih ⊢
        rw [List.map_cons, List.map_cons, List.flatMap_cons, List.flatMap_cons, List.length_append,
          List.length_append, (emission_of_shape hp).2.2, hih]

/-- **Conversions with bindings of the same shape** fail with the same fault, or differ at most in
their values. -/
theorem convert_of_shape (hb₁ : b₁.isMapping = true) (hb₂ : b₂.isMapping = true) {sql : String}
    {supplied : Option (List Placeholder)}
    (h : ∀ p ∈ supplied.getD (scan sql), shapeUnder b₁ p.name = shapeUnder b₂ p.name) :
    (∃ fault, convert sql b₁ supplied = .error fault ∧ convert sql b₂ supplied = .error fault) ∨
      ∃ c₁ c₂, convert sql b₁ supplied = .ok c₁ ∧ convert sql b₂ supplied = .ok c₂ ∧
        c₁.SameOutline c₂ := by
  rw [convert, convert, convertAt_of_isMapping hb₁, convertAt_of_isMapping hb₂, emitAll_eq,
    emitAll_eq, firstNested?_of_shape (List.forall_mem_map.mpr h)]
  cases firstNested? b₂ ((supplied.getD (scan sql)).map (·.name)) with
  | some found => exact Or.inl ⟨_, rfl, rfl⟩
  | none => exact Or.inr ⟨_, _, rfl, rfl, sameOutline_ofEmissions sql h⟩

/-! ### The log -/

namespace Conversion.SameOutline

variable {c₁ c₂ : Conversion}

/-- Conversions of the same outline are reported alike but for the fields about values. -/
theorem textFields_eq (h : c₁.SameOutline c₂) (i : Int) (sql : String) :
    c₁.textFields i sql = c₂.textFields i sql := by
  rw [textFields, textFields, h.sql, h.placeholders, h.unresolved, h.parameters]

/-- The fields about values agree as far as the values do that are shown. -/
theorem valueFields_eq (h : c₁.SameOutline c₂)
    (hshown : c₁.parameters.take count = c₂.parameters.take count) :
    c₁.valueFields count = c₂.valueFields count := by
  rw [valueFields, valueFields, sliceTo_natCast, sliceTo_natCast, hshown, h.parameters]

/-- Whether they are reported is the same. -/
theorem isReported_eq (h : c₁.SameOutline c₂) (now : Circumstances) (config : Config) :
    isReported now config c₁ = isReported now config c₂ := by
  rw [isReported, isReported, h.placeholders]

end Conversion.SameOutline

/-- **A log reveals the shape of values only.** Let two mappings agree in shape on the names of the
placeholders of a statement. If values are not to be shown, the two conversions make the same
records, every handler makes the same of them, and one conversion fails with a fault if and only if
the other does. If values are to be shown this holds as long as the values agree up to the limit. -/
theorem log_of_shape (h : config.Limits length count) (hb₁ : b₁.isMapping = true)
    (hb₂ : b₂.isMapping = true) {sql : String}
    (hshape : ∀ p ∈ scan sql, shapeUnder b₁ p.name = shapeUnder b₂ p.name) (now : Circumstances)
    (hshown : config.logParameters.isTruthy = true → ∀ c₁ c₂,
      convert sql b₁ none = .ok c₁ → convert sql b₂ none = .ok c₂ →
      c₁.parameters.take count = c₂.parameters.take count) :
    conversionRecords now config sql b₁ none = conversionRecords now config sql b₂ none ∧
      (runConvert now config (.str sql) b₁ none).2 =
        (runConvert now config (.str sql) b₂ none).2 ∧
      ∀ fault, (runConvert now config (.str sql) b₁ none).1 = .error fault ↔
        (runConvert now config (.str sql) b₂ none).1 = .error fault := by
  rw [runConvert_of_limits h, runConvert_of_limits h]
  rcases @convert_of_shape b₁ b₂ hb₁ hb₂ sql none hshape with
    ⟨fault, h₁, h₂⟩ | ⟨c₁, c₂, h₁, h₂, houtline⟩
  · have hrecords : conversionRecords now config sql b₁ none =
        conversionRecords now config sql b₂ none := by
      rw [conversionRecords, conversionRecords, h₁, h₂]
    rw [hrecords, h₁, h₂]
    exact ⟨rfl, rfl, fun _ => Iff.rfl⟩
  · have hfields : (if config.logParameters.isTruthy then c₁.valueFields count else []) =
        if config.logParameters.isTruthy then c₂.valueFields count else [] := by
      cases hshows : config.logParameters.isTruthy with
      | false => rfl
      | true =>
          exact houtline.valueFields_eq (hshown hshows c₁ c₂ h₁ h₂)
    have hrecords : conversionRecords now config sql b₁ none =
        conversionRecords now config sql b₂ none := by
      rw [conversionRecords_of_ok h h₁, conversionRecords_of_ok h h₂, houtline.isReported_eq,
        houtline.textFields_eq, hfields]
    rw [hrecords, h₁, h₂]
    -- both succeed, so a fault is that of a handler, which finds the same record
    refine ⟨rfl, rfl, fun fault => ?_⟩
    rw [Delivery.after_eq_error_iff, Delivery.after_eq_error_iff]
    simp [Except.map]

/-- Two values that differ behind the first one, which is all that is shown, also in the kind of
sequence that holds them. -/
theorem log_of_shape_one_shown :
    ∃ config : Config, config = ⟨.bool true, .bool true, .int 80, .int 1⟩ ∧ config.Limits 80 1 ∧
      ∃ b₁ b₂ : Value,
        b₁ = .dict .plain [(.str "u", .int 7), (.str "pws", .seq .list [.int 1, .int 2])] ∧
        b₂ = .layers [.dict .plain [(.str "pws", .seq .tuple [.str "x", .null])],
          .dict .ordered [(.str "u", .int 7)]] ∧
        (∀ p ∈ scan ":u:pws", shapeUnder b₁ p.name = shapeUnder b₂ p.name) ∧
        ∀ now : Circumstances,
          conversionRecords now config ":u:pws" b₁ none =
            conversionRecords now config ":u:pws" b₂ none := by
  have hpieces : pieces ":u:pws".toList = [.token ['u'], .token ['p', 'w', 's']] :=
    pieces_eq_iff.mpr (by decide)
  have hscan : scan ":u:pws" = [ofName ['u'] 0 0, ofName ['p', 'w', 's'] 2 1] := by
    rw [scan_eq_locate, hpieces]
    rfl
  have hlimits : Config.Limits ⟨.bool true, .bool true, .int 80, .int 1⟩ 80 1 :=
    ⟨rfl, rfl, by decide⟩
  have hshape : ∀ p ∈ scan ":u:pws",
      shapeUnder (.dict .plain [(.str "u", .int 7), (.str "pws", .seq .list [.int 1, .int 2])])
          p.name =
        shapeUnder (.layers [.dict .plain [(.str "pws", .seq .tuple [.str "x", .null])],
          .dict .ordered [(.str "u", .int 7)]]) p.name := by
    rw [hscan, List.forall_mem_cons, List.forall_mem_singleton]
    exact ⟨rfl, rfl⟩
  obtain ⟨c₁, h₁, -, hparameters₁⟩ : ∃ c, convert ":u:pws" (.dict .plain [(.str "u", .int 7),
      (.str "pws", .seq .list [.int 1, .int 2])]) none = .ok c ∧ c.sql = "?(?, ?)" ∧
        c.parameters = [.int 7, .int 1, .int 2] :=
    convert_of_pieces rfl hpieces rfl rfl rfl
  obtain ⟨c₂, h₂, -, hparameters₂⟩ : ∃ c, convert ":u:pws"
      (.layers [.dict .plain [(.str "pws", .seq .tuple [.str "x", .null])],
        .dict .ordered [(.str "u", .int 7)]]) none = .ok c ∧ c.sql = "?(?, ?)" ∧
        c.parameters = [.int 7, .str "x", .null] :=
    convert_of_pieces rfl hpieces rfl rfl rfl
  refine ⟨_, rfl, hlimits, _, _, rfl, rfl, hshape, fun now => ?_⟩
  refine (log_of_shape hlimits rfl rfl hshape now fun _ d₁ d₂ hd₁ hd₂ => ?_).1
  obtain rfl := Except.ok.inj (h₁.symm.trans hd₁)
  obtain rfl := Except.ok.inj (h₂.symm.trans hd₂)
  rw [hparameters₁, hparameters₂]
  rfl

end SqlBind
