import SqlBind.Proofs.Rewrite.Relevance
import SqlBind.Proofs.Value.Entries

/-!
# Values Are Only Moved

A conversion puts values in line. It looks at a value only to tell sequences from everything else;
it inspects none any further, and drops, repeats or reorders none on its own. This is said by a law
about functions on values that turn no other value into a sequence: applying such a function to all
that is bound, and then converting, is the same as converting first and applying it to the values
that come out (`convert_mapBound`). The text is the same, and so is the complaint about a nested
sequence.

The law holds of each placeholder by itself (`emit_mapBound`), and so of the run over all of them
(`emitAll_mapBound`), whichever placeholders these are.

## Main definitions

* `Value.mapParts`: a function applied to what the marks of a value stand for.
* `Value.mapBound`: a function applied to all that a mapping binds.

## Main results

* `Value.find?_mapBound`: what a name is bound to after a function was applied.
* `emit_mapBound`, `emitAll_mapBound`: one placeholder, and all of them.
* `convert_mapBound`: conversions commute with functions on values.
-/

namespace SqlBind

open Placeholder Text

variable {f : Value → Value}

namespace Value

/-- An element of a sequence after a function was applied. One that is a sequence itself is left in
place. -/
def mapElement (f : Value → Value) (item : Value) : Value :=
  if item.isSequence then item else f item

/-- A value after a function was applied to what its marks stand for: to itself, or to the elements
of a sequence. Ranges and arrays, which can hold nothing but integers, become lists. -/
def mapParts (f : Value → Value) : Value → Value
  | .seq kind items => .seq kind (items.map (mapElement f))
  | .range start stop step =>
    .seq .list ((rangeElements start stop step).map fun i => mapElement f (.int i))
  | .array items => .seq .list (items.map fun i => mapElement f (.int i))
  | v => f v

/-- A mapping after a function was applied to all that it binds. -/
def mapBound (f : Value → Value) (m : Value) : Value := m.mapEntries fun e => (e.1, mapParts f e.2)

end Value

/-- A function on values that turns no value into a sequence that was none. -/
def KeepsScalars (f : Value → Value) : Prop :=
  ∀ v : Value, v.isSequence = false → (f v).isSequence = false

/-- What a placeholder becomes, after a function was applied to the values. -/
def Emission.mapValues (f : Value → Value) (e : Emission) : Emission :=
  { e with values := e.values.map f }

/-- A conversion after a function was applied to the values. -/
def Conversion.mapValues (f : Value → Value) (c : Conversion) : Conversion :=
  { c with parameters := c.parameters.map f }

/-! ### Bindings -/

/-- Values are found under the same keys after a function was applied to them. -/
theorem valueFor?_map_snd (g : Value → Value) (key : Value) (entries : Entries) :
    valueFor? key (entries.map fun e => (e.1, g e.2)) = (valueFor? key entries).map g := by
  induction entries with
  | nil => rfl
  | cons e rest ih =>
      rw [List.map_cons, valueFor?_cons, valueFor?_cons, ih]
      split
      · rfl
      · rfl

namespace Value

/-- **What a name is bound to** after a function was applied. The empty sequence that is an answer
by default has no element to apply it to. -/
theorem find?_mapBound (f : Value → Value) (m : Value) (name : String) :
    (m.mapBound f).find? name = (m.find? name).map (mapParts f) := by
  have hcarries : Carries (fun _ => True) (fun e => (e.1, mapParts f e.2)) (mapParts f) (.str name)
      (.str name) := ⟨fun entries _ => valueFor?_map_snd (mapParts f) _ entries, rfl⟩
  exact lookup?_mapEntries hcarries fun _ _ => trivial

/-- Names can be looked up as before, or are refused as before. -/
theorem misuse?_mapBound (m : Value) (names : List String) :
    (m.mapBound f).misuse? names = m.misuse? names := by
  cases h : m.isMapping with
  | true => rw [misuse?_of_isMapping h, mapBound, misuse?_of_isMapping (isMapping_mapEntries h)]
  | false => rw [mapBound, mapEntries_of_isMapping_eq_false h]

/-! ### Values -/

/-- To what is no sequence the function itself is applied. -/
theorem mapParts_of_elements?_eq_none {v : Value} (h : v.elements? = none) :
    mapParts f v = f v := by
  cases v with
  | seq kind items => cases h
  | range start stop step => cases h
  | array items => cases h
  | _ => rfl

/-- To a sequence it is applied element by element. -/
theorem elements?_mapParts_of_some {v : Value} {items : List Value} (h : v.elements? = some items) :
    (mapParts f v).elements? = some (items.map (mapElement f)) := by
  cases v with
  | seq kind items' =>
      obtain rfl := Option.some.inj h
      rfl
  | range start stop step =>
      obtain rfl := Option.some.inj h
      rw [mapParts, elements?, List.map_map]
      rfl
  | array items' =>
      obtain rfl := Option.some.inj h
      rw [mapParts, elements?, List.map_map]
      rfl
  | _ => cases h

/-- What is no sequence still is none. -/
theorem elements?_mapParts_of_none (hf : KeepsScalars f) {v : Value} (h : v.elements? = none) :
    (mapParts f v).elements? = none := by
  have hscalar : v.isSequence = false := by
    rw [← isSome_elements?, h]
    rfl
  rw [mapParts_of_elements?_eq_none h, ← Option.not_isSome_iff_eq_none, isSome_elements?,
    hf v hscalar]
  exact Bool.false_ne_true

/-- The sequences among elements are where they were. -/
theorem isSequence_mapElement (hf : KeepsScalars f) (item : Value) :
    (mapElement f item).isSequence = item.isSequence := by
  rw [mapElement]
  cases h : item.isSequence with
  | true => exact h
  | false => exact hf item h

end Value

/-! ### Placeholders -/

/-- **What one placeholder becomes** commutes with functions on values. -/
theorem emit_mapBound (hf : KeepsScalars f) (sql b : Value) (p : Placeholder) :
    emit sql (b.mapBound f) p = (emit sql b p).map (Emission.mapValues f) := by
  unfold emit
  rw [Value.find?_mapBound]
  cases b.find? p.name with
  | none => rfl
  | some v =>
      dsimp only [Option.map_some]
      cases hitems : v.elements? with
      | none =>
          rw [Value.elements?_mapParts_of_none hf hitems,
            Value.mapParts_of_elements?_eq_none hitems]
          rfl
      | some items =>
          rw [Value.elements?_mapParts_of_some hitems]
          dsimp only
          have hplace : (items.map (Value.mapElement f)).findIdx? Value.isSequence =
              items.findIdx? Value.isSequence := by
            rw [List.findIdx?_map]
            exact congrArg (items.findIdx? ·) (funext (Value.isSequence_mapElement hf))
          rw [hplace, List.length_map]
          cases hnested : items.findIdx? Value.isSequence with
          | some index => rfl
          | none =>
              -- no element is left in place
              have hmap : items.map (Value.mapElement f) = items.map f := by
                refine List.map_congr_left fun item hitem => ?_
                rw [Value.mapElement, List.findIdx?_eq_none_iff.mp hnested item hitem]
                rfl
              rw [hmap]
              rfl

/-- **What all placeholders become** commutes with functions on values. -/
theorem emitAll_mapBound (hf : KeepsScalars f) (sql b : Value) (ps : List Placeholder) :
    emitAll sql (b.mapBound f) ps =
      (emitAll sql b ps).map (List.map fun e => (e.1, e.2.mapValues f)) := by
  induction ps with
  | nil => rfl
  | cons p rest ih =>
      rw [emitAll, emitAll, emit_mapBound hf, ih]
      cases emit sql b p with
      | error fault => rfl
      | ok e =>
          cases emitAll sql b rest with
          | error fault => rfl
          | ok es => rfl

/-- A splice does not look at values. -/
theorem splice_mapValues (sql : List Char) (start : Int) (es : List (Placeholder × Emission)) :
    splice sql start (es.map fun e => (e.1, e.2.mapValues f)) = splice sql start es := by
  induction es generalizing start with
  | nil => rfl
  | cons e rest ih =>
      rw [List.map_cons, splice, splice, ih]
      rfl

/-- A conversion puts the values in line. -/
theorem ofEmissions_mapValues (sql : String) (es : List (Placeholder × Emission)) :
    Conversion.ofEmissions sql (es.map fun e => (e.1, e.2.mapValues f)) =
      (Conversion.ofEmissions sql es).mapValues f := by
  rw [Conversion.ofEmissions, Conversion.ofEmissions, Conversion.mapValues, splice_mapValues,
    List.flatMap_map, List.map_flatMap, List.length_map, List.filter_map, List.map_map]
  rfl

/-! ### Conversions -/

/-- **Conversions commute with functions on values** that turn no other value into a sequence. Apply
one to all that is bound: to each value, or to each element of a sequence that is no sequence
itself. The statement is then converted to the same text, with the function applied to the values in
their order, or fails as before, and complains of the same nested sequence. Placeholders may be
scanned or supplied. Nor does it matter in which mapping, or in which kinds of sequences, the new
values are bound. -/
theorem convert_mapBound (hf : KeepsScalars f) (sql : String) (b : Value)
    (supplied : Option (List Placeholder)) :
    (∀ name, (b.mapBound f).find? name = (b.find? name).map (Value.mapParts f)) ∧
    convert sql (b.mapBound f) supplied = (convert sql b supplied).map (Conversion.mapValues f) ∧
    (∀ name index,
      convert sql (b.mapBound f) supplied = .error (nestedSequenceFault name index (.str sql)) ↔
        convert sql b supplied = .error (nestedSequenceFault name index (.str sql))) ∧
    ∀ b' : Value, b.isMapping = true → b'.isMapping = true →
      (∀ p ∈ supplied.getD (scan sql),
        ReadAlike (b'.find? p.name) ((b.find? p.name).map (Value.mapParts f))) →
      convert sql b' supplied = (convert sql b supplied).map (Conversion.mapValues f) := by
  have hconvert : convert sql (b.mapBound f) supplied =
      (convert sql b supplied).map (Conversion.mapValues f) := by
    rw [convert, convert, convertAt, convertAt, Value.misuse?_mapBound, emitAll_mapBound hf]
    cases b.misuse? ((supplied.getD (scan sql)).map (·.name)) with
    | some problem => rfl
    | none =>
        cases emitAll (.str sql) b (supplied.getD (scan sql)) with
        | error fault => rfl
        | ok es => exact congrArg Except.ok (ofEmissions_mapValues sql es)
  refine ⟨Value.find?_mapBound f b, hconvert, fun name index => ?_, fun b' hb hb' h => ?_⟩
  · rw [hconvert]
    cases convert sql b supplied with
    | error fault => exact Iff.rfl
    | ok c =>
        refine iff_of_false (fun h => ?_) fun h => ?_
        · cases h
        · cases h
  · rw [← hconvert]
    refine convert_eq_of_readAlike hb' (Value.isMapping_mapEntries hb) fun p hp => ?_
    have halike := h p hp
    rwa [← Value.find?_mapBound] at halike

/-- Every value is put into a dictionary: one that occurs twice, the elements of a range, which come
out the same from a deque, and the element in front of a tuple in a list, which is complained of
either way. -/
theorem convert_mapBound_wrapping :
    ∃ (f : Value → Value) (b b' : Value), f = (fun v => .dict .plain [(.str "was", v)]) ∧
      KeepsScalars f ∧
      b = .layers [.dict .wrapped [(.str "x", .int 5)], .dict .defaulting
        [(.str "ids", .range 0 2 1), (.str "deep", .seq .list [.null, .seq .tuple []])]] ∧
      b' = .dict .plain
        [(.str "ids", .seq .deque [f (.int 0), f (.int 1)]), (.str "x", f (.int 5))] ∧
      (∃ c, convert ":x:ids :x:left" (b.mapBound f) none = .ok c ∧
        convert ":x:ids :x:left" b' none = .ok c ∧ c.sql = "?(?, ?) ?:left" ∧
        c.parameters = [f (.int 5), f (.int 0), f (.int 1), f (.int 5)]) ∧
      convert ":x:deep" (b.mapBound f) none =
        .error (nestedSequenceFault "deep" 1 (.str ":x:deep")) := by
  obtain ⟨f, hf⟩ : ∃ f : Value → Value, f = fun v => .dict .plain [(.str "was", v)] := ⟨_, rfl⟩
  obtain ⟨b, hb⟩ : ∃ b : Value, b = .layers [.dict .wrapped [(.str "x", .int 5)],
      .dict .defaulting [(.str "ids", .range 0 2 1),
        (.str "deep", .seq .list [.null, .seq .tuple []])]] := ⟨_, rfl⟩
  obtain ⟨b', hb'⟩ : ∃ b' : Value, b' = .dict .plain
      [(.str "ids", .seq .deque [f (.int 0), f (.int 1)]), (.str "x", f (.int 5))] := ⟨_, rfl⟩
  have hkeeps : KeepsScalars f := fun v _ => hf ▸ rfl
  have hpieces : pieces ":x:ids :x:left".toList =
      [.token ['x'], .token ['i', 'd', 's'], .plain ' ', .token ['x'],
        .token ['l', 'e', 'f', 't']] := pieces_eq_iff.mpr (by decide)
  have hpieces' : pieces ":x:deep".toList = [.token ['x'], .token ['d', 'e', 'e', 'p']] :=
    pieces_eq_iff.mpr (by decide)
  have hscan : scan ":x:ids :x:left" = [ofName ['x'] 0 0, ofName ['i', 'd', 's'] 2 1,
      ofName ['x'] 7 2, ofName ['l', 'e', 'f', 't'] 9 3] := by
    rw [scan_eq_locate, hpieces]
    rfl
  obtain ⟨c, hc, hsql, hparameters⟩ : ∃ c, convert ":x:ids :x:left" b none = .ok c ∧
      c.sql = "?(?, ?) ?:left" ∧ c.parameters = [.int 5, .int 0, .int 1, .int 5] := by
    subst hb
    exact convert_of_pieces rfl hpieces rfl rfl rfl
  obtain ⟨-, hmapped, -, hother⟩ := convert_mapBound hkeeps ":x:ids :x:left" b none
  obtain ⟨-, -, hfails, -⟩ := convert_mapBound hkeeps ":x:deep" b none
  refine ⟨f, b, b', hf, hkeeps, hb, hb', ⟨c.mapValues f, ?_, ?_, hsql, ?_⟩, ?_⟩
  · rw [hmapped, hc]
    rfl
  · rw [hother b' (hb ▸ rfl) (hb' ▸ rfl), hc]
    · rfl
    · subst hf hb hb'
      rw [Option.getD_none, hscan, List.forall_mem_cons, List.forall_mem_cons,
        List.forall_mem_cons, List.forall_mem_singleton]
      exact ⟨.scalar rfl, .sequence rfl rfl, .scalar rfl, .unbound⟩
  · rw [Conversion.mapValues, hparameters]
    rfl
  · rw [hfails, convert_eq_nested_iff, hpieces', hb]
    exact ⟨rfl, rfl⟩

end SqlBind
