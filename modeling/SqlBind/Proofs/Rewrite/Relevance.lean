import SqlBind.Proofs.Rewrite.Resolved
import SqlBind.Rewrite.Rewritten

/-!
# What Bindings Matter For

Of its bindings a conversion sees no more than the replies to the names of the placeholders, and of
a sequence no more than its elements. Which kind of mapping replies, what else it binds and in which
order, and which kind of sequence holds the elements makes no difference (`convert_of_readAlike`):
neither for the statement and the values nor for the fault, which carries the same name and the same
place.

## Main definitions

* `ReadAlike`: two replies to a name that a conversion cannot tell apart.

## Main results

* `emitAll_of_readAlike`: placeholders become the same under bindings that are read alike.
* `runConvert_congr`: bindings with the same replies give the same result and the same log.
* `convert_of_readAlike`: the two ways in which two conversions come out together.
-/

namespace SqlBind

open Log Placeholder

/-- Two replies to a name that a conversion reads alike: no value, the same value that is no
sequence, or sequences of any two kinds with the same elements in the same order. -/
inductive ReadAlike : Option Value → Option Value → Prop
  | unbound : ReadAlike none none
  | scalar {v : Value} : v.isSequence = false → ReadAlike (some v) (some v)
  | sequence {v₁ v₂ : Value} {items : List Value} : v₁.elements? = some items →
      v₂.elements? = some items → ReadAlike (some v₁) (some v₂)

/-- A reply is read like itself. -/
theorem ReadAlike.refl (reply : Option Value) : ReadAlike reply reply := by
  cases reply with
  | none => exact .unbound
  | some v =>
      cases hitems : v.elements? with
      | none =>
          have hscalar : v.isSequence = false := by rw [← Value.isSome_elements?, hitems]; rfl
          exact .scalar hscalar
      | some items => exact .sequence hitems hitems

variable {b₁ b₂ : Value} {sql : String}

/-! ### One placeholder -/

/-- Under replies that are read alike the same nested sequence is found. -/
theorem nestedUnder?_of_readAlike {name : String}
    (h : ReadAlike (b₁.find? name) (b₂.find? name)) :
    nestedUnder? b₁ name = nestedUnder? b₂ name := by
  rw [nestedUnder?, nestedUnder?]
  generalize b₁.find? name = reply₁ at h
  generalize b₂.find? name = reply₂ at h
  cases h with
  | unbound => rfl
  | scalar _ => rfl
  | sequence h₁ h₂ =>
      rw [Option.bind_some, Option.bind_some, Value.nestedAt?, Value.nestedAt?, h₁, h₂]

/-- A placeholder becomes the same under replies that are read alike. -/
theorem emission_of_readAlike {p : Placeholder}
    (h : ReadAlike (b₁.find? p.name) (b₂.find? p.name)) : emission b₁ p = emission b₂ p := by
  rw [emission, emission]
  generalize b₁.find? p.name = reply₁ at h
  generalize b₂.find? p.name = reply₂ at h
  cases h with
  | unbound => rfl
  | scalar _ => rfl
  | sequence h₁ h₂ =>
      dsimp only
      rw [Value.marks, Value.marks, Value.parts, Value.parts, h₁, h₂, Option.getD_some,
        Option.getD_some]

/-! ### All placeholders -/

/-- Names with replies that are read alike have the same first nested sequence. -/
theorem firstNested?_of_readAlike {names : List String}
    (h : ∀ name ∈ names, ReadAlike (b₁.find? name) (b₂.find? name)) :
    firstNested? b₁ names = firstNested? b₂ names := by
  induction names with
  | nil => rfl
  | cons name rest ih =>
      obtain ⟨hname, hrest⟩ := List.forall_mem_cons.mp h
      rw [firstNested?_cons, firstNested?_cons, nestedUnder?_of_readAlike hname, ih hrest]

/-- **Placeholders become the same**, or fail alike, under bindings that are read alike. -/
theorem emitAll_of_readAlike (text : Value) {ps : List Placeholder}
    (h : ∀ p ∈ ps, ReadAlike (b₁.find? p.name) (b₂.find? p.name)) :
    emitAll text b₁ ps = emitAll text b₂ ps := by
  have hnested : firstNested? b₁ (ps.map (·.name)) = firstNested? b₂ (ps.map (·.name)) :=
    firstNested?_of_readAlike (List.forall_mem_map.mpr h)
  have hemissions : (ps.map fun p => (p, emission b₁ p)) = ps.map fun p => (p, emission b₂ p) := by
    refine List.map_congr_left fun p hp => ?_
    rw [emission_of_readAlike (h p hp)]
  rw [emitAll_eq, emitAll_eq, hnested, hemissions]

/-- Conversions with mappings that are read alike are the same, whatever the placeholders are. -/
theorem convert_eq_of_readAlike (hb₁ : b₁.isMapping = true) (hb₂ : b₂.isMapping = true)
    {supplied : Option (List Placeholder)}
    (h : ∀ p ∈ supplied.getD (scan sql), ReadAlike (b₁.find? p.name) (b₂.find? p.name)) :
    convert sql b₁ supplied = convert sql b₂ supplied := by
  rw [convert, convert, convertAt_of_isMapping hb₁, convertAt_of_isMapping hb₂,
    emitAll_of_readAlike _ h]

/-- What is converted alike is reported alike. -/
theorem runConvertText_congr {supplied : Option (List Placeholder)}
    (h : convert sql b₁ supplied = convert sql b₂ supplied) (now : Circumstances)
    (config : Config) :
    runConvertText now config sql b₁ supplied = runConvertText now config sql b₂ supplied := by
  rw [runConvertText, runConvertText, h]

/-- **Mappings with the same replies** give the same result and the same log, or the same fault,
also with a statement that is no text. -/
theorem runConvert_congr (hb₁ : b₁.isMapping = true) (hb₂ : b₂.isMapping = true)
    (h : ∀ name, b₁.find? name = b₂.find? name) (now : Circumstances) (config : Config)
    (statement : Value) :
    runConvert now config statement b₁ none = runConvert now config statement b₂ none := by
  unfold runConvert
  cases statementText statement with
  | error fault => rfl
  | ok sql =>
      have halike : ∀ p ∈ scan sql, ReadAlike (b₁.find? p.name) (b₂.find? p.name) := by
        intro p _
        rw [h p.name]
        exact ReadAlike.refl _
      have hconvert : convert sql b₁ none = convert sql b₂ none :=
        convert_eq_of_readAlike hb₁ hb₂ halike
      exact runConvertText_congr hconvert now config

/-- **Only what the placeholders look up matters.** Let two mappings of any kinds be read alike
under the name of every placeholder of a statement, whatever else they bind. Then both conversions
succeed with the same statement and values, or both complain of a nested sequence under the same
name and in the same place; and the log receives the same in any circumstances. -/
theorem convert_of_readAlike (hb₁ : b₁.isMapping = true) (hb₂ : b₂.isMapping = true)
    (h : ∀ p ∈ scan sql, ReadAlike (b₁.find? p.name) (b₂.find? p.name)) :
    ((∃ c, convert sql b₁ none = .ok c ∧ convert sql b₂ none = .ok c) ∨
      ∃ name index,
        convert sql b₁ none = .error (nestedSequenceFault name index (.str sql)) ∧
          convert sql b₂ none = .error (nestedSequenceFault name index (.str sql))) ∧
    ∀ now config,
      runConvert now config (.str sql) b₁ none = runConvert now config (.str sql) b₂ none := by
  have hsame : convert sql b₁ none = convert sql b₂ none := convert_eq_of_readAlike hb₁ hb₂ h
  refine ⟨?_, fun now config => runConvertText_congr hsame now config⟩
  rw [← hsame, convert_eq, Value.misuse?_of_isMapping hb₁]
  cases firstNested? b₁ (tokenNames (pieces sql.toList)) with
  | none => exact Or.inl ⟨converted sql b₁, rfl, rfl⟩
  | some found =>
      obtain ⟨name, index⟩ := found
      exact Or.inr ⟨name, index, rfl, rfl⟩

/-- A dictionary with a list in it, and layers with a range in place of the list, in another order
and with a number and a text among the keys that nobody looks up. -/
theorem convert_of_readAlike_kinds :
    ∃ b₁ b₂ : Value,
      b₁ = .dict .plain [(.int 5, .null), (.str "ids", .seq .list [.int 0, .int 1, .int 2]),
        (.str "u", .str "x")] ∧
      b₂ = .layers [.dict .wrapped [(.str "u", .str "x")],
        .dict .defaulting [(.str "zzz", .seq .list [.seq .list []]), (.str "ids", .range 0 3 1)]] ∧
      ∃ c, convert ":u:ids:v" b₁ none = .ok c ∧ convert ":u:ids:v" b₂ none = .ok c ∧
        c.sql = "?(?, ?, ?):v" ∧ c.parameters = [.str "x", .int 0, .int 1, .int 2] := by
  have hpieces : pieces ":u:ids:v".toList = [.token ['u'], .token ['i', 'd', 's'], .token ['v']] :=
    pieces_eq_iff.mpr (by decide)
  have hscan : scan ":u:ids:v" =
      [ofName ['u'] 0 0, ofName ['i', 'd', 's'] 2 1, ofName ['v'] 6 2] := by
    rw [scan_eq_locate, hpieces]
    rfl
  obtain ⟨b₁, hb₁⟩ : ∃ b₁ : Value, b₁ = .dict .plain [(.int 5, .null),
      (.str "ids", .seq .list [.int 0, .int 1, .int 2]), (.str "u", .str "x")] := ⟨_, rfl⟩
  obtain ⟨b₂, hb₂⟩ : ∃ b₂ : Value, b₂ = .layers [.dict .wrapped [(.str "u", .str "x")],
      .dict .defaulting [(.str "zzz", .seq .list [.seq .list []]),
        (.str "ids", .range 0 3 1)]] := ⟨_, rfl⟩
  have halike : ∀ p ∈ scan ":u:ids:v", ReadAlike (b₁.find? p.name) (b₂.find? p.name) := by
    subst hb₁ hb₂
    rw [hscan, List.forall_mem_cons, List.forall_mem_cons, List.forall_mem_singleton]
    exact ⟨.scalar rfl, .sequence rfl rfl, .unbound⟩
  obtain ⟨c, hc, hsql, hparameters⟩ : ∃ c, convert ":u:ids:v" b₁ none = .ok c ∧
      c.sql = "?(?, ?, ?):v" ∧ c.parameters = [.str "x", .int 0, .int 1, .int 2] := by
    subst hb₁
    exact convert_of_pieces rfl hpieces rfl rfl rfl
  refine ⟨b₁, b₂, hb₁, hb₂, c, hc, ?_, hsql, hparameters⟩
  have hmap₁ : b₁.isMapping = true := hb₁ ▸ rfl
  have hmap₂ : b₂.isMapping = true := hb₂ ▸ rfl
  rcases (convert_of_readAlike hmap₁ hmap₂ halike).1 with ⟨c', h₁, h₂⟩ | ⟨name, index, h₁, -⟩
  · obtain rfl := Except.ok.inj (hc.symm.trans h₁)
    exact h₂
  · rw [hc] at h₁
    cases h₁

end SqlBind
