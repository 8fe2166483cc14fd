import SqlBind.Proofs.Rewrite.Diagnostics
import SqlBind.Proofs.Rewrite.Overlay
import SqlBind.Proofs.Rewrite.Resolved

/-!
# How a Rewrite Comes Out

A rewrite of a statement comes out in one of three ways (`rewrite_outcome`). Bindings that are there
but are no mapping are refused, whatever the statement and the keywords are. Otherwise a placeholder
whose name is bound to a sequence with a sequence in it is blamed: the leftmost such placeholder,
and the first sequence that lies in its sequence. Otherwise there is a result, unless a handler that
cannot write the report raises the fault again.

Names count as far as they occur. A name is bound to what the keywords give it, and to what the
mapping gives it if the keywords do not (`effective?`).

## Main definitions

* `effective?`: what a name is bound to in a rewrite.
* `NestedUnder`: a name is bound to a sequence with a sequence in it.
* `Culprit`: the leftmost name and the first element at fault.
* `Raises`: an outcome is an error of some kind.
* `Value.isOpaque`: the values that hold others without being sequences.

## Main results

* `exists_merge_eq`: bindings from a mapping and keywords bind a name to its effective value.
* `culprit_of_firstNested?`: the first nested sequence that is found is the one to blame.
* `Culprit.unique`: there is one culprit at most.
* `rewrite_outcome`: all ways in which a rewrite comes out.
-/

namespace SqlBind

open Log Placeholder

/-- What a name is bound to: what the keywords give it, or else what the mapping does. -/
def effective? (mapping : Value) (keywords : Keywords) (name : String) : Option Value :=
  (keywords.lookup name).or (mapping.find? name)

/-- A name is bound to a sequence that has an element that is itself a sequence. -/
def NestedUnder (mapping : Value) (keywords : Keywords) (name : String) : Prop :=
  ∃ v items item, effective? mapping keywords name = some v ∧ v.elements? = some items ∧
    item ∈ items ∧ item.isSequence = true

/-- Whom to blame for a nested sequence: the name of the leftmost placeholder that is bound to one,
and the place of the first element of that sequence that is a sequence. -/
structure Culprit (sql : String) (mapping : Value) (keywords : Keywords) (name : String)
    (index : Nat) : Prop where
  /-- A placeholder has the name, and those left of it have names without a nested sequence. -/
  leftmost : ∃ before p after, scan sql = before ++ p :: after ∧ p.name = name ∧
    ∀ q ∈ before, ¬NestedUnder mapping keywords q.name
  /-- The name is bound to a sequence with a sequence in this place, and with none before it. -/
  least : ∃ v items item, effective? mapping keywords name = some v ∧ v.elements? = some items ∧
    items[index]? = some item ∧ item.isSequence = true ∧
    ∀ j < index, ∀ earlier, items[j]? = some earlier → earlier.isSequence = false

/-- An outcome is an error of the library of some kind. -/
def Raises (outcome : Outcome Rewritten) (kind : ErrorKind) : Prop :=
  ∃ e, outcome = .error (.library e) ∧ e.kind = kind

/-- Whether a value holds characters, bytes, members or entries without being a sequence. -/
def Value.isOpaque : Value → Bool
  | .str _ | .wrappedStr _ | .bytes .. | .group .. | .generator _ | .dict .. | .layers _ => true
  | _ => false

/-- What holds others without being a sequence is no sequence. -/
theorem Value.isSequence_eq_false_of_isOpaque {v : Value} (h : v.isOpaque = true) :
    v.isSequence = false := by
  cases v with
  | seq kind items => cases h
  | range start stop step => cases h
  | array items => cases h
  | _ => rfl

/-- An error of the library has one kind. -/
theorem raises_error_iff {e : LibraryError} {kind : ErrorKind} :
    Raises (.error (.library e)) kind ↔ e.kind = kind := by
  constructor
  · rintro ⟨e', h, hkind⟩
    obtain rfl := Fault.library.inj (Except.error.inj h)
    exact hkind
  · exact fun hkind => ⟨e, rfl, hkind⟩

/-- A result is no error. -/
theorem not_raises_ok (r : Rewritten) (kind : ErrorKind) : ¬Raises (.ok r) kind :=
  fun ⟨_, h, _⟩ => nomatch h

/-- A fault that escapes a handler is no error of another kind than those about documents. -/
theorem not_raises_of_escapes {host : Host} {fault : Fault} {kind : ErrorKind}
    (h : host.Escapes fault) (hkind : kind ≠ .general .serialization) :
    ¬Raises (.error fault) kind := by
  rintro ⟨e, he, rfl⟩
  exact hkind (h.kind e (Except.error.inj he))

variable {mapping : Value} {keywords : Keywords}

/-! ### Bindings -/

/-- **Bindings from a mapping and keywords** are made if the mapping is missing or a mapping. They
bind a name to its effective value. -/
theorem exists_merge_eq (h : mapping = .null ∨ mapping.isMapping = true) (sql : Value)
    (keywords : Keywords) :
    ∃ b, Bindings.merge sql mapping keywords = .ok b ∧ b.view.isMapping = true ∧
      ∀ name, b.view.find? name = effective? mapping keywords name := by
  have heffective : ∀ {b}, Bindings.merge sql mapping keywords = .ok b →
      ∀ name, b.view.find? name = effective? mapping keywords name := by
    intro b hb name
    rw [Bindings.find?_view_of_merge hb, find?_toValue, effective?]
  rcases h with rfl | hmap
  · exact ⟨_, rfl, rfl, heffective rfl⟩
  · obtain ⟨b, hb, hview⟩ := view_of_merge hmap sql keywords
    exact ⟨b, hb, hview ▸ Value.isMapping_overlay hmap, heffective hb⟩

/-- The error about bindings that are no mapping carries the statement. -/
theorem bindingTypeFault_eq (provided : Value) (sql : String) :
    ∃ detail, bindingTypeFault provided (.str sql) =
      .library ⟨.bindingType (.str sql), detail, []⟩ := by
  obtain ⟨detail, hdetail⟩ :=
    exists_withStatement_eq (LibraryError.bindingTypeMessage provided) sql
  refine ⟨detail, ?_⟩
  simp [bindingTypeFault, raised, LibraryError.build, LibraryError.initialise, hdetail,
    settleDetail_nil, LibraryError.settled, ErrorState.error, faultOfBuild, ofBuild, bind,
    Except.bind, pure, Except.pure]

/-! ### Whom to blame -/

section Names

variable {b : Value} {name : String}

/-- A name under which no place of a nested sequence is found is bound to none. -/
theorem nestedUnder?_eq_none_iff_not
    (hb : ∀ name, b.find? name = effective? mapping keywords name) :
    nestedUnder? b name = none ↔ ¬NestedUnder mapping keywords name := by
  rw [nestedUnder?_eq_none_iff, hb]
  constructor
  · rintro h ⟨v, items, item, hv, hitems, hitem, hsequence⟩
    rw [h v hv items hitems item hitem] at hsequence
    cases hsequence
  · intro h v hv items hitems item hitem
    exact Bool.eq_false_iff.mpr fun hsequence => h ⟨v, items, item, hv, hitems, hitem, hsequence⟩

/-- No nested sequence is found under several names exactly if none of them is bound to one. -/
theorem firstNested?_eq_none_iff (hb : ∀ name, b.find? name = effective? mapping keywords name)
    (sql : String) :
    firstNested? b ((scan sql).map (·.name)) = none ↔
      ¬∃ p ∈ scan sql, NestedUnder mapping keywords p.name := by
  rw [firstNested?, List.findSome?_eq_none_iff]
  simp only [Option.map_eq_none_iff, nestedUnder?_eq_none_iff_not hb, List.forall_mem_map,
    not_exists, not_and]

/-- **The first nested sequence that is found is the one to blame.** -/
theorem culprit_of_firstNested? {sql : String} {index : Nat}
    (hb : ∀ name, b.find? name = effective? mapping keywords name)
    (h : firstNested? b ((scan sql).map (·.name)) = some (name, index)) :
    Culprit sql mapping keywords name index := by
  rw [firstNested?, List.findSome?_map, List.findSome?_eq_some_iff] at h
  obtain ⟨before, p, after, hscan, hfound, hbefore⟩ := h
  obtain ⟨place, hplace, hpair⟩ := Option.map_eq_some_iff.mp hfound
  obtain ⟨rfl, rfl⟩ := Prod.mk.inj hpair
  constructor
  · refine ⟨before, p, after, hscan, rfl, fun q hq => ?_⟩
    exact (nestedUnder?_eq_none_iff_not hb).mp (Option.map_eq_none_iff.mp (hbefore q hq))
  · obtain ⟨v, hv, hnested⟩ := Option.bind_eq_some_iff.mp hplace
    obtain ⟨items, hitems, hindex⟩ := Option.bind_eq_some_iff.mp hnested
    obtain ⟨hlt, hsequence, hleast⟩ := List.findIdx?_eq_some_iff_getElem.mp hindex
    refine ⟨v, items, items[place], hb p.name ▸ hv, hitems, List.getElem?_eq_getElem hlt, hsequence,
      fun j hj earlier hearlier => ?_⟩
    obtain ⟨hjlt, rfl⟩ := List.getElem?_eq_some_iff.mp hearlier
    exact Bool.eq_false_iff.mpr (hleast j hj)

end Names

namespace Culprit

variable {sql name₁ name₂ : String} {index₁ index₂ : Nat}

/-- The culprit's name is bound to a nested sequence. -/
theorem nestedUnder (h : Culprit sql mapping keywords name₁ index₁) :
    NestedUnder mapping keywords name₁ := by
  obtain ⟨v, items, item, hv, hitems, hitem, hsequence, -⟩ := h.least
  exact ⟨v, items, item, hv, hitems, List.mem_of_getElem? hitem, hsequence⟩

open scoped Classical in
/-- The culprit's name is that of the first placeholder with a nested sequence. -/
theorem map_name_find?_scan (h : Culprit sql mapping keywords name₁ index₁) :
    ((scan sql).find? fun p => decide (NestedUnder mapping keywords p.name)).map (·.name) =
      some name₁ := by
  obtain ⟨before, p, after, hscan, rfl, hleft⟩ := h.leftmost
  have hbefore : (before.find? fun q => decide (NestedUnder mapping keywords q.name)) = none :=
    List.find?_eq_none.mpr fun q hq => by simpa using hleft q hq
  rw [hscan, List.find?_append, hbefore, Option.none_or, List.find?_cons,
    decide_eq_true h.nestedUnder, Option.map_some]

/-- No culprit comes before another one in the same sequence. -/
theorem le_of_culprit (h₁ : Culprit sql mapping keywords name₁ index₁)
    (h₂ : Culprit sql mapping keywords name₁ index₂) : index₁ ≤ index₂ := by
  obtain ⟨v₁, items₁, -, hv₁, hitems₁, -, -, hleast⟩ := h₁.least
  obtain ⟨v₂, items₂, item, hv₂, hitems₂, hitem, hsequence, -⟩ := h₂.least
  obtain rfl := Option.some.inj (hv₁.symm.trans hv₂)
  obtain rfl := Option.some.inj (hitems₁.symm.trans hitems₂)
  refine Nat.le_of_not_lt fun hlt => ?_
  rw [hleast index₂ hlt item hitem] at hsequence
  cases hsequence

/-- **There is one culprit at most.** -/
theorem unique (h₁ : Culprit sql mapping keywords name₁ index₁)
    (h₂ : Culprit sql mapping keywords name₂ index₂) : name₁ = name₂ ∧ index₁ = index₂ := by
  obtain rfl : name₁ = name₂ :=
    Option.some.inj (h₁.map_name_find?_scan.symm.trans h₂.map_name_find?_scan)
  exact ⟨rfl, Nat.le_antisymm (h₁.le_of_culprit h₂) (h₂.le_of_culprit h₁)⟩

end Culprit

/-! ### The three ways -/

/-- Bindings that are there but are no mapping are refused. -/
theorem rewrite_of_not_mapping (h : ¬(mapping = .null ∨ mapping.isMapping = true)) (sql : String)
    (keywords : Keywords) :
    ∃ detail, rewrite (.str sql) mapping keywords =
      .error (.library ⟨.bindingType (.str sql), detail, []⟩) := by
  obtain ⟨hnull, hmap⟩ := not_or.mp h
  obtain ⟨detail, hdetail⟩ := bindingTypeFault_eq mapping sql
  have hmerge : Bindings.merge (.str sql) mapping keywords =
      .error (bindingTypeFault mapping (.str sql)) := by
    unfold Bindings.merge
    split
    · exact absurd rfl hnull
    · rw [Bool.eq_false_iff.mpr hmap]
      rfl
  refine ⟨detail, ?_⟩
  rw [rewrite, hmerge, hdetail]
  rfl

/-- With bindings that are accepted, there is an error if the name of a placeholder is bound to a
nested sequence, which carries the culprit, and otherwise a result. -/
theorem rewrite_of_mapping (h : mapping = .null ∨ mapping.isMapping = true) (sql : String)
    (keywords : Keywords) :
    ((∃ p ∈ scan sql, NestedUnder mapping keywords p.name) ∧
      ∃ name index detail, Culprit sql mapping keywords name index ∧
        rewrite (.str sql) mapping keywords = .error (.library
          ⟨.nestedSequence (.str sql) (.str name) (.int (index : Nat)), detail, []⟩)) ∨
    ((¬∃ p ∈ scan sql, NestedUnder mapping keywords p.name) ∧
      ∃ r, rewrite (.str sql) mapping keywords = .ok r) := by
  obtain ⟨b, hmerge, hmap, hb⟩ := exists_merge_eq h (.str sql) keywords
  have hrewrite : rewrite (.str sql) mapping keywords =
      (convert sql b.view none).map Conversion.result := by
    rw [rewrite, hmerge]
    rfl
  have hnone := firstNested?_eq_none_iff hb sql
  rw [hrewrite, convert_eq, Value.misuse?_of_isMapping hmap, ← map_name_scan]
  cases hfirst : firstNested? b.view ((scan sql).map (·.name)) with
  | none => exact Or.inr ⟨hnone.mp hfirst, _, rfl⟩
  | some found =>
      obtain ⟨name, index⟩ := found
      obtain ⟨detail, hdetail⟩ := nestedSequenceFault_eq name index sql
      refine Or.inl ⟨?_, name, index, detail, culprit_of_firstNested? hb hfirst,
        congrArg Except.error hdetail⟩
      rw [hfirst] at hnone
      exact Classical.not_not.mp fun hflat => nomatch hnone.mpr hflat

/-- **Bindings are refused** exactly if they are there and are no mapping. -/
theorem raises_bindingType_iff (sql : String) :
    Raises (rewrite (.str sql) mapping keywords) .bindingType ↔
      mapping ≠ .null ∧ mapping.isMapping = false := by
  by_cases h : mapping = .null ∨ mapping.isMapping = true
  · refine iff_of_false (fun hraises => ?_) fun hrefused => ?_
    · rcases rewrite_of_mapping h sql keywords with ⟨-, _, _, _, -, he⟩ | ⟨-, r, hr⟩
      · rw [he, raises_error_iff] at hraises
        cases hraises
      · rw [hr] at hraises
        exact not_raises_ok r _ hraises
    · rcases h with hnull | hmap
      · exact hrefused.1 hnull
      · exact Bool.eq_false_iff.mp hrefused.2 hmap
  · obtain ⟨detail, hdetail⟩ := rewrite_of_not_mapping h sql keywords
    obtain ⟨hnull, hmap⟩ := not_or.mp h
    rw [hdetail, raises_error_iff]
    exact iff_of_true rfl ⟨hnull, Bool.eq_false_iff.mpr hmap⟩

/-- **All ways in which a rewrite comes out**, under any configuration that arises from integers and
truth values and in any circumstances. Bindings are refused exactly if they are there and are no
mapping. Otherwise a nested sequence is complained of exactly if the name of some placeholder is
bound to one, and the error carries the culprit. In every other case there is a result, unless a
handler cannot write the report and raises a fault that the host does not contain. Texts, bytes,
sets, generators and mappings are no sequences, so none of them is ever at fault. -/
theorem rewrite_outcome {config : Config} (hconfig : config.Arises) {now : Circumstances}
    {sql : String} {outcome : Outcome Rewritten}
    (hrun : (runRewrite now config (.str sql) mapping keywords).1 = outcome) :
    (Raises outcome .bindingType ↔ mapping ≠ .null ∧ mapping.isMapping = false) ∧
    (mapping = .null ∨ mapping.isMapping = true →
      (Raises outcome .nestedSequence ↔ ∃ p ∈ scan sql, NestedUnder mapping keywords p.name) ∧
      (∀ e, outcome = .error (.library e) → e.kind = .nestedSequence →
        ∃ name index, Culprit sql mapping keywords name index ∧
          e.subject = .nestedSequence (.str sql) (.str name) (.int (index : Nat))) ∧
      ((¬∃ p ∈ scan sql, NestedUnder mapping keywords p.name) → (∃ r, outcome = .ok r) ∨
        ∃ fault, outcome = .error fault ∧ now.host.contains fault = false)) ∧
    ∀ item : Value, item.isOpaque = true → item.isSequence = false := by
  have hout := comesOut_runRewrite now hconfig.integral (.str sql) mapping keywords
  rw [hrun] at hout
  have hrefused := @raises_bindingType_iff mapping keywords sql
  cases hout with
  | same =>
      refine ⟨hrefused, fun hmapping => ?_, fun item => Value.isSequence_eq_false_of_isOpaque⟩
      rcases rewrite_of_mapping hmapping sql keywords with
        ⟨hnested, name, index, detail, hculprit, he⟩ | ⟨hflat, r, hr⟩
      · rw [he, raises_error_iff]
        refine ⟨iff_of_true rfl hnested, fun e' he' _ => ⟨name, index, hculprit, ?_⟩,
          absurd hnested⟩
        obtain rfl := Fault.library.inj (Except.error.inj he')
        rfl
      · rw [hr]
        refine ⟨iff_of_false (not_raises_ok r _) hflat, fun e he => ?_, fun _ => .inl ⟨r, rfl⟩⟩
        cases he
  | @escaped fault r hr hescapes =>
      -- without the handler there would be a result, so nothing was refused and nothing is nested
      have hother {kind : ErrorKind} (hkind : kind ≠ .general .serialization) :
          ¬Raises (.error fault) kind := not_raises_of_escapes hescapes hkind
      rw [hr] at hrefused
      refine ⟨iff_of_false (hother (by decide)) fun h => not_raises_ok r _ (hrefused.mpr h),
        fun hmapping => ?_, fun item => Value.isSequence_eq_false_of_isOpaque⟩
      rcases rewrite_of_mapping hmapping sql keywords with
        ⟨-, _, _, _, -, he⟩ | ⟨hflat, -⟩
      · cases hr.symm.trans he
      · exact ⟨iff_of_false (hother (by decide)) hflat,
          fun e he hkind => absurd ⟨e, he, hkind⟩ (hother (by decide)),
          fun _ => .inr ⟨fault, rfl, hescapes.raised⟩⟩

/-- A name that a keyword binds to a list without sequences, one bound to a list with a tuple and a
list in it, one further right bound to a list in a list, and another such name that does not
occur. -/
theorem rewrite_outcome_two_nested :
    ∃ mapping keywords, mapping = .dict .plain [(.str "other", .seq .list [.seq .list []]),
        (.str "late", .seq .list [.seq .list []]), (.str "a", .seq .list [.seq .list []]),
        (.str "ids", .seq .list [.str "b", .seq .tuple [.int 1], .seq .list []])] ∧
      keywords = [("a", .seq .list [.bytes .fixed [], .group .set []])] ∧
      ∃ e, (runRewrite ⟨.quiet 0, .initial, none, 0, ⟨"m", none, 1⟩⟩ .default (.str ":a:ids:late")
          mapping keywords).1 = .error (.library e) ∧
        e.subject = .nestedSequence (.str ":a:ids:late") (.str "ids") (.int 1) := by
  have hpieces : pieces ":a:ids:late".toList =
      [.token ['a'], .token ['i', 'd', 's'], .token ['l', 'a', 't', 'e']] :=
    pieces_eq_iff.mpr (by decide)
  have hnames : (scan ":a:ids:late").map (·.name) = ["a", "ids", "late"] := by
    rw [map_name_scan, hpieces]
    rfl
  obtain ⟨q, rest, hscan, hq, hrest⟩ := List.map_eq_cons_iff.mp hnames
  obtain ⟨p, after, rfl, hp, -⟩ := List.map_eq_cons_iff.mp hrest
  have hblamed : ∀ mapping keywords, mapping.isMapping = true →
      effective? mapping keywords "a" = some (.seq .list [.bytes .fixed [], .group .set []]) →
      effective? mapping keywords "ids" =
        some (.seq .list [.str "b", .seq .tuple [.int 1], .seq .list []]) →
      ∃ e, (runRewrite ⟨.quiet 0, .initial, none, 0, ⟨"m", none, 1⟩⟩ .default (.str ":a:ids:late")
          mapping keywords).1 = .error (.library e) ∧
        e.subject = .nestedSequence (.str ":a:ids:late") (.str "ids") (.int 1) := by
    intro mapping keywords hmap ha hids
    have hflat : ¬NestedUnder mapping keywords "a" := by
      rintro ⟨v, items, item, hv, hitems, hitem, hsequence⟩
      obtain rfl := Option.some.inj (ha.symm.trans hv)
      obtain rfl := Option.some.inj hitems
      simp only [List.mem_cons, List.not_mem_nil, or_false] at hitem
      rcases hitem with rfl | rfl
      · cases hsequence
      · cases hsequence
    have hculprit : Culprit ":a:ids:late" mapping keywords "ids" 1 := by
      refine ⟨⟨[q], p, after, hscan, hp, fun r hr => ?_⟩,
        ⟨_, _, .seq .tuple [.int 1], hids, rfl, rfl, rfl, fun j hj earlier hearlier => ?_⟩⟩
      · rw [List.mem_singleton.mp hr, hq]
        exact hflat
      · obtain rfl : j = 0 := by omega
        obtain rfl := Option.some.inj hearlier
        rfl
    have hmem : p ∈ scan ":a:ids:late" := hscan ▸ List.mem_cons_of_mem q List.mem_cons_self
    obtain ⟨-, houtcome, -⟩ := @rewrite_outcome mapping keywords .default Config.arises_default
      ⟨.quiet 0, .initial, none, 0, ⟨"m", none, 1⟩⟩ ":a:ids:late" _ rfl
    obtain ⟨hraises, hblames, -⟩ := houtcome (Or.inr hmap)
    obtain ⟨e, he, hkind⟩ := hraises.mpr ⟨p, hmem, hp ▸ hculprit.nestedUnder⟩
    obtain ⟨name, index, hfound, hsubject⟩ := hblames e he hkind
    obtain ⟨rfl, rfl⟩ := hfound.unique hculprit
    exact ⟨e, he, hsubject⟩
  exact ⟨_, _, rfl, rfl, hblamed _ _ rfl rfl rfl⟩

end SqlBind
