import SqlBind.Proofs.Value.Keys
import SqlBind.Rewrite.Bindings

/-!
# Laying One Mapping over Another

Keywords are merged with a mapping by laying them over it, unless there are none. This module does
the same with any two mappings (`overlay`), and says what a name is bound to then.

The mapping on top decides for the names that it binds, and the one below for the others
(`find?_overlay`). There is one exception. A name that either mapping has is looked up by asking
them for its value one after the other, and a dictionary with a default has an answer also to a name
that it lacks; so where it is on top, its default hides what the mapping below binds the name to
(`hides`, `find?_overlay_of_hides`).

## Main results

* `find?_overlay`: what a name is bound to if it is not hidden.
* `find?_overlay_of_hides`: what a name is bound to if it is.
* `find?_toValue`: what keywords bind a name to.
* `view_of_merge`: keywords are merged with a mapping by laying them over it, and hide nothing.
-/

namespace SqlBind

namespace Value

/-- The mapping that arises when `top` is laid over `below`: that one alone if `top` is empty. -/
def overlay (top below : Value) : Value := if top.isTruthy then .layers [top, below] else below

/-- One mapping over another makes a mapping. -/
theorem isMapping_overlay {top below : Value} (h : below.isMapping = true) :
    (overlay top below).isMapping = true := by
  unfold overlay
  split
  · rfl
  · exact h

/-- Whether a mapping that is laid over another hides a name: it has an answer to the name although
it lacks it, and the other one binds it. -/
def hides (top below : Value) (name : String) : Bool :=
  top.isTruthy && (top.find? name).isNone && (top.fetch? (.str name)).isSome &&
    (below.find? name).isSome

/-- A mapping that has a key has it bound to its answer. -/
theorem find?_of_has {m : Value} {name : String} (h : m.has (.str name) = true) :
    m.find? name = m.fetch? (.str name) := by
  rw [find?, lookup?, if_pos h]

/-- A mapping that lacks a key has it not bound, whatever it answers. -/
theorem find?_of_lacks {m : Value} {name : String} (h : m.has (.str name) = false) :
    m.find? name = none := by
  rw [find?, lookup?, h]
  rfl

/-- What one mapping over another binds a name to, if the one on top has keys. -/
theorem find?_overlay_of_isTruthy {top below : Value} (name : String)
    (h : top.isTruthy = true) :
    (overlay top below).find? name =
      if top.has (.str name) || below.has (.str name) then
        (top.fetch? (.str name)).or (below.fetch? (.str name))
      else none := by
  rw [overlay, if_pos h, find?, lookup?, has, hasIn, hasIn, hasIn, Bool.or_false, fetch?, fetchIn?,
    fetchIn?, fetchIn?, Option.or_none]

/-- **The mapping on top decides for the names that it binds**, and the one below for the others
that are not hidden. -/
theorem find?_overlay {top below : Value} {name : String} (h : hides top below name = false) :
    (overlay top below).find? name = (top.find? name).or (below.find? name) := by
  cases htruthy : top.isTruthy with
  | false =>
      have hlacks : top.has (.str name) = false := has_of_isTruthy_eq_false htruthy
      rw [overlay, htruthy, find?_of_lacks hlacks, Option.none_or]
      rfl
  | true =>
      rw [find?_overlay_of_isTruthy name htruthy]
      cases htop : top.has (.str name) with
      | true =>
          obtain ⟨v, hv⟩ := Option.isSome_iff_exists.mp (isSome_fetch?_of_has htop)
          rw [find?_of_has htop, hv, Bool.true_or, if_pos rfl, Option.some_or, Option.some_or]
      | false =>
          rw [find?_of_lacks htop, Option.none_or, Bool.false_or]
          cases hbelow : below.has (.str name) with
          | false => rw [find?_of_lacks hbelow, if_neg Bool.false_ne_true]
          | true =>
              -- the one on top is asked first, and must be silent
              have hbound := isSome_fetch?_of_has hbelow
              have hsilent : top.fetch? (.str name) = none := by
                rw [hides, htruthy, find?_of_lacks htop, find?_of_has hbelow, hbound] at h
                simpa using h
              rw [hsilent, find?_of_has hbelow, if_pos rfl, Option.none_or]

/-- **A name that is hidden** is bound to what the mapping on top answers by default. -/
theorem find?_overlay_of_hides {top below : Value} {name : String}
    (h : hides top below name = true) :
    (overlay top below).find? name = top.fetch? (.str name) := by
  simp only [hides, Bool.and_eq_true] at h
  obtain ⟨⟨⟨htruthy, -⟩, hanswer⟩, hbound⟩ := h
  have hbelow : below.has (.str name) = true := by rwa [find?, isSome_lookup?] at hbound
  obtain ⟨v, hv⟩ := Option.isSome_iff_exists.mp hanswer
  rw [find?_overlay_of_isTruthy name htruthy, hbelow, Bool.or_true, if_pos rfl, hv, Option.some_or]

end Value

/-- Keywords as a dictionary bind a name to what they give it. -/
theorem find?_toValue (keywords : Keywords) (name : String) :
    keywords.toValue.find? name = keywords.lookup name := by
  rw [Keywords.toValue, Value.find?_dict]
  induction keywords with
  | nil => rfl
  | cons e rest ih =>
      rw [List.map_cons, valueFor?_cons, ih, Value.equal_str]
      obtain ⟨key, v⟩ := e
      rw [List.lookup_cons]
      by_cases h : key = name
      · rw [h, decide_eq_true rfl, if_pos rfl, beq_self_eq_true]
      · rw [decide_eq_false h, if_neg Bool.false_ne_true, beq_eq_false_iff_ne.mpr (Ne.symm h)]

/-- Keywords hide nothing. -/
theorem hides_toValue (keywords : Keywords) (below : Value) (name : String) :
    Value.hides keywords.toValue below name = false := by
  have hanswer : keywords.toValue.fetch? (.str name) = keywords.toValue.find? name := by
    rw [Keywords.toValue, Value.find?_dict, Value.fetch?]
    intro hkind
    cases hkind
  rw [Value.hides, hanswer]
  cases keywords.toValue.find? name <;> simp

/-- **Keywords are merged with a mapping by laying them over it.** -/
theorem view_of_merge {mapping : Value} (h : mapping.isMapping = true) (sql : Value)
    (keywords : Keywords) :
    ∃ b, Bindings.merge sql mapping keywords = .ok b ∧
      b.view = Value.overlay keywords.toValue mapping := by
  have htruthy : keywords.toValue.isTruthy = !keywords.isEmpty := by
    rw [Keywords.toValue, Value.isTruthy, List.isEmpty_map]
  unfold Bindings.merge Value.overlay
  rw [htruthy]
  split
  · exact absurd h Bool.false_ne_true
  · rw [h]
    cases keywords.isEmpty with
    | true => exact ⟨_, rfl, rfl⟩
    | false => exact ⟨_, rfl, rfl⟩

end SqlBind
