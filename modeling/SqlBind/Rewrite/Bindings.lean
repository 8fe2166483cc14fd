import SqlBind.Fault.Cause
import SqlBind.Value.Mapping

/-!
# Merging Bindings

The bindings of a rewrite come from two sources: a mapping, and keywords given by name. Keywords
take precedence. Neither source is copied: with only one of them at hand that one is used as it is,
and otherwise the keywords are laid over the mapping.

## Main definitions

* `Keywords`: bindings given by name.
* `Bindings` and `Bindings.view`: where bindings come from, and the mapping that they make.
* `Bindings.merge`: the bindings from both sources.

## Main results

* `Bindings.cases_of_merge`: the three paths.
* `Bindings.lookup?_view_of_merge`: on every path the keyword wins, and the mapping answers
  otherwise.
-/

namespace SqlBind

/-- Bindings given by name. -/
abbrev Keywords := List (String × Value)

/-- Keywords as a dictionary. -/
def Keywords.toValue (k : Keywords) : Value := .dict .plain (k.map fun e => (.str e.1, e.2))

/-- Where bindings come from. -/
inductive Bindings where
  /-- From keywords alone. -/
  | named (keywords : Keywords)
  /-- From a mapping alone. -/
  | given (mapping : Value)
  /-- From a mapping with keywords laid over it. -/
  | overlaid (keywords : Keywords) (mapping : Value)

namespace Bindings

/-- The mapping that bindings make. -/
def view : Bindings → Value
  | .named keywords => keywords.toValue
  | .given mapping => mapping
  | .overlaid keywords mapping => .layers [keywords.toValue, mapping]

/-- The bindings from a mapping, which may be missing, and keywords. The statement is only named in
the error that arises where the mapping is something else. -/
def merge (sql mapping : Value) (keywords : Keywords) : Outcome Bindings :=
  match mapping with
  | .null => .ok (.named keywords)
  | mapping =>
    if !mapping.isMapping then .error (bindingTypeFault mapping sql)
    else if keywords.isEmpty then .ok (.given mapping)
    else .ok (.overlaid keywords mapping)

/-- **The paths of merging**: keywords alone, a mapping alone, or keywords over a mapping. -/
theorem cases_of_merge {sql mapping : Value} {keywords : Keywords} {b : Bindings}
    (h : merge sql mapping keywords = .ok b) :
    (mapping = .null ∧ b = .named keywords) ∨
      mapping.isMapping = true ∧
        (keywords = [] ∧ b = .given mapping ∨ b = .overlaid keywords mapping) := by
  unfold merge at h
  split at h
  · obtain rfl := Except.ok.inj h
    exact Or.inl ⟨rfl, rfl⟩
  · split at h
    · cases h
    · rename_i hmapping
      have hmap : mapping.isMapping = true := by simpa using hmapping
      split at h
      · rename_i hkeywords
        obtain rfl := Except.ok.inj h
        exact Or.inr ⟨hmap, Or.inl ⟨List.isEmpty_iff.mp hkeywords, rfl⟩⟩
      · obtain rfl := Except.ok.inj h
        exact Or.inr ⟨hmap, Or.inr rfl⟩

/-- On every path a key has the value that the keywords give it, or else the value that the mapping
gives it. -/
theorem lookup?_view_of_merge {sql mapping : Value} {keywords : Keywords} {b : Bindings}
    (h : merge sql mapping keywords = .ok b) (key : Value) :
    b.view.lookup? key = (keywords.toValue.lookup? key).or (mapping.lookup? key) := by
  rcases cases_of_merge h with ⟨rfl, rfl⟩ | ⟨-, ⟨rfl, rfl⟩ | rfl⟩
  · have hnull : Value.null.lookup? key = none := by simp [Value.lookup?, Value.has]
    rw [view, hnull, Option.or_none]
  · rw [view, Keywords.toValue, Value.lookup?_dict, List.map_nil, valueFor?_nil, Option.none_or]
  · rw [view, Keywords.toValue, Value.lookup?_dict, Value.lookup?_layers_pair]

/-- On every path a name has the value that the keywords give it, or else the value that the
mapping gives it. -/
theorem find?_view_of_merge {sql mapping : Value} {keywords : Keywords} {b : Bindings}
    {name : String} (h : merge sql mapping keywords = .ok b) :
    b.view.find? name = (keywords.toValue.find? name).or (mapping.find? name) :=
  lookup?_view_of_merge h (.str name)

end Bindings

end SqlBind
