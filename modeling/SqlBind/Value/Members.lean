import SqlBind.Value.Equality

/-!
# Members of Sets

The members of the set of a list of values: of values that equal each other the first one counts.
A value that is no key cannot be a member. Beside it stands the table of which values agree.

## Main definitions

* `Value.members`: the members, unless one of the values cannot be a member.
* `Value.agreementTable`: which values of a list agree.

## Main results

* `mem_of_mem_distinctOn`: every member is in the list.
* `exists_mem_distinctOn`: every value in the list that has an identity is among the members.
-/

namespace SqlBind

/-- The members of the set of all the values of a list. -/
def Value.members (vs : List Value) : Outcome (List Value) :=
  match vs.findSome? unhashable? with
  | some refusal => .error (.unhashable refusal)
  | none => .ok (distinctOn id vs)

/-- Which values of a list agree, row by row; the value at one place is compared with itself. -/
def Value.agreementTable (vs : List Value) : Outcome (List (List Bool)) :=
  vs.zipIdx.mapM fun (a, i) => vs.zipIdx.mapM fun (b, k) =>
    if i = k then a.agreesItself else a.agrees b

variable {α : Type} {key : α → Value}

/-- Every member is in the list. -/
theorem mem_of_mem_distinctOn {a : α} {as : List α} (h : a ∈ distinctOn key as) : a ∈ as := by
  induction as with
  | nil => exact h
  | cons b rest ih =>
    simp only [distinctOn, List.mem_cons, List.mem_filter] at h ⊢
    exact h.imp id fun h => ih h.1

/-- Everything in the list whose key is the same as itself has its key among the members. -/
theorem exists_mem_distinctOn {a : α} {as : List α} (ha : (key a).equal (key a) = true)
    (h : a ∈ as) : ∃ b ∈ distinctOn key as, (key b).equal (key a) = true := by
  induction as with
  | nil => simp at h
  | cons c rest ih =>
    by_cases hc : (key c).equal (key a)
    · exact ⟨c, by simp [distinctOn], hc⟩
    · have hmem : a ∈ rest := by
        rcases List.mem_cons.1 h with rfl | h
        · exact absurd ha hc
        · exact h
      obtain ⟨b, hb, hba⟩ := ih hmem
      have hcb : (key c).equal (key b) = false := by
        cases hc' : (key c).equal (key b) with
        | false => rfl
        | true => exact absurd (Value.equal_trans hc' hba) hc
      exact ⟨b, by simp [distinctOn, hb, hcb], hba⟩

end SqlBind
