import SqlBind.Config.Basic

/-!
# Configurations of Integers

A configuration is checked when it is created, but not when a setting is assigned, so its limits may
come to be zero or negative. As long as nobody puts anything but integers and truth values into it,
however, it holds nothing else (`Arises.integral`): creation takes over what it is given, with
integers and truth values for the rest, and neither a check nor a copy changes a setting.

Where the limits are integers that a check accepts they are two natural numbers, of which the first
is not zero (`exists_limits_iff`).

## Main definitions

* `Config.Integral`: every setting is an integer or a truth value.
* `Config.Arises`: what creation, assignment and copying come to when they are given nothing else.
* `Config.Limits`: the limits are integers, and valid.

## Main results

* `Config.Arises.integral`: what arises so is integral.
* `Config.exists_limits_iff`: integers are valid limits exactly if the check accepts them.
-/

namespace SqlBind

namespace Config

variable {c c' : Config} {name : String} {v : Value} {settings : List (String × Value)}

/-- A configuration every setting of which is an integer or a truth value. -/
def Integral (c : Config) : Prop := ∀ s : Setting, (c.get s).integer?.isSome = true

/-- The configurations that arise when nothing but integers and truth values is put into them. They
are created, and afterwards assigned to and copied in any order. -/
inductive Arises : Config → Prop
  | create {settings : List (String × Value)} {c : Config} :
      (∀ e ∈ settings, e.2.integer?.isSome = true) → create settings = .ok c → Arises c
  | assign {c c' : Config} {name : String} {v : Value} :
      Arises c → v.integer?.isSome = true → c.assign name v = .ok c' → Arises c'
  | copy {c c' : Config} : Arises c → c.copy = .ok c' → Arises c'

/-- The configuration that sets nothing arises from nothing. -/
theorem arises_default : default.Arises :=
  .create (fun e (he : e ∈ []) => nomatch he) (rfl : create [] = .ok default)

/-- The configuration that sets nothing is integral. -/
theorem integral_default : default.Integral := fun s => by cases s <;> rfl

/-- What is put in place of a setting must be an integer or a truth value, too. -/
theorem Integral.set (h : c.Integral) (hv : v.integer?.isSome = true) (s : Setting) :
    Integral (c.set s v) := by
  intro t
  rw [Settings.get_set]
  split
  · exact hv
  · exact h t

/-- A check changes nothing. -/
theorem eq_of_validate (h : c.validate = .ok c') : c' = c := by
  unfold validate at h
  cases hlength : c.statementLength.compareWith .atMost 0 with
  | error fault =>
      rw [hlength] at h
      cases h
  | ok tooShort =>
      cases hcount : c.parameterCount.compareWith .below 0 with
      | error fault =>
          rw [hlength, hcount] at h
          cases tooShort <;> cases h
      | ok tooFew =>
          rw [hlength, hcount] at h
          cases tooShort <;> cases tooFew <;> cases h
          rfl

/-- Overriding settings keeps a configuration integral. -/
theorem Integral.override (h : c.Integral) (hv : ∀ e ∈ settings, e.2.integer?.isSome = true) :
    (c.override settings).Integral := by
  induction settings generalizing c with
  | nil => exact h
  | cons e rest ih =>
      obtain ⟨he, hrest⟩ := List.forall_mem_cons.mp hv
      rw [Config.override]
      split
      · exact ih (h.set he _) hrest
      · exact ih h hrest

/-- What is created from settings has these, and the defaults for the others. -/
theorem eq_of_create (h : create settings = .ok c) : c = default.override settings := by
  unfold create at h
  split at h
  · rename_i bound hbound
    rw [eq_of_validate h, Signature.eq_of_bind hbound]
  · cases h

/-- What is created from integers and truth values is integral. -/
theorem integral_of_create (hv : ∀ e ∈ settings, e.2.integer?.isSome = true)
    (h : create settings = .ok c) : c.Integral :=
  eq_of_create h ▸ integral_default.override hv

/-- Assigning an integer or a truth value keeps a configuration integral. -/
theorem Integral.assign (h : c.Integral) (hv : v.integer?.isSome = true)
    (hassign : c.assign name v = .ok c') : c'.Integral := by
  unfold Config.assign at hassign
  split at hassign
  · obtain rfl := Except.ok.inj hassign
    exact h.set hv _
  · cases hassign

/-- **What arises from integers and truth values is integral.** -/
theorem Arises.integral (h : c.Arises) : c.Integral := by
  induction h with
  | create hv hcreate => exact integral_of_create hv hcreate
  | assign _ hv hassign ih => exact ih.assign hv hassign
  | copy _ hcopy ih =>
      rw [eq_of_validate hcopy]
      exact ih

/-! ### Valid limits -/

/-- The limits of a configuration are valid integers: so many characters, at least one, and so many
values. -/
structure Limits (c : Config) (length count : Nat) : Prop where
  statementLength : c.statementLength.integer? = some (length : Int)
  parameterCount : c.parameterCount.integer? = some (count : Int)
  positive : 0 < length

/-- An integer compares with another one as an integer. -/
theorem compareWith_of_integer {i : Int} (h : v.integer? = some i) (relation : Relation) (n : Int) :
    v.compareWith relation n = .ok (relation.holdsInt i n) := by
  rw [Value.compareWith, h]

/-- **Integers are valid limits** exactly if the check accepts them. -/
theorem exists_limits_iff {i j : Int} (hlength : c.statementLength.integer? = some i)
    (hcount : c.parameterCount.integer? = some j) :
    (∃ length count, c.Limits length count) ↔ c.validate = .ok c := by
  rw [validate, compareWith_of_integer hlength, compareWith_of_integer hcount]
  constructor
  · rintro ⟨length, count, hlimits⟩
    obtain rfl := Option.some.inj (hlength.symm.trans hlimits.statementLength)
    obtain rfl := Option.some.inj (hcount.symm.trans hlimits.parameterCount)
    have hpositive : ¬(length : Int) ≤ 0 := by
      have := hlimits.positive
      omega
    have hcounted : ¬(count : Int) < 0 := by omega
    simp only [Relation.holdsInt, decide_eq_false hpositive, decide_eq_false hcounted]
    rfl
  · intro h
    by_cases hlow : i ≤ 0
    · simp only [Relation.holdsInt, decide_eq_true hlow] at h
      cases h
    · by_cases hfew : j < 0
      · simp only [Relation.holdsInt, decide_eq_false hlow, decide_eq_true hfew] at h
        cases h
      · refine ⟨i.toNat, j.toNat, ?_, ?_, by omega⟩
        · rw [hlength, Int.toNat_of_nonneg (by omega)]
        · rw [hcount, Int.toNat_of_nonneg (by omega)]

end Config

end SqlBind
