import SqlBind.Text.Quoted
import SqlBind.Value.Display

/-!
# Calls with Arguments by Place and by Name

A call supplies arguments by place and by name. A parameter takes the argument in its place, or the
one with its name, but not both; an argument by name needs a parameter of that name; there must not
be more places than parameters; and what has no default needs an argument. These are checked in this
order, arguments by name from left to right, and the first violation is the problem of the call.

Inside a call the object at hand goes by a name of its own, which no argument may have.

## Main definitions

* `Signature`: the parameters of a callee.
* `Arguments`: what a call supplies.
* `Signature.bind`: the arguments by parameter, or the `CallProblem`.

## Main results

* `Signature.bind_places`: arguments by place alone go to the parameters in order.
* `Signature.eq_of_bind`: arguments by name alone are all that is bound.
-/

namespace SqlBind

open Text

/-- What is wrong with a call. -/
inductive CallProblem where
  /-- No parameter has the name of an argument. -/
  | unexpected (name : String)
  /-- A parameter gets two arguments. -/
  | repeated (name : String)
  /-- There are more arguments by place than from `least` to `most` parameters. -/
  | tooMany (least most given : Nat)
  /-- Parameters without a default get no argument. -/
  | missing (names : List String)
  deriving DecidableEq, Repr

namespace CallProblem

/-- Names in a sentence. -/
def nameList : List String → String
  | [] => ""
  | [name] => "'" ++ name ++ "'"
  | [first, last] => "'" ++ first ++ "' and '" ++ last ++ "'"
  | name :: rest => "'" ++ name ++ "', " ++ nameList rest

/-- The words of a problem, behind the name of the callee. -/
def message : CallProblem → String
  | .unexpected name => "got an unexpected keyword argument '" ++ name ++ "'"
  | .repeated name => "got multiple values for argument '" ++ name ++ "'"
  | .tooMany least most given =>
    "takes from " ++ intText least ++ " to " ++ intText most ++ " positional arguments but " ++
      intText given ++ " were given"
  | .missing names =>
    "missing " ++ intText names.length ++ " required positional argument" ++
      (if names.length = 1 then ": " else "s: ") ++ nameList names

end CallProblem

/-- The parameters of a callee that is called on an object: those without and those with a
default. -/
structure Signature where
  required : List String
  optional : List String
  deriving Repr

/-- What a call supplies. -/
structure Arguments where
  places : List Value
  named : List (String × Value)

namespace Signature

/-- The name of the object at hand inside the call. -/
def ownName : String := "self"

/-- All parameters in order. -/
def parameters (s : Signature) : List String := s.required ++ s.optional

/-- Adds arguments by name to those that are bound already. -/
def bindNamed (s : Signature) (bound : List (String × Value)) :
    List (String × Value) → Except CallProblem (List (String × Value))
  | [] => .ok bound
  | (name, v) :: rest =>
    if name = ownName || (bound.lookup name).isSome then .error (.repeated name)
    else if s.parameters.contains name then s.bindNamed (bound ++ [(name, v)]) rest
    else .error (.unexpected name)

/-- The arguments of a call by parameter. The object at hand counts as one argument by place. -/
def bind (s : Signature) (a : Arguments) : Except CallProblem (List (String × Value)) := do
  let bound ← s.bindNamed (s.parameters.zip a.places) a.named
  if s.parameters.length < a.places.length then
    throw (.tooMany (s.required.length + 1) (s.parameters.length + 1) (a.places.length + 1))
  match s.required.filter fun name => (bound.lookup name).isNone with
  | [] => return bound
  | names => throw (.missing names)

/-- Arguments by place alone, one for each parameter, go to the parameters in order. -/
theorem bind_places {s : Signature} {places : List Value}
    (h : places.length = s.parameters.length) :
    s.bind ⟨places, []⟩ = .ok (s.parameters.zip places) := by
  have found (names : List String) (values : List Value) (hl : names.length ≤ values.length)
      (name : String) (hn : name ∈ names) : ((names.zip values).lookup name).isSome = true := by
    induction names generalizing values with
    | nil => simp at hn
    | cons n rest ih =>
      cases values with
      | nil => simp at hl
      | cons v vs =>
        simp only [List.zip_cons_cons, List.lookup_cons]
        by_cases hne : name = n
        · simp [hne]
        · have : (name == n) = false := by simp [hne]
          simp only [this]
          exact ih vs (by simpa using hl) (by simpa [hne] using hn)
  have none_missing :
      (s.required.filter fun name => ((s.parameters.zip places).lookup name).isNone) = [] := by
    rw [List.filter_eq_nil_iff]
    intro name hn
    have := found s.parameters places (by omega) name (by simp [parameters, hn])
    simp [Option.isSome_iff_ne_none.1 this]
  simp [bind, bindNamed, h, none_missing, Bind.bind, Except.bind, pure, Except.pure]

/-- Binding by name puts what is named behind what was bound before. -/
theorem eq_of_bindNamed {s : Signature} {bound named all : List (String × Value)}
    (h : s.bindNamed bound named = .ok all) : all = bound ++ named := by
  induction named generalizing bound with
  | nil =>
    obtain rfl := Except.ok.inj h
    rw [List.append_nil]
  | cons f rest ih =>
    rw [bindNamed] at h
    split at h
    · -- the object at hand, or a parameter that is bound already
      cases h
    · split at h
      · rw [ih h, List.append_assoc]
        rfl
      · cases h

/-- A call with arguments by name alone binds these. -/
theorem eq_of_bind {s : Signature} {named all : List (String × Value)}
    (h : s.bind ⟨[], named⟩ = .ok all) : all = named := by
  have hnone : s.parameters.zip ([] : List Value) = [] := List.zip_nil_right
  rw [bind, hnone] at h
  cases hall : s.bindNamed [] named with
  | error problem =>
    rw [hall] at h
    cases h
  | ok bound =>
    rw [hall] at h
    have heq : bound = all := by
      revert h
      simp only [Bind.bind, Except.bind, pure, Except.pure, List.length_nil, Nat.not_lt_zero,
        if_false]
      split
      · exact Except.ok.inj
      · intro h
        cases h
    exact heq ▸ eq_of_bindNamed hall

end Signature

end SqlBind
