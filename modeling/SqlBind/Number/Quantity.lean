import SqlBind.Number.Binary64

/-!
# Quantities

What integers, doubles and decimals have in common: each is a decimal numeral, an infinity, or
undefined. A double is a numeral too, because a half is five tenths. Numbers of different kinds are
compared as quantities, that is exactly and without converting one kind to another. An undefined
quantity is neither equal to, nor below, nor above any quantity, itself included.

Numerals are kept in reduced form, so that the same number has one numeral. They are ordered by
their magnitudes first; only numerals of one magnitude are brought to a common exponent, so a huge
exponent is never expanded.

## Main definitions

* `Quantity`: a numeral, an infinity, or nothing.
* `Quantity.same`, `Quantity.less`, `Quantity.atMost`: the comparisons.
-/

namespace SqlBind.Number

namespace Numeral

/-- Whether a numeral is nearer to zero than another. -/
def nearerZero (a b : Numeral) : Bool :=
  if b.coefficient = 0 then false
  else if a.coefficient = 0 then true
  else if a.magnitude = b.magnitude then
    let least := min a.exponent b.exponent
    a.coefficient * tenTo (a.exponent - least).toNat <
      b.coefficient * tenTo (b.exponent - least).toNat
  else a.magnitude < b.magnitude

/-- Whether a numeral is below another. -/
def less (a b : Numeral) : Bool :=
  match a.negative, b.negative with
  | false, false => a.nearerZero b
  | true, true => b.nearerZero a
  | true, false => a.coefficient != 0 || b.coefficient != 0
  | false, true => false

end Numeral

/-- A number of any size, an infinity, or an undefined quantity. -/
inductive Quantity where
  | undefined
  | infinite (negative : Bool)
  | finite (n : Numeral)
  deriving DecidableEq, Repr

namespace Quantity

/-- A numeral as a quantity. -/
def ofNumeral (n : Numeral) : Quantity := .finite n.reduced

/-- An integer as a quantity. -/
def ofInt (i : Int) : Quantity := ofNumeral (.ofInt i)

/-- The exact value of a double. -/
def ofBinary64 : Binary64 → Quantity
  | .nan => .undefined
  | .infinite negative => .infinite negative
  | .finite negative significand exponent =>
    ofNumeral ⟨negative, significand * twoTo exponent.toNat * fiveTo (-exponent).toNat,
      min exponent 0⟩

/-- Whether two quantities are the same number. -/
def same : Quantity → Quantity → Bool
  | .infinite a, .infinite b => a = b
  | .finite a, .finite b => a = b
  | _, _ => false

/-- Whether the first quantity is below the second. -/
def less : Quantity → Quantity → Bool
  | .undefined, _ | _, .undefined => false
  | .infinite a, .infinite b => a && !b
  | .infinite a, .finite _ => a
  | .finite _, .infinite b => !b
  | .finite a, .finite b => a.less b

/-- Whether the first quantity is below the second or the same number. -/
def atMost (a b : Quantity) : Bool := a.less b || a.same b

/-- Whether the quantity is zero. -/
def isZero : Quantity → Bool
  | .finite n => n.coefficient = 0
  | _ => false

/-- A quantity that is not undefined is the same as itself. -/
theorem same_self {q : Quantity} (h : q ≠ .undefined) : q.same q = true := by
  cases q <;> simp_all [same]

end Quantity

end SqlBind.Number
