import SqlBind.Value.Basic

/-!
# Sameness of Values

Two values are the *same* when they are built alike, kind by kind and part by part. This is finer
than equality (`SqlBind.Value.equal`), which relates numbers of different kinds and ignores the
order of dictionaries, and coarser than being one object: it is the equality of the logic, and is
decided here.

## Main definitions

* `Value.same`: the decision.

## Main results

* `Value.same_iff`: it decides equality, which gives the instance of `DecidableEq`.
-/

namespace SqlBind.Value

mutual

/-- Whether two values are built alike. -/
def same : Value → Value → Bool
  | .null, .null => true
  | .bool a, .bool b => a = b
  | .int a, .int b => a = b
  | .float a, .float b => a = b
  | .complex a b, .complex c d => a = c && b = d
  | .decimal a, .decimal b => a = b
  | .str a, .str b => a = b
  | .wrappedStr a, .wrappedStr b => a = b
  | .bytes k a, .bytes l b => k = l && a = b
  | .moment k a, .moment l b => k = l && a = b
  | .uuid a, .uuid b => a = b
  | .range a b c, .range d e f => a = d && b = e && c = f
  | .array a, .array b => a = b
  | .seq k a, .seq l b => k = l && sameAll a b
  | .group k a, .group l b => k = l && sameAll a b
  | .generator a, .generator b => sameAll a b
  | .dict k a, .dict l b => k = l && sameEntries a b
  | .layers a, .layers b => sameAll a b
  | .placeholder a, .placeholder b => a = b
  | .thing a, .thing b => a = b
  | .unshowable a, .unshowable b => a = b
  | _, _ => false

/-- Whether two lists of values are built alike. -/
def sameAll : List Value → List Value → Bool
  | [], [] => true
  | a :: as, b :: bs => same a b && sameAll as bs
  | _, _ => false

/-- Whether two lists of entries are built alike. -/
def sameEntries : List (Value × Value) → List (Value × Value) → Bool
  | [], [] => true
  | (a, b) :: as, (c, d) :: bs => same a c && same b d && sameEntries as bs
  | _, _ => false

end

mutual

theorem same_iff : ∀ {a b : Value}, same a b = true ↔ a = b
  | .null, b => by cases b <;> simp [same]
  | .bool _, b => by cases b <;> simp [same]
  | .int _, b => by cases b <;> simp [same]
  | .float _, b => by cases b <;> simp [same]
  | .complex .., b => by cases b <;> simp [same]
  | .decimal _, b => by cases b <;> simp [same]
  | .str _, b => by cases b <;> simp [same]
  | .wrappedStr _, b => by cases b <;> simp [same]
  | .bytes .., b => by cases b <;> simp [same]
  | .moment .., b => by cases b <;> simp [same]
  | .uuid _, b => by cases b <;> simp [same]
  | .range .., b => by cases b <;> simp [same, and_assoc]
  | .array _, b => by cases b <;> simp [same]
  | .seq _ as, b => by cases b <;> simp [same, sameAll_iff (s := as)]
  | .group _ as, b => by cases b <;> simp [same, sameAll_iff (s := as)]
  | .generator as, b => by cases b <;> simp [same, sameAll_iff (s := as)]
  | .dict _ as, b => by cases b <;> simp [same, sameEntries_iff (s := as)]
  | .layers as, b => by cases b <;> simp [same, sameAll_iff (s := as)]
  | .placeholder _, b => by cases b <;> simp [same]
  | .thing _, b => by cases b <;> simp [same]
  | .unshowable _, b => by cases b <;> simp [same]

theorem sameAll_iff : ∀ {s t : List Value}, sameAll s t = true ↔ s = t
  | [], bs => by cases bs <;> simp [sameAll]
  | a :: as, bs => by cases bs <;> simp [sameAll, same_iff (a := a), sameAll_iff (s := as)]

theorem sameEntries_iff :
    ∀ {s t : List (Value × Value)}, sameEntries s t = true ↔ s = t
  | [], bs => by cases bs <;> simp [sameEntries]
  | (a, b) :: as, [] => by simp [sameEntries]
  | (a, b) :: as, (c, d) :: bs => by
    simp [sameEntries, same_iff (a := a), same_iff (a := b), sameEntries_iff (s := as)]

end

instance : DecidableEq Value := fun _ _ => decidable_of_iff _ same_iff

end SqlBind.Value
