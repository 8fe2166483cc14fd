import SqlBind.Fault.Cause
import SqlBind.Value.Mapping

/-!
# Equality of Values

Which values agree when they are compared, be they keys or not. Numbers agree by their quantity,
wrapped collections agree with what they wrap, lists with lists, tuples with tuples and sets with
sets. Mappings of all kinds agree when they have the same keys with agreeing values, in any order;
but two ordered dictionaries must also have their keys in the same order. Agreement is therefore not
transitive: an ordered dictionary may agree with a plain one that agrees with another ordered one.

Bytes agree with bytes. A string of bytes that can grow agrees also with an array that occupies the
same bytes in memory, and a view of bytes with an array of the same numbers.

A decimal that must not be compared makes the comparison with any real number fail. The parts of
two collections are compared one after the other and only up to the first difference, so the failure
shows only if the comparison gets that far. How far it gets depends on whose order it follows: one
of the two *leads*. It is the first of them unless the second *precedes* it, as what is more special
does: a wrapper precedes what it wraps, a point a tuple, and a dictionary of a special kind a plain
one.

To compare layers of mappings with anything that is a mapping, both are walked through, which can
change a dictionary with a default among the layers (`SqlBind.Value.Mapping`). So a comparison
yields what becomes of the two values, beside the verdict.

What agrees with nothing made apart from it still agrees with itself, unless it is no number at all;
parts of a collection are never asked about themselves.

## Main definitions

* `Comparison`: the verdict of a comparison and what becomes of the two sides.
* `Value.compare`: the comparison of two values made separately.
* `Value.agrees`: its verdict.
* `Value.agreesItself`: whether a value agrees with itself.

## Main results

* `Value.agrees_str`, `Value.agrees_int`: texts and integers agree only when they are the same.
-/

namespace SqlBind

open Number

/-- The forms of sequences that a comparison tells apart. -/
inductive SeqForm where
  | list
  | listWrapper
  | tuple
  | point
  | deque
  deriving DecidableEq, Repr

namespace SeqForm

/-- What a form counts as. -/
def plain : SeqForm → SeqForm
  | .list | .listWrapper => .list
  | .tuple | .point => .tuple
  | .deque => .deque

/-- Whether a sequence of the second form precedes one of the first. -/
def yields : SeqForm → SeqForm → Bool
  | .list, .listWrapper | .tuple, .point => true
  | _, _ => false

/-- Whether sequences of different lengths are told apart before their elements are compared. -/
def isMeasured (form : SeqForm) : Bool := form.plain != .tuple

end SeqForm

/-- The forms of mappings that a comparison tells apart. -/
inductive MappingForm where
  | plain
  | ordered
  | defaulting
  | view
  | wrapper
  deriving DecidableEq, Repr

/-- Whether a mapping of the second form precedes one of the first. -/
def MappingForm.yields : MappingForm → MappingForm → Bool
  | .wrapper, _ => false
  | _, .wrapper => true
  | .plain, .plain | .view, .plain => false
  | .plain, _ | .view, _ => true
  | .ordered, _ | .defaulting, _ => false

/-- What a comparison looks at. -/
inductive Comparand where
  /-- Agrees with nothing made apart. -/
  | alone
  /-- Goes by this identity. -/
  | plain (identity : List Atom)
  /-- A real number; one without identity agrees with nothing. -/
  | number (identity : Option (List Atom))
  /-- Must not be compared with a number. -/
  | signal
  | bytes (kind : BytesKind) (data : List UInt8)
  | array (items : List Int)
  | seq (form : SeqForm) (items : List Value)
  | group (members : List Value)
  | mapping (form : MappingForm)

/-- Whether a string of bytes agrees with an array. -/
def BytesKind.agreesWithArray (kind : BytesKind) (data : List UInt8) (items : List Int) : Bool :=
  match kind with
  | .fixed => false
  | .growable => data = arrayBytes items
  | .view => data.map (fun b => (b.toNat : Int)) = items

/-- The verdict of a comparison, and what becomes of the two sides. -/
structure Comparison (α : Type) where
  verdict : Outcome Bool
  left : α
  right : α

namespace Comparison

/-- A comparison that leaves the two sides as they are. -/
def keeping {α : Type} (left right : α) (verdict : Outcome Bool) : Comparison α :=
  ⟨verdict, left, right⟩

/-- The comparison seen from the other side. -/
def flip {α : Type} (c : Comparison α) : Comparison α := ⟨c.verdict, c.right, c.left⟩

end Comparison

/-- Compares lists part by part; the one that ends first is too short. -/
def compareLists (compare : Value → Value → Comparison Value) :
    List Value → List Value → Comparison (List Value)
  | a :: as, b :: bs =>
    let first := compare a b
    match first.verdict with
    | .ok true =>
      let rest := compareLists compare as bs
      ⟨rest.verdict, first.left :: rest.left, first.right :: rest.right⟩
    | verdict => ⟨verdict, first.left :: as, first.right :: bs⟩
  | as, bs => .keeping as bs (.ok (as.isEmpty && bs.isEmpty))

/-- Compares the value of every key with the value that other entries have for it. -/
def compareEntries (compare : Value → Value → Comparison Value) :
    Entries → Entries → Comparison Entries
  | [], others => .keeping [] others (.ok true)
  | (key, v) :: rest, others =>
    match valueFor? key others with
    | none => .keeping ((key, v) :: rest) others (.ok false)
    | some w =>
      let first := compare v w
      let others := others.map fun e => if e.1.equal key then (e.1, first.right) else e
      match first.verdict with
      | .ok true =>
        let later := compareEntries compare rest others
        ⟨later.verdict, (key, first.left) :: later.left, later.right⟩
      | verdict => ⟨verdict, (key, first.left) :: rest, others⟩

/-- Whether entries have the same keys in the same order. -/
def sameKeyOrder (a b : Entries) : Bool :=
  (a.zip b).all fun e => e.1.1.equal e.2.1

namespace Value

/-- What a comparison of a value looks at. -/
def comparand (v : Value) : Comparand :=
  match v with
  | .bool _ | .int _ | .float _ => .number v.identity?
  | .complex _ im =>
    if im.isZero then .number v.identity? else (v.identity?.map .plain).getD .alone
  | .decimal text => if isSignalling text then .signal else .number v.identity?
  | .bytes kind data => .bytes kind data
  | .moment kind text => .plain [.moment kind (kind.isUniversal text) (kind.comparedMicros text)]
  | .array items => .array items
  | .seq .list items => .seq .list items
  | .seq .wrapped items => .seq .listWrapper items
  | .seq .tuple items => .seq .tuple items
  | .seq .point items => .seq .point items
  | .seq .deque items => .seq .deque items
  | .group _ members => .group members
  | .dict .plain _ => .mapping .plain
  | .dict .ordered _ => .mapping .ordered
  | .dict .defaulting _ => .mapping .defaulting
  | .dict .readOnly _ => .mapping .view
  | .dict .wrapped _ | .layers _ => .mapping .wrapper
  | _ => (v.identity?.map .plain).getD .alone

/-- A sequence with other elements. -/
def withElements (v : Value) (items : List Value) : Value :=
  match v with
  | .seq kind _ => .seq kind items
  | v => v

/-- A mapping with other values for its keys. -/
def withItems (m : Value) (entries : Entries) : Value :=
  entries.foldl (fun m e => replaceValue e.1 e.2 m) m

mutual

/-- How deep containers are nested in a value. -/
def depth : Value → Nat
  | .seq _ items => depthOf items + 1
  | .dict _ entries => depthOfEntries entries + 1
  | .layers maps => depthOf maps + 1
  | _ => 1

/-- The greatest depth of the values of a list. -/
def depthOf : List Value → Nat
  | [] => 1
  | v :: rest => max (depth v) (depthOf rest)

/-- The greatest depth of the values of entries. -/
def depthOfEntries : List (Value × Value) → Nat
  | [] => 1
  | (_, v) :: rest => max (depth v) (depthOfEntries rest)

end

/-- The verdict on two values that have no parts which a comparison might change. -/
def verdict : Comparand → Comparand → Outcome Bool
  | .signal, .number _ | .number _, .signal | .signal, .signal => .error .undefinedOrder
  | .number (some x), .number (some y) => .ok (x = y)
  | .plain x, .plain y => .ok (x = y)
  | .bytes _ x, .bytes _ y => .ok (x = y)
  | .bytes kind data, .array items => .ok (kind.agreesWithArray data items)
  | .array items, .bytes kind data => .ok (kind.agreesWithArray data items)
  | .array x, .array y => .ok (x = y)
  | .group x, .group y => .ok (x.length = y.length && x.all fun m => y.any fun n => m.equal n)
  | _, _ => .ok false

/-- Compares the elements of two sequences of which the first leads. -/
def compareElements (compare : Value → Value → Comparison Value) (form : SeqForm) (a b : Value)
    (x y : List Value) : Comparison Value :=
  if form.isMeasured && x.length != y.length then .keeping a b (.ok false)
  else
    let c := compareLists compare x y
    ⟨c.verdict, a.withElements c.left, b.withElements c.right⟩

/-- Compares the entries of two mappings of which the first leads. -/
def compareItems (compare : Value → Value → Comparison Value) (bothOrdered : Bool) (a b : Value) :
    Comparison Value :=
  if a.items.length != b.items.length then .keeping a b (.ok false)
  else
    let c := compareEntries compare a.items b.items
    let inOrder := !bothOrdered || sameKeyOrder a.items b.items
    ⟨c.verdict.map (· && inOrder), a.withItems c.left, b.withItems c.right⟩

/-- Compares two values that are nested at most `depth` deep. -/
def compareWithin : Nat → Value → Value → Comparison Value
  | 0, a, b => .keeping a b (.ok false)
  | depth + 1, a, b =>
    match a.comparand, b.comparand with
    | .seq s x, .seq t y =>
      if s.plain != t.plain then .keeping a b (.ok false)
      else if s.yields t then (compareElements (compareWithin depth) t b a y x).flip
      else compareElements (compareWithin depth) s a b x y
    | .mapping s, .mapping t =>
      let isWalked := s = .wrapper || t = .wrapper
      let a := if isWalked then a.listed else a
      let b := if isWalked then b.listed else b
      let bothOrdered := s = .ordered && t = .ordered
      if s.yields t then (compareItems (compareWithin depth) bothOrdered b a).flip
      else compareItems (compareWithin depth) bothOrdered a b
    | x, y => .keeping a b (verdict x y)

/-- Compares two values made separately. -/
def compare (a b : Value) : Comparison Value := compareWithin (max a.depth b.depth) a b

/-- Whether two values made separately agree. -/
def agrees (a b : Value) : Outcome Bool := (compare a b).verdict

/-- Whether a value agrees with itself. What is not a number does not. -/
def agreesItself : Value → Outcome Bool
  | .float .nan | .complex .nan _ | .complex _ .nan => .ok false
  | .decimal text =>
    if isSignalling text then .error .undefinedOrder
    else .ok (decimalQuantity text != .undefined)
  | _ => .ok true

/-- Texts agree only when they are the same. -/
@[simp] theorem agrees_str {s t : String} : (str s).agrees (str t) = .ok (decide (s = t)) := by
  simp [agrees, compare, depth, compareWithin, comparand, identity?, Comparison.keeping, verdict]

/-- Integers agree only when they have the same numeral. -/
@[simp] theorem agrees_int {a b : Int} :
    (int a).agrees (int b) = .ok (decide (Atom.ofInt a = Atom.ofInt b)) := by
  simp [agrees, compare, depth, compareWithin, comparand, identity?, Comparison.keeping, verdict]

end Value

end SqlBind
