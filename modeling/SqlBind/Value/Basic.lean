import SqlBind.Number.Binary64
import SqlBind.Placeholder.Basic

/-!
# Bound Values

The values that may be bound to the placeholders of a statement, or be logged, or be written to a
document. They come from a dynamically typed host, so a value carries its kind with it; many kinds
share one shape and differ only in the name of the kind and in how they are shown.

Two classes of values matter to a rewrite. A *sequence* is an ordered collection that expands into
one mark per element: lists and tuples of every kind, ranges and arrays, but neither texts and
strings of bytes, which bind as a whole, nor sets, whose order means nothing, nor mappings and
generators. A *mapping* can supply bindings by name: dictionaries of every kind and layers of
mappings.

## Main definitions

* `Value`: a value.
* `Value.typeName`, `Value.qualifiedName`: the name of its kind.
* `Value.elements?` and `Value.isSequence`: the elements of a sequence, in order.
* `Value.isMapping`: whether the value is a mapping.
-/

namespace SqlBind

open Number

/-- The kinds of ordered collections. A point is a pair with named coordinates. -/
inductive SeqKind where
  | list
  | tuple
  | deque
  | wrapped
  | point
  deriving DecidableEq, Repr

/-- The kinds of unordered collections. -/
inductive GroupKind where
  | set
  | frozen
  deriving DecidableEq, Repr

/-- The kinds of dictionaries. -/
inductive DictKind where
  | plain
  | ordered
  | defaulting
  | readOnly
  | wrapped
  deriving DecidableEq, Repr

/-- The kinds of strings of bytes. -/
inductive BytesKind where
  | fixed
  | growable
  | view
  deriving DecidableEq, Repr

/-- The kinds of calendar values. -/
inductive MomentKind where
  | date
  | datetime
  | time
  deriving DecidableEq, Repr

/-- How an attempt to show a value can fail. -/
inductive DisplayFailure where
  /-- An object complains about a wrong type. -/
  | wrongType
  /-- An object complains about a wrong value. -/
  | wrongValue
  /-- A whole number has more digits than are written. -/
  | tooManyDigits
  /-- A text has surrogates at an offset, so that it cannot be written. -/
  | surrogates (offset : Nat) (found : List Nat)
  deriving DecidableEq, Repr

/-- The eight bytes of an integer of an array, least significant first. -/
def arrayItemBytes (i : Int) : List UInt8 :=
  (List.range 8).map fun (n : Nat) => UInt8.ofNat ((i >>> (8 * n)) % 256).toNat

/-- The bytes that an array occupies in memory. -/
def arrayBytes (items : List Int) : List UInt8 := items.flatMap arrayItemBytes

/-- A value of the host. Decimals, calendar values and unique identifiers keep the text they are
written with. -/
inductive Value where
  | null
  | bool (b : Bool)
  | int (i : Int)
  | float (x : Binary64)
  | complex (re im : Binary64)
  | decimal (text : String)
  | str (s : String)
  | wrappedStr (s : String)
  | bytes (kind : BytesKind) (data : List UInt8)
  | moment (kind : MomentKind) (text : String)
  | uuid (text : String)
  | range (start stop step : Int)
  | array (items : List Int)
  | seq (kind : SeqKind) (items : List Value)
  | group (kind : GroupKind) (members : List Value)
  | generator (items : List Value)
  | dict (kind : DictKind) (entries : List (Value × Value))
  | layers (maps : List Value)
  | placeholder (p : Placeholder)
  /-- An object of a class of its own, known only by the text that shows it. -/
  | thing (text : String)
  /-- An object that cannot be shown. -/
  | unshowable (failure : DisplayFailure)

namespace Value

instance : Inhabited Value := ⟨.null⟩

/-- The name of the kind of a value. -/
def typeName : Value → String
  | .null => "NoneType"
  | .bool _ => "bool"
  | .int _ => "int"
  | .float _ => "float"
  | .complex .. => "complex"
  | .decimal _ => "Decimal"
  | .str _ => "str"
  | .wrappedStr _ => "UserString"
  | .bytes .fixed _ => "bytes"
  | .bytes .growable _ => "bytearray"
  | .bytes .view _ => "memoryview"
  | .moment .date _ => "date"
  | .moment .datetime _ => "datetime"
  | .moment .time _ => "time"
  | .uuid _ => "UUID"
  | .range .. => "range"
  | .array _ => "array"
  | .seq .list _ => "list"
  | .seq .tuple _ => "tuple"
  | .seq .deque _ => "deque"
  | .seq .wrapped _ => "UserList"
  | .seq .point _ => "Point"
  | .group .set _ => "set"
  | .group .frozen _ => "frozenset"
  | .generator _ => "generator"
  | .dict .plain _ => "dict"
  | .dict .ordered _ => "OrderedDict"
  | .dict .defaulting _ => "defaultdict"
  | .dict .readOnly _ => "mappingproxy"
  | .dict .wrapped _ => "UserDict"
  | .layers _ => "ChainMap"
  | .placeholder _ => "ParameterInfo"
  | .thing _ => "Thing"
  | .unshowable _ => "BadRepr"

/-- The name of the kind of a value as the host's own complaints give it: with the module that the
kind belongs to, where it belongs to one. -/
def qualifiedName (v : Value) : String :=
  match v with
  | .decimal _ => "decimal." ++ v.typeName
  | .moment .. => "datetime." ++ v.typeName
  | .seq .deque _ | .dict .ordered _ | .dict .defaulting _ => "collections." ++ v.typeName
  | .array _ => "array." ++ v.typeName
  | _ => v.typeName

/-- The number of elements of the range from `start` to `stop` by `step`. -/
def rangeLength (start stop step : Int) : Nat :=
  if 0 < step then ((stop - start + step - 1) / step).toNat
  else if step < 0 then ((start - stop - step - 1) / -step).toNat
  else 0

/-- The elements of the range from `start` to `stop` by `step`. -/
def rangeElements (start stop step : Int) : List Int :=
  (List.range (rangeLength start stop step)).map fun (n : Nat) => start + n * step

/-- The number that the hexadecimal digits of an identifier write. -/
def uuidNumber (text : String) : Int :=
  let digit (c : Char) : Nat :=
    if c.isDigit then c.toNat - '0'.toNat else c.toLower.toNat - 'a'.toNat + 10
  (text.toList.filter (· != '-')).foldl (fun (n : Int) c => n * 16 + digit c) 0

/-- The elements of a sequence in order; nothing for a value that is no sequence. -/
def elements? : Value → Option (List Value)
  | .seq _ items => some items
  | .range start stop step => some ((rangeElements start stop step).map .int)
  | .array items => some (items.map .int)
  | _ => none

/-- Whether a value expands into one mark per element when it is bound. -/
def isSequence : Value → Bool
  | .seq .. | .range .. | .array _ => true
  | _ => false

/-- Whether a value can supply bindings by name. -/
def isMapping : Value → Bool
  | .dict .. | .layers _ => true
  | _ => false

@[simp] theorem isSequence_seq {kind : SeqKind} {items : List Value} :
    (seq kind items).isSequence = true := rfl

/-- The sequences are the values that have elements. -/
theorem isSome_elements? {v : Value} : v.elements?.isSome = v.isSequence := by
  cases v <;> rfl

/-- No value is both a sequence and a mapping. -/
theorem isSequence_eq_false_of_isMapping {v : Value} (h : v.isMapping = true) :
    v.isSequence = false := by
  cases v <;> first | rfl | simp [isMapping] at h

end Value

end SqlBind
