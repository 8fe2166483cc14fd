import SqlBind.Number.Layout
import SqlBind.Value.Mapping

/-!
# Documents

A JSON document as a tree. Whole numbers of any size are kept exactly and apart from doubles, and
an object is the list of its members in the order in which they are written, where a name may
occur more than once.

## Main definitions

* `Json`: a document.
* `Json.depth`: how deep arrays and objects lie in each other.
* `Json.toValue`: the value that a document stands for, in which an object is a dictionary: a
  repeated name keeps its first place and its last value.
-/

namespace SqlBind

open Number

/-- A JSON document. -/
inductive Json where
  | null
  | bool (b : Bool)
  | int (i : Int)
  | float (x : Binary64)
  | str (s : String)
  | array (elements : List Json)
  | object (members : List (String × Json))

namespace Json

instance : Inhabited Json := ⟨.null⟩

mutual

/-- How deep the arrays and objects of a document lie in each other. -/
def depth : Json → Nat
  | .array elements => depthOfElements elements + 1
  | .object members => depthOfMembers members + 1
  | _ => 0

/-- The depth of the deepest of some elements. -/
def depthOfElements : List Json → Nat
  | [] => 0
  | j :: rest => max (depth j) (depthOfElements rest)

/-- The depth of the deepest of some members. -/
def depthOfMembers : List (String × Json) → Nat
  | [] => 0
  | (_, j) :: rest => max (depth j) (depthOfMembers rest)

end

mutual

/-- The value that a document stands for. -/
def toValue : Json → Value
  | .null => .null
  | .bool b => .bool b
  | .int i => .int i
  | .float x => .float x
  | .str s => .str s
  | .array elements => .seq .list (toValues elements)
  | .object members => .dictOf .plain (toEntries members)

/-- The values that the elements of an array stand for. -/
def toValues : List Json → List Value
  | [] => []
  | j :: rest => toValue j :: toValues rest

/-- The entries that the members of an object stand for. -/
def toEntries : List (String × Json) → Entries
  | [] => []
  | (name, j) :: rest => (.str name, toValue j) :: toEntries rest

end

end Json

end SqlBind
