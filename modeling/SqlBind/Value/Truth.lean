import SqlBind.Value.Identity

/-!
# Truth of Values

Where a setting or an optional argument may be any value, it counts as given when it is *truthy*:
a number other than zero, a text, a string of bytes or a container that is not empty, and every
value of a kind that has no empty one. Layers of mappings are truthy when one of them is.

## Main definitions

* `Value.isTruthy`: whether a value counts as true.
-/

namespace SqlBind.Value

open Number

mutual

/-- Whether a value counts as true. -/
def isTruthy : Value → Bool
  | .null => false
  | .bool b => b
  | .int i => i != 0
  | .float x => !x.isZero
  | .complex re im => !(re.isZero && im.isZero)
  | .decimal text => !(decimalQuantity text).isZero
  | .str s => !s.isEmpty
  | .wrappedStr s => !s.isEmpty
  | .bytes _ data => !data.isEmpty
  | .moment .. | .uuid _ => true
  | .range start stop step => rangeLength start stop step != 0
  | .array items => !items.isEmpty
  | .seq _ items => !items.isEmpty
  | .group _ members => !members.isEmpty
  | .generator _ => true
  | .dict _ entries => !entries.isEmpty
  | .layers maps => anyTruthy maps
  | .placeholder _ | .thing _ | .unshowable _ => true

/-- Whether one of the values counts as true. -/
def anyTruthy : List Value → Bool
  | [] => false
  | v :: rest => isTruthy v || anyTruthy rest

end

end SqlBind.Value
