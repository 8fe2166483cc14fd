import SqlBind.Value.Basic

/-!
# Values in Storage

Whether a value can be stored and read back. Three kinds of values cannot: generators, which have
no content of their own, and views, which show the content of something else, be it bytes or a
dictionary. A container can be stored if all of its parts can.

## Main definitions

* `Value.unstorable?`: the first part of a value that cannot be stored.
-/

namespace SqlBind

/-- The kinds of values that cannot be stored. -/
inductive Unstorable where
  | generator
  | bytesView
  | readOnlyView
  deriving DecidableEq, Repr

/-- The words of the complaint about a value that cannot be stored. -/
def Unstorable.message : Unstorable → String
  | .generator => "cannot pickle 'generator' object"
  | .bytesView => "cannot pickle memoryview objects"
  | .readOnlyView => "cannot pickle 'mappingproxy' object"

namespace Value

mutual

/-- The first part of a value that cannot be stored, if there is one. -/
def unstorable? : Value → Option Unstorable
  | .generator _ => some .generator
  | .bytes .view _ => some .bytesView
  | .dict .readOnly _ => some .readOnlyView
  | .seq _ items => unstorableIn? items
  | .group _ members => unstorableIn? members
  | .dict _ entries => unstorableInEntries? entries
  | .layers maps => unstorableIn? maps
  | _ => none

/-- The first part of several values that cannot be stored. -/
def unstorableIn? : List Value → Option Unstorable
  | [] => none
  | v :: rest => (unstorable? v).or (unstorableIn? rest)

/-- The first part of keys and values that cannot be stored. -/
def unstorableInEntries? : List (Value × Value) → Option Unstorable
  | [] => none
  | (k, v) :: rest => ((unstorable? k).or (unstorable? v)).or (unstorableInEntries? rest)

end

end Value

end SqlBind
