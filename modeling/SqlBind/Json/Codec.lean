import SqlBind.Fault.Cause
import SqlBind.Json.Encoding
import SqlBind.Json.Reader

/-!
# Writing and Reading Documents

The two directions between values and documents, with their faults. A value that cannot be written
because an object in it complains about a wrong type is reported by the kind of the whole value;
any other complaint is passed on as it is. A document that does not follow the grammar is reported
as such; one with a string that is not well-formed is a fault of its own. Where arrays and objects
lie in each other too deep, a document is neither written nor read. How deep they may lie depends on
how much of the stack is left where a document is written or read, so it is given each time.

## Main definitions

* `Value.encode`: the text of the document of a value.
* `Value.decode`: the value of a document given as text or bytes.
-/

namespace SqlBind

open Text

namespace Value

/-- The text of the document of a value, where a document may be so deep. -/
def encode (v : Value) (deepest : Nat) : Outcome String :=
  match v.toJson with
  | .ok j => if deepest < j.depth then .error .writtenTooDeep else .ok (String.ofList j.print)
  | .error .wrongType =>
    .error (serializationFault ("Unable to encode " ++ v.typeName ++ " as JSON"))
  | .error failure => .error (.undisplayable failure)

/-- An error of the library that a value ends in is one about a document. -/
theorem kind_of_encode {v : Value} {deepest : Nat} {e : LibraryError}
    (h : v.encode deepest = .error (.library e)) : e.kind = .general .serialization := by
  unfold encode at h
  split at h
  · split at h <;> cases h
  · rw [serializationFault_eq] at h
    obtain rfl := Fault.library.inj (Except.error.inj h)
    rfl
  · cases h

/-- The bytes that a value gives access to, if it is one that does. -/
def buffer? : Value → Option (List UInt8)
  | .bytes _ data => some data
  | .array items => some (arrayBytes items)
  | _ => none

end Value

/-- The value of a document that was read, or the fault of reading it. -/
def ofRead : Except ReadFailure Json → Outcome Value
  | .ok j => .ok j.toValue
  | .error .malformed => .error (serializationFault "Unable to decode JSON document")
  | .error .notText => .error .decodedNoText
  | .error .tooDeep => .error .readTooDeep

/-- The value of a document given as text, where a document may be so deep. -/
def decodeText (deepest : Nat) (s : String) : Outcome Value := ofRead (Json.ofText deepest s)

/-- The value of a document given as bytes, where a document may be so deep. -/
def decodeBytes (deepest : Nat) (bytes : List UInt8) : Outcome Value :=
  ofRead (Json.ofBytes deepest bytes)

namespace Value

/-- The value of a document given as a value that holds text or bytes, where a document may be so
deep. -/
def decode (v : Value) (deepest : Nat) : Outcome Value :=
  match v, v.buffer? with
  | .str s, _ => decodeText deepest s
  | _, some data => decodeBytes deepest data
  | v, none => .error (.decodedNoBytes v.qualifiedName)

end Value

end SqlBind
