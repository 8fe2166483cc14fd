import SqlBind.Log.Timestamp

/-!
# The Host

What logging finds around it and does not decide itself: how much of the stack is left where a line
is written, what local time is, and which faults a handler that writes lines keeps to itself.

## Main definitions

* `Host`: a host.
* `Host.Contains`: every fault stays with the handler.
-/

namespace SqlBind.Log

/-- What logging finds around it. -/
structure Host where
  /-- How deep arrays and objects of a document may lie in each other where a line is written. -/
  deepest : Nat
  /-- Local time. -/
  zone : Zone
  /-- Whether a handler that writes lines keeps a fault to itself, rather than raise it again. -/
  contains : Fault → Bool

/-- A handler that writes lines keeps every fault to itself. -/
def Host.Contains (host : Host) : Prop := ∀ fault, host.contains fault = true

/-- A host in universal time whose handlers keep every fault to themselves. -/
def Host.quiet (deepest : Nat) : Host := ⟨deepest, .universal, fun _ => true⟩

theorem Host.contains_quiet (deepest : Nat) : (Host.quiet deepest).Contains := fun _ => rfl

end SqlBind.Log
