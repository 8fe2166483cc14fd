import SqlBind.Fault.Basic
import SqlBind.Fault.Call
import SqlBind.Fault.Lookup
import SqlBind.Fault.Template
import SqlBind.Fault.Timestamp
import SqlBind.Value.Storage

/-!
# Faults

Everything that can go wrong. Besides the errors of the library there are faults that the host
reports in its own words, because a value of the wrong kind reached an operation that the library
does not check. A fault is recorded as its cause; the words follow from the cause.

## Main definitions

* `Fault`: the causes.
* `Fault.message?`: the words, which a failed decoding does not have.
* `configurationFault`, `serializationFault`, `bindingTypeFault`, `nestedSequenceFault`: the errors
  that the library raises itself.

## Main results

* `exists_of_bind_eq_ok` and `exists_of_map_eq_ok`: what succeeds in steps succeeds in each of them.
* `raised_general`: an error with nothing but a message has it as its detail.
-/

namespace SqlBind

open Text

/-- The order relations whose failure is reported. -/
inductive Relation where
  | atMost
  | below
  | atLeast
  | above
  deriving DecidableEq, Repr

/-- The sign of a relation. -/
def Relation.sign : Relation → String
  | .atMost => "<="
  | .below => "<"
  | .atLeast => ">="
  | .above => ">"

/-- What can go wrong. -/
inductive Fault where
  | library (e : LibraryError)
  /-- Texts are joined, but the one with an index is no text. -/
  | joinedNoText (index : Nat) (typeName : String)
  /-- A value is to be stored that cannot be. -/
  | unstorable (part : Unstorable)
  /-- An object refuses to be shown. -/
  | undisplayable (failure : DisplayFailure)
  /-- Something other than text is scanned. -/
  | scannedNoText (typeName : String)
  /-- A string of bytes is scanned. -/
  | scannedBytes
  /-- Bindings cannot answer for a name. -/
  | badLookup (problem : LookupProblem)
  /-- Something other than text or bytes is decoded. -/
  | decodedNoBytes (typeName : String)
  /-- A string in a document is not well-formed. -/
  | decodedNoText
  /-- Arrays and objects of a document to be written lie in each other too deep. -/
  | writtenTooDeep
  /-- Arrays and objects of a document that is read lie in each other too deep. -/
  | readTooDeep
  /-- Values without a common order are compared. -/
  | incomparable (relation : Relation) (left right : String)
  /-- A slice is bounded by something other than an integer. -/
  | badSliceBound
  /-- A callee is called with arguments that do not fit. -/
  | badCall (callee : String) (problem : CallProblem)
  /-- Something is assigned that a configuration has but does not let be assigned. -/
  | readOnly (name : String)
  /-- A value is assigned as the kind of a configuration. -/
  | noKind (typeName : String)
  /-- A value is assigned in place of the weak references to a configuration, which takes none. -/
  | noWeakReferences (name : String)
  /-- A setting is assigned that a configuration does not have. -/
  | noSuchSetting (name : String)
  /-- A configuration is used as a key. -/
  | unhashableConfiguration
  /-- No holder has the name. -/
  | unknownName (name : String)
  /-- A value that cannot be a key is used as one. -/
  | unhashable (refusal : KeyRefusal)
  /-- A level has an unknown name. -/
  | unknownLevel (name : String)
  /-- A template cannot be filled with its arguments. -/
  | badTemplate (problem : TemplateProblem)
  /-- A moment has no timestamp. -/
  | badTimestamp (problem : TimestampProblem)
  /-- A decimal that is not a number is put in order, or one that must not be is compared. -/
  | undefinedOrder
  /-- Extra fields come from something that cannot be walked through. -/
  | notIterable (typeName : String)
  /-- An extra field comes from something that cannot be walked through. -/
  | noPair (index : Nat)
  /-- An extra field comes from a collection that has not two elements. -/
  | badPairLength (index length : Nat)

namespace Fault

/-- The words of a fault. -/
def message? : Fault → Option String
  | .library e => some e.message
  | .joinedNoText index typeName =>
    some ("sequence item " ++ intText index ++ ": expected str instance, " ++ typeName ++ " found")
  | .unstorable part => some part.message
  | .undisplayable failure => some failure.message
  | .scannedNoText typeName => some ("expected string or bytes-like object, got " ++ quote typeName)
  | .scannedBytes => some "cannot use a string pattern on a bytes-like object"
  | .badLookup problem => some problem.message
  | .decodedNoBytes typeName => some ("a bytes-like object is required, not " ++ quote typeName)
  | .decodedNoText => none
  | .writtenTooDeep => some "maximum recursion depth exceeded while serializing an object"
  | .readTooDeep => some "maximum recursion depth exceeded while deserializing an object"
  | .incomparable relation left right =>
    some (quote relation.sign ++ " not supported between instances of " ++ quote left ++ " and " ++
      quote right)
  | .badSliceBound =>
    some "slice indices must be integers or None or have an __index__ method"
  | .badCall callee problem => some (callee ++ "() " ++ problem.message)
  | .readOnly name => some ("'RewriterConfig' object attribute '" ++ name ++ "' is read-only")
  | .noKind typeName =>
    some ("__class__ must be set to a class, not " ++ quote typeName ++ " object")
  | .noWeakReferences name =>
    some ("descriptor '" ++ name ++
      "' for 'RewriterConfig' objects doesn't apply to a 'RewriterConfig' object")
  | .noSuchSetting name => some ("'RewriterConfig' object has no attribute '" ++ name ++ "'")
  | .unknownName name => some (quote name)
  | .unhashableConfiguration => some "unhashable type: 'RewriterConfig'"
  | .unhashable (.changeable typeName) => some ("unhashable type: " ++ quote typeName)
  | .unhashable .signalling => some "Cannot hash a signaling NaN value"
  | .unknownLevel name => some ("Unknown level: " ++ quote name)
  | .badTemplate problem => some problem.message
  | .badTimestamp problem => some problem.message
  | .undefinedOrder => some "[<class 'decimal.InvalidOperation'>]"
  | .notIterable typeName => some (quote typeName ++ " object is not iterable")
  | .noPair index =>
    some ("cannot convert dictionary update sequence element #" ++ intText index ++
      " to a sequence")
  | .badPairLength index length =>
    some ("dictionary update sequence element #" ++ intText index ++ " has length " ++
      intText length ++ "; 2 is required")

end Fault

/-- The outcome of an operation that can go wrong. -/
abbrev Outcome (α : Type) := Except Fault α

/-- What succeeds in two steps succeeds in each of them. -/
theorem exists_of_bind_eq_ok {ε α β : Type} {first : Except ε α} {second : α → Except ε β} {b : β}
    (h : first >>= second = .ok b) : ∃ a, first = .ok a ∧ second a = .ok b := by
  cases first with
  | error e => nomatch h
  | ok a => exact ⟨a, rfl, h⟩

/-- What is made of the result of one step succeeds if the step does. -/
theorem exists_of_map_eq_ok {ε α β : Type} {first : Except ε α} {f : α → β} {b : β}
    (h : (do return f (← first)) = .ok b) : ∃ a, first = .ok a ∧ f a = b := by
  obtain ⟨a, ha, hb⟩ := exists_of_bind_eq_ok h
  exact ⟨a, ha, Except.ok.inj hb⟩

/-- Reports an object that refuses to be shown as a fault. -/
def ofDisplay {α : Type} : Except DisplayFailure α → Outcome α
  | .ok a => .ok a
  | .error failure => .error (.undisplayable failure)

theorem eq_ok_of_ofDisplay {α : Type} {shown : Except DisplayFailure α} {a : α}
    (h : ofDisplay shown = .ok a) : shown = .ok a := by
  cases shown with
  | ok found => exact congrArg Except.ok (Except.ok.inj h)
  | error failure => nomatch h

/-- Reports a moment without a timestamp as a fault. -/
def ofTimestamp {α : Type} : Except TimestampProblem α → Outcome α
  | .ok a => .ok a
  | .error problem => .error (.badTimestamp problem)

/-- Reports an initialisation that gives no error with a message as a fault. -/
def ofBuild : Except BuildFailure LibraryError → Outcome LibraryError
  | .ok e => .ok e
  | .error (.undisplayable failure) => .error (.undisplayable failure)
  | .error (.noText index typeName) => .error (.joinedNoText index typeName)

theorem eq_ok_of_ofBuild {built : Except BuildFailure LibraryError} {e : LibraryError}
    (h : ofBuild built = .ok e) : built = .ok e := by
  cases built with
  | ok found => exact congrArg Except.ok (Except.ok.inj h)
  | error failure => cases failure <;> nomatch h

/-- The fault of an error that was initialised, or of the failure to initialise it. -/
def faultOfBuild (built : Except BuildFailure LibraryError) : Fault :=
  match ofBuild built with
  | .ok e => .library e
  | .error fault => fault

/-- The fault of a new error, or of the failure to initialise it. -/
def raised (c : Construction) : Fault := faultOfBuild (LibraryError.build none c)

/-- An error with nothing but a message has it as its detail. -/
theorem raised_general (kind : GeneralKind) (message : String) :
    raised (.general kind [.str message] (.str "")) =
      .library ⟨.general kind, message, []⟩ := by
  cases hmessage : message.isEmpty with
  | true =>
    obtain rfl := String.isEmpty_iff.mp hmessage
    rfl
  | false =>
    simp [raised, faultOfBuild, LibraryError.build, LibraryError.initialise,
      LibraryError.givenTexts, LibraryError.settleDetail, Value.isTruthy, hmessage,
      LibraryError.settled, ErrorState.error, ofBuild, bind, Except.bind, pure, Except.pure]

/-- A configuration has a value it cannot honour. -/
def configurationFault (message : String) : Fault :=
  raised (.general .configuration [.str message] (.str ""))

/-- A document cannot be written or read. -/
def serializationFault (message : String) : Fault :=
  raised (.general .serialization [.str message] (.str ""))

theorem serializationFault_eq (message : String) :
    serializationFault message = .library ⟨.general .serialization, message, []⟩ :=
  raised_general _ message

/-- Bindings are given as something other than a mapping. -/
def bindingTypeFault (provided sql : Value) : Fault := raised (.bindingType provided sql)

/-- A bound sequence has an element that is itself a sequence. The index of an element counts what
is in memory, so it always has few enough digits to be written. -/
def nestedSequenceFault (name : String) (index : Nat) (sql : Value) : Fault :=
  let words := LibraryError.nestedSequenceWords (quote name) (intText index)
  match LibraryError.withStatement (.str words) sql with
  | .ok detail =>
    faultOfBuild (ErrorState.error ⟨.nestedSequence sql (.str name) (.int index), detail, []⟩)
  | .error failure => .undisplayable failure

/-- It is the error about the name and the index, as far as such an index can be written. -/
theorem nestedSequenceFault_eq_raised {name : String} {index : Nat} {sql : Value}
    (h : isOverlong index = false) :
    nestedSequenceFault name index sql = raised (.nestedSequence (.str name) (.int index) sql) := by
  have hmessage : LibraryError.nestedSequenceMessage (.str name) (.int index) =
      .ok (LibraryError.nestedSequenceWords (quote name) (intText index)) := by
    simp only [LibraryError.nestedSequenceMessage, Value.describe, Value.text,
      showInt_of_not_isOverlong h, bind, Except.bind, pure, Except.pure]
  unfold nestedSequenceFault raised LibraryError.build
  simp only [LibraryError.initialise, hmessage, bind, Except.bind, pure, Except.pure]
  cases LibraryError.withStatement
      (.str (LibraryError.nestedSequenceWords (quote name) (intText index))) sql with
  | ok detail => simp [LibraryError.settleDetail, LibraryError.settled]
  | error failure => rfl

end SqlBind
