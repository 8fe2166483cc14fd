import SqlBind.Text.Blank
import SqlBind.Value.Display
import SqlBind.Value.Truth

/-!
# Errors of the Library

An error of the library has a kind, a detail that says what went wrong, and the texts of further
arguments. An error about parameters also carries the statement it arose in, and the error about a
nested sequence the name and the element at fault.

An error object can be initialised again. What the new arguments leave open is then kept: with no
detail of its own, an initialisation takes the first argument that counts as given; with none of
these either, it keeps the detail that the object had. The remaining arguments are always those of
the last initialisation.

Nothing checks that the detail is a text. An object with any other detail has no message, and asking
for one fails; here such an object is not built at all, and the failure says why.

An error can also be taken apart into its kind, its arguments and its attributes and be put
together again, which skips initialisation altogether.

## Main definitions

* `ErrorKind`: the kinds, with their names and lines of descent.
* `LibraryError`: an error, with its `message` and its `description`.
* `Construction` and `LibraryError.initialise`: what an error object is initialised with, and the
  `ErrorState` that results.
* `LibraryError.build`: the error that the object then is.
* `BuildFailure`: why an initialisation gives no error with a message.
* `LibraryError.snapshot` and `ErrorSnapshot.restore?`: taking apart and putting together.

## Main results

* `LibraryError.restore?_snapshot`: nothing is lost.
-/

namespace SqlBind

open Text

/-- The kinds of errors that take any arguments. -/
inductive GeneralKind where
  | base
  | configuration
  | serialization
  deriving DecidableEq, Repr

/-- The kinds of errors. -/
inductive ErrorKind where
  | general (kind : GeneralKind)
  | parameter
  | nestedSequence
  | bindingType
  deriving DecidableEq, Repr

namespace ErrorKind

/-- The name of a kind. -/
def name : ErrorKind → String
  | .general .base => "SQLPilotError"
  | .general .configuration => "ImproperConfigurationError"
  | .general .serialization => "SerializationError"
  | .parameter => "ParameterError"
  | .nestedSequence => "NestedSequenceError"
  | .bindingType => "BindingTypeError"

/-- All kinds. -/
def all : List ErrorKind :=
  [.general .base, .general .configuration, .general .serialization, .parameter, .nestedSequence,
    .bindingType]

/-- The kind with a given name. -/
def ofName? (name : String) : Option ErrorKind := all.find? (·.name = name)

/-- The name of the kind whose initialisation a kind takes over. -/
def initialiser : ErrorKind → String
  | .general _ => (ErrorKind.general .base).name
  | kind => kind.name

/-- The kinds that a kind descends from, itself first. -/
def lineage (kind : ErrorKind) : List String :=
  let root := (ErrorKind.general .base).name
  let parameter := ErrorKind.parameter.name
  (match kind with
    | .general .base => [root]
    | .general _ => [kind.name, root]
    | .parameter => [parameter, root]
    | .nestedSequence | .bindingType => [kind.name, parameter, root, "TypeError"]) ++
    ["Exception", "BaseException", "object"]

end ErrorKind

/-- What an error is about. -/
inductive Subject where
  | general (kind : GeneralKind)
  | parameter (sql : Value)
  | nestedSequence (sql key index : Value)
  | bindingType (sql : Value)

namespace Subject

/-- The kind of an error about this. -/
def kind : Subject → ErrorKind
  | .general kind => .general kind
  | .parameter _ => .parameter
  | .nestedSequence .. => .nestedSequence
  | .bindingType _ => .bindingType

/-- The attributes of an error about this. -/
def attributes : Subject → List (String × Value)
  | .general _ => []
  | .parameter sql => [("sql", sql)]
  | .nestedSequence sql key index => [("sql", sql), ("key", key), ("index", index)]
  | .bindingType sql => [("sql", sql)]

end Subject

/-- An error of the library. -/
structure LibraryError where
  subject : Subject
  detail : String
  args : List String

namespace LibraryError

/-- The kind of an error. -/
def kind (e : LibraryError) : ErrorKind := e.subject.kind

/-- The message: the arguments and the detail with blanks between them, trimmed. -/
def message (e : LibraryError) : String := trim (" ".intercalate (e.args ++ [e.detail]))

/-- The description: the name of the kind and the detail, if there is one. -/
def description (e : LibraryError) : String :=
  if e.detail.isEmpty then e.kind.name else e.kind.name ++ " - " ++ e.detail

end LibraryError

/-- What an error is initialised with. -/
inductive Construction where
  | general (kind : GeneralKind) (args : List Value) (detail : Value)
  | parameter (message sql : Value)
  | nestedSequence (key index sql : Value)
  | bindingType (provided sql : Value)

/-- What an initialisation is about. -/
def Construction.kind : Construction → ErrorKind
  | .general kind .. => .general kind
  | .parameter .. => .parameter
  | .nestedSequence .. => .nestedSequence
  | .bindingType .. => .bindingType

/-- An error object right after an initialisation, whose detail may be anything. -/
structure ErrorState where
  subject : Subject
  detail : Value
  args : List String

/-- Why an initialisation gives no error with a message. -/
inductive BuildFailure where
  /-- An argument refuses to be shown. -/
  | undisplayable (failure : DisplayFailure)
  /-- The detail, which stands behind `index` arguments, is no text but of this kind. -/
  | noText (index : Nat) (typeName : String)
  deriving DecidableEq, Repr

namespace ErrorState

/-- The attributes of an error object, its detail first. -/
def attributes (s : ErrorState) : List (String × Value) :=
  ("detail", s.detail) :: s.subject.attributes

/-- The error that an object is, if its detail is a text. -/
def error (s : ErrorState) : Except BuildFailure LibraryError :=
  match s.detail with
  | .str detail => .ok ⟨s.subject, detail, s.args⟩
  | detail => .error (.noText s.args.length detail.qualifiedName)

end ErrorState

namespace LibraryError

/-- The message of an error about parameters, followed by the statement if there is one. -/
def withStatement (message sql : Value) : Except DisplayFailure Value :=
  if sql.isTruthy then return .str ((← message.text) ++ "\nSQL: " ++ (← sql.text))
  else .ok message

/-- The texts of the arguments that count as given. -/
def givenTexts : List Value → Except DisplayFailure (List String)
  | [] => .ok []
  | v :: rest =>
    if v.isTruthy then return (← v.text) :: (← givenTexts rest) else givenTexts rest

/-- The words about a nested sequence, with the key and the index as they are shown. -/
def nestedSequenceWords (key index : String) : String :=
  "Parameter " ++ key ++ " is bound to a sequence whose element at index " ++ index ++
    " is itself a sequence; nested sequences cannot be expanded"

/-- The message about a nested sequence. -/
def nestedSequenceMessage (key index : Value) : Except DisplayFailure String :=
  return nestedSequenceWords (← key.describe) (← index.text)

/-- The message about bindings that are no mapping. -/
def bindingTypeMessage (provided : Value) : String :=
  "Named parameters must be a mapping, got " ++ provided.typeName

/-- The detail and the remaining arguments after an initialisation of an object whose detail was
`old`, if it had one: the given detail if it counts as given, else the first of the texts, else the
old detail, else the given one after all. -/
def settleDetail (old : Option String) (detail : Value) (texts : List String) :
    Value × List String :=
  if detail.isTruthy then (detail, texts)
  else
    match texts, old with
    | first :: rest, _ => (.str first, rest)
    | [], some old => (.str old, [])
    | [], none => (detail, [])

/-- An object about a subject, with a detail and remaining arguments. -/
def settled (subject : Subject) (texts : Value × List String) : ErrorState :=
  ⟨subject, texts.1, texts.2⟩

/-- Initialises an object whose detail was `old`; a new object has none. -/
def initialise (old : Option String) : Construction → Except DisplayFailure ErrorState
  | .general kind args detail =>
    return settled (.general kind) (settleDetail old detail (← givenTexts args))
  | .parameter message sql =>
    return settled (.parameter sql) (settleDetail old (← withStatement message sql) [])
  | .nestedSequence key index sql => do
    let message ← nestedSequenceMessage key index
    return settled (.nestedSequence sql key index)
      (settleDetail old (← withStatement (.str message) sql) [])
  | .bindingType provided sql => do
    let message := bindingTypeMessage provided
    return settled (.bindingType sql)
      (settleDetail old (← withStatement (.str message) sql) [])

/-- Initialises an error, over an object whose detail was `old`; a new object has none. -/
def build (old : Option String) (c : Construction) : Except BuildFailure LibraryError :=
  match initialise old c with
  | .ok state => state.error
  | .error failure => .error (.undisplayable failure)

/-- Initialises an object once more. -/
def rebuild (e : LibraryError) (c : Construction) : Except BuildFailure LibraryError :=
  build (some e.detail) c

end LibraryError

/-! ### Taking apart and putting together -/

/-- An error taken apart. -/
structure ErrorSnapshot where
  kind : ErrorKind
  args : List String
  state : List (String × Value)

/-- Takes an error apart. -/
def LibraryError.snapshot (e : LibraryError) : ErrorSnapshot :=
  ⟨e.kind, e.args, ("detail", .str e.detail) :: e.subject.attributes⟩

namespace ErrorSnapshot

/-- An attribute of an error that was taken apart. -/
def attribute? (s : ErrorSnapshot) (name : String) : Option Value :=
  (s.state.find? (·.1 = name)).map (·.2)

/-- What an error that was taken apart is about. -/
def subject? (s : ErrorSnapshot) : Option Subject :=
  match s.kind with
  | .general kind => some (.general kind)
  | .parameter => (s.attribute? "sql").map .parameter
  | .bindingType => (s.attribute? "sql").map .bindingType
  | .nestedSequence => do
    some (.nestedSequence (← s.attribute? "sql") (← s.attribute? "key") (← s.attribute? "index"))

/-- Puts an error together again, without initialising it. -/
def restore? (s : ErrorSnapshot) : Option LibraryError := do
  match ← s.attribute? "detail" with
  | .str detail => some ⟨← s.subject?, detail, s.args⟩
  | _ => none

end ErrorSnapshot

/-- An error that is taken apart and put together again is as it was. -/
theorem LibraryError.restore?_snapshot (e : LibraryError) : e.snapshot.restore? = some e := by
  obtain ⟨subject, detail, args⟩ := e
  cases subject <;> rfl

end SqlBind
