import SqlBind.Json.Codec
import SqlBind.Log.Host
import SqlBind.Log.Level
import SqlBind.Log.Message
import SqlBind.Log.Raised

/-!
# Log Records and Lines

A record is what a logger hands to its handlers; a line is what a handler writes of it. A plain line
has the timestamp, the logger, the level and the message. A structured line is one JSON object: the
standard fields first, then the correlation id if there is one, then the extra fields of the record,
then the exception. A field that is there already is overwritten in place.

The correlation id of a structured line is the one in force when the line is written. The id that a
logger put on the record when it was made is a field of the record for other handlers to use.

The name of a logger, a message, a correlation id and the text of an exception may hold surrogates,
and so may the names and texts of extra fields. A structured line cannot be written then, unless
another field takes the place of the one at fault.

## Main definitions

* `Record`: a record.
* `textField`: a text as a field of a structured line.
* `Record.entry`: the fields of a structured line.
* `Record.structuredLine` and `Record.plainLine`: the lines.
-/

namespace SqlBind.Log

open Text

/-- Where a record was made. -/
structure Origin where
  module : String
  function : Option String
  line : Int
  deriving DecidableEq, Repr, Inhabited

namespace Origin

/-- The name of a file without its last extension; dots at its beginning belong to the name. -/
def stem (fileName : List Char) : List Char :=
  let leadingDots := fileName.takeWhile (· = '.')
  let rest := fileName.drop leadingDots.length
  let extension := rest.reverse.takeWhile (· != '.')
  if extension.length < rest.length then
    leadingDots ++ rest.take (rest.length - extension.length - 1)
  else fileName

/-- The module of a path: the last part of the path without its last extension. -/
def moduleOfPath (path : String) : String :=
  String.ofList (stem (path.toList.reverse.takeWhile (· != '/')).reverse)

end Origin

/-- What a logger hands to its handlers. Times are in milliseconds. -/
structure Record where
  logger : CodeText
  level : Int
  template : String
  args : List Value
  extra : Option Value
  correlation : Option CodeText
  origin : Origin
  time : Int
  exception : Option Report

/-- A text as a field of a structured line, or as the name or a part of one: if it has surrogates it
is a value that cannot be shown. -/
def textField (t : CodeText) : Value :=
  match t.toString? with
  | some s => .str s
  | none =>
    let (offset, found) := t.surrogates
    .unshowable (.surrogates offset found)

@[simp] theorem textField_ofString {s : String} : textField (.ofString s) = .str s := by
  rw [textField, CodeText.toString?_ofString]

/-- What iterating over a value yields, for values that can be iterated over. -/
def elementsOf? : Value → Option (List Value)
  | .str s => some (s.toList.map fun c => .str (String.ofList [c]))
  | .wrappedStr s => some (s.toList.map fun c => .wrappedStr (String.ofList [c]))
  | .bytes _ data => some (data.map fun b => .int b.toNat)
  | .group _ members => some members
  | .generator items => some items
  | v => if v.isMapping then some v.keys else v.elements?

/-- Puts fields given as pairs, where `index` pairs lie behind. -/
def putPairs (index : Nat) (entries : Entries) : List Value → Outcome Entries
  | [] => .ok entries
  | pair :: rest =>
    match elementsOf? pair with
    | none => .error (.noPair index)
    | some [k, v] =>
      match k.unhashable? with
      | some refusal => .error (.unhashable refusal)
      | none => putPairs (index + 1) (insertEntry k v entries) rest
    | some parts => .error (.badPairLength index parts.length)

/-- Puts extra fields, given as a mapping or as a collection of pairs. -/
def putFields (entries : Entries) (extra : Value) : Outcome Entries :=
  if extra.isMapping then .ok (insertEntries entries extra.items)
  else
    match elementsOf? extra with
    | some pairs => putPairs 0 entries pairs
    | none => .error (.notIterable extra.qualifiedName)

namespace Record

/-- The message of a record. -/
def message (r : Record) : Outcome CodeText := renderMessage r.template r.args

/-- A record after its message was told. -/
def told (r : Record) : Record := { r with args := argumentsAfter r.template r.args }

/-- The key of the message in a structured line. -/
def messageKey : Value := .str "message"

/-- The standard fields of a structured line. -/
def standardFields (r : Record) (time : String) (message : CodeText) : Entries :=
  [(.str "timestamp", .str time),
    (.str "level", .str (Level.name r.level)),
    (.str "logger", textField r.logger),
    (messageKey, textField message),
    (.str "module", .str r.origin.module),
    (.str "function", (r.origin.function.map Value.str).getD .null),
    (.str "line", .int r.origin.line)]

/-- The field for a correlation id; an empty id counts as none. -/
def correlationField : Option CodeText → Entries
  | some id => if id.isEmpty then [] else [(.str "correlation_id", textField id)]
  | none => []

/-- The extra fields of a record, unless they are absent or empty. -/
def extraFields (r : Record) : Outcome Entries :=
  match r.extra with
  | some extra => if extra.isTruthy then putFields [] extra else .ok []
  | none => .ok []

/-- The field for the exception of a record. -/
def putException (r : Record) (entries : Entries) : Entries :=
  match r.exception with
  | some e => insertEntry (.str "exception") (textField e.text) entries
  | none => entries

/-- The fields of a structured line from the time, the message and the extra fields, while `current`
is the correlation id. -/
def fields (r : Record) (current : Option CodeText) (time : String) (message : CodeText)
    (extra : Entries) : Entries :=
  r.putException (insertEntries (r.standardFields time message ++ correlationField current) extra)

/-- The fields of a structured line that is written while `current` is the correlation id. -/
def entry (r : Record) (host : Host) (current : Option CodeText) (pattern : String) :
    Outcome Entries := do
  let time ← ofTimestamp (timestamp host.zone pattern r.time)
  let message ← r.message
  let extra ← r.extraFields
  return r.fields current time message extra

/-- The structured line of a record. -/
def structuredLine (r : Record) (host : Host) (current : Option CodeText) (pattern : String) :
    Outcome String := do
  (Value.dict .plain (← r.entry host current pattern)).encode host.deepest

/-- A line with the exception of a record on lines of its own behind it. -/
def withReport (r : Record) (line : CodeText) : CodeText :=
  match r.exception with
  | some e =>
    let ended := line.getLast? = some (.char '\n')
    (if ended then line else line ++ [.char '\n']) ++ e.text
  | none => line

/-- The line of a record that has its message alone. -/
def bareLine (r : Record) : Outcome CodeText := return r.withReport (← r.message)

/-- The plain line of a record. -/
def plainLine (r : Record) (host : Host) : Outcome CodeText := do
  let message ← r.message
  let time ← ofTimestamp (timestamp host.zone "" r.time)
  let level := " - " ++ Level.name r.level ++ " - "
  return r.withReport (.ofString (time ++ " - ") ++ r.logger ++ .ofString level ++ message)

end Record

end SqlBind.Log
