import SqlBind.Json.Printer
import SqlBind.Text.Base64
import SqlBind.Value.Display

/-!
# Values as Documents

Every value can be written to a document. What JSON has a form for keeps it: null, truth values,
numbers, texts, lists, tuples, sets and dictionaries. Strings of bytes become base 64; decimals,
calendar values and identifiers their text. For all other values the description stands in. Where
an object refuses to be described, or a whole number has too many digits, the whole value cannot be
written.

A key becomes the name of a member: a text is the name, what has a textual form in JSON gives that
form, and for all other keys the description stands in, also for a double that is not finite. Two
keys may therefore give one name, and both members are kept.

## Main definitions

* `Value.toJson`: the document of a value.
* `Value.memberName`: the name that a key gives.
-/

namespace SqlBind

open Number Text

/-- A distance from universal time, given in microseconds, in a document. It has hours and minutes:
more than half a minute beyond them counts as a minute, and anything less is dropped. What comes to
nothing, or to a whole day, is universal time. -/
def zoneMark (offset : Int) : List Char :=
  let seconds := offset / 1000000
  let beyond := if 30 < seconds.natAbs % 60 then 1 else 0
  let minutes := (seconds.natAbs / 60 + beyond) % 1440
  if minutes = 0 then ['Z']
  else (if seconds < 0 then '-' else '+') :: paddedDigits 2 (minutes / 60) ++ ':' ::
    paddedDigits 2 (minutes % 60)

/-- The text of a calendar value in a document. -/
def MomentKind.documentText (kind : MomentKind) (text : String) : String :=
  let (day, clock, zone) := kind.split text
  match zone with
  | none => text
  | some _ =>
    let front := if day.isEmpty then clock else day ++ 'T' :: clock
    String.ofList (front ++ zoneMark (kind.offset text))

namespace Value

/-- The name of a member that a key gives. -/
def memberName : Value → Except DisplayFailure String
  | .str s => .ok s
  | .int i => showInt i
  | .float x => .ok ((Layout.document.text? x).getD x.text)
  | .decimal text | .uuid text => .ok text
  | .moment kind text => .ok (kind.documentText text)
  | .bytes _ data => .ok (String.ofList (base64 data))
  | v => v.describe

mutual

/-- The document of a value. -/
def toJson : Value → Except DisplayFailure Json
  | .null => .ok .null
  | .bool b => .ok (.bool b)
  | .int i => if isOverlong i then .error .tooManyDigits else .ok (.int i)
  | .float x => .ok (.float x)
  | .decimal text | .uuid text => .ok (.str text)
  | .str s => .ok (.str s)
  | .bytes _ data => .ok (.str (String.ofList (base64 data)))
  | .moment kind text => .ok (.str (kind.documentText text))
  | .seq .list items => return .array (← toJsonAll items)
  | .seq .tuple items => return .array (← toJsonAll items)
  | .seq .point items => return .array (← toJsonAll items)
  | .group _ members => return .array (← toJsonAll members)
  | .dict .plain entries => return .object (← toMembers entries)
  | .dict .ordered entries => return .object (← toMembers entries)
  | .dict .defaulting entries => return .object (← toMembers entries)
  | v => return .str (← v.describe)

/-- The documents of a list of values. -/
def toJsonAll : List Value → Except DisplayFailure (List Json)
  | [] => .ok []
  | v :: rest => return (← toJson v) :: (← toJsonAll rest)

/-- The members that a list of entries gives. -/
def toMembers : List (Value × Value) → Except DisplayFailure (List (String × Json))
  | [] => .ok []
  | (k, v) :: rest => return (← memberName k, ← toJson v) :: (← toMembers rest)

end

end Value

end SqlBind
