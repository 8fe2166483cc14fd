import SqlBind.Number.Numeral
import SqlBind.Value.Basic

/-!
# Calendar Values

A calendar value keeps its ISO 8601 text. A message shows it either as that text or by its parts:
the constructor of its kind applied to year, month and so on, where seconds and microseconds that
are zero at the end are left out, and a distance from universal time is given in days, seconds and
microseconds, of which only the days may be negative.

As a point of time it is a number of microseconds, and one with a distance from universal time is
the point of universal time that it names. Two times of day are compared less finely: what their
distances have beyond whole seconds does not count.

## Main definitions

* `MomentKind.micros` and `MomentKind.isUniversal`: the point of time.
* `MomentKind.comparedMicros`: the point of time that a comparison looks at.
* `MomentKind.describe`: the text by parts.
* `MomentKind.plainText`: the text itself, with a blank between date and time of day.
-/

namespace SqlBind

open Number

/-- The runs of decimal digits of a text, as numbers. -/
def digitRuns (text : List Char) : List Nat :=
  let step (c : Char) (acc : List (List Char)) : List (List Char) :=
    match c.isDigit, acc with
    | true, run :: rest => (c :: run) :: rest
    | true, [] => [[c]]
    | false, rest => [] :: rest
  ((text.foldr step [[]]).filter (!·.isEmpty)).map digitsValue

/-- Drops up to `count` zeros at the end. -/
def dropZerosEnd (count : Nat) (ns : List Nat) : List Nat :=
  let rev := ns.reverse
  let zeros := ((rev.take count).takeWhile (· = 0)).length
  (rev.drop zeros).reverse

/-- Splits a time of day into the clock and the distance from universal time, with its sign. -/
def splitZone (text : List Char) : List Char × Option (Bool × List Char) :=
  let clock := text.takeWhile fun c => c != '+' && c != '-' && c != 'Z'
  match text.drop clock.length with
  | '+' :: zone => (clock, some (false, zone))
  | '-' :: zone => (clock, some (true, zone))
  | 'Z' :: _ => (clock, some (false, []))
  | _ => (clock, none)

/-- The microseconds that a fraction of a second writes. -/
def microseconds (fraction : List Char) : Nat :=
  digitsValue ((fraction.filter Char.isDigit ++ List.replicate 6 '0').take 6)

/-- Hour, minute, second and microsecond of a clock. -/
def clockParts (clock : List Char) : List Nat :=
  let whole := clock.takeWhile (· != '.')
  let parts := digitRuns whole
  parts ++ List.replicate (3 - parts.length) 0 ++ [microseconds (clock.drop whole.length)]

/-- The distance from universal time in microseconds. -/
def zoneMicros (negative : Bool) (zone : List Char) : Int :=
  match clockParts zone with
  | [hour, minute, second, micro] =>
    let micros : Int := ((hour * 60 + minute) * 60 + second) * 1000000 + micro
    if negative then -micros else micros
  | _ => 0

/-- The number of a day, counted from the first of March of the year zero. -/
def dayNumber (year month day : Nat) : Int :=
  let year : Int := if month ≤ 2 then (year : Int) - 1 else year
  let fromMarch := (month + 9) % 12
  365 * year + year / 4 - year / 100 + year / 400 + (153 * fromMarch + 2) / 5 + day - 1

/-- The date and the time of day of a calendar value, the latter with its distance from universal
time. -/
def MomentKind.split (kind : MomentKind) (text : String) :
    List Char × List Char × Option (Bool × List Char) :=
  let chars := text.toList
  match kind with
  | .date => (chars, [], none)
  | .time => ([], splitZone chars)
  | .datetime =>
    let day := chars.takeWhile (· != 'T')
    (day, splitZone (chars.drop (day.length + 1)))

/-- Whether a calendar value has a distance from universal time. -/
def MomentKind.isUniversal (kind : MomentKind) (text : String) : Bool :=
  (kind.split text).2.2.isSome

/-- The distance of a calendar value from universal time, in microseconds; zero if it has none. -/
def MomentKind.offset (kind : MomentKind) (text : String) : Int :=
  ((kind.split text).2.2.map fun z => zoneMicros z.1 z.2).getD 0

/-- The microseconds of date and time of day, without regard to the distance. -/
def MomentKind.localMicros (kind : MomentKind) (text : String) : Int :=
  let (day, clock, _) := kind.split text
  let days := match digitRuns day with
    | [year, month, day] => dayNumber year month day
    | _ => 0
  match clockParts clock with
  | [hour, minute, second, micro] =>
    (((days * 24 + hour) * 60 + minute) * 60 + second) * 1000000 + micro
  | _ => 0

/-- The point of time of a calendar value, in microseconds. -/
def MomentKind.micros (kind : MomentKind) (text : String) : Int :=
  kind.localMicros text - kind.offset text

/-- The point of time that a comparison looks at: for times of day the distance counts in whole
seconds only. -/
def MomentKind.comparedMicros (kind : MomentKind) (text : String) : Int :=
  match kind with
  | .time => kind.localMicros text - kind.offset text / 1000000 * 1000000
  | _ => kind.micros text

/-- Numbers with commas between them. -/
def commaSeparated (ns : List Nat) : String :=
  ", ".intercalate (ns.map fun n => String.ofList (decimalDigits n))

/-- The argument that gives the distance from universal time. -/
def zoneArgument : Option (Bool × List Char) → String
  | none => ""
  | some (negative, zone) =>
    let offset := zoneMicros negative zone
    if offset = 0 then ", tzinfo=datetime.timezone.utc"
    else
      let parts : List (String × Int) :=
        [("days", offset / 86400000000), ("seconds", offset / 1000000 % 86400),
          ("microseconds", offset % 1000000)]
      let shown := (parts.filter (·.2 != 0)).map fun p =>
        p.1 ++ "=" ++ String.ofList (integerText p.2)
      ", tzinfo=datetime.timezone(datetime.timedelta(" ++ ", ".intercalate shown ++ "))"

/-- A calendar value by its parts. -/
def MomentKind.describe (kind : MomentKind) (text : String) : String :=
  let (day, clock, zone) := kind.split text
  match kind with
  | .date => "datetime.date(" ++ commaSeparated (digitRuns day) ++ ")"
  | .datetime =>
    let parts := digitRuns day ++ dropZerosEnd 2 (clockParts clock)
    "datetime.datetime(" ++ commaSeparated parts ++ zoneArgument zone ++ ")"
  | .time =>
    let parts := dropZerosEnd 2 (clockParts clock)
    "datetime.time(" ++ commaSeparated parts ++ zoneArgument zone ++ ")"

/-- A calendar value as its text, with a blank between date and time of day. -/
def MomentKind.plainText (kind : MomentKind) (text : String) : String :=
  match kind with
  | .datetime => text.map fun c => if c = 'T' then ' ' else c
  | _ => text

end SqlBind
