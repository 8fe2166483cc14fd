import SqlBind.Log.Calendar
import SqlBind.Number.Numeral
import SqlBind.Text.Uppercase

/-!
# Patterns of Timestamps

A pattern is a text in which conversions stand for parts of a moment. A conversion is a percent sign
and a letter; between them there may be marks that refine it, then a width, then the choice of a
variant. Numbers have a least number of digits and are filled up with zeros or with blanks, or not
at all; a width makes any part longer, never shorter. Names can be written in upper case, and some
of them in the other case than they usually have. There are no variants here, but some letters do
not admit one. What is no conversion stands for itself, from its last percent sign on.

A timestamp has to fit into a certain room, which grows with the pattern; one that does not is left
out altogether.

## Main definitions

* `Refinement`: what stands between the percent sign and the letter.
* `Piece` and `Piece.write`: what a letter stands for, and how it is written.
* `Moment.piece?`: the parts of a moment by letter.
* `Moment.follow`: the timestamp after a pattern.

## Main results

* `Piece.width_le_length_write`: what is written is at least as long as the width.
-/

namespace SqlBind.Log

open Number Text

/-- How a part is filled up. -/
inductive Fill where
  | zeros
  | blanks
  | nothing
  deriving DecidableEq, Repr

/-- A variant: of the era, or of the digits. -/
inductive Variant where
  | era
  | digits
  deriving DecidableEq, Repr

/-- What refines a conversion. -/
structure Refinement where
  fill : Option Fill
  upper : Bool
  /-- Asks for the other case. -/
  turned : Bool
  width : Nat
  variant : Option Variant
  deriving DecidableEq, Repr, Inhabited

/-- What becomes of the case of words. -/
inductive Casing where
  /-- They can be written in upper case. -/
  | plain
  /-- The other case is upper case. -/
  | raised
  /-- The other case is lower case. -/
  | lowered
  /-- Nothing. -/
  | fixed
  deriving DecidableEq, Repr

/-- What a letter stands for. -/
inductive Piece where
  | words (text : List Char) (casing : Casing)
  /-- A number, with a least number of digits. Some numbers are filled up with blanks. -/
  | number (digits : Nat) (blanks : Bool) (n : Int)
  /-- How far local time is ahead of universal time, in seconds. -/
  | zone (offset : Int)

/-- The upper-case form of a character, if it is a single one. -/
def upperChar (c : Char) : Char :=
  match uppercaseChar c with
  | [d] => d
  | _ => c

/-- The decimal digits of the size of a number. -/
def sizeDigits (n : Int) : List Char := decimalDigits n.natAbs

/-- The sign of a number, if it is negative. -/
def minus (n : Int) : List Char := if n < 0 then ['-'] else []

namespace Refinement

/-- A conversion that is not refined. -/
def none : Refinement := ⟨.none, false, false, 0, .none⟩

/-- Fills a text up to the width. -/
def fillUp (r : Refinement) (text : List Char) : List Char :=
  List.replicate (r.width - text.length) (if r.fill = some .zeros then '0' else ' ') ++ text

/-- Writes words in their case. -/
def cased (r : Refinement) (text : List Char) : Casing → List Char
  | .fixed => text
  | .plain => if r.upper then text.map upperChar else text
  | .raised => if r.upper || r.turned then text.map upperChar else text
  | .lowered =>
    if r.turned then text.map Char.toLower
    else if r.upper then text.map upperChar
    else text

/-- Writes a number with at least `digits` digits. Zeros stand behind the sign, blanks before it. -/
def number (r : Refinement) (digits : Nat) (blanks : Bool) (n : Int) : List Char :=
  let missing := max digits r.width - (minus n ++ sizeDigits n).length
  match r.fill, blanks with
  | some .nothing, _ => r.fillUp (minus n ++ sizeDigits n)
  | some .blanks, _ | .none, true => List.replicate missing ' ' ++ (minus n ++ sizeDigits n)
  | some .zeros, _ | .none, false => minus n ++ (List.replicate missing '0' ++ sizeDigits n)

theorem width_le_length_fillUp {r : Refinement} {text : List Char} :
    r.width ≤ (r.fillUp text).length := by
  simp only [fillUp, List.length_append, List.length_replicate]
  omega

theorem width_le_length_number {r : Refinement} {digits : Nat} {blanks : Bool} {n : Int} :
    r.width ≤ (r.number digits blanks n).length := by
  unfold number
  split
  · exact width_le_length_fillUp
  all_goals
    simp only [List.length_append, List.length_replicate]
    omega

end Refinement

namespace Piece

/-- Writes a part of a moment. -/
def write (r : Refinement) : Piece → List Char
  | .words text casing => r.fillUp (r.cased text casing)
  | .number digits blanks n => r.number digits blanks n
  | .zone offset =>
    let minutes := offset.natAbs / 60
    r.fillUp [if offset < 0 then '-' else '+'] ++
      r.number 4 false (minutes / 60 * 100 + minutes % 60 : Nat)

/-- What is written is at least as long as the width. -/
theorem width_le_length_write {r : Refinement} {piece : Piece} :
    r.width ≤ (piece.write r).length := by
  cases piece with
  | words text casing => exact Refinement.width_le_length_fillUp
  | number digits blanks n => exact Refinement.width_le_length_number
  | zone offset =>
    have : r.width ≤ (r.fillUp [if offset < 0 then '-' else '+']).length :=
      Refinement.width_le_length_fillUp
    rw [write, List.length_append]
    omega

end Piece

/-- The letters that do not admit a variant. -/
def Variant.refused : Variant → List Char
  | .era => "%aAbBdDeFgGhHIjklmMSUVwW".toList
  | .digits => "%aAcDFxXY".toList

namespace Moment

/-- A number with two digits. -/
def two (n : Nat) : List Char := paddedDigits 2 n

/-- Hour, minute and second. -/
def clock (m : Moment) : List Char := two m.hour ++ ':' :: two m.minute ++ ':' :: two m.second

/-- The part of a moment that a letter stands for. -/
def piece? (m : Moment) : Char → Option Piece
  | 'Y' => some (.number 1 false m.year)
  | 'y' => some (.number 2 false (m.year % 100))
  | 'C' => some (.number 1 false (m.year / 100))
  | 'm' => some (.number 2 false m.month)
  | 'd' => some (.number 2 false m.day)
  | 'e' => some (.number 2 true m.day)
  | 'H' => some (.number 2 false m.hour)
  | 'I' => some (.number 2 false m.hour12)
  | 'k' => some (.number 2 true m.hour)
  | 'l' => some (.number 2 true m.hour12)
  | 'M' => some (.number 2 false m.minute)
  | 'S' => some (.number 2 false m.second)
  | 's' => some (.words (integerText m.count) .fixed)
  | 'j' => some (.number 3 false (m.yearday + 1))
  | 'p' => some (.words m.half .lowered)
  | 'P' => some (.words (m.half.map Char.toLower) .fixed)
  | 'a' => some (.words (m.dayName.take 3) .raised)
  | 'A' => some (.words m.dayName .raised)
  | 'b' | 'h' => some (.words (m.monthName.take 3) .raised)
  | 'B' => some (.words m.monthName .raised)
  | 'w' => some (.number 1 false m.weekday)
  | 'u' => some (.number 1 false (if m.weekday = 0 then 7 else m.weekday))
  | 'U' => some (.number 2 false (m.weekOfYear 0))
  | 'W' => some (.number 2 false (m.weekOfYear 1))
  | 'V' => some (.number 2 false m.isoWeek.2)
  | 'G' => some (.number 1 false m.isoWeek.1)
  | 'g' => some (.number 2 false (m.isoWeek.1 % 100))
  | 'D' | 'x' =>
    let year := two (m.year % 100).toNat
    some (.words (two m.month ++ '/' :: two m.day ++ '/' :: year) .plain)
  | 'F' =>
    some (.words (integerText m.year ++ '-' :: two m.month ++ '-' :: two m.day) .plain)
  | 'T' | 'X' => some (.words m.clock .plain)
  | 'R' => some (.words (two m.hour ++ ':' :: two m.minute) .plain)
  | 'r' =>
    let clock := two m.hour12 ++ ':' :: two m.minute ++ ':' :: two m.second
    some (.words (clock ++ ' ' :: m.half) .plain)
  | 'c' =>
    let day := Refinement.none.number 2 true m.day
    some (.words (m.dayName.take 3 ++ ' ' :: m.monthName.take 3 ++ ' ' :: day ++ ' ' :: m.clock ++
      ' ' :: integerText m.year) .plain)
  | 'z' => some (.zone m.zone.offset)
  | 'Z' => some (.words m.zone.name.toList .lowered)
  | 'n' => some (.words ['\n'] .plain)
  | 't' => some (.words ['\t'] .plain)
  | '%' => some (.words ['%'] .plain)
  | _ => none

end Moment

/-! ### Following a pattern -/

/-- What may still stand in a conversion: anything, only digits of a width and what follows them, or
only the letter. -/
inductive Stage where
  | marks
  | width
  | letter
  deriving DecidableEq, Repr

/-- A conversion of which the letter is still to come: what it has so far, as it is written and as
it is understood. -/
structure Unfinished where
  written : List Char
  refinement : Refinement
  stage : Stage

namespace Unfinished

/-- A conversion of which there is only the percent sign. -/
def start : Unfinished := ⟨['%'], .none, .marks⟩

/-- The refinement with one more mark, unless the character is none. -/
def mark? (r : Refinement) : Char → Option Refinement
  | '0' => some { r with fill := some .zeros }
  | '_' => some { r with fill := some .blanks }
  | '-' => some { r with fill := some .nothing }
  | '^' => some { r with upper := true }
  | '#' => some { r with turned := true }
  | _ => none

/-- The variant that a character chooses. -/
def variant? : Char → Option Variant
  | 'E' => some .era
  | 'O' => some .digits
  | _ => none

/-- The refinement and the stage after one more character, unless that is the letter. Widths at and
beyond `room` are not told apart. -/
def refine? (room : Nat) (u : Unfinished) (c : Char) : Option (Refinement × Stage) :=
  let marked := if u.stage = .marks then mark? u.refinement c else none
  match marked, variant? c with
  | some r, _ => some (r, .marks)
  | none, variant =>
    if u.stage = .letter then none
    else if c.isDigit then
      some ({ u.refinement with width := min room (u.refinement.width * 10 + digitValue c) },
        .width)
    else variant.map fun v => ({ u.refinement with variant := some v }, .letter)

/-- A conversion with one more character, unless that is the letter. -/
def step? (room : Nat) (u : Unfinished) (c : Char) : Option Unfinished :=
  (u.refine? room c).map fun (r, stage) => ⟨u.written ++ [c], r, stage⟩

/-- What stands for a conversion that is none, or whose letter is missing. The letters of short
months ask for the other case all the same. -/
def literal (u : Unfinished) (letter : List Char) : List Char :=
  let text := if letter = ['%'] then letter else u.written ++ letter
  let casing := if letter = ['b'] || letter = ['h'] then Casing.raised else .plain
  (Piece.words text casing).write u.refinement

/-- What a conversion stands for, with its letter. -/
def finish (u : Unfinished) (m : Moment) (letter : Char) : List Char :=
  let isRefused := match u.refinement.variant with
    | some v => v.refused.contains letter
    | none => false
  match m.piece? letter with
  | some piece =>
    if isRefused then u.literal [letter] else piece.write u.refinement
  | none => u.literal [letter]

end Unfinished

namespace Moment

/-- The timestamp after a pattern, within a conversion if there is one that is not finished. -/
def followFrom (m : Moment) (room : Nat) : Option Unfinished → List Char → List Char
  | none, [] => []
  | some u, [] => u.literal []
  | none, c :: rest =>
    if c = '%' then followFrom m room (some .start) rest else c :: followFrom m room none rest
  | some u, c :: rest =>
    match u.step? room c with
    | some u => followFrom m room (some u) rest
    | none => u.finish m c ++ followFrom m room none rest

/-- The room for a timestamp: it is a power of two, 1024 or more, and at least 256 times as large as
the pattern is long. -/
def room (pattern : List Char) : Nat := 256 * max 4 pattern.length.nextPowerOfTwo

/-- The timestamp after a pattern; empty if it does not fit into its room with a place to spare. -/
def follow (m : Moment) (pattern : List Char) : List Char :=
  let written := m.followFrom (room pattern) none pattern
  if written.length < room pattern then written else []

end Moment

end SqlBind.Log
