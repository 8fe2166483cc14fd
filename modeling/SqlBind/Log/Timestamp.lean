import SqlBind.Fault.Cause
import SqlBind.Log.Pattern
import SqlBind.Number.Binary64

/-!
# Timestamps

A log line carries the moment of its record, in local time. The clock counts milliseconds from the
beginning of 1970, but a moment is kept as a double that counts seconds, and what it says beyond
whole seconds is found from that: the part behind the point, with the sign of the double, times a
thousand, without its own fraction. So a moment before 1970 has a negative number of milliseconds,
and a millisecond may be lost to rounding.

Which local time holds at a second is for the host to say. Without a pattern a timestamp is the
date, the time of day and the milliseconds. A clock too far from 1970 has no timestamp.

## Main definitions

* `ClockReading` and `ClockReading.ofMillis`: whole seconds and the milliseconds beyond them.
* `Zone`: the local time at each second.
* `timestamp`: the timestamp of a clock.
-/

namespace SqlBind.Log

open Number

/-- Whole seconds, and milliseconds beyond the whole seconds that are nearest towards zero. -/
structure ClockReading where
  seconds : Int
  millis : Int
  deriving DecidableEq, Repr

namespace ClockReading

/-- A double without its fraction, towards zero, as a size. -/
def wholeSize : Binary64 → Nat
  | .finite _ significand exponent =>
    significand * twoTo exponent.toNat / twoTo (-exponent).toNat
  | _ => 0

/-- A size with a sign. -/
def signed (negative : Bool) (size : Nat) : Int := if negative then -(size : Int) else size

/-- What a double that counts seconds says; nothing if it is not finite. -/
def ofSeconds? : Binary64 → Option ClockReading
  | .finite negative significand exponent =>
    let num := significand * twoTo exponent.toNat
    let den := twoTo (-exponent).toNat
    let beyond := Binary64.ofRatio negative (num % den * 1000) den
    some ⟨signed negative num / den, signed negative (wholeSize beyond)⟩
  | _ => none

/-- What the double nearest to a clock says; nothing if there is no such double. -/
def ofMillis? (millis : Int) : Option ClockReading :=
  ofSeconds? (.ofRatio (millis < 0) millis.natAbs 1000)

/-- The milliseconds with at least three places, one of which a sign takes. -/
def millisText (reading : ClockReading) : List Char :=
  Refinement.none.number 3 false reading.millis

end ClockReading

/-- The pattern of a timestamp without one of its own, up to the milliseconds. -/
def standardPattern : List Char := "%Y-%m-%d %H:%M:%S".toList

/-- The bound on seconds, in both directions. -/
def secondsBound : Int := 9223372036854775808

/-- The local time at each second. -/
abbrev Zone := Int → LocalTime

/-- Universal time at each second. -/
def Zone.universal : Zone := fun _ => .universal

/-- The first and the last second of local time with a date. -/
def datedSeconds : Int × Int := (-67768040609740800, 67768036191676799)

/-- The last year with a timestamp. -/
def lastYear : Int := 2147483647

/-- The moment of some seconds, if it can be told. -/
def momentOf (zone : Zone) (seconds : Int) : Except TimestampProblem Moment :=
  let here := zone seconds
  let m := Moment.ofSeconds here seconds
  let shown := seconds + here.offset
  if seconds < -secondsBound || secondsBound < seconds then .error .beyondSeconds
  else if shown < datedSeconds.1 || datedSeconds.2 < shown then .error .beyondDates
  else if lastYear < m.year then .error .beyondYears
  else .ok m

/-- The timestamp of a clock in milliseconds, after a pattern unless that is empty. -/
def timestamp (zone : Zone) (pattern : String) (millis : Int) :
    Except TimestampProblem String := do
  let some reading := ClockReading.ofMillis? millis | throw .beyondDoubles
  let m ← momentOf zone reading.seconds
  if pattern.isEmpty then
    return String.ofList (m.follow standardPattern ++ ',' :: reading.millisText)
  else if pattern.toList.contains '\x00' then throw .nulInPattern
  else return String.ofList (m.follow pattern.toList)

end SqlBind.Log
