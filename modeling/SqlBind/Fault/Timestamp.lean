/-!
# Problems with Timestamps

Why a moment has no timestamp: the clock may be too far from the moment from which it counts, or the
pattern may hold a character that ends texts.

## Main definitions

* `TimestampProblem`: the problems, with their `message`.
-/

namespace SqlBind

/-- Why a moment has no timestamp. -/
inductive TimestampProblem where
  /-- The clock is beyond the greatest double. -/
  | beyondDoubles
  /-- The clock is beyond the seconds that can be counted. -/
  | beyondSeconds
  /-- The clock is beyond the dates. -/
  | beyondDates
  /-- The year is beyond those that can be written. -/
  | beyondYears
  /-- The pattern holds the character with the number zero. -/
  | nulInPattern
  deriving DecidableEq, Repr

/-- The words of a problem. -/
def TimestampProblem.message : TimestampProblem → String
  | .beyondDoubles => "integer division result too large for a float"
  | .beyondSeconds => "timestamp out of range for platform time_t"
  | .beyondDates => "[Errno 75] Value too large for defined data type"
  | .beyondYears => "signed integer is greater than maximum"
  | .nulInPattern => "embedded null character"

end SqlBind
