import SqlBind.Config.Basic
import SqlBind.Rewrite.Bindings
import SqlBind.Rewrite.Conversion

/-!
# Reporting a Rewrite

What the log is told about a conversion: the statement before and after, how many placeholders it
had, how many values they took, and the names that were left, in order and each once. The statements
are cut at the length limit of the configuration. Only where the configuration asks for it are the
values themselves reported, up to the count limit, with a note on whether some are missing.

Limits may hold anything (`SqlBind.Config`), so a report can fail where a limit is no number.

## Main definitions

* `truncate`: a text cut at a limit.
* `Conversion.report`: the fields of the report.
-/

namespace SqlBind

open Text

/-- The bound that a value sets to a slice: an integer, or none at all. -/
def sliceBound : Value → Outcome (Option Int)
  | .null => .ok none
  | .bool b => .ok (some (if b then 1 else 0))
  | .int i => .ok (some i)
  | _ => .error .badSliceBound

/-- The part of a list up to a bound, if there is one. -/
def takeBound {α : Type} (xs : List α) : Option Int → List α
  | none => xs
  | some i => sliceTo xs i

/-- A text, cut at a limit and marked as cut if it is longer. -/
def truncate (text : String) (limit : Value) : Outcome String := do
  if ← Value.compareFrom text.length .atMost limit then return text
  return String.ofList (takeBound text.toList (← sliceBound limit) ++ ['.', '.', '.'])

/-- Names in ascending order, each once. -/
def sortedNames (names : List String) : List String :=
  names.eraseDups.mergeSort fun a b => decide (a ≤ b)

namespace Conversion

/-- The fields about the values of a conversion. -/
def parameterReport (c : Conversion) (limit : Value) : Outcome Keywords := do
  let shown := takeBound c.parameters (← sliceBound limit)
  let cut ← Value.compareFrom c.parameters.length .above limit
  return [("parameters", .seq .list shown), ("parameters_truncated", .bool cut)]

/-- The fields that report the conversion of a statement under a configuration. -/
def report (c : Conversion) (config : Config) (sql : String) : Outcome Keywords := do
  let before ← truncate sql config.statementLength
  let after ← truncate c.sql config.statementLength
  let counts : Keywords :=
    [("sql", .str before), ("converted_sql", .str after),
      ("placeholder_count", .int c.placeholders), ("parameter_count", .int c.parameters.length),
      ("unresolved", .seq .list ((sortedNames c.unresolved).map .str))]
  if config.logParameters.isTruthy then
    return counts ++ (← c.parameterReport config.parameterCount)
  return counts

end Conversion

end SqlBind
