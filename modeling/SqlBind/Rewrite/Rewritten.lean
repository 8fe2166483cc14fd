import SqlBind.Log.Delivery
import SqlBind.Rewrite.Report

/-!
# Rewriting

A rewrite merges the bindings from a mapping and from keywords, converts the statement, and reports
the conversion to the log if the configuration says so and the logger is enabled. Bindings are
checked before the statement is looked at. A statement without placeholders is not reported, and
neither is a conversion that fails.

What is reported never changes what comes out, except that a report can itself fail.

## Main definitions

* `Rewritten`: the outcome of a rewrite.
* `reportConversion`: what the log receives about a conversion.
* `runConvertText`, `runConvert`, `runRewrite`: conversion and rewrite with their reports.
* `rewriteAgain`: rewriting with one mapping after the other.
-/

namespace SqlBind

open Log

/-- A rewritten statement and the values of its marks. The statement is a text, unless it came with
no placeholders and without being scanned. -/
structure Rewritten where
  sql : Value
  parameters : List Value

/-- The result of a conversion. -/
def Conversion.result (c : Conversion) : Rewritten := ⟨.str c.sql, c.parameters⟩

/-- The message of a report. -/
def reportMessage : String := "Rewrote named parameters to qmark style"

/-- Whether a conversion is reported at all. -/
def isReported (now : Circumstances) (config : Config) (c : Conversion) : Bool :=
  c.placeholders != 0 && config.logRewrites.isTruthy &&
    now.registry.isEnabled converterName Level.debug

/-- What the log receives about a conversion. -/
def reportConversion (now : Circumstances) (config : Config) (sql : String) (c : Conversion) :
    Delivery :=
  if isReported now config c then
    match c.report config sql with
    | .ok fields => now.emitFields converterName Level.debug reportMessage fields
    | .error fault => ⟨[], some fault⟩
  else .none

/-- Converts a statement and reports it. -/
def runConvertText (now : Circumstances) (config : Config) (sql : String) (bindings : Value)
    (supplied : Option (List Placeholder)) : Outcome Rewritten × Delivery :=
  match convert sql bindings supplied with
  | .error fault => (.error fault, .none)
  | .ok c =>
    let delivery := reportConversion now config sql c
    match delivery.fault with
    | some fault => (.error fault, delivery)
    | none => (.ok c.result, delivery)

/-- Converts a statement, which should be a text, and reports it. -/
def runConvert (now : Circumstances) (config : Config) (sql : Value) (bindings : Value)
    (supplied : Option (List Placeholder)) : Outcome Rewritten × Delivery :=
  match statementText sql, supplied with
  | .ok text, supplied => runConvertText now config text bindings supplied
  | .error fault, none => (.error fault, .none)
  | .error _, some [] => (.ok ⟨sql, []⟩, .none)
  | .error _, some placeholders => (.error (noTextFault sql bindings placeholders), .none)

/-- Merges bindings, converts a statement and reports it. -/
def runRewrite (now : Circumstances) (config : Config) (sql mapping : Value)
    (keywords : Keywords) : Outcome Rewritten × Delivery :=
  match Bindings.merge sql mapping keywords with
  | .error fault => (.error fault, .none)
  | .ok bindings => runConvert now config sql bindings.view none

/-- Rewrites a statement with one mapping after the other, each time the statement that came out of
the time before. -/
def rewriteAgain (now : Circumstances) (config : Config) (sql : Value) :
    List Value → Outcome (List Rewritten) × Delivery
  | [] => (.ok [], .none)
  | mapping :: rest =>
    match runRewrite now config sql mapping [] with
    | (.error fault, delivery) => (.error fault, delivery)
    | (.ok r, delivery) =>
      let (later, laterDelivery) := rewriteAgain now config r.sql rest
      (later.map (r :: ·), delivery.andThen laterDelivery)

/-- Rewrites a statement while nothing is logged. -/
def rewrite (sql mapping : Value) (keywords : Keywords) : Outcome Rewritten := do
  let bindings ← Bindings.merge sql mapping keywords
  return (← convert (← statementText sql) bindings.view none).result

end SqlBind
