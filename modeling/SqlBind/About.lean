import SqlBind.Config.Basic
import SqlBind.Rewrite.Conversion

/-!
# About the Library

What the library says of itself: its name and version, the names that it offers, the form of a
placeholder as a regular expression, and the texts and limits that rewrites use.

## Main definitions

* `About`: the facts.
* `about`: those of this library.
-/

namespace SqlBind

/-- Facts about a library of this kind. -/
structure About where
  project : String
  version : String
  offers : List String
  pattern : String
  mark : String
  separator : String
  statementLength : Int
  parameterCount : Int

/-- The facts about this library. -/
def about : About where
  project := "sqlpilot"
  version := "0.1.0"
  offers := ["BindingTypeError", "ImproperConfigurationError", "NestedSequenceError",
    "ParameterError", "ParameterInfo", "RewriteResult", "Rewriter", "RewriterConfig",
    "SQLPilotError", "__version__", "config", "exceptions", "extract_parameters", "parameters",
    "rewrite", "typing", "utils"]
  pattern := ":(?P<name>[A-Za-z0-9_]+)"
  mark := String.ofList [SqlBind.mark]
  separator := String.ofList markSeparator
  statementLength := Config.defaultStatementLength
  parameterCount := Config.defaultParameterCount

end SqlBind
