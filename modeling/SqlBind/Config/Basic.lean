import SqlBind.Value.Comparison
import SqlBind.Value.Decidable

/-!
# Configurations

A configuration says what a rewrite reports to the log. Two switches say whether rewrites are
logged and whether their parameters are; two limits say how long a logged statement and how many
logged parameters may be. None of them changes the outcome of a rewrite.

A configuration that is *created* is checked: the length limit must be positive and the count limit
must not be negative. A setting that is *assigned* later is not checked, so any value can turn up in
any setting. Copying creates anew, hence checks again.

## Main definitions

* `Setting`, `Settings` and `Config`: the four settings, something for each, and a value for each.
* `Config.validate`: the check.
* `Config.create` and `Config.copy`: checked creation.
* `Config.assign`: unchecked assignment by name.

## Main results

* `Settings.get_set`: an assignment changes the assigned setting and no other.
* `Config.validate_of_limits`: integer limits that are in range are accepted.
-/

namespace SqlBind

/-- The settings of a configuration. -/
inductive Setting where
  | logRewrites
  | logParameters
  | statementLength
  | parameterCount
  deriving DecidableEq, Repr

namespace Setting

/-- The name of a setting. -/
def name : Setting → String
  | .logRewrites => "log_rewrites"
  | .logParameters => "log_parameters"
  | .statementLength => "sql_truncation_length"
  | .parameterCount => "parameter_truncation_count"

/-- The settings in order. -/
def all : List Setting := [.logRewrites, .logParameters, .statementLength, .parameterCount]

/-- The setting with a given name. -/
def ofName? (name : String) : Option Setting := all.find? (·.name = name)

theorem mem_all (s : Setting) : s ∈ all := by cases s <;> decide

end Setting

/-- Something for each setting. -/
structure Settings (α : Type) where
  logRewrites : α
  logParameters : α
  statementLength : α
  parameterCount : α
  deriving DecidableEq, Inhabited

namespace Settings

variable {α : Type}

/-- What there is for a setting. -/
def get (c : Settings α) : Setting → α
  | .logRewrites => c.logRewrites
  | .logParameters => c.logParameters
  | .statementLength => c.statementLength
  | .parameterCount => c.parameterCount

/-- The same with something else for one setting. -/
def set (c : Settings α) (setting : Setting) (a : α) : Settings α :=
  match setting with
  | .logRewrites => { c with logRewrites := a }
  | .logParameters => { c with logParameters := a }
  | .statementLength => { c with statementLength := a }
  | .parameterCount => { c with parameterCount := a }

@[simp] theorem get_set {c : Settings α} {s t : Setting} {a : α} :
    (c.set s a).get t = if s = t then a else c.get t := by
  cases s <;> cases t <;> rfl

end Settings

/-- A configuration: a value for each setting. -/
abbrev Config := Settings Value

namespace Config

/-- The length limit of a configuration that does not set it. -/
def defaultStatementLength : Int := 2000

/-- The count limit of a configuration that does not set it. -/
def defaultParameterCount : Int := 100

/-- The configuration that sets nothing: rewrites are logged, parameters are not. -/
def default : Config :=
  ⟨.bool true, .bool false, .int defaultStatementLength, .int defaultParameterCount⟩

/-- The fault of a limit that is out of range. -/
def limitFault (setting : Setting) (complaint : String) (v : Value) : Fault :=
  match v.text with
  | .ok text => configurationFault (setting.name ++ complaint ++ text)
  | .error failure => .undisplayable failure

/-- Checks the limits of a configuration, the length first. -/
def validate (c : Config) : Outcome Config := do
  if ← c.statementLength.compareWith .atMost 0 then
    throw (limitFault .statementLength " must be positive, got " c.statementLength)
  if ← c.parameterCount.compareWith .below 0 then
    throw (limitFault .parameterCount " must not be negative, got " c.parameterCount)
  return c

/-- How a configuration is created: every setting has a default. -/
def signature : Signature := ⟨[], Setting.all.map (·.name)⟩

/-- The configuration with other values for the given settings, unchecked. -/
def override (c : Config) : List (String × Value) → Config
  | [] => c
  | (name, v) :: rest =>
    match Setting.ofName? name with
    | some setting => override (c.set setting v) rest
    | none => override c rest

/-- Creates a configuration from settings by name. -/
def create (settings : List (String × Value)) : Outcome Config :=
  match signature.bind ⟨[], settings⟩ with
  | .ok bound => validate (default.override bound)
  | .error problem => .error (.badCall "RewriterConfig.__init__" problem)

/-- Creates a configuration with the settings of another. -/
def copy (c : Config) : Outcome Config := validate c

/-- The names that every configuration has beside its settings. Nothing can be assigned to them. -/
def fixedNames : List String :=
  ["__annotations__", "__dataclass_fields__", "__dataclass_params__", "__delattr__", "__dir__",
    "__doc__", "__eq__", "__format__", "__ge__", "__getattribute__", "__getstate__", "__gt__",
    "__hash__", "__init__", "__init_subclass__", "__le__", "__lt__", "__match_args__",
    "__module__", "__ne__", "__new__", "__post_init__", "__reduce__", "__reduce_ex__", "__repr__",
    "__setattr__", "__sizeof__", "__slots__", "__str__", "__subclasshook__", "copy"]

/-- The name of the kind of a configuration, to which only a kind can be assigned. -/
def kindName : String := "__class__"

/-- The name of the weak references to a configuration. It takes none, whatever is assigned. -/
def weakReferencesName : String := "__weakref__"

/-- Assigns a setting by name, unchecked. -/
def assign (c : Config) (name : String) (v : Value) : Outcome Config :=
  match Setting.ofName? name with
  | some setting => .ok (c.set setting v)
  | none =>
    .error (if name = kindName then .noKind v.qualifiedName
      else if name = weakReferencesName then .noWeakReferences name
      else if fixedNames.contains name then .readOnly name
      else .noSuchSetting name)

/-- The description of a configuration. -/
def describe (c : Config) : Except DisplayFailure String := do
  let parts ← Setting.all.mapM fun s => return s.name ++ "=" ++ (← (c.get s).describe)
  return bracketed "RewriterConfig(" parts ")"

/-- Integer limits that are in range are accepted. -/
theorem validate_of_limits {c : Config} {length count : Int} (hl : c.statementLength = .int length)
    (hc : c.parameterCount = .int count) (h : 0 < length) (h' : 0 ≤ count) :
    c.validate = .ok c := by
  have hlen : ¬length ≤ 0 := by omega
  have hcnt : ¬count < 0 := by omega
  simp [validate, hl, hc, hlen, hcnt, Relation.holdsInt, bind, Except.bind, pure, Except.pure]

end Config

end SqlBind
