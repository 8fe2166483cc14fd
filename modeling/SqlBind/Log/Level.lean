/-!
# Levels

The importance of a log record is a number; six numbers have names of their own, and two of these
have a second name that is understood but not written.

## Main definitions

* `Level.name`: the name of a level.
* `Level.ofName?`: the level with a given name.
-/

namespace SqlBind.Log.Level

def notSet : Int := 0
def debug : Int := 10
def info : Int := 20
def warning : Int := 30
def error : Int := 40
def critical : Int := 50

/-- The levels with names of their own. -/
def named : List (Int × String) :=
  [(critical, "CRITICAL"), (error, "ERROR"), (warning, "WARNING"), (info, "INFO"),
    (debug, "DEBUG"), (notSet, "NOTSET")]

/-- The second names. -/
def synonyms : List (Int × String) := [(critical, "FATAL"), (warning, "WARN")]

/-- The name of a level. -/
def name (level : Int) : String :=
  match named.find? (·.1 = level) with
  | some (_, name) => name
  | none => "Level " ++ toString level

/-- The level with a given name. -/
def ofName? (name : String) : Option Int :=
  ((named ++ synonyms).find? (·.2 = name)).map (·.1)

/-- A level with a name of its own is found under it. -/
theorem ofName?_name {level : Int} {n : String} (h : (level, n) ∈ named) :
    ofName? n = some level := by
  simp only [named, List.mem_cons, Prod.mk.injEq, List.not_mem_nil, or_false] at h
  rcases h with ⟨rfl, rfl⟩ | ⟨rfl, rfl⟩ | ⟨rfl, rfl⟩ | ⟨rfl, rfl⟩ | ⟨rfl, rfl⟩ | ⟨rfl, rfl⟩ <;> rfl

end SqlBind.Log.Level
