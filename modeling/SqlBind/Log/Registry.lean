import SqlBind.Log.Record
import SqlBind.Text.Uppercase

/-!
# Loggers and Handlers

Loggers have dotted names under one root name, and a name outside it is put under it. A logger that
is asked for by name gets a filter, once, which puts the correlation id in force on every record
that starts there; asking for the root logger without a name adds none.

A record starts at a logger whose effective level it reaches, and goes to the handlers of that
logger and of every logger above it. The logger above is the one with the longest name that ends
before a dot, among those that exist; the search for dots from the right leaves out the character
in front of a dot already found. The effective level is the nearest level that is set, and above all
loggers it is that of warnings.

One handler of the root logger is *managed*: configuring puts it there and removes, and closes, the
managed handlers that were there before. All other handlers stay as they are.

Handlers are objects, and an id stands for the latest handler that was made under it. An older one
under the same id stays where it is attached.

## Main definitions

* `Handler`, `Logger`, `Registry`: the state.
* `Registry.ref?`, `Registry.id?` and `Registry.known`: the handlers that ids stand for.
* `Registry.getLogger`: asks for a logger.
* `Registry.attach`, `Registry.detach`, `Registry.configure`: changes to handlers.
* `Registry.effectiveLevel`, `Registry.isEnabled`, `Registry.handlersFor`: what happens to a record.

## Main results

* `qualify_qualify`: a name under the root name stays as it is.
* `Registry.handler?_makeHandler`: making a handler disturbs no other.
-/

namespace SqlBind.Log

open Text

/-- How a handler formats a record. -/
inductive Formatter where
  | plain
  | structured
  deriving DecidableEq, Repr

/-- What a handler does with a record: write a line, or keep the parts. -/
inductive HandlerKind where
  | stream
  | capture
  deriving DecidableEq, Repr

/-- A handler: its formatter, whether it is managed, and how often it was closed. -/
structure Handler where
  id : String
  kind : HandlerKind
  formatter : Option Formatter
  managed : Bool
  closes : Nat
  deriving DecidableEq, Repr

/-- A handler among those made so far. -/
abbrev HandlerRef := Nat

/-- A logger: its own level, how many correlation filters it has, and its handlers in order. -/
structure Logger where
  name : String
  level : Int
  filters : Nat
  handlers : List HandlerRef
  deriving DecidableEq, Repr

/-- The loggers there are, the handlers made so far, and how many of them were made by
configuring. -/
structure Registry where
  loggers : List Logger
  handlers : List Handler
  made : Nat
  deriving DecidableEq, Repr

/-- The name of the root logger of the library. -/
def rootName : String := "sqlpilot"

/-- The logger that reports rewrites. -/
def converterName : String := "sqlpilot.parameters.converter"

/-- Whether a name lies under the root name. -/
def isUnderRoot (name : String) : Bool :=
  name = rootName || (rootName.toList ++ ['.']).isPrefixOf name.toList

/-- A name under the root name: the name itself, or put there. -/
def qualify (name : String) : String :=
  if isUnderRoot name then name else rootName ++ "." ++ name

theorem isUnderRoot_qualify {name : String} : isUnderRoot (qualify name) = true := by
  unfold qualify
  split
  · assumption
  · simp [isUnderRoot, String.toList_append]

/-- A name under the root name stays as it is. -/
theorem qualify_qualify {name : String} : qualify (qualify name) = qualify name := by
  rw [qualify.eq_def (qualify name), if_pos isUnderRoot_qualify]

/-- The names above a name, nearest first, all of them reversed. -/
def outerNames (reversed : List Char) : List (List Char) :=
  match _h : reversed.dropWhile (· != '.') with
  | [] => []
  | _ :: outer => if outer.isEmpty then [] else outer :: outerNames (outer.drop 1)
termination_by reversed.length
decreasing_by
  have := (List.dropWhile_sublist (· != '.') (l := reversed)).length_le
  simp only [_h, List.length_cons] at this
  simp only [List.length_drop]
  omega

namespace Registry

/-- The registry at the beginning: only the logger that reports rewrites has been asked for. -/
def initial : Registry := ⟨[⟨rootName, 0, 0, []⟩, ⟨converterName, 0, 1, []⟩], [], 0⟩

instance : Inhabited Registry := ⟨initial⟩

/-- The logger with a given name. -/
def logger? (r : Registry) (name : String) : Option Logger := r.loggers.find? (·.name = name)

/-- The handler that a reference stands for. -/
def handler? (r : Registry) (ref : HandlerRef) : Option Handler := r.handlers[ref]?

/-- The latest handler under an id. -/
def ref? (r : Registry) (id : String) : Option HandlerRef :=
  (r.handlers.reverse.findIdx? (·.id = id)).map fun back => r.handlers.length - 1 - back

/-- The id that stands for a handler; none if a later handler has taken it over. -/
def id? (r : Registry) (ref : HandlerRef) : Option String :=
  (r.handler? ref).bind fun h => if r.ref? h.id = some ref then some h.id else none

/-- The handlers that ids stand for. -/
def known (r : Registry) : List Handler :=
  (r.handlers.zipIdx.filter fun e => (r.id? e.2).isSome).map (·.1)

/-- The handlers of a logger. -/
def handlersOf (r : Registry) (l : Logger) : List Handler := l.handlers.filterMap r.handler?

/-- Changes the logger with a given name. -/
def updateLogger (r : Registry) (name : String) (f : Logger → Logger) : Registry :=
  { r with loggers := r.loggers.map fun l => if l.name = name then f l else l }

/-- Changes the handler that a reference stands for. -/
def updateHandler (r : Registry) (ref : HandlerRef) (f : Handler → Handler) : Registry :=
  { r with handlers := r.handlers.modify ref f }

/-- Makes the logger with a given name, unless there is one. -/
def ensureLogger (r : Registry) (name : String) : Registry :=
  if (r.logger? name).isSome then r
  else { r with loggers := r.loggers ++ [⟨name, 0, 0, []⟩] }

/-- Gives a logger a filter, unless it has one. -/
def addFilter (l : Logger) : Logger := if l.filters = 0 then { l with filters := 1 } else l

/-- Asks for a logger, by name or for the root logger; yields the full name. -/
def getLogger (r : Registry) : Option String → Registry × String
  | none => (r.ensureLogger rootName, rootName)
  | some name =>
    let full := qualify name
    ((r.ensureLogger full).updateLogger full addFilter, full)

/-- Puts a handler at the end of a list, unless it is in it. -/
def appendHandler (ref : HandlerRef) (l : Logger) : Logger :=
  if l.handlers.contains ref then l else { l with handlers := l.handlers ++ [ref] }

/-- Adds a handler that exists to a logger. -/
def attach (r : Registry) (ref : HandlerRef) (name : String) : Registry :=
  r.updateLogger name (appendHandler ref)

/-- Removes a handler from a logger. -/
def detach (r : Registry) (ref : HandlerRef) (name : String) : Registry :=
  r.updateLogger name fun l => { l with handlers := l.handlers.filter (· != ref) }

/-- Makes a handler that is attached nowhere. -/
def makeHandler (r : Registry) (id : String) (kind : HandlerKind) : Registry :=
  { r with handlers := r.handlers ++ [⟨id, kind, none, false, 0⟩] }

/-- Making a handler disturbs none of the others. -/
theorem handler?_makeHandler {r : Registry} {id : String} {kind : HandlerKind} {ref : HandlerRef}
    (h : ref < r.handlers.length) : (r.makeHandler id kind).handler? ref = r.handler? ref := by
  simp [handler?, makeHandler, List.getElem?_append_left h]

/-! ### Records -/

/-- The logger right above a name. -/
def parent? (r : Registry) (name : String) : Option Logger :=
  (outerNames name.toList.reverse).findSome? fun outer =>
    r.logger? (String.ofList outer.reverse)

/-- A logger and the loggers above it, at most `fuel` of them. -/
def chainWithin (r : Registry) : Nat → Logger → List Logger
  | 0, _ => []
  | fuel + 1, l =>
    match r.parent? l.name with
    | some above => l :: r.chainWithin fuel above
    | none => [l]

/-- The logger with a given name and the loggers above it; names above are shorter. -/
def chain (r : Registry) (name : String) : List Logger :=
  match r.logger? name with
  | some l => r.chainWithin (name.length + 1) l
  | none => []

/-- The nearest level that is set for a logger. -/
def effectiveLevel (r : Registry) (name : String) : Int :=
  match (r.chain name).find? (·.level != Level.notSet) with
  | some l => l.level
  | none => Level.warning

/-- Whether a record of a level starts at a logger. -/
def isEnabled (r : Registry) (name : String) (level : Int) : Bool :=
  0 < level && r.effectiveLevel name ≤ level

/-- The handlers that a record goes to, in order. -/
def handlersFor (r : Registry) (name : String) : List (HandlerRef × Handler) :=
  (r.chain name).flatMap fun l => l.handlers.filterMap fun ref => (r.handler? ref).map (ref, ·)

/-- The correlation id that a logger puts on its records while `current` is in force. -/
def stamp (r : Registry) (name : String) (current : Option CodeText) : Option CodeText :=
  match r.logger? name with
  | some l => if l.filters = 0 then none else current.filter (!·.isEmpty)
  | none => none

/-! ### Configuring -/

/-- The managed handlers of the root logger other than `kept`. -/
def replaced (r : Registry) (kept : Option HandlerRef) : List HandlerRef :=
  ((r.logger? rootName).map (·.handlers)).getD [] |>.filter fun ref =>
    ((r.handler? ref).map (·.managed)).getD false && some ref != kept

/-- Removes a handler from the root logger and closes it. -/
def retire (r : Registry) (ref : HandlerRef) : Registry :=
  (r.detach ref rootName).updateHandler ref fun h => { h with closes := h.closes + 1 }

/-- The id of the next handler that configuring makes. -/
def nextId (r : Registry) : String := "stderr" ++ intText (r.made + 1)

/-- The handler under an id that has to be there; none if no id is given. -/
def givenHandler (r : Registry) : Option String → Outcome (Option HandlerRef)
  | some id =>
    match r.ref? id with
    | some ref => .ok (some ref)
    | none => .error (.unknownName id)
  | none => .ok none

/-- The handler to install: the given one, or a new one. -/
def provideHandler (r : Registry) : Option HandlerRef → Registry × HandlerRef
  | some ref => (r, ref)
  | none => ({ r.makeHandler r.nextId .stream with made := r.made + 1 }, r.handlers.length)

/-- Sets the level of the root logger by name. A name that is not known is refused. -/
def setLevel (r : Registry) (name : String) : Registry × Outcome Unit :=
  match Level.ofName? name with
  | some level => (r.updateLogger rootName fun l => { l with level }, .ok ())
  | none => (r, .error (.unknownLevel name))

/-- Puts the given handler, or a new one, in the place of the managed handlers of the root logger;
yields its id. -/
def install (r : Registry) (formatter : Formatter) (handler : Option String)
    (given : Option HandlerRef) : Registry × String :=
  let r := (r.replaced given).foldl retire r
  let id := handler.getD r.nextId
  let (r, ref) := r.provideHandler given
  let r := r.updateHandler ref fun h => { h with formatter := some formatter, managed := true }
  (r.attach ref rootName, id)

/-- Configures the root logger: asks for it, sets its level, by name, and installs its managed
handler. -/
def configure (r : Registry) (level : String) (formatter : Formatter) (handler : Option String) :
    Registry × Outcome String :=
  match r.givenHandler handler with
  | .error fault => (r, .error fault)
  | .ok given =>
    let (r, _) := r.getLogger none
    match r.setLevel (uppercase level) with
    | (r, .error fault) => (r, .error fault)
    | (r, .ok ()) =>
      let (r, id) := r.install formatter handler given
      (r, .ok id)

end Registry

end SqlBind.Log
