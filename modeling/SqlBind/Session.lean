import SqlBind.Config.Workspace
import SqlBind.Rewrite.Rewritten

/-!
# Sessions

A session is what a program does with the library over time: it makes configurations, rewriters and
converters, rewrites statements, sets the correlation id, configures logging and logs. The state of
a session is a plain value, and every step maps a state to the next one, with an answer or a fault
and with what the handlers received meanwhile. What a handler receives whose id stands for another
handler by now is lost. A step that ends with a fault leaves the state as it was, except that a
logger that was asked for stays, and so does what a comparison makes of the values it compares.

## Main definitions

* `Session`: the state.
* `Step` and `Answer`: what can be asked, and what comes back.
* `Session.step`: one step.
* `Session.run`: steps one after the other.

## Main results

* `Session.run_append`: running steps in two portions is running them all.
-/

namespace SqlBind

open Log Text

/-- The state of a session, and the host that it runs on. -/
structure Session where
  host : Host
  workspace : Workspace
  registry : Registry
  correlation : Option CodeText
  clock : Int
  origin : Origin

/-- The beginning of a session on a host whose live records name the given place. -/
def Session.start (host : Host) (origin : Origin) : Session :=
  ⟨host, .empty, .initial, none, 0, origin⟩

/-- What can be asked of a session. -/
inductive Step where
  | makeConfig (id : String) (settings : List (String × Value))
  | makeCopy (id : String) (source : Target)
  | assign (target : Target) (name : String) (v : Value)
  | look (target : Target)
  | compare (a b : Target)
  | makeRewriter (id : String) (source : Option Target)
  | makeConverter (id : String) (source : Option Target)
  | rewrite (rewriter : Option String) (sql mapping : Value) (keywords : Keywords)
  | convert (converter : String) (sql bindings : Value) (supplied : Option (List Placeholder))
  | rewriteAgain (sql : Value) (mappings : List Value)
  | setCorrelation (id : Option CodeText)
  | getCorrelation
  | setClock (millis : Int)
  | filter (preset : Option (Option CodeText))
  | getLogger (name : Option String)
  | makeHandler (id : String) (kind : HandlerKind)
  | attach (id : String) (name : Option String)
  | detach (id : String) (name : Option String)
  | configure (level : String) (structured : Bool) (handler : Option String)
  | inspect
  | log (name : Option String) (level : Int) (message : String) (fields : List (String × Value))
  | logPlain (name : Option String) (level : Int) (template : String) (args : List Value)

/-- What comes back from a step. -/
inductive Answer where
  | done
  | config (c : Config) (description : String)
  | equal (b : Bool)
  | rewritten (r : Rewritten)
  | rewrittenAll (rs : List Rewritten)
  | correlation (id : Option CodeText)
  | filtered (id : Option (Option CodeText))
  | logger (name : String) (filters : Nat) (effectiveLevel : Int)
  | configured (handler : String) (formatter : Formatter)
  | logging (level : Int) (attached known : List Handler)

/-- A state after a step, the answer, and what the handlers received. -/
structure StepResult where
  next : Session
  answer : Outcome Answer
  received : List (String × Entry)

namespace Session

/-- The circumstances under which records are made now. -/
def circumstances (s : Session) : Circumstances :=
  ⟨s.host, s.registry, s.correlation, s.clock, s.origin⟩

/-- A step that changes nothing and delivers nothing. -/
def answering (s : Session) (answer : Outcome Answer) : StepResult := ⟨s, answer, []⟩

/-- The state and description of the configuration behind a holder. -/
def showConfig (w : Workspace) (t : Target) : Outcome Answer := do
  let c ← w.look t
  return .config c (← ofDisplay c.describe)

/-- A step after something was done to the workspace: it answers with the configuration behind a
holder, unless what was done has failed. -/
def changing (s : Session) (done : Workspace × Outcome Unit) (t : Target) : StepResult :=
  { s with workspace := done.1 }.answering (do
    done.2
    showConfig done.1 t)

/-- What the handlers that ids stand for received. -/
def received (s : Session) (d : Delivery) : List (String × Entry) :=
  d.entries.filterMap fun e => (s.registry.id? e.1).map (·, e.2)

/-- A step that delivers records. -/
def delivering (s : Session) (answer : Outcome Answer) (d : Delivery) : StepResult :=
  ⟨s, answer, s.received d⟩

/-- The answer of a step that only logs. -/
def logged (s : Session) (d : Delivery) : StepResult :=
  s.delivering (match d.fault with | some fault => .error fault | none => .ok .done) d

/-- The session after a logger was asked for, and the logger's full name. -/
def asking (s : Session) (name : Option String) : Session × String :=
  let (registry, full) := s.registry.getLogger name
  ({ s with registry }, full)

/-- The configuration that a rewriter, or the rewriter of the library, logs with. -/
def rewriterConfig (s : Session) : Option String → Outcome Config
  | some id => s.workspace.rewriterConfig id
  | none => .ok .default

/-- One step of a session. -/
def step (s : Session) : Step → StepResult
  | .makeConfig id settings => s.changing (s.workspace.makeConfig id settings) (.config id)
  | .makeCopy id source => s.changing (s.workspace.makeCopy id source) (.config id)
  | .assign target name v => s.changing (s.workspace.assign target name v) target
  | .look target => s.answering (showConfig s.workspace target)
  | .compare a b =>
    let (verdict, workspace) := s.workspace.compare a b
    { s with workspace }.answering (verdict.map .equal)
  | .makeRewriter id source => s.changing (s.workspace.makeRewriter id source) (.rewriter id)
  | .makeConverter id source => s.changing (s.workspace.makeConverter id source) (.converter id)
  | .rewrite rewriter sql mapping keywords =>
    match s.rewriterConfig rewriter with
    | .error fault => s.answering (.error fault)
    | .ok config =>
      let (outcome, d) := runRewrite s.circumstances config sql mapping keywords
      s.delivering (outcome.map .rewritten) d
  | .convert converter sql bindings supplied =>
    match s.workspace.look (.converter converter) with
    | .error fault => s.answering (.error fault)
    | .ok config =>
      let (outcome, d) := runConvert s.circumstances config sql bindings supplied
      s.delivering (outcome.map .rewritten) d
  | .rewriteAgain sql mappings =>
    let (outcome, d) := SqlBind.rewriteAgain s.circumstances .default sql mappings
    s.delivering (outcome.map .rewrittenAll) d
  | .setCorrelation id => { s with correlation := id }.answering (.ok .done)
  | .getCorrelation => s.answering (.ok (.correlation s.correlation))
  | .setClock millis => { s with clock := millis }.answering (.ok .done)
  | .filter preset => s.answering (.ok (.filtered (filterId s.correlation preset)))
  | .getLogger name =>
    let (s, full) := s.asking name
    let filters := ((s.registry.logger? full).map (·.filters)).getD 0
    s.answering (.ok (.logger full filters (s.registry.effectiveLevel full)))
  | .makeHandler id kind =>
    { s with registry := s.registry.makeHandler id kind }.answering (.ok .done)
  | .attach id name =>
    let (s, full) := s.asking name
    match s.registry.ref? id with
    | some ref => { s with registry := s.registry.attach ref full }.answering (.ok .done)
    | none => s.answering (.error (.unknownName id))
  | .detach id name =>
    let (s, full) := s.asking name
    match s.registry.ref? id with
    | some ref => { s with registry := s.registry.detach ref full }.answering (.ok .done)
    | none => s.answering (.error (.unknownName id))
  | .configure level structured handler =>
    let formatter := if structured then .structured else .plain
    let (registry, outcome) := s.registry.configure level formatter handler
    { s with registry }.answering (outcome.map (.configured · formatter))
  | .inspect =>
    let root := (s.registry.logger? rootName).getD ⟨rootName, 0, 0, []⟩
    s.answering (.ok (.logging root.level (s.registry.handlersOf root) s.registry.known))
  | .log name level message fields =>
    let (s, full) := s.asking name
    s.logged (s.circumstances.emitFields full level message fields)
  | .logPlain name level template args =>
    let (s, full) := s.asking name
    s.logged (s.circumstances.emitRecord full level template args none)

/-- Steps one after the other: the state at the end, and the results in order. -/
def run (s : Session) : List Step → Session × List StepResult
  | [] => (s, [])
  | x :: rest =>
    let result := s.step x
    let (last, results) := run result.next rest
    (last, result :: results)

/-- Running steps in two portions is running them all. -/
theorem run_append {s : Session} {xs ys : List Step} :
    s.run (xs ++ ys) =
      (((s.run xs).1.run ys).1, (s.run xs).2 ++ ((s.run xs).1.run ys).2) := by
  induction xs generalizing s with
  | nil => simp [run]
  | cons x xs ih => simp [run, ih]

end Session

end SqlBind
