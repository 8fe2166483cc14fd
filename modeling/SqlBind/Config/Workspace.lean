import SqlBind.Config.Basic
import SqlBind.Value.Equality

/-!
# Shared Configurations

Configurations are objects: two holders of one configuration see each other's assignments. A
workspace keeps the configurations made so far and the named holders that refer to them. A
converter that is made from a configuration *shares* it. A rewriter holds a *copy* of its own, which
its inner converter shares in turn, so that a rewriter refers to its copy twice: once for those who
look at it and once for the converter that logs. What is copied or shared may be the configuration
of any holder, also that of a rewriter or of a converter.

Whatever is done to a workspace gives the workspace afterwards together with the outcome, also where
it fails.

A copy of a configuration is another object, but it has the same values. Values therefore carry
marks: whatever a comparison makes of a value (`SqlBind.Value.Equality`) shows wherever the value
is.

## Main definitions

* `Workspace`: the configurations, and the names of configurations, rewriters and converters.
* `Target`: a holder by name.
* `Workspace.hold`: a new holder for a configuration.
* `Workspace.makeConfig`, `makeCopy`, `makeRewriter`, `makeConverter`: new holders.
* `Workspace.assign`: an assignment through a holder.
* `Workspace.compare`: whether two holders have configurations that agree.

## Main results

* `Workspace.read_allocate`: making a configuration disturbs no other.
-/

namespace SqlBind

/-- A configuration among those made so far. -/
abbrev ConfigRef := Nat

/-- A rewriter: the configuration that it shows, and the one that its converter logs with. -/
structure RewriterHandle where
  shown : ConfigRef
  used : ConfigRef
  deriving DecidableEq, Repr

/-- A holder of a configuration. -/
inductive Target where
  | config (id : String)
  | rewriter (id : String)
  | converter (id : String)
  deriving DecidableEq, Repr

/-- A configuration as an object: its values, and the mark of each. -/
structure ConfigObject where
  values : Config
  marks : Settings Nat

namespace ConfigObject

/-- A configuration in which every value with a given mark is replaced. -/
def renew (o : ConfigObject) (mark : Nat) (v : Value) : ConfigObject :=
  let renewed (c : Config) (s : Setting) : Config := if o.marks.get s = mark then c.set s v else c
  { o with values := Setting.all.foldl renewed o.values }

/-- Compares two configurations in the given settings, up to the first difference: a value agrees
with itself whatever it is. Beside the verdict it says what became of the values with which
marks. -/
def compareOn (a b : ConfigObject) : List Setting → Outcome Bool × List (Nat × Value)
  | [] => (.ok true, [])
  | s :: rest =>
    if a.marks.get s = b.marks.get s then compareOn a b rest
    else
      let c := (a.values.get s).compare (b.values.get s)
      let changes := [(a.marks.get s, c.left), (b.marks.get s, c.right)]
      match c.verdict with
      | .ok true =>
        let (verdict, later) := compareOn a b rest
        (verdict, changes ++ later)
      | verdict => (verdict, changes)

end ConfigObject

/-- The configurations made so far and their named holders, and the number of marks given. -/
structure Workspace where
  objects : List ConfigObject
  marked : Nat
  configs : List (String × ConfigRef)
  rewriters : List (String × RewriterHandle)
  converters : List (String × ConfigRef)

/-- Looks a name up; the latest holder of the name counts. -/
def byName? {α : Type} (holders : List (String × α)) (id : String) : Option α :=
  (holders.find? (·.1 = id)).map (·.2)

namespace Workspace

/-- The workspace in which nothing has been made. -/
def empty : Workspace := ⟨[], 0, [], [], []⟩

instance : Inhabited Workspace := ⟨empty⟩

/-- Adds a configuration whose values have marks already. -/
def adopt (w : Workspace) (object : ConfigObject) : Workspace × ConfigRef :=
  ({ w with objects := w.objects ++ [object] }, w.objects.length)

/-- Adds a configuration of new values. -/
def allocate (w : Workspace) (c : Config) : Workspace × ConfigRef :=
  let n := w.marked
  { w with marked := n + 4 }.adopt ⟨c, ⟨n, n + 1, n + 2, n + 3⟩⟩

/-- The object that a reference stands for. -/
def object (w : Workspace) (r : ConfigRef) : ConfigObject :=
  w.objects.getD r ⟨.default, ⟨0, 0, 0, 0⟩⟩

/-- The configuration that a reference stands for. -/
def read (w : Workspace) (r : ConfigRef) : Config := (w.object r).values

/-- Replaces the object that a reference stands for. -/
def write (w : Workspace) (r : ConfigRef) (object : ConfigObject) : Workspace :=
  { w with objects := w.objects.set r object }

/-- The reference behind a holder. -/
def ref? (w : Workspace) : Target → Option ConfigRef
  | .config id => byName? w.configs id
  | .rewriter id => (byName? w.rewriters id).map (·.shown)
  | .converter id => byName? w.converters id

/-- The reference behind a holder that has to be there. -/
def ref (w : Workspace) (t : Target) : Outcome ConfigRef :=
  match w.ref? t, t with
  | some r, _ => .ok r
  | none, .config id | none, .rewriter id | none, .converter id => .error (.unknownName id)

/-- The configuration behind a holder that has to be there. -/
def look (w : Workspace) (t : Target) : Outcome Config := return w.read (← w.ref t)

/-- Lets a holder refer to a configuration. The converter in a rewriter logs with what the rewriter
shows. -/
def hold (w : Workspace) (r : ConfigRef) : Target → Workspace
  | .config id => { w with configs := (id, r) :: w.configs }
  | .rewriter id => { w with rewriters := (id, ⟨r, r⟩) :: w.rewriters }
  | .converter id => { w with converters := (id, r) :: w.converters }

/-- Lets a holder refer to the configuration that was found or made for it, if one was. -/
def held (t : Target) : Workspace × Outcome ConfigRef → Workspace × Outcome Unit
  | (w, .ok r) => (w.hold r t, .ok ())
  | (w, .error fault) => (w, .error fault)

/-- Adds a configuration of new values, if there is one. -/
def add (w : Workspace) : Outcome Config → Workspace × Outcome ConfigRef
  | .ok c => let (w, r) := w.allocate c; (w, .ok r)
  | .error fault => (w, .error fault)

/-- Adds a checked copy of the configuration behind a holder. -/
def duplicate (w : Workspace) (source : Target) : Workspace × Outcome ConfigRef :=
  match w.ref source with
  | .error fault => (w, .error fault)
  | .ok r =>
    match (w.read r).copy with
    | .error fault => (w, .error fault)
    | .ok values => let (w, r) := w.adopt { w.object r with values }; (w, .ok r)

/-- Makes a named configuration from settings. -/
def makeConfig (w : Workspace) (id : String) (settings : List (String × Value)) :
    Workspace × Outcome Unit :=
  held (.config id) (w.add (Config.create settings))

/-- Makes a named copy of a configuration. -/
def makeCopy (w : Workspace) (id : String) (source : Target) : Workspace × Outcome Unit :=
  held (.config id) (w.duplicate source)

/-- Makes a rewriter, from a copy of the configuration behind a holder or from a default one. -/
def makeRewriter (w : Workspace) (id : String) (source : Option Target) :
    Workspace × Outcome Unit :=
  held (.rewriter id)
    (match source with
      | some source => w.duplicate source
      | none => w.add (.ok .default))

/-- Makes a converter, which shares the configuration behind a holder or gets a default one. -/
def makeConverter (w : Workspace) (id : String) (source : Option Target) :
    Workspace × Outcome Unit :=
  held (.converter id)
    (match source with
      | some source => (w, w.ref source)
      | none => w.add (.ok .default))

/-- The marks after a setting was assigned by name a value with the mark `mark`. -/
def remark (marks : Settings Nat) (name : String) (mark : Nat) : Settings Nat :=
  match Setting.ofName? name with
  | some setting => marks.set setting mark
  | none => marks

/-- Assigns a setting through a holder, unchecked. -/
def assign (w : Workspace) (t : Target) (name : String) (v : Value) : Workspace × Outcome Unit :=
  match w.ref t with
  | .error fault => (w, .error fault)
  | .ok r =>
    match (w.read r).assign name v with
    | .error fault => (w, .error fault)
    | .ok values =>
      let w' := w.write r ⟨values, remark (w.object r).marks name w.marked⟩
      ({ w' with marked := w.marked + 1 }, .ok ())

/-- Replaces the values with given marks wherever they are. -/
def renew (w : Workspace) (changes : List (Nat × Value)) : Workspace :=
  { w with objects := w.objects.map fun o => changes.foldl (fun o e => o.renew e.1 e.2) o }

/-- Whether two holders have configurations that agree, and what becomes of the workspace. -/
def compare (w : Workspace) (a b : Target) : Outcome Bool × Workspace :=
  match w.ref a, w.ref b with
  | .error fault, _ | .ok _, .error fault => (.error fault, w)
  | .ok r, .ok r' =>
    let (verdict, changes) := (w.object r).compareOn (w.object r') Setting.all
    (verdict, w.renew changes)

/-- The configuration that a rewriter logs with. -/
def rewriterConfig (w : Workspace) (id : String) : Outcome Config :=
  match byName? w.rewriters id with
  | some handle => .ok (w.read handle.used)
  | none => .error (.unknownName id)

/-- Making a configuration disturbs none of the others. -/
theorem read_allocate {w : Workspace} {c : Config} {r : ConfigRef} (h : r < w.objects.length) :
    (w.allocate c).1.read r = w.read r := by
  simp [allocate, adopt, read, object, List.getElem?_append_left h]

/-- A configuration just made is found behind its reference. -/
theorem read_allocate_self {w : Workspace} {c : Config} :
    (w.allocate c).1.read (w.allocate c).2 = c := by
  simp [allocate, adopt, read, object]

end Workspace

end SqlBind
