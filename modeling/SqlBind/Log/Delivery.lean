import SqlBind.Log.Registry

/-!
# Delivery of Records

A record that starts at a logger goes to each handler in turn, and each handler makes an *entry* of
it. A stream handler writes the line that its formatter gives, or the bare message if it has none;
if that fails with a fault that it keeps to itself, the failure is its entry and the record goes on,
and with any other fault the delivery ends there. A capturing handler keeps the parts
of the record with the message filled in; if that fails the delivery ends there with the fault.
Telling the message may change the arguments of the record (`SqlBind.Log.Message`), which the next
handler then finds so.

## Main definitions

* `Entry`, `Captured`: what a handler makes of a record.
* `Handler.receive`: what one handler makes of one record.
* `deliver`: what all of them make of it.
* `Circumstances` and `emitRecord`: logging at a logger.

## Main results

* `emitRecord_of_not_enabled`: below the effective level nothing happens.
-/

namespace SqlBind.Log

open Text

/-- The parts of a record that a capturing handler keeps. -/
structure Captured where
  logger : CodeText
  level : Int
  message : CodeText
  correlation : Option CodeText
  extra : Option Value

/-- What a handler makes of a record. -/
inductive Entry where
  | line (text : CodeText)
  | failed (fault : Fault)
  | captured (parts : Captured)

/-- The line of a record under a formatter; its message if there is none. -/
def formatted (host : Host) (formatter : Option Formatter) (r : Record)
    (current : Option CodeText) : Outcome CodeText :=
  match formatter with
  | none => r.bareLine
  | some .plain => r.plainLine host
  | some .structured => (r.structuredLine host current "").map .ofString

namespace Handler

/-- What a handler makes of a record while `current` is the correlation id. -/
def receive (h : Handler) (host : Host) (r : Record) (current : Option CodeText) :
    Outcome Entry :=
  match h.kind with
  | .stream =>
    match formatted host h.formatter r current with
    | .ok text => .ok (.line text)
    | .error fault => if host.contains fault then .ok (.failed fault) else .error fault
  | .capture =>
    return .captured ⟨r.logger, r.level, ← r.message, r.correlation, r.extra⟩

/-- Whether a handler tells the message of a record. Only a structured line begins with something
else that may be missing. -/
def tells (h : Handler) (host : Host) (r : Record) : Bool :=
  match h.kind, h.formatter with
  | .stream, some .structured => (timestamp host.zone "" r.time).isOk
  | _, _ => true

/-- A record as a handler leaves it. -/
def pass (h : Handler) (host : Host) (r : Record) : Record :=
  if h.tells host r then r.told else r

end Handler

/-- The entries that handlers made, and the fault that ended the delivery, if one did. -/
structure Delivery where
  entries : List (HandlerRef × Entry)
  fault : Option Fault

/-- Nothing delivered. -/
def Delivery.none : Delivery := ⟨[], Option.none⟩

/-- Two deliveries, one after the other, unless the first ended with a fault. -/
def Delivery.andThen (a b : Delivery) : Delivery :=
  match a.fault with
  | some _ => a
  | Option.none => ⟨a.entries ++ b.entries, b.fault⟩

/-- What handlers make of a record, one after the other. -/
def deliver (host : Host) (r : Record) (current : Option CodeText) :
    List (HandlerRef × Handler) → Delivery
  | [] => .none
  | (ref, h) :: rest =>
    match h.receive host r current with
    | .ok entry =>
      let later := deliver host (h.pass host r) current rest
      ⟨(ref, entry) :: later.entries, later.fault⟩
    | .error fault => ⟨[], some fault⟩

/-- The circumstances under which a record is made: the host, the loggers and handlers, the
correlation id in force, the time, and the place that live records name. -/
structure Circumstances where
  host : Host
  registry : Registry
  correlation : Option CodeText
  clock : Int
  origin : Origin

/-- The record that a logger makes. -/
def Circumstances.record (c : Circumstances) (name : String) (level : Int) (template : String)
    (args : List Value) (extra : Option Value) : Record :=
  { logger := .ofString name, level, template, args, extra
    correlation := c.registry.stamp name c.correlation
    origin := c.origin
    time := c.clock
    exception := Option.none }

/-- Logs at a logger, if it is enabled for the level. -/
def Circumstances.emitRecord (c : Circumstances) (name : String) (level : Int) (template : String)
    (args : List Value) (extra : Option Value) : Delivery :=
  if c.registry.isEnabled name level then
    deliver c.host (c.record name level template args extra) c.correlation
      (c.registry.handlersFor name)
  else .none

/-- Below the effective level nothing happens. -/
theorem Circumstances.emitRecord_of_not_enabled {c : Circumstances} {name template : String}
    {level : Int} {args : List Value} {extra : Option Value}
    (h : c.registry.isEnabled name level = false) :
    c.emitRecord name level template args extra = .none := by
  simp [emitRecord, h]

/-- What the filter leaves on a record as its correlation id, if anything: the id in force unless
that is empty, or else what the record had before, which may be nothing or an id that is missing. -/
def filterId (current : Option CodeText) (preset : Option (Option CodeText)) :
    Option (Option CodeText) :=
  ((current.filter (!·.isEmpty)).map some).or preset

/-- The parameters of logging with extra fields that a field must not be named after. -/
def reservedNames : List String := ["logger", "level", "message"]

/-- Logs with extra fields by name; a field named after a parameter is refused. -/
def Circumstances.emitFields (c : Circumstances) (name : String) (level : Int) (message : String)
    (fields : List (String × Value)) : Delivery :=
  match fields.find? fun f => reservedNames.contains f.1 with
  | some (field, _) => ⟨[], some (.badCall "log_with_context" (.repeated field))⟩
  | Option.none =>
    let extra := Value.dict .plain (fields.map fun f => (.str f.1, f.2))
    c.emitRecord name level message [] (some extra)

end SqlBind.Log
