import Mustache.Engine

/-!
# Sessions

Rendering runs callables, writes log records and fills caches, and all of this is seen afterwards,
also if it ends in a fault. A session holds the state that an action finds and leaves behind.

## Main definitions

* `Mustache.Session` — the state.
* `Mustache.Action` — a computation on sessions that may end in a fault.
* `Mustache.withFrame` — an action with one more frame on the stack.
* `Mustache.attempt` — an action of which certain faults are expected.
* `Mustache.askFor` — the key of a source of which a template is asked for.
* `Mustache.logEvent` — reports an event.
-/

namespace Mustache

/-- The state that actions find and leave behind. -/
structure Session where
  /-- The frames in which names are looked up, the topmost first. -/
  frames : List Value
  /-- The arguments of the calls of traced callables, the latest first. -/
  calls : List (List Value)
  /-- How often callables have been called, by their numbers. -/
  tallies : List (Nat × Nat)
  /-- The next number for something that has to be told from everything else. -/
  nextId : Nat
  /-- The next number for a template. -/
  nextTemplate : Nat
  /-- The sources of which templates have been asked for, the latest first: a history, which no
  action looks at. -/
  asked : List String
  /-- The levels of the loggers. -/
  levels : Levels
  /-- The records of events, the latest first. -/
  records : List Record
  files : FileTree
  /-- The engine, unless it is gone. -/
  engine : Option Engine
  deriving Inhabited

/-- A computation on sessions that may end in a fault. A fault leaves the session as it is at that
point. -/
abbrev Action := EStateM Fault Session

namespace Session

/-- A session in which nothing has happened. -/
def start (rootText : String) (level : Level) : Session :=
  { frames := [], calls := [], tallies := [], nextId := 0, nextTemplate := 0, asked := []
    levels := [(Logger.own.name, level)], records := [], files := .empty rootText, engine := none }

end Session

/-- The result of a computation that may fail by itself. -/
def liftFault {α : Type} : Except Fault α → Action α
  | .ok a => pure a
  | .error e => throw e

/-- An action with one more frame on the stack. The frame is taken off again, also after a
fault. -/
def withFrame {α : Type} (frame : Value) (act : Action α) : Action α := fun s =>
  match act { s with frames := frame :: s.frames } with
  | .ok a s' => .ok a { s' with frames := s'.frames.tail }
  | .error e s' => .error e { s' with frames := s'.frames.tail }

/-- Faults that an action may end in without harm. -/
inductive Expected where
  /-- There is no such attribute. -/
  | noAttribute
  /-- A template is not found. -/
  | notFound
  /-- A value is of the wrong kind or not admissible. -/
  | unfit
  deriving DecidableEq, Repr

/-- Whether a fault is expected. -/
def Expected.covers : Expected → Fault → Bool
  | noAttribute => Fault.isNoAttribute
  | notFound => Fault.isNotFound
  | unfit => Fault.isUnfit

/-- The answer of an action, unless it ends in a fault that is expected. -/
def attempt {α : Type} (x : Expected) (act : Action α) : Action (Option α) := fun s =>
  match act s with
  | .ok a s' => .ok (some a) s'
  | .error e s' => if x.covers e then .ok none s' else .error e s'

/-- A number that has not been used before. -/
def freshId : Action Nat :=
  modifyGet fun s => (s.nextId, { s with nextId := s.nextId + 1 })

/-- A number that no template has been given before. -/
def freshTemplateId : Action Nat :=
  modifyGet fun s => (s.nextTemplate, { s with nextTemplate := s.nextTemplate + 1 })

/-- The key of a source of which a template is asked for. -/
def askFor (e : Engine) (source : String) : Action String :=
  modifyGet fun s => (e.className source, { s with asked := source :: s.asked })

/-- The engine. -/
def theEngine : Action Engine := do
  match (← get).engine with
  | some e => pure e
  | none => throw (.engineGone .null)

/-- The engine that has made a template, if it is still there. -/
def Session.engineOf? (s : Session) (t : Template) : Option Engine :=
  s.engine.filter fun e => e.id == t.engine

/-- The engine that has made a template; the template cannot do without it. -/
def engineOf (t : Template) : Action Engine := do
  match (← get).engineOf? t with
  | some e => pure e
  | none => throw (.engineGone t.name)

/-- Changes the engine. -/
def modifyEngine (f : Engine → Engine) : Action Unit :=
  modify fun s => { s with engine := s.engine.map f }

/-- Reports an event to a logger. -/
def logEvent (logger : Logger) (level : Level) (message : String) (fields : Fields) :
    Action Unit := do
  match logger.record? (← get).levels level message fields with
  | .error e => throw e
  | .ok none => pure ()
  | .ok (some record) => modify fun s => { s with records := record :: s.records }

/-- The names that a report has for the logger, the level and the message. Fields cannot have
them. -/
def reportNames : List String := ["target", "level", "message"]

/-- Reports an event with fields of any names to what is offered as a logger. -/
def report (logger : Option Logger) (level : Level) (message : String) (fields : Fields) :
    Action Unit :=
  if fields.any fun f => reportNames.contains f.1 then throw .wrongKind
  else
    match logger with
    | some logger => logEvent logger level message fields
    | none => throw .noAttribute

end Mustache
