import Mustache.Log.Message

/-!
# Logging

The library reports what it does as events: a message with named fields. Loggers have dotted names
and form a hierarchy; a logger without a level of its own has that of the nearest logger above it.
A logger may be wrapped in adapters, which rewrite the message or attach further attributes.

## Main definitions

* `Mustache.Level` — the levels.
* `Mustache.Adapter`, `Mustache.Logger` — a named logger in its adapters.
* `Mustache.Levels.effective` — the level that applies to a logger.
* `Mustache.Logger.emission?` — what a logger hands out for an event.
* `Mustache.Logger.record?` — the record that is kept of it.
-/

namespace Mustache

/-- How severe an event is, or has to be for a logger to take it. -/
structure Level where
  rank : Int
  deriving DecidableEq, Repr, Inhabited

namespace Level

/-- No level: a logger has that of the loggers above it, and events are not taken. -/
def unset : Level := ⟨0⟩

def debug : Level := ⟨10⟩

def info : Level := ⟨20⟩

def warning : Level := ⟨30⟩

def error : Level := ⟨40⟩

def critical : Level := ⟨50⟩

/-- The levels that have names, from the least to the most severe. -/
def names : List (Level × String) :=
  [(unset, "NOTSET"), (debug, "DEBUG"), (info, "INFO"), (warning, "WARNING"), (error, "ERROR"),
    (critical, "CRITICAL")]

/-- Further names of levels. -/
def otherNames : List (Level × String) := [(warning, "WARN"), (critical, "FATAL")]

/-- The name of a level. One that has none is named by its number. -/
def name (l : Level) : String := (names.lookup l).getD ("Level " ++ toString l.rank)

/-- The level with a name. -/
def ofName? (s : String) : Option Level :=
  ((names ++ otherNames).find? fun e => e.2 == s).map Prod.fst

end Level

/-- Which of two attributes of one name is kept when an adapter adds its own to those of an
event. -/
inductive Precedence where
  | adapter
  | event
  deriving DecidableEq, Repr, Inhabited

/-- What wraps a logger. -/
inductive Adapter where
  /-- Attaches its own attributes in place of those of the event. -/
  | replacing (extra : Fields)
  /-- Rewrites the message and adds its own attributes to those of the event. -/
  | rewriting (typeName : String) (rewrite : String → String) (precedence : Precedence)
    (extra : Fields)
  deriving Inhabited

/-- The name of the kind of adapter. -/
def Adapter.typeName : Adapter → String
  | replacing _ => "LoggerAdapter"
  | rewriting typeName _ _ _ => typeName

/-- A named logger in its adapters, the outermost first. -/
structure Logger where
  name : String
  adapters : List Adapter
  deriving Inhabited

namespace Logger

/-- The logger of the library. -/
def own : Logger := ⟨"moustache", []⟩

/-- The name of the logger above all others. -/
def topName : String := "root"

/-- The logger with a name, in adapters. Without a name it is the one above all others. -/
def named (name : String) (adapters : List Adapter) : Logger :=
  ⟨if name == "" then topName else name, adapters⟩

/-- The name of the kind of logger. -/
def typeName (l : Logger) : String :=
  match l.adapters with
  | [] => if l.name == topName then "RootLogger" else "Logger"
  | a :: _ => a.typeName

end Logger

/-- The levels that have been set, by name of the logger. -/
abbrev Levels := List (String × Level)

namespace Levels

/-- The names of a logger and of those above it, from the logger upwards, as lists of parts. -/
def ancestry (name : String) : List String :=
  let parts := Text.fieldsOf '.' name
  (List.range parts.length).map fun n => ".".intercalate (parts.take (parts.length - n))

/-- The level of the logger above all others, as long as it has not been set. -/
def usual : Level := .warning

/-- The level that has been set for a logger itself. -/
def own? (levels : Levels) (name : String) : Option Level :=
  (List.lookup name levels).filter (· != .unset)

/-- The level that applies to a logger. -/
def effective (levels : Levels) (name : String) : Level :=
  ((ancestry name).findSome? levels.own?).getD ((List.lookup Logger.topName levels).getD usual)

/-- The levels with one of them set. -/
def set (levels : Levels) (name : String) (level : Level) : Levels := (name, level) :: levels

end Levels

/-- The attribute of a record that holds the fields of its event. -/
def fieldsAttribute : String := "moustache"

/-- The attributes that every record has, and which no event may overwrite. -/
def recordAttributes : List String :=
  ["message", "asctime", "name", "msg", "args", "levelname", "levelno", "pathname", "filename",
    "module", "exc_info", "exc_text", "stack_info", "lineno", "funcName", "created", "msecs",
    "relativeCreated", "thread", "threadName", "processName", "process"]

/-- Attributes with one added, which takes the place of those of the same name. -/
def Fields.put (acc : Fields) (e : String × Value) : Fields :=
  if acc.any fun x => x.1 == e.1 then acc.map fun x => if x.1 == e.1 then e else x
  else acc ++ [e]

/-- Attributes with others added, which take the place of those of the same name. -/
def Fields.merge (base more : Fields) : Fields := more.foldl Fields.put base

/-- The attributes besides the one that holds the fields of an event. -/
def Fields.others (extra : Fields) : Fields := extra.filter fun a => a.1 != fieldsAttribute

namespace Adapter

/-- The message as the adapter hands it on. -/
def rewrite : Adapter → String → String
  | replacing _, message => message
  | rewriting _ rewrite _ _, message => rewrite message

/-- The attributes as the adapter hands them on. -/
def attach : Adapter → Fields → Fields
  | replacing own, _ => own
  | rewriting _ _ .adapter own, extra => extra.merge own
  | rewriting _ _ .event own, extra => own.merge extra

/-- Message and attributes as the adapter hands them on. -/
def process (a : Adapter) (message : String) (extra : Fields) : String × Fields :=
  (a.rewrite message, a.attach extra)

end Adapter

/-- Message and attributes after all adapters, the outermost first. Whatever an adapter does, the
fields stay attached. -/
def processAll (fields : Fields) (message : String) (extra : Fields) :
    List Adapter → String × Fields
  | [] => (message, extra)
  | a :: as =>
    let (message, extra) := a.process message extra
    processAll fields message (extra.merge [(fieldsAttribute, fields.toValue)]) as

/-- What a logger hands out for an event, before its message is put into words. -/
structure Emission where
  level : Level
  logger : String
  /-- The message, in which references to fields may stand. -/
  message : String
  /-- What the references are to. Without it the message is left as it is. -/
  args : Option Fields
  /-- What has been attached. -/
  attributes : Fields
  deriving Inhabited

namespace Emission

/-- The fields of the event, as far as they are attached. -/
def fields? (e : Emission) : Option Value := e.attributes.lookup fieldsAttribute

/-- The attributes besides the fields. -/
def others (e : Emission) : Fields := e.attributes.others

/-- The message with its references replaced. -/
def wording (e : Emission) : Except Fault String :=
  match e.args with
  | none => .ok e.message
  | some fields => formatMessage e.message fields

end Emission

/-- A record of an event. -/
structure Record extends Emission where
  /-- The message with the references to fields replaced. -/
  text : String
  deriving Inhabited

namespace Logger

/-- Whether the logger takes events of a level. -/
def takes (l : Logger) (levels : Levels) (level : Level) : Bool :=
  0 < level.rank && (levels.effective l.name).rank ≤ level.rank

/-- What the logger itself, without its adapters, hands out. It refuses attributes that would
overwrite one that every record has. -/
def emit (l : Logger) (levels : Levels) (level : Level) (message : String) (args : Option Fields)
    (attributes : Fields) : Except Fault (Option Emission) :=
  if !l.takes levels level then .ok none
  else
    match attributes.find? fun a => recordAttributes.contains a.1 with
    | some a =>
      .error (.noKey (.text ("Attempt to overwrite " ++ Text.quoted a.1 ++ " in LogRecord")))
    | none => .ok (some { level, logger := l.name, message, args, attributes })

/-- What references in the message of an event are to: its fields, if it has any. -/
def argsOf (fields : Fields) : Option Fields := if fields.isEmpty then none else some fields

/-- What the logger hands out for an event, if it takes it. -/
def emission? (l : Logger) (levels : Levels) (level : Level) (message : String) (fields : Fields) :
    Except Fault (Option Emission) :=
  if !l.takes levels level then .ok none
  else
    let (message, extra) :=
      processAll fields message [(fieldsAttribute, fields.toValue)] l.adapters
    l.emit levels level message (argsOf fields) extra

/-- Whether records are kept: those of the library's own logger and of the loggers below it. -/
def isKept (l : Logger) : Bool := l.name == own.name || l.name.startsWith (own.name ++ ".")

/-- The record of an event, if the logger takes it and its records are kept. -/
def record? (l : Logger) (levels : Levels) (level : Level) (message : String) (fields : Fields) :
    Except Fault (Option Record) :=
  match l.emission? levels level message fields with
  | .error e => .error e
  | .ok none => .ok none
  | .ok (some emission) =>
    if l.isKept then emission.wording.map fun text => some { emission with text } else .ok none

end Logger

end Mustache
