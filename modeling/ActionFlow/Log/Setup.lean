import ActionFlow.Log.Record
import ActionFlow.Text.Quoted

/-!
# Writing the log

Once the log is set up for a service, records are written as JSON objects if their level
is positive and not below the one asked for. Further fields may not carry the names that
records use for themselves. A field that begins with a low line is not written, and one
that shares its name with a written field takes that field's place, the correlation id
excepted.
-/

namespace ActionFlow.Log

/-- The names that records use for themselves. -/
def ownNames : List String :=
  ["message", "asctime", "name", "msg", "args", "levelname", "levelno", "pathname", "filename",
    "module", "exc_info", "exc_text", "stack_info", "lineno", "funcName", "created", "msecs",
    "relativeCreated", "thread", "threadName", "processName", "process"]

/-- A further field has a name that records use for themselves. -/
structure NameTaken where
  /-- The name. -/
  name : String
deriving DecidableEq, Repr

/-- The wording of the refusal. -/
def NameTaken.message (e : NameTaken) : String :=
  Text.quote ("Attempt to overwrite " ++ Text.quote e.name ++ " in LogRecord")

/-- How the log is written. -/
structure Setup where
  /-- The least level that is written. -/
  level : Level
  /-- Whether records are written out; before the log is set up none is. -/
  written : Bool

namespace Setup

/-- The log before it is set up: records are made from the usual level on, and not written. -/
def initial : Setup := ⟨Level.info, false⟩

/-- Whether records of a level are made. -/
def admits (setup : Setup) (level : Level) : Bool := 0 < level && setup.level ≤ level

/-- The object written for a record of a named logger, with the time of the record. -/
def line (logger : String) (time : Value) (record : Record) : Fields :=
  let visible := record.extra.filter fun (key, _) => key.toList.head? != some '_'
  Keyed.set "correlation_id" record.correlation
    (Keyed.merge [("timestamp", time), ("logger", .text logger),
      ("level", .text record.level.label), ("message", .text record.message)] visible)

/-- The lines written for a record, or the refusal of its further fields. -/
def write (setup : Setup) (logger : String) (time : Value) (record : Record) :
    Except NameTaken (List Fields) :=
  if setup.admits record.level then
    match record.extra.find? fun (key, _) => ownNames.contains key with
    | some (key, _) => .error ⟨key⟩
    | none => .ok (if setup.written then [line logger time record] else [])
  else .ok []

/-- The name of the logger at the root. -/
def rootLogger : String := "root"

/-- The record with which a service announces that its log is set up. -/
def announcement (service : String) (correlation : Value) : Record :=
  ⟨Level.info, service ++ " logging configured", correlation, [("service", .text service)]⟩

/-- The log set up for writing from a level on. -/
def start (level : Level) : Setup := ⟨level, true⟩

end Setup

end ActionFlow.Log
