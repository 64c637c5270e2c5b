import ActionFlow.Value

/-!
# Log records

A record carries a level, a message, the correlation id that was bound when it was made
and further fields. The usual levels have names; any other is named by its number.
-/

namespace ActionFlow.Log

/-- The weight of a record; a record of a higher level weighs more. -/
abbrev Level : Type := Int

namespace Level

/-- Details for the search for faults. -/
def debug : Level := 10

/-- The ordinary course of things. -/
def info : Level := 20

/-- Something unexpected that does no harm yet. -/
def warning : Level := 30

/-- A failure. -/
def error : Level := 40

/-- A failure of the whole program. -/
def critical : Level := 50

/-- The name of a level. -/
def label (level : Level) : String :=
  if level = debug then "DEBUG"
  else if level = info then "INFO"
  else if level = warning then "WARNING"
  else if level = error then "ERROR"
  else if level = critical then "CRITICAL"
  else "Level " ++ toString level

end Level

/-- A record of the log. -/
structure Record where
  /-- The weight of the record. -/
  level : Level
  /-- What happened. -/
  message : String
  /-- The correlation id bound at the time. -/
  correlation : Value
  /-- Further fields. -/
  extra : Fields

end ActionFlow.Log
