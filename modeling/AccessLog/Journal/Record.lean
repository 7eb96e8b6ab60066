import AccessLog.Calendar
import AccessLog.Exchange.Fault
import AccessLog.Journal.Directive
import AccessLog.Journal.Level
import AccessLog.Json.Writer

/-!
Records of the journal and their two written forms: a coloured line for a developer, and a JSON
object on one line for a machine.
-/
namespace AccessLog

open Text (WideText wide)

/-- The name of the level is the one it had when the record was made. The message may hold
directives for the arguments. The exception is the report of the error that was at hand, if there
was one. -/
structure Record where
  level : Level
  levelName : WideText
  source : WideText
  message : WideText
  arguments : List Datum := []
  exception : Option WideText := none

inductive RecordFault where
  | calendar (e : CalendarFault)
  | directive (e : Directive.Fault)
  deriving DecidableEq

/-- The written form of a journal. -/
inductive Style where
  | developer
  | machine
  deriving DecidableEq, Repr

namespace Record

/-- The colour that goes with the name of a level; other names have none. -/
def levelColor (name : WideText) : String :=
  if name = wide "DEBUG" then "\x1b[36m"
  else if name = wide "INFO" then "\x1b[32m"
  else if name = wide "WARNING" then "\x1b[33m"
  else if name = wide "ERROR" then "\x1b[31m"
  else if name = wide "CRITICAL" then "\x1b[1;31m"
  else "\x1b[0m"

/-- Level names are padded to eight code points. -/
def levelCell (name : WideText) : WideText := name.rightpad 8 (.char ' ')

def developerText (r : Record) (now : UtcTime) (message : WideText) : WideText :=
  wide (levelColor r.levelName ++ now.clockText ++ " [") ++ levelCell r.levelName ++
    wide "]\x1b[0m " ++ r.source ++ wide ": " ++ message ++
    match r.exception with
    | some e => wide "\n" ++ e
    | none => []

/-- What a line says, by name. -/
def texts (r : Record) (now : UtcTime) (message : WideText) : List (String × WideText) :=
  [("timestamp", wide now.recordText), ("level", r.levelName), ("logger", r.source),
    ("message", message)] ++ r.exception.toList.map fun e => ("exception", e)

def machineText (r : Record) (now : UtcTime) (message : WideText) : String :=
  Json.object Json.spaced ((r.texts now message).map fun m => (wide m.1, Json.quoted m.2))

def text (r : Record) (style : Style) (now : UtcTime) (message : WideText) : WideText :=
  match style with
  | .developer => r.developerText now message
  | .machine => r.machineText now message

/-- The text of a record at a clock time somewhere in the world. -/
def render (r : Record) (style : Style) (now : ZonedTime) : Except RecordFault WideText := do
  let utc ← now.toUtc.mapError .calendar
  let message ← (Directive.expand r.message r.arguments).mapError .directive
  return r.text style utc message

end Record

end AccessLog
