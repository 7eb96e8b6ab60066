import AccessLog.Number.Decimal

/-!
Levels of diagnostics: whole numbers, six of which have names. The higher the level, the more urgent
the message.
-/
namespace AccessLog

abbrev Level := Int

/-- The levels with names. -/
inductive Severity where
  | unset | debug | info | warning | error | critical
  deriving DecidableEq, Repr

namespace Severity

def all : List Severity := [critical, error, warning, info, debug, unset]

def level : Severity → Level
  | unset => 0
  | debug => 10
  | info => 20
  | warning => 30
  | error => 40
  | critical => 50

def name : Severity → String
  | unset => "NOTSET"
  | debug => "DEBUG"
  | info => "INFO"
  | warning => "WARNING"
  | error => "ERROR"
  | critical => "CRITICAL"

end Severity

namespace Level

/-- A level without a name is told by its number. -/
def text (level : Level) : Except WritingFault String :=
  match Severity.all.find? (·.level = level) with
  | some s => .ok s.name
  | none => (Decimal.written level).map ("Level " ++ ·)

/-- Names that are read but never written. -/
def otherNames : List (String × Severity) := [("WARN", .warning), ("FATAL", .critical)]

/-- The level of exactly that name. -/
def ofName? (name : String) : Option Level :=
  (Severity.all.find? (·.name = name) <|> otherNames.lookup name).map Severity.level

theorem text_level (s : Severity) : text s.level = .ok s.name := by cases s <;> rfl

/-- The level from which on messages pass: level 0 leaves it at warnings. -/
def threshold (level : Level) : Level := if level = 0 then Severity.warning.level else level

end Level

end AccessLog
