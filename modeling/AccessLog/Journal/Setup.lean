import AccessLog.Journal.Directive
import AccessLog.Journal.Notice
import AccessLog.Journal.Record
import AccessLog.Settings

/-!
The journal: where diagnostics are written. It is set up from the settings when it is first used,
and stays as it is from then on, even when that first time failed.
-/
namespace AccessLog

open Text (WideText wide)

/-- Messages from `threshold` on are written, in the style if there is one. -/
structure Journal where
  ready : Bool := false
  threshold : Level := Severity.warning.level
  style : Option Style := none
  deriving DecidableEq

inductive JournalFault where
  | settings (complaints : List Settings.Complaint)
  | unknownLevel (name : String)
  deriving DecidableEq

namespace Journal

/-- Sources that are not below the program's own name are put there. -/
def sourceName (name : String) : String :=
  if name = "chrona" ∨ "chrona.".isPrefixOf name then name else "chrona." ++ name

def styleOf (s : Settings) : Style := if s.isDevelopment then .developer else .machine

/-- Bad settings leave the journal to be set up later; an unknown level leaves it mute. -/
def setUp (j : Journal) (settings : Except (List Settings.Complaint) Settings) :
    Journal × Except JournalFault Unit :=
  match settings with
  | .error complaints => (j, .error (.settings complaints))
  | .ok s =>
    if j.ready then (j, .ok ())
    else
      let name := Text.capitals s.logLevel
      match Level.ofName? name with
      | none => ({ j with ready := true }, .error (.unknownLevel name))
      | some level => (⟨true, level.threshold, some (styleOf s)⟩, .ok ())

/-- The journal of fresh settings. -/
def ofSettings (s : Settings) : Except JournalFault Journal :=
  match setUp {} (.ok s) with
  | (j, .ok ()) => .ok j
  | (_, .error e) => .error e

/-- What a record adds to the output: nothing below the threshold, and nothing where it cannot be
written out. -/
def write (j : Journal) (now : ZonedTime) (r : Record) : WideText :=
  match j.style with
  | none => []
  | some style =>
    if r.level < j.threshold then []
    else
      match r.render style now with
      | .ok text => text ++ wide "\n"
      | .error _ => []

/-- What a message of any level adds to the output. Below the threshold no record is made, and the
level need not have a name. -/
def log (j : Journal) (now : ZonedTime) (level : Level) (source message : WideText)
    (arguments : List Datum) : Except WritingFault WideText :=
  if level < j.threshold then .ok []
  else do return j.write now { level, levelName := ← level.text, source, message, arguments }

/-- What a message of a named level adds to the output, if it has no arguments. The level is told
by its name, as in `log` (`Level.text_level`). -/
def print (j : Journal) (now : ZonedTime) (s : Severity) (source message : String) : WideText :=
  j.write now { level := s.level, levelName := s.name, source, message }

def notice (j : Journal) (now : ZonedTime) (n : Notice) : WideText :=
  match n.text with
  | .ok text => j.print now n.severity n.source text
  | .error _ => []

end Journal

def JournalFault.message : JournalFault → String
  | .settings _ => ""
  | .unknownLevel name => "Unknown level: " ++ Text.quoted name

end AccessLog
