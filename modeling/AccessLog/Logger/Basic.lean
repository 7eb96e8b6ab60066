import AccessLog.Journal.Setup
import AccessLog.Plan.Cache
import AccessLog.Sink

/-!
A request logger: a format with a compiler for it, and a sink for the finished lines. Everything it
does outside is an effect, in order.
-/
namespace AccessLog

/-- A call of the sink, which may refuse the line, or text on the standard output. -/
inductive Effect where
  | called (line : Rendered) (accepted : Bool)
  | printed (text : Text.WideText)
  deriving DecidableEq

/-- `refuses` tells the faults of the recorder by the number of its call. -/
structure Logger where
  format : String
  compiler : Compiler
  sink : Sink
  journal : Journal
  refuses : Nat → Option Fault

/-- What all exchanges of a logger share. -/
structure Shared where
  plans : PlanCache Plan
  moment : Moment
  calls : Nat := 0

/-- An outcome with the effects on the way to it. -/
structure Turn (α : Type) where
  shared : Shared
  effects : List Effect
  value : α

namespace Logger

def print (text : Text.WideText) : List Effect := if text = [] then [] else [.printed text]

def announce (g : Logger) (s : Shared) (notices : List Notice) : List Effect :=
  notices.flatMap fun n => print (g.journal.notice s.moment.date n)

/-- The plan of the logger's format, compiled where it is not at hand. -/
def plan (g : Logger) (s : Shared) : Turn Plan :=
  let wanted : Retrieval Empty Plan := g.compiler.cached g.format
  let run := wanted.run s.plans
  { shared := { s with plans := run.cache }
    effects := g.announce s run.notices
    value := match run.result with
      | .ok plan => plan
      | .error e => nomatch e }

/-- The journal takes a line as a message of its own source. -/
def accessText (g : Logger) (s : Shared) (line : Rendered) : Text.WideText :=
  g.journal.print s.moment.date .info "chrona.access" line.line

/-- Hands a line to the sink; the value is the sink's fault, if it has one. -/
def deliver (g : Logger) (s : Shared) (line : Rendered) : Turn (Option Fault) :=
  match g.sink with
  | .recorder =>
    let fault := g.refuses s.calls
    ⟨{ s with calls := s.calls + 1 }, [.called line fault.isNone], fault⟩
  | .stdout => ⟨s, [.called line true, .printed (line.line ++ "\n")], none⟩
  | .journal =>
    ⟨s, .called line true :: print (g.accessText s line), none⟩
  | .named _ => ⟨s, [.called line true], none⟩

end Logger

end AccessLog
