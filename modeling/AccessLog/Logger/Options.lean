import AccessLog.Logger.Basic

/-!
Making a logger. What the caller says counts; what is left open is taken from the settings.
-/
namespace AccessLog

/-- A compiler that is handed over brings its own presentation. -/
structure Options where
  format : Option String := none
  sink : Sink.Wish := .plain .null
  colors : Option Bool := none
  banner : Option Bool := none
  alwaysConnector : Option Bool := none
  compiler : Option Compiler := none

namespace Options

/-- An empty format is as good as none. -/
def chosenFormat (o : Options) (settings : Settings) : String :=
  (o.format.filter (· ≠ "")).getD settings.format

def chosenCompiler (o : Options) (settings : Settings) (terminal : Bool) : Compiler :=
  o.compiler.getD {
    colors := o.colors.getD (settings.colorsEnabled terminal)
    banner := o.banner.getD settings.banner
    alwaysConnector := o.alwaysConnector.getD settings.alwaysConnector }

/-- A compiler that is handed over has a cache without limit. -/
def cache (o : Options) (settings : Settings) : PlanCache Plan :=
  .empty (if o.compiler.isSome then 0 else settings.capacity)

def defaultSink (settings : Settings) : Sink :=
  match settings.sink with
  | .stdout => .stdout
  | .journal => .journal

end Options

namespace Logger

/-- A new logger, which compiles its format at once. -/
def create (settings : Settings) (terminal : Bool) (journal : Journal) (o : Options)
    (refuses : Nat → Option Fault) (moment : Moment) : Except SinkFault (Turn Logger) := do
  let sink ← Sink.resolve o.sink (Options.defaultSink settings)
  let g : Logger := {
    format := o.chosenFormat settings
    compiler := o.chosenCompiler settings terminal
    sink, journal, refuses }
  let turn := g.plan { plans := o.cache settings, moment }
  return ⟨turn.shared, turn.effects ++ g.announce turn.shared [.enabled g.format], g⟩

end Logger

end AccessLog
