import AccessLog.Datum

/-!
Sinks: where finished lines go, and how the caller's wish for one is understood. A wish may be a
sink, or something that carries one as its `transporter`.
-/
namespace AccessLog

/-- The places a line can go to. A named one belongs to the caller. -/
inductive Sink where
  | stdout
  | journal
  | named (name : String)
  | recorder
  deriving DecidableEq, Repr

/-- What the caller may hand over: a function, which may carry attributes, an object with
attributes, a mapping, or any other value. -/
inductive Sink.Wish where
  | function (sink : Sink)
  | object (attributes : List (String × Sink.Wish))
  | mapping (entries : List (String × Sink.Wish))
  | plain (value : Datum)

/-- What was found in the place of a sink. -/
structure SinkFault where
  kind : String
  deriving DecidableEq

def SinkFault.message (e : SinkFault) : String := "transporter must be callable, got " ++ e.kind

namespace Sink

def carrier : String := "transporter"

namespace Wish

def kindName : Wish → String
  | function _ => "function"
  | object _ => "SimpleNamespace"
  | mapping _ => "dict"
  | plain value => value.kindName

/-- What a wish that is no function carries. -/
def carried? : Wish → Option Wish
  | function _ => none
  | object attributes => attributes.lookup carrier
  | mapping entries => entries.lookup carrier
  | plain value => (value.field? carrier).map plain

end Wish

/-- The sink that a wish stands for, or `default` where it names none. -/
def resolve (wish : Wish) (default : Sink) : Except SinkFault Sink :=
  match wish with
  | .function sink => .ok sink
  | wish =>
    match wish.carried? with
    | none | some (.plain .null) => .ok default
    | some (.function sink) => .ok sink
    | some other => .error ⟨other.kindName⟩

end Sink

end AccessLog
