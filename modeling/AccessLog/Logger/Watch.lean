import AccessLog.Latch
import AccessLog.Logger.Basic

/-!
Watching one exchange. The request line is written before the application runs. The response line
is written at the first sign that the exchange is over: the last piece of the body went out, the
client went away, or the application failed.
-/
namespace AccessLog

structure Watch where
  plan : Plan
  request : Request
  response : Response := {}
  latch : Latch Outcome := Latch.armed

namespace Watch

/-- The exchange as its response line shows it. `start` is the start time that the application has
left in place. -/
def context (w : Watch) (start : Option Double) (outcome : Outcome) (error : Option Fault) :
    Context :=
  { request := w.request
    response := w.response
    error := error
    start := start
    outcome := some outcome }

/-- Writes a line; the value is the fault that kept it from being written. -/
def emit (g : Logger) (s : Shared) (plan : Plan) (phase : Phase) (c : Context) :
    Turn (Option Fault) :=
  match plan.render phase s.moment c with
  | .ok line => g.deliver s line
  | .error e => ⟨s, [], some e⟩

/-- A sign that the exchange is over. Only the first one writes the response line. -/
def complete (g : Logger) (s : Shared) (w : Watch) (start : Option Double) (outcome : Outcome)
    (error : Option Fault) : Turn (Watch × Option Fault) :=
  match w.latch.trip outcome with
  | (_, false) => ⟨s, [], (w, none)⟩
  | (latch, true) =>
    let turn := emit g s w.plan .response (w.context start outcome error)
    ⟨turn.shared, turn.effects, ({ w with latch }, turn.value)⟩

/-- A request arrives. -/
def start? (g : Logger) (s : Shared) (scope : Scope) : Turn (Except Fault Watch) :=
  let turn := g.plan s
  match scope.request with
  | .error e => ⟨turn.shared, turn.effects, .error e⟩
  | .ok request =>
    let line := emit g turn.shared turn.value .request { request, start := some s.moment.clock }
    ⟨line.shared, turn.effects ++ line.effects,
      match line.value with
      | some e => .error e
      | none => .ok { plan := turn.value, request }⟩

/-- The application waits for a message and is given the reply, unless the watch fails on it. -/
def receive (g : Logger) (s : Shared) (w : Watch) (start : Option Double)
    (reply : Except Fault Message) : Turn (Watch × Except Fault Message) :=
  match reply with
  | .error e => ⟨s, [], (w, .error e)⟩
  | .ok m =>
    if !m.isTyped then ⟨s, [], (w, .error .untyped)⟩
    else if m.isKind Message.disconnect then
      let turn := complete g s w start .close none
      ⟨turn.shared, turn.effects, (turn.value.1,
        match turn.value.2 with
        | some e => .error e
        | none => .ok m)⟩
    else ⟨s, [], (w, .ok m)⟩

/-- The application sends a message. The value tells whether the server has it, and the fault that
the application sees. A transport that fails is a sign that the client has gone. -/
def send (g : Logger) (s : Shared) (w : Watch) (start : Option Double) (m : Message)
    (refusal : Option Fault) : Turn (Watch × Bool × Option Fault) :=
  match w.response.observe m with
  | .error e => ⟨s, [], (w, false, some e)⟩
  | .ok response =>
    let w := { w with response }
    match refusal with
    | some e =>
      if e.isTransport then
        let turn := complete g s w start .close none
        ⟨turn.shared, turn.effects, (turn.value.1, false, turn.value.2 <|> some e)⟩
      else ⟨s, [], (w, false, some e)⟩
    | none =>
      if m.endsBody then
        let turn := complete g s w start .finish none
        ⟨turn.shared, turn.effects, (turn.value.1, true, turn.value.2)⟩
      else ⟨s, [], (w, true, none)⟩

/-- A fault leaves the application. The value is the fault that leaves the logger. -/
def unwind (g : Logger) (s : Shared) (w : Watch) (start : Option Double) (fault : Fault) :
    Turn (Watch × Fault) :=
  if fault.isCancelled then
    let turn := complete g s w start .close none
    ⟨turn.shared, turn.effects, (turn.value.1, turn.value.2.getD fault)⟩
  else if fault.isOrdinary then
    let turn := complete g s w start .finish (some fault)
    ⟨turn.shared, turn.effects, (turn.value.1, turn.value.2.getD fault)⟩
  else ⟨s, [], (w, fault)⟩

end Watch

end AccessLog
