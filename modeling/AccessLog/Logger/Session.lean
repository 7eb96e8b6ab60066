import AccessLog.Logger.Watch

/-!
Sessions: connections that an application serves, one step at a time. A session whose connection is
no HTTP request is not watched, and every step of it passes through unchanged.
-/
namespace AccessLog

/-- How the application came to its end. -/
inductive Ending where
  | returned
  | raised (fault : Fault)
  | abandoned

/-- `scope` is what the application is told of its connection, and `start` the start time as it finds
it there, to be changed or taken away. `queue` holds what the server will answer when it is asked for
messages. -/
structure Session where
  watch : Option Watch
  scope : Scope
  queue : List (Except Fault Message)
  start : Option Double := none
  ending : Option Ending := none

/-- The faults of its own calls after which an application goes on. -/
structure Handler where
  handles : Fault → Bool

/-- As a flag: all ordinary faults, or none. -/
instance : Coe Bool Handler := ⟨fun catches => ⟨fun e => catches && e.isOrdinary⟩⟩

/-- What an application may do. -/
inductive Action where
  | receive (handler : Handler)
  | send (message : Message) (refusal : Option Fault) (handler : Handler)
  | raise (fault : Fault)
  | leave
  | abandon
  | setStart (value : Option Double)
  | shiftStart (amount : Double)
  | removeStart

/-- What the application got from a call. -/
inductive Reply where
  | nothing
  | got (message : Message)
  | caught (fault : Fault)

/-- One step: what it does outside, what the server was sent, and what the application got. -/
structure Step where
  shared : Shared
  effects : List Effect := []
  session : Session
  sent : List Message := []
  reply : Reply := .nothing

namespace Step

/-- What had happened before the step belongs to it. -/
def after (effects : List Effect) (sent : List Message) (step : Step) : Step :=
  { step with effects := effects ++ step.effects, sent := sent ++ step.sent }

end Step

namespace Session

/-- The next answer of the server. A server with nothing left says that the client has gone. -/
def nextReply (x : Session) : Except Fault Message × Session :=
  match x.queue with
  | [] => (.ok Message.gone, x)
  | m :: ms => (m, { x with queue := ms })

/-- A fault that the application does not catch ends the session. -/
def fail (g : Logger) (s : Shared) (x : Session) (fault : Fault) : Step :=
  match x.watch with
  | none => { shared := s, session := { x with ending := some (.raised fault) } }
  | some w =>
    let turn := w.unwind g s x.start fault
    { shared := turn.shared
      effects := turn.effects
      session := { x with
        watch := some turn.value.1
        ending := some (.raised turn.value.2) } }

/-- A call of the application that has failed. -/
def answerFault (g : Logger) (s : Shared) (x : Session) (handler : Handler) (fault : Fault) :
    Step :=
  if handler.handles fault then { shared := s, session := x, reply := .caught fault }
  else x.fail g s fault

def receive (g : Logger) (s : Shared) (x : Session) (handler : Handler) : Step :=
  let (reply, x) := x.nextReply
  let turn : Turn (Option Watch × Except Fault Message) :=
    match x.watch with
    | none => ⟨s, [], (none, reply)⟩
    | some w =>
      let turn := w.receive g s x.start reply
      ⟨turn.shared, turn.effects, (some turn.value.1, turn.value.2)⟩
  let x := { x with watch := turn.value.1 }
  match turn.value.2 with
  | .ok m => { shared := turn.shared, effects := turn.effects, session := x, reply := .got m }
  | .error e => (x.answerFault g turn.shared handler e).after turn.effects []

def send (g : Logger) (s : Shared) (x : Session) (m : Message) (refusal : Option Fault)
    (handler : Handler) : Step :=
  let turn : Turn (Option Watch × Bool × Option Fault) :=
    match x.watch with
    | none => ⟨s, [], (none, refusal.isNone, refusal)⟩
    | some w =>
      let turn := w.send g s x.start m refusal
      ⟨turn.shared, turn.effects, (some turn.value.1, turn.value.2)⟩
  let x := { x with watch := turn.value.1 }
  let sent := if turn.value.2.1 then [m] else []
  match turn.value.2.2 with
  | none => { shared := turn.shared, effects := turn.effects, session := x, sent }
  | some e => (x.answerFault g turn.shared handler e).after turn.effects sent

/-- One step of the application. Nothing happens in a session that has ended. -/
def step (g : Logger) (s : Shared) (x : Session) (a : Action) : Step :=
  if x.ending.isSome then { shared := s, session := x }
  else
    match a with
    | .receive handler => x.receive g s handler
    | .send m refusal handler => x.send g s m refusal handler
    | .raise fault => x.fail g s fault
    | .leave => { shared := s, session := { x with ending := some .returned } }
    | .abandon => { shared := s, session := { x with ending := some .abandoned } }
    | .setStart value => { shared := s, session := { x with start := value } }
    | .shiftStart amount =>
      { shared := s, session := { x with start := x.start.map (·.add amount) } }
    | .removeStart => { shared := s, session := { x with start := none } }

/-- An application that serves a connection by itself. -/
def alone (scope : Scope) (queue : List (Except Fault Message)) (start : Option Double) : Session :=
  { watch := none, scope, queue, start }

/-- A connection arrives, with what the server has in store for it. -/
def arrive (g : Logger) (s : Shared) (scope : Scope) (queue : List (Except Fault Message)) :
    Step :=
  if scope.kind.isNone then
    { shared := s, session := { alone scope queue none with ending := some (.raised .untyped) } }
  else if scope.isHttp then
    let turn := Watch.start? g s scope
    let x := alone scope queue (some s.moment.clock)
    { shared := turn.shared
      effects := turn.effects
      session := match turn.value with
        | .ok w => { x with watch := some w }
        | .error e => { x with ending := some (.raised e) } }
  else { shared := s, session := alone scope queue none }

/-- The steps of an application. Each move is an action and what is shared when it is taken: between
two of them the clocks go on, and other sessions of the logger take their own. -/
def run (g : Logger) (x : Session) : List (Shared × Action) → List Step
  | [] => []
  | (s, a) :: moves =>
    let step := x.step g s a
    step :: run g step.session moves

/-- The session after such steps. -/
def after (g : Logger) (x : Session) : List (Shared × Action) → Session
  | [] => x
  | (s, a) :: moves => after g (x.step g s a).session moves

end Session

end AccessLog
