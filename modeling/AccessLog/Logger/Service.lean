import AccessLog.Logger.Session

/-!
A service: one logger and its open sessions, each known by a name. Events of different sessions may
come in any order; the clocks move between them.
-/
namespace AccessLog

structure Service where
  logger : Logger
  shared : Shared
  sessions : List (String × Session) := []

namespace Service

inductive Event where
  | clock (reading : Double)
  | date (now : ZonedTime)
  | arrive (name : String) (scope : Scope) (queue : List (Except Fault Message))
  | act (name : String) (action : Action)

def session? (v : Service) (name : String) : Option Session := v.sessions.lookup name

/-- A session takes the place of an earlier one of its name. -/
def put (v : Service) (name : String) (x : Session) : Service :=
  { v with sessions := (name, x) :: v.sessions.filter (·.1 ≠ name) }

/-- What happened, told of a session if the event belongs to one. -/
structure Report where
  effects : List Effect := []
  sent : List Message := []
  reply : Reply := .nothing
  session : Option Session := none

def adopt (v : Service) (name : String) (s : Step) : Service × Report :=
  ({ v with shared := s.shared }.put name s.session,
    { effects := s.effects, sent := s.sent, reply := s.reply, session := some s.session })

def step (v : Service) : Event → Service × Report
  | .clock reading =>
    ({ v with shared := { v.shared with moment := { v.shared.moment with clock := reading } } }, {})
  | .date now =>
    ({ v with shared := { v.shared with moment := { v.shared.moment with date := now } } }, {})
  | .arrive name scope queue => v.adopt name (Session.arrive v.logger v.shared scope queue)
  | .act name action =>
    match v.session? name with
    | some x => v.adopt name (x.step v.logger v.shared action)
    | none => (v, {})

def run (v : Service) : List Event → List Report
  | [] => []
  | e :: es =>
    let (v, report) := v.step e
    report :: run v es

end Service

end AccessLog
