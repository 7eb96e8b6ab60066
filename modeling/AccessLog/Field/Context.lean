import AccessLog.Exchange.Request
import AccessLog.Exchange.Response

/-!
What one line is rendered from: the exchange so far, and the moment of rendering.
-/
namespace AccessLog

/-- How an exchange came to its end: the last piece of the body was sent, or the client went away
before. -/
inductive Outcome where
  | finish
  | close
  deriving DecidableEq, Repr

/-- The readings of the stopwatch, in seconds, and of the wall clock. -/
structure Moment where
  clock : Double
  date : ZonedTime

structure Context where
  request : Request
  response : Response := {}
  error : Option Fault := none
  start : Option Double := none
  outcome : Option Outcome := none

namespace Context

/-- The same exchange at its end. A new error takes the place of an old one. -/
def forResponse (c : Context) (outcome : Outcome) (error : Option Fault) : Context :=
  { c with error := error <|> c.error, outcome := some outcome }

end Context

/-- A finished line, and the field values that it was built from. -/
structure Rendered where
  line : String
  args : List String
  deriving DecidableEq

end AccessLog
