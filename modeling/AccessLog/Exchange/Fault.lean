import AccessLog.Calendar
import AccessLog.Exchange.Reason

/-!
What can go wrong during an exchange: errors that the application or the server raises, and the
logger's own. An ordinary error can be handled; an interruption ends the exchange whatever the
application does.
-/
namespace AccessLog

inductive FailureKind where
  | runtime | value | undecodable | key | type | general
  | os | connectionReset | brokenPipe | timeout
  | http
  | interrupt | cancelled
  deriving DecidableEq, Repr

namespace FailureKind

/-- The transport to the client is gone. -/
def isTransport : FailureKind → Bool
  | os | connectionReset | brokenPipe | timeout => true
  | _ => false

def isOrdinary : FailureKind → Bool
  | interrupt | cancelled => false
  | _ => true

def name : FailureKind → String
  | runtime => "RuntimeError"
  | value => "ValueError"
  | undecodable => "UnicodeDecodeError"
  | key => "KeyError"
  | type => "TypeError"
  | general => "Exception"
  | os => "OSError"
  | connectionReset => "ConnectionResetError"
  | brokenPipe => "BrokenPipeError"
  | timeout => "TimeoutError"
  | http => "chrona.middleware.error_handler.HTTPError"
  | interrupt => "KeyboardInterrupt"
  | cancelled => "asyncio.exceptions.CancelledError"

end FailureKind

/-- An error raised outside the logger. The two statuses are whatever its maker attached. -/
structure Failure where
  kind : FailureKind
  message : String
  statusCode : Option Datum
  status : Option Datum
  cause : Option Failure

namespace Failure

def simple (kind : FailureKind) (message : String) : Failure := ⟨kind, message, none, none, none⟩

/-- A missing key is told by its quoted name, and a cancellation tells nothing. -/
def text (f : Failure) : String :=
  match f.kind with
  | .key => Text.quoted f.message
  | .cancelled => ""
  | _ => f.message

def headline (f : Failure) : String :=
  if f.text = "" then f.kind.name else f.kind.name ++ ": " ++ f.text

def causeText : String :=
  "\n\nThe above exception was the direct cause of the following exception:\n\n"

/-- Causes first, each a paragraph of its own. -/
def report : Failure → String
  | ⟨kind, message, statusCode, status, none⟩ => headline ⟨kind, message, statusCode, status, none⟩
  | ⟨kind, message, statusCode, status, some c⟩ =>
    report c ++ causeText ++ headline ⟨kind, message, statusCode, status, some c⟩

end Failure

inductive Fault where
  | raised (failure : Failure)
  | untyped
  | badVersion (e : IntegerFault)
  | unwritable (e : WritingFault)
  | arithmetic (e : ArithmeticFault)
  | calendar (e : CalendarFault)

namespace Fault

def message : Fault → String
  | raised f => f.text
  | untyped => Text.quoted "type"
  | badVersion e => e.message
  | unwritable e => e.message
  | arithmetic e => e.message
  | calendar e => e.message

def isOrdinary : Fault → Bool
  | raised f => f.kind.isOrdinary
  | _ => true

def isTransport : Fault → Bool
  | raised f => f.kind.isTransport
  | _ => false

def isCancelled : Fault → Bool
  | raised f => f.kind = .cancelled
  | _ => false

/-- The status that came with the error: the first of its two that says anything. -/
def status? : Fault → Option Datum
  | raised f => (f.statusCode.filter Datum.truthy) <|> f.status
  | _ => none

end Fault

end AccessLog
