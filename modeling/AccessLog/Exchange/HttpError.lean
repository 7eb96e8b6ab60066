import AccessLog.Exchange.Fault

/-!
Errors that carry the status the client should see. The page for a server error never tells the
message.
-/
namespace AccessLog

structure HttpError where
  status : Int
  message : String
  deriving DecidableEq

/-- The page shown to the client. -/
structure ErrorPage where
  status : Int
  error : String
  message : String
  deriving DecidableEq

namespace HttpError

def reason (e : HttpError) : String := Reason.ofCode e.status

/-- Without a message, or with an empty one, the reason phrase speaks. -/
def make (status : Int) (message : Option String) : HttpError :=
  ⟨status, (message.filter (· ≠ "")).getD (Reason.ofCode status)⟩

def badImplementation (message : Option String) : HttpError := make 500 message

def notFound (message : Option String) : HttpError := make 404 message

def isServer (e : HttpError) : Bool := 500 ≤ e.status

def page (e : HttpError) : ErrorPage :=
  ⟨e.status, e.reason,
    if e.isServer then "An internal server error occurred" else e.message⟩

/-- A server error shows the same page whatever its message. -/
theorem page_of_isServer {e : HttpError} (h : e.isServer) (message : String) :
    page { e with message } = page e := by
  have h' : isServer { e with message } := h
  rw [page, page, if_pos h, if_pos h']
  rfl

/-- Such an error as it is raised, whatever its maker took for a status. -/
def failure (status : Datum) (message : Option String) : Failure :=
  ⟨.http, (message.filter (· ≠ "")).getD (Reason.ofDatum status), some status, none, none⟩

def toFailure (e : HttpError) : Failure := ⟨.http, e.message, some (.whole e.status), none, none⟩

end HttpError

end AccessLog
