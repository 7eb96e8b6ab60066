import AccessLog.Field.Context
import AccessLog.Field.Elapsed
import AccessLog.Field.Size

/-!
The vocabulary of format strings: which tokens there are, in which of the two lines each one has a
value, and what that value is.
-/
namespace AccessLog

inductive Token where
  | incoming | method | url | date | remoteAddress | httpVersion
  | status | contentLength | responseTime | referrer | userAgent
  deriving DecidableEq, Repr

/-- The request line is written when an exchange starts, the response line when it ends. -/
inductive Phase where
  | request
  | response
  deriving DecidableEq, Repr

/-- The value of a field; a colour that comes with it beats the colour of the token. -/
structure FieldValue where
  text : String
  color : Option Color := none

namespace Token

def all : List Token :=
  [incoming, method, url, date, remoteAddress, httpVersion, status, contentLength, responseTime,
    referrer, userAgent]

def name : Token → String
  | incoming => "incoming"
  | method => "method"
  | url => "url"
  | date => "date"
  | remoteAddress => "remote-address"
  | httpVersion => "http-version"
  | status => "status"
  | contentLength => "content-length"
  | responseTime => "response-time"
  | referrer => "referrer"
  | userAgent => "user-agent"

/-- The token of exactly that name. -/
def ofName? (name : String) : Option Token := all.find? (·.name = name)

theorem ofName?_name (t : Token) : ofName? t.name = some t := by cases t <;> decide

theorem name_of_ofName? {s : String} {t : Token} (h : ofName? s = some t) : t.name = s := by
  simpa using List.find?_some h

/-- The data tokens of a line, in the order of their register. -/
def ofPhase : Phase → List Token
  | .request => [method, url, date, remoteAddress, referrer, userAgent, httpVersion]
  | .response => [method, url, date, status, contentLength, responseTime]

def color : Token → Color
  | method => .whiteBright
  | url => .magenta
  | _ => .gray

end Token

namespace Field

def statusColor (status : Int) : Color :=
  match Int.fdiv status 100 with
  | 1 | 2 => .green
  | 3 => .cyan
  | 4 => .yellow
  | 5 => .red
  | _ => .yellow

def date (moment : Moment) : Except Fault String :=
  match moment.date.toUtc with
  | .ok t => .ok t.accessText
  | .error e => .error (.calendar e)

/-- Statuses whose responses have no body. -/
def hasNoBody (status : Int) : Bool := status = 204 || status = 205 || status = 304

/-- The announced size: a dash where there is none to read, nothing where no body is due. -/
def contentLength (response : Response) (error : Option Fault) :
    Except ArithmeticFault String :=
  if hasNoBody (response.effectiveStatus error).value then .ok ""
  else
    match response.headers.field? "content-length" with
    | none => .ok "-"
    | some header =>
      match Integer.ofChars (Text.trim header.toList) with
      | .error _ => .ok "-"
      | .ok n => (Size.text n).map Text.smalls

/-- The value of a token that has one in either line. -/
def value (moment : Moment) (c : Context) : Token → Except Fault FieldValue
  | .incoming => .ok ⟨"", none⟩
  | .method => .ok ⟨c.request.method, none⟩
  | .url => .ok ⟨c.request.url, none⟩
  | .date => (date moment).map (⟨·, none⟩)
  | .remoteAddress => .ok ⟨c.request.clientAddress, none⟩
  | .httpVersion => (c.request.httpVersion.map (⟨·, none⟩)).mapError .unwritable
  | .referrer => .ok ⟨c.request.referrer, none⟩
  | .userAgent => .ok ⟨c.request.userAgent, none⟩
  | .status =>
    let s := c.response.effectiveStatus c.error
    (s.text.map (⟨·, some (statusColor s.value)⟩)).mapError .unwritable
  | .contentLength => ((contentLength c.response c.error).map (⟨·, none⟩)).mapError .arithmetic
  | .responseTime =>
    ((Elapsed.since c.start moment.clock).map fun v => ⟨v.text, some v.color⟩).mapError .arithmetic

end Field

end AccessLog
