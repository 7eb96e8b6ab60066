import AccessLog.Datum
import AccessLog.Exchange.Fault
import AccessLog.Headers

/-!
A response as the log sees it, filled in from the messages that pass by.
-/
namespace AccessLog

open Text (WideText)

/-- A status is a whole number. A flag is one as well, 1 or 0, and prints as the flag it is. -/
inductive Status where
  | code (n : Int)
  | flag (b : Bool)
  deriving DecidableEq

namespace Status

def value : Status → Int
  | code n => n
  | flag b => if b then 1 else 0

def text : Status → Except WritingFault String
  | code n => Decimal.written n
  | flag b => .ok (Datum.flagText b)

def toDatum : Status → Datum
  | code n => .whole n
  | flag b => .flag b

def ofDatum? : Datum → Option Status
  | .whole n => some (code n)
  | .flag b => some (flag b)
  | _ => none

/-- Zero is as good as no status. -/
def orElse (s : Option Status) (code : Int) : Status :=
  (s.filter (·.value ≠ 0)).getD (.code code)

end Status

namespace Message

def responseStart : String := "http.response.start"
def responseBody : String := "http.response.body"
def disconnect : String := "http.disconnect"

abbrev Fields := List (WideText × Datum)

namespace Fields

def get? (fs : Fields) (key : WideText) : Option Datum := fs.lookup key

def isKind (fs : Fields) (kind : WideText) : Bool :=
  match fs.get? "type" with
  | some (.text t) => t == kind
  | _ => false

/-- The start of a response has a number for its status, or none. -/
def statusFits (fs : Fields) : Bool :=
  !fs.isKind responseStart ||
    match fs.get? "status" with
    | none | some .null => true
    | some d => (Status.ofDatum? d).isSome

end Fields

end Message

/-- A message between application and server: its fields, in order. Fields that the log does not
know pass through untouched. -/
structure Message where
  fields : Message.Fields
  fits : fields.statusFits = true := by rfl

namespace Message

def field? (m : Message) (key : WideText) : Option Datum := m.fields.get? key

def isTyped (m : Message) : Bool := (m.field? "type").isSome

def isKind (m : Message) (kind : WideText) : Bool := m.fields.isKind kind

/-- The client has gone. -/
def gone : Message where
  fields := [("type", .text disconnect)]

def headerOf? : Datum → Option Header
  | .list [.text name, .text value] => some ⟨Octets.ofText name, Octets.ofText value⟩
  | _ => none

def headers (m : Message) : Headers :=
  match m.field? "headers" with
  | some (.list pairs) => pairs.filterMap headerOf?
  | _ => []

def status? (m : Message) : Option Status := (m.field? "status").bind Status.ofDatum?

/-- The last piece of a body. -/
def endsBody (m : Message) : Bool :=
  m.isKind responseBody && !((m.field? "more_body").map Datum.truthy).getD false

end Message

/-- What keeps a header from being set. -/
inductive HeaderFault where
  | unwritable (e : WritingFault)
  | unencodable (e : Unencodable)
  deriving DecidableEq

structure Response where
  status : Option Status := none
  headers : Headers := []

namespace Response

/-- A message that starts a response replaces status and headers; a message without a type is
refused, and any other changes nothing. -/
def observe (r : Response) (m : Message) : Except Fault Response :=
  if m.isTyped then .ok (if m.isKind Message.responseStart then ⟨m.status?, m.headers⟩ else r)
  else .error .untyped

/-- The value is written out before it is encoded. -/
def set (r : Response) (name : String) (value : Datum) : Except HeaderFault Response := do
  let text ← value.display.mapError .unwritable
  let headers ← (r.headers.set name text).mapError .unencodable
  return { r with headers }

/-- The status to report: that of the error, or 500 where it has none; without an error that of
the response, or 404 where none was sent. -/
def effectiveStatus (r : Response) (error : Option Fault) : Status :=
  match error with
  | some e => Status.orElse (e.status?.bind Status.ofDatum?) 500
  | none => Status.orElse r.status 404

end Response

end AccessLog
