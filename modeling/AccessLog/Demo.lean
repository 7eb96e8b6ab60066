import AccessLog.Exchange.HttpError
import AccessLog.Json.Writer
import AccessLog.Logger.Options
import AccessLog.Logger.Session
import AccessLog.Url

/-!
A small site to watch the logger at: one page for each kind of status, two that fail, and a health
page. Errors that carry a status become a page of their own inside the logger; any other fault
reaches the server, which shows its own page where nothing was sent yet.
-/
namespace AccessLog.Demo

open Text (WideText)

def format : String :=
  ":[date] :incoming :method :url :status :response-time :content-length " ++
    ":user-agent :http-version"

def version : String := "1.0.0"

structure Page where
  status : Int
  body : String
  /-- Whether the page announces its length. -/
  sized : Bool := true

/-- What a visit of a page leads to. -/
inductive Course where
  | page (p : Page)
  | data (status : Int) (value : Datum)
  | redirection
  | failure (e : HttpError)
  | crash (f : Failure)

def detail (status : Int) : Course :=
  .data status (.record [("detail", .text (Reason.ofCode status))])

def errorData (p : ErrorPage) : Datum :=
  .record [("statusCode", .whole p.status), ("error", .text p.error), ("message", .text p.message)]

def courses : List (String × Course) := [
  ("/200", .page ⟨200, "OK", true⟩),
  ("/301", .page ⟨301, "Moved Permanently", true⟩),
  ("/304", .page ⟨304, "", false⟩),
  ("/404", .page ⟨404, "Not Found", true⟩),
  ("/500", .page ⟨500, "Internal Server Error", true⟩),
  ("/500-boom", .failure (.badImplementation (some "Bad implementation"))),
  ("/error", .crash (.simple .runtime "Error")),
  ("/health", .data 200 (.record [("status", .text "ok"), ("version", .text version)]))]

def dropSlashes (path : String) : String :=
  String.ofList (path.toList.reverse.dropWhile (· = '/')).reverse

/-- A path may end with a line break. -/
def course? (path : String) : Option Course :=
  (courses.find? fun c => path = c.1 ∨ path = c.1 ++ "\n").map (·.2)

/-- Pages are only to be got; with slashes at its end, a path leads to the page without them. -/
def course (method path : String) : Course :=
  match course? path with
  | some c => if method = "GET" then c else detail 405
  | none =>
    if path.endsWith "/" && (course? (dropSlashes path)).isSome then .redirection
    else detail 404

/-- The page that sends the visitor on. -/
def redirectionPage : Page := ⟨307, "", true⟩

/-- The page of a server that was left alone with a fault. -/
def lastPage : Page := ⟨500, "Internal Server Error", true⟩

def messages (p : Page) : List Message :=
  let headers : List Datum :=
    if p.sized then
      [.list [.text "content-length", .text (Decimal.countText p.body.utf8ByteSize)]]
    else []
  [{ fields := [("type", .text Message.responseStart), ("status", .whole p.status),
      ("headers", .list headers)] },
    { fields := [("type", .text Message.responseBody), ("body", .text p.body)] }]

/-- What a visitor got, the fault that was left, and what happened meanwhile. -/
structure Visit where
  sent : List Message
  fault : Option Fault
  effects : List Effect

def faultOf (x : Session) : Option Fault :=
  match x.ending with
  | some (.raised e) => some e
  | _ => none

/-- Sends messages as long as nothing fails. -/
def sendAll (g : Logger) : Step → List Message → Step
  | before, [] => before
  | before, m :: ms =>
    sendAll g ((before.session.step g before.shared (.send m none false)).after before.effects
      before.sent) ms

/-- The application fails before it has answered. -/
def crash (g : Logger) (arrived : Step) (f : Failure) : Step :=
  (arrived.session.step g arrived.shared (.raise (.raised f))).after arrived.effects arrived.sent

/-- A page of data. Data that cannot be written is an error of the application. -/
def sendData (g : Logger) (before : Step) (status : Int) (value : Datum) : Step :=
  match Json.write Json.compact value with
  | .ok body => sendAll g before (messages ⟨status, body, true⟩)
  | .error fault => crash g before (.simple .value fault.message)

/-- The application's part of a visit. Redirections and notices need the address of the request,
which may be none. -/
def serve (g : Logger) (arrived : Step) (scope : Scope) : Step :=
  let method := scope.method.getD "GET"
  match course method (scope.path.getD "") with
  | .page p => sendAll g arrived (messages p)
  | .data status value => sendData g arrived status value
  | .redirection =>
    match Url.ofScope scope with
    | .error fault => crash g arrived fault.failure
    | .ok _ => sendAll g arrived (messages redirectionPage)
  | .failure e =>
    match (Url.ofScope scope).bind Url.readPath with
    | .error fault => crash g arrived fault.failure
    | .ok path =>
      let notice := g.announce arrived.shared [.errorPage method path e.status e.message]
      sendData g { arrived with effects := arrived.effects ++ notice } e.page.status
        (errorData e.page)
  | .crash f => crash g arrived f

/-- The server's last page goes out where nothing else did. -/
def visit (g : Logger) (s : Shared) (scope : Scope) : Visit :=
  let arrived := Session.arrive g s scope []
  let served :=
    if arrived.session.ending.isSome then arrived
    else serve g arrived scope
  let fault := faultOf served.session
  { sent := if fault.isSome && served.sent.isEmpty then messages lastPage else served.sent
    fault := fault
    effects := served.effects }

namespace Visit

/-- The status of the response, if one was started. -/
def status? (v : Visit) : Option Status :=
  (v.sent.find? (·.isKind Message.responseStart)).bind Message.status?

def body (v : Visit) : WideText :=
  (v.sent.filter (·.isKind Message.responseBody)).flatMap fun m =>
    match m.field? "body" with
    | some (.text t) => t
    | _ => []

end Visit

/-- The notices of a site that starts up and shuts down again. -/
def lifespan (settings : Settings) (terminal : Bool) : List Notice :=
  [.demoStarted settings.environment (settings.colorsEnabled terminal), .demoStopped]

def lifespanMessages : List String := ["lifespan.startup.complete", "lifespan.shutdown.complete"]

def options : Options := { format := some format }

end AccessLog.Demo
