import AccessLog.Address
import AccessLog.Exchange.Fault
import AccessLog.Headers

/-!
A request as the log sees it, and how it is read off the scope that the server opens for it.
-/
namespace AccessLog

structure Request where
  method : String
  url : String
  headers : Headers := []
  versionMajor : Int := 1
  versionMinor : Int := 1
  scheme : String := "http"
  peer : Option String := none
  legacyPeer : Option String := none

/-- What the server tells of a connection; all of it may be missing. -/
structure Scope where
  kind : Option Datum := none
  method : Option String := none
  rawPath : Option Octets := none
  rootPath : Option String := none
  path : Option String := none
  query : Option Octets := none
  version : Option Datum := none
  headers : Headers := []
  client : Option String := none
  scheme : Option String := none

namespace Scope

/-- Only connections of this kind are requests. -/
def isHttp (s : Scope) : Bool :=
  match s.kind with
  | some (.text kind) => kind == "http"
  | _ => false

/-- The path as it was sent when that is known, and the query behind a question mark. -/
def url (s : Scope) : String :=
  let path :=
    match s.rawPath with
    | some (b :: bs) => Octets.decode (b :: bs)
    | _ => s.rootPath.getD "" ++ s.path.getD ""
  match s.query with
  | some (b :: bs) => path ++ "?" ++ Octets.decode (b :: bs)
  | _ => path

/-- A part of a version; where there is none, the number that it means. -/
def versionPart (missing : Int) (t : Text.WideText) : Except Fault Int :=
  if t = [] then .ok missing else (Integer.ofWide t).mapError .badVersion

/-- A missing part before the point means 1, and after it 0. -/
def versionNumbers (s : Scope) : Except Fault (Int × Int) := do
  let text ← ((s.version.getD (.text "1.1")).display).mapError .unwritable
  let (major, minor) := Text.cutAt (.char '.') text
  let m ← versionPart 1 major
  let n ← versionPart 0 (minor.getD [])
  return (m, n)

def request (s : Scope) : Except Fault Request := do
  let (major, minor) ← s.versionNumbers
  return {
    method := s.method.getD "GET"
    url := s.url
    headers := s.headers
    versionMajor := major
    versionMinor := minor
    scheme := s.scheme.getD "http"
    peer := s.client }

end Scope

namespace Request

def httpVersion (r : Request) : Except WritingFault String := do
  return "HTTP/" ++ (← Decimal.written r.versionMajor) ++ "." ++ (← Decimal.written r.versionMinor)

/-- A header that is there and not empty. -/
def spoken (r : Request) (name : String) : Option String :=
  (r.headers.field? name).filter (· ≠ "")

def referrer (r : Request) : String :=
  (r.spoken "referer" <|> r.spoken "referrer").getD "-"

def userAgent (r : Request) : String := (r.spoken "user-agent").getD "-"

def accepted (value : Option String) : Option String := value.filter Address.isAddress

/-- One entry of a forwarding list: trimmed, and cut at its colon when it holds exactly one. -/
def forwardedEntry (cs : List Char) : String :=
  let entry := Text.trim cs
  if entry.count ':' = 1 then String.ofList (entry.takeWhile (· ≠ ':')) else String.ofList entry

/-- The first entry of a comma-separated list that is an address. -/
def forwardedFor? (value : Option String) : Option String :=
  match value with
  | none => none
  | some list => ((Text.splitAll ',' list.toList).map forwardedEntry).find? Address.isAddress

def forwardedFor (value : Option String) : String := (forwardedFor? value).getD "-"

/-- The headers of proxies are asked first, then the transport. -/
def clientAddress (r : Request) : String :=
  (accepted (r.headers.field? "x-client-ip") <|>
    forwardedFor? (r.headers.field? "x-forwarded-for") <|>
    accepted (r.headers.field? "x-real-ip") <|>
    accepted (r.headers.field? "x-forwarded") <|>
    accepted (r.headers.field? "forwarded-for") <|>
    accepted r.peer <|>
    accepted r.legacyPeer).getD "-"

end Request

end AccessLog
