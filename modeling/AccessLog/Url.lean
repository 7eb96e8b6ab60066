import AccessLog.Exchange.Request
import AccessLog.Text.Utf8

/-!
Addresses of requests: the host that the client has asked for, a path, and a query that must be
UTF-8 text. Taken apart again, an address need not give back the path it was made from, since the
host is whatever the client has sent.
-/
namespace AccessLog

inductive UrlFault where
  | badQuery (flaw : Utf8.Flaw)
  | loneBracket
  | badFutureHost
  | noAddress (host : String)
  | bracketedIPv4
  deriving DecidableEq

namespace UrlFault

def message : UrlFault → String
  | badQuery flaw => flaw.message
  | loneBracket => "Invalid IPv6 URL"
  | badFutureHost => "IPvFuture address is invalid"
  | noAddress host => Text.quoted host ++ " does not appear to be an IPv4 or IPv6 address"
  | bracketedIPv4 => "An IPv4 address cannot be in brackets"

def failure : UrlFault → Failure
  | badQuery flaw => .simple .undecodable flaw.message
  | e => .simple .value e.message

end UrlFault

/-- The parts of an address, of which the query must be a text. -/
structure Url where
  host : String
  path : String

namespace Url

def ofScope (s : Scope) : Except UrlFault Url :=
  match Utf8.flaw? (s.query.getD []) with
  | some flaw => .error (.badQuery flaw)
  | none => .ok ⟨(s.headers.field? "host").getD "", s.path.getD ""⟩

/-- These are dropped wherever they stand. -/
def isDropped (c : Char) : Bool := c == '\t' || c == '\n' || c == '\r'

def endsHost (c : Char) : Bool := c == '/' || c == '?' || c == '#'

/-- A host of the form that is reserved for the future: a version in hexadecimal digits, a point,
and a name. -/
def isFutureHost (cs : List Char) : Bool :=
  match cs.span Address.isHexDigit with
  | (version, '.' :: name) => version != [] && name != []
  | _ => false

/-- What is wrong with a host in brackets. -/
def bracketFault? : List Char → Option UrlFault
  | 'v' :: cs => if isFutureHost cs then none else some .badFutureHost
  | cs =>
    if Address.isIPv4 cs then some .bracketedIPv4
    else if Address.isZonedIPv6 cs then none
    else some (.noAddress (String.ofList cs))

/-- What is wrong with the brackets of a host. -/
def hostFault? (cs : List Char) : Option UrlFault :=
  match cs.contains '[', cs.contains ']' with
  | false, false => none
  | true, true =>
    bracketFault? (((cs.dropWhile (· ≠ '[')).drop 1).takeWhile (· ≠ ']'))
  | _, _ => some .loneBracket

/-- The path that is read off the address as a whole. -/
def readPath (u : Url) : Except UrlFault String :=
  let cs := (u.host.toList ++ u.path.toList).filter (!isDropped ·)
  match hostFault? (cs.takeWhile (!endsHost ·)) with
  | some e => .error e
  | none =>
    .ok (String.ofList ((cs.dropWhile (!endsHost ·)).takeWhile fun c => c != '?' && c != '#'))

end Url

end AccessLog
