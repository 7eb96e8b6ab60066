import AccessLog.Number.Decimal
import AccessLog.Text.Split

/-!
Literal network addresses. An IPv4 address is four octets; an IPv6 address is eight groups of
sixteen bits, where `::` stands for one group or more and the last two groups may be written as an
IPv4 address. A literal IPv6 address may name a zone; an address that is logged may not.
-/
namespace AccessLog.Address

/-- One to three digits, at most 255, without a zero in front. -/
def isOctet (cs : List Char) : Bool :=
  cs != [] && cs.length ≤ 3 && cs.all Char.isDigit && (cs == ['0'] || cs.head? != some '0') &&
    Decimal.value cs ≤ 255

def isIPv4 (cs : List Char) : Bool :=
  let parts := Text.splitAll '.' cs
  parts.length == 4 && parts.all isOctet

def isHexDigit (c : Char) : Bool :=
  c.isDigit || ('a' ≤ c && c ≤ 'f') || ('A' ≤ c && c ≤ 'F')

/-- One to four hexadecimal digits. -/
def isGroup (cs : List Char) : Bool := cs != [] && cs.length ≤ 4 && cs.all isHexDigit

/-- The pieces between the colons; an empty text has none. -/
def groups (cs : List Char) : List (List Char) := if cs = [] then [] else Text.splitAll ':' cs

/-- How many sixteen-bit groups the pieces make. The last piece may be an IPv4 address where
`quad` allows it, and then makes two. -/
def groupCount? (quad : Bool) : List (List Char) → Option Nat
  | [] => some 0
  | [p] => if isGroup p then some 1 else if quad && isIPv4 p then some 2 else none
  | p :: ps => if isGroup p then (groupCount? quad ps).map (· + 1) else none

/-- What stands before and after the first `::`. -/
def cutAtGap : List Char → Option (List Char × List Char)
  | ':' :: ':' :: rest => some ([], rest)
  | c :: cs => (cutAtGap cs).map fun (before, after) => (c :: before, after)
  | [] => none

def isIPv6 (cs : List Char) : Bool :=
  match cutAtGap cs with
  | none => groupCount? true (groups cs) == some 8
  | some (before, after) =>
    match groupCount? false (groups before), groupCount? true (groups after) with
    | some m, some n => m + n ≤ 7
    | _, _ => false

/-- An IPv6 address, with the name of a zone behind a percent sign if there is one. -/
def isZonedIPv6 (cs : List Char) : Bool :=
  match Text.cutAt '%' cs with
  | (address, none) => isIPv6 address
  | (address, some zone) =>
    isIPv6 address && zone != [] && !zone.contains '%' && !zone.contains '/'

/-- A literal address of either version. -/
def isLiteral (cs : List Char) : Bool := isIPv4 cs || isZonedIPv6 cs

/-- The name of a zone is free text, so an address with one is refused. -/
def isAddress (s : String) : Bool := s != "" && !s.toList.contains '%' && isLiteral s.toList

end AccessLog.Address
