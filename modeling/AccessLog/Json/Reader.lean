import AccessLog.Datum
import AccessLog.Text.CodePoint

/-!
Reading JSON texts. A number with a fraction or an exponent is a double, any other is exact; the
members of a record keep their order. Surrogates that are the halves of a character are read as the
character, and others as themselves.
-/
namespace AccessLog.Json

open Text (CodePoint WideText)

def isSpace (c : Char) : Bool := c == ' ' || c == '\n' || c == '\r' || c == '\t'

def skipSpace (cs : List Char) : List Char := cs.dropWhile isSpace

def hexValue? (c : Char) : Option Nat :=
  if c.isDigit then some (c.toNat - '0'.toNat)
  else if 'a' ≤ c ∧ c ≤ 'f' then some (c.toNat - 'a'.toNat + 10)
  else if 'A' ≤ c ∧ c ≤ 'F' then some (c.toNat - 'A'.toNat + 10)
  else none

def unitValue? (a b c d : Char) : Option Nat := do
  let a ← hexValue? a
  let b ← hexValue? b
  let c ← hexValue? c
  let d ← hexValue? d
  return ((a * 16 + b) * 16 + c) * 16 + d

def shortEscape? : Char → Option Char
  | '\x22' => some '\x22'
  | '\\' => some '\\'
  | '/' => some '/'
  | 'b' => some '\x08'
  | 'f' => some '\x0c'
  | 'n' => some '\n'
  | 'r' => some '\r'
  | 't' => some '\t'
  | _ => none

/-- The text up to the closing quotation mark, and what follows it. -/
def wide? : List Char → Option (WideText × List Char)
  | [] => none
  | '\x22' :: rest => some ([], rest)
  | '\\' :: 'u' :: a :: b :: c :: d :: rest =>
    match (unitValue? a b c d).bind CodePoint.ofNat? with
    | none => none
    | some p => (wide? rest).map fun (t, r) => (p.join t, r)
  | '\\' :: c :: rest =>
    match shortEscape? c with
    | none => none
    | some d => (wide? rest).map fun (t, r) => (.char d :: t, r)
  | c :: rest =>
    if c.toNat < 0x20 then none else (wide? rest).map fun (t, r) => (.char c :: t, r)

/-- Exponents beyond this give zero or infinity whatever the digits are. -/
def exponentBound : Nat := 100000

def exponent? (cs : List Char) : Option (Int × List Char) :=
  let (negative, cs) := Integer.takeSign cs
  let ds := cs.takeWhile Char.isDigit
  if ds = [] then none
  else
    some (Double.signed negative (min (Decimal.value ds) exponentBound),
      cs.dropWhile Char.isDigit)

def number? (cs : List Char) : Option (Datum × List Char) := do
  let (negative, cs) := match cs with
    | '-' :: cs => (true, cs)
    | cs => (false, cs)
  let ds := cs.takeWhile Char.isDigit
  let rest := cs.dropWhile Char.isDigit
  if ds = [] ∨ (ds.head? = some '0' ∧ ds.length ≠ 1) then none
  let (fraction, rest) ← match rest with
    | '.' :: more =>
      let fs := more.takeWhile Char.isDigit
      if fs = [] then none else some (some fs, more.dropWhile Char.isDigit)
    | rest => some (none, rest)
  let (power, rest) ← match rest with
    | 'e' :: more | 'E' :: more => (exponent? more).map fun (n, r) => (some n, r)
    | rest => some (none, rest)
  if fraction.isNone && power.isNone then
    return (.whole (Double.signed negative (Decimal.value ds)), rest)
  else
    let fs := fraction.getD []
    let exponent := power.getD 0 - fs.length
    return (.real (Double.ofDecimal negative (Decimal.value (ds ++ fs)) exponent), rest)

mutual

/-- A value and what follows it. Fuel of twice the length of the text is enough. -/
def value? : Nat → List Char → Option (Datum × List Char)
  | 0, _ => none
  | fuel + 1, cs =>
    match skipSpace cs with
    | '\x22' :: rest => (wide? rest).map fun (t, r) => (.text t, r)
    | '[' :: rest =>
      match skipSpace rest with
      | ']' :: rest => some (.list [], rest)
      | rest => (items? fuel rest).map fun (ds, r) => (.list ds, r)
    | '\x7b' :: rest =>
      match skipSpace rest with
      | '\x7d' :: rest => some (.record [], rest)
      | rest => (fields? fuel rest).map fun (fs, r) => (.record fs, r)
    | 'n' :: 'u' :: 'l' :: 'l' :: rest => some (.null, rest)
    | 't' :: 'r' :: 'u' :: 'e' :: rest => some (.flag true, rest)
    | 'f' :: 'a' :: 'l' :: 's' :: 'e' :: rest => some (.flag false, rest)
    | rest => number? rest

def items? : Nat → List Char → Option (List Datum × List Char)
  | 0, _ => none
  | fuel + 1, cs =>
    match value? fuel cs with
    | none => none
    | some (d, rest) =>
      match skipSpace rest with
      | ',' :: rest => (items? fuel rest).map fun (ds, r) => (d :: ds, r)
      | ']' :: rest => some ([d], rest)
      | _ => none

def fields? : Nat → List Char → Option (List (WideText × Datum) × List Char)
  | 0, _ => none
  | fuel + 1, cs =>
    match skipSpace cs with
    | '\x22' :: rest =>
      match wide? rest with
      | none => none
      | some (key, rest) =>
        match skipSpace rest with
        | ':' :: rest =>
          match value? fuel rest with
          | none => none
          | some (d, rest) =>
            match skipSpace rest with
            | ',' :: rest => (fields? fuel rest).map fun (fs, r) => ((key, d) :: fs, r)
            | '\x7d' :: rest => some ([(key, d)], rest)
            | _ => none
        | _ => none
    | _ => none

end

/-- The value that a whole text stands for. -/
def read? (s : String) : Option Datum :=
  let cs := s.toList
  match value? (2 * cs.length + 2) cs with
  | some (d, rest) => if skipSpace rest = [] then some d else none
  | none => none

end AccessLog.Json
