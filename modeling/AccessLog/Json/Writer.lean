import AccessLog.Datum
import AccessLog.Text.CodePoint

/-!
JSON texts of plain ASCII on one line. Every character outside the printable ASCII range is written
as the code of its UTF-16 units, and a surrogate as its own unit. Numbers with too many digits are
not written.
-/
namespace AccessLog.Json

open Text (WideText CodePoint)

def unit (n : Nat) : List Char := '\\' :: 'u' :: Text.hex 4 n

/-- One unit, or a surrogate pair for a character beyond the first 65536. -/
def units (n : Nat) : List Char :=
  if n < 0x10000 then unit n
  else unit (0xD800 + (n - 0x10000) / 0x400) ++ unit (0xDC00 + (n - 0x10000) % 0x400)

def quotedChar (c : Char) : List Char :=
  if c = '\x22' then ['\\', '\x22']
  else if c = '\\' then ['\\', '\\']
  else if c = '\n' then ['\\', 'n']
  else if c = '\r' then ['\\', 'r']
  else if c = '\t' then ['\\', 't']
  else if c = '\x0c' then ['\\', 'f']
  else if c = '\x08' then ['\\', 'b']
  else if 0x20 ≤ c.toNat ∧ c.toNat ≤ 0x7E then [c]
  else units c.toNat

def quotedPoint : CodePoint → List Char
  | .char c => quotedChar c
  | .surrogate n => unit (0xD800 + n)

def quoted (t : WideText) : String := String.ofList ('\x22' :: t.flatMap quotedPoint ++ ['\x22'])

/-- The texts between the members of a list, and between a name and its value. -/
structure Spacing where
  comma : String
  colon : String

def spaced : Spacing := ⟨", ", ": "⟩

def compact : Spacing := ⟨",", ":"⟩

/-- A record whose members are written already. -/
def object (sp : Spacing) (members : List (WideText × String)) : String :=
  "\x7b" ++ sp.comma.intercalate (members.map fun (k, v) => quoted k ++ sp.colon ++ v) ++ "\x7d"

mutual

def write (sp : Spacing) : Datum → Except WritingFault String
  | .null => .ok "null"
  | .flag b => .ok (if b then "true" else "false")
  | .whole n => Decimal.written n
  | .real x => .ok (String.ofList (Decimal.ofDouble x))
  | .text t => .ok (quoted t)
  | .list items => do return "[" ++ sp.comma.intercalate (← writeItems sp items) ++ "]"
  | .record fields => do return object sp (← writeFields sp fields)

def writeItems (sp : Spacing) : List Datum → Except WritingFault (List String)
  | [] => .ok []
  | d :: ds => do return (← write sp d) :: (← writeItems sp ds)

def writeFields (sp : Spacing) :
    List (WideText × Datum) → Except WritingFault (List (WideText × String))
  | [] => .ok []
  | (k, d) :: ds => do return (k, ← write sp d) :: (← writeFields sp ds)

end

end AccessLog.Json
