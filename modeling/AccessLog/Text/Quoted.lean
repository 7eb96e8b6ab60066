import AccessLog.Text.CodePoint
import AccessLog.Text.Escape
import AccessLog.Text.Unprintable

/-!
Texts in quotation marks, as diagnostics show them: one line, with a backslash before whatever
could be misread. Surrogates are never printable.
-/
namespace AccessLog.Text

/-- A single mark, unless the text holds single marks and no double ones. -/
def quoteMark (t : WideText) : Char :=
  if .char '\x27' ∈ t ∧ .char '\x22' ∉ t then '\x22' else '\x27'

def quotedChar (mark c : Char) : List Char :=
  if c = mark ∨ c = '\\' then ['\\', c]
  else if c = '\n' then ['\\', 'n']
  else if c = '\r' then ['\\', 'r']
  else if c = '\t' then ['\\', 't']
  else if c.toNat < 0x20 ∨ c.toNat = 0x7F then codeEscape c.toNat
  else if c.toNat < 0x7F ∨ isPrintable c then [c]
  else codeEscape c.toNat

def quotedPoint (mark : Char) : CodePoint → List Char
  | .char c => quotedChar mark c
  | .surrogate n => codeEscape (0xD800 + n)

def quoted (t : WideText) : String :=
  let mark := quoteMark t
  String.ofList (mark :: t.flatMap (quotedPoint mark) ++ [mark])

/-- Every character beyond ASCII named by its code. -/
def inAscii (s : String) : String :=
  String.ofList (s.toList.flatMap fun c => if c.toNat < 0x80 then [c] else codeEscape c.toNat)

end AccessLog.Text
