import AccessLog.Text.Identifier
import AccessLog.Text.Quoted
import AccessLog.Number.Integer

/-!
Replacement templates: literal characters, and references `\1` or `\g<1>` to what a pattern has
matched. Three octal digits, or a zero and up to two more, name a character by its code.
-/
namespace AccessLog.Text

inductive Template.Piece where
  | literal (c : Char)
  | group (index : Nat)
  deriving DecidableEq

inductive Template.Reason where
  | endsInBackslash
  | unknownEscape (c : Char)
  | octalTooLarge (digits : List Char)
  | noSuchGroup (index : Int)
  | noOpeningMark
  | noName
  | noClosingMark
  | badName (name : String)
  deriving DecidableEq

inductive Template.Fault where
  | malformed (reason : Template.Reason) (position : Nat) (template : String)
  | unknownName (name : String)
  deriving DecidableEq

abbrev Template := List Template.Piece

namespace Template

def Reason.message : Reason → String
  | .endsInBackslash => "bad escape (end of pattern)"
  | .unknownEscape c => "bad escape \\" ++ c.toString
  | .octalTooLarge ds =>
    "octal escape value \\" ++ String.ofList ds ++ " outside of range 0-0o377"
  | .noSuchGroup n => "invalid group reference " ++ String.ofList (Decimal.ofInt n)
  | .noOpeningMark => "missing <"
  | .noName => "missing group name"
  | .noClosingMark => "missing >, unterminated name"
  | .badName name => "bad character in group name " ++ quoted name

/-- Line and column are told only of a template with several lines. -/
def placeText (template : String) (position : Nat) : String :=
  let before := template.toList.take position
  let column := (before.reverse.takeWhile (· ≠ '\n')).length + 1
  " at position " ++ Decimal.countText position ++
    if '\n' ∈ template.toList then
      " (line " ++ Decimal.countText (before.count '\n' + 1) ++ ", column " ++
        Decimal.countText column ++ ")"
    else ""

def Fault.message : Fault → String
  | .malformed reason position template => reason.message ++ placeText template position
  | .unknownName name => "unknown group name " ++ quoted name

/-- A character, or a backslash with the character it stands before. -/
inductive Mark where
  | plain (c : Char)
  | escaped (c : Char)
  | lone
  deriving DecidableEq

def Mark.chars : Mark → List Char
  | .plain c => [c]
  | .escaped c => ['\\', c]
  | .lone => ['\\']

def marks : List Char → List Mark
  | [] => []
  | '\\' :: [] => [.lone]
  | '\\' :: c :: cs => .escaped c :: marks cs
  | c :: cs => .plain c :: marks cs

def isOctal (c : Char) : Bool := '0' ≤ c && c ≤ '7'

def octalValue (ds : List Char) : Nat := Nat.ofDigitChars 8 ds 0

def controlEscape? : Char → Option Char
  | 'a' => some '\x07'
  | 'b' => some '\x08'
  | 'f' => some '\x0c'
  | 'n' => some '\n'
  | 'r' => some '\r'
  | 't' => some '\t'
  | 'v' => some '\x0b'
  | '\\' => some '\\'
  | _ => none

/-- The group of that name or number. -/
def named (template : String) (groups position : Nat) (name : List Char) : Except Fault Piece :=
  if isIdentifier name then .error (.unknownName (String.ofList name))
  else match Integer.ofChars name with
    | .ok (.ofNat n) =>
      if n ≤ groups then .ok (.group n)
      else .error (.malformed (.noSuchGroup n) position template)
    | _ => .error (.malformed (.badName (String.ofList name)) position template)

/-- How many marks after the escaped digit `c` belong to its number. -/
def digitRun (c : Char) : List Mark → Nat
  | .plain d :: .plain e :: _ =>
    if d.isDigit then (if isOctal c && isOctal d && isOctal e then 2 else 1) else 0
  | .plain d :: _ => if d.isDigit then 1 else 0
  | _ => 0

def octalRun (ms : List Mark) : Nat :=
  ((ms.take 2).takeWhile fun
    | .plain d => isOctal d
    | _ => false).length

/-- The marks of a name, up to the closing angle bracket if there is one. -/
def nameRun : List Mark → Nat
  | [] => 0
  | .lone :: _ => 0
  | m :: ms => if m = .plain '>' then 1 else 1 + nameRun ms

/-- How many marks the first element takes. -/
def extent : List Mark → Nat
  | .escaped c :: rest =>
    if c = 'g' then
      match rest with
      | .plain '<' :: body => 2 + nameRun body
      | _ => 1
    else if c = '0' then 1 + octalRun rest
    else if c.isDigit then 1 + digitRun c rest
    else 1
  | _ => 1

def character (position : Nat) (template : String) (ds : List Char) : Except Fault Template :=
  if 255 < octalValue ds then .error (.malformed (.octalTooLarge ds) position template)
  else .ok [.literal (Char.ofNat (octalValue ds))]

/-- The meaning of one element that starts at `position`. -/
def element (template : String) (groups position : Nat) (ms : List Mark) :
    Except Fault Template :=
  let fail := fun reason place => .error (.malformed reason place template)
  match ms with
  | .escaped 'g' :: .plain '<' :: body =>
    let closed := body.getLast? = some (.plain '>')
    let name := (if closed then body.dropLast else body).flatMap Mark.chars
    if name = [] then fail .noName (position + 3)
    else if closed then (named template groups (position + 3) name).map ([·])
    else fail .noClosingMark (position + 3)
  | .escaped c :: more =>
    let ds := c :: more.flatMap Mark.chars
    if c = 'g' then fail .noOpeningMark (position + 2)
    else if c = '0' ∨ ds.length = 3 then character position template ds
    else if c.isDigit then
      let n := Decimal.value ds
      if n ≤ groups then .ok [.group n] else fail (.noSuchGroup n) (position + 1)
    else match controlEscape? c with
      | some d => .ok [.literal d]
      | none => if c.isAlpha then fail (.unknownEscape c) position else .ok [.literal '\\', .literal c]
  | .plain c :: _ => .ok [.literal c]
  | _ => fail .endsInBackslash (template.length - 1)

/-- Reads the marks from `position` on, for a pattern with so many groups. A backslash that ends
the template is noticed as soon as it is the next mark. -/
def pieces (template : String) (groups position : Nat) : List Mark → Except Fault Template
  | [] => .ok []
  | m :: ms => do
    let size := extent (m :: ms)
    let here := (m :: ms).take size
    let rest := ms.drop (size - 1)
    if rest = [.lone] then
      throw (.malformed .endsInBackslash (template.length - 1) template)
    let first ← element template groups position here
    return first ++ (← pieces template groups (position + (here.flatMap Mark.chars).length) rest)
termination_by ms => ms.length
decreasing_by simp only [List.length_drop, List.length_cons]; omega

def parse (groups : Nat) (template : String) : Except Fault Template :=
  pieces template groups 0 (marks template.toList)

/-- The template with every reference replaced by the text of its group. -/
def fill (groups : Nat → List Char) (t : Template) : List Char :=
  t.flatMap fun
    | .literal c => [c]
    | .group n => groups n

end Template

end AccessLog.Text
