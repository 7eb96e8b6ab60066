import AccessLog.Text.DecimalDigit
import AccessLog.Text.Split
import AccessLog.Text.Template

/-!
Thousands marks. A mark follows every digit that has a positive multiple of three digits between
itself and the end of its run; only the text before the first point is grouped.
-/
namespace AccessLog

namespace Grouping

def leadingDigits (cs : List Char) : Nat := (cs.takeWhile Text.isDecimalDigit).length

/-- Marks every digit that is followed by whole triples, given the last triple of its run. -/
def markTriples (mark : Char → List Char → List Char) : List Char → List Char
  | [] => []
  | c :: cs =>
    let n := leadingDigits cs
    if Text.isDecimalDigit c ∧ 0 < n ∧ n % 3 = 0 then
      mark c ((cs.take n).drop (n - 3)) ++ markTriples mark cs
    else c :: markTriples mark cs

/-- Groups what is before the first point, and puts `separator` in the point's place. -/
def onHead (separator : List Char) (group : List Char → List Char) (cs : List Char) : List Char :=
  match Text.cutAt '.' cs with
  | (head, none) => group head
  | (head, some tail) => group head ++ separator ++ tail

def commas (cs : List Char) : List Char := markTriples (fun c _ => [c, ',']) cs

end Grouping

/-- Commas between the thousands, and a point before the fraction. -/
def groupDigits (cs : List Char) : List Char := Grouping.onHead ['.'] Grouping.commas cs

/-- Like `groupDigits` with other marks. The delimiter is read as the rest of a replacement
template that begins with the digit itself: it may refer to the digit and to the last triple. -/
def groupDigitsWith (delimiter separator : String) (cs : List Char) :
    Except Text.Template.Fault (List Char) := do
  let template ← Text.Template.parse 2 ("\\1" ++ delimiter)
  let mark := fun c triple => template.fill fun n => if n = 2 then triple else [c]
  return Grouping.onHead separator.toList (Grouping.markTriples mark) cs

end AccessLog
