import AccessLog.Text.Blank
import AccessLog.Text.DecimalDigit
import AccessLog.Text.Quoted
import AccessLog.Number.Decimal

/-!
Whole numbers read from text: blanks around them, one sign, and digits of any script with single
underscores between them.
-/
namespace AccessLog

inductive IntegerFault where
  | malformed (text : Text.WideText)
  | tooLong (digits : Nat)
  deriving DecidableEq

namespace IntegerFault

/-- No more than this of a malformed text is told. -/
def shownLimit : Nat := 200

def message : IntegerFault → String
  | .malformed text =>
    "invalid literal for int() with base 10: " ++
      String.ofList ((Text.quoted text).toList.take shownLimit)
  | .tooLong digits =>
    "Exceeds the limit (4300 digits) for integer string conversion: value has " ++
      Decimal.countText digits ++
      " digits; use sys.set_int_max_str_digits() to increase the limit"

end IntegerFault

namespace Integer

/-- The greatest count of digits that is read. -/
def digitLimit : Nat := 4300

/-- The blanks that may surround a number: the four separators of files and records may not. -/
def isMargin (c : Char) : Bool :=
  Text.isBlank c && !(0x1C ≤ c.toNat && c.toNat ≤ 0x1F)

/-- Without the blanks around. -/
def trimMargins (cs : List Char) : List Char :=
  ((cs.dropWhile isMargin).reverse.dropWhile isMargin).reverse

def ofDigits (ds : List Nat) : Nat := ds.foldl (fun n d => n * 10 + d) 0

/-- Every underscore stands alone between two other characters. -/
def underscoresApart (cs : List Char) : Prop :=
  cs.head? ≠ some '_' ∧ cs.getLast? ≠ some '_' ∧ ('_', '_') ∉ cs.zip (cs.drop 1)

instance (cs : List Char) : Decidable (underscoresApart cs) :=
  inferInstanceAs (Decidable (_ ∧ _ ∧ _))

/-- The digits of a text in which every underscore stands between two digits. -/
def groupedDigits? (cs : List Char) : Option (List Nat) :=
  if cs ≠ [] ∧ underscoresApart cs then ((cs.filter (· ≠ '_')).map Text.digitValue?).mapM id
  else none

def takeSign : List Char → Bool × List Char
  | '-' :: cs => (true, cs)
  | '+' :: cs => (false, cs)
  | cs => (false, cs)

def ofChars (cs : List Char) : Except IntegerFault Int :=
  let malformed := .error (.malformed (Text.wideChars cs))
  let (negative, body) := takeSign (cs.dropWhile isMargin)
  let inNumber := fun c => c == '_' || Text.isDecimalDigit c
  match groupedDigits? (body.takeWhile inNumber) with
  | none => malformed
  | some ds =>
    if digitLimit < ds.length then .error (.tooLong ds.length)
    else if (body.dropWhile inNumber).all isMargin then .ok (Double.signed negative (ofDigits ds))
    else malformed

def ofString (s : String) : Except IntegerFault Int := ofChars s.toList

/-- Surrogates have no place in a number. -/
def ofWide (t : Text.WideText) : Except IntegerFault Int :=
  (ofChars (t.map Text.CodePoint.shown)).mapError fun
    | .malformed _ => .malformed t
    | e => e

end Integer

end AccessLog
