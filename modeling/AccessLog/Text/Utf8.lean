import AccessLog.Text.Octets

/-!
Octet strings that are texts in UTF-8. The first octet of a character tells which octets may follow
it; `flaw?` finds the first place where a string breaks off or goes on otherwise.
-/
namespace AccessLog.Utf8

inductive Reason where
  | badStart
  | badContinuation
  | cutShort
  deriving DecidableEq, Repr

def Reason.text : Reason → String
  | .badStart => "invalid start byte"
  | .badContinuation => "invalid continuation byte"
  | .cutShort => "unexpected end of data"

/-- A run of octets that begins like a character and is none. -/
structure Flaw where
  position : Nat
  count : Nat
  first : UInt8
  reason : Reason
  deriving DecidableEq

namespace Flaw

def place (f : Flaw) : List Char :=
  if f.count = 1 then
    " 0x".toList ++ Text.hex 2 f.first.toNat ++ " in position ".toList ++ Decimal.ofNat f.position
  else
    "s in position ".toList ++ Decimal.ofNat f.position ++ '-' ::
      Decimal.ofNat (f.position + f.count - 1)

def message (f : Flaw) : String :=
  "'utf-8' codec can't decode byte" ++ String.ofList f.place ++ ": " ++ f.reason.text

end Flaw

/-- A range of octets. -/
structure Range where
  low : UInt8
  high : UInt8
  deriving DecidableEq, Repr

def Range.holds (r : Range) (b : UInt8) : Bool := r.low ≤ b && b ≤ r.high

/-- Any octet that continues a character. -/
def tail : Range := ⟨0x80, 0xBF⟩

/-- What must follow the first octet of a character, or nothing if no character begins so. The
ranges keep out longer forms of earlier characters, the surrogates, and what is beyond the last
code point. -/
def following? (b : UInt8) : Option (List Range) :=
  if b < 0x80 then some []
  else if b < 0xC2 then none
  else if b < 0xE0 then some [tail]
  else if b = 0xE0 then some [⟨0xA0, 0xBF⟩, tail]
  else if b = 0xED then some [⟨0x80, 0x9F⟩, tail]
  else if b < 0xF0 then some [tail, tail]
  else if b = 0xF0 then some [⟨0x90, 0xBF⟩, tail, tail]
  else if b < 0xF4 then some [tail, tail, tail]
  else if b = 0xF4 then some [⟨0x80, 0x8F⟩, tail, tail]
  else none

/-- How many octets are, one after the other, in the ranges. -/
def matching : List Range → Octets → Nat
  | r :: rs, b :: bs => if r.holds b then matching rs bs + 1 else 0
  | _, _ => 0

/-- The first flaw of octets that stand at `position`. -/
def flawFrom? (position : Nat) : Octets → Option Flaw
  | [] => none
  | b :: bs =>
    match following? b with
    | none => some ⟨position, 1, b, .badStart⟩
    | some rs =>
      let n := matching rs bs
      if n = rs.length then flawFrom? (position + 1 + n) (bs.drop n)
      else some ⟨position, 1 + n, b, if n = bs.length then .cutShort else .badContinuation⟩
termination_by bs => bs.length
decreasing_by simp only [List.length_drop, List.length_cons]; omega

def flaw? (o : Octets) : Option Flaw := flawFrom? 0 o

end AccessLog.Utf8
