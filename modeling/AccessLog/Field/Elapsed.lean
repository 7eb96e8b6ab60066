import AccessLog.Number.Grouping
import AccessLog.Palette

/-!
Response times. The difference of two clock readings is rounded to whole milliseconds; from ten
seconds on it is shown in seconds. The colour goes by the milliseconds.
-/
namespace AccessLog

/-- A text with the colour that its own value calls for. -/
structure Colored where
  text : String
  color : Color
  deriving DecidableEq

namespace Elapsed

/-- Milliseconds below which the line says milliseconds. -/
def secondsFrom : Int := 10000

def millis (start now : Double) : Except ArithmeticFault Int := ((now.sub start).scale 1000).round

/-- A half goes up; the quotient and the sum are doubles on the way. -/
def seconds (millis : Int) : Except ArithmeticFault Int := do
  let q ← Double.quotient millis 1000
  (q.add Double.half).floor

def colorOfMillis (n : Int) : Color :=
  if n < 50 then .green else if n < 100 then .magenta else .red

/-- What is no number counts as slow. -/
def colorOf (delta : Double) : Color :=
  if delta.below 50 then .green else if delta.below 100 then .magenta else .red

def ofMillis (n : Int) : Except ArithmeticFault Colored := do
  let text ←
    if n < secondsFrom then pure (Decimal.ofInt n ++ ['m', 's'])
    else do
      let s ← seconds n
      pure (Decimal.ofInt s ++ ['s'])
  return ⟨String.ofList (groupDigits text), colorOfMillis n⟩

/-- The time since `start`; a dash where the start is unknown. -/
def since (start : Option Double) (now : Double) : Except ArithmeticFault Colored :=
  match start with
  | none | some .nan => .ok ⟨"-", colorOf .nan⟩
  | some s => do ofMillis (← millis s now)

end Elapsed

end AccessLog
