import AccessLog.Number.Power
import AccessLog.Number.Rounding

/-!
Numbers of 53 significant bits, held as exact values: a sign, a whole mantissa and a power of two.
Every operation computes the exact result first and rounds it once, in `ofRatio`.
-/
namespace AccessLog

inductive Double where
  | nan
  | infinite (negative : Bool)
  | finite (negative : Bool) (mantissa : Nat) (exponent : Int)
  deriving DecidableEq

/-- A value that has no whole number, or a quotient beyond the largest double. -/
inductive ArithmeticFault where
  | wholeOfNan
  | wholeOfInfinity
  | quotientTooLarge
  deriving DecidableEq

def ArithmeticFault.message : ArithmeticFault → String
  | .wholeOfNan => "cannot convert float NaN to integer"
  | .wholeOfInfinity => "cannot convert float infinity to integer"
  | .quotientTooLarge => "integer division result too large for a float"

namespace Double

/-- The exponent of the unit in which doubles near `num / den` are counted. -/
def unit (num den : Nat) : Int :=
  let k : Int := (num.log2 : Int) - den.log2
  let top := if den * Power.num 2 k ≤ num * Power.den 2 k then k else k - 1
  max (top - 52) (-1074)

/-- The double nearest to `num / den`, with ties to the even mantissa. -/
def ofRatio (negative : Bool) (num den : Nat) : Double :=
  if num = 0 then .finite negative 0 0
  else
    let e := unit num den
    let m := roundDiv (num * Power.den 2 e) (den * Power.num 2 e)
    if Power.num 2 1024 ≤ m * Power.num 2 e then .infinite negative else .finite negative m e

def ofInt (n : Int) : Double := ofRatio (n < 0) n.natAbs 1

/-- The double nearest to `digits · 10 ^ exponent`. -/
def ofDecimal (negative : Bool) (digits : Nat) (exponent : Int) : Double :=
  ofRatio negative (digits * Power.num 10 exponent) (Power.den 10 exponent)

/-- The double nearest to `n · 2 ^ exponent`; `zeroSign` is the sign of a zero result. -/
def ofScaled (zeroSign : Bool) (n : Int) (exponent : Int) : Double :=
  ofRatio (if n = 0 then zeroSign else n < 0) (n.natAbs * Power.num 2 exponent)
    (Power.den 2 exponent)

def signed (negative : Bool) (n : Nat) : Int := if negative then -(n : Int) else n

/-- The mantissa that `m · 2 ^ e` has at the smaller exponent `low`. -/
def atExponent (negative : Bool) (m : Nat) (e low : Int) : Int :=
  signed negative (m * Power.num 2 (e - low))

def neg : Double → Double
  | .nan => .nan
  | .infinite s => .infinite !s
  | .finite s m e => .finite (!s) m e

def add : Double → Double → Double
  | .finite s m e, .finite t n f =>
    let low := min e f
    ofScaled (s && t) (atExponent s m e low + atExponent t n f low) low
  | .infinite s, .infinite t => if s = t then .infinite s else .nan
  | .infinite s, .finite .. => .infinite s
  | .finite .., .infinite t => .infinite t
  | .nan, _ => .nan
  | _, .nan => .nan

def sub (x y : Double) : Double := add x y.neg

/-- The product with a positive whole number. -/
def scale (k : Nat) : Double → Double
  | .nan => .nan
  | .infinite s => .infinite s
  | .finite s m e => ofScaled s (signed s (m * k)) e

/-- The quotient by a positive whole number. -/
def divide (k : Nat) : Double → Double
  | .nan => .nan
  | .infinite s => .infinite s
  | .finite s m e => ofRatio s (m * Power.num 2 e) (k * Power.den 2 e)

/-- The quotient of two whole numbers, refused when it is beyond every double. -/
def quotient (a : Int) (b : Nat) : Except ArithmeticFault Double :=
  match ofRatio (a < 0) a.natAbs b with
  | .infinite _ => .error .quotientTooLarge
  | x => .ok x

/-- Whether the value is below `k`; never so for `nan`. -/
def below (k : Int) : Double → Bool
  | .nan => false
  | .infinite s => s
  | .finite s m e => atExponent s m e (min e 0) < k * Power.den 2 e

/-- Whether the magnitude is at least `k`. -/
def reaches (k : Nat) : Double → Bool
  | .nan => false
  | .infinite _ => true
  | .finite _ m e => k * Power.den 2 e ≤ m * Power.num 2 e

/-- Equality of values, whatever exponent they are written with; the zeros are equal. -/
def sameValue : Double → Double → Bool
  | .finite s m e, .finite t n f =>
    atExponent s m e (min e f) == atExponent t n f (min e f)
  | .infinite s, .infinite t => s == t
  | _, _ => false

def isZero : Double → Bool
  | .finite _ m _ => m == 0
  | _ => false

/-- The nearest whole number, with ties to even. -/
def round : Double → Except ArithmeticFault Int
  | .nan => .error .wholeOfNan
  | .infinite _ => .error .wholeOfInfinity
  | .finite s m e => .ok (signed s (roundDiv (m * Power.num 2 e) (Power.den 2 e)))

/-- The largest whole number that is not above the value. -/
def floor : Double → Except ArithmeticFault Int
  | .nan => .error .wholeOfNan
  | .infinite _ => .error .wholeOfInfinity
  | .finite s m e => .ok (signed s (m * Power.num 2 e) / Power.den 2 e)

/-- The whole number with the fraction cut off. -/
def truncate : Double → Except ArithmeticFault Int
  | .nan => .error .wholeOfNan
  | .infinite _ => .error .wholeOfInfinity
  | .finite s m e => .ok (signed s (m * Power.num 2 e / Power.den 2 e))

def half : Double := .finite false 1 (-1)

end Double

end AccessLog
