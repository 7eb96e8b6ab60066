import AccessLog.Number.Double

/-!
Decimal texts of numbers: whole numbers, a fixed count of places, and the fewest digits that read
back as the same double. Whole numbers of any size are written by `written`, which refuses those
that have too many digits.
-/
namespace AccessLog

inductive WritingFault where
  | tooManyDigits
  deriving DecidableEq

def WritingFault.message : WritingFault → String
  | .tooManyDigits =>
    "Exceeds the limit (4300 digits) for integer string conversion; " ++
      "use sys.set_int_max_str_digits() to increase the limit"

namespace Decimal

def ofNat (n : Nat) : List Char := Nat.toDigits 10 n

/-- The number that digits stand for. -/
def value (ds : List Char) : Nat := Nat.ofDigitChars 10 ds 0

@[simp] theorem value_ofNat (n : Nat) : value (ofNat n) = n :=
  Nat.ofDigitChars_toDigits (by decide) (by decide)

def sign (negative : Bool) : List Char := if negative then ['-'] else []

def ofInt (n : Int) : List Char := sign (n < 0) ++ ofNat n.natAbs

/-- How many there are of something, or where it stands. -/
def countText (n : Nat) : String := String.ofList (ofNat n)

/-- The greatest count of digits that is written. The sign is not counted. -/
def digitLimit : Nat := 4300

def written (n : Int) : Except WritingFault String :=
  if digitLimit < (ofNat n.natAbs).length then .error .tooManyDigits
  else .ok (String.ofList (ofInt n))

/-- At least `width` digits, with zeros in front. -/
def padded (width n : Nat) : List Char := (ofNat n).leftpad width '0'

/-- A whole part, and behind a point exactly `places` digits of `n / 10 ^ places`. -/
def withPoint (places n : Nat) : List Char :=
  if places = 0 then ofNat n
  else ofNat (n / Power.num 10 places) ++ '.' :: padded places (n % Power.num 10 places)

/-- `num / den` rounded to `places` digits after the point, a tie to the even digit. -/
def fixedRatio (places num den : Nat) : List Char :=
  withPoint places (roundDiv (num * Power.num 10 places) den)

/-- No double has a digit behind this place. -/
def maxPlaces : Nat := 1074

/-- No double has more digits than this from the first to the last that is not zero. -/
def maxDigits : Nat := 767

def fixed (places : Nat) : Double → List Char
  | .nan => "nan".toList
  | .infinite s => sign s ++ "inf".toList
  | .finite s m e => sign s ++ fixedRatio places (m * Power.num 2 e) (Power.den 2 e)

/-- Fractional zeros at the end are dropped, and then a point without digits. -/
def trimFraction (cs : List Char) : List Char :=
  if '.' ∈ cs then
    match cs.reverse.dropWhile (· == '0') with
    | '.' :: r => r.reverse
    | r => r.reverse
  else cs

/-- The exponent `p` with `10 ^ (p - 1) ≤ num / den < 10 ^ p`. -/
def decade (num den : Nat) : Int :=
  let k : Int := (ofNat num).length - (ofNat den).length
  if den * Power.num 10 k ≤ num * Power.den 10 k then k + 1 else k

/-- A decimal `digits · 10 ^ exponent`. -/
structure Scaled where
  digits : Nat
  exponent : Int

namespace Scaled

def toDouble (d : Scaled) (negative : Bool) : Double :=
  Double.ofDecimal negative d.digits d.exponent

/-- The same value without zeros at the end. -/
def stripZeros (fuel : Nat) (d : Scaled) : Scaled :=
  match fuel with
  | 0 => d
  | fuel + 1 =>
    if d.digits % 10 = 0 && d.digits != 0 then stripZeros fuel ⟨d.digits / 10, d.exponent + 1⟩
    else d

end Scaled

/-- The decimal of `k` digits nearest to `num / den`, a tie to the even digit. -/
def significant (k num den : Nat) : Scaled :=
  let e := decade num den - k
  let n := roundDiv (num * Power.den 10 e) (den * Power.num 10 e)
  if n = Power.num 10 k then ⟨Power.num 10 (k - 1), e + 1⟩ else ⟨n, e⟩

/-- Of the two neighbours of `num / den` among decimals of `k` digits, those that read back as
`x`; the nearer one when both do. -/
def readsBack? (x : Double) (num den k : Nat) : Option Scaled :=
  let e := decade num den - k
  let num' := num * Power.den 10 e
  let den' := den * Power.num 10 e
  let lower := num' / den'
  let hits := fun n => (Scaled.toDouble ⟨n, e⟩ false).sameValue x
  match hits lower, hits (lower + 1) with
  | true, true => some ⟨roundDiv num' den', e⟩
  | true, false => some ⟨lower, e⟩
  | false, true => some ⟨lower + 1, e⟩
  | false, false => none

/-- The fewest digits that read back as `m · 2 ^ e`; seventeen always do. -/
def shortest (m : Nat) (e : Int) : Scaled :=
  let num := m * Power.num 2 e
  let den := Power.den 2 e
  let found := (List.range' 1 16).findSome? (readsBack? (.finite false m e) num den)
  (found.getD (significant 17 num den)).stripZeros 17

/-- An exponent mark, a sign and at least two digits. -/
def exponentText (mark : Char) (e : Int) : List Char :=
  mark :: (if e < 0 then '-' else '+') :: padded 2 e.natAbs

/-- The first digit, and the others behind a point. -/
def mantissaText : List Char → List Char
  | [] => []
  | [d] => [d]
  | d :: ds => d :: '.' :: ds

/-- Digits with the point `point` places from the left; the text always shows a point. -/
def positional (ds : List Char) (point : Int) : List Char :=
  if point ≤ 0 then '0' :: '.' :: (List.replicate (-point).toNat '0' ++ ds)
  else if ds.length ≤ point.toNat then
    ds ++ List.replicate (point.toNat - ds.length) '0' ++ ['.', '0']
  else ds.take point.toNat ++ '.' :: ds.drop point.toNat

/-- The fewest digits that read back, written out from `0.0001` up to below `10 ^ 16`, and with
an exponent elsewhere. -/
def ofDouble : Double → List Char
  | .nan => "nan".toList
  | .infinite s => sign s ++ "inf".toList
  | .finite s m e =>
    if m = 0 then sign s ++ "0.0".toList
    else
      let d := shortest m e
      let ds := ofNat d.digits
      let point := d.exponent + ds.length
      sign s ++
        if -4 < point && point ≤ 16 then positional ds point
        else mantissaText ds ++ exponentText 'e' (point - 1)

end Decimal

end AccessLog
