import AccessLog.Number.Decimal

/-!
Byte counts in units of 1024. The unit is the largest that the magnitude reaches; the number is
rounded to a fixed count of places and then loses its fractional zeros.
-/
namespace AccessLog

inductive SizeUnit where
  | byte | kilobyte | megabyte | gigabyte | terabyte | petabyte
  deriving DecidableEq, Repr

namespace SizeUnit

def bytes : SizeUnit → Nat
  | byte => 1
  | kilobyte => 1024
  | megabyte => 1024 * 1024
  | gigabyte => 1024 * 1024 * 1024
  | terabyte => 1024 * 1024 * 1024 * 1024
  | petabyte => 1024 * 1024 * 1024 * 1024 * 1024

def symbol : SizeUnit → String
  | byte => "B"
  | kilobyte => "KB"
  | megabyte => "MB"
  | gigabyte => "GB"
  | terabyte => "TB"
  | petabyte => "PB"

theorem bytes_pos (u : SizeUnit) : 0 < u.bytes := by cases u <;> simp [bytes]

/-- The largest unit that is reached, given a test for each size. -/
def largest (reached : Nat → Bool) : SizeUnit :=
  ([petabyte, terabyte, gigabyte, megabyte, kilobyte].find? fun u => reached u.bytes).getD byte

end SizeUnit

inductive SizeFault where
  | arithmetic (e : ArithmeticFault)
  | negativePlaces
  | tooManyPlaces
  | unreadablePlaces
  deriving DecidableEq

def SizeFault.message : SizeFault → String
  | .arithmetic e => e.message
  | .negativePlaces => "Format specifier missing precision"
  | .tooManyPlaces => "precision too big"
  | .unreadablePlaces => "Too many decimal digits in format string"

namespace Size

/-- Counts of places are below this bound. -/
def placesBound : Nat := 0x80000000

/-- Counts from here on are not even read. -/
def readingBound : Nat := 0x8000000000000000

def places (decimals : Int) : Except SizeFault Nat :=
  if decimals < 0 then .error .negativePlaces
  else if readingBound ≤ decimals then .error .unreadablePlaces
  else if placesBound ≤ decimals then .error .tooManyPlaces
  else .ok decimals.toNat

/-- Behind the last place of any double there are only zeros, which would be dropped. -/
def render (places : Nat) (x : Double) (unit : SizeUnit) : String :=
  String.ofList (Decimal.trimFraction (Decimal.fixed (min places Decimal.maxPlaces) x)) ++
    unit.symbol

/-- The quotient of a whole number by its unit is a double before it is written out. -/
def ofInt (value : Int) (decimals : Int) : Except SizeFault String :=
  let unit := SizeUnit.largest (· ≤ value.natAbs)
  match Double.quotient value unit.bytes with
  | .error e => .error (.arithmetic e)
  | .ok x => (places decimals).map fun n => render n x unit

def ofDouble (value : Double) (decimals : Int) : Except SizeFault String :=
  let unit := SizeUnit.largest fun size => value.reaches size
  (places decimals).map fun n => render n (value.divide unit.bytes) unit

/-- Two places, as access lines show sizes. -/
def text (value : Int) : Except ArithmeticFault String :=
  let unit := SizeUnit.largest (· ≤ value.natAbs)
  (Double.quotient value unit.bytes).map fun x => render 2 x unit

end Size

end AccessLog
