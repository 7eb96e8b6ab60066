import AccessLog.Number.Decimal
import Mathlib.Algebra.Order.Ring.Nat
import Mathlib.Tactic.Ring

/-!
Digit texts of natural numbers. A text is read as a number from the left, so that zeros in front do
not count, and a padded number has its last digit at its end. Whole numbers are written up to a
power of ten (`written_cases`).
-/
namespace AccessLog.Decimal

theorem value_append (xs ys : List Char) :
    value (xs ++ ys) = value xs * 10 ^ ys.length + value ys := by
  rw [value, Nat.ofDigitChars_append, Nat.ofDigitChars_eq_ofDigitChars_zero]
  unfold value
  ring

theorem ofNat_injective : Function.Injective ofNat :=
  Function.LeftInverse.injective value_ofNat

theorem ofNat_ne_nil (n : Nat) : ofNat n ≠ [] := Nat.toDigits_ne_nil

theorem isDigit_of_mem_ofNat {n : Nat} {c : Char} (h : c ∈ ofNat n) : c.isDigit = true :=
  Nat.isDigit_of_mem_toDigits (by decide) (by decide) h

theorem not_mem_ofNat {c : Char} (hc : c.isDigit = false) (n : Nat) : c ∉ ofNat n := fun h =>
  Bool.false_ne_true (hc.symm.trans (isDigit_of_mem_ofNat h))

/-- The digits of a number end where something else follows. -/
theorem takeWhile_ofNat {c : Char} (hc : c.isDigit = false) (n : Nat) (rest : List Char) :
    (ofNat n ++ c :: rest).takeWhile Char.isDigit = ofNat n := by
  rw [List.takeWhile_append_of_pos fun _ => isDigit_of_mem_ofNat,
    List.takeWhile_cons_of_neg (by rw [hc]; decide), List.append_nil]

theorem padded_eq (width n : Nat) :
    padded width n = List.replicate (width - (ofNat n).length) '0' ++ ofNat n := rfl

theorem isDigit_of_mem_padded {width n : Nat} {c : Char} (h : c ∈ padded width n) :
    c.isDigit = true := by
  rw [padded_eq, List.mem_append] at h
  rcases h with h | h
  · rw [List.eq_of_mem_replicate h]
    rfl
  · exact isDigit_of_mem_ofNat h

@[simp] theorem value_zeros (n : Nat) : value (List.replicate n '0') = 0 := by
  rw [value, Nat.ofDigitChars_replicate_zero, Nat.mul_zero]

@[simp] theorem value_padded (width n : Nat) : value (padded width n) = n := by
  rw [padded_eq, value_append, value_ofNat, value_zeros, Nat.zero_mul, Nat.zero_add]

theorem length_padded {width n : Nat} (hw : 0 < width) (h : n < 10 ^ width) :
    (padded width n).length = width := by
  have hlen : (ofNat n).length ≤ width := (Nat.length_toDigits_le_iff (by decide) hw).mpr h
  rw [padded_eq, List.length_append, List.length_replicate]
  omega

theorem ofNat_mul_add {n d : Nat} (hn : 0 < n) (hd : d < 10) :
    ofNat (n * 10 + d) = ofNat n ++ [Nat.digitChar d] := by
  have h := Nat.toDigits_append_toDigits (b := 10) (by decide) hn hd
  rw [Nat.toDigits_of_lt_base hd] at h
  rw [Nat.mul_comm]
  exact h.symm

theorem padded_one {d : Nat} (hd : d < 10) : padded 1 d = [Nat.digitChar d] := by
  rw [padded_eq, ofNat, Nat.toDigits_of_lt_base hd]
  rfl

/-- Padding to a width and one more digit is padding to one more. -/
theorem padded_succ {width r d : Nat} (hw : 0 < width) (hr : r < 10 ^ width) (hd : d < 10) :
    padded (width + 1) (r * 10 + d) = padded width r ++ [Nat.digitChar d] := by
  have hlen := length_padded hw hr
  rw [padded_eq, List.length_append, List.length_replicate] at hlen
  rcases Nat.eq_zero_or_pos r with rfl | hpos
  · have h0 : ofNat 0 = ['0'] := rfl
    have hdig : ofNat (0 * 10 + d) = [Nat.digitChar d] := by
      rw [Nat.zero_mul, Nat.zero_add]
      exact Nat.toDigits_of_lt_base hd
    rw [padded_eq, padded_eq, hdig, h0]
    obtain ⟨w, rfl⟩ : ∃ w, width = w + 1 := ⟨width - 1, by omega⟩
    simp [List.replicate_succ']
  · rw [padded_eq, padded_eq, ofNat_mul_add hpos hd]
    simp

/-- Further places of a multiple of ten are zeros. -/
theorem padded_mul_pow {width r : Nat} (hw : 0 < width) (hr : r < 10 ^ width) (zeros : Nat) :
    padded (width + zeros) (r * 10 ^ zeros) = padded width r ++ List.replicate zeros '0' := by
  induction zeros with
  | zero => simp
  | succ j ih =>
    have hlt : r * 10 ^ j < 10 ^ (width + j) := by
      rw [Nat.pow_add]
      exact Nat.mul_lt_mul_of_pos_right hr (Nat.pow_pos (by decide))
    have hsucc := padded_succ (d := 0) (Nat.add_pos_left hw j) hlt (by decide)
    simp only [Nat.add_zero] at hsucc
    rw [← Nat.add_assoc, Nat.pow_succ, ← Nat.mul_assoc, hsucc, ih, List.append_assoc,
      List.replicate_succ']
    rfl

/-- Both digits of a number below a hundred. -/
def twoDigits (n : Nat) : List Char := [Nat.digitChar (n / 10), Nat.digitChar (n % 10)]

theorem padded_two {n : Nat} (h : n < 100) : padded 2 n = twoDigits n := by
  have hdiv : n / 10 < 10 := by omega
  have hsplit := padded_succ Nat.one_pos hdiv (Nat.mod_lt n (by decide))
  rw [Nat.div_add_mod', padded_one hdiv] at hsplit
  exact hsplit

theorem twoDigits_inj {m n : Nat} (hm : m < 100) (hn : n < 100) :
    twoDigits m = twoDigits n ↔ m = n := by
  rw [← padded_two hm, ← padded_two hn]
  constructor
  · intro h
    rw [← value_padded 2 m, h, value_padded]
  · rintro rfl
    rfl

/-- Numbers that have more digits than are written. -/
def Overlong (n : Int) : Prop := 10 ^ digitLimit ≤ n.natAbs

theorem length_ofNat_le_digitLimit_iff (n : Nat) :
    (ofNat n).length ≤ digitLimit ↔ n < 10 ^ digitLimit :=
  Nat.length_toDigits_le_iff (by decide) (by decide)

/-- A number is written out, or it has too many digits. -/
theorem written_cases (n : Int) :
    (Overlong n ∧ written n = .error .tooManyDigits) ∨
      (¬ Overlong n ∧ written n = .ok (String.ofList (ofInt n))) := by
  have hlength := length_ofNat_le_digitLimit_iff n.natAbs
  rcases Nat.lt_or_ge digitLimit (ofNat n.natAbs).length with h | h
  · exact .inl ⟨Nat.le_of_not_lt fun hn => Nat.not_le_of_lt h (hlength.mpr hn), if_pos h⟩
  · exact .inr ⟨Nat.not_le_of_lt (hlength.mp h), if_neg (Nat.not_lt_of_le h)⟩

end AccessLog.Decimal
