import AccessLog.Number.Rounding
import Mathlib.Algebra.Order.Field.Basic
import Mathlib.Algebra.Order.Ring.Abs
import Mathlib.Algebra.Order.Ring.Rat
import Mathlib.Tactic.Linarith
import Mathlib.Tactic.Ring

/-!
Rounding to whole numbers as a relation. It is a function of the rational number, keeps the order
and the sign, and fixes whole numbers; `halfEven_roundDiv` says that quotients are rounded so.
-/
namespace AccessLog

/-- `k` is the whole number nearest to `q`, and the even one where two are equally near. -/
structure HalfEven (q : Rat) (k : Int) : Prop where
  near : |q - k| ≤ 1 / 2
  even : |q - k| = 1 / 2 → 2 ∣ k

theorem halfEven_roundDiv (num : Nat) {den : Nat} (hd : 0 < den) :
    HalfEven (num / den) (roundDiv num den : Nat) := by
  have hd' : (0 : Rat) < den := by exact_mod_cast hd
  -- what is left over, as a part of the divisor
  obtain ⟨f, hf, hq⟩ : ∃ f : Rat, f = (num % den : Nat) / den ∧
      (num : Rat) / den = (num / den : Nat) + f := by
    refine ⟨_, rfl, ?_⟩
    rw [div_eq_iff hd'.ne', add_mul, div_mul_cancel₀ _ hd'.ne']
    exact_mod_cast (Nat.div_add_mod' num den).symm
  have hf0 : 0 ≤ f := by rw [hf]; positivity
  have hf1 : f < 1 := by
    rw [hf, div_lt_one hd']
    exact_mod_cast Nat.mod_lt num hd
  have hlow : 2 * (num % den) < den ↔ f < 1 / 2 := by
    rw [hf, div_lt_iff₀ hd', ← Nat.cast_lt (α := Rat)]
    push_cast
    constructor <;> intro h <;> linarith
  have hhigh : den < 2 * (num % den) ↔ 1 / 2 < f := by
    rw [hf, lt_div_iff₀ hd', ← Nat.cast_lt (α := Rat)]
    push_cast
    constructor <;> intro h <;> linarith
  rw [hq]
  unfold roundDiv
  simp only [hlow, hhigh]
  generalize num / den = n
  split
  · have habs : |(n : Rat) + f - ((n : Int) : Rat)| = f := by
      rw [Int.cast_natCast, add_sub_cancel_left, abs_of_nonneg hf0]
    exact ⟨by linarith, fun h => by linarith⟩
  · split
    · have habs : |(n : Rat) + f - ((n + 1 : Nat) : Int)| = 1 - f := by
        rw [Int.cast_natCast, Nat.cast_add_one, add_sub_add_left_eq_sub, abs_sub_comm,
          abs_of_pos (by linarith)]
      exact ⟨by linarith, fun h => by linarith⟩
    · -- exactly between two whole numbers
      obtain rfl : f = 1 / 2 := by linarith
      refine ⟨?_, fun _ => by omega⟩
      rcases Nat.mod_two_eq_zero_or_one n with h | h <;> rw [h] <;> push_cast <;>
        rw [abs_le] <;> constructor <;> linarith

namespace HalfEven

variable {q r : Rat} {k l : Int}

theorem le_add (h : HalfEven q k) : (k : Rat) ≤ q + 1 / 2 := by
  have := (abs_le.mp h.near).1
  linarith

theorem sub_le (h : HalfEven q k) : q - 1 / 2 ≤ k := by
  have := (abs_le.mp h.near).2
  linarith

/-- A greater number is not rounded to a smaller one: between neighbours only the even one is a
tie's. -/
theorem mono (h : HalfEven q k) (h' : HalfEven r l) (hle : q ≤ r) : k ≤ l := by
  by_contra hlt
  have hlt' : (l : Rat) + 1 ≤ k := by exact_mod_cast not_le.mp hlt
  have hk := h.le_add
  have hl := h'.sub_le
  have hq : q = k - 1 / 2 := by linarith
  have hr : r = l + 1 / 2 := by linarith
  have hkl : (k : Rat) = l + 1 := by linarith
  have hkeven := h.even (by rw [hq, sub_sub_cancel_left, abs_neg, abs_of_pos (by norm_num)])
  have hleven := h'.even (by rw [hr, add_sub_cancel_left, abs_of_pos (by norm_num)])
  have hkl' : k = l + 1 := by exact_mod_cast hkl
  omega

theorem unique (h : HalfEven q k) (h' : HalfEven q l) : k = l :=
  le_antisymm (h.mono h' le_rfl) (h'.mono h le_rfl)

theorem neg (h : HalfEven q k) : HalfEven (-q) (-k) := by
  have habs : |-q - ((-k : Int) : Rat)| = |q - k| := by
    rw [Int.cast_neg, neg_sub_neg, abs_sub_comm]
  exact ⟨habs ▸ h.near, fun ht => (h.even (habs ▸ ht)).neg_right⟩

theorem intCast (n : Int) : HalfEven n n := by
  constructor
  · rw [sub_self, abs_zero]
    norm_num
  · intro h
    rw [sub_self, abs_zero] at h
    norm_num at h

theorem eq_of_intCast {n : Int} (h : HalfEven n k) : k = n := h.unique (intCast n)

theorem le_of_le {n : Int} (h : HalfEven q k) (hle : q ≤ n) : k ≤ n := h.mono (intCast n) hle

theorem ge_of_ge {n : Int} (h : HalfEven q k) (hle : n ≤ q) : n ≤ k := (intCast n).mono h hle

/-- An even number is reached from half a unit below: there the tie goes up to it. -/
theorem le_iff_of_even {n : Int} (h : HalfEven q k) (hn : 2 ∣ n) : n ≤ k ↔ (n : Rat) - 1 / 2 ≤ q := by
  constructor
  · intro hle
    have hle' : (n : Rat) ≤ k := by exact_mod_cast hle
    have := h.le_add
    linarith
  · intro hle
    by_contra hlt
    have hlt' : (k : Rat) + 1 ≤ n := by exact_mod_cast not_le.mp hlt
    have hk := h.sub_le
    have hq : q = k + 1 / 2 := by linarith
    have hkn : (k : Rat) + 1 = n := by linarith
    have hkeven := h.even (by rw [hq, add_sub_cancel_left, abs_of_pos (by norm_num)])
    have hkn' : k + 1 = n := by exact_mod_cast hkn
    omega

end HalfEven

end AccessLog
