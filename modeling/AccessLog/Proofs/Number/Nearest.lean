import AccessLog.Number.Double
import Mathlib.Algebra.Order.Field.Power
import Mathlib.Algebra.Order.Ring.Abs
import Mathlib.Algebra.Order.Ring.Rat
import Mathlib.Tactic.GCongr
import Mathlib.Tactic.Linarith
import Mathlib.Tactic.Ring

/-!
Where doubles lie. The value of a finite double is a rational number; `Nearest q x` says that `x` is
what a number of size `q` is rounded to. The two laws of `Nearest` locate the rounded value from
one even mantissa on, and the first of them with `overflow` says when nothing finite is near.
-/
namespace AccessLog

namespace Power

theorem cast_num {base : Nat} (hb : base ≠ 0) (e : Int) :
    (num base e : Rat) = (base : Rat) ^ e * den base e := by
  have hq : (base : Rat) ≠ 0 := by exact_mod_cast hb
  obtain ⟨n, rfl | rfl⟩ := e.eq_nat_or_neg
  · simp [num, den]
  · simp [num, den, hq]

theorem cast_num_of_nonneg {base : Nat} {e : Int} (h : 0 ≤ e) :
    (num base e : Rat) = (base : Rat) ^ e := by
  lift e to Nat using h
  simp

theorem cast_den_pos {base : Nat} (hb : 0 < base) (e : Int) : (0 : Rat) < den base e :=
  Nat.cast_pos.mpr (den_pos hb e)

end Power

/-- An even number is what a quotient rounds to from half a unit below. -/
theorem le_roundDiv_iff_of_even {n : Nat} (hn : n % 2 = 0) (num : Nat) {den : Nat} (hd : 0 < den) :
    n ≤ roundDiv num den ↔ 2 * (n * den) ≤ 2 * num + den := by
  constructor
  · intro h
    have hround := two_mul_roundDiv_le num hd
    have hmul := Nat.mul_le_mul_right den h
    omega
  · intro h
    have hdiv := Nat.div_add_mod num den
    have hmod := Nat.mod_lt num hd
    rw [Nat.mul_comm] at hdiv
    unfold roundDiv
    simp only
    generalize num / den = q at hdiv ⊢
    generalize num % den = r at hdiv hmod ⊢
    split
    · have hlt : n * den < (q + 1) * den := by rw [Nat.add_mul]; omega
      exact Nat.lt_succ_iff.mp (Nat.lt_of_mul_lt_mul_right hlt)
    · split
      · have hlt : n * den < (q + 2) * den := by rw [Nat.add_mul]; omega
        exact Nat.lt_succ_iff.mp (Nat.lt_of_mul_lt_mul_right hlt)
      · have hlt : n * den < (q + 2) * den := by rw [Nat.add_mul]; omega
        have hle := Nat.lt_of_mul_lt_mul_right hlt
        omega

theorem roundDiv_le_of_le {n num den : Nat} (hd : 0 < den) (h : num ≤ n * den) :
    roundDiv num den ≤ n := by
  have hround := two_mul_roundDiv_le num hd
  have hlt : roundDiv num den * den < (n + 1) * den := by rw [Nat.add_mul]; omega
  exact Nat.lt_succ_iff.mp (Nat.lt_of_mul_lt_mul_right hlt)

namespace Double

def isFinite : Double → Bool
  | .finite .. => true
  | _ => false

/-- The number that a finite double is. -/
def toRat : Double → Rat
  | .finite s m e => (signed s m : Rat) * 2 ^ e
  | _ => 0

/-- The mantissa that goes with `unit`. -/
def mantissa (num den : Nat) : Nat :=
  let e := unit num den
  roundDiv (num * Power.den 2 e) (den * Power.num 2 e)

/-- The rounded quotient, before it is checked for size. -/
def rounded (num den : Nat) : Rat := mantissa num den * 2 ^ unit num den

/-- The greatest finite double. -/
def greatest : Nat := (2 ^ 53 - 1) * 2 ^ 971

/-- Half way from the greatest double to `2 ^ 1024`: numbers from here on are rounded up to that. -/
def overflow : Nat := (2 ^ 54 - 1) * 2 ^ 970

section Quotient

variable {num den : Nat}

/-- The comparison of a quotient with a power of two, without fractions. -/
theorem mul_num_le_iff (hd : 0 < den) (k : Int) :
    den * Power.num 2 k ≤ num * Power.den 2 k ↔ (2 : Rat) ^ k ≤ num / den := by
  have hd' : (0 : Rat) < den := by exact_mod_cast hd
  have hp : (0 : Rat) < Power.den 2 k := Power.cast_den_pos two_pos k
  rw [le_div_iff₀ hd', ← Nat.cast_le (α := Rat), Nat.cast_mul, Nat.cast_mul,
    Power.cast_num (by decide), ← mul_assoc, mul_le_mul_iff_left₀ hp, mul_comm]
  rfl

theorem log2_bounds (hn : num ≠ 0) (hd : 0 < den) :
    (2 : Rat) ^ ((num.log2 : Int) - den.log2 - 1) ≤ num / den ∧
      (num : Rat) / den < 2 ^ ((num.log2 : Int) - den.log2 + 1) := by
  have hd' : (0 : Rat) < den := by exact_mod_cast hd
  have hn1 : (2 : Rat) ^ (num.log2 : Int) ≤ num := by exact_mod_cast Nat.log2_self_le hn
  have hn2 : (num : Rat) < 2 ^ ((num.log2 : Int) + 1) := by exact_mod_cast Nat.lt_log2_self
  have hd1 : (2 : Rat) ^ (den.log2 : Int) ≤ den := by exact_mod_cast Nat.log2_self_le hd.ne'
  have hd2 : (den : Rat) < 2 ^ ((den.log2 : Int) + 1) := by exact_mod_cast Nat.lt_log2_self
  constructor
  · rw [le_div_iff₀ hd']
    calc (2 : Rat) ^ ((num.log2 : Int) - den.log2 - 1) * den
        ≤ 2 ^ ((num.log2 : Int) - den.log2 - 1) * 2 ^ ((den.log2 : Int) + 1) := by gcongr
      _ = 2 ^ (num.log2 : Int) := by
        rw [← zpow_add₀ two_ne_zero]
        congr 1
        omega
      _ ≤ num := hn1
  · rw [div_lt_iff₀ hd']
    calc (num : Rat) < 2 ^ ((num.log2 : Int) + 1) := hn2
      _ = 2 ^ ((num.log2 : Int) - den.log2 + 1) * 2 ^ (den.log2 : Int) := by
        rw [← zpow_add₀ two_ne_zero]
        congr 1
        omega
      _ ≤ 2 ^ ((num.log2 : Int) - den.log2 + 1) * den := by gcongr

/-- A quotient has at most 53 digits before its unit, and no fewer where the unit is not the
smallest. -/
theorem unit_bounds (hn : num ≠ 0) (hd : 0 < den) :
    (unit num den = -1074 ∨ (2 : Rat) ^ (unit num den + 52) ≤ num / den) ∧
      (num : Rat) / den < 2 ^ (unit num den + 53) := by
  obtain ⟨hlow, hhigh⟩ := log2_bounds hn hd
  -- the exponent of the leading digit
  obtain ⟨top, hunit, hle, hlt⟩ : ∃ top : Int, unit num den = max (top - 52) (-1074) ∧
      (2 : Rat) ^ top ≤ num / den ∧ (num : Rat) / den < 2 ^ (top + 1) := by
    by_cases hk : (2 : Rat) ^ ((num.log2 : Int) - den.log2) ≤ num / den
    · refine ⟨(num.log2 : Int) - den.log2, ?_, hk, hhigh⟩
      simp only [unit, (mul_num_le_iff hd _).mpr hk, if_true]
    · refine ⟨(num.log2 : Int) - den.log2 - 1, ?_, hlow, ?_⟩
      · simp only [unit, mt (mul_num_le_iff hd _).mp hk, if_false]
      · rw [sub_add_cancel]
        exact lt_of_not_ge hk
  refine ⟨?_, hlt.trans_le ?_⟩
  · rcases le_or_gt (top - 52) (-1074) with h | h
    · exact .inl (by rw [hunit, max_eq_right h])
    · refine .inr (le_trans (le_of_eq ?_) hle)
      rw [hunit, max_eq_left h.le, sub_add_cancel]
  · refine zpow_le_zpow_right₀ one_le_two ?_
    omega

/-- The mantissa is the quotient in units, rounded. -/
theorem le_mantissa_iff {n : Nat} (hn : n % 2 = 0) (hd : 0 < den) :
    n ≤ mantissa num den ↔ ((n : Rat) - 1 / 2) * 2 ^ unit num den ≤ num / den := by
  have hd' : (0 : Rat) < den := by exact_mod_cast hd
  have hpos : 0 < den * Power.num 2 (unit num den) := mul_pos hd (Power.num_pos (by decide) _)
  have hp : (0 : Rat) < Power.den 2 (unit num den) := Power.cast_den_pos two_pos _
  unfold mantissa
  simp only
  rw [le_roundDiv_iff_of_even hn _ hpos, le_div_iff₀ hd', ← Nat.cast_le (α := Rat)]
  push_cast
  rw [Power.cast_num (by decide)]
  push_cast
  constructor
  · intro h
    refine le_of_mul_le_mul_right ?_ (mul_pos two_pos hp)
    linarith
  · intro h
    have hmul := mul_le_mul_of_nonneg_right h (mul_pos two_pos hp).le
    linarith

theorem mantissa_le (hn : num ≠ 0) (hd : 0 < den) : mantissa num den ≤ 2 ^ 53 := by
  have hd' : (0 : Rat) < den := by exact_mod_cast hd
  have hp : (0 : Rat) < Power.den 2 (unit num den) := Power.cast_den_pos two_pos _
  have hlt := (unit_bounds hn hd).2
  rw [div_lt_iff₀ hd', zpow_add₀ two_ne_zero] at hlt
  refine roundDiv_le_of_le (mul_pos hd (Power.num_pos (by decide) _)) ?_
  rw [← Nat.cast_le (α := Rat)]
  push_cast
  rw [Power.cast_num (by decide)]
  push_cast
  nlinarith

@[simp] theorem rounded_zero (den : Nat) : rounded 0 den = 0 := by
  simp [rounded, mantissa, roundDiv]

/-- A rounded number reaches an even mantissa from half a unit below. -/
theorem le_rounded {n : Nat} (hn : n % 2 = 0) (hlow : 2 ^ 52 < n) (hhigh : n ≤ 2 ^ 53) {e : Int}
    (he : -1074 ≤ e) (hnum : num ≠ 0) (hd : 0 < den)
    (h : ((n : Rat) - 1 / 2) * 2 ^ e ≤ num / den) : n * 2 ^ e ≤ rounded num den := by
  have hlow' : (2 : Rat) ^ (52 : Int) + 1 ≤ n := by exact_mod_cast hlow
  have hhigh' : (n : Rat) ≤ 2 ^ (53 : Int) := by exact_mod_cast hhigh
  have hpos : (0 : Rat) < 2 ^ e := zpow_pos two_pos e
  obtain ⟨hsmall, hlt⟩ := unit_bounds hnum hd
  have hunit : e ≤ unit num den := by
    have hpow : (2 : Rat) ^ (e + 52) < 2 ^ (unit num den + 53) := by
      refine lt_of_le_of_lt ?_ (h.trans_lt hlt)
      rw [zpow_add₀ two_ne_zero, mul_comm]
      gcongr
      linarith
    have := (zpow_lt_zpow_iff_right₀ one_lt_two).mp hpow
    omega
  unfold rounded
  rcases hunit.eq_or_lt with rfl | hgt
  · gcongr
    exact (le_mantissa_iff hn hd).mpr h
  · -- the unit is greater, so the mantissa is full
    have hfull : 2 ^ 52 ≤ mantissa num den := by
      rw [le_mantissa_iff (by decide) hd]
      have hle := hsmall.resolve_left (by omega)
      rw [zpow_add₀ two_ne_zero] at hle
      have hp : (0 : Rat) < 2 ^ unit num den := zpow_pos two_pos _
      rw [Nat.cast_pow, Nat.cast_ofNat]
      linarith
    have hfull' : (2 : Rat) ^ (52 : Int) ≤ mantissa num den := by exact_mod_cast hfull
    calc (n : Rat) * 2 ^ e ≤ 2 ^ (53 : Int) * 2 ^ e := by gcongr
      _ = 2 ^ (52 : Int) * 2 ^ (e + 1) := by
        rw [← zpow_add₀ two_ne_zero, ← zpow_add₀ two_ne_zero]
        congr 1
        omega
      _ ≤ mantissa num den * 2 ^ unit num den := by
        gcongr
        · exact one_le_two
        · omega

/-- Below that it stays below by a whole unit. -/
theorem rounded_le {n : Nat} (hn : n % 2 = 0) (hlow : 2 ^ 52 < n) (hhigh : n ≤ 2 ^ 53) {e : Int}
    (he : -1074 ≤ e) (hnum : num ≠ 0) (hd : 0 < den)
    (h : (num : Rat) / den < ((n : Rat) - 1 / 2) * 2 ^ e) :
    rounded num den ≤ ((n : Rat) - 1) * 2 ^ e := by
  have hlow' : (2 : Rat) ^ (52 : Int) + 1 ≤ n := by exact_mod_cast hlow
  have hhigh' : (n : Rat) ≤ 2 ^ (53 : Int) := by exact_mod_cast hhigh
  have hpos : (0 : Rat) < 2 ^ e := zpow_pos two_pos e
  have hunit : unit num den ≤ e := by
    rcases (unit_bounds hnum hd).1 with hsmall | hle
    · omega
    · have hpow : (2 : Rat) ^ (unit num den + 52) < 2 ^ (e + 53) := by
        refine (hle.trans_lt h).trans_le ?_
        rw [zpow_add₀ two_ne_zero, mul_comm (2 ^ e)]
        gcongr
        linarith
      have := (zpow_lt_zpow_iff_right₀ one_lt_two).mp hpow
      omega
  unfold rounded
  rcases hunit.eq_or_lt with rfl | hgt
  · gcongr
    have hm : mantissa num den < n :=
      lt_of_not_ge fun hm => h.not_ge ((le_mantissa_iff hn hd).mp hm)
    rw [le_sub_iff_add_le]
    exact_mod_cast hm
  · have hm : (mantissa num den : Rat) ≤ 2 ^ (53 : Int) := by exact_mod_cast mantissa_le hnum hd
    calc (mantissa num den : Rat) * 2 ^ unit num den ≤ 2 ^ (53 : Int) * 2 ^ (e - 1) := by
          gcongr
          · exact one_le_two
          · omega
      _ = 2 ^ (52 : Int) * 2 ^ e := by
        rw [← zpow_add₀ two_ne_zero, ← zpow_add₀ two_ne_zero]
        congr 1
        omega
      _ ≤ ((n : Rat) - 1) * 2 ^ e := by
        gcongr
        linarith

end Quotient

theorem overflow_eq : (overflow : Rat) = (((2 ^ 53 : Nat) : Rat) - 1 / 2) * 2 ^ (971 : Int) := by
  have hpow : (2 : Rat) ^ (971 : Int) = 2 * 2 ^ 970 := by
    rw [← zpow_natCast, ← zpow_one_add₀ two_ne_zero]
    rfl
  rw [overflow, Nat.cast_mul, Nat.cast_pow 2 970, Nat.cast_ofNat, hpow]
  generalize (2 : Rat) ^ 970 = t
  push_cast
  ring

theorem cast_greatest : (greatest : Rat) = (((2 ^ 53 : Nat) : Rat) - 1) * 2 ^ (971 : Int) := by
  rw [greatest, Nat.cast_mul, Nat.cast_pow 2 971, Nat.cast_ofNat, ← zpow_natCast]
  norm_num

theorem two_pow_1024 : (2 : Rat) ^ (1024 : Int) = ((2 ^ 53 : Nat) : Rat) * 2 ^ (971 : Int) := by
  rw [Nat.cast_pow, Nat.cast_ofNat, ← zpow_natCast, ← zpow_add₀ two_ne_zero]
  rfl

/-- The check for size is one of the rounded number. -/
theorem num_1024_le_iff {num den : Nat} (hn : num ≠ 0) (hd : 0 < den) :
    Power.num 2 1024 ≤ mantissa num den * Power.num 2 (unit num den) ↔
      (2 : Rat) ^ (1024 : Int) ≤ rounded num den := by
  have hcast : ((Power.num 2 1024 : Nat) : Rat) = 2 ^ (1024 : Int) :=
    Power.cast_num_of_nonneg (by decide)
  rw [← Nat.cast_le (α := Rat), hcast, Nat.cast_mul]
  unfold rounded
  rcases le_or_gt 0 (unit num den) with h | h
  · rw [Power.cast_num_of_nonneg h]
    rfl
  · -- with a fractional unit neither side is anywhere near
    have hm : (mantissa num den : Rat) ≤ 2 ^ (53 : Int) := by exact_mod_cast mantissa_le hn hd
    have hone : Power.num 2 (unit num den) = 1 := by
      rw [Power.num, Int.toNat_of_nonpos h.le]
    have hpow : (2 : Rat) ^ (53 : Int) < 2 ^ (1024 : Int) :=
      zpow_lt_zpow_right₀ one_lt_two (by decide)
    have hunit : (2 : Rat) ^ unit num den ≤ 1 := zpow_le_one_of_nonpos₀ one_le_two h.le
    have hle : (mantissa num den : Rat) * 2 ^ unit num den ≤ mantissa num den :=
      mul_le_of_le_one_right (Nat.cast_nonneg _) hunit
    rw [hone, Nat.cast_one, mul_one]
    exact iff_of_false (hm.trans_lt hpow).not_ge ((hle.trans hm).trans_lt hpow).not_ge

/-- A quotient is rounded to a finite double, or it is beyond all of them. -/
theorem ofRatio_cases (negative : Bool) (num : Nat) {den : Nat} (hd : 0 < den) :
    ((overflow : Rat) ≤ num / den ∧ ofRatio negative num den = .infinite negative) ∨
      ((num : Rat) / den < overflow ∧ ∃ m e, ofRatio negative num den = .finite negative m e ∧
        (m : Rat) * 2 ^ e = rounded num den) := by
  have hpos : (0 : Rat) < overflow := by
    rw [overflow_eq]
    exact mul_pos (by norm_num) (zpow_pos two_pos _)
  by_cases hn : num = 0
  · subst hn
    refine .inr ⟨by rwa [Nat.cast_zero, zero_div], 0, 0, rfl, ?_⟩
    rw [rounded_zero, Nat.cast_zero, zero_mul]
  · have hratio : ofRatio negative num den =
        if Power.num 2 1024 ≤ mantissa num den * Power.num 2 (unit num den) then
          .infinite negative
        else .finite negative (mantissa num den) (unit num den) := by
      rw [ofRatio, if_neg hn]
      rfl
    rw [hratio]
    rcases le_or_gt (overflow : Rat) (num / den) with h | h
    · refine .inl ⟨h, if_pos ((num_1024_le_iff hn hd).mpr ?_)⟩
      rw [two_pow_1024]
      rw [overflow_eq] at h
      exact le_rounded (by decide) (by decide) le_rfl (by decide) hn hd h
    · refine .inr ⟨h, _, _, if_neg (mt (num_1024_le_iff hn hd).mp ?_), rfl⟩
      rw [overflow_eq] at h
      rw [two_pow_1024]
      have hle := rounded_le (by decide) (by decide) le_rfl (by decide) hn hd h
      refine not_le_of_gt (hle.trans_lt ?_)
      gcongr
      exact sub_one_lt _

/-- The double `x` is what a number of size `q` is rounded to. -/
def Nearest (q : Rat) (x : Double) : Prop :=
  ∃ (negative : Bool) (num den : Nat),
    0 < den ∧ (num : Rat) / den = q ∧ ofRatio negative num den = x

@[simp] theorem toRat_neg (x : Double) : x.neg.toRat = -x.toRat := by
  cases x with
  | finite s m e => cases s <;> simp [neg, toRat, signed]
  | _ => simp [neg, toRat]

@[simp] theorem isFinite_neg (x : Double) : x.neg.isFinite = x.isFinite := by
  cases x <;> rfl

@[simp] theorem natAbs_signed (s : Bool) (m : Nat) : (signed s m).natAbs = m := by
  cases s <;> simp [signed]

@[simp] theorem abs_signed (s : Bool) (m : Nat) : |((signed s m : Int) : Rat)| = m := by
  rw [← Int.cast_abs, Int.abs_eq_natAbs, natAbs_signed, Int.cast_natCast]

theorem abs_toRat (s : Bool) (m : Nat) (e : Int) : |toRat (.finite s m e)| = (m : Rat) * 2 ^ e := by
  rw [toRat, abs_mul, abs_signed, abs_of_pos (zpow_pos two_pos e)]

namespace Nearest

variable {q : Rat} {x : Double}

theorem isFinite_iff (h : Nearest q x) : x.isFinite = true ↔ q < overflow := by
  obtain ⟨s, num, den, hd, rfl, rfl⟩ := h
  rcases ofRatio_cases s num hd with ⟨hq, hx⟩ | ⟨hq, m, e, hx, -⟩
  · rw [hx]
    exact iff_of_false Bool.false_ne_true hq.not_gt
  · rw [hx]
    exact iff_of_true rfl hq

/-- What is not finite then is infinite. -/
theorem eq_infinite (h : Nearest q x) (hx : x.isFinite = false) : ∃ s, x = .infinite s := by
  obtain ⟨s, num, den, hd, rfl, rfl⟩ := h
  rcases ofRatio_cases s num hd with ⟨-, hinf⟩ | ⟨-, m, e, hfin, -⟩
  · exact ⟨s, hinf⟩
  · rw [hfin] at hx
    cases hx

theorem abs_eq_rounded (h : Nearest q x) (hx : x.isFinite = true) :
    ∃ num den : Nat, 0 < den ∧ (num : Rat) / den = q ∧ |x.toRat| = rounded num den := by
  obtain ⟨s, num, den, hd, hq, rfl⟩ := h
  rcases ofRatio_cases s num hd with ⟨-, hinf⟩ | ⟨-, m, e, hfin, hround⟩
  · rw [hinf] at hx
    cases hx
  · exact ⟨num, den, hd, hq, by rw [hfin, abs_toRat, hround]⟩

variable {n : Nat} (hn : n % 2 = 0) (hlow : 2 ^ 52 < n) (hhigh : n ≤ 2 ^ 53) {e : Int}
  (he : -1074 ≤ e)

include hn hlow hhigh he

/-- A double reaches an even mantissa if the number does so up to half a unit. -/
theorem le_abs (h : Nearest q x) (hx : x.isFinite = true)
    (hq : ((n : Rat) - 1 / 2) * 2 ^ e ≤ q) : (n : Rat) * 2 ^ e ≤ |x.toRat| := by
  obtain ⟨num, den, hd, rfl, habs⟩ := h.abs_eq_rounded hx
  have hn1 : (1 : Rat) ≤ n := by exact_mod_cast (Nat.one_le_two_pow.trans hlow.le)
  have hnum : num ≠ 0 := by
    rintro rfl
    have hpos : 0 < ((n : Rat) - 1 / 2) * 2 ^ e := mul_pos (by linarith) (zpow_pos two_pos e)
    rw [Nat.cast_zero, zero_div] at hq
    exact absurd hq (not_le_of_gt hpos)
  rw [habs]
  exact le_rounded hn hlow hhigh he hnum hd hq

/-- Otherwise it is a whole unit below that. -/
theorem abs_le (h : Nearest q x) (hx : x.isFinite = true)
    (hq : q < ((n : Rat) - 1 / 2) * 2 ^ e) : |x.toRat| ≤ ((n : Rat) - 1) * 2 ^ e := by
  obtain ⟨num, den, hd, rfl, habs⟩ := h.abs_eq_rounded hx
  rw [habs]
  by_cases hnum : num = 0
  · subst hnum
    have hn1 : (1 : Rat) ≤ n := by exact_mod_cast (Nat.one_le_two_pow.trans hlow.le)
    rw [rounded_zero]
    exact mul_nonneg (by linarith) (zpow_pos two_pos e).le
  · exact rounded_le hn hlow hhigh he hnum hd hq

omit hn hlow hhigh he

/-- A finite double is none beyond the greatest one. -/
theorem abs_le_greatest (h : Nearest q x) (hx : x.isFinite = true) : |x.toRat| ≤ greatest := by
  have hq := h.isFinite_iff.mp hx
  rw [overflow_eq] at hq
  rw [cast_greatest]
  exact h.abs_le (by decide) (by decide) le_rfl (by decide) hx hq

end Nearest

/-- The exact result of an operation is rounded once. -/
theorem nearest_ofScaled (z : Bool) (n : Int) (e : Int) :
    Nearest |(n : Rat) * 2 ^ e| (ofScaled z n e) := by
  refine ⟨_, _, _, Power.den_pos (by decide) e, ?_, rfl⟩
  have hp : (Power.den 2 e : Rat) ≠ 0 := (Power.cast_den_pos two_pos e).ne'
  have hpow : |(2 : Rat) ^ e| = 2 ^ e := abs_of_pos (zpow_pos two_pos e)
  rw [Nat.cast_mul, Power.cast_num (by decide), abs_mul, hpow, ← mul_assoc,
    mul_div_cancel_right₀ _ hp, Nat.cast_natAbs, Int.cast_abs]
  rfl

theorem cast_atExponent (s : Bool) (m : Nat) {e low : Int} (h : low ≤ e) :
    (atExponent s m e low : Rat) * 2 ^ low = toRat (.finite s m e) := by
  have hpow : (Power.num 2 (e - low) : Rat) * 2 ^ low = 2 ^ e := by
    rw [Power.cast_num_of_nonneg (sub_nonneg.mpr h), Nat.cast_ofNat, ← zpow_add₀ two_ne_zero,
      sub_add_cancel]
  cases s <;> simp [atExponent, signed, toRat, mul_assoc, hpow]

theorem nearest_add {x y : Double} (hx : x.isFinite = true) (hy : y.isFinite = true) :
    Nearest |x.toRat + y.toRat| (x.add y) := by
  cases x with
  | nan | infinite => cases hx
  | finite s m e =>
    cases y with
    | nan | infinite => cases hy
    | finite t n f =>
      rw [← cast_atExponent s m (min_le_left e f), ← cast_atExponent t n (min_le_right e f),
        ← add_mul, ← Int.cast_add]
      exact nearest_ofScaled _ _ _

theorem nearest_sub {x y : Double} (hx : x.isFinite = true) (hy : y.isFinite = true) :
    Nearest |x.toRat - y.toRat| (x.sub y) := by
  rw [sub_eq_add_neg, ← toRat_neg]
  exact nearest_add hx (by rwa [isFinite_neg])

theorem nearest_scale (k : Nat) {x : Double} (hx : x.isFinite = true) :
    Nearest (k * |x.toRat|) (x.scale k) := by
  cases x with
  | nan | infinite => cases hx
  | finite s m e =>
    have hk : (k : Rat) * |toRat (.finite s m e)| = |((signed s (m * k) : Int) : Rat) * 2 ^ e| := by
      rw [abs_toRat, abs_mul, abs_signed, abs_of_pos (zpow_pos two_pos e), Nat.cast_mul]
      ring
    rw [hk]
    exact nearest_ofScaled _ _ _

/-- A quotient of whole numbers is refused exactly if no finite double is near it. -/
theorem quotient_cases (a : Int) {b : Nat} (hb : 0 < b) :
    (overflow * b ≤ a.natAbs ∧ quotient a b = .error .quotientTooLarge) ∨
      (a.natAbs < overflow * b ∧ ∃ x, quotient a b = .ok x ∧ x.isFinite = true ∧
        Nearest (a.natAbs / b) x) := by
  have hb' : (0 : Rat) < b := by exact_mod_cast hb
  rcases ofRatio_cases (a < 0) a.natAbs hb with ⟨hq, hx⟩ | ⟨hq, m, e, hx, -⟩
  · rw [le_div_iff₀ hb'] at hq
    refine .inl ⟨by exact_mod_cast hq, ?_⟩
    rw [quotient, hx]
  · rw [div_lt_iff₀ hb'] at hq
    refine .inr ⟨by exact_mod_cast hq, _, ?_, ?_, _, _, _, hb, rfl, hx⟩
    · rw [quotient, hx]
    · rfl

/-- A finite double has a nearest whole number, no greater than the greatest double. -/
theorem exists_round {x : Double} (hx : x.isFinite = true) {bound : Nat} (h : |x.toRat| ≤ bound) :
    ∃ n, x.round = .ok n ∧ n.natAbs ≤ bound := by
  cases x with
  | nan | infinite => cases hx
  | finite s m e =>
    refine ⟨_, rfl, ?_⟩
    rw [natAbs_signed]
    refine roundDiv_le_of_le (Power.den_pos (by decide) e) ?_
    rw [abs_toRat] at h
    rw [← Nat.cast_le (α := Rat), Nat.cast_mul, Nat.cast_mul, Power.cast_num (by decide),
      ← mul_assoc]
    gcongr
    exact h

theorem exists_floor {x : Double} (hx : x.isFinite = true) : ∃ n, x.floor = .ok n := by
  cases x with
  | nan | infinite => cases hx
  | finite s m e => exact ⟨_, rfl⟩

end Double
end AccessLog
