import AccessLog.Proofs.Number.HalfEven
import AccessLog.Proofs.Number.Nearest
import Mathlib.Tactic.FieldSimp

/-!
Rounding to doubles as a relation between rational numbers. It keeps the order and fixes what a
double can be, whatever the units on both sides, and every operation of doubles is the exact one
rounded in this way once.
-/
namespace AccessLog.Double

/-- Near `q` doubles are whole multiples of `2 ^ e`. -/
structure HasUnit (q : Rat) (e : Int) : Prop where
  least : -1074 ≤ e
  lt : |q| < 2 ^ (e + 53)
  le : e = -1074 ∨ 2 ^ (e + 52) ≤ |q|

/-- The value `y` is the nearest to `q` that doubles have without a bound on their size; of two
equally near ones it is the even multiple of the unit. -/
def Rounds (q y : Rat) : Prop :=
  ∃ e k : Int, HasUnit q e ∧ HalfEven (q / 2 ^ e) k ∧ y = k * 2 ^ e

/-- A multiple of a power of two by less than `2 ^ 53`. -/
def Representable (q : Rat) : Prop :=
  ∃ n e : Int, n.natAbs < 2 ^ 53 ∧ -1074 ≤ e ∧ q = n * 2 ^ e

variable {q r y z : Rat} {e f : Int}

theorem two_zpow_add (a b : Int) : (2 : Rat) ^ (a + b) = 2 ^ a * 2 ^ b :=
  zpow_add₀ two_ne_zero a b

theorem HasUnit.mono (h : HasUnit q e) (h' : HasUnit r f) (hle : |q| ≤ |r|) : e ≤ f := by
  rcases h.le with he | he
  · have := h'.least
    omega
  · have hpow : (2 : Rat) ^ (e + 52) < 2 ^ (f + 53) := (he.trans hle).trans_lt h'.lt
    have := (zpow_lt_zpow_iff_right₀ one_lt_two).mp hpow
    omega

namespace Rounds

theorem neg (h : Rounds q y) : Rounds (-q) (-y) := by
  obtain ⟨e, k, hunit, hk, rfl⟩ := h
  refine ⟨e, -k, ?_, ?_, ?_⟩
  · exact ⟨hunit.least, by rw [abs_neg]; exact hunit.lt, by rw [abs_neg]; exact hunit.le⟩
  · rw [neg_div]
    exact hk.neg
  · rw [Int.cast_neg, neg_mul]

theorem nonneg (h : Rounds q y) (hq : 0 ≤ q) : 0 ≤ y := by
  obtain ⟨e, k, -, hk, rfl⟩ := h
  have hpos : (0 : Rat) < 2 ^ e := zpow_pos two_pos e
  have hk0 : 0 ≤ k := hk.ge_of_ge (by rw [Int.cast_zero]; positivity)
  have : (0 : Rat) ≤ k := by exact_mod_cast hk0
  positivity

theorem nonpos (h : Rounds q y) (hq : q ≤ 0) : y ≤ 0 :=
  neg_nonneg.mp (h.neg.nonneg (neg_nonneg.mpr hq))

theorem abs (h : Rounds q y) : Rounds |q| |y| := by
  rcases le_total 0 q with hq | hq
  · rwa [abs_of_nonneg hq, abs_of_nonneg (h.nonneg hq)]
  · rw [abs_of_nonpos hq, abs_of_nonpos (h.nonpos hq)]
    exact h.neg

/-- With a smaller unit a number is below every number with a greater one, also after rounding:
the mantissa of the first is at most `2 ^ 53`, and that of the second at least half of it. -/
theorem mono_of_nonneg (h : Rounds q y) (h' : Rounds r z) (hq : 0 ≤ q) (hle : q ≤ r) : y ≤ z := by
  obtain ⟨e, k, hunit, hk, rfl⟩ := h
  obtain ⟨f, l, hunit', hl, rfl⟩ := h'
  have he : (0 : Rat) < 2 ^ e := zpow_pos two_pos e
  have hf : (0 : Rat) < 2 ^ f := zpow_pos two_pos f
  have habs : |q| = q := abs_of_nonneg hq
  have habs' : |r| = r := abs_of_nonneg (hq.trans hle)
  rcases (hunit.mono hunit' (by rwa [habs, habs'])).eq_or_lt with rfl | hlt
  · have hkl : k ≤ l := hk.mono hl (by gcongr)
    gcongr
  · have hk53 : k ≤ 2 ^ 53 := by
      refine hk.le_of_le ?_
      rw [div_le_iff₀ he]
      have := hunit.lt
      rw [habs, add_comm, two_zpow_add] at this
      exact this.le
    have hl52 : 2 ^ 52 ≤ l := by
      refine hl.ge_of_ge ?_
      rw [le_div_iff₀ hf]
      have hleast := hunit.least
      have := hunit'.le.resolve_left (by omega)
      rw [habs', add_comm, two_zpow_add] at this
      exact this
    have hk53' : (k : Rat) ≤ 2 ^ (53 : Int) := by exact_mod_cast hk53
    have hl52' : (2 : Rat) ^ (52 : Int) ≤ l := by exact_mod_cast hl52
    calc (k : Rat) * 2 ^ e ≤ 2 ^ (53 : Int) * 2 ^ e := by gcongr
      _ = 2 ^ (52 : Int) * 2 ^ (e + 1) := by
        rw [← two_zpow_add, ← two_zpow_add]
        congr 1
        omega
      _ ≤ l * 2 ^ f := by
        gcongr
        · exact one_le_two
        · omega

theorem mono (h : Rounds q y) (h' : Rounds r z) (hle : q ≤ r) : y ≤ z := by
  rcases le_total 0 q with hq | hq
  · exact h.mono_of_nonneg h' hq hle
  · rcases le_total 0 r with hr | hr
    · exact (h.nonpos hq).trans (h'.nonneg hr)
    · exact neg_le_neg_iff.mp
        (h'.neg.mono_of_nonneg h.neg (neg_nonneg.mpr hr) (neg_le_neg hle))

/-- What a double can be is not changed. -/
theorem eq_of_representable (h : Rounds q y) (hq : Representable q) : y = q := by
  obtain ⟨e, k, hunit, hk, rfl⟩ := h
  obtain ⟨n, f, hn, hf, rfl⟩ := hq
  have hfe : e ≤ f := by
    rcases hunit.le with he | he
    · omega
    · have hn' : (n.natAbs : Rat) < 2 ^ (53 : Int) := by exact_mod_cast hn
      have habs : |(n : Rat) * 2 ^ f| < 2 ^ (f + 53) := by
        rw [abs_mul, abs_of_pos (zpow_pos two_pos f : (0 : Rat) < 2 ^ f), ← Int.cast_abs, Int.abs_eq_natAbs,
          Int.cast_natCast, add_comm, two_zpow_add]
        gcongr
      have := (zpow_lt_zpow_iff_right₀ one_lt_two).mp (he.trans_lt habs)
      omega
  -- a whole number of units
  obtain ⟨j, hj⟩ := Int.le.dest hfe
  have hwhole : (n : Rat) * 2 ^ f / 2 ^ e = ((n * 2 ^ j : Int) : Rat) := by
    rw [← hj, two_zpow_add, zpow_natCast]
    push_cast
    field_simp
  rw [hwhole] at hk
  rw [hk.eq_of_intCast, ← hwhole, div_mul_cancel₀ _ (zpow_ne_zero e two_ne_zero)]

theorem zero : Rounds 0 0 :=
  ⟨-1074, 0, ⟨le_rfl, by rw [abs_zero]; exact zpow_pos two_pos _, .inl rfl⟩,
    by rw [zero_div]; exact HalfEven.intCast 0, by rw [Int.cast_zero, zero_mul]⟩

end Rounds

section Quotient

variable {num den : Nat}

theorem rounds_rounded (hd : 0 < den) : Rounds (num / den) (rounded num den) := by
  rcases Nat.eq_zero_or_pos num with rfl | hn
  · rw [rounded_zero, Nat.cast_zero, zero_div]
    exact Rounds.zero
  · obtain ⟨hsmall, hlt⟩ := unit_bounds hn.ne' hd
    have habs : |(num : Rat) / den| = num / den := abs_of_nonneg (by positivity)
    refine ⟨unit num den, mantissa num den, ⟨?_, by rwa [habs], by rwa [habs]⟩, ?_, ?_⟩
    · exact le_max_right _ _
    · have hratio : (num : Rat) / den / 2 ^ unit num den =
          (num * Power.den 2 (unit num den) : Nat) / (den * Power.num 2 (unit num den) : Nat) := by
        have hp : (Power.den 2 (unit num den) : Rat) ≠ 0 := (Power.cast_den_pos two_pos _).ne'
        have hz : (2 : Rat) ^ unit num den ≠ 0 := zpow_ne_zero _ two_ne_zero
        rw [Nat.cast_mul, Nat.cast_mul, Power.cast_num (by decide), Nat.cast_ofNat]
        field_simp
      rw [hratio]
      exact halfEven_roundDiv _ (mul_pos hd (Power.num_pos (by decide) _))
    · rw [Int.cast_natCast]
      rfl

/-- A finite quotient has the sign that it is given. -/
theorem exists_finite_ofRatio (s : Bool) (hd : 0 < den)
    (h : (ofRatio s num den).isFinite = true) : ∃ m e, ofRatio s num den = .finite s m e ∧
      Rounds (num / den) (m * 2 ^ e) := by
  rcases ofRatio_cases s num hd with ⟨-, hx⟩ | ⟨-, m, e, hx, hround⟩
  · rw [hx] at h
    cases h
  · exact ⟨m, e, hx, hround ▸ rounds_rounded hd⟩

theorem rounds_ofRatio (s : Bool) (hd : 0 < den) (h : (ofRatio s num den).isFinite = true) :
    Rounds ((signed s num : Int) / den) (ofRatio s num den).toRat := by
  obtain ⟨m, e, hx, hround⟩ := exists_finite_ofRatio s hd h
  rw [hx, toRat]
  cases s with
  | false => exact hround
  | true =>
    simp only [signed, if_true, Int.cast_neg, Int.cast_natCast, neg_div, neg_mul]
    exact hround.neg

end Quotient

/-- Every number has a double nearest to it. -/
theorem exists_rounds (q : Rat) : ∃ y, Rounds q y := by
  have habs : Rounds |q| (rounded q.num.natAbs q.den) := by
    rw [Rat.abs_def, Rat.divInt_eq_div]
    exact rounds_rounded q.den_pos
  rcases abs_choice q with h | h
  · exact ⟨_, h ▸ habs⟩
  · exact ⟨_, neg_neg q ▸ h ▸ habs.neg⟩

theorem Representable.rounds (h : Representable q) : Rounds q q := by
  obtain ⟨y, hy⟩ := exists_rounds q
  exact hy.eq_of_representable h ▸ hy

theorem representable_natCast {n : Nat} (h : n < 2 ^ 53) : Representable n :=
  ⟨n, 0, by simpa using h, by decide, by simp⟩

namespace Rounds

/-- Rounding does not pass what a double can be. -/
theorem le_of_le (h : Rounds q y) (hr : Representable r) (hle : q ≤ r) : y ≤ r :=
  h.mono hr.rounds hle

theorem ge_of_ge (h : Rounds q y) (hr : Representable r) (hle : r ≤ q) : r ≤ y :=
  hr.rounds.mono h hle

end Rounds

theorem signed_natAbs (a : Int) : signed (a < 0) a.natAbs = a := by
  rw [signed]
  simp only [decide_eq_true_eq]
  split <;> omega

/-- A quotient of whole numbers is the exact one rounded, with its sign. -/
theorem rounds_quotient {a : Int} {b : Nat} {x : Double} (hb : 0 < b) (h : quotient a b = .ok x) :
    ∃ m e, x = .finite (a < 0) m e ∧ Rounds (a / b) x.toRat := by
  have hx : ofRatio (a < 0) a.natAbs b = x ∧ x.isFinite = true := by
    rcases ofRatio_cases (a < 0) a.natAbs hb with ⟨-, hinf⟩ | ⟨-, m, e, hfin, -⟩
    · rw [quotient, hinf] at h
      cases h
    · rw [quotient, hfin] at h
      rw [hfin, ← Except.ok.inj h]
      exact ⟨rfl, rfl⟩
  obtain ⟨rfl, hfin⟩ := hx
  obtain ⟨m, e, hx, -⟩ := exists_finite_ofRatio _ hb hfin
  have hround := rounds_ofRatio _ hb hfin
  rw [signed_natAbs] at hround
  exact ⟨m, e, hx, hround⟩

theorem rounds_ofScaled {z : Bool} {n e : Int} (h : (ofScaled z n e).isFinite = true) :
    Rounds (n * 2 ^ e) (ofScaled z n e).toRat := by
  have hround := rounds_ofRatio _ (Power.den_pos (by decide) e) h
  have hp : (Power.den 2 e : Rat) ≠ 0 := (Power.cast_den_pos two_pos e).ne'
  have hsigned : ((signed (if n = 0 then z else n < 0) (n.natAbs * Power.num 2 e) : Int) : Rat) =
      n * Power.num 2 e := by
    by_cases hn : n = 0
    · subst hn
      cases z <;> simp [signed]
    · rw [if_neg hn]
      conv_rhs => rw [← signed_natAbs n]
      cases decide (n < 0) <;> simp [signed]
  rw [hsigned, Power.cast_num (by decide), Nat.cast_ofNat, ← mul_assoc,
    mul_div_cancel_right₀ _ hp] at hround
  exact hround

theorem rounds_add {x y : Double} (hx : x.isFinite = true) (hy : y.isFinite = true)
    (h : (x.add y).isFinite = true) : Rounds (x.toRat + y.toRat) (x.add y).toRat := by
  cases x with
  | nan | infinite => cases hx
  | finite s m e =>
    cases y with
    | nan | infinite => cases hy
    | finite t n f =>
      rw [← cast_atExponent s m (min_le_left e f), ← cast_atExponent t n (min_le_right e f),
        ← add_mul, ← Int.cast_add]
      exact rounds_ofScaled h

end AccessLog.Double
