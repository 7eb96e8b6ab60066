import AccessLog.Calendar
import Mathlib.Order.Basic
import Mathlib.Order.Monotone.Basic

/-!
The days of the calendar numbered from the first day of the year 1. The number of a date is a sum
of the years, months and days before it. Neighbouring dates have neighbouring numbers, the two
dates without a neighbour are the ends of the numbering, and no two dates share a number.
-/
namespace AccessLog.Date

/-- The days of the first months of a year. -/
def daysInMonths (year : Nat) : Nat → Nat
  | 0 => 0
  | m + 1 => daysInMonths year m + monthLength year (m + 1)

/-- The days of the first years. -/
def daysInYears : Nat → Nat
  | 0 => 0
  | y + 1 => daysInYears y + daysInMonths (y + 1) 12

/-- The number of days before the date. -/
def dayNumber (d : Date) : Nat :=
  daysInYears (d.year - 1) + daysInMonths d.year (d.month - 1) + (d.day - 1)

@[simp] theorem daysInMonths_zero (year : Nat) : daysInMonths year 0 = 0 := rfl
@[simp] theorem daysInYears_zero : daysInYears 0 = 0 := rfl

theorem daysInMonths_succ (year m : Nat) :
    daysInMonths year (m + 1) = daysInMonths year m + monthLength year (m + 1) := rfl

/-- The last month of every year has 31 days. -/
theorem daysInYears_succ (y : Nat) :
    daysInYears (y + 1) = daysInYears y + (daysInMonths (y + 1) 11 + 31) := rfl

theorem daysInMonths_mono (year : Nat) : Monotone (daysInMonths year) :=
  monotone_nat_of_le_succ fun _ => Nat.le_add_right _ _

theorem daysInYears_mono : Monotone daysInYears :=
  monotone_nat_of_le_succ fun _ => Nat.le_add_right _ _

theorem daysInMonths_twelve (year : Nat) :
    daysInMonths year 12 = if isLeap year then 366 else 365 := by
  simp only [daysInMonths, monthLength]
  cases isLeap year <;> rfl

/-- Every fourth year has a day more, every hundredth has not, every four-hundredth has. -/
theorem daysInYears_eq (y : Nat) : daysInYears y = 365 * y + y / 4 - y / 100 + y / 400 := by
  induction y with
  | zero => rfl
  | succ y ih =>
    have hyear : daysInYears (y + 1) = daysInYears y + daysInMonths (y + 1) 12 := rfl
    rw [hyear, ih, daysInMonths_twelve]
    simp only [Nat.succ_div, Nat.dvd_iff_mod_eq_zero]
    by_cases h4 : (y + 1) % 4 = 0 <;> by_cases h100 : (y + 1) % 100 = 0 <;>
      by_cases h400 : (y + 1) % 400 = 0 <;> simp [isLeap, h4, h100, h400] <;> omega

theorem monthLength_le (year month : Nat) : monthLength year month ≤ 31 := by
  unfold monthLength
  split
  · split <;> omega
  · split <;> omega

variable {d e : Date}

theorem dayNumber_mk (y m k : Nat) :
    dayNumber ⟨y + 1, m + 1, k + 1⟩ = daysInYears y + daysInMonths (y + 1) m + k := rfl

theorem Valid.exists_mk (h : d.Valid) : ∃ y m k, d = ⟨y + 1, m + 1, k + 1⟩ := by
  obtain ⟨hy, -, hm, -, hd, -⟩ := h
  refine ⟨d.year - 1, d.month - 1, d.day - 1, ?_⟩
  rw [Nat.sub_add_cancel hy, Nat.sub_add_cancel hm, Nat.sub_add_cancel hd]

/-- A date lies within its month. -/
theorem Valid.lt_month (h : d.Valid) :
    daysInMonths d.year (d.month - 1) + (d.day - 1) < daysInMonths d.year d.month := by
  obtain ⟨y, m, k, rfl⟩ := h.exists_mk
  obtain ⟨-, -, -, -, -, hk⟩ := h
  simp only [daysInMonths_succ, Nat.add_sub_cancel] at *
  omega

/-- A date lies within its year. -/
theorem Valid.lt_year (h : d.Valid) : d.dayNumber < daysInYears d.year := by
  have hmonth := h.lt_month
  obtain ⟨y, m, k, rfl⟩ := h.exists_mk
  obtain ⟨-, -, -, hm, -, -⟩ := h
  have hmono : daysInMonths (y + 1) (m + 1) ≤ daysInMonths (y + 1) 11 + 31 :=
    daysInMonths_mono (y + 1) hm
  simp only [dayNumber_mk, daysInYears_succ, Nat.add_sub_cancel] at *
  omega

theorem daysInYears_le_dayNumber (d : Date) : daysInYears (d.year - 1) ≤ d.dayNumber := by
  rw [dayNumber]
  omega

theorem Valid.dayNumber_lt (h : d.Valid) : d.dayNumber < daysInYears 9999 :=
  h.lt_year.trans_le (daysInYears_mono h.2.1)

theorem dayNumber_lt_of_year_lt (h : d.Valid) (hlt : d.year < e.year) :
    d.dayNumber < e.dayNumber :=
  calc d.dayNumber < daysInYears d.year := h.lt_year
    _ ≤ daysInYears (e.year - 1) := daysInYears_mono (by omega)
    _ ≤ e.dayNumber := e.daysInYears_le_dayNumber

theorem dayNumber_lt_of_month_lt (h : d.Valid) (hy : d.year = e.year) (hlt : d.month < e.month) :
    d.dayNumber < e.dayNumber := by
  have hmonth := h.lt_month
  have hmono := daysInMonths_mono d.year (by omega : d.month ≤ e.month - 1)
  rw [dayNumber, dayNumber, ← hy]
  omega

/-- No two dates share a number. -/
theorem dayNumber_injective (hd : d.Valid) (he : e.Valid) (h : d.dayNumber = e.dayNumber) :
    d = e := by
  have hyear : d.year = e.year := by
    rcases Nat.lt_trichotomy d.year e.year with hlt | heq | hlt
    · exact absurd h (dayNumber_lt_of_year_lt hd hlt).ne
    · exact heq
    · exact absurd h (dayNumber_lt_of_year_lt he hlt).ne'
  have hmonth : d.month = e.month := by
    rcases Nat.lt_trichotomy d.month e.month with hlt | heq | hlt
    · exact absurd h (dayNumber_lt_of_month_lt hd hyear hlt).ne
    · exact heq
    · exact absurd h (dayNumber_lt_of_month_lt he hyear.symm hlt).ne'
  have hday : d.day = e.day := by
    obtain ⟨-, -, -, -, hd1, -⟩ := hd
    obtain ⟨-, -, -, -, he1, -⟩ := he
    rw [dayNumber, dayNumber, hyear, hmonth] at h
    omega
  cases d
  cases e
  simp_all

theorem dayNumber_next? (h : d.Valid) (he : d.next? = some e) :
    e.dayNumber = d.dayNumber + 1 := by
  obtain ⟨y, m, k, rfl⟩ := h.exists_mk
  obtain ⟨-, -, -, hm, -, hk⟩ := h
  simp only [next?] at hm hk he
  split at he
  · cases he
    rfl
  · split at he
    · cases he
      simp only [dayNumber_mk, daysInMonths_succ]
      omega
    · split at he
      · cases he
        obtain rfl : m = 11 := by omega
        have hlast : monthLength (y + 1) (11 + 1) = 31 := rfl
        simp only [dayNumber_mk, daysInYears_succ, daysInMonths_zero]
        omega
      · cases he

theorem dayNumber_previous? (h : d.Valid) (he : d.previous? = some e) :
    d.dayNumber = e.dayNumber + 1 := by
  obtain ⟨y, m, k, rfl⟩ := h.exists_mk
  simp only [previous?, Nat.add_sub_cancel] at he
  split at he
  · obtain ⟨j, rfl⟩ : ∃ j, k = j + 1 := ⟨k - 1, by omega⟩
    cases he
    simp only [dayNumber_mk]
    omega
  · obtain rfl : k = 0 := by omega
    split at he
    · obtain ⟨n, rfl⟩ : ∃ n, m = n + 1 := ⟨m - 1, by omega⟩
      have hlast := monthLength_pos (y + 1) (n + 1)
      cases he
      simp only [dayNumber, Nat.add_sub_cancel, daysInMonths_succ]
      omega
    · obtain rfl : m = 0 := by omega
      split at he
      · obtain ⟨z, rfl⟩ : ∃ z, y = z + 1 := ⟨y - 1, by omega⟩
        cases he
        simp only [dayNumber, Nat.add_sub_cancel, daysInYears_succ, daysInMonths_zero,
          Nat.reduceSub]
        omega
      · cases he

/-- Only the last day of the numbering has none after it. -/
theorem dayNumber_of_next?_eq_none (h : d.Valid) (he : d.next? = none) :
    d.dayNumber + 1 = daysInYears 9999 := by
  obtain ⟨y, m, k, rfl⟩ := h.exists_mk
  obtain ⟨-, hy, -, hm, -, hk⟩ := h
  simp only [next?] at hy hm hk he
  split at he
  · cases he
  · split at he
    · cases he
    · split at he
      · cases he
      · obtain rfl : m = 11 := by omega
        have hyear : 9999 = y + 1 := by omega
        have hlast : monthLength (y + 1) (11 + 1) = 31 := rfl
        rw [hyear, dayNumber_mk, daysInYears_succ]
        omega

/-- Only the first one has none before it. -/
theorem dayNumber_of_previous?_eq_none (h : d.Valid) (he : d.previous? = none) :
    d.dayNumber = 0 := by
  obtain ⟨y, m, k, rfl⟩ := h.exists_mk
  simp only [previous?] at he
  split at he
  · cases he
  · split at he
    · cases he
    · split at he
      · cases he
      · obtain rfl : k = 0 := by omega
        obtain rfl : m = 0 := by omega
        obtain rfl : y = 0 := by omega
        rfl

end AccessLog.Date
