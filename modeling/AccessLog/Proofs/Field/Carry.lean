import AccessLog.Proofs.Field.Bytes

/-!
The number in front of the unit. The unit is taken for the number of bytes and the quotient is
rounded after that, so that just below a larger unit rounding carries to 1024 of the unit before it.
`Carries` says where, and everywhere else the number is at least 1 and below 1024.
-/
namespace AccessLog

open Double (Rounds)

namespace SizeUnit

theorem bytes_le_petabyte (u : SizeUnit) : u.bytes ≤ petabyte.bytes := by
  cases u <;> decide

theorem IsLargest.bytes_le {u : SizeUnit} {n : Nat} (h : u.IsLargest n) (hn : 0 < n) :
    u.bytes ≤ n := by
  rcases h.reached with rfl | hle
  · exact hn
  · exact hle

end SizeUnit

namespace Size

/-- The number misses a larger unit `w`, and by no more than half of the last place of the unit
before it, which is `w.bytes / 1024`. -/
def Carries (places n : Nat) : Prop :=
  ∃ w : SizeUnit, n < w.bytes ∧ 2048 * 10 ^ places * (w.bytes - n) ≤ w.bytes

instance (places n : Nat) : Decidable (Carries places n) :=
  decidable_of_iff (∃ w ∈ [SizeUnit.byte, .kilobyte, .megabyte, .gigabyte, .terabyte, .petabyte],
      n < w.bytes ∧ 2048 * 10 ^ places * (w.bytes - n) ≤ w.bytes)
    ⟨fun ⟨w, _, h⟩ => ⟨w, h⟩, fun ⟨w, h⟩ => ⟨w, by cases w <;> decide, h⟩⟩

section Carries

variable {places n : Nat} {u w : SizeUnit}

/-- No other larger unit is near: the next but one is 1024 times as far away. -/
theorem carries_iff (hu : u.IsLargest n) (hn : 0 < n) (hw : w.bytes = 1024 * u.bytes) :
    Carries places n ↔ 2048 * 10 ^ places * (w.bytes - n) ≤ w.bytes := by
  have hpos := u.bytes_pos
  constructor
  · rintro ⟨w', hlt, hle⟩
    obtain ⟨v, hv, hvle, hnv⟩ := hu.exists_next ((hu.bytes_le hn).trans_lt hlt)
    have hvw : v.bytes = w.bytes := hv.trans hw.symm
    rcases hvle.eq_or_lt with heq | hfar
    · rwa [← hvw, heq]
    · obtain ⟨v', hv', hv'le⟩ := SizeUnit.exists_next hfar
      have hplaces : 1 ≤ 10 ^ places := Nat.pow_pos (by decide)
      have hscale := Nat.mul_le_mul_right (w'.bytes - n) (Nat.mul_le_mul_left 2048 hplaces)
      omega
  · intro hle
    obtain ⟨v, hv, -, hnv⟩ := hu.exists_next (w := w) (by omega)
    exact ⟨w, by omega, hle⟩

theorem not_carries (h : SizeUnit.petabyte.bytes ≤ n) : ¬ Carries places n := by
  rintro ⟨w, hlt, -⟩
  have := w.bytes_le_petabyte
  omega

/-- An exact quotient is rounded to 1024 from half of the last place below it: 1024 is even. -/
theorem le_rounded_iff (hw : w.bytes = 1024 * u.bytes) (hlt : n < w.bytes) {k : Int}
    (hk : HalfEven (n / u.bytes * 10 ^ places) k) :
    (1024 * 10 ^ places : Nat) ≤ k ↔ 2048 * 10 ^ places * (w.bytes - n) ≤ w.bytes := by
  have hu : (0 : Rat) < u.bytes := by exact_mod_cast u.bytes_pos
  obtain ⟨gap, hgap⟩ := Nat.exists_eq_add_of_lt hlt
  have hmissing : w.bytes - n = gap + 1 := by omega
  have hn : (n : Rat) = 1024 * u.bytes - (gap + 1 : Nat) := by
    have : (n : Rat) + (gap + 1 : Nat) = 1024 * u.bytes := by exact_mod_cast hgap.symm.trans hw
    linarith
  have hquotient : (n : Rat) / u.bytes * 10 ^ places =
      1024 * 10 ^ places - (gap + 1 : Nat) * 10 ^ places / u.bytes := by
    rw [hn]
    field_simp
  have heven : (2 : Int) ∣ (1024 * 10 ^ places : Nat) := by
    exact_mod_cast Dvd.dvd.mul_right (by decide : 2 ∣ 1024) (10 ^ places)
  rw [hk.le_iff_of_even heven, hquotient, hmissing, hw, ← Nat.cast_le (α := Rat)]
  push_cast
  rw [sub_le_sub_iff_left, div_le_iff₀ hu]
  constructor <;> intro h <;> linarith

end Carries

/-- Rounding reaches 1024 where it carries, and it never passes it. -/
theorem rounded_lt_iff {places n : Nat} {u : SizeUnit} {x : Rat} {k : Int} (hu : u.IsLargest n)
    (hn : 0 < n) (hhigh : n < 1024 ^ 6 - 1024 ^ 5) (hx : Rounds ((n : Int) / u.bytes) x)
    (hk : HalfEven (x * 10 ^ places) k) :
    k ≤ (1024 * 10 ^ places : Nat) ∧ (k < (1024 * 10 ^ places : Nat) ↔ ¬ Carries places n) := by
  have hpos : 0 < 10 ^ places := Nat.pow_pos (by decide)
  rcases Nat.lt_or_ge n SizeUnit.petabyte.bytes with hlt | hge
  · -- the quotient is exact
    obtain ⟨w, hw, hwle, hnw⟩ := hu.exists_next ((hu.bytes_le hn).trans_lt hlt)
    have hsmall : SizeUnit.petabyte.bytes < 2 ^ 53 := by decide
    obtain rfl := hx.eq_of_representable (representable_quotient (by omega) u)
    refine ⟨Shows.le_of_le_mul (by decide) hx hk (by omega), ?_⟩
    rw [carries_iff hu hn hw, ← le_rounded_iff hw hnw hk, not_le]
  · -- up to 1023 of the greatest unit: whatever the quotient is rounded to, 1023 is not passed
    have hunit := hu.largest .petabyte hge
    have hbound : 1024 ^ 6 - 1024 ^ 5 = 1023 * SizeUnit.petabyte.bytes := by decide
    have hk' := Shows.le_of_le_mul (b := 1023) (by decide) hx hk (by omega)
    have hlt : k < (1024 * 10 ^ places : Nat) := by omega
    exact ⟨hlt.le, iff_of_true hlt (not_carries hge)⟩

/-- The number that a text shows in front of the unit. -/
def number? (text : String) : Option Rat := Decimal.read? (text.toList.takeWhile isNumeral)

theorem number?_written {places k : Nat} {body : List Char}
    (h : Decimal.Freed (Decimal.withPoint places k) body) (negative : Bool) (u : SizeUnit) :
    number? (String.ofList (Decimal.sign negative ++ body) ++ u.symbol) =
      some (((Double.signed negative k : Int) : Rat) / 10 ^ places) := by
  rw [number?, takeWhile_isNumeral (isNumeral_written h negative), decimal_written h]

theorem number?_whole (n : Nat) (u : SizeUnit) :
    number? (String.ofList (Decimal.ofNat n) ++ u.symbol) = some (n : Rat) := by
  have hfreed : Decimal.Freed (Decimal.withPoint 0 n) (Decimal.ofNat n) :=
    .whole _ (Decimal.not_mem_ofNat rfl n)
  have h := number?_written hfreed false u
  rw [pow_zero, div_one] at h
  exact h

/-- Two places are what sizes have unless told otherwise. -/
theorem ofInt_two (v : Int) : ofInt v 2 = (text v).mapError .arithmetic := by
  simp only [ofInt, text]
  cases Double.quotient v (SizeUnit.largest (· ≤ v.natAbs)).bytes <;> rfl

theorem text_of_ofInt {v : Int} {t : String} (h : ofInt v 2 = .ok t) : text v = .ok t := by
  rw [ofInt_two] at h
  cases htext : text v with
  | error e =>
    rw [htext] at h
    cases h
  | ok s =>
    rw [htext] at h
    exact congrArg Except.ok (Except.ok.inj h)

/-- With any count of places the number stays between 1 and 1024, and carrying alone makes it 1024. -/
theorem exists_number {v : Int} (hv : v ≠ 0) (hhigh : v.natAbs < 1024 ^ 6 - 1024 ^ 5) {d : Nat}
    (hd : d < placesBound) :
    ∃ (text : String) (q : Rat), ofInt v d = .ok text ∧ number? text = some q ∧
      read? text = some (q * (unitOf v).bytes) ∧ 1 ≤ |q| ∧ |q| ≤ 1024 ∧
      (|q| < 1024 ↔ ¬ Carries d v.natAbs) := by
  have hpow : (0 : Rat) < 10 ^ d := by positivity
  have hover : 1024 ^ 6 - 1024 ^ 5 ≤ Double.overflow := by decide +kernel
  obtain ⟨x, hx⟩ := exists_quotient_of_lt_overflow (hhigh.trans_le hover)
  obtain ⟨y, k, body, hy, hk, hfreed, htext⟩ := exists_ofInt hx hd
  have hn : 0 < v.natAbs := Int.natAbs_pos.mpr hv
  have hunit := isLargest_unitOf v
  have hmagnitude : Rounds (((v.natAbs : Int) : Rat) / (unitOf v).bytes) |y| := by
    have habs := hy.abs
    rwa [abs_div, Nat.abs_cast, ← Int.cast_abs, Int.abs_eq_natAbs] at habs
  have hlow := Shows.ge_of_mul_le (b := 1) (by decide) hmagnitude hk
    (by have := hunit.bytes_le hn; omega)
  obtain ⟨hle, hlt⟩ := rounded_lt_iff hunit hn hhigh hmagnitude hk
  have hq : |((Double.signed (v < 0) k : Int) : Rat) / 10 ^ d| = k / 10 ^ d := by
    rw [abs_div, Double.abs_signed, abs_of_pos hpow]
  refine ⟨_, _, htext, number?_written hfreed _ _, read?_written hfreed _ _, ?_, ?_, ?_⟩
  · rw [hq, le_div_iff₀ hpow]
    exact_mod_cast hlow
  · rw [hq, div_le_iff₀ hpow]
    exact_mod_cast hle
  · rw [← hlt, hq, div_lt_iff₀ hpow]
    exact_mod_cast Iff.rfl

/-- From a kilobyte on and below 1023 of the greatest unit, the number in front of the largest unit
that is reached is at least 1, and it is below 1024 unless rounding carries; then it is 1024. -/
theorem number_fits_unit {v : Int} (hlow : 1024 ≤ v.natAbs)
    (hhigh : v.natAbs < 1024 ^ 6 - 1024 ^ 5) :
    ∃ (u : SizeUnit) (t : String) (q : Rat), u.IsLargest v.natAbs ∧
      ofInt v 2 = .ok t ∧ text v = .ok t ∧ number? t = some q ∧ read? t = some (q * u.bytes) ∧
      1 ≤ |q| ∧ |q| ≤ 1024 ∧ (|q| < 1024 ↔ ¬ Carries 2 v.natAbs) := by
  obtain ⟨t, q, ht, hq, hread, hone, hle, hlt⟩ :=
    exists_number (by omega) hhigh (by decide : 2 < placesBound)
  exact ⟨unitOf v, t, q, isLargest_unitOf v, ht, text_of_ofInt ht, hq, hread, hone, hle, hlt⟩

/-- Of the numbers below zero, the last one before a petabyte that does not carry. -/
theorem number_fits_unit_terabytes :
    1024 ≤ (-1125894409284485 : Int).natAbs ∧
      (-1125894409284485 : Int).natAbs < 1024 ^ 6 - 1024 ^ 5 ∧
      ofInt (-1125894409284485) 2 = .ok "-1023.99TB" ∧
      ∃ q, number? "-1023.99TB" = some q ∧ 1 ≤ |q| ∧ |q| < 1024 := by
  have hlast : ofInt (-1125894409284485) 2 = .ok "-1023.99TB" := by decide +kernel
  obtain ⟨u, t, q, -, ht, -, hq, -, hone, -, hlt⟩ :=
    number_fits_unit (by decide : 1024 ≤ (-1125894409284485 : Int).natAbs) (by decide)
  obtain rfl := Except.ok.inj (hlast.symm.trans ht)
  exact ⟨by decide, by decide, hlast, q, hq, hone, hlt.mpr (by decide +kernel)⟩

/-- Five bytes below a megabyte rounding carries: 1024 of the lesser unit are shown. -/
theorem number_carried :
    1024 ≤ (1048571 : Int).natAbs ∧ (1048571 : Int).natAbs < 1024 ^ 6 - 1024 ^ 5 ∧
      ofInt 1048571 2 = .ok "1024KB" ∧ number? "1024KB" = some 1024 ∧
      ¬ ∃ t q, ofInt 1048571 2 = .ok t ∧ number? t = some q ∧ 1 ≤ |q| ∧ |q| < 1024 := by
  have htext : ofInt 1048571 2 = .ok "1024KB" := by decide +kernel
  have hnumber : number? "1024KB" = some 1024 := by
    exact_mod_cast number?_whole 1024 .kilobyte
  refine ⟨by decide, by decide, htext, hnumber, ?_⟩
  rintro ⟨t, q, ht, hq, -, hlt⟩
  obtain rfl := Except.ok.inj (htext.symm.trans ht)
  obtain rfl := Option.some.inj (hnumber.symm.trans hq)
  norm_num at hlt

end Size

end AccessLog
