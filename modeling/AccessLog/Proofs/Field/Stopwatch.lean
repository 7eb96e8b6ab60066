import AccessLog.Field.Elapsed
import AccessLog.Proofs.Number.Rounds
import AccessLog.Proofs.Number.Thousands
import Mathlib.Data.Rat.Floor

/-!
Response times as they are shown. Seconds are the whole part of a sum of doubles; up to `2 ^ 53`
thousandths neither of its two roundings reaches the next whole number (`seconds_eq`). The text
tells the colour (`color_eq_of_text_eq`), so that no text is seen in two colours.
-/
namespace AccessLog

namespace Double

theorem toRat_half : half.toRat = 1 / 2 := by norm_num [half, toRat, signed]

theorem floor_eq {x : Double} (hx : x.isFinite = true) : x.floor = .ok ⌊x.toRat⌋ := by
  cases x with
  | nan | infinite => cases hx
  | finite s m e =>
    have hden : (Power.den 2 e : Rat) ≠ 0 := (Power.cast_den_pos two_pos e).ne'
    have hvalue : toRat (.finite s m e) =
        ((signed s (m * Power.num 2 e) : Int) : Rat) / (Power.den 2 e : Nat) := by
      rw [eq_div_iff hden, toRat, mul_assoc]
      cases s <;> simp [signed, Power.cast_num]
    rw [hvalue, Rat.floor_intCast_div_natCast, floor]

end Double

namespace Elapsed

open Double (Representable Nearest Rounds)

section Seconds

variable {n f : Nat} {q : Double}

/-- A half less than a whole number is a double, so the quotient does not fall below it. -/
theorem le_quotient (hround : Rounds (n / 1000) q.toRat) (hf : f < 2 ^ 44)
    (hlow : 1000 * f ≤ n + 500) : (f : Rat) - 1 / 2 ≤ q.toRat := by
  have hlow' : (1000 : Rat) * f ≤ n + 500 := by exact_mod_cast hlow
  refine hround.ge_of_ge ⟨2 * f - 1, -1, by omega, by decide, ?_⟩ (by linarith)
  push_cast
  ring

/-- The quotient stays below one whose sum with a half is a double below the next whole number. Near
`2 ^ 43` and beyond, doubles are so far apart that it does so only because it is rounded down. -/
theorem exists_quotient_le (hround : Rounds (n / 1000) q.toRat) (hnear : Nearest (n / 1000) q)
    (hfin : q.isFinite = true) (hf : f < 2 ^ 44) (hhigh : n + 500 < 1000 * f + 1000) :
    ∃ b : Rat, q.toRat ≤ b ∧ Representable (b + 1 / 2) ∧ b + 1 / 2 < f + 1 := by
  have hhigh' : (n : Rat) ≤ 1000 * f + 499 := by exact_mod_cast (by omega : n ≤ 1000 * f + 499)
  rcases Nat.lt_or_ge f (2 ^ 43) with hsmall | hlarge
  · have hunit : (2 : Rat) ^ (-10 : Int) = 1 / 1024 := by norm_num
    refine ⟨f + 511 / 1024, ?_, ⟨1024 * f + 1023, -10, by omega, by decide, ?_⟩, by linarith⟩
    · refine hround.le_of_le ⟨1024 * f + 511, -10, by omega, by decide, ?_⟩ (by linarith)
      rw [hunit]
      push_cast
      ring
    · rw [hunit]
      push_cast
      ring
  · have hunit : (2 : Rat) ^ (-9 : Int) = 1 / 512 := by norm_num
    refine ⟨f + 255 / 512, ?_, ⟨512 * f + 511, -9, by omega, by decide, ?_⟩, by linarith⟩
    · -- the next even mantissa is more than half a unit away
      have hmantissa := hnear.abs_le (by omega : (512 * f + 256) % 2 = 0) (by omega) (by omega)
        (by decide : (-1074 : Int) ≤ -9) hfin (by rw [hunit]; push_cast; linarith)
      rw [hunit] at hmantissa
      refine (le_abs_self _).trans (hmantissa.trans (le_of_eq ?_))
      push_cast
      ring
    · rw [hunit]
      push_cast
      ring

theorem seconds_eq_of_nat (hf : f < 2 ^ 44) (hlow : 1000 * f ≤ n + 500)
    (hhigh : n + 500 < 1000 * f + 1000) : seconds n = .ok f := by
  rcases Double.quotient_cases n (by decide : 0 < 1000) with ⟨hover, -⟩ | ⟨-, q, hq, hfin, hnear⟩
  · have hroom : 2 ^ 55 < Double.overflow * 1000 := by decide +kernel
    omega
  · obtain ⟨-, -, -, hround⟩ := Double.rounds_quotient (by decide) hq
    rw [Int.cast_natCast, Nat.cast_ofNat] at hround
    rw [Int.natAbs_natCast, Nat.cast_ofNat] at hnear
    have hge := le_quotient hround hf hlow
    obtain ⟨b, hb, hrep, hlt⟩ := exists_quotient_le hround hnear hfin hf hhigh
    have hf0 : (0 : Rat) ≤ f := Nat.cast_nonneg f
    have hsum : (q.add .half).isFinite = true := by
      rw [(Double.nearest_add hfin rfl).isFinite_iff, Double.toRat_half,
        abs_of_nonneg (by linarith)]
      have hroom : (f : Rat) + 1 ≤ Double.overflow := by
        have hlow : 2 ^ 44 ≤ Double.overflow := by decide +kernel
        exact_mod_cast (by omega : f + 1 ≤ Double.overflow)
      linarith
    have hs := Double.rounds_add hfin rfl hsum
    rw [Double.toRat_half] at hs
    have hsge : (f : Rat) ≤ (q.add .half).toRat :=
      hs.ge_of_ge (Double.representable_natCast (by omega)) (by linarith)
    have hsle : (q.add .half).toRat ≤ b + 1 / 2 := hs.le_of_le hrep (by linarith)
    have hfloor : ⌊(q.add .half).toRat⌋ = (f : Int) := by
      rw [Int.floor_eq_iff, Int.cast_natCast]
      exact ⟨hsge, by linarith⟩
    rw [seconds, hq, ← hfloor, ← Double.floor_eq hsum]
    rfl

end Seconds

/-- Up to `2 ^ 53` thousandths the seconds are the exact quotient, a half rounded up. -/
theorem seconds_eq {n : Int} (hlow : 0 ≤ n) (hhigh : n ≤ 2 ^ 53) :
    seconds n = .ok ((n + 500) / 1000) := by
  lift n to Nat using hlow
  have h := seconds_eq_of_nat (by omega : (n + 500) / 1000 < 2 ^ 44)
    (Nat.mul_div_le (n + 500) 1000) (by omega)
  rw [h]
  rfl

theorem ofMillis_of_lt {n : Int} (h : n < secondsFrom) :
    ofMillis n = .ok ⟨String.ofList (Decimal.grouped n ++ ['m', 's']), colorOfMillis n⟩ := by
  have hgroup := groupDigits_ofInt n (by decide : '.' ∉ ['m', 's']) (by decide)
  rw [ofMillis, if_pos h, ← hgroup]
  rfl

theorem ofMillis_of_ge {n : Int} (h : secondsFrom ≤ n) :
    ofMillis n = (seconds n).map fun s =>
      ⟨String.ofList (Decimal.grouped s ++ ['s']), colorOfMillis n⟩ := by
  have hgroup := fun s => groupDigits_ofInt s (by decide : '.' ∉ ['s']) (by decide)
  rw [ofMillis, if_neg (not_lt.mpr h)]
  cases seconds n with
  | error e => rfl
  | ok s =>
    rw [Except.map, ← hgroup]
    rfl

theorem since_some {x : Double} (hx : x ≠ .nan) (now : Double) :
    since (some x) now = millis x now >>= ofMillis := by
  cases x with
  | nan => exact absurd rfl hx
  | infinite | finite => rfl

/-- A start that has a distance in thousandths is a number. -/
theorem since_of_millis {start now : Double} {n : Int} (h : millis start now = .ok n) :
    since (some start) now = ofMillis n := by
  have hstart : start ≠ .nan := by
    rintro rfl
    cases now <;> cases h
  rw [since_some hstart, h]
  rfl

/-- No text of seconds ends as one of milliseconds does. -/
theorem not_millis_of_seconds (s : Int) : ¬['m', 's'] <:+ Decimal.grouped s ++ ['s'] := by
  rintro ⟨cs, hcs⟩
  have hsplit : cs ++ ['m'] ++ ['s'] = Decimal.grouped s ++ ['s'] := by
    rw [← hcs, List.append_assoc]
    rfl
  have hmem : 'm' ∈ Decimal.grouped s := by
    rw [← List.append_cancel_right hsplit]
    simp
  have hdigits : 'm' ∈ Decimal.ofInt s := by
    rw [← Decimal.filter_grouped]
    exact List.mem_filter.mpr ⟨hmem, rfl⟩
  rcases Decimal.mem_ofInt hdigits with hc | hc <;> contradiction

theorem ofMillis_cases {n : Int} {c : Colored} (h : ofMillis n = .ok c) :
    c = ⟨String.ofList (Decimal.grouped n ++ ['m', 's']), colorOfMillis n⟩ ∨
      c.color = .red ∧ ¬['m', 's'] <:+ c.text.toList := by
  rcases lt_or_ge n secondsFrom with hlt | hge
  · rw [ofMillis_of_lt hlt] at h
    exact .inl (Except.ok.inj h).symm
  · have hred : colorOfMillis n = .red := by
      unfold secondsFrom at hge
      rw [colorOfMillis, if_neg (by omega), if_neg (by omega)]
    rw [ofMillis_of_ge hge] at h
    cases hs : seconds n with
    | error e =>
      rw [hs] at h
      cases h
    | ok s =>
      rw [hs] at h
      obtain rfl := Except.ok.inj h
      refine .inr ⟨hred, ?_⟩
      rw [String.toList_ofList]
      exact not_millis_of_seconds s

/-- Either milliseconds are shown, and in their colour, or what is shown is red. -/
theorem since_cases_text {start : Option Double} {now : Double} {c : Colored}
    (h : since start now = .ok c) :
    (∃ n, c = ⟨String.ofList (Decimal.grouped n ++ ['m', 's']), colorOfMillis n⟩) ∨
      c.color = .red ∧ ¬['m', 's'] <:+ c.text.toList := by
  have hdash : c = ⟨"-", colorOf .nan⟩ → c.color = .red ∧ ¬['m', 's'] <:+ c.text.toList := by
    rintro rfl
    decide
  rcases start with _ | x
  · exact .inr (hdash (Except.ok.inj h).symm)
  by_cases hx : x = .nan
  · subst hx
    exact .inr (hdash (Except.ok.inj h).symm)
  rw [since_some hx] at h
  cases hmillis : millis x now with
  | error e =>
    rw [hmillis] at h
    cases h
  | ok n =>
    rw [hmillis] at h
    exact (ofMillis_cases h).imp_left fun hc => ⟨n, hc⟩

/-- The text decides the colour. -/
theorem color_eq_of_text_eq {start start' : Option Double} {now now' : Double} {c c' : Colored}
    (h : since start now = .ok c) (h' : since start' now' = .ok c') (htext : c'.text = c.text) :
    c'.color = c.color := by
  rcases since_cases_text h with ⟨n, rfl⟩ | ⟨hred, hends⟩
  · rcases since_cases_text h' with ⟨n', rfl⟩ | ⟨-, hends'⟩
    · have hlist := String.ofList_injective htext
      rw [Decimal.grouped_injective (List.append_cancel_right hlist)]
    · rw [htext, String.toList_ofList] at hends'
      exact absurd (List.suffix_append _ _) hends'
  · rcases since_cases_text h' with ⟨n', rfl⟩ | ⟨hred', -⟩
    · rw [← htext, String.toList_ofList] at hends
      exact absurd (List.suffix_append _ _) hends
    · rw [hred, hred']

/-- Times up to `2 ^ 53` thousandths are shown exactly: below ten seconds as milliseconds and above
as the quotient by 1000 with a half rounded up, with commas in both. The thousandths decide the
colour, and whatever shows the same text has the same colour. -/
theorem since_shows {start now : Double} {delta : Int} (h : millis start now = .ok delta)
    (hle : delta ≤ 2 ^ 53) :
    (10000 ≤ delta → seconds delta = .ok ((delta + 500) / 1000)) ∧
    ∃ c, since (some start) now = .ok c ∧
      c.text = String.ofList
        (if delta < 10000 then Decimal.grouped delta ++ ['m', 's']
        else Decimal.grouped ((delta + 500) / 1000) ++ ['s']) ∧
      c.color = (if delta < 50 then .green else if delta < 100 then .magenta else .red) ∧
      ∀ start' now' c', since start' now' = .ok c' → c'.text = c.text → c'.color = c.color := by
  have hseconds : 10000 ≤ delta → seconds delta = .ok ((delta + 500) / 1000) :=
    fun hlow => seconds_eq (by omega) hle
  refine ⟨hseconds, ?_⟩
  rcases lt_or_ge delta 10000 with hlt | hge
  · have hsince := (since_of_millis h).trans (ofMillis_of_lt hlt)
    refine ⟨_, hsince, by rw [if_pos hlt], rfl, ?_⟩
    exact fun start' now' c' h' => color_eq_of_text_eq hsince h'
  · have hsince := (since_of_millis h).trans (ofMillis_of_ge hge)
    rw [hseconds hge] at hsince
    refine ⟨_, hsince, by rw [if_neg (not_lt.mpr hge)], rfl, ?_⟩
    exact fun start' now' c' h' => color_eq_of_text_eq hsince h'

/-- The half goes up, although the even number of seconds is the one below. -/
theorem since_shows_half :
    let start := Double.finite false 0 0
    let now := Double.finite false 2469133 (-1)
    millis start now = .ok 1234566500 ∧ (1234566500 : Int) ≤ 2 ^ 53 ∧
      ∃ c, since (some start) now = .ok c ∧ c.text = "1,234,567s" ∧ c.color = .red ∧
        ∀ start' now' c', since start' now' = .ok c' → c'.text = "1,234,567s" →
          c'.color = .red := by
  intro start now
  have hmillis : millis start now = .ok 1234566500 := by decide +kernel
  obtain ⟨-, c, hc, htext, hcolor, hsame⟩ := since_shows hmillis (by decide)
  have htext' : c.text = "1,234,567s" := htext.trans (by decide)
  rw [htext'] at hsame
  rw [hcolor] at hsame
  exact ⟨hmillis, by decide, c, hc, htext', hcolor, hsame⟩

end Elapsed

end AccessLog
