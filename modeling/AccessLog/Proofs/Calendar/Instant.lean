import AccessLog.Field.Token
import AccessLog.Proofs.Calendar.DayNumber
import AccessLog.Proofs.Number.Digits
import Mathlib.Data.List.Basic

/-!
Dates in log lines name instants. A reading of calendar and clock is a number of seconds, and no
two readings are the same number; `toUtc_cases` says that the way to UTC takes the offset away from
that number or leaves the calendar, and `stamp_injective` that the text keeps every digit of it.
-/
namespace AccessLog

open Decimal (twoDigits)

/-- What a calendar and a clock show, to the second. -/
structure Reading where
  date : Date
  hour : Nat
  minute : Nat
  second : Nat
  deriving DecidableEq

namespace Reading

structure Valid (r : Reading) : Prop where
  date : r.date.Valid
  hour : r.hour < 24
  minute : r.minute < 60
  second : r.second < 60

def secondOfDay (r : Reading) : Nat := r.hour * 3600 + r.minute * 60 + r.second

/-- The seconds since the year 1 began. -/
def seconds (r : Reading) : Nat := r.date.dayNumber * 86400 + r.secondOfDay

variable {r s : Reading}

theorem Valid.secondOfDay_lt (h : r.Valid) : r.secondOfDay < 86400 := by
  obtain ⟨-, hh, hm, hs⟩ := h
  rw [secondOfDay]
  omega

theorem seconds_injective (hr : r.Valid) (hs : s.Valid) (h : r.seconds = s.seconds) : r = s := by
  have hr' := hr.secondOfDay_lt
  have hs' := hs.secondOfDay_lt
  have hday : r.date.dayNumber = s.date.dayNumber := by
    rw [seconds, seconds] at h
    omega
  have hdate := Date.dayNumber_injective hr.date hs.date hday
  have hclock : r.secondOfDay = s.secondOfDay := by
    rw [seconds, seconds] at h
    omega
  obtain ⟨-, -, hrm, hrs⟩ := hr
  obtain ⟨-, -, hsm, hss⟩ := hs
  cases r
  cases s
  simp only [secondOfDay, mk.injEq] at *
  refine ⟨hdate, ?_, ?_, ?_⟩ <;> omega

/-- Two digits for each number but the year, which has as many as it needs, and three letters for
the month: `05/Mar/2024:09:07:02 +0000`. -/
def stamp (r : Reading) : String :=
  String.ofList (twoDigits r.date.day ++ '/' :: (UtcTime.monthName r.date.month).toList ++
    '/' :: Decimal.ofNat r.date.year ++ ':' :: twoDigits r.hour ++ ':' :: twoDigits r.minute ++
    ':' :: twoDigits r.second ++ " +0000".toList)

theorem length_monthName {month : Nat} (h1 : 1 ≤ month) (h12 : month ≤ 12) :
    (UtcTime.monthName month).toList.length = 3 := by
  have h : ∀ m ∈ List.range' 1 12, (UtcTime.monthName m).toList.length = 3 := by decide
  exact h month (by simp; omega)

theorem monthName_injective {m n : Nat} (hm1 : 1 ≤ m) (hm12 : m ≤ 12) (hn1 : 1 ≤ n) (hn12 : n ≤ 12)
    (h : (UtcTime.monthName m).toList = (UtcTime.monthName n).toList) : m = n := by
  have hall : ∀ m ∈ List.range' 1 12, ∀ n ∈ List.range' 1 12,
      (UtcTime.monthName m).toList = (UtcTime.monthName n).toList → m = n := by decide
  exact hall m (by simp; omega) n (by simp; omega) h

/-- The text of a reading keeps all of it: the year ends at the first colon, all else has its
width. -/
theorem stamp_injective (hr : r.Valid) (hs : s.Valid) (h : r.stamp = s.stamp) : r = s := by
  obtain ⟨⟨-, -, hrm1, hrm12, hrd1, hrd⟩, hrh, hrmin, hrs⟩ := hr
  obtain ⟨⟨-, -, hsm1, hsm12, hsd1, hsd⟩, hsh, hsmin, hss⟩ := hs
  have hrday := Date.monthLength_le r.date.year r.date.month
  have hsday := Date.monthLength_le s.date.year s.date.month
  rw [stamp, stamp] at h
  replace h := String.ofList_injective h
  simp only [List.append_assoc, List.cons_append] at h
  obtain ⟨hday, h⟩ := List.append_inj h rfl
  obtain ⟨hmonth, h⟩ := List.append_inj (List.cons.inj h).2
    (by rw [length_monthName hrm1 hrm12, length_monthName hsm1 hsm12])
  have hyear := congrArg (List.takeWhile Char.isDigit) (List.cons.inj h).2
  rw [Decimal.takeWhile_ofNat rfl, Decimal.takeWhile_ofNat rfl] at hyear
  rw [hyear] at h
  replace h := List.append_cancel_left (List.cons.inj h).2
  obtain ⟨hhour, h⟩ := List.append_inj (List.cons.inj h).2 rfl
  obtain ⟨hminute, h⟩ := List.append_inj (List.cons.inj h).2 rfl
  obtain ⟨hsecond, -⟩ := List.append_inj (List.cons.inj h).2 rfl
  rw [Decimal.twoDigits_inj (by omega) (by omega)] at hday hhour hminute hsecond
  replace hmonth := monthName_injective hrm1 hrm12 hsm1 hsm12 hmonth
  replace hyear := Decimal.ofNat_injective hyear
  obtain ⟨⟨ry, rm, rd⟩, rh, rmin, rs⟩ := r
  obtain ⟨⟨sy, sm, sd⟩, sh, smin, ss⟩ := s
  simp only [mk.injEq, Date.mk.injEq]
  exact ⟨⟨hyear, hmonth, hday⟩, hhour, hminute, hsecond⟩

end Reading

namespace UtcTime

def reading (u : UtcTime) : Reading := ⟨u.date, u.hour, u.minute, u.second⟩

theorem accessText_eq {u : UtcTime} (h : u.reading.Valid) : u.accessText = u.reading.stamp := by
  obtain ⟨⟨-, -, -, -, -, hd⟩, hh, hm, hs⟩ := h
  have hday := Date.monthLength_le u.date.year u.date.month
  simp only [reading] at hd hh hm hs
  rw [accessText, clockChars, Decimal.padded_two (by omega), Decimal.padded_two (by omega),
    Decimal.padded_two (by omega), Decimal.padded_two (by omega), Reading.stamp]
  simp only [reading, List.append_assoc, List.cons_append]

end UtcTime

namespace ZonedTime

variable {t : ZonedTime}

def reading (t : ZonedTime) : Reading := ⟨t.date, t.hour, t.minute, t.second⟩

/-- A clock time of the calendar in a zone less than a day from UTC. -/
structure Valid (t : ZonedTime) : Prop where
  reading : t.reading.Valid
  microsecond : t.microsecond < 1000000
  offset : -86400 < t.offset ∧ t.offset < 86400

/-- The seconds of UTC since the year 1 began; before that they are negative. -/
def instant (t : ZonedTime) : Int := t.reading.seconds - t.offset

/-- The instant lies in the years that the calendar has in UTC. -/
def InYears (t : ZonedTime) : Prop := 0 ≤ t.instant ∧ t.instant < Date.daysInYears 9999 * 86400

theorem valid_atSecond {date : Date} {s : Nat} (hd : date.Valid) (hs : s < 86400) :
    (t.atSecond date s).reading.Valid := by
  refine ⟨hd, ?_, ?_, ?_⟩ <;> simp only [atSecond, UtcTime.reading] <;> omega

theorem seconds_atSecond (date : Date) (s : Nat) :
    (t.atSecond date s).reading.seconds = date.dayNumber * 86400 + s := by
  simp only [atSecond, UtcTime.reading, Reading.seconds, Reading.secondOfDay]
  omega

/-- UTC is the reading of the instant, unless the calendar has none. -/
theorem toUtc_cases (h : t.Valid) :
    (t.InYears ∧ ∃ u, t.toUtc = .ok u ∧ u.reading.Valid ∧ (u.reading.seconds : Int) = t.instant) ∨
      (¬ t.InYears ∧ t.toUtc = .error .outOfRange) := by
  obtain ⟨hreading, -, hlow, hhigh⟩ := h
  have hsec := hreading.secondOfDay_lt
  have hdate : t.date.Valid := hreading.date
  have hday := hdate.dayNumber_lt
  have hinstant : t.instant = t.date.dayNumber * 86400 + (t.secondOfDay - t.offset) := by
    simp only [instant, Reading.seconds, reading, Reading.secondOfDay, secondOfDay]
    omega
  replace hsec : t.secondOfDay < 86400 := hsec
  unfold toUtc InYears
  simp only [hinstant]
  split
  · -- the day before
    cases hprev : t.date.previous? with
    | none =>
      have hfirst := Date.dayNumber_of_previous?_eq_none hdate hprev
      exact .inr ⟨by omega, rfl⟩
    | some d =>
      have hnumber := Date.dayNumber_previous? hdate hprev
      have hvalid := Date.valid_previous? hdate hprev
      refine .inl ⟨by omega, _, rfl, valid_atSecond hvalid (by omega), ?_⟩
      rw [seconds_atSecond]
      omega
  · split
    · refine .inl ⟨by omega, _, rfl, valid_atSecond hdate (by omega), ?_⟩
      rw [seconds_atSecond]
      omega
    · -- the day after
      cases hnext : t.date.next? with
      | none =>
        have hlast := Date.dayNumber_of_next?_eq_none hdate hnext
        exact .inr ⟨by omega, rfl⟩
      | some d =>
        have hnumber := Date.dayNumber_next? hdate hnext
        have hvalid := Date.valid_next? hdate hnext
        have hbound := hvalid.dayNumber_lt
        refine .inl ⟨by omega, _, rfl, valid_atSecond hvalid (by omega), ?_⟩
        rw [seconds_atSecond]
        omega

end ZonedTime

namespace Field

theorem date_eq_ok {m : Moment} {u : UtcTime} (hu : m.date.toUtc = .ok u) (h : u.reading.Valid) :
    date m = .ok u.reading.stamp := by
  rw [date, hu, ← UtcTime.accessText_eq h]

/-- The date of a line is a reading of calendar and clock in UTC that the offset takes to the local
one, and there is none exactly if UTC is outside the calendar. Two lines show the same date if and
only if it is the same second. -/
theorem date_names_instant (m : Moment) (h : m.date.Valid) :
    (m.date.InYears → ∃ r : Reading, r.Valid ∧ date m = .ok r.stamp ∧
      ∀ s : Reading, s.Valid →
        ((s.seconds : Int) = r.seconds + m.date.offset ↔ s = m.date.reading)) ∧
    (¬ m.date.InYears → date m = .error (.calendar .outOfRange)) ∧
    ∀ m' : Moment, m'.date.Valid → m.date.InYears → m'.date.InYears →
      (date m = date m' ↔ m.date.instant = m'.date.instant) := by
  rcases ZonedTime.toUtc_cases h with ⟨hin, u, hu, hvalid, hseconds⟩ | ⟨hout, hfault⟩
  · have hdate := date_eq_ok hu hvalid
    refine ⟨fun _ => ⟨u.reading, hvalid, hdate, ?_⟩, fun hout => absurd hin hout, ?_⟩
    · intro s hs
      rw [hseconds, ZonedTime.instant, Int.sub_add_cancel, Int.ofNat_inj]
      constructor
      · exact Reading.seconds_injective hs h.reading
      · rintro rfl
        rfl
    · intro m' h' _ hin'
      rcases ZonedTime.toUtc_cases h' with ⟨-, u', hu', hvalid', hseconds'⟩ | ⟨hout', -⟩
      · rw [hdate, date_eq_ok hu' hvalid', ← hseconds, ← hseconds', Int.ofNat_inj]
        constructor
        · intro heq
          rw [Reading.stamp_injective hvalid hvalid' (Except.ok.inj heq)]
        · intro heq
          rw [Reading.seconds_injective hvalid hvalid' heq]
      · exact absurd hin' hout'
  · refine ⟨fun hin => absurd hin hout, fun _ => ?_, fun _ _ hin => absurd hin hout⟩
    rw [date, hfault]

/-- Half past midnight on the first of March, an hour ahead of UTC, is on the leap day. -/
theorem date_names_instant_leap_day :
    let m : Moment := ⟨.nan, ⟨⟨2024, 3, 1⟩, 0, 30, 0, 0, 3600⟩⟩
    m.date.Valid ∧ date m = .ok "29/Feb/2024:23:30:00 +0000" ∧
      ∀ m' : Moment, m'.date.Valid → m'.date.InYears →
        (date m = date m' ↔ m.date.instant = m'.date.instant) := by
  intro m
  have h : m.date.Valid := ⟨⟨by decide, by decide, by decide, by decide⟩, by decide, by decide⟩
  have hin : m.date.InYears := by
    simp only [ZonedTime.InYears, ZonedTime.instant, Reading.seconds, Date.dayNumber,
      Date.daysInYears_eq]
    decide
  have hdate := date_eq_ok (m := m) (u := ⟨⟨2024, 2, 29⟩, 23, 30, 0, 0⟩) (by decide)
    ⟨by decide, by decide, by decide, by decide⟩
  have hstamp : Reading.stamp ⟨⟨2024, 2, 29⟩, 23, 30, 0⟩ = "29/Feb/2024:23:30:00 +0000" := by
    decide +kernel
  rw [← hstamp]
  exact ⟨h, hdate, fun m' h' => (date_names_instant m h).2.2 m' h' hin⟩

end Field

end AccessLog
