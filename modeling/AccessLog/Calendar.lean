import AccessLog.Number.Decimal

/-!
Dates of the Gregorian calendar from the year 1 to 9999, clock times with an offset from UTC, and
the three ways in which log lines write them. An offset is less than a day, so the way to UTC goes
at most to a neighbouring date.
-/
namespace AccessLog

structure Date where
  year : Nat
  month : Nat
  day : Nat
  deriving DecidableEq

namespace Date

def isLeap (year : Nat) : Bool := year % 4 == 0 && (year % 100 != 0 || year % 400 == 0)

def monthLength (year month : Nat) : Nat :=
  if month = 2 then (if isLeap year then 29 else 28)
  else if month = 4 ∨ month = 6 ∨ month = 9 ∨ month = 11 then 30
  else 31

def Valid (d : Date) : Prop :=
  1 ≤ d.year ∧ d.year ≤ 9999 ∧ 1 ≤ d.month ∧ d.month ≤ 12 ∧ 1 ≤ d.day ∧
    d.day ≤ monthLength d.year d.month

instance (d : Date) : Decidable d.Valid := inferInstanceAs (Decidable (_ ∧ _))

/-- The day after, which the last day of the year 9999 lacks. -/
def next? (d : Date) : Option Date :=
  if d.day < monthLength d.year d.month then some { d with day := d.day + 1 }
  else if d.month < 12 then some ⟨d.year, d.month + 1, 1⟩
  else if d.year < 9999 then some ⟨d.year + 1, 1, 1⟩
  else none

/-- The day before, which the first day of the year 1 lacks. -/
def previous? (d : Date) : Option Date :=
  if 1 < d.day then some { d with day := d.day - 1 }
  else if 1 < d.month then some ⟨d.year, d.month - 1, monthLength d.year (d.month - 1)⟩
  else if 1 < d.year then some ⟨d.year - 1, 12, 31⟩
  else none

theorem monthLength_pos (year month : Nat) : 28 ≤ monthLength year month := by
  unfold monthLength
  split
  · split <;> omega
  · split <;> omega

theorem valid_next? {d e : Date} (h : d.Valid) (he : d.next? = some e) : e.Valid := by
  obtain ⟨h1, h2, h3, h4, h5, h6⟩ := h
  have := monthLength_pos d.year (d.month + 1)
  have := monthLength_pos (d.year + 1) 1
  unfold next? at he
  split at he
  · cases he; exact ⟨h1, h2, h3, h4, by simp, by simp; omega⟩
  · split at he
    · cases he; exact ⟨h1, h2, by simp, by simp; omega, by simp, by simp; omega⟩
    · split at he
      · cases he; exact ⟨by simp, by simp; omega, by simp, by simp, by simp, by simp; omega⟩
      · cases he

theorem valid_previous? {d e : Date} (h : d.Valid) (he : d.previous? = some e) : e.Valid := by
  obtain ⟨h1, h2, h3, h4, h5, h6⟩ := h
  have := monthLength_pos d.year (d.month - 1)
  unfold previous? at he
  split at he
  · cases he; exact ⟨h1, h2, h3, h4, by simp; omega, by simp; omega⟩
  · split at he
    · cases he
      exact ⟨h1, h2, by simp; omega, by simp; omega, by simp; omega, by simp⟩
    · split at he
      · cases he; exact ⟨by simp; omega, by simp; omega, by simp, by simp, by simp, by simp [monthLength]⟩
      · cases he

end Date

/-- A time in UTC. -/
structure UtcTime where
  date : Date
  hour : Nat
  minute : Nat
  second : Nat
  microsecond : Nat
  deriving DecidableEq

/-- A clock time in a zone that is `offset` seconds ahead of UTC. -/
structure ZonedTime where
  date : Date
  hour : Nat
  minute : Nat
  second : Nat
  microsecond : Nat
  offset : Int
  deriving DecidableEq

/-- UTC would be before the year 1 or after the year 9999. -/
inductive CalendarFault where
  | outOfRange
  deriving DecidableEq

def CalendarFault.message : CalendarFault → String
  | .outOfRange => "date value out of range"

/-- Numbers that make no date or no clock time. -/
inductive DateFault where
  | offset (seconds : Int)
  | year (n : Int)
  | month
  | day
  | hour
  | minute
  | second
  | microsecond
  deriving DecidableEq

namespace DateFault

/-- A length of time in days and seconds, each of which is left out when there are none. -/
def durationText (seconds : Int) : String :=
  let days := Int.fdiv seconds 86400
  let rest := Int.fmod seconds 86400
  let part := fun (name : String) n =>
    if n = 0 then [] else [name ++ "=" ++ String.ofList (Decimal.ofInt n)]
  "datetime.timedelta(" ++ ", ".intercalate (part "days" days ++ part "seconds" rest) ++ ")"

def message : DateFault → String
  | offset seconds =>
    "offset must be a timedelta strictly between -timedelta(hours=24) and " ++
      "timedelta(hours=24), not " ++ durationText seconds ++ "."
  | year n => "year " ++ String.ofList (Decimal.ofInt n) ++ " is out of range"
  | month => "month must be in 1..12"
  | day => "day is out of range for month"
  | hour => "hour must be in 0..23"
  | minute => "minute must be in 0..59"
  | second => "second must be in 0..59"
  | microsecond => "microsecond must be in 0..999999"

end DateFault

namespace ZonedTime

/-- The date and clock time of these numbers, or the first complaint about them. -/
def ofNumbers (year month day hour minute second microsecond offset : Int) :
    Except DateFault ZonedTime :=
  let length := Date.monthLength year.toNat month.toNat
  if offset ≤ -86400 ∨ 86400 ≤ offset then .error (.offset offset)
  else if year < 1 ∨ 9999 < year then .error (.year year)
  else if month < 1 ∨ 12 < month then .error .month
  else if day < 1 ∨ length < day then .error .day
  else if hour < 0 ∨ 23 < hour then .error .hour
  else if minute < 0 ∨ 59 < minute then .error .minute
  else if second < 0 ∨ 59 < second then .error .second
  else if microsecond < 0 ∨ 999999 < microsecond then .error .microsecond
  else .ok ⟨⟨year.toNat, month.toNat, day.toNat⟩, hour.toNat, minute.toNat, second.toNat,
    microsecond.toNat, offset⟩

def secondOfDay (t : ZonedTime) : Nat := t.hour * 3600 + t.minute * 60 + t.second

def atSecond (t : ZonedTime) (date : Date) (second : Nat) : UtcTime :=
  ⟨date, second / 3600, second / 60 % 60, second % 60, t.microsecond⟩

def toUtc (t : ZonedTime) : Except CalendarFault UtcTime :=
  let s := (t.secondOfDay : Int) - t.offset
  if s < 0 then
    match t.date.previous? with
    | some d => .ok (t.atSecond d (s + 86400).toNat)
    | none => .error .outOfRange
  else if s < 86400 then .ok (t.atSecond t.date s.toNat)
  else
    match t.date.next? with
    | some d => .ok (t.atSecond d (s - 86400).toNat)
    | none => .error .outOfRange

end ZonedTime

namespace UtcTime

def monthName (month : Nat) : String :=
  ["Jan", "Feb", "Mar", "Apr", "May", "Jun", "Jul", "Aug", "Sep", "Oct", "Nov", "Dec"].getD
    (month - 1) ""

def clockChars (t : UtcTime) : List Char :=
  Decimal.padded 2 t.hour ++ ':' :: Decimal.padded 2 t.minute ++ ':' :: Decimal.padded 2 t.second

/-- The time of day alone: `09:07:02`. -/
def clockText (t : UtcTime) : String := String.ofList t.clockChars

/-- The form of access lines: `05/Mar/2024:09:07:02 +0000`. The year is not padded. -/
def accessText (t : UtcTime) : String :=
  String.ofList (Decimal.padded 2 t.date.day ++ '/' :: (monthName t.date.month).toList ++
    '/' :: Decimal.ofNat t.date.year ++ ':' :: t.clockChars ++ " +0000".toList)

/-- The form of machine-readable records: `2024-03-05T09:07:02.000006+00:00`. Microseconds are
left out when there are none. -/
def recordText (t : UtcTime) : String :=
  String.ofList (Decimal.padded 4 t.date.year ++ '-' :: Decimal.padded 2 t.date.month ++
    '-' :: Decimal.padded 2 t.date.day ++ 'T' :: t.clockChars ++
    (if t.microsecond = 0 then [] else '.' :: Decimal.padded 6 t.microsecond) ++ "+00:00".toList)

end UtcTime

end AccessLog
