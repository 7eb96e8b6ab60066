import AccessLog.Proofs.Number.Digits
import AccessLog.Proofs.Number.Nearest
import AccessLog.Proofs.Plan.Reading

/-!
When a line cannot be rendered. While the clocks run four fields alone can fail: the size, where no
unit brings it into the range of a double, the response time, where no double holds it, and the
version and the status, where they have too many digits. `Field.failsIf_contentLength` and its
likes draw the borders, and `lines_of_running` says what they mean for the lines of a format.
-/
namespace AccessLog

open Decimal (Overlong)
open Double (overflow greatest Nearest)

/-- Under the condition `p` there is the fault `e`, and otherwise a value. -/
def FailsIf {ε α : Type} (p : Prop) (e : ε) (r : Except ε α) : Prop :=
  (p ∧ r = .error e) ∨ (¬p ∧ ∃ v, r = .ok v)

namespace FailsIf

variable {ε α : Type} {p : Prop} {e : ε} {r : Except ε α}

theorem map {β : Type} (h : FailsIf p e r) (f : α → β) : FailsIf p e (r.map f) := by
  rcases h with ⟨hp, rfl⟩ | ⟨hp, v, rfl⟩
  · exact .inl ⟨hp, rfl⟩
  · exact .inr ⟨hp, _, rfl⟩

theorem mapError {ε' : Type} (h : FailsIf p e r) (f : ε → ε') :
    FailsIf p (f e) (r.mapError f) := by
  rcases h with ⟨hp, rfl⟩ | ⟨hp, v, rfl⟩
  · exact .inl ⟨hp, rfl⟩
  · exact .inr ⟨hp, _, rfl⟩

theorem eq_error_iff (h : FailsIf p e r) (e' : ε) : r = .error e' ↔ p ∧ e' = e := by
  rcases h with ⟨hp, rfl⟩ | ⟨hp, v, rfl⟩
  · constructor
    · rintro ⟨⟩
      exact ⟨hp, rfl⟩
    · rintro ⟨-, rfl⟩
      rfl
  · constructor
    · rintro ⟨⟩
    · exact fun h' => absurd h'.1 hp

end FailsIf

namespace Elapsed

/-- Seconds from here on are too many thousandths for a double. -/
def limit : Rat := 9223372036854775 * 2 ^ (961 : Int)

/-- Half a unit below `4611686018427388 * 2 ^ 962`, the first double whose thousandfold is too
great. -/
theorem limit_eq : limit = (((4611686018427388 : Nat) : Rat) - 1 / 2) * 2 ^ (962 : Int) := by
  have hpow : (2 : Rat) ^ (962 : Int) = 2 * 2 ^ (961 : Int) := by
    rw [← zpow_one_add₀ two_ne_zero]
    rfl
  rw [limit, hpow]
  generalize (2 : Rat) ^ (961 : Int) = t
  push_cast
  ring

theorem overflow_eq_mul : (overflow : Rat) = 4611686018427387648 * 2 ^ (962 : Int) := by
  have hpow : (2 : Rat) ^ (971 : Int) = 2 ^ (9 : Int) * 2 ^ (962 : Int) := by
    rw [← zpow_add₀ two_ne_zero]
    rfl
  rw [Double.overflow_eq, hpow]
  generalize (2 : Rat) ^ (962 : Int) = t
  norm_num
  ring

theorem limit_le_overflow : limit ≤ overflow := by
  rw [limit_eq, overflow_eq_mul]
  gcongr
  norm_num

variable {start now : Double} {q : Rat} {x : Double}

/-- A difference from the limit on has a thousandfold beyond every double. -/
theorem overflow_le_scaled (h : Nearest q x) (hx : x.isFinite = true) (hq : limit ≤ q) :
    (overflow : Rat) ≤ (1000 : Nat) * |x.toRat| := by
  rw [limit_eq] at hq
  have habs := h.le_abs (by decide) (by decide) (by decide) (by decide) hx hq
  calc (overflow : Rat) ≤ (1000 : Nat) * ((4611686018427388 : Nat) * 2 ^ (962 : Int)) := by
        rw [overflow_eq_mul, ← mul_assoc]
        gcongr
        norm_num
    _ ≤ (1000 : Nat) * |x.toRat| := by gcongr

/-- Below the limit the double is a unit less, and its thousandfold is still in range. -/
theorem scaled_lt_overflow (h : Nearest q x) (hx : x.isFinite = true) (hq : q < limit) :
    (1000 : Nat) * |x.toRat| < (overflow : Rat) := by
  rw [limit_eq] at hq
  have habs := h.abs_le (by decide) (by decide) (by decide) (by decide) hx hq
  calc (1000 : Nat) * |x.toRat|
      ≤ (1000 : Nat) * ((((4611686018427388 : Nat) : Rat) - 1) * 2 ^ (962 : Int)) := by gcongr
    _ < overflow := by
      rw [overflow_eq_mul, ← mul_assoc]
      gcongr
      norm_num

/-- The thousandths between two readings are a whole number, unless they are too many. -/
theorem millis_cases (hs : start.isFinite = true) (hn : now.isFinite = true) :
    (limit ≤ |now.toRat - start.toRat| ∧ millis start now = .error .wholeOfInfinity) ∨
      (|now.toRat - start.toRat| < limit ∧
        ∃ n, millis start now = .ok n ∧ n.natAbs ≤ greatest) := by
  have hd := Double.nearest_sub hn hs
  cases hfin : (now.sub start).isFinite with
  | false =>
    have hle : (overflow : Rat) ≤ |now.toRat - start.toRat| :=
      le_of_not_gt fun h => Bool.false_ne_true (hfin.symm.trans (hd.isFinite_iff.mpr h))
    obtain ⟨s, hinf⟩ := hd.eq_infinite hfin
    refine .inl ⟨limit_le_overflow.trans hle, ?_⟩
    rw [millis, hinf]
    rfl
  | true =>
    have hscaled := Double.nearest_scale 1000 hfin
    rcases le_or_gt limit |now.toRat - start.toRat| with h | h
    · have hover := overflow_le_scaled hd hfin h
      have hinf : ((now.sub start).scale 1000).isFinite = false :=
        Bool.eq_false_iff.mpr fun hx => hover.not_gt (hscaled.isFinite_iff.mp hx)
      obtain ⟨s, hs⟩ := hscaled.eq_infinite hinf
      refine .inl ⟨h, ?_⟩
      rw [millis, hs]
      rfl
    · have hfin' := hscaled.isFinite_iff.mpr (scaled_lt_overflow hd hfin h)
      exact .inr ⟨h, Double.exists_round hfin' (hscaled.abs_le_greatest hfin')⟩

/-- Thousandths that a double can hold always make seconds. -/
theorem exists_seconds {n : Int} (h : n.natAbs ≤ greatest) : ∃ s, seconds n = .ok s := by
  rcases Double.quotient_cases n (by decide : 0 < 1000) with ⟨hover, -⟩ | ⟨-, q, hq, hfin, hnear⟩
  · have hlt : greatest < overflow * 1000 := by decide +kernel
    omega
  · have hsum := Double.nearest_add hfin (y := .half) rfl
    have hhalf : Double.half.toRat = 1 / 2 := by norm_num [Double.half, Double.toRat, Double.signed]
    -- from the greatest double to the border there is room for the half
    have hlt : |q.toRat + Double.half.toRat| < overflow := by
      have hgap : (greatest : Rat) + 1 ≤ overflow := by
        exact_mod_cast (by decide +kernel : greatest + 1 ≤ overflow)
      have habs := abs_add_le q.toRat Double.half.toRat
      have hq := hnear.abs_le_greatest hfin
      rw [hhalf, abs_of_pos (by norm_num : (0 : Rat) < 1 / 2)] at habs
      rw [hhalf]
      linarith
    obtain ⟨s, hs⟩ := Double.exists_floor (hsum.isFinite_iff.mpr hlt)
    exact ⟨s, by rw [seconds, hq]; exact hs⟩

theorem exists_ofMillis {n : Int} (h : n.natAbs ≤ greatest) : ∃ v, ofMillis n = .ok v := by
  obtain ⟨s, hs⟩ := exists_seconds h
  unfold ofMillis
  split
  · exact ⟨_, rfl⟩
  · rw [hs]
    exact ⟨_, rfl⟩

/-- No number of milliseconds can be told: the start is endless, or it is too far away. -/
def Unmeasurable (start : Option Double) (now : Double) : Prop :=
  match start with
  | none | some .nan => False
  | some (.infinite _) => True
  | some (.finite s m e) => limit ≤ |now.toRat - Double.toRat (.finite s m e)|

/-- The response time fails only there; an unknown start gives a dash, and a start in the future a
negative number. -/
theorem failsIf_since (start : Option Double) (hn : now.isFinite = true) :
    FailsIf (Unmeasurable start now) .wholeOfInfinity (since start now) := by
  match start with
  | none => exact .inr ⟨id, _, rfl⟩
  | some .nan => exact .inr ⟨id, _, rfl⟩
  | some (.infinite s) =>
    refine .inl ⟨trivial, ?_⟩
    cases now with
    | nan | infinite => cases hn
    | finite => rfl
  | some (.finite s m e) =>
    have hsince : since (some (.finite s m e)) now =
        (do ofMillis (← millis (.finite s m e) now)) := rfl
    have hs : (Double.finite s m e).isFinite = true := rfl
    rcases millis_cases hs hn with ⟨hle, hm⟩ | ⟨hlt, n, hm, hbound⟩
    · refine .inl ⟨hle, ?_⟩
      rw [hsince, hm]
      rfl
    · obtain ⟨v, hv⟩ := exists_ofMillis hbound
      refine .inr ⟨hlt.not_ge, v, ?_⟩
      rw [hsince, hm]
      exact hv

end Elapsed

namespace SizeUnit

theorem largest_of_le {n : Nat} (h : petabyte.bytes ≤ n) : largest (· ≤ n) = petabyte := by
  simp [largest, h]

end SizeUnit

namespace Size

/-- Sizes from here on are too many of the greatest unit for a double. -/
def limit : Nat := overflow * SizeUnit.petabyte.bytes

/-- A size is shown in its unit, unless it is beyond the limit. -/
theorem failsIf_text (n : Int) : FailsIf (limit ≤ n.natAbs) .quotientTooLarge (text n) := by
  by_cases hbig : SizeUnit.petabyte.bytes ≤ n.natAbs
  · have hunit := SizeUnit.largest_of_le hbig
    rcases Double.quotient_cases n SizeUnit.petabyte.bytes_pos with ⟨hover, hq⟩ | ⟨hunder, x, hq, -⟩
    · exact .inl ⟨hover, by rw [text, hunit, hq]; rfl⟩
    · exact .inr ⟨Nat.not_le_of_lt hunder, _, by rw [text, hunit, hq]; rfl⟩
  · -- below the greatest unit the number itself is far too small
    have hsmall : SizeUnit.petabyte.bytes ≤ overflow := by decide +kernel
    have hlimit : overflow ≤ limit := Nat.le_mul_of_pos_right _ SizeUnit.petabyte.bytes_pos
    have hpos := (SizeUnit.largest (· ≤ n.natAbs)).bytes_pos
    rcases Double.quotient_cases n hpos with ⟨hover, -⟩ | ⟨-, x, hq, -⟩
    · have hle := Nat.le_mul_of_pos_right overflow hpos
      omega
    · exact .inr ⟨by omega, _, by rw [text, hq]; rfl⟩

end Size

/-- The size that a response announces. -/
def Response.announcedSize? (r : Response) : Option Int :=
  (r.headers.field? "content-length").bind fun header =>
    (Integer.ofChars (Text.trim header.toList)).toOption

/-- A part of the version has more digits than are written. -/
def Request.OverlongVersion (r : Request) : Prop :=
  Overlong r.versionMajor ∨ Overlong r.versionMinor

theorem Request.failsIf_httpVersion (r : Request) :
    FailsIf r.OverlongVersion .tooManyDigits r.httpVersion := by
  unfold OverlongVersion httpVersion
  rcases Decimal.written_cases r.versionMajor with ⟨hmajor, hm⟩ | ⟨hmajor, hm⟩
  · exact .inl ⟨.inl hmajor, by rw [hm]; rfl⟩
  · rcases Decimal.written_cases r.versionMinor with ⟨hminor, hn⟩ | ⟨hminor, hn⟩
    · exact .inl ⟨.inr hminor, by rw [hm, hn]; rfl⟩
    · exact .inr ⟨not_or.mpr ⟨hmajor, hminor⟩, _, by rw [hm, hn]; rfl⟩

theorem Status.failsIf_text (s : Status) : FailsIf (Overlong s.value) .tooManyDigits s.text := by
  cases s with
  | code n =>
    rcases Decimal.written_cases n with h | ⟨hn, ht⟩
    · exact .inl h
    · exact .inr ⟨hn, _, ht⟩
  | flag b =>
    have hone : 1 < 10 ^ Decimal.digitLimit := Nat.one_lt_pow (by decide) (by decide)
    refine .inr ⟨Nat.not_le_of_lt ?_, _, rfl⟩
    cases b
    · exact Nat.lt_of_succ_lt hone
    · exact hone

namespace Context

/-- The response may have a body, and announces a size that no double can hold in any unit. -/
def Oversized (c : Context) : Prop :=
  Field.hasNoBody (c.response.effectiveStatus c.error).value = false ∧
    ∃ n, c.response.announcedSize? = some n ∧ Size.limit ≤ n.natAbs

/-- The status to report has more digits than are written. -/
def OverlongStatus (c : Context) : Prop := Overlong (c.response.effectiveStatus c.error).value

/-- The fields that cannot be computed while the clocks run, with their faults. -/
inductive Fails (c : Context) (clock : Double) : Token → Fault → Prop
  | version (h : c.request.OverlongVersion) :
    Fails c clock .httpVersion (.unwritable .tooManyDigits)
  | status (h : c.OverlongStatus) : Fails c clock .status (.unwritable .tooManyDigits)
  | size (h : c.Oversized) : Fails c clock .contentLength (.arithmetic .quotientTooLarge)
  | time (h : Elapsed.Unmeasurable c.start clock) :
    Fails c clock .responseTime (.arithmetic .wholeOfInfinity)

end Context

/-- The stopwatch shows a number, and the wall clock a time of day in UTC. -/
structure Moment.Running (m : Moment) : Prop where
  clock : m.clock.isFinite = true
  utc : m.date.offset = 0
  day : m.date.secondOfDay < 86400

theorem Moment.Running.exists_toUtc {m : Moment} (h : m.Running) : ∃ t, m.date.toUtc = .ok t := by
  have hlow : ¬ (m.date.secondOfDay : Int) - 0 < 0 := by omega
  have hhigh : (m.date.secondOfDay : Int) - 0 < 86400 := by have := h.day; omega
  unfold ZonedTime.toUtc
  simp only [h.utc, hlow, hhigh, if_true, if_false]
  exact ⟨_, rfl⟩

namespace Field

theorem contentLength_eq (r : Response) (error : Option Fault) :
    contentLength r error =
      if hasNoBody (r.effectiveStatus error).value then .ok ""
      else match r.announcedSize? with
        | none => .ok "-"
        | some n => (Size.text n).map Text.smalls := by
  unfold contentLength Response.announcedSize?
  split
  · rfl
  · cases r.headers.field? "content-length" with
    | none => rfl
    | some header =>
      simp only [Option.bind_some]
      cases Integer.ofChars (Text.trim header.toList) <;> rfl

/-- Where no body is due, or no size can be read, nothing can be too great. -/
theorem failsIf_announced (c : Context) :
    FailsIf c.Oversized .quotientTooLarge (contentLength c.response c.error) := by
  rw [contentLength_eq, Context.Oversized]
  cases hasNoBody (c.response.effectiveStatus c.error).value with
  | true =>
    refine .inr ⟨?_, _, rfl⟩
    rintro ⟨⟨⟩, -⟩
  | false =>
    cases c.response.announcedSize? with
    | none =>
      refine .inr ⟨?_, _, rfl⟩
      rintro ⟨-, _, ⟨⟩, -⟩
    | some n =>
      rcases (Size.failsIf_text n).map Text.smalls with ⟨hle, ht⟩ | ⟨hlt, s, ht⟩
      · exact .inl ⟨⟨rfl, n, rfl, hle⟩, ht⟩
      · refine .inr ⟨?_, s, ht⟩
        rintro ⟨-, _, ⟨⟩, hle⟩
        exact hlt hle

variable (moment : Moment) (context : Context)

theorem failsIf_httpVersion :
    FailsIf context.request.OverlongVersion (.unwritable .tooManyDigits)
      (value moment context .httpVersion) :=
  (context.request.failsIf_httpVersion.map _).mapError _

theorem failsIf_status :
    FailsIf context.OverlongStatus (.unwritable .tooManyDigits) (value moment context .status) :=
  ((context.response.effectiveStatus context.error).failsIf_text.map _).mapError _

theorem failsIf_contentLength :
    FailsIf context.Oversized (.arithmetic .quotientTooLarge)
      (value moment context .contentLength) :=
  ((failsIf_announced context).map _).mapError _

theorem failsIf_responseTime {moment : Moment} (h : moment.clock.isFinite = true) :
    FailsIf (Elapsed.Unmeasurable context.start moment.clock) (.arithmetic .wholeOfInfinity)
      (value moment context .responseTime) :=
  ((Elapsed.failsIf_since context.start h).map _).mapError _

end Field

namespace Compiler

open Format (Item)

variable (c : Compiler) {moment : Moment} (context : Context)

theorem fieldFault?_eq_some_iff_value (t : Token) (e : Fault) :
    fieldFault? moment context t = some e ↔ Field.value moment context t = .error e := by
  unfold fieldFault?
  cases Field.value moment context t <;> simp

/-- With running clocks four fields alone can fail. -/
theorem fieldFault?_eq_some_iff (h : moment.Running) (t : Token) (e : Fault) :
    fieldFault? moment context t = some e ↔ context.Fails moment.clock t e := by
  rw [fieldFault?_eq_some_iff_value]
  constructor
  · intro hfault
    cases t with
    | httpVersion =>
      obtain ⟨ho, rfl⟩ := ((Field.failsIf_httpVersion moment context).eq_error_iff e).mp hfault
      exact .version ho
    | status =>
      obtain ⟨ho, rfl⟩ := ((Field.failsIf_status moment context).eq_error_iff e).mp hfault
      exact .status ho
    | contentLength =>
      obtain ⟨ho, rfl⟩ := ((Field.failsIf_contentLength moment context).eq_error_iff e).mp hfault
      exact .size ho
    | responseTime =>
      obtain ⟨hu, rfl⟩ := ((Field.failsIf_responseTime context h.clock).eq_error_iff e).mp hfault
      exact .time hu
    | date =>
      obtain ⟨t, ht⟩ := h.exists_toUtc
      rw [Field.value, Field.date, ht] at hfault
      cases hfault
    | incoming | method | url | remoteAddress | referrer | userAgent => cases hfault
  · rintro (ho | ho | ho | hu)
    · exact ((Field.failsIf_httpVersion moment context).eq_error_iff _).mpr ⟨ho, rfl⟩
    · exact ((Field.failsIf_status moment context).eq_error_iff _).mpr ⟨ho, rfl⟩
    · exact ((Field.failsIf_contentLength moment context).eq_error_iff _).mpr ⟨ho, rfl⟩
    · exact ((Field.failsIf_responseTime context h.clock).eq_error_iff _).mpr ⟨hu, rfl⟩

theorem fieldFault?_eq_none_iff (h : moment.Running) (t : Token) :
    fieldFault? moment context t = none ↔ ∀ e, ¬ context.Fails moment.clock t e := by
  rw [Option.eq_none_iff_forall_ne_some]
  simp only [ne_eq, fieldFault?_eq_some_iff context h]

/-- A line fails with the first fault of its fields. -/
theorem render_eq_error_iff (format : String) (phase : Phase) (moment : Moment) (e : Fault) :
    (c.build format).render phase moment context = .error e ↔
      ((Format.parse format).items.filterMap (dataToken? phase)).findSome?
        (fieldFault? moment context) = some e := by
  have hrender := c.render_compile phase moment context (f := Format.parse format)
    (Format.any_isIncoming format).symm (Format.countP_parse_le format)
  rw [build, hrender, ← c.allWords_eq_error_iff, line]
  cases c.allWords phase moment context (Format.parse format).items with
  | error e' => simp [bind, Except.bind]
  | ok ws => simp [bind, Except.bind, pure, Except.pure]

theorem dataToken?_eq_some_iff (phase : Phase) (item : Item) (t : Token) :
    dataToken? phase item = some t ↔ t ∈ Token.ofPhase phase ∧ ∃ b, item = .token t b := by
  cases item with
  | literal text => simp [dataToken?]
  | token t' b =>
    by_cases h : t' ∈ Token.ofPhase phase
    · simp only [dataToken?, h, if_true, Option.some.injEq, Item.token.injEq]
      constructor
      · rintro rfl
        exact ⟨h, b, rfl, rfl⟩
      · rintro ⟨-, b', rfl, -⟩
        rfl
    · simp only [dataToken?, h, if_false, reduceCtorEq, Item.token.injEq, false_iff]
      rintro ⟨ht, b', rfl, -⟩
      exact h ht

end Compiler

/-- The format has the token, with or without brackets. -/
def Format.Asks (format : String) (t : Token) : Prop :=
  ∃ bracketed, .token t bracketed ∈ (parse format).items

namespace Compiler

variable (c : Compiler) {moment : Moment} (context : Context)

/-- A field that fails belongs to the line, and the format asks for it. -/
theorem exists_fails_of_render (h : moment.Running) {format : String} {phase : Phase} {e : Fault}
    (he : (c.build format).render phase moment context = .error e) :
    ∃ t ∈ Token.ofPhase phase, Format.Asks format t ∧ context.Fails moment.clock t e := by
  obtain ⟨t, ht, hfault⟩ :=
    List.exists_of_findSome?_eq_some ((c.render_eq_error_iff context format phase moment e).mp he)
  obtain ⟨item, hitem, hdata⟩ := List.mem_filterMap.mp ht
  obtain ⟨hphase, b, rfl⟩ := (dataToken?_eq_some_iff phase item t).mp hdata
  exact ⟨t, hphase, ⟨b, hitem⟩, (fieldFault?_eq_some_iff context h t e).mp hfault⟩

/-- A line comes about exactly if every field that it is asked for has a value. -/
theorem exists_render_iff (h : moment.Running) (format : String) (phase : Phase) :
    (∃ line, (c.build format).render phase moment context = .ok line) ↔
      ∀ t ∈ Token.ofPhase phase, Format.Asks format t → ∀ e, ¬ context.Fails moment.clock t e := by
  have hfind : ∀ r : Except Fault Rendered, (∃ line, r = .ok line) ↔ ∀ e, r ≠ .error e := by
    intro r
    cases r <;> simp
  simp only [hfind, ne_eq, c.render_eq_error_iff]
  rw [← Option.eq_none_iff_forall_ne_some, List.findSome?_eq_none_iff]
  simp only [List.mem_filterMap, dataToken?_eq_some_iff, fieldFault?_eq_none_iff context h]
  constructor
  · exact fun h t ht ⟨b, hb⟩ => h t ⟨_, hb, ht, b, rfl⟩
  · rintro h t ⟨item, hi, ht, b, rfl⟩
    exact h t ht ⟨b, hi⟩

end Compiler

/-- While the clocks run, a request line comes about unless it is asked for a version that has too
many digits, and a response line unless it is asked for a status of that kind, or for a size or a
time that no double can hold; then they fail for that reason. A size that cannot be read and a start
that is unknown are shown as dashes. -/
theorem lines_of_running (c : Compiler) (format : String) (context : Context) {moment : Moment}
    (h : moment.Running) :
    ((∃ line, (c.build format).render .request moment context = .ok line) ↔
      (Format.Asks format .httpVersion → ¬ context.request.OverlongVersion)) ∧
    (∀ e, (c.build format).render .request moment context = .error e →
      Format.Asks format .httpVersion ∧ context.request.OverlongVersion ∧
        e = .unwritable .tooManyDigits) ∧
    ((∃ line, (c.build format).render .response moment context = .ok line) ↔
      (Format.Asks format .contentLength → ¬ context.Oversized) ∧
      (Format.Asks format .responseTime → ¬ Elapsed.Unmeasurable context.start moment.clock) ∧
      (Format.Asks format .status → ¬ context.OverlongStatus)) ∧
    (∀ e, (c.build format).render .response moment context = .error e →
      (Format.Asks format .contentLength ∧ context.Oversized ∧
        e = .arithmetic .quotientTooLarge) ∨
      (Format.Asks format .responseTime ∧ Elapsed.Unmeasurable context.start moment.clock ∧
        e = .arithmetic .wholeOfInfinity) ∨
      (Format.Asks format .status ∧ context.OverlongStatus ∧ e = .unwritable .tooManyDigits)) ∧
    (Field.hasNoBody (context.response.effectiveStatus context.error).value = false →
      context.response.announcedSize? = none →
      Field.value moment context .contentLength = .ok ⟨"-", none⟩) ∧
    (context.start = none ∨ context.start = some .nan →
      Field.value moment context .responseTime = .ok ⟨"-", some .red⟩) := by
  refine ⟨?_, ?_, ?_, ?_, ?_, ?_⟩
  · rw [c.exists_render_iff context h]
    constructor
    · exact fun hall hask ho => hall .httpVersion (by decide) hask _ (.version ho)
    · rintro hversion t ht hask e (ho | ho | ho | hu)
      · exact hversion hask ho
      -- the other fields belong to the response line alone
      all_goals exact absurd ht (by decide)
  · intro e he
    obtain ⟨t, ht, hask, ho | ho | ho | hu⟩ := c.exists_fails_of_render context h he
    · exact ⟨hask, ho, rfl⟩
    all_goals exact absurd ht (by decide)
  · rw [c.exists_render_iff context h]
    constructor
    · intro hall
      exact ⟨fun hask ho => hall .contentLength (by decide) hask _ (.size ho),
        fun hask hu => hall .responseTime (by decide) hask _ (.time hu),
        fun hask ho => hall .status (by decide) hask _ (.status ho)⟩
    · rintro ⟨hsize, htime, hstatus⟩ t ht hask e (ho | ho | ho | hu)
      · exact absurd ht (by decide)
      · exact hstatus hask ho
      · exact hsize hask ho
      · exact htime hask hu
  · intro e he
    obtain ⟨t, ht, hask, ho | ho | ho | hu⟩ := c.exists_fails_of_render context h he
    · exact absurd ht (by decide)
    · exact .inr (.inr ⟨hask, ho, rfl⟩)
    · exact .inl ⟨hask, ho, rfl⟩
    · exact .inr (.inl ⟨hask, hu, rfl⟩)
  · intro hbody hsize
    rw [Field.value, Field.contentLength_eq, hbody, hsize]
    rfl
  · rintro (hs | hs)
    all_goals
      rw [Field.value, hs]
      rfl

/-- The stopwatch at nought, on a morning in March. -/
def Moment.morning : Moment := ⟨.finite false 0 0, ⟨⟨2024, 3, 5⟩, 9, 7, 2, 0, 0⟩⟩

theorem Moment.running_morning : morning.Running := ⟨rfl, rfl, by decide⟩

/-- An exchange in which nothing is out of the ordinary but the response. -/
def Context.answered (r : Response) : Context :=
  { request := { method := "GET", url := "/users" }, response := r }

/-- Since an endless start no time can be told; the request line does not ask for it. -/
theorem lines_of_running_endless :
    let plan := Compiler.build ⟨false, false, false⟩ ":response-time"
    let context := { Context.answered {} with start := some (.infinite true) }
    Moment.morning.Running ∧ (∃ line, plan.render .request .morning context = .ok line) ∧
      ¬ ∃ line, plan.render .response .morning context = .ok line := by
  intro plan context
  have hitems : (Format.parse ":response-time").items = [.token .responseTime false] := by
    decide +kernel
  have hasks : Format.Asks ":response-time" .responseTime :=
    ⟨false, hitems ▸ List.mem_cons_self⟩
  have hversion : ¬ Format.Asks ":response-time" .httpVersion := by
    rintro ⟨b, hb⟩
    rw [hitems, List.mem_singleton] at hb
    cases hb
  have h := lines_of_running ⟨false, false, false⟩ ":response-time" context Moment.running_morning
  exact ⟨Moment.running_morning, h.1.mpr fun hask => absurd hask hversion,
    fun hline => (h.2.2.1.mp hline).2.1 hasks trivial⟩

/-- A response that announces a power of ten. -/
def Response.announcing (zeros : Nat) : Response where
  status := some (.code 200)
  headers := [⟨Octets.ofText "content-length", 49 :: List.replicate zeros 48⟩]

theorem Response.announcedSize?_announcing :
    (announcing 400).announcedSize? = some ((10 ^ 400 : Nat) : Int) := by
  have hfield : (announcing 400).headers.field? "content-length" =
      some (Octets.decode (49 :: List.replicate 400 48)) := by
    rw [Headers.field?, Headers.get?, announcing, List.find?_cons]
    simp only [decide_true, Option.map_some]
  have hread : Integer.ofChars (Text.trim
      ((49 :: List.replicate 400 48 : Octets).map Octets.decodeChar)) =
        .ok ((10 ^ 400 : Nat) : Int) := by
    decide +kernel
  rw [announcedSize?, hfield, Option.bind_some, Octets.decode, String.toList_ofList, hread]
  rfl

theorem Context.oversized_announcing : (answered (.announcing 400)).Oversized :=
  ⟨rfl, _, Response.announcedSize?_announcing, by decide +kernel⟩

/-- A size of four hundred zeros is read, and then the line fails where others show a dash. -/
theorem oversized_line_fails :
    Moment.morning.Running ∧
      (Compiler.build ⟨false, false, false⟩ ":content-length").render .response .morning
        (.answered (.announcing 400)) = .error (.arithmetic .quotientTooLarge) := by
  have htokens : (Format.parse ":content-length").items.filterMap
      (Compiler.dataToken? .response) = [.contentLength] := by
    decide +kernel
  have hfault : Compiler.fieldFault? .morning (.answered (.announcing 400)) .contentLength =
      some (.arithmetic .quotientTooLarge) :=
    (Compiler.fieldFault?_eq_some_iff _ Moment.running_morning _ _).mpr
      (.size Context.oversized_announcing)
  refine ⟨Moment.running_morning, ?_⟩
  rw [Compiler.render_eq_error_iff, htokens, List.findSome?_cons, hfault]

end AccessLog
