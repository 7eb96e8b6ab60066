import AccessLog.Field.Size
import AccessLog.Proofs.Number.Numeral
import AccessLog.Proofs.Number.Rounds

/-!
Sizes, written and read back. `Shows places v r` tells without digits which number of bytes `r` the
text of `v` stands for: two roundings of the quotient by the unit. It keeps the order across units
(`Shows.mono`), and below `2 ^ 53` the first rounding changes nothing (`representable_quotient`).
-/
namespace AccessLog

open Double (Rounds Representable)

namespace SizeUnit

/-- The largest unit that the number reaches, and bytes where it reaches none. -/
structure IsLargest (u : SizeUnit) (n : Nat) : Prop where
  reached : u = byte ∨ u.bytes ≤ n
  largest : ∀ w : SizeUnit, w.bytes ≤ n → w.bytes ≤ u.bytes

/-- Down a list from the largest unit the first one that passes is the largest. -/
theorem bytes_le_of_find? {p : SizeUnit → Bool} {us : List SizeUnit} {u w : SizeUnit}
    (hus : us.Pairwise fun v v' => v'.bytes ≤ v.bytes) (h : us.find? p = some u) (hw : w ∈ us)
    (hp : p w = true) : w.bytes ≤ u.bytes := by
  induction us with
  | nil => cases hw
  | cons v us ih =>
    obtain ⟨hv, hus⟩ := List.pairwise_cons.mp hus
    by_cases hpv : p v = true
    · rw [List.find?_cons_of_pos hpv] at h
      obtain rfl := Option.some.inj h
      rcases List.mem_cons.mp hw with rfl | hw
      · exact Nat.le_refl _
      · exact hv w hw
    · rw [List.find?_cons_of_neg hpv] at h
      rcases List.mem_cons.mp hw with rfl | hw
      · exact absurd hp hpv
      · exact ih hus h hw

theorem isLargest_largest (n : Nat) : (largest (· ≤ n)).IsLargest n := by
  have hall : ∀ w : SizeUnit,
      w = byte ∨ w ∈ [petabyte, terabyte, gigabyte, megabyte, kilobyte] := by
    intro w
    cases w <;> decide
  rw [largest]
  cases hfind : [petabyte, terabyte, gigabyte, megabyte, kilobyte].find?
      fun u => decide (u.bytes ≤ n) with
  | none =>
    refine ⟨.inl rfl, fun w hw => ?_⟩
    rcases hall w with rfl | hmem
    · exact Nat.le_refl _
    · exact absurd (decide_eq_true hw) (List.find?_eq_none.mp hfind w hmem)
  | some u =>
    refine ⟨.inr (of_decide_eq_true (List.find?_some hfind :)), fun w hw => ?_⟩
    rcases hall w with rfl | hmem
    · exact u.bytes_pos
    · exact bytes_le_of_find? (by decide) hfind hmem (decide_eq_true hw)

/-- The power of 1024 that a unit is. -/
def rank : SizeUnit → Nat
  | byte => 0
  | kilobyte => 1
  | megabyte => 2
  | gigabyte => 3
  | terabyte => 4
  | petabyte => 5

theorem bytes_eq (u : SizeUnit) : u.bytes = 2 ^ (10 * u.rank) := by
  cases u <;> rfl

theorem rank_le (u : SizeUnit) : u.rank ≤ 5 := by
  cases u <;> decide

/-- Between two units the lesser one has a next. -/
theorem exists_next {u w : SizeUnit} (h : u.bytes < w.bytes) :
    ∃ v : SizeUnit, v.bytes = 1024 * u.bytes ∧ v.bytes ≤ w.bytes := by
  cases u with
  | byte => exact ⟨kilobyte, rfl, by cases w <;> revert h <;> decide⟩
  | kilobyte => exact ⟨megabyte, rfl, by cases w <;> revert h <;> decide⟩
  | megabyte => exact ⟨gigabyte, rfl, by cases w <;> revert h <;> decide⟩
  | gigabyte => exact ⟨terabyte, rfl, by cases w <;> revert h <;> decide⟩
  | terabyte => exact ⟨petabyte, rfl, by cases w <;> revert h <;> decide⟩
  | petabyte => exact absurd h (by cases w <;> decide)

theorem IsLargest.mono {u w : SizeUnit} {m n : Nat} (h : u.IsLargest m) (h' : w.IsLargest n)
    (hle : m ≤ n) : u.bytes ≤ w.bytes := by
  rcases h.reached with rfl | hu
  · exact w.bytes_pos
  · exact h'.largest u (hu.trans hle)

/-- Where there is a greater unit, the number stays below the next one. -/
theorem IsLargest.exists_next {u w : SizeUnit} {n : Nat} (h : u.IsLargest n)
    (hlt : u.bytes < w.bytes) :
    ∃ v : SizeUnit, v.bytes = 1024 * u.bytes ∧ v.bytes ≤ w.bytes ∧ n < v.bytes := by
  obtain ⟨v, hv, hle⟩ := SizeUnit.exists_next hlt
  refine ⟨v, hv, hle, ?_⟩
  by_contra hreach
  have := h.largest v (by omega)
  have := u.bytes_pos
  omega

def ofSymbol? (s : String) : Option SizeUnit :=
  [byte, kilobyte, megabyte, gigabyte, terabyte, petabyte].find? fun u => u.symbol == s

theorem ofSymbol?_symbol (u : SizeUnit) : ofSymbol? u.symbol = some u := by
  cases u <;> decide

end SizeUnit

namespace Size

/-- What the text of a size stands for: the quotient by its unit is rounded to a double, that to
the places, and the result is so many units. -/
def Shows (places : Nat) (v : Int) (r : Rat) : Prop :=
  ∃ (u : SizeUnit) (x : Rat) (k : Int), u.IsLargest v.natAbs ∧ Rounds (v / u.bytes) x ∧
    HalfEven (x * 10 ^ places) k ∧ r = k / 10 ^ places * u.bytes

namespace Shows

variable {places : Nat} {v w : Int} {a b : Rat}

theorem neg (h : Shows places v a) : Shows places (-v) (-a) := by
  obtain ⟨u, x, k, hu, hx, hk, rfl⟩ := h
  refine ⟨u, -x, -k, by rwa [Int.natAbs_neg], ?_, ?_, ?_⟩
  · rw [Int.cast_neg, neg_div]
    exact hx.neg
  · rw [neg_mul]
    exact hk.neg
  · rw [Int.cast_neg, neg_div, neg_mul]

theorem nonneg (h : Shows places v a) (hv : 0 ≤ v) : 0 ≤ a := by
  obtain ⟨u, x, k, -, hx, hk, rfl⟩ := h
  have hv' : (0 : Rat) ≤ v := by exact_mod_cast hv
  have hx0 : 0 ≤ x := hx.nonneg (by positivity)
  have hk0 : 0 ≤ k := hk.ge_of_ge (by rw [Int.cast_zero]; positivity)
  have hk0' : (0 : Rat) ≤ k := by exact_mod_cast hk0
  positivity

/-- Both roundings fix every whole number of a unit, and so neither passes one from below. -/
theorem le_of_le_mul {u : SizeUnit} {x : Rat} {k : Int} {b : Nat} (hb : b < 2 ^ 53)
    (hx : Rounds (v / u.bytes) x) (hk : HalfEven (x * 10 ^ places) k)
    (hle : v ≤ (b * u.bytes : Nat)) : k ≤ (b * 10 ^ places : Nat) := by
  have hu : (0 : Rat) < u.bytes := by exact_mod_cast u.bytes_pos
  have hx' : x ≤ b := by
    refine hx.le_of_le (Double.representable_natCast hb) ?_
    rw [div_le_iff₀ hu]
    exact_mod_cast hle
  refine hk.le_of_le ?_
  push_cast
  gcongr

/-- From above neither of them passes one either. -/
theorem ge_of_mul_le {u : SizeUnit} {x : Rat} {k : Int} {b : Nat} (hb : b < 2 ^ 53)
    (hx : Rounds (v / u.bytes) x) (hk : HalfEven (x * 10 ^ places) k)
    (hle : (b * u.bytes : Nat) ≤ v) : (b * 10 ^ places : Nat) ≤ k := by
  have hu : (0 : Rat) < u.bytes := by exact_mod_cast u.bytes_pos
  have hx' : b ≤ x := by
    refine hx.ge_of_ge (Double.representable_natCast hb) ?_
    rw [le_div_iff₀ hu]
    exact_mod_cast hle
  refine hk.ge_of_ge ?_
  push_cast
  gcongr

/-- Below the next unit the text shows at most one of it. -/
theorem le_next {u : SizeUnit} {x : Rat} {k : Int} (hx : Rounds (v / u.bytes) x)
    (hk : HalfEven (x * 10 ^ places) k) (hlt : v < (1024 * u.bytes : Nat)) :
    (k : Rat) / 10 ^ places * u.bytes ≤ (1024 * u.bytes : Nat) := by
  have hk' := le_of_le_mul (by decide) hx hk hlt.le
  have hpow : (k : Rat) / 10 ^ places ≤ 1024 := by
    rw [div_le_iff₀ (by positivity)]
    exact_mod_cast hk'
  push_cast
  gcongr

/-- A number that reaches the unit shows at least one of it. -/
theorem unit_le {u : SizeUnit} {x : Rat} {k : Int} (hx : Rounds (v / u.bytes) x)
    (hk : HalfEven (x * 10 ^ places) k) (hle : (u.bytes : Int) ≤ v) :
    (u.bytes : Rat) ≤ k / 10 ^ places * u.bytes := by
  have hk' := ge_of_mul_le (b := 1) (by decide) hx hk (by rwa [Nat.one_mul])
  rw [Nat.one_mul] at hk'
  have hpow : 1 ≤ (k : Rat) / 10 ^ places := by
    rw [le_div_iff₀ (by positivity), one_mul]
    exact_mod_cast hk'
  exact le_mul_of_one_le_left (Nat.cast_nonneg _) hpow

theorem mono_of_nonneg (h : Shows places v a) (h' : Shows places w b) (hv : 0 ≤ v) (hle : v ≤ w) :
    a ≤ b := by
  obtain ⟨u, x, k, hu, hx, hk, rfl⟩ := h
  obtain ⟨u', y, l, hu', hy, hl, rfl⟩ := h'
  have hle' : (v : Rat) ≤ w := by exact_mod_cast hle
  rcases (hu.mono hu' (by omega)).eq_or_lt with heq | hlt
  · -- the same unit
    rw [← heq] at hy ⊢
    have hxy : x ≤ y := hx.mono hy (by gcongr)
    have hkl : k ≤ l := hk.mono hl (by gcongr)
    gcongr
  · obtain ⟨next, hnext, hnle, hbelow⟩ := hu.exists_next hlt
    have hreach : u'.bytes ≤ w.natAbs := hu'.reached.resolve_left fun hbyte => by
      have := u.bytes_pos
      rw [hbyte] at hlt
      exact absurd hlt (not_lt.mpr this)
    calc (k : Rat) / 10 ^ places * u.bytes ≤ (1024 * u.bytes : Nat) := le_next hx hk (by omega)
      _ ≤ u'.bytes := by exact_mod_cast hnext.symm.trans_le hnle
      _ ≤ l / 10 ^ places * u'.bytes := unit_le hy hl (by omega)

theorem mono (h : Shows places v a) (h' : Shows places w b) (hle : v ≤ w) : a ≤ b := by
  rcases Int.le_total 0 v with hv | hv
  · exact h.mono_of_nonneg h' hv hle
  · rcases Int.le_total 0 w with hw | hw
    · have hneg := h.neg.nonneg (by omega)
      exact (neg_nonneg.mp hneg).trans (h'.nonneg hw)
    · have hneg := h'.neg.mono_of_nonneg h.neg (by omega) (by omega)
      exact neg_le_neg_iff.mp hneg

end Shows

/-- The characters of the number before the unit. -/
def isNumeral (c : Char) : Bool := c.isDigit || c == '.' || c == '-'

/-- The number of bytes that the text of a size denotes. -/
def read? (text : String) : Option Rat :=
  match Decimal.read? (text.toList.takeWhile isNumeral),
    SizeUnit.ofSymbol? (String.ofList (text.toList.dropWhile isNumeral)) with
  | some q, some u => some (q * u.bytes)
  | _, _ => none

/-- What stands before the unit ends where the unit begins. -/
theorem takeWhile_isNumeral {cs : List Char} (h : ∀ c ∈ cs, isNumeral c = true) (u : SizeUnit) :
    (String.ofList cs ++ u.symbol).toList.takeWhile isNumeral = cs := by
  have htake : u.symbol.toList.takeWhile isNumeral = [] := by cases u <;> decide
  rw [String.toList_append, String.toList_ofList, List.takeWhile_append_of_pos h, htake,
    List.append_nil]

theorem read?_append {cs : List Char} (h : ∀ c ∈ cs, isNumeral c = true) (u : SizeUnit) :
    read? (String.ofList cs ++ u.symbol) = (Decimal.read? cs).map fun q : Rat => q * u.bytes := by
  have hdrop : u.symbol.toList.dropWhile isNumeral = u.symbol.toList := by cases u <;> decide
  rw [read?, takeWhile_isNumeral h, String.toList_append, String.toList_ofList,
    List.dropWhile_append_of_pos h, hdrop, String.ofList_toList, SizeUnit.ofSymbol?_symbol]
  cases Decimal.read? cs <;> rfl

section Written

variable {places k : Nat} {body : List Char}

theorem isNumeral_written (h : Decimal.Freed (Decimal.withPoint places k) body)
    (negative : Bool) : ∀ c ∈ Decimal.sign negative ++ body, isNumeral c = true := by
  intro c hc
  rw [isNumeral, Bool.or_eq_true, Bool.or_eq_true, beq_iff_eq, beq_iff_eq]
  rcases List.mem_append.mp hc with hc | hc
  · cases negative
    · cases hc
    · exact .inr (List.mem_singleton.mp hc)
  · exact .inl (Decimal.mem_withPoint (h.subset hc))

/-- The sign of a quotient comes back with the number. -/
theorem decimal_written (h : Decimal.Freed (Decimal.withPoint places k) body) (negative : Bool) :
    Decimal.read? (Decimal.sign negative ++ body) =
      some (((Double.signed negative k : Int) : Rat) / 10 ^ places) := by
  have hhead : body.head? ≠ some '-' := fun he => by
    rcases Decimal.mem_withPoint (h.subset (List.mem_of_head? he)) with hc | hc <;> cases hc
  rw [Decimal.read?_sign hhead, h.unsigned?_eq (Decimal.unsigned?_withPoint places k)]
  cases negative
  · rfl
  · simp [Double.signed, neg_div]

theorem read?_written (h : Decimal.Freed (Decimal.withPoint places k) body) (negative : Bool)
    (u : SizeUnit) :
    read? (String.ofList (Decimal.sign negative ++ body) ++ u.symbol) =
      some (((Double.signed negative k : Int) : Rat) / 10 ^ places * u.bytes) := by
  rw [read?_append (isNumeral_written h negative), decimal_written h]
  rfl

end Written

/-- Behind the last place of a double there is nothing left to round. -/
theorem exists_intCast {q y : Rat} (h : Rounds q y) :
    ∃ n : Int, y * 10 ^ Decimal.maxPlaces = n := by
  obtain ⟨e, k, hunit, -, rfl⟩ := h
  obtain ⟨j, hj⟩ := Int.le.dest hunit.least
  have htwo : (2 : Rat) ^ e * 2 ^ Decimal.maxPlaces = 2 ^ j := by
    rw [← hj, ← zpow_natCast, ← zpow_natCast, ← Double.two_zpow_add]
    congr 1
    unfold Decimal.maxPlaces
    omega
  refine ⟨k * 2 ^ j * 5 ^ Decimal.maxPlaces, ?_⟩
  have hten : (10 : Rat) = 2 * 5 := by norm_num
  rw [hten, mul_pow, ← mul_assoc, mul_assoc (k : Rat), htwo]
  push_cast
  rfl

/-- The text of a double is its decimal of so many places, freed of what it does not need. -/
theorem exists_trimFraction_fixed (negative : Bool) (m : Nat) (e : Int) (places : Nat) :
    ∃ (k : Nat) (body : List Char), HalfEven (m * 2 ^ e * 10 ^ places) k ∧
      Decimal.Freed (Decimal.withPoint places k) body ∧
      Decimal.trimFraction (Decimal.fixed places (.finite negative m e)) =
        Decimal.sign negative ++ body := by
  have hsign : '.' ∉ Decimal.sign negative := by cases negative <;> decide
  obtain ⟨body, hfreed, htrim⟩ := Decimal.exists_trimFraction hsign places
    (roundDiv (m * Power.num 2 e * Power.num 10 places) (Power.den 2 e))
  refine ⟨_, body, ?_, hfreed, htrim⟩
  have hround := halfEven_roundDiv (m * Power.num 2 e * Power.num 10 places)
    (Power.den_pos (by decide : 0 < 2) e)
  have hden : (Power.den 2 e : Rat) ≠ 0 := (Power.cast_den_pos two_pos e).ne'
  have hexact : ((m * Power.num 2 e * Power.num 10 places : Nat) : Rat) / Power.den 2 e =
      m * 2 ^ e * 10 ^ places := by
    rw [Power.num_natCast, Nat.pow_eq, Nat.cast_mul, Nat.cast_mul, Power.cast_num (by decide)]
    push_cast
    field_simp
  rwa [hexact] at hround

/-- That no more than `maxPlaces` places are ever computed makes no difference. -/
theorem exists_render {q : Rat} {negative : Bool} {m : Nat} {e : Int}
    (h : Rounds q (Double.toRat (.finite negative m e))) (places : Nat) (u : SizeUnit) :
    ∃ (k : Nat) (body : List Char), HalfEven (m * 2 ^ e * 10 ^ places) k ∧
      Decimal.Freed (Decimal.withPoint places k) body ∧
      render places (.finite negative m e) u =
        String.ofList (Decimal.sign negative ++ body) ++ u.symbol := by
  rcases Nat.le_total places Decimal.maxPlaces with hle | hle
  · obtain ⟨k, body, hk, hfreed, htrim⟩ := exists_trimFraction_fixed negative m e places
    refine ⟨k, body, hk, hfreed, ?_⟩
    rw [render, Nat.min_eq_left hle, htrim]
  · obtain ⟨k, body, hk, hfreed, htrim⟩ :=
      exists_trimFraction_fixed negative m e Decimal.maxPlaces
    obtain ⟨zeros, rfl⟩ := Nat.exists_eq_add_of_le hle
    have hpos : 0 < Decimal.maxPlaces := by decide
    have hpoint : '.' ∈ Decimal.withPoint Decimal.maxPlaces k := by
      rw [Decimal.withPoint_of_pos hpos]
      simp
    have hwhole : (m : Rat) * 2 ^ e * 10 ^ Decimal.maxPlaces = k := by
      obtain ⟨n, hn⟩ := exists_intCast h
      have habs := congrArg abs hn
      rw [abs_mul, Double.abs_toRat, abs_of_pos (by positivity), ← Int.cast_abs] at habs
      rw [habs] at hk ⊢
      exact_mod_cast hk.eq_of_intCast.symm
    refine ⟨k * 10 ^ zeros, body, ?_, ?_, ?_⟩
    · rw [pow_add, ← mul_assoc, hwhole]
      exact_mod_cast HalfEven.intCast (k * 10 ^ zeros : Nat)
    · rw [Decimal.withPoint_mul_pow hpos]
      exact hfreed.append_zeros hpoint zeros
    · rw [render, Nat.min_eq_right hle, htrim]

theorem places_of_lt {d : Nat} (h : d < placesBound) : places d = .ok d := by
  have hread : placesBound ≤ readingBound := by decide
  rw [places, if_neg (by omega), if_neg (by omega), if_neg (by omega), Int.toNat_natCast]

theorem exists_places_of_le {d : Nat} (h : placesBound ≤ d) : ∃ e, places d = .error e := by
  rw [places, if_neg (by omega)]
  split
  · exact ⟨_, rfl⟩
  · rw [if_pos (by omega)]
    exact ⟨_, rfl⟩

/-- The unit that goes with a number. -/
def unitOf (v : Int) : SizeUnit := SizeUnit.largest (· ≤ v.natAbs)

theorem isLargest_unitOf (v : Int) : (unitOf v).IsLargest v.natAbs :=
  SizeUnit.isLargest_largest v.natAbs

theorem ofInt_of_quotient {v : Int} {x : Double} (h : Double.quotient v (unitOf v).bytes = .ok x)
    (d : Int) : ofInt v d = (places d).map fun n => render n x (unitOf v) := by
  unfold unitOf at h
  rw [ofInt, h]
  rfl

/-- A size that is not refused has a quotient. -/
theorem exists_quotient {v d : Int} (h : ofInt v d ≠ .error (.arithmetic .quotientTooLarge)) :
    ∃ x, Double.quotient v (unitOf v).bytes = .ok x := by
  rcases Double.quotient_cases v (unitOf v).bytes_pos with ⟨-, herror⟩ | ⟨-, x, hx, -⟩
  · unfold unitOf at herror
    exact absurd (by rw [ofInt, herror]) h
  · exact ⟨x, hx⟩

/-- The text of a number: the sign, the digits of the rounded quotient, the unit. -/
theorem exists_ofInt {v : Int} {x : Double} (h : Double.quotient v (unitOf v).bytes = .ok x)
    {d : Nat} (hd : d < placesBound) :
    ∃ (y : Rat) (k : Nat) (body : List Char), Rounds (v / (unitOf v).bytes) y ∧
      HalfEven (|y| * 10 ^ d) k ∧ Decimal.Freed (Decimal.withPoint d k) body ∧
      ofInt v d = .ok (String.ofList (Decimal.sign (v < 0) ++ body) ++ (unitOf v).symbol) := by
  obtain ⟨m, e, rfl, hround⟩ := Double.rounds_quotient (unitOf v).bytes_pos h
  obtain ⟨k, body, hk, hfreed, hrender⟩ := exists_render hround d (unitOf v)
  refine ⟨_, k, body, hround, by rwa [Double.abs_toRat], hfreed, ?_⟩
  rw [ofInt_of_quotient h, places_of_lt hd, ← hrender]
  rfl

/-- The quotient has the sign of the number, and so has what it is rounded to. -/
theorem halfEven_signed {v : Int} {u : SizeUnit} {y : Rat} {places k : Nat}
    (hy : Rounds (v / u.bytes) y) (hk : HalfEven (|y| * 10 ^ places) k) :
    HalfEven (y * 10 ^ places) (Double.signed (v < 0) k) := by
  have hu : (0 : Rat) < u.bytes := by exact_mod_cast u.bytes_pos
  rcases lt_or_ge v 0 with hv | hv
  · have hv' : (v : Rat) ≤ 0 := by exact_mod_cast hv.le
    have hneg := hy.nonpos (div_nonpos_of_nonpos_of_nonneg hv' hu.le)
    rw [abs_of_nonpos hneg] at hk
    have hk' := hk.neg
    rw [neg_mul, neg_neg] at hk'
    simpa [Double.signed, hv] using hk'
  · have hv' : (0 : Rat) ≤ v := by exact_mod_cast hv
    rw [abs_of_nonneg (hy.nonneg (div_nonneg hv' hu.le))] at hk
    simpa [Double.signed, hv.not_gt] using hk

theorem exists_read? {v : Int} {x : Double} (h : Double.quotient v (unitOf v).bytes = .ok x)
    {d : Nat} (hd : d < placesBound) :
    ∃ text a, ofInt v d = .ok text ∧ read? text = some a ∧ Shows d v a := by
  obtain ⟨y, k, body, hy, hk, hfreed, htext⟩ := exists_ofInt h hd
  exact ⟨_, _, htext, read?_written hfreed _ _,
    unitOf v, y, _, isLargest_unitOf v, hy, halfEven_signed hy hk, rfl⟩

/-- Of two numbers the greater one never shows fewer bytes, whatever their units, unless one of
them is beyond every double. With too many places neither shows anything. -/
theorem ofInt_mono {v w : Int} (hle : v ≤ w) {d : Nat}
    (hv : ofInt v d ≠ .error (.arithmetic .quotientTooLarge))
    (hw : ofInt w d ≠ .error (.arithmetic .quotientTooLarge)) :
    (d < placesBound → ∃ s t a b, ofInt v d = .ok s ∧ ofInt w d = .ok t ∧
      read? s = some a ∧ read? t = some b ∧ a ≤ b) ∧
    (placesBound ≤ d → ∃ e, places d = .error e ∧ ofInt v d = .error e ∧ ofInt w d = .error e) := by
  obtain ⟨x, hx⟩ := exists_quotient hv
  obtain ⟨y, hy⟩ := exists_quotient hw
  constructor
  · intro hd
    obtain ⟨s, a, hs, ha, hshow⟩ := exists_read? hx hd
    obtain ⟨t, b, ht, hb, hshow'⟩ := exists_read? hy hd
    exact ⟨s, t, a, b, hs, ht, ha, hb, hshow.mono hshow' hle⟩
  · intro hd
    obtain ⟨e, he⟩ := exists_places_of_le hd
    refine ⟨e, he, ?_, ?_⟩
    · rw [ofInt_of_quotient hx, he]
      rfl
    · rw [ofInt_of_quotient hy, he]
      rfl

/-- The last number of kilobytes without places, and the first megabyte. -/
theorem ofInt_mono_next_unit :
    (1048575 : Int) ≤ 1048576 ∧ ofInt 1048575 0 = .ok "1024KB" ∧ ofInt 1048576 0 = .ok "1MB" ∧
      ∃ a b, read? "1024KB" = some a ∧ read? "1MB" = some b ∧ a ≤ b := by
  have hlast : ofInt 1048575 0 = .ok "1024KB" := by decide +kernel
  have hfirst : ofInt 1048576 0 = .ok "1MB" := by decide +kernel
  obtain ⟨s, t, a, b, hs, ht, ha, hb, hab⟩ :=
    (ofInt_mono (by decide : (1048575 : Int) ≤ 1048576) (d := 0) (by simp [hlast])
      (by simp [hfirst])).1 (by decide)
  obtain rfl := Except.ok.inj (hlast.symm.trans hs)
  obtain rfl := Except.ok.inj (hfirst.symm.trans ht)
  exact ⟨by decide, hlast, hfirst, a, b, ha, hb, hab⟩

/-- Below `2 ^ 53` a double holds the quotient by any unit. -/
theorem representable_quotient {v : Int} (h : v.natAbs < 2 ^ 53) (u : SizeUnit) :
    Double.Representable (v / u.bytes) := by
  have := u.rank_le
  refine ⟨v, -(10 * u.rank : Nat), h, by omega, ?_⟩
  rw [u.bytes_eq, zpow_neg, zpow_natCast, div_eq_mul_inv]
  push_cast
  rfl

theorem exists_quotient_of_lt_overflow {v : Int} (h : v.natAbs < Double.overflow) :
    ∃ x, Double.quotient v (unitOf v).bytes = .ok x := by
  rcases Double.quotient_cases v (unitOf v).bytes_pos with ⟨hover, -⟩ | ⟨-, x, hx, -⟩
  · have hmul := Nat.le_mul_of_pos_right Double.overflow (unitOf v).bytes_pos
    omega
  · exact ⟨x, hx⟩

theorem exists_quotient_of_lt {v : Int} (h : v.natAbs < 2 ^ 53) :
    ∃ x, Double.quotient v (unitOf v).bytes = .ok x := by
  have hlow : 2 ^ 53 ≤ Double.overflow := by decide +kernel
  exact exists_quotient_of_lt_overflow (h.trans_le hlow)

/-- Below `2 ^ 53` the text is the exact quotient by the largest unit that is reached, rounded once
to `d` places with a tie to the even digit. It has lost its fractional zeros and a bare point, but no
digit of the whole part, and it is read back within half of the last place. -/
theorem ofInt_written {v : Int} (hv : v.natAbs < 2 ^ 53) {d : Nat} (hd : d < placesBound) :
    ∃ (u : SizeUnit) (k : Nat) (body : List Char) (text : String) (r : Rat),
      u.IsLargest v.natAbs ∧ HalfEven (v.natAbs / u.bytes * 10 ^ d) k ∧
      Decimal.Freed (Decimal.withPoint d k) body ∧
      text = String.ofList (Decimal.sign (v < 0) ++ body) ++ u.symbol ∧ ofInt v d = .ok text ∧
      body.takeWhile (· ≠ '.') = Decimal.ofNat (k / 10 ^ d) ∧
      body.getLast? ≠ some '.' ∧ ('.' ∈ body → body.getLast? ≠ some '0') ∧
      read? text = some r ∧ |r - v| ≤ u.bytes / (2 * 10 ^ d) := by
  obtain ⟨x, hx⟩ := exists_quotient_of_lt hv
  obtain ⟨y, k, body, hy, hk, hfreed, htext⟩ := exists_ofInt hx hd
  have hu : (0 : Rat) < (unitOf v).bytes := by exact_mod_cast (unitOf v).bytes_pos
  obtain rfl := hy.eq_of_representable (representable_quotient hv (unitOf v))
  have habs : |(v : Rat) / (unitOf v).bytes| = v.natAbs / (unitOf v).bytes := by
    rw [abs_div, abs_of_pos hu, Nat.cast_natAbs, Int.cast_abs]
  have hnear := (halfEven_signed hy hk).near
  refine ⟨unitOf v, k, body, _, _, isLargest_unitOf v, habs ▸ hk, hfreed, rfl, htext, ?_,
    hfreed.getLast?_ne.1, hfreed.getLast?_ne.2, read?_written hfreed _ _, ?_⟩
  · rw [hfreed.takeWhile_eq, Decimal.takeWhile_withPoint]
  · generalize ((Double.signed (v < 0) k : Int) : Rat) = r at hnear ⊢
    have hpow : (0 : Rat) < 10 ^ d := by positivity
    have hdiff : r / 10 ^ d * (unitOf v).bytes - v =
        -((v / (unitOf v).bytes * 10 ^ d - r) * ((unitOf v).bytes / 10 ^ d)) := by
      field_simp
      ring
    calc |r / 10 ^ d * (unitOf v).bytes - v|
        = |(v : Rat) / (unitOf v).bytes * 10 ^ d - r| * ((unitOf v).bytes / 10 ^ d) := by
          rw [hdiff, abs_neg, abs_mul, abs_of_pos (div_pos hu hpow)]
      _ ≤ 1 / 2 * ((unitOf v).bytes / 10 ^ d) := by gcongr
      _ = (unitOf v).bytes / (2 * 10 ^ d) := by ring

/-- An eighth is half way between two hundredths: the even one is taken. -/
theorem ofInt_written_tie :
    (1152 : Int).natAbs < 2 ^ 53 ∧ 2 < placesBound ∧ ofInt 1152 2 = .ok "1.12KB" ∧
      ∃ (u : SizeUnit) (r : Rat), u.IsLargest 1152 ∧ read? "1.12KB" = some r ∧
        |r - 1152| ≤ u.bytes / (2 * 10 ^ 2) := by
  have htie : ofInt 1152 2 = .ok "1.12KB" := by decide +kernel
  obtain ⟨u, k, body, text, r, hu, -, -, -, htext, -, -, -, hread, hnear⟩ :=
    ofInt_written (by decide : (1152 : Int).natAbs < 2 ^ 53) (by decide : 2 < placesBound)
  obtain rfl := Except.ok.inj (htie.symm.trans htext)
  exact ⟨by decide, by decide, htie, u, r, hu, hread, by exact_mod_cast hnear⟩

end Size

end AccessLog
