import AccessLog.Number.Grouping
import AccessLog.Proofs.Number.Digits

/-!
Commas between the thousands. A mark is set where a positive multiple of three digits follows; on a
run of digits that is to cut off threes from its right end (`commas_run`), whatever follows the run.
-/
namespace AccessLog

namespace Grouping

/-- A run from its right end: a comma behind every third digit that another one follows. -/
def marked : List Char → List Char
  | a :: b :: c :: d :: ds => a :: b :: c :: ',' :: marked (d :: ds)
  | ds => ds

/-- A run of digits with a comma before every third of them, counted from the right end. -/
def inThrees (ds : List Char) : List Char := (marked ds.reverse).reverse

/-- The characters are decimal digits, and what comes next is none. -/
structure IsRun (ds rest : List Char) : Prop where
  digits : ∀ c ∈ ds, Text.isDecimalDigit c = true
  stop : ∀ c ∈ rest.head?, Text.isDecimalDigit c = false

variable {ds xs ys rest : List Char} {c : Char}

@[simp] theorem commas_nil : commas [] = [] := rfl

/-- Other characters are kept in their places. -/
theorem commas_append_of_not_digit (h : xs.any Text.isDecimalDigit = false) :
    commas (xs ++ rest) = xs ++ commas rest := by
  induction xs with
  | nil => rfl
  | cons c xs ih =>
    rw [List.any_cons, Bool.or_eq_false_iff] at h
    have hc : ¬Text.isDecimalDigit c = true := Bool.eq_false_iff.mp h.1
    have hrest := ih h.2
    rw [commas] at hrest
    rw [List.cons_append, commas, markTriples]
    simp only [hc, hrest]
    rfl

theorem leadingDigits_append (h : IsRun ds rest) : leadingDigits (ds ++ rest) = ds.length := by
  have hrest : rest.takeWhile Text.isDecimalDigit = [] := by
    cases rest with
    | nil => rfl
    | cons c rest => exact List.takeWhile_cons_of_neg (by simp [h.stop c rfl])
  rw [leadingDigits, List.takeWhile_append_of_pos h.digits, hrest, List.append_nil]

theorem commas_cons (hc : Text.isDecimalDigit c = true) (h : IsRun ds rest) :
    commas (c :: (ds ++ rest)) =
      if 0 < ds.length ∧ ds.length % 3 = 0 then c :: ',' :: commas (ds ++ rest)
      else c :: commas (ds ++ rest) := by
  rw [commas, markTriples]
  simp only [leadingDigits_append h, hc, true_and]
  split <;> rfl

theorem commas_of_length_le (h : IsRun ds rest) (hlen : ds.length ≤ 3) :
    commas (ds ++ rest) = ds ++ commas rest := by
  induction ds with
  | nil => rfl
  | cons c ds ih =>
    have hrun : IsRun ds rest := ⟨fun d hd => h.digits d (List.mem_cons_of_mem c hd), h.stop⟩
    rw [List.length_cons] at hlen
    rw [List.cons_append, commas_cons (h.digits c List.mem_cons_self) hrun, if_neg (by omega),
      ih hrun (by omega), List.cons_append]

/-- The last three digits of a run are set off; the marks before them do not depend on them. -/
theorem commas_append_three (h : IsRun (xs ++ ys) rest) (hx : xs ≠ []) (hy : ys.length = 3) :
    commas (xs ++ (ys ++ rest)) = commas xs ++ ',' :: (ys ++ commas rest) := by
  induction xs with
  | nil => exact absurd rfl hx
  | cons c xs ih =>
    have hc := h.digits c List.mem_cons_self
    have hrun : IsRun (xs ++ ys) rest :=
      ⟨fun d hd => h.digits d (List.mem_cons_of_mem c hd), h.stop⟩
    have hxs : IsRun xs [] := ⟨fun d hd => hrun.digits d (List.mem_append_left ys hd), by simp⟩
    have hys : IsRun ys rest := ⟨fun d hd => hrun.digits d (List.mem_append_right xs hd), h.stop⟩
    have hwith := commas_cons hc hrun
    have halone := commas_cons hc hxs
    rw [List.append_assoc, List.length_append, hy] at hwith
    rw [List.append_nil] at halone
    rw [List.cons_append, hwith, halone]
    rcases eq_or_ne xs [] with rfl | hne
    · rw [if_pos (by simp), if_neg (by simp), List.nil_append,
        commas_of_length_le hys (Nat.le_of_eq hy)]
      rfl
    · have hpos := List.length_pos_iff.mpr hne
      rw [ih hrun hne]
      by_cases hthree : xs.length % 3 = 0
      · rw [if_pos (by omega), if_pos ⟨hpos, hthree⟩]
        rfl
      · rw [if_neg (by omega), if_neg fun hand => hthree hand.2]
        rfl

/-- A run is grouped from its right end, and what follows it by itself. -/
theorem commas_run (h : IsRun ds rest) : commas (ds ++ rest) = inThrees ds ++ commas rest := by
  unfold inThrees
  -- the digits from the right, as `marked` takes them
  obtain ⟨rs, rfl⟩ : ∃ rs : List Char, ds = rs.reverse := ⟨ds.reverse, ds.reverse_reverse.symm⟩
  rw [List.reverse_reverse]
  induction rs using marked.induct generalizing rest with
  | case1 a b c d rs ih =>
    have hsplit : (a :: b :: c :: d :: rs).reverse = (d :: rs).reverse ++ [c, b, a] := by simp
    have hfront : IsRun (d :: rs).reverse [] :=
      ⟨fun x hx => h.digits x (hsplit ▸ List.mem_append_left _ hx), by simp⟩
    have hgroup := ih hfront
    rw [List.append_nil] at hgroup
    rw [hsplit] at h ⊢
    rw [List.append_assoc, commas_append_three h (by simp) rfl, hgroup, marked]
    simp
  | case2 rs hshort =>
    have hlen : rs.length ≤ 3 := by
      rcases rs with _ | ⟨a, _ | ⟨b, _ | ⟨c, _ | ⟨d, rs⟩⟩⟩⟩
      · simp
      · simp
      · simp
      · simp
      · exact (hshort a b c d rs rfl).elim
    rw [commas_of_length_le h (by rwa [List.length_reverse]), marked]
    exact hshort

theorem filter_marked (ds : List Char) :
    (marked ds).filter (· ≠ ',') = ds.filter (· ≠ ',') := by
  induction ds using marked.induct with
  | case1 a b c d ds ih =>
    rw [marked]
    simp only [List.filter_cons, ih]
    rfl
  | case2 ds hshort => rw [marked]; exact hshort

/-- Without its commas a grouped run is the run. -/
theorem filter_inThrees (h : ',' ∉ ds) : (inThrees ds).filter (· ≠ ',') = ds := by
  rw [inThrees, List.filter_reverse, filter_marked, ← List.filter_reverse, List.reverse_reverse]
  exact List.filter_eq_self.mpr fun c hc => decide_eq_true fun e => h (e ▸ hc)

end Grouping

theorem Text.isDecimalDigit_of_isDigit {c : Char} (h : c.isDigit = true) :
    isDecimalDigit c = true := by
  have hrange : 0x0030 ≤ c.toNat ∧ c.toNat ≤ 0x0039 := by
    simpa [Char.isDigit, UInt32.le_iff_toNat_le] using h
  have hfirst : (0x0030 ≤ c.toNat && c.toNat < 0x0030 + 10) = true := by
    simp only [Bool.and_eq_true, decide_eq_true_eq]
    omega
  rw [isDecimalDigit, digitValue?, Option.isSome_map, List.find?_isSome]
  exact ⟨0x0030, List.mem_cons_self, hfirst⟩

namespace Decimal

/-- The digits of a whole number with commas between the thousands. -/
def grouped (n : Int) : List Char := sign (n < 0) ++ Grouping.inThrees (ofNat n.natAbs)

theorem filter_grouped (n : Int) : (grouped n).filter (· ≠ ',') = ofInt n := by
  have hsign : ∀ negative, (sign negative).filter (· ≠ ',') = sign negative := by decide
  rw [grouped, List.filter_append, hsign, Grouping.filter_inThrees (not_mem_ofNat rfl _), ofInt]

theorem mem_ofInt {n : Int} {c : Char} (h : c ∈ ofInt n) : c = '-' ∨ c.isDigit = true := by
  rw [ofInt, List.mem_append, sign] at h
  rcases h with h | h
  · split at h
    · exact .inl (List.mem_singleton.mp h)
    · cases h
  · exact .inr (isDigit_of_mem_ofNat h)

theorem ofInt_injective : Function.Injective ofInt := by
  intro m n h
  have hdash : ∀ k : Int, '-' ∈ ofInt k ↔ k < 0 := by
    intro k
    rw [ofInt, List.mem_append, or_iff_left (not_mem_ofNat rfl _)]
    by_cases hk : k < 0 <;> simp [sign, hk]
  have hdigits : ∀ k : Int, (ofInt k).filter Char.isDigit = ofNat k.natAbs := by
    intro k
    have hsign : ∀ negative, (sign negative).filter Char.isDigit = [] := by decide
    rw [ofInt, List.filter_append, hsign, List.nil_append]
    exact List.filter_eq_self.mpr fun _ => isDigit_of_mem_ofNat
  have habs : m.natAbs = n.natAbs := ofNat_injective (by rw [← hdigits, h, hdigits])
  have hneg : m < 0 ↔ n < 0 := by rw [← hdash, h, hdash]
  omega

theorem grouped_injective : Function.Injective grouped := fun m n h =>
  ofInt_injective (by rw [← filter_grouped, h, filter_grouped])

end Decimal

/-- Of a number and letters behind it only the digits of the number are grouped. -/
theorem groupDigits_ofInt (n : Int) {letters : List Char} (hpoint : '.' ∉ letters)
    (hletters : letters.any Text.isDecimalDigit = false) :
    groupDigits (Decimal.ofInt n ++ letters) = Decimal.grouped n ++ letters := by
  have hnumber : '.' ∉ Decimal.ofInt n := fun h => by
    rcases Decimal.mem_ofInt h with hc | hc <;> contradiction
  have hsign : (Decimal.sign (n < 0)).any Text.isDecimalDigit = false := by
    cases decide (n < 0) <;> decide
  have hstop := List.any_eq_false.mp hletters
  have hrun : Grouping.IsRun (Decimal.ofNat n.natAbs) letters :=
    ⟨fun c hc => Text.isDecimalDigit_of_isDigit (Decimal.isDigit_of_mem_ofNat hc),
      fun c hc => Bool.eq_false_iff.mpr (hstop c (List.mem_of_head? hc))⟩
  have hkept : Grouping.commas (letters ++ []) = letters ++ Grouping.commas [] :=
    Grouping.commas_append_of_not_digit hletters
  rw [Grouping.commas_nil, List.append_nil] at hkept
  rw [groupDigits, Grouping.onHead,
    Text.cutAt_of_not_mem fun h => (List.mem_append.mp h).elim hnumber hpoint]
  simp only
  rw [Decimal.ofInt, List.append_assoc, Grouping.commas_append_of_not_digit hsign,
    Grouping.commas_run hrun, hkept, Decimal.grouped, List.append_assoc]

end AccessLog
