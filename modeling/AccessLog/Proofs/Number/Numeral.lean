import AccessLog.Proofs.Number.Digits
import AccessLog.Text.Split
import Mathlib.Algebra.Order.Field.Basic
import Mathlib.Algebra.Order.Ring.Rat
import Mathlib.Data.List.Induction
import Mathlib.Data.List.TakeWhile
import Mathlib.Tactic.FieldSimp
import Mathlib.Tactic.Ring

/-!
Decimal numerals read as rational numbers. `Freed` says by three rules what it is to lose the zeros
at the end of a fraction; `trimFraction` does that and nothing else, and the number stays the same.
-/
namespace AccessLog

theorem Text.cutAt_append {sep : Char} {cs : List Char} (h : sep ∉ cs) (rest : List Char) :
    Text.cutAt sep (cs ++ sep :: rest) = (cs, some rest) := by
  have hne : ∀ c ∈ cs, decide (c ≠ sep) = true := fun c hc => decide_eq_true fun e => h (e ▸ hc)
  have hdrop : (cs ++ sep :: rest).dropWhile (· ≠ sep) = sep :: rest := by
    rw [List.dropWhile_append_of_pos hne, List.dropWhile_cons_of_neg (by simp)]
  have htake : (cs ++ sep :: rest).takeWhile (· ≠ sep) = cs := by
    rw [List.takeWhile_append_of_pos hne, List.takeWhile_cons_of_neg (by simp), List.append_nil]
  rw [Text.cutAt, hdrop, htake]

namespace Decimal

def IsDigits (ds : List Char) : Prop := ds ≠ [] ∧ ∀ c ∈ ds, c.isDigit = true

instance (ds : List Char) : Decidable (IsDigits ds) := inferInstanceAs (Decidable (_ ∧ _))

/-- Digits, or digits before and behind a point. -/
def unsigned? (cs : List Char) : Option Rat :=
  match Text.cutAt '.' cs with
  | (whole, none) => if IsDigits whole then some (value whole) else none
  | (whole, some fraction) =>
    if IsDigits whole ∧ IsDigits fraction then
      some (value whole + value fraction / 10 ^ fraction.length)
    else none

/-- The number that a numeral denotes. -/
def read? : List Char → Option Rat
  | '-' :: cs => (unsigned? cs).map fun q => -q
  | cs => unsigned? cs

theorem isDigits_ofNat (n : Nat) : IsDigits (ofNat n) :=
  ⟨ofNat_ne_nil n, fun _ => isDigit_of_mem_ofNat⟩

theorem isDigits_padded (width n : Nat) : IsDigits (padded width n) :=
  ⟨by rw [padded_eq]; simp [ofNat_ne_nil], fun _ => isDigit_of_mem_padded⟩

theorem IsDigits.not_mem {ds : List Char} (h : IsDigits ds) {c : Char} (hc : c.isDigit = false) :
    c ∉ ds :=
  fun hm => Bool.false_ne_true (hc.symm.trans (h.2 c hm))

theorem unsigned?_digits {ds : List Char} (h : IsDigits ds) :
    unsigned? ds = some (value ds : Rat) := by
  rw [unsigned?, Text.cutAt_of_not_mem (h.not_mem rfl)]
  exact if_pos h

theorem unsigned?_point {ds fs : List Char} (h : IsDigits ds) (hf : IsDigits fs) :
    unsigned? (ds ++ '.' :: fs) = some ((value ds : Rat) + value fs / 10 ^ fs.length) := by
  rw [unsigned?, Text.cutAt_append (h.not_mem rfl)]
  exact if_pos ⟨h, hf⟩

theorem read?_sign {cs : List Char} (h : cs.head? ≠ some '-') (negative : Bool) :
    read? (sign negative ++ cs) = (unsigned? cs).map fun q => if negative then -q else q := by
  cases negative with
  | true => rfl
  | false =>
    cases cs with
    | nil => rfl
    | cons c cs =>
      have hc : c ≠ '-' := fun e => h (by rw [e]; rfl)
      have hread : read? (c :: cs) = unsigned? (c :: cs) := by
        unfold read?
        split
        · rename_i heq
          exact absurd (List.cons.inj heq).1 hc
        · rfl
      simpa [sign] using hread

@[simp] theorem withPoint_zero (n : Nat) : withPoint 0 n = ofNat n := rfl

theorem withPoint_of_pos {places : Nat} (h : 0 < places) (n : Nat) :
    withPoint places n =
      ofNat (n / 10 ^ places) ++ '.' :: padded places (n % 10 ^ places) := by
  rw [withPoint, if_neg h.ne']
  rfl

theorem mem_withPoint {places n : Nat} {c : Char} (h : c ∈ withPoint places n) :
    c.isDigit = true ∨ c = '.' := by
  rcases Nat.eq_zero_or_pos places with rfl | hp
  · exact .inl (isDigit_of_mem_ofNat h)
  · rw [withPoint_of_pos hp, List.mem_append, List.mem_cons] at h
    rcases h with h | h | h
    · exact .inl (isDigit_of_mem_ofNat h)
    · exact .inr h
    · exact .inl (isDigit_of_mem_padded h)

theorem takeWhile_withPoint (places n : Nat) :
    (withPoint places n).takeWhile (· ≠ '.') = ofNat (n / 10 ^ places) := by
  have hne : ∀ m, ∀ c ∈ ofNat m, decide (c ≠ '.') = true := fun m c hc =>
    decide_eq_true fun e => not_mem_ofNat rfl m (e ▸ hc)
  rcases Nat.eq_zero_or_pos places with rfl | hp
  · rw [withPoint_zero, Nat.pow_zero, Nat.div_one, List.takeWhile_eq_self_iff.mpr (hne n)]
  · rw [withPoint_of_pos hp, List.takeWhile_append_of_pos (hne _),
      List.takeWhile_cons_of_neg (by simp), List.append_nil]

/-- A number with more places than it needs ends in zeros. -/
theorem withPoint_mul_pow {places : Nat} (h : 0 < places) (n zeros : Nat) :
    withPoint (places + zeros) (n * 10 ^ zeros) =
      withPoint places n ++ List.replicate zeros '0' := by
  have hpow : 0 < 10 ^ zeros := Nat.pow_pos (by decide)
  have hmod : n % 10 ^ places < 10 ^ places := Nat.mod_lt n (Nat.pow_pos (by decide))
  rw [withPoint_of_pos h, withPoint_of_pos (Nat.add_pos_left h zeros), Nat.pow_add,
    Nat.mul_div_mul_right _ _ hpow, Nat.mul_mod_mul_right, padded_mul_pow h hmod,
    List.append_assoc, List.cons_append]

/-- The digits behind the point are a part of the whole number. -/
theorem unsigned?_withPoint (places n : Nat) :
    unsigned? (withPoint places n) = some ((n : Rat) / 10 ^ places) := by
  rcases Nat.eq_zero_or_pos places with rfl | hp
  · rw [withPoint_zero, unsigned?_digits (isDigits_ofNat n), value_ofNat, pow_zero, div_one]
  · have hpow : 0 < 10 ^ places := Nat.pow_pos (by decide)
    rw [withPoint_of_pos hp, unsigned?_point (isDigits_ofNat _) (isDigits_padded _ _),
      value_ofNat, value_padded, length_padded hp (Nat.mod_lt n hpow)]
    refine congrArg some ?_
    have hsplit : (n : Rat) = (n / 10 ^ places : Nat) * 10 ^ places + (n % 10 ^ places : Nat) := by
      exact_mod_cast (Nat.div_add_mod' n _).symm
    conv_rhs => rw [hsplit]
    field_simp

/-- The second text is the first one without the zeros at the end of the fraction, and without a
point that no digit follows. -/
inductive Freed : List Char → List Char → Prop
  | whole (ds : List Char) : '.' ∉ ds → Freed ds ds
  | bare (ds : List Char) (zeros : Nat) : '.' ∉ ds →
      Freed (ds ++ '.' :: List.replicate zeros '0') ds
  | fraction (ds fs : List Char) (zeros : Nat) : '.' ∉ ds → fs ≠ [] → '.' ∉ fs →
      fs.getLast? ≠ some '0' →
      Freed (ds ++ '.' :: (fs ++ List.replicate zeros '0')) (ds ++ '.' :: fs)

/-- Every text is one without a zero at its end, and zeros. -/
theorem exists_zeros (cs : List Char) :
    ∃ fs zeros, cs = fs ++ List.replicate zeros '0' ∧ fs.getLast? ≠ some '0' := by
  induction cs using List.reverseRecOn with
  | nil => exact ⟨[], 0, rfl, by simp⟩
  | append_singleton cs c ih =>
    by_cases hc : c = '0'
    · obtain ⟨fs, zeros, rfl, hlast⟩ := ih
      refine ⟨fs, zeros + 1, ?_, hlast⟩
      rw [hc, List.append_assoc, List.replicate_succ']
    · exact ⟨cs ++ [c], 0, by simp, by simpa using hc⟩

theorem reverse_dropWhile_zeros (cs : List Char) (zeros : Nat) (h : cs.getLast? ≠ some '0') :
    (cs ++ List.replicate zeros '0').reverse.dropWhile (· == '0') = cs.reverse := by
  rw [List.reverse_append, List.reverse_replicate,
    List.dropWhile_append_of_pos fun c hc => beq_iff_eq.mpr (List.eq_of_mem_replicate hc)]
  rw [← List.head?_reverse] at h
  cases hr : cs.reverse with
  | nil => rfl
  | cons c rest =>
    rw [hr, List.head?_cons] at h
    exact List.dropWhile_cons_of_neg fun hc => h (congrArg some (beq_iff_eq.mp hc))

theorem trimFraction_whole {ds : List Char} (h : '.' ∉ ds) : trimFraction ds = ds := if_neg h

theorem trimFraction_bare (ds : List Char) (zeros : Nat) :
    trimFraction (ds ++ '.' :: List.replicate zeros '0') = ds := by
  have hrev := reverse_dropWhile_zeros (ds ++ ['.']) zeros (by simp)
  rw [List.append_assoc, List.singleton_append] at hrev
  rw [trimFraction, if_pos (by simp), hrev, List.reverse_append]
  exact List.reverse_reverse ds

theorem trimFraction_fraction (ds : List Char) {fs : List Char} (zeros : Nat) (hne : fs ≠ [])
    (hpoint : '.' ∉ fs) (hlast : fs.getLast? ≠ some '0') :
    trimFraction (ds ++ '.' :: (fs ++ List.replicate zeros '0')) = ds ++ '.' :: fs := by
  have hrev := reverse_dropWhile_zeros (ds ++ '.' :: fs) zeros (by
    rw [List.getLast?_append_of_ne_nil _ (by simp), List.getLast?_cons_of_ne_nil hne]
    exact hlast)
  rw [List.append_assoc, List.cons_append] at hrev
  rw [trimFraction, if_pos (by simp), hrev]
  split
  · -- the last of the fraction is no point
    rename_i r heq
    have hmem := congrArg List.head? heq
    rw [List.head?_reverse, List.getLast?_append_of_ne_nil _ (by simp),
      List.getLast?_cons_of_ne_nil hne, List.head?_cons] at hmem
    exact absurd (List.mem_of_getLast? hmem) hpoint
  · exact List.reverse_reverse _

/-- Trimming frees a number of its zeros, whatever stands before it. -/
theorem exists_trimFraction {lead : List Char} (hlead : '.' ∉ lead) (places n : Nat) :
    ∃ body, Freed (withPoint places n) body ∧
      trimFraction (lead ++ withPoint places n) = lead ++ body := by
  have hds : ∀ m, '.' ∉ ofNat m := not_mem_ofNat rfl
  rcases Nat.eq_zero_or_pos places with rfl | hp
  · refine ⟨ofNat n, .whole _ (hds n), trimFraction_whole ?_⟩
    simp [hlead, hds n]
  · rw [withPoint_of_pos hp]
    obtain ⟨fs, zeros, hfs, hlast⟩ := exists_zeros (padded places (n % 10 ^ places))
    have hpoint : '.' ∉ fs := fun h =>
      (isDigits_padded places (n % 10 ^ places)).not_mem (c := '.') rfl (by simp [hfs, h])
    rw [hfs]
    by_cases hne : fs = []
    · subst hne
      refine ⟨_, .bare _ zeros (hds _), ?_⟩
      rw [List.nil_append, ← List.append_assoc]
      exact trimFraction_bare _ _
    · refine ⟨_, .fraction _ fs zeros (hds _) hne hpoint hlast, ?_⟩
      rw [← List.append_assoc, ← List.append_assoc]
      exact trimFraction_fraction _ zeros hne hpoint hlast

namespace Freed

variable {full body : List Char}

/-- The whole part keeps its zeros. -/
theorem takeWhile_eq (h : Freed full body) :
    body.takeWhile (· ≠ '.') = full.takeWhile (· ≠ '.') := by
  have hne : ∀ ds : List Char, '.' ∉ ds → ∀ c ∈ ds, decide (c ≠ '.') = true :=
    fun ds hds c hc => decide_eq_true fun e => hds (e ▸ hc)
  cases h with
  | whole => rfl
  | bare _ zeros hds =>
    rw [List.takeWhile_append_of_pos (hne _ hds), List.takeWhile_cons_of_neg (by simp),
      List.append_nil, List.takeWhile_eq_self_iff.mpr (hne _ hds)]
  | fraction ds fs zeros hds =>
    rw [List.takeWhile_append_of_pos (hne _ hds), List.takeWhile_append_of_pos (hne _ hds),
      List.takeWhile_cons_of_neg (by simp), List.takeWhile_cons_of_neg (by simp)]

theorem subset (h : Freed full body) : body ⊆ full := by
  cases h with
  | whole => exact List.Subset.refl _
  | bare => exact List.subset_append_left _ _
  | fraction ds fs zeros =>
    rw [← List.cons_append, ← List.append_assoc]
    exact List.subset_append_left _ _

/-- Zeros behind a fraction make no difference. -/
theorem append_zeros (h : Freed full body) (hpoint : '.' ∈ full) (zeros : Nat) :
    Freed (full ++ List.replicate zeros '0') body := by
  cases h with
  | whole _ hds => exact absurd hpoint hds
  | bare _ j hds =>
    rw [List.append_assoc, List.cons_append, List.replicate_append_replicate]
    exact .bare _ _ hds
  | fraction ds fs j hds hne hfs hlast =>
    rw [List.append_assoc, List.cons_append, List.append_assoc, List.replicate_append_replicate]
    exact .fraction ds fs _ hds hne hfs hlast

/-- No point and no zero of a fraction comes last. -/
theorem getLast?_ne (h : Freed full body) :
    body.getLast? ≠ some '.' ∧ ('.' ∈ body → body.getLast? ≠ some '0') := by
  have hwhole : ∀ ds : List Char, '.' ∉ ds →
      ds.getLast? ≠ some '.' ∧ ('.' ∈ ds → ds.getLast? ≠ some '0') :=
    fun ds hds => ⟨fun h => hds (List.mem_of_getLast? h), fun h => absurd h hds⟩
  cases h with
  | whole _ hds => exact hwhole _ hds
  | bare _ _ hds => exact hwhole _ hds
  | fraction ds fs zeros _ hne hpoint hlast =>
    rw [List.getLast?_append_of_ne_nil _ (by simp), List.getLast?_cons_of_ne_nil hne]
    exact ⟨fun h => hpoint (List.mem_of_getLast? h), fun _ => hlast⟩

/-- The number that is read stays the same. -/
theorem unsigned?_eq (h : Freed full body) {q : Rat} (hq : unsigned? full = some q) :
    unsigned? body = some q := by
  cases h with
  | whole => exact hq
  | bare ds zeros hds =>
    rw [unsigned?, Text.cutAt_append hds] at hq
    simp only at hq
    split at hq
    · rename_i hdigits
      rw [unsigned?_digits hdigits.1, ← hq, value_zeros, Nat.cast_zero, zero_div, add_zero]
    · cases hq
  | fraction ds fs zeros hds hne hpoint hlast =>
    rw [unsigned?, Text.cutAt_append hds] at hq
    simp only at hq
    split at hq
    · rename_i hdigits
      have hfs : IsDigits fs := ⟨hne, fun c hc => hdigits.2.2 c (List.mem_append_left _ hc)⟩
      rw [unsigned?_point hdigits.1 hfs, ← hq, value_append, value_zeros, List.length_append,
        List.length_replicate]
      push_cast
      congr 2
      field_simp
      ring
    · cases hq

end Freed

end Decimal

end AccessLog
