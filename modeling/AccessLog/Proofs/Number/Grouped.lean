import AccessLog.Proofs.Number.Thousands
import Mathlib.Data.List.ReduceOption
import Mathlib.Data.List.TakeWhile

/-!
Whole texts with commas between the thousands. `Grouped` tells, run by run, where commas are put in;
a text is grouped in exactly one way, and `groupDigits` writes it (`groupDigits_in_threes`).
-/
namespace AccessLog

namespace Grouping

open Text (isDecimalDigit)

/-- A text with a comma in the place of each mark. -/
def written (marks : List (Option Char)) : List Char := marks.map (·.getD ',')

/-- Groups of digits with a mark between every two of them. -/
def spread (first : List Char) (triples : List (List Char)) : List (Option Char) :=
  first.map some ++ triples.flatMap (none :: ·.map some)

/-- Where marks stand in a text. Every maximal run of digits falls into groups of three, counted from
its right end, with one to three digits left over for the first group; all else is kept as it is. -/
inductive Grouped : List Char → List (Option Char) → Prop
  | nil : Grouped [] []
  | other {c : Char} {cs : List Char} {marks : List (Option Char)} : isDecimalDigit c = false →
      Grouped cs marks → Grouped (c :: cs) (some c :: marks)
  | run {first : List Char} {triples : List (List Char)} {rest : List Char}
      {marks : List (Option Char)} : first ≠ [] → first.length ≤ 3 →
      (∀ t ∈ triples, t.length = 3) → IsRun (first ++ triples.flatten) rest →
      Grouped rest marks → Grouped (first ++ triples.flatten ++ rest) (spread first triples ++ marks)

/-- The marks of a text: one behind each digit that a positive multiple of three digits follows. -/
def marks : List Char → List (Option Char)
  | [] => []
  | c :: cs =>
    if isDecimalDigit c ∧ 0 < leadingDigits cs ∧ leadingDigits cs % 3 = 0 then
      some c :: none :: marks cs
    else some c :: marks cs

variable {cs ds first rest : List Char} {triples : List (List Char)} {c : Char}

theorem written_marks (cs : List Char) : written (marks cs) = commas cs := by
  induction cs with
  | nil => rfl
  | cons c cs ih =>
    rw [written, commas] at ih
    rw [marks, commas, markTriples, ← ih]
    split <;> rfl

/-- Without the marks it is the text. -/
theorem reduceOption_marks (cs : List Char) : (marks cs).reduceOption = cs := by
  induction cs with
  | nil => rfl
  | cons c cs ih =>
    rw [marks]
    split
    · rw [List.reduceOption_cons_of_some, List.reduceOption_cons_of_none, ih]
    · rw [List.reduceOption_cons_of_some, ih]

theorem leadingDigits_append_digits (h : ∀ c ∈ ds, isDecimalDigit c = true) (rest : List Char) :
    leadingDigits (ds ++ rest) = ds.length + leadingDigits rest := by
  rw [leadingDigits, List.takeWhile_append_of_pos h, List.length_append, leadingDigits]

theorem leadingDigits_of_stop (h : ∀ c ∈ rest.head?, isDecimalDigit c = false) :
    leadingDigits rest = 0 := by
  have hrun : IsRun [] rest := ⟨by simp, h⟩
  exact leadingDigits_append hrun

/-- A group of at most three digits is marked at its end, if more groups follow. -/
theorem marks_append (hfirst : ∀ c ∈ first, isDecimalDigit c = true) (hlen : first.length ≤ 3)
    (hrest : leadingDigits rest % 3 = 0) :
    marks (first ++ rest) =
      first.map some ++
        if first ≠ [] ∧ 0 < leadingDigits rest then none :: marks rest else marks rest := by
  induction first with
  | nil => simp
  | cons c first ih =>
    have hc := hfirst c List.mem_cons_self
    have hlater : ∀ d ∈ first, isDecimalDigit d = true := fun d hd =>
      hfirst d (List.mem_cons_of_mem c hd)
    rw [List.length_cons] at hlen
    have hlast : (0 < first.length + leadingDigits rest ∧
        (first.length + leadingDigits rest) % 3 = 0) ↔ first = [] ∧ 0 < leadingDigits rest := by
      rw [← List.length_eq_zero_iff]
      omega
    rw [List.cons_append, marks, leadingDigits_append_digits hlater, ih hlater (by omega)]
    simp only [hc, true_and, hlast]
    rcases eq_or_ne first [] with rfl | hne
    · by_cases hpos : 0 < leadingDigits rest <;> simp [hpos]
    · simp [hne]

theorem length_flatten_triples (h : ∀ t ∈ triples, t.length = 3) :
    triples.flatten.length = 3 * triples.length := by
  induction triples with
  | nil => rfl
  | cons t triples ih =>
    rw [List.flatten_cons, List.length_append, List.length_cons, h t List.mem_cons_self,
      ih fun u hu => h u (List.mem_cons_of_mem t hu)]
    omega

/-- A run is marked between its groups, whatever follows it. -/
theorem marks_run (hne : first ≠ []) (hlen : first.length ≤ 3)
    (htriples : ∀ t ∈ triples, t.length = 3) (h : IsRun (first ++ triples.flatten) rest) :
    marks (first ++ triples.flatten ++ rest) = spread first triples ++ marks rest := by
  induction triples generalizing first with
  | nil =>
    rw [List.flatten_nil, List.append_nil] at h ⊢
    have hrest : leadingDigits rest = 0 := leadingDigits_of_stop h.stop
    rw [marks_append h.digits hlen (by rw [hrest]), if_neg (by simp [hrest])]
    simp [spread]
  | cons t triples ih =>
    have hlater : IsRun (t ++ triples.flatten) rest :=
      ⟨fun c hc => h.digits c (List.mem_append_right first hc), h.stop⟩
    have ht : t.length = 3 := htriples t List.mem_cons_self
    have hrest : ∀ u ∈ triples, u.length = 3 := fun u hu => htriples u (List.mem_cons_of_mem t hu)
    have hcount : leadingDigits (t ++ triples.flatten ++ rest) = 3 + 3 * triples.length := by
      rw [leadingDigits_append hlater, List.length_append, ht, length_flatten_triples hrest]
    have hfirst : ∀ c ∈ first, isDecimalDigit c = true := fun c hc =>
      h.digits c (List.mem_append_left _ hc)
    rw [List.flatten_cons, List.append_assoc, marks_append hfirst hlen (by omega),
      if_pos ⟨hne, by omega⟩,
      ih (List.ne_nil_of_length_pos (by omega)) (by omega) hrest hlater]
    simp [spread]

theorem Grouped.eq_marks {ms : List (Option Char)} (h : Grouped cs ms) : ms = marks cs := by
  induction h with
  | nil => rfl
  | other hc _ ih => rw [marks, if_neg (by simp [hc]), ih]
  | run hne hlen htriples hrun _ ih => rw [marks_run hne hlen htriples hrun, ih]

/-- Digits fall into groups of three from the right. -/
theorem exists_triples (hne : ds ≠ []) :
    ∃ (first : List Char) (triples : List (List Char)), first ≠ [] ∧ first.length ≤ 3 ∧
      (∀ t ∈ triples, t.length = 3) ∧ first ++ triples.flatten = ds := by
  induction ds with
  | nil => exact absurd rfl hne
  | cons c ds ih =>
    rcases eq_or_ne ds [] with rfl | hds
    · exact ⟨[c], [], by simp, by simp, by simp, rfl⟩
    · obtain ⟨first, triples, -, hlen, htriples, rfl⟩ := ih hds
      rcases Nat.lt_or_eq_of_le hlen with hshort | hfull
      · exact ⟨c :: first, triples, by simp, hshort, htriples, rfl⟩
      · refine ⟨[c], first :: triples, by simp, by simp, fun t ht => ?_, by simp⟩
        rcases List.mem_cons.mp ht with rfl | ht
        · exact hfull
        · exact htriples t ht

theorem grouped_marks (cs : List Char) : Grouped cs (marks cs) := by
  -- on the length: a run is taken off as a whole
  induction h : cs.length using Nat.strong_induction_on generalizing cs with
  | _ n ih =>
    subst h
    obtain _ | ⟨c, cs⟩ := cs
    · exact .nil
    · cases hc : isDecimalDigit c with
      | false =>
        rw [marks, if_neg (by simp [hc])]
        exact .other hc (ih _ (by simp) cs rfl)
      | true =>
        have hrun : IsRun ((c :: cs).takeWhile isDecimalDigit)
            ((c :: cs).dropWhile isDecimalDigit) := by
          refine ⟨fun d hd => List.mem_takeWhile_imp hd, fun d hd => ?_⟩
          have hnot := List.head?_dropWhile_not isDecimalDigit (c :: cs)
          rw [Option.mem_def.mp hd] at hnot
          simpa using hnot
        have hrest : ((c :: cs).dropWhile isDecimalDigit).length < (c :: cs).length := by
          rw [List.dropWhile_cons_of_pos hc]
          exact Nat.lt_succ_of_le (List.length_dropWhile_le _ _)
        have hsome : (c :: cs).takeWhile isDecimalDigit ≠ [] := by simp [hc]
        obtain ⟨first, triples, hne, hlen, htriples, hds⟩ := exists_triples hsome
        rw [← hds] at hrun
        have hgrouped := Grouped.run hne hlen htriples hrun (ih _ hrest _ rfl)
        rw [← marks_run hne hlen htriples hrun, hds, List.takeWhile_append_dropWhile] at hgrouped
        exact hgrouped

theorem grouped_iff {ms : List (Option Char)} : Grouped cs ms ↔ ms = marks cs :=
  ⟨Grouped.eq_marks, fun h => h ▸ grouped_marks cs⟩

/-- What a run keeps in front of its first comma. -/
theorem leadingDigits_commas (cs : List Char) :
    leadingDigits (commas cs) =
      if leadingDigits cs = 0 then 0 else (leadingDigits cs - 1) % 3 + 1 := by
  induction cs with
  | nil => rfl
  | cons c cs ih =>
    rw [commas] at ih
    rw [commas, markTriples]
    cases hc : isDecimalDigit c with
    | false => simp [leadingDigits, hc]
    | true =>
      have hcons : ∀ ds, leadingDigits (c :: ds) = leadingDigits ds + 1 := fun ds => by
        simp [leadingDigits, hc]
      have hcomma : ∀ ds, leadingDigits (',' :: ds) = 0 := fun ds =>
        leadingDigits_of_stop (by rintro d ⟨⟩; decide)
      rw [hcons cs, if_neg (Nat.succ_ne_zero _)]
      split
      · next h =>
        simp only [List.cons_append, List.nil_append, hcons, hcomma]
        omega
      · next h =>
        rw [hcons, ih]
        simp only [true_and, not_and] at h
        split <;> omega

/-- No four digits stand next to each other. -/
def Short (cs : List Char) : Prop :=
  ∀ ds, ds <:+: cs → (∀ c ∈ ds, isDecimalDigit c = true) → ds.length ≤ 3

theorem short_iff : Short cs ↔ ∀ rest, rest <:+ cs → leadingDigits rest ≤ 3 := by
  constructor
  · intro h rest hrest
    refine h _ ?_ fun c => List.mem_takeWhile_imp
    exact (List.takeWhile_prefix _).isInfix.trans hrest.isInfix
  · rintro h ds ⟨before, after, rfl⟩ hds
    have hle := h (ds ++ after) ⟨before, by simp⟩
    rw [leadingDigits_append_digits hds] at hle
    omega

theorem short_commas (cs : List Char) : Short (commas cs) := by
  rw [short_iff]
  induction cs with
  | nil => simp [leadingDigits]
  | cons c cs ih =>
    have hfirst : leadingDigits (commas (c :: cs)) ≤ 3 := by
      rw [leadingDigits_commas]
      split <;> omega
    intro rest hrest
    rw [commas, markTriples] at hfirst hrest
    split at hrest
    · next hmark =>
      rw [if_pos hmark] at hfirst
      rcases List.suffix_cons_iff.mp hrest with rfl | hrest
      · exact hfirst
      · rcases List.suffix_cons_iff.mp hrest with rfl | hrest
        · rw [leadingDigits_of_stop (by rintro d ⟨⟩; decide)]
          exact Nat.zero_le 3
        · exact ih rest hrest
    · next hmark =>
      rw [if_neg hmark] at hfirst
      rcases List.suffix_cons_iff.mp hrest with rfl | hrest
      · exact hfirst
      · exact ih rest hrest

/-- A text without four digits in a row is left as it is. -/
theorem commas_eq_self (h : Short cs) : commas cs = cs := by
  rw [short_iff] at h
  induction cs with
  | nil => rfl
  | cons c cs ih =>
    have hrest := ih fun rest hr => h rest (hr.trans (List.suffix_cons c cs))
    have hfirst := h (c :: cs) (List.suffix_refl _)
    rw [commas] at hrest
    rw [commas, markTriples, hrest, if_neg]
    rintro ⟨hc, hpos, hthree⟩
    have hcons : leadingDigits (c :: cs) = leadingDigits cs + 1 := by simp [leadingDigits, hc]
    omega

theorem mem_commas (h : c ∈ commas cs) : c = ',' ∨ c ∈ cs := by
  rw [← written_marks, written, List.mem_map] at h
  obtain ⟨_ | d, hd, rfl⟩ := h
  · exact .inl rfl
  · rw [← reduceOption_marks cs]
    exact .inr (List.reduceOption_mem_iff.mpr hd)

/-- Only the text before the first point is grouped. -/
theorem onHead_append (group : List Char → List Char) {head tail : List Char}
    (hhead : ∀ c ∈ head, c ≠ '.') (htail : ∀ c ∈ tail.head?, c = '.') :
    onHead ['.'] group (head ++ tail) = group head ++ tail := by
  have hhead' : ∀ c ∈ head, decide (c ≠ '.') = true := fun c hc => decide_eq_true (hhead c hc)
  rw [onHead, Text.cutAt, List.dropWhile_append_of_pos hhead', List.takeWhile_append_of_pos hhead']
  cases tail with
  | nil =>
    rw [List.dropWhile_nil, List.append_nil, List.append_nil]
  | cons d rest =>
    obtain rfl : d = '.' := htail d rfl
    rw [List.dropWhile_cons_of_neg (by simp), List.takeWhile_cons_of_neg (by simp), List.append_nil]
    exact List.append_assoc (group head) ['.'] rest

end Grouping

open Grouping

/-- Grouping a text cuts every maximal run of digits before the first point into groups of three from
its right end, puts a comma between two groups and nowhere else, and keeps the rest. So no digits are
left to group, and without its commas it is the text again. -/
theorem groupDigits_in_threes (cs : List Char) :
    ∃ placed : List (Option Char),
      (∀ marks, Grouped (cs.takeWhile (· ≠ '.')) marks ↔ marks = placed) ∧
      groupDigits cs = written placed ++ cs.dropWhile (· ≠ '.') ∧
      placed.reduceOption = cs.takeWhile (· ≠ '.') ∧
      (∀ ds, ds <:+: written placed → (∀ c ∈ ds, Text.isDecimalDigit c = true) → ds.length ≤ 3) ∧
      groupDigits (groupDigits cs) = groupDigits cs := by
  let head := cs.takeWhile (· ≠ '.')
  let tail := cs.dropWhile (· ≠ '.')
  have hhead : ∀ c ∈ head, c ≠ '.' := fun c hc => by simpa using List.mem_takeWhile_imp hc
  have htail : ∀ c ∈ tail.head?, c = '.' := by
    intro c hc
    have hnot := List.head?_dropWhile_not (· ≠ '.') cs
    rw [Option.mem_def.mp hc] at hnot
    simpa using hnot
  have hgroup : groupDigits cs = commas head ++ tail := by
    rw [groupDigits, ← onHead_append commas hhead htail]
    exact congrArg _ List.takeWhile_append_dropWhile.symm
  have hcommas : ∀ c ∈ commas head, c ≠ '.' := by
    rintro c hc rfl
    rcases mem_commas hc with h | h
    · cases h
    · exact hhead '.' h rfl
  refine ⟨marks head, fun _ => grouped_iff, ?_, reduceOption_marks head, ?_, ?_⟩
  · rw [hgroup, written_marks]
  · rw [written_marks]
    exact short_commas head
  · rw [hgroup, groupDigits, onHead_append commas hcommas htail, commas_eq_self (short_commas head)]

/-- Two runs of different scripts, a comma of the text's own, and digits behind the point. -/
example : groupDigits "1234567,٣٤٥٦-123456.7890".toList = "1,234,567,٣,٤٥٦-123,456.7890".toList := by
  decide +kernel

end AccessLog
