import AccessLog.Palette
import Mathlib.Data.List.Basic

/-!
Escape sequences. `Color.strip` deletes them from a text, and with them the colour of everything that
was painted. `Color.Closed` says of a text that it takes back every colour that it sets.
-/
namespace AccessLog.Color

def escape : Char := '\x1b'

def isParameter (c : Char) : Bool := c.isDigit || c == ';'

/-- What follows the escape sequence that starts the text. -/
def afterSequence? : List Char → Option (List Char)
  | '\x1b' :: '[' :: cs =>
    match cs.dropWhile isParameter with
    | 'm' :: rest => some rest
    | _ => none
  | _ => none

theorem length_afterSequence? {cs rest : List Char} (h : afterSequence? cs = some rest) :
    rest.length < cs.length := by
  unfold afterSequence? at h
  split at h
  · next cs =>
    split at h
    · next hm =>
      cases h
      have hle := (List.dropWhile_suffix (l := cs) isParameter).length_le
      rw [hm] at hle
      simp only [List.length_cons] at hle ⊢
      omega
    · cases h
  · cases h

/-- The text without its escape sequences. -/
def strip (cs : List Char) : List Char :=
  match _h : afterSequence? cs with
  | some rest => strip rest
  | none =>
    match cs with
    | [] => []
    | c :: cs => c :: strip cs
termination_by cs.length
decreasing_by
  · exact length_afterSequence? _h
  · simp

/-- A text as it is without colours. -/
def plain (text : String) : String := String.ofList (strip text.toList)

/-- An escape sequence: digits and semicolons between `[` and `m`. -/
inductive Sequence : List Char → Prop
  | mk (parameters : List Char) :
      (∀ c ∈ parameters, isParameter c = true) →
      Sequence (escape :: '[' :: (parameters ++ ['m']))

theorem sequence_code (color : Color) : Sequence color.code.toList := by
  cases color
  case banner => exact .mk ['1', ';', '4', '4'] (List.all_eq_true.mp (by decide))
  all_goals exact .mk [_, _] (List.all_eq_true.mp (by decide))

theorem sequence_reset : Sequence reset.toList := .mk ['0'] (List.all_eq_true.mp (by decide))

theorem afterSequence?_append {s : List Char} (h : Sequence s) (rest : List Char) :
    afterSequence? (s ++ rest) = some rest := by
  cases h with
  | mk parameters hall =>
    have hdrop : (parameters ++ 'm' :: rest).dropWhile isParameter = 'm' :: rest := by
      rw [List.dropWhile_append_of_pos hall]
      rfl
    simp [afterSequence?, escape, hdrop]

/-- Two sequences that start one text are the same. -/
theorem Sequence.eq_of_append {s s' rest rest' : List Char} (h : Sequence s) (h' : Sequence s')
    (heq : s ++ rest = s' ++ rest') : s = s' ∧ rest = rest' := by
  have hrest : rest = rest' := by
    have hafter := afterSequence?_append h rest
    rw [heq, afterSequence?_append h'] at hafter
    exact (Option.some.inj hafter).symm
  rw [hrest] at heq
  exact ⟨List.append_cancel_right heq, hrest⟩

theorem strip_sequence {s : List Char} (h : Sequence s) (rest : List Char) :
    strip (s ++ rest) = strip rest := by
  have hafter := afterSequence?_append h rest
  rw [strip]
  split
  · next rest' hrest =>
    rw [hafter] at hrest
    rw [Option.some.inj hrest]
  · next hnone =>
    rw [hafter] at hnone
    cases hnone

theorem afterSequence?_of_ne {c : Char} (h : c ≠ escape) (cs : List Char) :
    afterSequence? (c :: cs) = none := by
  unfold afterSequence?
  split
  · next heq => exact absurd (List.cons.inj heq).1 h
  · rfl

theorem strip_cons {c : Char} (h : c ≠ escape) (cs : List Char) :
    strip (c :: cs) = c :: strip cs := by
  have hafter := afterSequence?_of_ne h cs
  rw [strip]
  split
  · next rest hrest =>
    rw [hafter] at hrest
    cases hrest
  · rfl

/-- Text without the escape character stays, whatever follows it. -/
theorem strip_append {text : List Char} (h : escape ∉ text) (rest : List Char) :
    strip (text ++ rest) = text ++ strip rest := by
  induction text with
  | nil => rfl
  | cons c text ih =>
    obtain ⟨hc, htext⟩ := not_or.mp (mt List.mem_cons.mpr h)
    rw [List.cons_append, strip_cons (Ne.symm hc), ih htext, List.cons_append]

@[simp] theorem strip_nil : strip [] = [] := by
  rw [strip]
  rfl

theorem toList_paint (color : Color) (text : String) :
    (paint true color text).toList = color.code.toList ++ (text.toList ++ reset.toList) := by
  simp [paint]

theorem strip_paint {text : String} (h : escape ∉ text.toList) (color : Color) (rest : List Char) :
    strip ((paint true color text).toList ++ rest) = text.toList ++ strip rest := by
  rw [toList_paint, List.append_assoc, List.append_assoc, strip_sequence (sequence_code color),
    strip_append h, strip_sequence sequence_reset]

/-- A text that takes back every colour that it sets, before it sets another. -/
def Closed (cs : List Char) : Prop :=
  ∀ before opening after, cs = before ++ (opening ++ after) → Sequence opening →
    opening ≠ reset.toList →
    ∃ inside behind, after = inside ++ (reset.toList ++ behind) ∧ escape ∉ inside

/-- The escape character is the first of a sequence and no other. -/
theorem Sequence.exists_tail {s : List Char} (h : Sequence s) :
    ∃ tail, s = escape :: tail ∧ escape ∉ tail := by
  cases h with
  | mk parameters hall =>
    have hnot : escape ∉ parameters := by
      intro hmem
      exact absurd (hall escape hmem) (by decide)
    refine ⟨'[' :: (parameters ++ ['m']), rfl, ?_⟩
    simpa [escape] using hnot

theorem closed_of_not_mem {text : List Char} (h : escape ∉ text) : Closed text := by
  intro before opening after heq hopening hne
  obtain ⟨tail, rfl, -⟩ := hopening.exists_tail
  rw [heq] at h
  exact absurd (List.mem_append_right before List.mem_cons_self) h

/-- A painted text holds two sequences: its colour, and at its end the reset. -/
theorem closed_paint {text : String} (h : escape ∉ text.toList) (color : Color) :
    Closed (paint true color text).toList := by
  intro before opening after heq hopening hne
  rw [toList_paint] at heq
  cases before with
  | nil =>
    obtain ⟨-, hafter⟩ := (sequence_code color).eq_of_append hopening heq
    exact ⟨text.toList, [], by rw [← hafter, List.append_nil], h⟩
  | cons b before =>
    -- the second escape character is the one of the reset
    obtain ⟨codeTail, hcode, hcodeTail⟩ := (sequence_code color).exists_tail
    obtain ⟨resetTail, hreset, hresetTail⟩ := sequence_reset.exists_tail
    obtain ⟨openingTail, hopen, -⟩ := hopening.exists_tail
    have hinside : escape ∉ codeTail ++ text.toList := by
      simpa using ⟨hcodeTail, h⟩
    rw [hcode, hreset, hopen, List.cons_append, List.cons_append, List.cons.injEq,
      ← List.append_assoc, List.cons_append] at heq
    obtain ⟨-, -, heq⟩ := (List.append_cons_inj_of_notMem hinside hresetTail).mp heq.2
    have hsame : opening ++ after = reset.toList ++ [] := by
      rw [hopen, hreset, heq, List.cons_append, List.append_nil]
    exact absurd (hopening.eq_of_append sequence_reset hsame).1 hne

end AccessLog.Color
