import AccessLog.Json.Reader
import AccessLog.Json.Writer

/-!
Quoted texts read back. What is written is plain ASCII, and reading it gives the text again,
whatever follows it; only halves of a character that stand together come back as the character. A
record of texts is read back member by member (`read?_textObject`).
-/
namespace AccessLog

namespace Text.CodePoint

theorem ofNat?_toNat (c : Char) : ofNat? c.toNat = some (.char c) := by
  have hvalid : c.toNat.isValidChar := c.valid
  rw [ofNat?, dif_pos hvalid, Char.ofNat_toNat]

theorem ofNat?_surrogate (n : Fin 0x800) : ofNat? (0xD800 + n) = some (.surrogate n) := by
  have hvalid : ¬(0xD800 + n.val).isValidChar := by
    simp only [Nat.isValidChar]
    omega
  rw [ofNat?, dif_neg hvalid, dif_pos (by omega)]
  simp

/-- A second half begins no pair. -/
theorem join_low {n : Fin 0x800} (h : 0x400 ≤ n.val) (t : WideText) :
    (surrogate n).join t = .surrogate n :: t := by
  have hpair : ∀ m, halves n m = false := fun m => by
    simp only [halves, Bool.and_eq_false_iff, decide_eq_false_iff_not]
    omega
  rcases t with _ | ⟨_ | m, t⟩
  · rfl
  · rfl
  · rw [join, hpair]
    rfl

theorem join_pair {n m : Fin 0x800} (h : halves n m = true) (t : WideText) :
    (surrogate n).join (surrogate m :: t) =
      char (Char.ofNat (0x10000 + n.val * 0x400 + (m.val - 0x400))) :: t := by
  rw [join, if_pos h]

theorem length_join_le (p : CodePoint) (t : WideText) : (p.join t).length ≤ t.length + 1 := by
  rcases p with c | n
  · exact Nat.le_of_eq (congrArg List.length (join_char c t))
  rcases t with _ | ⟨c | m, t⟩
  · exact Nat.le_refl _
  · exact Nat.le_refl _
  rw [join]
  split
  · exact Nat.le_succ _
  · exact Nat.le_refl _

end Text.CodePoint

namespace Text

open CodePoint

/-- Somewhere in the text a first half stands right before a second one. -/
def Paired (t : WideText) : Prop :=
  ∃ n m, halves n m = true ∧ [surrogate n, surrogate m] <:+: t

theorem paired_cons {p : CodePoint} {t : WideText} :
    Paired (p :: t) ↔
      Paired t ∨ ∃ n m rest, halves n m = true ∧ p = surrogate n ∧ t = surrogate m :: rest := by
  constructor
  · rintro ⟨n, m, h, hin⟩
    rcases List.infix_cons_iff.mp hin with ⟨rest, hrest⟩ | hin
    · obtain ⟨rfl, rfl⟩ := List.cons.inj hrest
      exact .inr ⟨n, m, rest, h, rfl, rfl⟩
    · exact .inl ⟨n, m, h, hin⟩
  · rintro (⟨n, m, h, hin⟩ | ⟨n, m, rest, h, rfl, rfl⟩)
    · exact ⟨n, m, h, List.infix_cons_iff.mpr (.inr hin)⟩
    · exact ⟨n, m, h, [], rest, rfl⟩

theorem length_joined_le (t : WideText) : (joined t).length ≤ t.length := by
  induction t with
  | nil => exact Nat.le_refl _
  | cons p t ih => exact Nat.le_trans (length_join_le p (joined t)) (Nat.succ_le_succ ih)

theorem joined_of_not_paired (t : WideText) (h : ¬Paired t) : joined t = t := by
  induction t with
  | nil => rfl
  | cons p t ih =>
    rw [joined_cons, ih fun ht => h (paired_cons.mpr (.inl ht))]
    rcases p with c | n
    · exact join_char c t
    rcases t with _ | ⟨c | m, t⟩
    · rfl
    · rfl
    rw [CodePoint.join, if_neg fun hnm => h (paired_cons.mpr (.inr ⟨n, m, t, hnm, rfl, rfl⟩))]

theorem length_joined_lt (t : WideText) (h : Paired t) : (joined t).length < t.length := by
  induction t with
  | nil =>
    obtain ⟨n, m, -, hin⟩ := h
    cases List.infix_nil.mp hin
  | cons p t ih =>
    rw [joined_cons, List.length_cons]
    rcases paired_cons.mp h with ht | ⟨n, m, rest, hnm, rfl, rfl⟩
    · exact Nat.lt_of_le_of_lt (length_join_le p (joined t)) (Nat.succ_lt_succ (ih ht))
    · have hlow : 0x400 ≤ m.val := by
        simp only [halves, Bool.and_eq_true, decide_eq_true_eq] at hnm
        exact hnm.2
      rw [joined_cons, join_low hlow, join_pair hnm, List.length_cons, List.length_cons]
      exact Nat.succ_lt_succ (Nat.lt_succ_of_le (length_joined_le rest))

/-- A text is changed exactly where halves of a character stand together. -/
theorem joined_eq_self_iff (t : WideText) : joined t = t ↔ ¬Paired t :=
  ⟨fun h ht => absurd (congrArg List.length h) (Nat.ne_of_lt (length_joined_lt t ht)),
    joined_of_not_paired t⟩

end Text

namespace Json

open Text (CodePoint WideText wide wideChars joined)

/-- The characters of plain ASCII that can be seen, and the blank. -/
def IsPlain (c : Char) : Prop := 0x20 ≤ c.toNat ∧ c.toNat ≤ 0x7E

instance (c : Char) : Decidable (IsPlain c) := inferInstanceAs (Decidable (_ ∧ _))

theorem hexValue?_digitChar : ∀ n < 16, hexValue? n.digitChar = some n := by decide

theorem isPlain_digitChar : ∀ n < 16, IsPlain n.digitChar := by decide

/-- The digits of a unit. -/
theorem unit_eq (n : Nat) :
    unit n = ['\\', 'u', (n / 16 / 16 / 16 % 16).digitChar, (n / 16 / 16 % 16).digitChar,
      (n / 16 % 16).digitChar, (n % 16).digitChar] := rfl

theorem unitValue?_digits {n : Nat} (h : n < 0x10000) :
    unitValue? (n / 16 / 16 / 16 % 16).digitChar (n / 16 / 16 % 16).digitChar
      (n / 16 % 16).digitChar (n % 16).digitChar = some n := by
  have hdigit : ∀ m, hexValue? (m % 16).digitChar = some (m % 16) := fun m =>
    hexValue?_digitChar _ (Nat.mod_lt m (by decide))
  simp only [unitValue?, hdigit, Option.bind_eq_bind, Option.bind_some, Option.pure_def,
    Option.some.injEq]
  omega

theorem wide?_unit {n : Nat} {p : CodePoint} (h : n < 0x10000) (hp : CodePoint.ofNat? n = some p)
    (rest : List Char) :
    wide? (unit n ++ rest) = (wide? rest).map fun (t, r) => (p.join t, r) := by
  rw [unit_eq]
  simp only [List.cons_append, List.nil_append, wide?, unitValue?_digits h, Option.bind_some, hp]

theorem wide?_escape {letter c : Char} (h : shortEscape? letter = some c) (rest : List Char) :
    wide? ('\\' :: letter :: rest) = (wide? rest).map fun (t, r) => (.char c :: t, r) := by
  have hu : letter ≠ 'u' := by
    rintro rfl
    cases h
  rw [wide?.eq_def]
  split
  · next heq => cases heq
  · next heq => exact absurd (List.cons.inj heq).1 (by decide)
  · next heq => exact absurd (List.cons.inj (List.cons.inj heq).2).1 hu
  · next heq =>
    obtain ⟨-, htail⟩ := List.cons.inj heq
    obtain ⟨rfl, rfl⟩ := List.cons.inj htail
    simp only [h]
  · next hother heq =>
    obtain ⟨rfl, rfl⟩ := List.cons.inj heq
    exact absurd rfl (hother letter rest rfl)

theorem wide?_seen {c : Char} (hquote : c ≠ '\x22') (hslash : c ≠ '\\') (hseen : 0x20 ≤ c.toNat)
    (rest : List Char) :
    wide? (c :: rest) = (wide? rest).map fun (t, r) => (.char c :: t, r) := by
  have hlow : ¬c.toNat < 0x20 := Nat.not_lt.mpr hseen
  rw [wide?.eq_def]
  split
  · next h => cases h
  · next h => exact absurd (List.cons.inj h).1 hquote
  · next h => exact absurd (List.cons.inj h).1 hslash
  · next h => exact absurd (List.cons.inj h).1 hslash
  · next h =>
    obtain ⟨rfl, rfl⟩ := List.cons.inj h
    rw [if_neg hlow]

/-- A character beyond the first 65536 is written as its two halves. -/
theorem wide?_units {c : Char} (h : 0x10000 ≤ c.toNat) (rest : List Char) :
    wide? (units c.toNat ++ rest) = (wide? rest).map fun (t, r) => (.char c :: t, r) := by
  have hbound : c.toNat < 0x110000 := by
    have hvalid : c.toNat.isValidChar := c.valid
    simp only [Nat.isValidChar] at hvalid
    omega
  let high : Fin 0x800 := ⟨(c.toNat - 0x10000) / 0x400, by omega⟩
  let low : Fin 0x800 := ⟨0x400 + (c.toNat - 0x10000) % 0x400, by omega⟩
  have hhigh : CodePoint.ofNat? (0xD800 + (c.toNat - 0x10000) / 0x400) = some (.surrogate high) :=
    CodePoint.ofNat?_surrogate high
  have hlow : CodePoint.ofNat? (0xDC00 + (c.toNat - 0x10000) % 0x400) = some (.surrogate low) := by
    rw [← CodePoint.ofNat?_surrogate low, ← Nat.add_assoc]
  have hpair : ∀ t : WideText, (CodePoint.surrogate high).join ((CodePoint.surrogate low).join t) =
      .char c :: t := by
    intro t
    have hhalves : CodePoint.halves high low = true := by
      simp only [CodePoint.halves, Bool.and_eq_true, decide_eq_true_eq, high, low]
      omega
    have hsum : 0x10000 + high.val * 0x400 + (low.val - 0x400) = c.toNat := by
      simp only [high, low]
      omega
    have hjoin : (CodePoint.surrogate low).join t = .surrogate low :: t :=
      CodePoint.join_low (Nat.le_add_right ..) t
    rw [hjoin, CodePoint.join_pair hhalves, hsum, Char.ofNat_toNat]
  rw [units, if_neg (Nat.not_lt.mpr h), List.append_assoc, wide?_unit (by omega) hhigh,
    wide?_unit (by omega) hlow]
  cases wide? rest with
  | none => rfl
  | some v => exact congrArg some (congrArg (·, v.2) (hpair v.1))

/-- A character is written by a short escape, as itself, or by its units. -/
theorem quotedChar_cases (c : Char) :
    (∃ letter, quotedChar c = ['\\', letter] ∧ shortEscape? letter = some c ∧ IsPlain letter) ∨
      (quotedChar c = [c] ∧ c ≠ '\x22' ∧ c ≠ '\\' ∧ IsPlain c) ∨
      quotedChar c = units c.toNat := by
  unfold quotedChar
  iterate 7 (split; · next h => subst h; exact .inl ⟨_, rfl, rfl, by decide⟩)
  split
  · next hquote hslash _ _ _ _ _ hplain => exact .inr (.inl ⟨rfl, hquote, hslash, hplain⟩)
  · exact .inr (.inr rfl)

theorem wide?_quotedChar (c : Char) (rest : List Char) :
    wide? (quotedChar c ++ rest) = (wide? rest).map fun (t, r) => (.char c :: t, r) := by
  rcases quotedChar_cases c with ⟨letter, h, hescape, -⟩ | ⟨h, hquote, hslash, hplain⟩ | h
  · rw [h]
    exact wide?_escape hescape rest
  · rw [h]
    exact wide?_seen hquote hslash hplain.1 rest
  · rw [h]
    rcases Nat.lt_or_ge c.toNat 0x10000 with hlow | hhigh
    · rw [units, if_pos hlow, wide?_unit hlow (CodePoint.ofNat?_toNat c)]
      simp only [CodePoint.join_char]
    · exact wide?_units hhigh rest

theorem wide?_quotedPoint (p : CodePoint) (rest : List Char) :
    wide? (quotedPoint p ++ rest) = (wide? rest).map fun (t, r) => (p.join t, r) := by
  cases p with
  | char c =>
    simp only [CodePoint.join_char]
    exact wide?_quotedChar c rest
  | surrogate n => exact wide?_unit (by omega) (CodePoint.ofNat?_surrogate n) rest

/-- A quoted text is read up to its closing quotation mark. -/
theorem wide?_quoted (t : WideText) (rest : List Char) :
    wide? (t.flatMap quotedPoint ++ '\x22' :: rest) = some (joined t, rest) := by
  induction t with
  | nil => rfl
  | cons p t ih =>
    rw [List.flatMap_cons, List.append_assoc, wide?_quotedPoint, ih]
    rfl

theorem isPlain_unit {n : Nat} {c : Char} (h : c ∈ unit n) : IsPlain c := by
  have hdigit : ∀ m, IsPlain (m % 16).digitChar := fun m =>
    isPlain_digitChar _ (Nat.mod_lt m (by decide))
  rw [unit_eq] at h
  simp only [List.mem_cons, List.not_mem_nil, or_false] at h
  rcases h with rfl | rfl | rfl | rfl | rfl | rfl
  · decide
  · decide
  · exact hdigit _
  · exact hdigit _
  · exact hdigit _
  · exact hdigit _

theorem isPlain_quotedPoint {p : CodePoint} {c : Char} (h : c ∈ quotedPoint p) : IsPlain c := by
  cases p with
  | surrogate n => exact isPlain_unit h
  | char d =>
    rw [quotedPoint] at h
    rcases quotedChar_cases d with ⟨letter, hd, -, hletter⟩ | ⟨hd, -, -, hplain⟩ | hd
    · rw [hd, List.mem_cons, List.mem_singleton] at h
      rcases h with rfl | rfl
      · decide
      · exact hletter
    · rw [hd, List.mem_singleton] at h
      exact h ▸ hplain
    · rw [hd, units] at h
      split at h
      · exact isPlain_unit h
      · exact (List.mem_append.mp h).elim isPlain_unit isPlain_unit

theorem toList_quoted (t : WideText) :
    (quoted t).toList = '\x22' :: t.flatMap quotedPoint ++ ['\x22'] :=
  String.toList_ofList

theorem toList_quoted_append (t : WideText) (rest : List Char) :
    (quoted t).toList ++ rest = '\x22' :: (t.flatMap quotedPoint ++ '\x22' :: rest) := by
  rw [toList_quoted]
  simp only [List.cons_append, List.append_assoc, List.nil_append]

/-- A text is read as a value, behind a blank as well. -/
theorem value?_quoted (fuel : Nat) (t : WideText) (rest : List Char) :
    value? (fuel + 1) (' ' :: ((quoted t).toList ++ rest)) = some (.text (joined t), rest) := by
  have hskip : ∀ cs : List Char, skipSpace (' ' :: '\x22' :: cs) = '\x22' :: cs := fun _ => rfl
  rw [toList_quoted_append, value?, hskip]
  simp only [wide?_quoted, Option.map_some]

/-- A member as it is written. -/
def memberText (m : String × WideText) : String := quoted m.1 ++ spaced.colon ++ quoted m.2

/-- A member as it is read. -/
def readMember (m : String × WideText) : WideText × Datum := (wide m.1, .text (joined m.2))

theorem toList_memberText_append (m : String × WideText) (rest : List Char) :
    (memberText m).toList ++ rest =
      '\x22' :: ((wide m.1).flatMap quotedPoint ++
        '\x22' :: ':' :: ' ' :: ((quoted m.2).toList ++ rest)) := by
  have hcolon : spaced.colon.toList = [':', ' '] := rfl
  rw [memberText, String.toList_append, String.toList_append, hcolon, List.append_assoc,
    List.append_assoc, toList_quoted_append]
  rfl

/-- What is left to read after a member decides how to go on. -/
theorem fields?_member (fuel : Nat) (m : String × WideText) (rest : List Char) :
    fields? (fuel + 2) ((memberText m).toList ++ rest) =
      match skipSpace rest with
      | ',' :: rest => (fields? (fuel + 1) rest).map fun (fs, r) => (readMember m :: fs, r)
      | '\x7d' :: rest => some ([readMember m], rest)
      | _ => none := by
  have hquote : ∀ cs : List Char, skipSpace ('\x22' :: cs) = '\x22' :: cs := fun _ => rfl
  have hcolon : ∀ cs : List Char, skipSpace (':' :: cs) = ':' :: cs := fun _ => rfl
  rw [toList_memberText_append, fields?, hquote]
  simp only [wide?_quoted, hcolon, value?_quoted, Text.joined_wide]
  rfl

theorem fields?_blank (fuel : Nat) (cs : List Char) :
    fields? fuel (' ' :: cs) = fields? fuel cs := by
  cases fuel with
  | zero => rfl
  | succ fuel =>
    have hskip : skipSpace (' ' :: cs) = skipSpace cs := rfl
    rw [fields?, fields?, hskip]

/-- The members with the commas between them. -/
def memberChars (ms : List (String × WideText)) : List Char :=
  spaced.comma.toList.intercalate (ms.map fun m => (memberText m).toList)

theorem memberChars_singleton (m : String × WideText) :
    memberChars [m] = (memberText m).toList := by
  simp only [memberChars, List.map_cons, List.map_nil, List.intercalate_singleton]

theorem memberChars_cons_cons (m n : String × WideText) (ms : List (String × WideText)) :
    memberChars (m :: n :: ms) = (memberText m).toList ++ ',' :: ' ' :: memberChars (n :: ms) := by
  have hcomma : spaced.comma.toList = [',', ' '] := rfl
  simp only [memberChars, List.map_cons, List.intercalate_cons_cons, hcomma, List.append_assoc,
    List.cons_append, List.nil_append]

/-- The members begin with the first one. -/
theorem exists_memberChars (m : String × WideText) (ms : List (String × WideText)) :
    ∃ rest, memberChars (m :: ms) = (memberText m).toList ++ rest := by
  cases ms with
  | nil => exact ⟨[], by rw [memberChars_singleton, List.append_nil]⟩
  | cons n ms => exact ⟨_, memberChars_cons_cons m n ms⟩

theorem fields?_members (ms : List (String × WideText)) :
    ∀ (m : String × WideText) (fuel : Nat) (rest : List Char), ms.length < fuel →
      fields? (fuel + 1) (memberChars (m :: ms) ++ '\x7d' :: rest) =
        some ((m :: ms).map readMember, rest) := by
  -- on the members after the first one, which a comma announces
  induction ms with
  | nil =>
    intro m fuel rest hfuel
    obtain ⟨fuel, rfl⟩ := Nat.exists_eq_add_of_lt hfuel
    rw [memberChars_singleton, fields?_member]
    rfl
  | cons n ms ih =>
    intro m fuel rest hfuel
    obtain ⟨fuel, rfl⟩ := Nat.exists_eq_add_of_lt hfuel
    have hcomma : ∀ cs : List Char, skipSpace (',' :: cs) = ',' :: cs := fun _ => rfl
    rw [memberChars_cons_cons, List.append_assoc, fields?_member]
    simp only [List.cons_append, hcomma, fields?_blank]
    rw [ih n _ rest (by simp only [List.length_cons]; omega)]
    rfl

theorem length_le_memberChars (ms : List (String × WideText)) :
    ms.length ≤ (memberChars ms).length := by
  have hseen : ∀ m : String × WideText, 1 ≤ (memberText m).toList.length := by
    intro m
    simp [memberText, spaced]
    omega
  induction ms with
  | nil => exact Nat.zero_le _
  | cons m ms ih =>
    cases ms with
    | nil =>
      rw [memberChars_singleton]
      exact hseen m
    | cons n ms =>
      have := hseen m
      rw [memberChars_cons_cons]
      simp only [List.length_append, List.length_cons] at ih ⊢
      omega

/-- A record of texts, written member by member. -/
def textObject (ms : List (String × WideText)) : String :=
  object spaced (ms.map fun m => (wide m.1, quoted m.2))

theorem toList_textObject (ms : List (String × WideText)) :
    (textObject ms).toList = '\x7b' :: (memberChars ms ++ ['\x7d']) := by
  simp [textObject, object, memberChars, String.toList_intercalate, memberText, Function.comp_def]

theorem value?_of_fields? {cs more ds rest : List Char} {fs : List (WideText × Datum)} {fuel : Nat}
    (hopen : skipSpace cs = '\x7b' :: more) (hfirst : skipSpace more = '\x22' :: ds)
    (h : fields? fuel ('\x22' :: ds) = some (fs, rest)) :
    value? (fuel + 1) cs = some (.record fs, rest) := by
  rw [value?, hopen]
  simp only [hfirst]
  change (fields? fuel ('\x22' :: ds)).map (fun v => (Datum.record v.1, v.2)) = _
  rw [h]
  rfl

/-- A record of texts is read back whole, members in order, and nothing of a text is taken for a
mark of the record. -/
theorem read?_textObject {ms : List (String × WideText)} (h : ms ≠ []) :
    read? (textObject ms) = some (.record (ms.map readMember)) := by
  obtain ⟨m, ms, rfl⟩ := List.exists_cons_of_ne_nil h
  have hlength := length_le_memberChars (m :: ms)
  obtain ⟨more, hmore⟩ := exists_memberChars m ms
  have hfirst := toList_memberText_append m (more ++ ['\x7d'])
  rw [← List.append_assoc, ← hmore] at hfirst
  have hfields := fields?_members ms m (2 * (textObject (m :: ms)).toList.length) [] (by
    simp only [toList_textObject, List.length_cons, List.length_append] at hlength ⊢
    omega)
  have hvalue :
      value? (2 * (textObject (m :: ms)).toList.length + 2) (textObject (m :: ms)).toList =
        some (.record ((m :: ms).map readMember), []) :=
    value?_of_fields? (congrArg skipSpace (toList_textObject (m :: ms)))
      (congrArg skipSpace hfirst) (hfirst ▸ hfields)
  simp only [read?, hvalue]
  rfl

theorem isPlain_quoted {t : WideText} {c : Char} (h : c ∈ (quoted t).toList) : IsPlain c := by
  rw [toList_quoted, List.mem_append, List.mem_cons, List.mem_singleton] at h
  rcases h with (rfl | h) | rfl
  · decide
  · obtain ⟨p, -, hp⟩ := List.mem_flatMap.mp h
    exact isPlain_quotedPoint hp
  · decide

theorem isPlain_memberText {m : String × WideText} {c : Char} (h : c ∈ (memberText m).toList) :
    IsPlain c := by
  have hcolon : spaced.colon.toList = [':', ' '] := rfl
  rw [memberText, String.toList_append, String.toList_append, hcolon, List.mem_append,
    List.mem_append] at h
  rcases h with (h | h) | h
  · exact isPlain_quoted h
  · simp only [List.mem_cons, List.not_mem_nil, or_false] at h
    rcases h with rfl | rfl
    · decide
    · decide
  · exact isPlain_quoted h

theorem isPlain_memberChars (ms : List (String × WideText)) :
    ∀ {c : Char}, c ∈ memberChars ms → IsPlain c := by
  induction ms with
  | nil =>
    intro c h
    cases h
  | cons m ms ih =>
    intro c h
    cases ms with
    | nil =>
      rw [memberChars_singleton] at h
      exact isPlain_memberText h
    | cons n ms =>
      rw [memberChars_cons_cons, List.mem_append, List.mem_cons, List.mem_cons] at h
      rcases h with h | rfl | rfl | h
      · exact isPlain_memberText h
      · decide
      · decide
      · exact ih h

/-- Nothing but plain characters is written, and so no line break. -/
theorem isPlain_textObject {ms : List (String × WideText)} {c : Char}
    (h : c ∈ (textObject ms).toList) : IsPlain c := by
  rw [toList_textObject, List.mem_cons, List.mem_append, List.mem_singleton] at h
  rcases h with rfl | h | rfl
  · decide
  · exact isPlain_memberChars ms h
  · decide

end Json

end AccessLog
