import AccessLog.Format.Scan

/-!
The grammar of format strings, told without a scanner. A text divides in exactly one way into shapes
of tokens and gaps in which no shape begins, and `scan` finds this division.
-/
namespace AccessLog.Format

/-- Hyphen, underscore, the Latin letters, and the four characters that have one as their other
case. -/
def NameChar (c : Char) : Prop :=
  c = '-' ∨ c = '_' ∨ ('a' ≤ c ∧ c ≤ 'z') ∨ ('A' ≤ c ∧ c ≤ 'Z') ∨
    c ∈ ['\u0130', '\u0131', '\u017f', '\u212a']

theorem isNameChar_iff (c : Char) : isNameChar c = true ↔ NameChar c := by
  have hlower : c.isLower = true ↔ 'a' ≤ c ∧ c ≤ 'z' := by
    change (decide (c.val ≥ 'a'.val) && decide (c.val ≤ 'z'.val)) = true ↔ _
    simp [Char.le_def]
  have hupper : c.isUpper = true ↔ 'A' ≤ c ∧ c ≤ 'Z' := decide_eq_true_iff
  have halpha : c.isAlpha = (c.isUpper || c.isLower) := rfl
  simp only [isNameChar, NameChar, halpha, Bool.or_eq_true, beq_iff_eq, hlower, hupper,
    List.mem_cons, List.not_mem_nil, or_false]
  constructor
  · rintro (((((((h | h) | h) | h) | h) | h) | h) | h) <;> simp [h]
  · rintro (h | h | h | h | h | h | h | h) <;> simp [h]

theorem not_nameChar_bracket : ¬ NameChar '[' := by
  rw [← isNameChar_iff]
  decide

/-- The first argument has the shape of a token where the second one follows it. A bare token goes on
as long as the characters of names do. -/
inductive Shape : List Char → List Char → Prop
  | bracketed (inner rest : List Char) :
      inner ≠ [] → ']' ∉ inner → Shape (':' :: '[' :: (inner ++ [']'])) rest
  | bare (name rest : List Char) :
      name ≠ [] → (∀ c ∈ name, NameChar c) → (∀ c, rest.head? = some c → ¬ NameChar c) →
      Shape (':' :: name) rest

/-- What stops a run is what follows it. -/
theorem takeWhile_append_stop {p : Char → Bool} {body rest : List Char}
    (hin : ∀ c ∈ body, p c = true) (hstop : ∀ c, rest.head? = some c → p c = false) :
    (body ++ rest).takeWhile p = body := by
  rw [List.takeWhile_append_of_pos hin]
  cases rest with
  | nil => simp
  | cons c rest => simp [hstop c rfl]

/-- What follows a run stops it. -/
theorem head?_dropWhile {p : Char → Bool} {cs : List Char} {c : Char}
    (h : (cs.dropWhile p).head? = some c) : p c = false := by
  have hnot := List.head?_dropWhile_not p cs
  rw [h] at hnot
  simpa using hnot

theorem bracketLexeme?_append {inner : List Char} (rest : List Char) (hne : inner ≠ [])
    (hclosed : ']' ∉ inner) :
    bracketLexeme? (':' :: '[' :: (inner ++ ']' :: rest)) =
      some (':' :: '[' :: inner ++ [']']) := by
  have htake : (inner ++ ']' :: rest).takeWhile (· ≠ ']') = inner := by
    apply takeWhile_append_stop
    · intro c hc
      simpa using fun h : c = ']' => hclosed (h ▸ hc)
    · rintro c ⟨⟩
      simp
  simp only [bracketLexeme?, htake]
  exact if_pos ⟨hne, by simp⟩

theorem bracketLexeme?_of_other {c : Char} (h : c ≠ '[') (cs : List Char) :
    bracketLexeme? (':' :: c :: cs) = none := by
  unfold bracketLexeme?
  split
  · next heq => exact absurd (List.cons.inj (List.cons.inj heq).2).1 h
  · rfl

theorem head_ne_bracket {c : Char} {name : List Char} (hall : ∀ d ∈ c :: name, NameChar d) :
    c ≠ '[' := by
  rintro rfl
  exact not_nameChar_bracket (hall _ List.mem_cons_self)

theorem bareLexeme?_append {name rest : List Char} (hne : name ≠ [])
    (hall : ∀ c ∈ name, NameChar c) (hmax : ∀ c, rest.head? = some c → ¬ NameChar c) :
    bareLexeme? (':' :: (name ++ rest)) = some (':' :: name) := by
  have htake : (name ++ rest).takeWhile isNameChar = name := by
    apply takeWhile_append_stop
    · intro c hc
      exact (isNameChar_iff c).mpr (hall c hc)
    · intro c hc
      rw [← Bool.not_eq_true, isNameChar_iff]
      exact hmax c hc
  simp only [bareLexeme?, htake]
  exact if_pos hne

theorem lexeme?_of_shape {t rest : List Char} (h : Shape t rest) :
    lexeme? (t ++ rest) = some t := by
  cases h with
  | bracketed inner _ hne hclosed =>
    have hb := bracketLexeme?_append rest hne hclosed
    simp [lexeme?, hb]
  | bare name _ hne hall hmax =>
    obtain ⟨c, name, rfl⟩ := List.exists_cons_of_ne_nil hne
    have hb := bracketLexeme?_of_other (head_ne_bracket hall) (name ++ rest)
    have hname := bareLexeme?_append hne hall hmax
    rw [List.cons_append] at hname
    simp [lexeme?, hb, hname]

theorem shape_of_bracketLexeme? {cs t : List Char} (h : bracketLexeme? cs = some t) :
    ∃ rest, cs = t ++ rest ∧ Shape t rest := by
  unfold bracketLexeme? at h
  split at h
  · next body =>
    simp only at h
    split at h
    · next hi =>
      obtain ⟨hne, hlt⟩ := hi
      cases h
      have hsplit : body.takeWhile (· ≠ ']') ++ body.dropWhile (· ≠ ']') = body :=
        List.takeWhile_append_dropWhile
      have hclosed : ']' ∉ body.takeWhile (· ≠ ']') := by
        intro hmem
        simpa using List.all_eq_true.mp List.all_takeWhile _ hmem
      cases hd : body.dropWhile (· ≠ ']') with
      | nil =>
        rw [hd, List.append_nil] at hsplit
        rw [hsplit] at hlt
        exact absurd hlt (Nat.lt_irrefl _)
      | cons x rest =>
        have hx : x = ']' := by
          have hhead : (body.dropWhile (· ≠ ']')).head? = some x := by
            rw [hd]
            rfl
          simpa using head?_dropWhile hhead
        rw [hd, hx] at hsplit
        refine ⟨rest, ?_, Shape.bracketed _ rest hne hclosed⟩
        simpa using hsplit.symm
    · cases h
  · cases h

theorem shape_of_bareLexeme? {cs t : List Char} (h : bareLexeme? cs = some t) :
    ∃ rest, cs = t ++ rest ∧ Shape t rest := by
  unfold bareLexeme? at h
  split at h
  · next body =>
    simp only at h
    split at h
    · next hne =>
      cases h
      refine ⟨body.dropWhile isNameChar, ?_, Shape.bare _ _ hne ?_ ?_⟩
      · rw [List.cons_append, List.takeWhile_append_dropWhile]
      · exact fun c hc => (isNameChar_iff c).mp (List.all_eq_true.mp List.all_takeWhile c hc)
      · intro c hc
        rw [← isNameChar_iff, head?_dropWhile hc]
        exact Bool.false_ne_true
    · cases h
  · cases h

/-- The scanner sees a lexeme exactly where a shape begins. -/
theorem lexeme?_eq_some_iff (cs t : List Char) :
    lexeme? cs = some t ↔ ∃ rest, cs = t ++ rest ∧ Shape t rest := by
  constructor
  · intro h
    unfold lexeme? at h
    cases hb : bracketLexeme? cs with
    | some b =>
      rw [hb] at h
      cases h
      exact shape_of_bracketLexeme? hb
    | none =>
      rw [hb] at h
      exact shape_of_bareLexeme? h
  · rintro ⟨rest, rfl, h⟩
    exact lexeme?_of_shape h

/-- A text as its first gap and then shapes of tokens, each with the gap behind it. -/
structure Division where
  lead : List Char
  tokens : List (List Char × List Char)

/-- What shapes and the gaps behind them make up. -/
def written (tokens : List (List Char × List Char)) : List Char :=
  tokens.flatMap fun token => token.1 ++ token.2

@[simp] theorem written_cons (t gap : List Char) (tokens : List (List Char × List Char)) :
    written ((t, gap) :: tokens) = t ++ (gap ++ written tokens) := by
  simp [written]

/-- No shape begins inside the gap; one that did could go on beyond it. -/
def Clear (gap rest : List Char) : Prop :=
  ∀ before inside t later, gap = before ++ inside → inside ≠ [] → inside ++ rest = t ++ later →
    ¬ Shape t later

theorem clear_nil (rest : List Char) : Clear [] rest := by
  intro before inside t later hgap hne
  exact absurd (List.append_eq_nil_iff.mp hgap.symm).2 hne

theorem clear_cons_iff (c : Char) (gap rest : List Char) :
    Clear (c :: gap) rest ↔ lexeme? (c :: (gap ++ rest)) = none ∧ Clear gap rest := by
  constructor
  · intro h
    refine ⟨?_, ?_⟩
    · cases hl : lexeme? (c :: (gap ++ rest)) with
      | none => rfl
      | some t =>
        obtain ⟨later, heq, hshape⟩ := (lexeme?_eq_some_iff _ t).mp hl
        exact absurd hshape (h [] (c :: gap) t later rfl (List.cons_ne_nil c gap) heq)
    · intro before inside t later hgap
      exact h (c :: before) inside t later (by rw [hgap]; rfl)
  · rintro ⟨hnone, h⟩ before inside t later hgap hne heq hshape
    cases before with
    | nil =>
      have hsome : lexeme? (inside ++ rest) = some t :=
        (lexeme?_eq_some_iff _ t).mpr ⟨later, heq, hshape⟩
      rw [← show c :: gap = inside from hgap, List.cons_append, hnone] at hsome
      cases hsome
    | cons b before =>
      exact h before inside t later (List.cons.inj hgap).2 hne heq hshape

namespace Division

def text (d : Division) : List Char := d.lead ++ written d.tokens

/-- Every token has a shape where it stands, and no shape begins inside a gap. -/
structure Lawful (d : Division) : Prop where
  lead : Clear d.lead (written d.tokens)
  tokens : ∀ before t gap after, d.tokens = before ++ (t, gap) :: after →
    Shape t (gap ++ written after) ∧ Clear gap (written after)

theorem lawful_nil_iff (lead : List Char) : Lawful ⟨lead, []⟩ ↔ Clear lead [] := by
  constructor
  · exact fun h => h.lead
  · intro h
    refine ⟨h, ?_⟩
    intro before t gap after heq
    exact absurd heq (by simp)

theorem lawful_cons_iff (lead t gap : List Char) (tokens : List (List Char × List Char)) :
    Lawful ⟨lead, (t, gap) :: tokens⟩ ↔
      Clear lead (written ((t, gap) :: tokens)) ∧ Shape t (gap ++ written tokens) ∧
        Lawful ⟨gap, tokens⟩ := by
  constructor
  · rintro ⟨hlead, htokens⟩
    obtain ⟨hshape, hgap⟩ := htokens [] t gap tokens rfl
    refine ⟨hlead, hshape, hgap, ?_⟩
    intro before t' gap' after heq
    have heq : tokens = before ++ (t', gap') :: after := heq
    exact htokens ((t, gap) :: before) t' gap' after (by rw [heq]; rfl)
  · rintro ⟨hlead, hshape, hrest⟩
    refine ⟨hlead, ?_⟩
    intro before t' gap' after heq
    cases before with
    | nil =>
      obtain ⟨hhead, rfl⟩ := List.cons.inj heq
      cases hhead
      exact ⟨hshape, hrest.lead⟩
    | cons token before => exact hrest.tokens before t' gap' after (List.cons.inj heq).2

/-- The pieces that make up a gap. -/
def gapPieces (gap : List Char) : List Piece := if gap = [] then [] else [.plain gap]

def tokenPieces (tokens : List (List Char × List Char)) : List Piece :=
  tokens.flatMap fun token => .lexeme token.1 :: gapPieces token.2

@[simp] theorem tokenPieces_cons (t gap : List Char) (tokens : List (List Char × List Char)) :
    tokenPieces ((t, gap) :: tokens) = .lexeme t :: (gapPieces gap ++ tokenPieces tokens) := by
  simp [tokenPieces]

def pieces (d : Division) : List Piece := gapPieces d.lead ++ tokenPieces d.tokens

theorem consPlain_gap (c : Char) (gap : List Char) (tokens : List (List Char × List Char)) :
    consPlain c (gapPieces gap ++ tokenPieces tokens) =
      gapPieces (c :: gap) ++ tokenPieces tokens := by
  cases gap with
  | nil => cases tokens <;> rfl
  | cons d gap => rfl

/-- The gaps and tokens of a list of pieces. -/
def ofPieces : List Piece → Division
  | [] => ⟨[], []⟩
  | .plain cs :: ps => ⟨cs ++ (ofPieces ps).lead, (ofPieces ps).tokens⟩
  | .lexeme t :: ps => ⟨[], (t, (ofPieces ps).lead) :: (ofPieces ps).tokens⟩

theorem ofPieces_pieces (d : Division) : ofPieces d.pieces = d := by
  have hgap : ∀ gap ps, ofPieces (gapPieces gap ++ ps) =
      ⟨gap ++ (ofPieces ps).lead, (ofPieces ps).tokens⟩ := by
    intro gap ps
    cases gap <;> rfl
  have htokens : ∀ tokens, ofPieces (tokenPieces tokens) = ⟨[], tokens⟩ := by
    intro tokens
    induction tokens with
    | nil => rfl
    | cons token tokens ih => rw [tokenPieces_cons, ofPieces, hgap, ih, List.append_nil]
  rw [pieces, hgap, htokens, List.append_nil]

theorem scan_lexeme {t rest : List Char} (h : Shape t rest) :
    scan (t ++ rest) = .lexeme t :: scan rest := by
  have hl := lexeme?_of_shape h
  rw [scan]
  split
  · next t' ht' =>
    rw [hl] at ht'
    cases ht'
    rw [List.drop_left]
  · next hnone =>
    rw [hl] at hnone
    cases hnone

theorem scan_plain {c : Char} {cs : List Char} (h : lexeme? (c :: cs) = none) :
    scan (c :: cs) = consPlain c (scan cs) := by
  rw [scan]
  split
  · next t ht =>
    rw [h] at ht
    cases ht
  · rfl

theorem scan_gap {gap : List Char} {tokens : List (List Char × List Char)}
    (hclear : Clear gap (written tokens)) (hrest : scan (written tokens) = tokenPieces tokens) :
    scan (gap ++ written tokens) = gapPieces gap ++ tokenPieces tokens := by
  induction gap with
  | nil => exact hrest
  | cons c gap ih =>
    obtain ⟨hnone, hclear⟩ := (clear_cons_iff ..).mp hclear
    rw [List.cons_append, scan_plain hnone, ih hclear, consPlain_gap]

/-- The scanner finds the pieces of a lawful division. -/
theorem scan_text {d : Division} (h : d.Lawful) : scan d.text = d.pieces := by
  obtain ⟨lead, tokens⟩ := d
  refine scan_gap h.lead ?_
  -- the tokens from the last one to the first, each with the gap behind it
  induction tokens generalizing lead with
  | nil =>
    rw [written, List.flatMap_nil, scan]
    rfl
  | cons token tokens ih =>
    obtain ⟨t, gap⟩ := token
    obtain ⟨_, hshape, hrest⟩ := (lawful_cons_iff ..).mp h
    rw [written_cons, scan_lexeme hshape, scan_gap hrest.lead (ih gap hrest), tokenPieces_cons]

/-- Every text has a lawful division. -/
theorem exists_lawful (cs : List Char) : ∃ d : Division, d.text = cs ∧ d.Lawful := by
  fun_induction scan cs with
  | case1 cs t h ih =>
    obtain ⟨d, htext, hlawful⟩ := ih
    obtain ⟨rest, hcs, hshape⟩ := (lexeme?_eq_some_iff cs t).mp h
    have hrest : cs.drop t.length = rest := by rw [hcs, List.drop_left]
    rw [hrest] at htext
    refine ⟨⟨[], (t, d.lead) :: d.tokens⟩, ?_, ?_⟩
    · rw [hcs, ← htext]
      simp [text]
    · refine (lawful_cons_iff ..).mpr ⟨clear_nil _, ?_, hlawful⟩
      rw [← text, htext]
      exact hshape
  | case2 => exact ⟨⟨[], []⟩, rfl, (lawful_nil_iff []).mpr (clear_nil [])⟩
  | case3 c rest h ih =>
    obtain ⟨d, htext, hlawful⟩ := ih
    refine ⟨⟨c :: d.lead, d.tokens⟩, ?_, ?_⟩
    · rw [← htext]
      rfl
    · refine ⟨(clear_cons_iff ..).mpr ⟨?_, hlawful.lead⟩, hlawful.tokens⟩
      rw [← text, htext]
      exact h

/-- There is only one lawful way to divide a text. -/
theorem lawful_unique {d d' : Division} (h : d.Lawful) (h' : d'.Lawful) (heq : d.text = d'.text) :
    d = d' := by
  rw [← ofPieces_pieces d, ← ofPieces_pieces d', ← scan_text h, ← scan_text h', heq]

end Division

end AccessLog.Format
