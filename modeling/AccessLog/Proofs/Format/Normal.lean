import AccessLog.Plan.Compiler
import AccessLog.Proofs.Format.Parse

/-!
The normal form of a format: its items with single blanks between. `Stable` says of a list of items
that each literal in it stays plain text where it is printed; the items of every format string are
stable, and stable items are read again as they are.
-/
namespace AccessLog

namespace Text

/-- A word and what follows it from a blank on. -/
theorem words_append {w post : List Char} (hne : w ≠ []) (hw : ∀ c ∈ w, isBlank c = false)
    (hpost : ∀ c, post.head? = some c → isBlank c = true) :
    words (w ++ post) = w :: words post := by
  have hkept : (!w.isEmpty) = true := by simpa using hne
  cases post with
  | nil => simp [Format.words_eq, List.splitOnP_eq_singleton hw, hkept]
  | cons b post =>
    have hb := hpost b rfl
    rw [words_blank hb, Format.words_eq, Format.words_eq,
      List.splitOnP_append_cons_of_forall_mem hw b hb, List.filter_cons, if_pos hkept]

theorem words_append_of_blank {pre : List Char} (hpre : ∀ c ∈ pre, isBlank c = true)
    (cs : List Char) : words (pre ++ cs) = words cs := by
  induction pre with
  | nil => rfl
  | cons c pre ih =>
    rw [List.cons_append, words_blank (hpre c List.mem_cons_self)]
    exact ih fun d hd => hpre d (List.mem_cons_of_mem c hd)

/-- A text with a first word: blanks, the word, and what follows it from a blank on. -/
theorem exists_of_words_eq_cons {cs w : List Char} {ws : List (List Char)}
    (h : words cs = w :: ws) :
    ∃ pre post, cs = pre ++ (w ++ post) ∧ w ≠ [] ∧ (∀ c ∈ w, isBlank c = false) ∧
      (∀ c, post.head? = some c → isBlank c = true) ∧ words post = ws := by
  have hpre : ∀ c ∈ cs.takeWhile isBlank, isBlank c = true :=
    List.all_eq_true.mp List.all_takeWhile
  have hcs : cs.takeWhile isBlank ++ cs.dropWhile isBlank = cs := List.takeWhile_append_dropWhile
  generalize cs.takeWhile isBlank = pre at hpre hcs
  generalize hrest : cs.dropWhile isBlank = rest at hcs
  have hwords : words rest = w :: ws := by rw [← h, ← hcs, words_append_of_blank hpre]
  have hfirst : ∀ c ∈ rest.takeWhile (!isBlank ·), isBlank c = false := by
    intro c hc
    simpa using List.all_eq_true.mp List.all_takeWhile c hc
  have hlast : ∀ c, (rest.dropWhile (!isBlank ·)).head? = some c → isBlank c = true := by
    intro c hc
    simpa using Format.head?_dropWhile hc
  have hsplit : rest.takeWhile (!isBlank ·) ++ rest.dropWhile (!isBlank ·) = rest :=
    List.takeWhile_append_dropWhile
  have hne : rest.takeWhile (!isBlank ·) ≠ [] := by
    intro hnil
    cases rest with
    | nil => cases hwords
    | cons c rest =>
      have hc : isBlank c = false := Format.head?_dropWhile (p := isBlank) (by rw [hrest]; rfl)
      rw [List.takeWhile_cons, hc] at hnil
      cases hnil
  rw [← hsplit, words_append hne hfirst hlast] at hwords
  obtain ⟨hw, hws⟩ := List.cons.inj hwords
  rw [hw] at hne hfirst hsplit
  exact ⟨pre, _, by rw [hsplit, hcs], hne, hfirst, hlast, hws⟩

end Text

namespace Format

theorem literals_eq (gap : List Char) :
    literals gap = (Text.words gap).map (.literal ∘ String.ofList) := by
  rw [literals, words_eq]

/-- Behind its colon a shape goes on with a character of names, or with a bracket that is closed,
though not at once. -/
inductive Opens : List Char → Prop
  | bare (c : Char) (rest : List Char) : NameChar c → Opens (c :: rest)
  | bracketed (inner : List Char) : inner.head? ≠ some ']' → ']' ∈ inner → Opens ('[' :: inner)

theorem opens_of_shape {t later : List Char} (h : Shape t later) :
    ∃ body, t ++ later = ':' :: body ∧ Opens body := by
  cases h with
  | bracketed inner _ hne hclosed =>
    obtain ⟨c, inner, rfl⟩ := List.exists_cons_of_ne_nil hne
    refine ⟨'[' :: (c :: inner ++ [']'] ++ later), rfl, .bracketed _ ?_ (by simp)⟩
    simpa using fun hc : c = ']' => hclosed (by simp [hc])
  | bare name _ hne hall _ =>
    obtain ⟨c, name, rfl⟩ := List.exists_cons_of_ne_nil hne
    exact ⟨c :: (name ++ later), rfl, .bare _ _ (hall c List.mem_cons_self)⟩

theorem lexeme?_ne_none {body : List Char} (h : Opens body) : lexeme? (':' :: body) ≠ none := by
  intro hnone
  rw [lexeme?, Option.orElse_eq_orElse, Option.orElse_eq_or, Option.or_eq_none_iff] at hnone
  obtain ⟨hbracket, hbare⟩ := hnone
  cases h with
  | bare c rest hc => simp [bareLexeme?, (isNameChar_iff c).mpr hc] at hbare
  | bracketed inner hhead hclosed =>
    obtain ⟨first, rest, rfl, hfirst⟩ := List.eq_append_cons_of_mem hclosed
    have hne : first ≠ [] := by
      rintro rfl
      exact hhead rfl
    rw [bracketLexeme?_append rest hne hfirst] at hbracket
    cases hbracket

theorem lexeme?_eq_none_iff (cs : List Char) :
    lexeme? cs = none ↔ ∀ body, cs = ':' :: body → ¬ Opens body := by
  constructor
  · rintro h body rfl hopens
    exact lexeme?_ne_none hopens h
  · intro h
    cases hl : lexeme? cs with
    | none => rfl
    | some t =>
      obtain ⟨later, rfl, hshape⟩ := (lexeme?_eq_some_iff cs t).mp hl
      obtain ⟨body, hbody, hopens⟩ := opens_of_shape hshape
      exact absurd hopens (h body hbody)

theorem not_opens {cs : List Char} (h : ∀ c, cs.head? = some c → c = ' ') : ¬ Opens cs := by
  intro hopens
  cases hopens with
  | bare c rest hc =>
    rw [h c rfl, ← isNameChar_iff] at hc
    exact absurd hc (by decide)
  | bracketed inner => cases h '[' rfl

/-- A word that is plain text in front of one text is plain text in front of another, if that one
starts with a blank or is empty and closes no bracket that the first leaves open. -/
theorem lexeme?_eq_none_mono {w x y : List Char} (hne : w ≠ []) (hx : x.head? ≠ some ']')
    (hy : ∀ c, y.head? = some c → c = ' ') (hclosed : ']' ∈ y → ']' ∈ x)
    (h : lexeme? (w ++ x) = none) : lexeme? (w ++ y) = none := by
  rw [lexeme?_eq_none_iff] at h ⊢
  intro body hbody hopens
  obtain ⟨c, w, rfl⟩ := List.exists_cons_of_ne_nil hne
  obtain ⟨rfl, rfl⟩ := List.cons.inj hbody
  refine h (w ++ x) rfl ?_
  cases w with
  | nil => exact absurd hopens (not_opens hy)
  | cons d w =>
    cases hopens with
    | bare _ _ hd => exact .bare d _ hd
    | bracketed _ hhead hmem =>
      refine .bracketed _ ?_ ?_
      · cases w with
        | nil => exact hx
        | cons e w => exact hhead
      · rcases List.mem_append.mp hmem with hmem | hmem
        · exact List.mem_append_left _ hmem
        · exact List.mem_append_right _ (hclosed hmem)

theorem clear_append_iff (gap gap' rest : List Char) :
    Clear (gap ++ gap') rest ↔ Clear gap (gap' ++ rest) ∧ Clear gap' rest := by
  induction gap with
  | nil => simp [clear_nil]
  | cons c gap ih => rw [List.cons_append, clear_cons_iff, clear_cons_iff, ih, List.append_assoc,
      and_assoc]

theorem Clear.mono {w x y : List Char} (h : Clear w x) (hx : x.head? ≠ some ']')
    (hy : ∀ c, y.head? = some c → c = ' ') (hclosed : ']' ∈ y → ']' ∈ x) : Clear w y := by
  induction w with
  | nil => exact clear_nil y
  | cons c w ih =>
    obtain ⟨hnone, h⟩ := (clear_cons_iff c w x).mp h
    exact (clear_cons_iff c w y).mpr
      ⟨lexeme?_eq_none_mono (List.cons_ne_nil c w) hx hy hclosed hnone, ih h⟩

/-- The items of a format with single blanks between. -/
def print (items : List Item) : String := " ".intercalate (items.map Item.spelling)

/-- The items with a blank in front of each. -/
def spaced (items : List Item) : List Char := items.flatMap fun item => ' ' :: item.spelling.toList

@[simp] theorem spaced_nil : spaced [] = [] := rfl

@[simp] theorem spaced_cons (item : Item) (items : List Item) :
    spaced (item :: items) = ' ' :: (item.spelling.toList ++ spaced items) := by
  simp [spaced]

theorem head?_spaced (items : List Item) (c : Char) (h : (spaced items).head? = some c) :
    c = ' ' := by
  cases items with
  | nil => cases h
  | cons item items =>
    rw [spaced_cons] at h
    exact (Option.some.inj h).symm

theorem spaced_eq_print (item : Item) (items : List Item) :
    spaced (item :: items) = ' ' :: (print (item :: items)).toList := by
  induction items generalizing item with
  | nil => simp [print]
  | cons item' items ih =>
    rw [spaced_cons, ih item']
    simp [print, String.intercalate_cons_cons]

theorem lexeme?_blank (cs : List Char) : lexeme? (' ' :: cs) = none := by
  refine (lexeme?_eq_none_iff _).mpr ?_
  intro body h
  cases h

theorem read_consPlain {c : Char} (hc : Text.isBlank c = true) (seen : Bool) (ps : List Piece) :
    read seen (consPlain c ps) = read seen ps := by
  unfold consPlain
  split
  · next cs ps => rw [read, read, Text.words_blank hc]
  · rw [read, Text.words_blank hc]
    rfl

/-- The blank in front of the first item does not count. -/
theorem parse_print (items : List Item) :
    parse (print items) = read false (scan (spaced items)) := by
  cases items with
  | nil => rfl
  | cons item items =>
    rw [spaced_eq_print, Division.scan_plain (lexeme?_blank _), read_consPlain (by decide), parse]

/-- Items that are read again as they are where they are printed: each literal is a word in which no
shape begins, and whatever follows closes no bracket in it. -/
inductive Stable : List Item → Prop
  | nil : Stable []
  | literal {text : String} {items : List Item} : text.toList ≠ [] →
      (∀ c ∈ text.toList, Text.isBlank c = false) → Clear text.toList (spaced items) →
      Stable items → Stable (.literal text :: items)
  | token {items : List Item} (t : Token) (bracketed : Bool) :
      Stable items → Stable (.token t bracketed :: items)

namespace Division

/-- The division of the printed items. -/
def ofItems : List Item → Division
  | [] => ⟨[], []⟩
  | .literal text :: items =>
    ⟨' ' :: (text.toList ++ (ofItems items).lead), (ofItems items).tokens⟩
  | .token t bracketed :: items =>
    ⟨[' '], ((t.spelling bracketed).toList, (ofItems items).lead) :: (ofItems items).tokens⟩

theorem text_ofItems (items : List Item) : (ofItems items).text = spaced items := by
  induction items with
  | nil => rfl
  | cons item items ih =>
    rw [spaced_cons, ← ih]
    cases item <;> simp [ofItems, text, Item.spelling]

theorem shape_spelling (t : Token) (bracketed : Bool) (items : List Item) :
    Shape (t.spelling bracketed).toList (spaced items) := by
  cases bracketed with
  | true =>
    rw [toList_spelling_true]
    refine .bracketed _ _ ?_ ?_ <;> cases t <;> decide
  | false =>
    have hname : t.name.toList.all isNameChar = true := by cases t <;> decide
    rw [toList_spelling_false]
    refine .bare _ _ (by cases t <;> decide)
      (fun c hc => (isNameChar_iff c).mp (List.all_eq_true.mp hname c hc)) ?_
    intro c hc
    rw [head?_spaced items c hc, ← isNameChar_iff]
    decide

theorem lawful_ofItems {items : List Item} (h : Stable items) : (ofItems items).Lawful := by
  induction h with
  | nil => exact (lawful_nil_iff []).mpr (clear_nil [])
  | @literal text items hne hword hclear h ih =>
    rw [← text_ofItems items] at hclear
    have hlead := (clear_append_iff ..).mpr ⟨hclear, ih.lead⟩
    exact ⟨(clear_cons_iff ..).mpr ⟨lexeme?_blank _, hlead⟩, ih.tokens⟩
  | @token items t bracketed h ih =>
    have hshape := shape_spelling t bracketed items
    rw [← text_ofItems items] at hshape
    exact (lawful_cons_iff ..).mpr
      ⟨(clear_cons_iff ..).mpr ⟨lexeme?_blank _, clear_nil _⟩, hshape, ih⟩

theorem ofShape?_spelling (t : Token) (bracketed : Bool) :
    Item.ofShape? (t.spelling bracketed).toList = some (.token t bracketed) := by
  have hshape := shape_spelling t bracketed []
  have hsqueeze : (t.spelling bracketed).toList = Text.squeeze (t.spelling bracketed).toList := by
    cases t <;> cases bracketed <;> decide
  obtain ⟨hbracketed, hname⟩ := (spelling_eq_iff hshape t bracketed).mp hsqueeze
  rw [ofShape?_eq hshape, ← hname, ← hbracketed, Token.ofName?_name]
  rfl

theorem head?_lead_ofItems (items : List Item) (c : Char)
    (h : (ofItems items).lead.head? = some c) : Text.isBlank c = true := by
  cases items with
  | nil => cases h
  | cons item items =>
    cases item <;>
    · cases h
      decide

/-- The printed items are read as they are; `:incoming` must not be there twice. -/
theorem read_ofItems {items : List Item} (h : Stable items) {seen : Bool}
    (hone : items.countP Item.isIncoming + seen.toNat ≤ 1) :
    read seen (ofItems items).pieces = ⟨items, seen || items.any Item.isIncoming, []⟩ := by
  induction h generalizing seen with
  | nil =>
    rw [List.any_nil, Bool.or_false]
    rfl
  | @literal text items hne hword hclear h ih =>
    have hliterals : literals (' ' :: (text.toList ++ (ofItems items).lead)) =
        .literal text :: literals (ofItems items).lead := by
      rw [literals_eq, literals_eq, Text.words_blank (by decide),
        Text.words_append hne hword (head?_lead_ofItems items), List.map_cons, Function.comp_apply,
        String.ofList_toList]
    have hread : read seen (ofItems items).pieces = _ := ih hone
    rw [pieces, read_gap] at hread
    rw [pieces, ofItems, read_gap, hliterals]
    exact congrArg (fun f : Format => { f with items := .literal text :: f.items }) hread
  | @token items t bracketed h ih =>
    rw [List.countP_cons] at hone
    have hagain : ((Item.token t bracketed).isIncoming && seen) = false := by
      cases hi : (Item.token t bracketed).isIncoming <;> cases seen <;> simp_all
    have hblank : literals [' '] = [] := by rw [literals_eq, Text.words_blank (by decide)]; rfl
    have hpieces : (ofItems (.token t bracketed :: items)).pieces =
        gapPieces [' '] ++ .lexeme (t.spelling bracketed).toList :: (ofItems items).pieces := by
      simp [ofItems, pieces]
    have hlater : items.countP Item.isIncoming +
        (seen || (Item.token t bracketed).isIncoming).toNat ≤ 1 := by
      cases hi : (Item.token t bracketed).isIncoming <;> cases seen <;> simp_all
    have hread := ih hlater
    rw [hpieces, read_gap, read_shape (shape_spelling t bracketed items), ofShape?_spelling]
    simp [hblank, hagain, hread, Bool.or_assoc]

end Division

/-- The words of a gap are stable in front of stable items, if these close no bracket that what
follows the gap leaves open. -/
theorem stable_literals {gap rest : List Char} {items : List Item} (hclear : Clear gap rest)
    (hrest : rest.head? ≠ some ']') (hitems : Stable items)
    (hclosed : ']' ∈ spaced items → ']' ∈ rest) :
    Stable (literals gap ++ items) ∧ (']' ∈ spaced (literals gap ++ items) → ']' ∈ gap ++ rest) := by
  rw [literals_eq]
  generalize hwords : Text.words gap = words
  induction words generalizing gap with
  | nil => exact ⟨hitems, fun h => List.mem_append_right _ (hclosed h)⟩
  | cons w words ih =>
    obtain ⟨pre, post, rfl, hne, hword, hpost, hlater⟩ := Text.exists_of_words_eq_cons hwords
    obtain ⟨-, hclear⟩ := (clear_append_iff ..).mp hclear
    obtain ⟨hclear, hlast⟩ := (clear_append_iff ..).mp hclear
    obtain ⟨hstable, hclosed⟩ := ih hlast hlater
    have hhead : (post ++ rest).head? ≠ some ']' := by
      cases post with
      | nil => exact hrest
      | cons b post =>
        intro h
        have hb := hpost b rfl
        rw [Option.some.inj h] at hb
        exact absurd hb (by decide)
    refine ⟨.literal (by simpa using hne) (by simpa using hword) ?_ hstable, ?_⟩
    · rw [String.toList_ofList]
      exact hclear.mono hhead (head?_spaced _) hclosed
    · intro h
      simp only [List.map_cons, List.cons_append, Function.comp_apply, spaced_cons, Item.spelling,
        String.toList_ofList, List.mem_cons, List.mem_append] at h hclosed ⊢
      rcases h with h | h | h
      · cases h
      · exact .inl (.inr (.inl h))
      · rcases hclosed h with h | h
        · exact .inl (.inr (.inr h))
        · exact .inr h

/-- An item that a shape gives is a token. -/
theorem Fragment.exists_token {first place : Nat} {shape : List Char} {item : Item}
    (h : Fragment.ofShape first place shape = .inl item) :
    ∃ t bracketed, item = .token t bracketed := by
  unfold Fragment.ofShape at h
  split at h
  · next found hfound =>
    split at h
    · cases h
    · obtain rfl : found = item := Sum.inl.inj h
      exact (Item.mem_vocabulary_iff found).mp (List.mem_of_find?_eq_some hfound)
  · cases h

theorem Fragment.spelling_of_ofShape {first place : Nat} {shape : List Char} {item : Item}
    (h : Fragment.ofShape first place shape = .inl item) :
    item.spelling.toList = Text.squeeze shape := by
  rw [← Fragment.chars_ofShape first place shape, h]
  rfl

theorem Division.lefts_tokenFragments_cons (first place : Nat) (t gap : List Char)
    (tokens : List (List Char × List Char)) :
    (tokenFragments first place ((t, gap) :: tokens)).filterMap Sum.getLeft? =
      (Fragment.ofShape first place t).getLeft?.toList ++ (literals gap ++
        (tokenFragments first (place + 1) tokens).filterMap Sum.getLeft?) := by
  rw [tokenFragments_cons, List.filterMap_cons, List.filterMap_append, lefts_wordFragments]
  cases Fragment.ofShape first place t <;> rfl

/-- The items of a division, from the gap in front of the given tokens on. -/
theorem stable_of_lawful {lead : List Char} {tokens : List (List Char × List Char)}
    (h : Division.Lawful ⟨lead, tokens⟩) (first place : Nat) :
    let items := literals lead ++
      (Division.tokenFragments first place tokens).filterMap Sum.getLeft?
    Stable items ∧ (']' ∈ spaced items → ']' ∈ lead ++ written tokens) := by
  induction tokens generalizing lead place with
  | nil => exact stable_literals ((Division.lawful_nil_iff lead).mp h) nofun .nil nofun
  | cons token tokens ih =>
    obtain ⟨t, gap⟩ := token
    obtain ⟨hlead, hshape, hrest⟩ := (Division.lawful_cons_iff ..).mp h
    obtain ⟨hstable, hclosed⟩ := ih hrest (place + 1)
    have hcolon : (written ((t, gap) :: tokens)).head? ≠ some ']' := by
      rw [written_cons]
      cases hshape <;> simp
    have hclosed : ']' ∈ spaced (literals gap ++ (Division.tokenFragments first (place + 1)
        tokens).filterMap Sum.getLeft?) → ']' ∈ written ((t, gap) :: tokens) := by
      intro hmem
      rw [written_cons]
      exact List.mem_append_right t (hclosed hmem)
    rw [Division.lefts_tokenFragments_cons]
    cases hf : Fragment.ofShape first place t with
    | inr shape => exact stable_literals hlead hcolon hstable hclosed
    | inl item =>
      obtain ⟨token, bracketed, rfl⟩ := Fragment.exists_token hf
      rw [Sum.getLeft?_inl, Option.toList_some, List.singleton_append]
      refine stable_literals hlead hcolon (.token token bracketed hstable) ?_
      intro hmem
      simp only [spaced_cons, Fragment.spelling_of_ofShape hf, List.mem_cons, List.mem_append]
        at hmem
      rcases hmem with hmem | hmem | hmem
      · cases hmem
      · rw [written_cons]
        exact List.mem_append_left _ (List.mem_filter.mp hmem).1
      · exact hclosed hmem

theorem stable_parse (s : String) : Stable (parse s).items := by
  obtain ⟨d, htext, hlawful⟩ := Division.exists_lawful s.toList
  have hitems := (Division.reads_parse hlawful htext).items
  rw [hitems, Division.fragments, List.filterMap_append, lefts_wordFragments]
  exact (stable_of_lawful hlawful _ 0).1

/-- A format printed with single blanks between its items is read as these items and nothing else,
and its plan renders what the plan of the format renders. -/
theorem parse_print_parse (s : String) :
    parse (print (parse s).items) = ⟨(parse s).items, (parse s).hasIncoming, []⟩ ∧
      ∀ (c : Compiler) (phase : Phase) (moment : Moment) (context : Context),
        (c.build (print (parse s).items)).render phase moment context =
          (c.build s).render phase moment context := by
  have hstable := stable_parse s
  have hone : (parse s).items.countP Item.isIncoming + false.toNat ≤ 1 := countP_parse_le s
  have hparse : parse (print (parse s).items) = ⟨(parse s).items, (parse s).hasIncoming, []⟩ := by
    rw [parse_print, ← Division.text_ofItems, Division.scan_text (Division.lawful_ofItems hstable),
      Division.read_ofItems hstable hone, Bool.false_or, any_isIncoming]
  refine ⟨hparse, ?_⟩
  intro c phase moment context
  simp only [Compiler.build, Compiler.compile, hparse]

/-- Neither the lone colon nor the open bracket finds a new end. -/
example : print (parse "x:nope\t: y:[ sta tus ]:[]:[z").items = "x : y :[status] :[]:[z" := by
  decide +kernel

end Format

end AccessLog
