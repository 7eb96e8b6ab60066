import AccessLog.Format.Item
import AccessLog.Proofs.Format.Grammar

/-!
What a format string means, told by its division. Gaps give their words. A shape gives the item that
it spells, blanks aside; shapes that spell nothing are dropped, and so is every `:incoming` after the
first. `Format.parse` is that reading, and nothing of the string is lost by it except blanks.
-/
namespace AccessLog

/-- How a token is written. -/
def Token.spelling (t : Token) (bracketed : Bool) : String :=
  if bracketed then ":[" ++ t.name ++ "]" else ":" ++ t.name

theorem Token.bracket_not_mem_name (t : Token) : '[' ∉ t.name.toList := by
  cases t <;> decide

namespace Format

namespace Item

def spelling : Item → String
  | .literal text => text
  | .token t bracketed => t.spelling bracketed

/-- Every token, bare and in brackets. -/
def vocabulary : List Item := Token.all.flatMap fun t => [.token t false, .token t true]

/-- The item that a shape spells, blanks aside. -/
def ofShape? (shape : List Char) : Option Item :=
  vocabulary.find? (·.spelling.toList = Text.squeeze shape)

theorem mem_vocabulary_iff (item : Item) :
    item ∈ vocabulary ↔ ∃ t bracketed, item = .token t bracketed := by
  constructor
  · intro h
    obtain ⟨t, _, h⟩ := List.mem_flatMap.mp h
    rcases List.mem_cons.mp h with rfl | h
    · exact ⟨t, false, rfl⟩
    · exact ⟨t, true, List.mem_singleton.mp h⟩
  · rintro ⟨t, bracketed, rfl⟩
    cases t <;> cases bracketed <;> decide

theorem spelling_ofShape? {shape : List Char} {item : Item} (h : ofShape? shape = some item) :
    item.spelling.toList = Text.squeeze shape := by
  simpa using List.find?_some h

end Item

@[simp] theorem toList_spelling_true (t : Token) :
    (t.spelling true).toList = ':' :: '[' :: (t.name.toList ++ [']']) := by
  simp [Token.spelling]

@[simp] theorem toList_spelling_false (t : Token) :
    (t.spelling false).toList = ':' :: t.name.toList := by
  simp [Token.spelling]

theorem squeeze_bracketed (inner : List Char) :
    Text.squeeze (':' :: '[' :: (inner ++ [']'])) = ':' :: '[' :: (Text.squeeze inner ++ [']']) := by
  simp [Text.squeeze, Text.isBlank]

theorem squeeze_bare (name : List Char) :
    Text.squeeze (':' :: name) = ':' :: Text.squeeze name := by
  simp [Text.squeeze, Text.isBlank]

theorem bracket_not_mem_squeeze {name : List Char} (hall : ∀ c ∈ name, NameChar c) :
    '[' ∉ Text.squeeze name := fun hmem =>
  not_nameChar_bracket (hall _ (List.mem_filter.mp hmem).1)

theorem readLexeme_bracketed (inner : List Char) :
    readLexeme (Text.squeeze (':' :: '[' :: (inner ++ [']']))) =
      (true, String.ofList (Text.squeeze inner)) := by
  rw [squeeze_bracketed]
  simp [readLexeme]

theorem readLexeme_bare {name : List Char} (hall : ∀ c ∈ name, NameChar c) :
    readLexeme (Text.squeeze (':' :: name)) = (false, String.ofList (Text.squeeze name)) := by
  rw [squeeze_bare, readLexeme.eq_def]
  split
  · next inner heq =>
    have hbare := bracket_not_mem_squeeze hall
    rw [(List.cons.inj heq).2] at hbare
    exact absurd List.mem_cons_self hbare
  · rfl

/-- The token and the brackets that a shape is read as are the ones that spell it. -/
theorem spelling_eq_iff {shape rest : List Char} (h : Shape shape rest) (t : Token)
    (bracketed : Bool) :
    (t.spelling bracketed).toList = Text.squeeze shape ↔
      bracketed = (readLexeme (Text.squeeze shape)).1 ∧
        t.name = (readLexeme (Text.squeeze shape)).2 := by
  cases h with
  | bracketed inner _ hne hclosed =>
    rw [readLexeme_bracketed, squeeze_bracketed]
    cases bracketed with
    | false =>
      constructor
      · intro heq
        have hname := t.bracket_not_mem_name
        rw [toList_spelling_false] at heq
        rw [(List.cons.inj heq).2] at hname
        exact absurd List.mem_cons_self hname
      · rintro ⟨hb, _⟩
        cases hb
    | true => simp [← String.toList_inj]
  | bare name _ hne hall hmax =>
    rw [readLexeme_bare hall, squeeze_bare]
    cases bracketed with
    | false => simp [← String.toList_inj]
    | true =>
      constructor
      · intro heq
        have hbare := bracket_not_mem_squeeze hall
        rw [toList_spelling_true] at heq
        rw [← (List.cons.inj heq).2] at hbare
        exact absurd List.mem_cons_self hbare
      · rintro ⟨hb, _⟩
        cases hb

/-- What the item of a shape is looked up by: the name that is read off it. -/
theorem ofShape?_eq {shape rest : List Char} (h : Shape shape rest) :
    Item.ofShape? shape =
      (Token.ofName? (readLexeme (Text.squeeze shape)).2).map
        (Item.token · (readLexeme (Text.squeeze shape)).1) := by
  have hspell := spelling_eq_iff h
  generalize readLexeme (Text.squeeze shape) = lexeme at hspell
  obtain ⟨bracketed, name⟩ := lexeme
  cases hn : Token.ofName? name with
  | none =>
    refine List.find?_eq_none.mpr ?_
    intro item hmem
    obtain ⟨t, b, rfl⟩ := (Item.mem_vocabulary_iff item).mp hmem
    intro heq
    obtain ⟨_, rfl⟩ := (hspell t b).mp (of_decide_eq_true heq)
    rw [Token.ofName?_name] at hn
    cases hn
  | some t =>
    have hitem : (Item.token t bracketed).spelling.toList = Text.squeeze shape :=
      (hspell t bracketed).mpr ⟨rfl, Token.name_of_ofName? hn⟩
    cases hf : Item.ofShape? shape with
    | none =>
      have := List.find?_eq_none.mp hf _ ((Item.mem_vocabulary_iff _).mpr ⟨t, bracketed, rfl⟩)
      simp [hitem] at this
    | some item =>
      obtain ⟨t', b', rfl⟩ := (Item.mem_vocabulary_iff item).mp (List.mem_of_find?_eq_some hf)
      obtain ⟨rfl, hname⟩ := (hspell t' b').mp (Item.spelling_ofShape? hf)
      rw [← show t'.name = name from hname, Token.ofName?_name] at hn
      cases hn
      rfl

/-- One shape is read: it is dropped, or it gives its item. -/
theorem read_shape {shape rest : List Char} (h : Shape shape rest) (seen : Bool)
    (ps : List Piece) :
    read seen (.lexeme shape :: ps) =
      match Item.ofShape? shape with
      | none =>
        { read seen ps with
          dropped := String.ofList (Text.squeeze shape) :: (read seen ps).dropped }
      | some item =>
        if item.isIncoming && seen then
          { read seen ps with
            dropped := String.ofList (Text.squeeze shape) :: (read seen ps).dropped }
        else
          { read (seen || item.isIncoming) ps with
            items := item :: (read (seen || item.isIncoming) ps).items } := by
  rw [ofShape?_eq h, read]
  generalize readLexeme (Text.squeeze shape) = lexeme
  obtain ⟨bracketed, name⟩ := lexeme
  dsimp only
  cases Token.ofName? name with
  | none => rfl
  | some t => cases t <;> cases seen <;> rfl

/-- The words of a gap, as items. -/
def literals (gap : List Char) : List Item :=
  ((gap.splitOnP Text.isBlank).filter (!·.isEmpty)).map (.literal ∘ String.ofList)

theorem words_eq (cs : List Char) :
    Text.words cs = (cs.splitOnP Text.isBlank).filter (!·.isEmpty) := by
  induction cs with
  | nil => simp [Text.words]
  | cons c cs ih =>
    cases hc : Text.isBlank c with
    | true => simp [Text.words_blank hc, List.splitOnP_cons_eq_if_modifyHead, hc, ih]
    | false =>
      cases cs with
      | nil => simp [Text.words, List.splitOnP_cons_eq_if_modifyHead, hc]
      | cons d cs =>
        cases hd : Text.isBlank d with
        | true =>
          rw [Text.words_blank hd] at ih
          simp [Text.words, List.splitOnP_cons_eq_if_modifyHead, hc, hd, ih]
        | false =>
          obtain ⟨w, ws, hw⟩ := List.exists_cons_of_ne_nil (List.splitOnP_ne_nil Text.isBlank cs)
          have hwords : Text.words (d :: cs) = (d :: w) :: ws.filter (!·.isEmpty) := by
            rw [ih]
            simp [List.splitOnP_cons_eq_if_modifyHead, hd, hw]
          rw [Text.words, hwords]
          simp [List.splitOnP_cons_eq_if_modifyHead, hc, hd, hw]

/-- A gap is read: its words come first. -/
theorem read_gap (seen : Bool) (gap : List Char) (ps : List Piece) :
    read seen (Division.gapPieces gap ++ ps) =
      { read seen ps with items := literals gap ++ (read seen ps).items } := by
  cases gap with
  | nil => simp [Division.gapPieces, literals]
  | cons c gap =>
    have hcons : Division.gapPieces (c :: gap) ++ ps = .plain (c :: gap) :: ps := rfl
    rw [hcons, read, words_eq]
    rfl

@[simp] theorem countP_literals (gap : List Char) :
    (literals gap).countP Item.isIncoming = 0 := by
  rw [List.countP_eq_zero]
  intro item hmem
  obtain ⟨word, _, rfl⟩ := List.mem_map.mp hmem
  exact Bool.false_ne_true

/-- Once it is up, the flag stays. -/
theorem hasIncoming_read {seen : Bool} (hseen : seen = true) (ps : List Piece) :
    (read seen ps).hasIncoming = true := by
  fun_induction read seen ps with
  | case1 seen => exact hseen
  | case2 seen cs ps rest ih => exact ih hseen
  | case3 seen cs ps lexeme bracketed name hread hname rest ih => exact ih hseen
  | case4 seen cs ps lexeme bracketed name hread t hname hagain rest ih => exact ih hseen
  | case5 seen cs ps lexeme bracketed name hread t hname hfirst rest ih =>
    exact ih (by rw [hseen, Bool.true_or])

/-- The flag of a format agrees with its items, of which one at most is `:incoming`. -/
theorem countP_read (seen : Bool) (ps : List Piece) :
    (read seen ps).items.countP Item.isIncoming =
      if (read seen ps).hasIncoming && !seen then 1 else 0 := by
  have hplain : ∀ cs, ((Text.words cs).map (Item.literal ∘ String.ofList)).countP
      Item.isIncoming = 0 := by
    intro cs
    rw [words_eq]
    exact countP_literals cs
  fun_induction read seen ps with
  | case1 seen => simp
  | case2 seen cs ps rest ih => simp [hplain, rest, ih]
  | case3 seen cs ps lexeme bracketed name hread hname rest ih => exact ih
  | case4 seen cs ps lexeme bracketed name hread t hname hagain rest ih => exact ih
  | case5 seen cs ps lexeme bracketed name hread t hname hfirst rest ih =>
    rw [List.countP_cons]
    by_cases ht : t = .incoming
    · have hseen : seen = false := by simpa [ht] using hfirst
      have hflag : rest.hasIncoming = true := hasIncoming_read (by simp [ht]) ps
      rw [ih, hflag]
      simp [ht, hseen, Item.isIncoming]
    · have hother : (Item.token t bracketed).isIncoming = false := by
        cases t <;> first | rfl | exact absurd rfl ht
      rw [ih, hother]
      simp [ht, rest]

/-- What a format string has at a place: an item, or a shape that is dropped. -/
abbrev Fragment := Item ⊕ String

def Fragment.chars : Fragment → List Char
  | .inl item => item.spelling.toList
  | .inr shape => shape.toList

/-- The fragment that a shape gives, where `first` is the place of the first `:incoming`. -/
def Fragment.ofShape (first place : Nat) (shape : List Char) : Fragment :=
  match Item.ofShape? shape with
  | some item =>
    if item.isIncoming && place ≠ first then .inr (String.ofList (Text.squeeze shape))
    else .inl item
  | none => .inr (String.ofList (Text.squeeze shape))

theorem Fragment.chars_ofShape (first place : Nat) (shape : List Char) :
    (ofShape first place shape).chars = Text.squeeze shape := by
  unfold ofShape
  split
  · next item hitem =>
    split
    · exact String.toList_ofList
    · exact Item.spelling_ofShape? hitem
  · exact String.toList_ofList

/-- The words of a gap, as fragments. -/
def wordFragments (gap : List Char) : List Fragment := (literals gap).map .inl

@[simp] theorem lefts_wordFragments (gap : List Char) :
    (wordFragments gap).filterMap Sum.getLeft? = literals gap := by
  simp [wordFragments, List.filterMap_map, Function.comp_def]

@[simp] theorem rights_wordFragments (gap : List Char) :
    (wordFragments gap).filterMap Sum.getRight? = [] := by
  simp [wordFragments, List.filterMap_map, Function.comp_def]

theorem flatMap_wordFragments (gap : List Char) :
    (wordFragments gap).flatMap Fragment.chars = Text.squeeze gap := by
  rw [← Text.flatten_words, words_eq]
  simp [wordFragments, literals, List.flatMap_def, Function.comp_def, Fragment.chars,
    Item.spelling]

namespace Division

/-- Whether a token places the connector, if it is the first that does. -/
def placesConnector (token : List Char × List Char) : Bool :=
  (Item.ofShape? token.1).any Item.isIncoming

def firstIncoming (d : Division) : Nat := d.tokens.findIdx placesConnector

def tokenFragments (first place : Nat) (tokens : List (List Char × List Char)) :
    List Fragment :=
  (tokens.zipIdx place).flatMap fun (token, place) =>
    Fragment.ofShape first place token.1 :: wordFragments token.2

@[simp] theorem tokenFragments_cons (first place : Nat) (t gap : List Char)
    (tokens : List (List Char × List Char)) :
    tokenFragments first place ((t, gap) :: tokens) =
      Fragment.ofShape first place t ::
        (wordFragments gap ++ tokenFragments first (place + 1) tokens) := by
  simp [tokenFragments]

/-- The words of the gaps and what the shapes give, all in place. -/
def fragments (d : Division) : List Fragment :=
  wordFragments d.lead ++ tokenFragments d.firstIncoming 0 d.tokens

/-- A format that has the given fragments. -/
structure Reads (fragments : List Fragment) (f : Format) : Prop where
  items : f.items = fragments.filterMap Sum.getLeft?
  dropped : f.dropped = fragments.filterMap Sum.getRight?

theorem Reads.keep {fragments : List Fragment} {f : Format} (h : Reads fragments f)
    (item : Item) : Reads (.inl item :: fragments) { f with items := item :: f.items } :=
  ⟨congrArg (item :: ·) h.items, h.dropped⟩

theorem Reads.drop {fragments : List Fragment} {f : Format} (h : Reads fragments f)
    (shape : String) : Reads (.inr shape :: fragments) { f with dropped := shape :: f.dropped } :=
  ⟨h.items, congrArg (shape :: ·) h.dropped⟩

theorem Reads.gap {fragments : List Fragment} {seen : Bool} {ps : List Piece}
    (h : Reads fragments (read seen ps)) (gap : List Char) :
    Reads (wordFragments gap ++ fragments) (read seen (gapPieces gap ++ ps)) := by
  rw [read_gap]
  constructor
  · rw [List.filterMap_append, lefts_wordFragments, ← h.items]
  · rw [List.filterMap_append, rights_wordFragments, ← h.dropped]
    rfl

/-- A shape is read where `seen` agrees with its place about an `:incoming` that lies behind. -/
theorem Reads.shape {fragments : List Fragment} {seen : Bool} {ps : List Piece}
    {token : List Char × List Char} {rest : List Char} {first place : Nat}
    (hshape : Shape token.1 rest)
    (hagree : placesConnector token = true → (seen = true ↔ place ≠ first))
    (h : Reads fragments (read (seen || placesConnector token) ps)) :
    Reads (Fragment.ofShape first place token.1 :: fragments)
      (read seen (.lexeme token.1 :: ps)) := by
  rw [read_shape hshape, Fragment.ofShape]
  unfold placesConnector at h hagree
  cases hitem : Item.ofShape? token.1 with
  | none =>
    rw [hitem, Option.any_none, Bool.or_false] at h
    exact h.drop _
  | some item =>
    rw [hitem, Option.any_some] at h hagree
    cases hinc : item.isIncoming with
    | false =>
      rw [hinc] at h
      simp only [hinc, Bool.false_and, Bool.false_eq_true, if_false]
      exact h.keep item
    | true =>
      rw [hinc] at h
      cases seen with
      | true =>
        have hne : place ≠ first := (hagree hinc).mp rfl
        simp only [hinc, hne, ne_eq, not_false_eq_true, decide_true, Bool.and_self, if_true]
        exact h.drop _
      | false =>
        have heq : ¬ place ≠ first := fun hne => Bool.false_ne_true ((hagree hinc).mpr hne)
        simp only [hinc, heq, decide_false, Bool.and_false, Bool.false_eq_true, if_false]
        exact h.keep item

/-- Reading on from a place: `seen` tells whether the first `:incoming` lies behind. -/
theorem read_tokens {tokens : List (List Char × List Char)}
    (hshape : ∀ token ∈ tokens, ∃ rest, Shape token.1 rest) {seen : Bool} {first place : Nat}
    (hbehind : seen = true → first < place)
    (hahead : seen = false → first = place + tokens.findIdx placesConnector) :
    Reads (tokenFragments first place tokens) (read seen (tokenPieces tokens)) := by
  induction tokens generalizing seen place with
  | nil => exact ⟨rfl, rfl⟩
  | cons token tokens ih =>
    obtain ⟨rest, hhere⟩ := hshape token List.mem_cons_self
    rw [List.findIdx_cons] at hahead
    -- the connector is placed here if this token asks for it and none lies behind
    have hfirst : seen = false → placesConnector token = true → first = place := by
      intro hs hp
      rw [hahead hs, hp, cond_true, Nat.add_zero]
    have hbehind' : (seen || placesConnector token) = true → first < place + 1 := by
      intro h
      cases hs : seen with
      | true => exact Nat.lt_succ_of_lt (hbehind hs)
      | false =>
        rw [hs, Bool.false_or] at h
        exact Nat.lt_succ_of_le (Nat.le_of_eq (hfirst hs h))
    have hahead' : (seen || placesConnector token) = false →
        first = place + 1 + tokens.findIdx placesConnector := by
      intro h
      obtain ⟨hs, hp⟩ := Bool.or_eq_false_iff.mp h
      rw [hahead hs, hp, cond_false]
      omega
    rw [tokenPieces_cons, tokenFragments_cons]
    refine Reads.shape hhere ?_ (Reads.gap (ih ?_ hbehind' hahead') token.2)
    · intro hp
      constructor
      · intro hs
        exact Nat.ne_of_gt (hbehind hs)
      · intro hne
        cases hs : seen with
        | true => rfl
        | false => exact absurd (hfirst hs hp).symm hne
    · intro token' hmem
      exact hshape token' (List.mem_cons_of_mem _ hmem)

/-- A format string is read as its lawful division says. -/
theorem reads_parse {d : Division} (h : d.Lawful) {s : String} (hs : d.text = s.toList) :
    Reads d.fragments (parse s) := by
  have hshape : ∀ token ∈ d.tokens, ∃ rest, Shape token.1 rest := by
    intro token hmem
    obtain ⟨before, after, heq⟩ := List.append_of_mem hmem
    exact ⟨_, (h.tokens before token.1 token.2 after heq).1⟩
  have htokens : Reads (tokenFragments d.firstIncoming 0 d.tokens)
      (read false (tokenPieces d.tokens)) :=
    read_tokens hshape nofun (fun _ => (Nat.zero_add _).symm)
  rw [parse, ← hs, scan_text h]
  exact htokens.gap d.lead

/-- Together the fragments are the text without its blanks. -/
theorem flatMap_fragments (d : Division) :
    d.fragments.flatMap Fragment.chars = Text.squeeze d.text := by
  have htokens : ∀ first place tokens,
      (tokenFragments first place tokens).flatMap Fragment.chars =
        Text.squeeze (written tokens) := by
    intro first place tokens
    induction tokens generalizing place with
    | nil => rfl
    | cons token tokens ih =>
      rw [tokenFragments_cons, List.flatMap_cons, List.flatMap_append, Fragment.chars_ofShape,
        flatMap_wordFragments, ih (place + 1)]
      simp [written, Text.squeeze]
  rw [fragments, List.flatMap_append, flatMap_wordFragments, htokens]
  simp [text, Text.squeeze]

end Division

theorem countP_parse (s : String) :
    (parse s).items.countP Item.isIncoming = if (parse s).hasIncoming then 1 else 0 := by
  rw [parse, countP_read, Bool.not_false, Bool.and_true]

theorem countP_parse_le (s : String) : (parse s).items.countP Item.isIncoming ≤ 1 := by
  rw [countP_parse]
  split <;> decide

theorem hasIncoming_iff (s : String) :
    (parse s).hasIncoming = true ↔ (parse s).items.countP Item.isIncoming = 1 := by
  rw [countP_parse]
  cases (parse s).hasIncoming <;> decide

theorem any_isIncoming (s : String) :
    (parse s).items.any Item.isIncoming = (parse s).hasIncoming := by
  rw [Bool.eq_iff_iff, List.any_eq_true, ← List.countP_pos_iff, countP_parse]
  cases (parse s).hasIncoming <;> decide

/-- Every character of an item stands in the format string. -/
theorem mem_of_mem_spelling {s : String} {item : Item} (hitem : item ∈ (parse s).items) {c : Char}
    (hc : c ∈ item.spelling.toList) : c ∈ s.toList := by
  obtain ⟨d, htext, hlawful⟩ := Division.exists_lawful s.toList
  rw [(Division.reads_parse hlawful htext).items, List.mem_filterMap] at hitem
  obtain ⟨fragment, hfragment, hleft⟩ := hitem
  obtain rfl : fragment = .inl item := Sum.getLeft?_eq_some_iff.mp hleft
  have hmem : c ∈ d.fragments.flatMap Fragment.chars := List.mem_flatMap.mpr ⟨_, hfragment, hc⟩
  rw [Division.flatMap_fragments, htext] at hmem
  exact (List.mem_filter.mp hmem).1

/-- A shape that spells a bracketed item starts with a bracket, and no other does. -/
theorem bracketed_iff {shape rest : List Char} (h : Shape shape rest) {t : Token}
    {bracketed : Bool} (hitem : Item.ofShape? shape = some (.token t bracketed)) :
    bracketed = true ↔ [':', '['] <+: shape := by
  have hread := ((spelling_eq_iff h t bracketed).mp (Item.spelling_ofShape? hitem)).1
  cases h with
  | bracketed inner _ hne hclosed =>
    rw [readLexeme_bracketed] at hread
    simp [hread]
  | bare name _ hne hall hmax =>
    obtain ⟨c, name, rfl⟩ := List.exists_cons_of_ne_nil hne
    have hc : '[' ≠ c := (head_ne_bracket hall).symm
    rw [readLexeme_bare hall] at hread
    simp [hread, hc]

/-- A format string divides in exactly one way into shapes of tokens and gaps in which none begins.
What it means is read off this division. -/
theorem parse_by_division (s : String) :
    ∃ d : Division, (d.text = s.toList ∧ d.Lawful) ∧
      (∀ d' : Division, d'.text = s.toList → d'.Lawful → d' = d) ∧
      (parse s).items = d.fragments.filterMap Sum.getLeft? ∧
      (parse s).dropped = d.fragments.filterMap Sum.getRight? ∧
      (∀ token ∈ d.tokens, ∀ t bracketed,
        Item.ofShape? token.1 = some (.token t bracketed) →
          (bracketed = true ↔ [':', '['] <+: token.1)) ∧
      ((parse s).hasIncoming = true ↔ (parse s).items.countP Item.isIncoming = 1) ∧
      d.fragments.flatMap Fragment.chars = Text.squeeze s.toList := by
  obtain ⟨d, htext, hlawful⟩ := Division.exists_lawful s.toList
  have hreads := Division.reads_parse hlawful htext
  refine ⟨d, ⟨htext, hlawful⟩, ?_, hreads.items, hreads.dropped, ?_, hasIncoming_iff s, ?_⟩
  · intro d' htext' hlawful'
    exact Division.lawful_unique hlawful' hlawful (by rw [htext', htext])
  · intro token hmem t bracketed hitem
    obtain ⟨before, after, heq⟩ := List.append_of_mem hmem
    exact bracketed_iff (hlawful.tokens before token.1 token.2 after heq).1 hitem
  · rw [Division.flatMap_fragments, htext]

/-- Blanks inside brackets do not count, and the second `:incoming` goes with the unknown name. -/
example : parse "a :[ sta tus ]b:nope:incoming :[incoming]" =
    ⟨[.literal "a", .token .status true, .literal "b", .token .incoming false], true,
      [":nope", ":[incoming]"]⟩ := by cbv

end Format

end AccessLog
