import AccessLog.Proofs.Palette.Sequence
import AccessLog.Proofs.Plan.Filling
import AccessLog.Proofs.Plan.Reading

/-!
Colour is decoration. The words of a line with colours and those of the same line without are related
one by one: each is left as it is or painted as a whole. So the line with colours, freed of its
escape sequences, is the line without, and no colour reaches beyond its segment.
-/
namespace AccessLog

open Color (escape strip)

/-- A word as it stands in a line with colours, and as it stands in the line without. -/
inductive Word.Dressed : Word → Word → Prop
  | bare (text : String) : escape ∉ text.toList → Dressed (.fixed text) (.fixed text)
  | fixed (color : Color) (text : String) : escape ∉ text.toList →
      Dressed (.fixed (color.paint true text)) (.fixed text)
  | value (color : Color) (text : String) : escape ∉ text.toList →
      Dressed (.value (color.paint true text)) (.value text)

namespace Word.Dressed

variable {w w' : Word} {ws ws' : List Word}

theorem not_mem (h : Dressed w w') : escape ∉ w'.text.toList := by
  cases h <;> assumption

theorem strip_text (h : Dressed w w') (rest : List Char) :
    strip (w.text.toList ++ rest) = w'.text.toList ++ strip rest := by
  cases h with
  | bare text hmem => exact Color.strip_append hmem rest
  | fixed color text hmem => exact Color.strip_paint hmem color rest
  | value color text hmem => exact Color.strip_paint hmem color rest

theorem plain_text (h : Dressed w w') : Color.plain w.text = w'.text := by
  have hstrip := h.strip_text []
  rw [List.append_nil, Color.strip_nil, List.append_nil] at hstrip
  rw [Color.plain, hstrip, String.ofList_toList]

theorem closed (h : Dressed w w') : Color.Closed w.text.toList := by
  cases h with
  | bare text hmem => exact Color.closed_of_not_mem hmem
  | fixed color text hmem => exact Color.closed_paint hmem color
  | value color text hmem => exact Color.closed_paint hmem color

theorem plain_texts (h : List.Forall₂ Dressed ws ws') :
    (ws.map Word.text).map Color.plain = ws'.map Word.text := by
  induction h with
  | nil => rfl
  | cons hw hws ih => exact congrArg₂ List.cons hw.plain_text ih

theorem closed_texts (h : List.Forall₂ Dressed ws ws') :
    ∀ text ∈ ws.map Word.text, Color.Closed text.toList := by
  induction h with
  | nil => nofun
  | cons hw hws ih => exact List.forall_mem_cons.mpr ⟨hw.closed, ih⟩

/-- The words of a line stay apart when it is freed of its colours. -/
theorem strip_join (h : List.Forall₂ Dressed ws ws') :
    strip (" ".intercalate (ws.map Word.text)).toList =
      (" ".intercalate (ws'.map Word.text)).toList := by
  induction h with
  | nil => exact Color.strip_nil
  | @cons w w' ws ws' hw hws ih =>
    cases hws with
    | nil =>
      have hlast := hw.strip_text []
      rw [List.append_nil, Color.strip_nil, List.append_nil] at hlast
      simpa using hlast
    | cons hnext hlater =>
      simp only [List.map_cons, String.intercalate_cons_cons, String.toList_append,
        List.append_assoc] at ih ⊢
      rw [hw.strip_text, Color.strip_append (by decide), ih]

theorem plain_join (h : List.Forall₂ Dressed ws ws') :
    Color.plain (" ".intercalate (ws.map Word.text)) = " ".intercalate (ws'.map Word.text) := by
  rw [Color.plain, strip_join h, String.ofList_toList]

theorem not_mem_join (h : List.Forall₂ Dressed ws ws') :
    escape ∉ (" ".intercalate (ws'.map Word.text)).toList := by
  induction h with
  | nil => exact List.not_mem_nil
  | cons hw hws ih =>
    cases hws with
    | nil => simpa using hw.not_mem
    | cons hnext hlater =>
      have hblank : escape ∉ " ".toList := by decide
      simp only [List.map_cons, String.intercalate_cons_cons, String.toList_append,
        List.mem_append, not_or] at ih ⊢
      exact ⟨⟨hw.not_mem, hblank⟩, ih⟩

/-- The values among the words are dressed as well. -/
theorem values (h : List.Forall₂ Dressed ws ws') :
    (ws.filterMap Word.value?).map Color.plain = ws'.filterMap Word.value? ∧
      ∀ arg ∈ ws'.filterMap Word.value?, escape ∉ arg.toList := by
  induction h with
  | nil => exact ⟨rfl, nofun⟩
  | cons hw hws ih =>
    have hplain := hw.plain_text
    have hmem := hw.not_mem
    cases hw with
    | bare => exact ih
    | fixed => exact ih
    | value color text =>
      refine ⟨congrArg₂ List.cons hplain ih.1, ?_⟩
      intro arg harg
      rcases List.mem_cons.mp harg with rfl | harg
      · exact hmem
      · exact ih.2 arg harg

end Word.Dressed

/-- Nothing that goes into a line holds the escape character: not the format, not a value of its
fields, and not the scheme where it is shown. -/
structure Unescaped (format : String) (banner : Bool) (phase : Phase) (moment : Moment)
    (context : Context) : Prop where
  fields : ∀ t bracketed, .token t bracketed ∈ (Format.parse format).items →
    t ∈ Token.ofPhase phase → ∀ v, Field.value moment context t = .ok v → escape ∉ v.text.toList
  format : escape ∉ format.toList
  scheme : banner = true → escape ∉ (Text.capitals context.request.scheme).toList

/-- Neither the item nor, in a line that it belongs to, its value holds the escape character. -/
def Format.Item.Unescaped (phase : Phase) (moment : Moment) (context : Context) : Item → Prop
  | .literal text => escape ∉ text.toList
  | .token t _ =>
    t ∈ Token.ofPhase phase → ∀ v, Field.value moment context t = .ok v → escape ∉ v.text.toList

theorem Unescaped.item {format : String} {banner : Bool} {phase : Phase} {moment : Moment}
    {context : Context} (h : Unescaped format banner phase moment context) :
    ∀ item ∈ (Format.parse format).items, item.Unescaped phase moment context := by
  intro item hitem
  cases item with
  | literal text => exact fun hmem => h.format (Format.mem_of_mem_spelling hitem hmem)
  | token t bracketed => exact h.fields t bracketed hitem

namespace Compiler

open Format (Item)

variable {banner alwaysConnector : Bool} {phase : Phase} {moment : Moment} {context : Context}

/-- The two ways to compile, with colours and without. -/
abbrev painted (banner alwaysConnector : Bool) : Compiler := ⟨true, banner, alwaysConnector⟩

abbrev unpainted (banner alwaysConnector : Bool) : Compiler := ⟨false, banner, alwaysConnector⟩

theorem dressed_markWord : Word.Dressed ((painted banner alwaysConnector).markWord phase context)
    ((unpainted banner alwaysConnector).markWord phase context) := by
  refine .fixed _ _ ?_
  cases phase with
  | request => exact (by decide : escape ∉ "<--".toList)
  | response =>
    rw [mark]
    cases Verdict.of context <;> decide

theorem dressed_openingWords (f : Format) :
    List.Forall₂ Word.Dressed ((painted banner alwaysConnector).openingWords phase context f)
      ((unpainted banner alwaysConnector).openingWords phase context f) := by
  unfold openingWords
  split
  · refine .cons (.fixed _ _ ?_) .nil
    cases phase <;> decide
  · split
    · exact .cons dressed_markWord .nil
    · exact .nil

theorem dressed_bannerWords
    (h : banner = true → escape ∉ (Text.capitals context.request.scheme).toList) :
    List.Forall₂ Word.Dressed ((painted banner alwaysConnector).bannerWords context)
      ((unpainted banner alwaysConnector).bannerWords context) := by
  unfold bannerWords
  split
  · next hbanner =>
    have hscheme := h hbanner
    have hblank : escape ∉ " ".toList := by decide
    refine .cons (.fixed _ _ ?_) .nil
    simp only [String.toList_append, List.mem_append, not_or]
    exact ⟨⟨hblank, hscheme⟩, hblank⟩
  · exact .nil

/-- Both fail with the same fault, or both give words. -/
inductive Agree : Except Fault (List Word) → Except Fault (List Word) → Prop
  | error (e : Fault) : Agree (.error e) (.error e)
  | ok {ws ws' : List Word} : List.Forall₂ Word.Dressed ws ws' → Agree (.ok ws) (.ok ws')

theorem Agree.append {first first' rest rest' : Except Fault (List Word)}
    (hfirst : Agree first first') (hrest : Agree rest rest') :
    Agree (do let a ← first; let b ← rest; return a ++ b)
      (do let a ← first'; let b ← rest'; return a ++ b) := by
  cases hfirst with
  | error e => exact .error e
  | ok hfirst =>
    cases hrest with
    | error e => exact .error e
    | ok hrest => exact .ok (List.rel_append hfirst hrest)

theorem agree_words {item : Item} (h : item.Unescaped phase moment context) :
    Agree ((painted banner alwaysConnector).words phase moment context item)
      ((unpainted banner alwaysConnector).words phase moment context item) := by
  cases item with
  | literal text => exact .ok (.cons (.bare text h) .nil)
  | token t bracketed =>
    by_cases ht : t = .incoming
    · subst ht
      exact .ok (.cons dressed_markWord .nil)
    · by_cases hp : t ∈ Token.ofPhase phase
      · simp only [words, ht, hp, if_false, if_true, valueWord]
        cases hv : Field.value moment context t with
        | error e => exact .error e
        | ok v =>
          have hvalue := h hp v hv
          have hbrackets : escape ∉ "[".toList ∧ escape ∉ "]".toList := by decide
          refine .ok (.cons (.value _ _ ?_) .nil)
          cases bracketed with
          | false => exact hvalue
          | true =>
            simp only [if_true, String.toList_append, List.mem_append, not_or]
            exact ⟨⟨hbrackets.1, hvalue⟩, hbrackets.2⟩
      · simp only [words, ht, hp, if_false]
        exact .ok .nil

theorem agree_allWords {items : List Item}
    (h : ∀ item ∈ items, item.Unescaped phase moment context) :
    Agree ((painted banner alwaysConnector).allWords phase moment context items)
      ((unpainted banner alwaysConnector).allWords phase moment context items) := by
  induction items with
  | nil => exact .ok .nil
  | cons item items ih =>
    rw [allWords, allWords]
    exact (agree_words (h item List.mem_cons_self)).append
      (ih fun other hother => h other (List.mem_cons_of_mem item hother))

/-- Words that a format string is compiled to, behind the opening and the banner. -/
def lineWords (c : Compiler) (phase : Phase) (context : Context) (format : String)
    (words : List Word) : List Word :=
  c.bannerWords context ++ (c.openingWords phase context (Format.parse format) ++ words)

theorem dressed_lineWords {format : String}
    (h : banner = true → escape ∉ (Text.capitals context.request.scheme).toList)
    {ws ws' : List Word} (hwords : List.Forall₂ Word.Dressed ws ws') :
    List.Forall₂ Word.Dressed ((painted banner alwaysConnector).lineWords phase context format ws)
      ((unpainted banner alwaysConnector).lineWords phase context format ws') :=
  List.rel_append (dressed_bannerWords h) (List.rel_append (dressed_openingWords _) hwords)

variable (c : Compiler) {format : String}

/-- The plan of a format string renders its words; they are the texts of its segments behind the
label, and the values among them are the arguments. -/
theorem render_of_allWords {ws : List Word}
    (h : c.allWords phase moment context (Format.parse format).items = .ok ws) :
    (c.build format).render phase moment context =
      .ok ⟨" ".intercalate ((c.lineWords phase context format ws).map Word.text),
        ws.filterMap Word.value?⟩ ∧
    Plan.label (c.build format).toParts context ++
        Plan.texts (c.build format).toParts phase context (ws.filterMap Word.value?) =
      (c.lineWords phase context format ws).map Word.text := by
  have hflag := (Format.any_isIncoming format).symm
  have hone := Format.countP_parse_le format
  constructor
  · rw [build, c.render_compile phase moment context hflag hone, line, h]
    simp only [bind, Except.bind, pure, Except.pure, lineWords, List.append_assoc,
      List.filterMap_append, values_bannerWords, values_openingWords, List.nil_append]
  · have hfill := c.fill_patched phase moment context hflag hone h
    have hlabel := c.label_eq context (Format.parse format).items
    rw [lineWords, List.map_append, ← hfill, ← hlabel]
    rfl

theorem render_of_fault {e : Fault}
    (h : c.allWords phase moment context (Format.parse format).items = .error e) :
    (c.build format).render phase moment context = .error e := by
  rw [build, c.render_compile phase moment context (Format.any_isIncoming format).symm
    (Format.countP_parse_le format), line, h]
  rfl

/-- A line with colours, freed of its escape sequences, is the line without colours, and so are its
arguments and its segments; the line without has no escape character at all; and each segment of the
line with colours takes back the colour that it sets. If a field fails, both lines fail with it. -/
theorem plain_of_painted (format : String) (banner alwaysConnector : Bool) (phase : Phase)
    (moment : Moment) (context : Context) (h : Unescaped format banner phase moment context) :
    let painted := (Compiler.mk true banner alwaysConnector).build format
    let unpainted := (Compiler.mk false banner alwaysConnector).build format
    (∃ e, painted.render phase moment context = .error e ∧
      unpainted.render phase moment context = .error e) ∨
    ∃ r r', painted.render phase moment context = .ok r ∧
      unpainted.render phase moment context = .ok r' ∧
      Color.plain r.line = r'.line ∧ r.args.map Color.plain = r'.args ∧
      escape ∉ r'.line.toList ∧ (∀ arg ∈ r'.args, escape ∉ arg.toList) ∧
      let segments := Plan.label painted.toParts context ++
        Plan.texts painted.toParts phase context r.args
      r.line = " ".intercalate segments ∧
        segments.map Color.plain = Plan.label unpainted.toParts context ++
          Plan.texts unpainted.toParts phase context r'.args ∧
        ∀ text ∈ segments, Color.Closed text.toList := by
  intro painted unpainted
  have hagree : Agree
      ((Compiler.painted banner alwaysConnector).allWords phase moment context
        (Format.parse format).items)
      ((Compiler.unpainted banner alwaysConnector).allWords phase moment context
        (Format.parse format).items) := agree_allWords h.item
  generalize hp : (Compiler.painted banner alwaysConnector).allWords phase moment context
    (Format.parse format).items = outcome at hagree
  generalize hu : (Compiler.unpainted banner alwaysConnector).allWords phase moment context
    (Format.parse format).items = outcome' at hagree
  cases hagree with
  | error e => exact .inl ⟨e, render_of_fault _ hp, render_of_fault _ hu⟩
  | @ok ws ws' hws =>
    obtain ⟨hrender, hsegments⟩ := render_of_allWords _ hp
    obtain ⟨hrender', hsegments'⟩ := render_of_allWords _ hu
    have hline : List.Forall₂ Word.Dressed
        ((Compiler.painted banner alwaysConnector).lineWords phase context format ws)
        ((Compiler.unpainted banner alwaysConnector).lineWords phase context format ws') :=
      dressed_lineWords h.scheme hws
    obtain ⟨hargs, hclean⟩ := Word.Dressed.values hws
    refine .inr ⟨_, _, hrender, hrender', Word.Dressed.plain_join hline, hargs,
      Word.Dressed.not_mem_join hline, hclean, ?_, ?_, ?_⟩
    · exact congrArg (" ".intercalate ·) hsegments.symm
    · exact (congrArg (List.map Color.plain) hsegments).trans
        ((Word.Dressed.plain_texts hline).trans hsegments'.symm)
    · intro text htext
      exact Word.Dressed.closed_texts hline text (hsegments ▸ htext)

/-- The response line of a request for a page that is not there: the banner, the title, the mark and
the status in brackets are painted, the word between is not. -/
theorem plain_of_painted_missing :
    let format := ":incoming said :[status]"
    let moment : Moment := ⟨.finite false 0 0, ⟨⟨2024, 3, 5⟩, 9, 7, 2, 0, 0⟩⟩
    let context : Context :=
      { request := { method := "GET", url := "/" }, response := ⟨some (.code 404), []⟩ }
    let painted := (Compiler.mk true true false).build format
    let unpainted := (Compiler.mk false true false).build format
    Unescaped format true .response moment context ∧
    ∃ r r', painted.render .response moment context = .ok r ∧
      unpainted.render .response moment context = .ok r' ∧
      r'.line = " HTTP  [OUTGOING] -X- said [404]" ∧ r.line ≠ r'.line ∧
      Color.plain r.line = r'.line ∧ r.args.map Color.plain = r'.args ∧
      ∀ text ∈ Plan.label painted.toParts context ++
        Plan.texts painted.toParts .response context r.args, Color.Closed text.toList := by
  intro format moment context painted unpainted
  have hitems : (Format.parse format).items =
      [.token .incoming false, .literal "said", .token .status true] := by decide +kernel
  have h : Unescaped format true .response moment context := by
    refine ⟨?_, by decide, fun _ => by decide⟩
    rw [hitems]
    intro t bracketed hitem hphase v hv
    simp only [List.mem_cons, Item.token.injEq, reduceCtorEq, List.not_mem_nil, or_false,
      false_or] at hitem
    rcases hitem with ⟨rfl, -⟩ | ⟨rfl, -⟩
    · exact absurd hphase (incoming_not_mem_ofPhase .response)
    · cases hv
      decide
  have hwords : ∀ c : Compiler, c.allWords .response moment context (Format.parse format).items =
      .ok [c.markWord .response context, .fixed "said",
        .value (Color.paint c.colors .yellow "[404]")] := by
    intro c
    rw [hitems]
    rfl
  have hflag : (Format.parse format).hasIncoming = true := by decide +kernel
  have hopening : ∀ c : Compiler, c.openingWords .response context (Format.parse format) =
      [.fixed (Color.paint c.colors .gray "[OUTGOING]")] := by
    intro c
    rw [openingWords, hflag]
    rfl
  obtain ⟨hrender, -⟩ := render_of_allWords ⟨true, true, false⟩ (hwords _)
  obtain ⟨hrender', -⟩ := render_of_allWords ⟨false, true, false⟩ (hwords _)
  rw [lineWords, hopening] at hrender hrender'
  rcases plain_of_painted format true false .response moment context h with
    ⟨e, -, he⟩ | ⟨r, r', hr, hr', hline, hargs, -, -, -, -, hclosed⟩
  · cases hrender'.symm.trans he
  · obtain rfl := Except.ok.inj (hrender.symm.trans hr)
    obtain rfl := Except.ok.inj (hrender'.symm.trans hr')
    refine ⟨h, _, _, hr, hr', by decide +kernel, by decide +kernel, hline, hargs, hclosed⟩

end Compiler

end AccessLog
