import AccessLog.Plan.Compiler
import AccessLog.Proofs.Format.Parse

/-!
What a compiler's plans render, told by the items of the format and by no segments, slots or place of
a connector. `Compiler.line` reads the items from left to right; `render_build` says that the plan of
a format string renders this line.
-/
namespace AccessLog

/-- How an exchange looks from its end. -/
inductive Verdict where
  | failed
  | gone
  | missing
  | fine
  deriving DecidableEq, Repr

namespace Verdict

/-- An error beats the client's leaving, and that beats the status. -/
def of (context : Context) : Verdict :=
  let status := (context.response.effectiveStatus none).value
  if context.error.isSome then failed
  else if context.outcome = some .close then gone
  else if 500 ≤ status then failed
  else if status = 404 then missing
  else fine

def sign : Verdict → String
  | failed => "xxx"
  | gone => "-x-"
  | missing => "-X-"
  | fine => "-->"

def color : Verdict → Color
  | failed => .red
  | gone => .yellow
  | missing => .cyan
  | fine => .gray

theorem connectorText_eq (colors : Bool) (context : Context) :
    Plan.connectorText colors context =
      Color.paint colors (of context).color (of context).sign := by
  unfold Plan.connectorText of
  dsimp only
  split
  · rfl
  · split
    · rfl
    · split
      · rfl
      · split <;> rfl

end Verdict

/-- A word of a line: it stands there as the format has it, or it is the value of a field. -/
inductive Word where
  | fixed (text : String)
  | value (text : String)

namespace Word

def text : Word → String
  | fixed text => text
  | value text => text

def value? : Word → Option String
  | fixed _ => none
  | value text => some text

/-- The segment that a word fills. -/
def segment : Word → Segment
  | fixed text => .literal text
  | value _ => .slot

/-- The values among the words find their way back into the slots. -/
theorem fill_segments (words : List Word) :
    Segment.fill (words.map segment) (words.filterMap value?) = words.map text := by
  induction words with
  | nil => rfl
  | cons word words ih =>
    cases word with
    | fixed text => exact congrArg (text :: ·) ih
    | value text => exact congrArg (text :: ·) ih

end Word

namespace Compiler

open Format (Item)

variable (c : Compiler) (phase : Phase) (moment : Moment) (context : Context)

/-- The mark of a line: an arrow where the request comes in, the verdict where the exchange is
over. -/
def mark : Phase → Color × String
  | .request => (.gray, "<--")
  | .response => ((Verdict.of context).color, (Verdict.of context).sign)

def markWord : Word := .fixed (Color.paint c.colors (mark context phase).1 (mark context phase).2)

/-- The value of a token as it is shown, or the fault of its field. -/
def valueWord (t : Token) (bracketed : Bool) : Except Fault Word :=
  match Field.value moment context t with
  | .error e => .error e
  | .ok v =>
    let text := if bracketed then "[" ++ v.text ++ "]" else v.text
    .ok (.value (Color.paint c.colors (v.color.getD t.color) text))

/-- The words of an item: a data token has one only in the lines that it belongs to. -/
def words : Item → Except Fault (List Word)
  | .literal text => .ok [.fixed text]
  | .token t bracketed =>
    if t = .incoming then .ok [c.markWord phase context]
    else if t ∈ Token.ofPhase phase then (c.valueWord moment context t bracketed).map ([·])
    else .ok []

/-- The words of the items from left to right, up to the first fault. -/
def allWords : List Item → Except Fault (List Word)
  | [] => .ok []
  | item :: items => do
    let first ← c.words phase moment context item
    let rest ← allWords items
    return first ++ rest

def title : Phase → String
  | .request => "[INCOMING]"
  | .response => "[OUTGOING]"

/-- The scheme in capitals. -/
def bannerWords : List Word :=
  if c.banner then
    [.fixed (Color.paint c.colors .banner (" " ++ Text.capitals context.request.scheme ++ " "))]
  else []

/-- What comes before the items: the title where they place the mark, and else the mark itself, if
at all. -/
def openingWords (f : Format) : List Word :=
  if f.hasIncoming then [.fixed (Color.paint c.colors .gray (title phase))]
  else if c.alwaysConnector then [c.markWord phase context]
  else []

/-- The line of a format, with the values of its fields. -/
def line (f : Format) : Except Fault Rendered := do
  let words ← c.allWords phase moment context f.items
  let line := c.bannerWords context ++ c.openingWords phase context f ++ words
  return ⟨" ".intercalate (line.map Word.text), line.filterMap Word.value?⟩

theorem incoming_not_mem_ofPhase : Token.incoming ∉ Token.ofPhase phase := by
  cases phase <;> decide

theorem renderer_eq (t : Token) (bracketed : Bool) :
    c.renderer t bracketed moment context =
      (c.valueWord moment context t bracketed).map Word.text := by
  unfold renderer valueWord
  cases Field.value moment context t <;> rfl

/-- A word that a field gives is a value. -/
theorem value?_valueWord {t : Token} {bracketed : Bool} {word : Word}
    (h : c.valueWord moment context t bracketed = .ok word) : word.value? = some word.text := by
  unfold valueWord at h
  split at h
  · cases h
  · cases h
    rfl

/-- The fields of an item give its values. -/
theorem mapM_fields (item : Item) :
    (c.fields phase item).mapM (fun field => field moment context) =
      (c.words phase moment context item).map (·.filterMap Word.value?) := by
  cases item with
  | literal text => rfl
  | token t bracketed =>
    by_cases ht : t = .incoming
    · subst ht
      simp only [fields, words, incoming_not_mem_ofPhase, if_false, if_true]
      rfl
    · by_cases hp : t ∈ Token.ofPhase phase
      · simp only [fields, words, ht, hp, if_false, if_true, List.mapM_cons, List.mapM_nil,
          renderer_eq]
        cases hw : c.valueWord moment context t bracketed with
        | error e => rfl
        | ok word =>
          have hvalues : [word].filterMap Word.value? = [word.text] := by
            rw [List.filterMap_cons, value?_valueWord c moment context hw]
            rfl
          exact congrArg Except.ok hvalues.symm
      · simp only [fields, words, ht, hp, if_false]
        rfl

theorem mapM_flatMap_fields (items : List Item) :
    (items.flatMap (c.fields phase)).mapM (fun field => field moment context) =
      (c.allWords phase moment context items).map (·.filterMap Word.value?) := by
  induction items with
  | nil => rfl
  | cons item items ih =>
    rw [List.flatMap_cons, List.mapM_append, ih, mapM_fields, allWords]
    cases c.words phase moment context item with
    | error e => rfl
    | ok first =>
      cases c.allWords phase moment context items with
      | error e => rfl
      | ok rest => exact congrArg Except.ok List.filterMap_append.symm

/-- The segments of an item, with the mark in its place. -/
def shown : Item → List Segment
  | .token .incoming _ => [(c.markWord phase context).segment]
  | item => c.segments phase item

variable {c phase moment context}

/-- The words of an item fill its segments. -/
theorem segments_words {item : Item} {ws : List Word}
    (h : c.words phase moment context item = .ok ws) :
    ws.map Word.segment = c.shown phase context item := by
  cases item with
  | literal text =>
    cases h
    rfl
  | token t bracketed =>
    by_cases ht : t = .incoming
    · subst ht
      cases h
      rfl
    · have hshown : c.shown phase context (.token t bracketed) =
          c.segments phase (.token t bracketed) := by
        cases t <;> first | rfl | exact absurd rfl ht
      rw [hshown]
      by_cases hp : t ∈ Token.ofPhase phase
      · simp only [words, ht, hp, if_false, if_true, valueWord] at h
        simp only [segments, ht, hp, if_false, if_true]
        cases hv : Field.value moment context t with
        | error e =>
          rw [hv] at h
          cases h
        | ok v =>
          rw [hv] at h
          cases h
          rfl
      · simp only [words, ht, hp, if_false] at h
        simp only [segments, ht, hp, if_false]
        cases h
        rfl

theorem segments_allWords {items : List Item} {ws : List Word}
    (h : c.allWords phase moment context items = .ok ws) :
    ws.map Word.segment = items.flatMap (c.shown phase context) := by
  induction items generalizing ws with
  | nil =>
    cases h
    rfl
  | cons item items ih =>
    rw [allWords] at h
    cases hfirst : c.words phase moment context item with
    | error e =>
      rw [hfirst] at h
      cases h
    | ok first =>
      cases hrest : c.allWords phase moment context items with
      | error e =>
        rw [hfirst, hrest] at h
        cases h
      | ok rest =>
        rw [hfirst, hrest] at h
        cases h
        rw [List.map_append, List.flatMap_cons, segments_words hfirst, ih hrest]

variable (c phase moment context)

theorem segments_incoming {item : Item} (h : item.isIncoming = true) :
    c.segments phase item = [c.arrow phase] := by
  cases item with
  | literal text => cases h
  | token t bracketed => cases t <;> first | rfl | cases h

theorem shown_incoming {item : Item} (h : item.isIncoming = true) :
    c.shown phase context item = [(c.markWord phase context).segment] := by
  cases item with
  | literal text => cases h
  | token t bracketed => cases t <;> first | rfl | cases h

/-- Other items show their segments as they are. -/
theorem shown_of_other {item : Item} (h : item.isIncoming = false) :
    c.shown phase context item = c.segments phase item := by
  cases item with
  | literal text => rfl
  | token t bracketed => cases t <;> first | rfl | cases h

theorem flatMap_shown_of_none {items : List Item} (h : items.countP Item.isIncoming = 0) :
    items.flatMap (c.shown phase context) = items.flatMap (c.segments phase) := by
  rw [List.countP_eq_zero] at h
  rw [List.flatMap_def, List.flatMap_def]
  refine congrArg List.flatten (List.map_congr_left ?_)
  intro item hmem
  exact c.shown_of_other phase context ((Bool.not_eq_true _).mp (h item hmem))

/-- The mark takes the place of the connector. -/
theorem set_connector {items : List Item} (h : items.countP Item.isIncoming ≤ 1) {k : Nat}
    (hk : c.connectorOffset items = some k) :
    (items.flatMap (c.segments .response)).set k (c.markWord .response context).segment =
      items.flatMap (c.shown .response context) := by
  induction items generalizing k with
  | nil => cases hk
  | cons item items ih =>
    rw [List.countP_cons] at h
    rw [connectorOffset] at hk
    rw [List.flatMap_cons, List.flatMap_cons]
    cases hi : item.isIncoming with
    | true =>
      rw [hi, if_pos rfl] at hk h
      cases hk
      have hnone : items.countP Item.isIncoming = 0 := by omega
      rw [c.flatMap_shown_of_none .response context hnone, segments_incoming c .response hi,
        shown_incoming c .response context hi]
      rfl
    | false =>
      rw [hi, if_neg Bool.false_ne_true] at hk h
      obtain ⟨j, hj, rfl⟩ := Option.map_eq_some_iff.mp hk
      rw [List.set_append_right _ _ (Nat.le_add_left _ _), Nat.add_sub_cancel, ih h hj,
        c.shown_of_other .response context hi]

theorem label_eq (items : List Item) :
    Plan.label (c.parts items) context = (c.bannerWords context).map Word.text := by
  unfold Plan.label bannerWords parts
  dsimp only
  split <;> rfl

theorem shown_request (item : Item) :
    c.shown .request context item = c.segments .request item := by
  cases hi : item.isIncoming with
  | true =>
    rw [c.shown_incoming .request context hi, c.segments_incoming .request hi]
    rfl
  | false => exact c.shown_of_other .request context hi

theorem patched_request {f : Format} (hflag : f.hasIncoming = f.items.any Item.isIncoming) :
    Plan.patched (c.parts f.items) .request context =
      (c.openingWords .request context f).map Word.segment ++
        f.items.flatMap (c.shown .request context) := by
  have hopening : c.opening .request f.items =
      (c.openingWords .request context f).map Word.segment := by
    unfold opening openingWords
    rw [hflag]
    split
    · rfl
    · split <;> rfl
  have hshown : c.shown .request context = c.segments .request := by
    funext item
    exact c.shown_request context item
  simp only [Plan.patched, Plan.Parts.segments, parts, hopening, hshown]

theorem connectorText_segment :
    Segment.literal (Plan.connectorText c.colors context) =
      (c.markWord .response context).segment := by
  rw [Verdict.connectorText_eq]
  rfl

/-- The items place the connector, one further on behind the title. -/
theorem patched_placed {f : Format} (hflag : f.hasIncoming = f.items.any Item.isIncoming)
    (hone : f.items.countP Item.isIncoming ≤ 1) {k : Nat}
    (hk : c.connectorOffset f.items = some k) :
    Plan.patched (c.parts f.items) .response context =
      (c.openingWords .response context f).map Word.segment ++
        f.items.flatMap (c.shown .response context) := by
  have hany : f.hasIncoming = true := by
    rw [hflag, ← c.connectorOffset_isSome, hk]
    rfl
  have hset := c.set_connector context hone hk
  have hindex : ((k : Int) + 1).toNat = k + 1 := by omega
  simp only [Plan.patched, parts, connector, hk, connectorText_segment, hindex, opening,
    openingWords, ← hflag, hany, if_true, List.singleton_append, List.set_cons_succ, hset]
  rfl

/-- No item places the connector; it stands in front or nowhere. -/
theorem patched_unplaced {f : Format} (hflag : f.hasIncoming = f.items.any Item.isIncoming)
    (hk : c.connectorOffset f.items = none) :
    Plan.patched (c.parts f.items) .response context =
      (c.openingWords .response context f).map Word.segment ++
        f.items.flatMap (c.shown .response context) := by
  have hitems : f.items.any Item.isIncoming = false := by
    rw [← c.connectorOffset_isSome, hk]
    rfl
  have hnone : f.items.countP Item.isIncoming = 0 := by
    simpa [List.countP_eq_zero] using hitems
  have hany : f.hasIncoming = false := by rw [hflag, hitems]
  rw [c.flatMap_shown_of_none .response context hnone]
  cases ha : c.alwaysConnector with
  | true =>
    simp only [Plan.patched, parts, connector, hk, connectorText_segment, opening, openingWords,
      ← hflag, hany, ha, if_true, if_false, Bool.false_eq_true]
    rfl
  | false =>
    simp only [Plan.patched, Plan.Parts.segments, parts, connector, hk, opening, openingWords,
      ← hflag, hany, ha, if_false, Bool.false_eq_true]
    rfl

/-- The segments that a plan fills, with the connector in its place, are those of the words. -/
theorem patched_parts {f : Format} (hflag : f.hasIncoming = f.items.any Item.isIncoming)
    (hone : f.items.countP Item.isIncoming ≤ 1) :
    Plan.patched (c.parts f.items) phase context =
      (c.openingWords phase context f).map Word.segment ++
        f.items.flatMap (c.shown phase context) := by
  cases phase with
  | request => exact c.patched_request context hflag
  | response =>
    cases hk : c.connectorOffset f.items with
    | some k => exact c.patched_placed context hflag hone hk
    | none => exact c.patched_unplaced context hflag hk

theorem values_bannerWords : (c.bannerWords context).filterMap Word.value? = [] := by
  unfold bannerWords
  split <;> rfl

theorem values_openingWords (f : Format) :
    (c.openingWords phase context f).filterMap Word.value? = [] := by
  unfold openingWords
  split
  · rfl
  · split <;> rfl

/-- The words of the items fill the segments of the plan, behind the opening. -/
theorem fill_patched {f : Format} (hflag : f.hasIncoming = f.items.any Item.isIncoming)
    (hone : f.items.countP Item.isIncoming ≤ 1) {ws : List Word}
    (hwords : c.allWords phase moment context f.items = .ok ws) :
    Segment.fill (Plan.patched (c.parts f.items) phase context) (ws.filterMap Word.value?) =
      (c.openingWords phase context f ++ ws).map Word.text := by
  have hsegments : Plan.patched (c.parts f.items) phase context =
      (c.openingWords phase context f ++ ws).map Word.segment := by
    rw [c.patched_parts phase context hflag hone, ← segments_allWords hwords, List.map_append]
  have hvalues : ws.filterMap Word.value? =
      (c.openingWords phase context f ++ ws).filterMap Word.value? := by
    rw [List.filterMap_append, values_openingWords, List.nil_append]
  rw [hsegments, hvalues, Word.fill_segments]

/-- A plan renders the line of its format. -/
theorem render_compile {f : Format} (hflag : f.hasIncoming = f.items.any Item.isIncoming)
    (hone : f.items.countP Item.isIncoming ≤ 1) :
    (c.compile f).render phase moment context = c.line phase moment context f := by
  have hfields : (c.parts f.items).fields phase = f.items.flatMap (c.fields phase) := by
    cases phase <;> rfl
  have hvalues := c.mapM_flatMap_fields phase moment context f.items
  have hlabel := c.label_eq context f.items
  simp only [Plan.render, compile, hfields, hvalues, hlabel, line]
  cases hwords : c.allWords phase moment context f.items with
  | error e => rfl
  | ok ws =>
    have hfill := c.fill_patched phase moment context hflag hone hwords
    simp only [Except.map, bind, Except.bind, pure, Except.pure, hfill, List.append_assoc,
      List.map_append, List.filterMap_append, values_bannerWords, values_openingWords,
      List.nil_append]

/-- The data token of an item, in a line that it belongs to. -/
def dataToken? : Item → Option Token
  | .literal _ => none
  | .token t _ => if t ∈ Token.ofPhase phase then some t else none

/-- The fault of a field. -/
def fieldFault? (t : Token) : Option Fault :=
  match Field.value moment context t with
  | .error e => some e
  | .ok _ => none

theorem words_eq_error_iff (item : Item) (e : Fault) :
    c.words phase moment context item = .error e ↔
      (dataToken? phase item).bind (fieldFault? moment context) = some e := by
  cases item with
  | literal text => simp [words, dataToken?]
  | token t bracketed =>
    by_cases ht : t = .incoming
    · subst ht
      simp [words, dataToken?, incoming_not_mem_ofPhase]
    · by_cases hp : t ∈ Token.ofPhase phase
      · simp only [words, dataToken?, ht, hp, if_false, if_true, valueWord]
        cases hv : Field.value moment context t <;> simp [Except.map, fieldFault?, hv]
      · simp [words, dataToken?, ht, hp]

/-- The words of a line fail with the first fault of its fields, and with nothing else. -/
theorem allWords_eq_error_iff (items : List Item) (e : Fault) :
    c.allWords phase moment context items = .error e ↔
      (items.filterMap (dataToken? phase)).findSome? (fieldFault? moment context) = some e := by
  induction items with
  | nil => exact ⟨nofun, nofun⟩
  | cons item items ih =>
    have hfirst : ((item :: items).filterMap (dataToken? phase)).findSome?
        (fieldFault? moment context) =
          ((dataToken? phase item).bind (fieldFault? moment context)).or
            ((items.filterMap (dataToken? phase)).findSome? (fieldFault? moment context)) := by
      cases hd : dataToken? phase item with
      | none => simp [hd]
      | some t => cases hf : fieldFault? moment context t <;> simp [hd, hf]
    have hitem := c.words_eq_error_iff phase moment context item
    rw [hfirst, allWords]
    cases hw : c.words phase moment context item with
    | error e' =>
      rw [(hitem e').mp hw]
      simp [bind, Except.bind]
    | ok first =>
      have hnone : (dataToken? phase item).bind (fieldFault? moment context) = none := by
        cases hf : (dataToken? phase item).bind (fieldFault? moment context) with
        | none => rfl
        | some e' =>
          rw [(hitem e').mpr hf] at hw
          cases hw
      rw [hnone, Option.none_or, ← ih]
      cases c.allWords phase moment context items <;>
        simp [bind, Except.bind, pure, Except.pure]

open Format in
/-- The plan of a format string renders the line of the format, which fails with the first fault of
its fields and with nothing else. -/
theorem render_build (format : String) :
    (c.build format).render phase moment context =
        c.line phase moment context (parse format) ∧
      ∀ e, c.line phase moment context (parse format) = .error e ↔
        ((parse format).items.filterMap (dataToken? phase)).findSome?
          (fieldFault? moment context) = some e := by
  constructor
  · refine c.render_compile phase moment context (any_isIncoming format).symm ?_
    rw [countP_parse]
    split <;> decide
  · intro e
    rw [← c.allWords_eq_error_iff, line]
    cases c.allWords phase moment context (parse format).items with
    | error e' => simp [bind, Except.bind]
    | ok ws => exact ⟨nofun, nofun⟩

end Compiler

end AccessLog
