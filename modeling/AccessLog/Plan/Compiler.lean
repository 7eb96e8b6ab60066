import AccessLog.Format.Item
import AccessLog.Plan.Basic

/-!
From formats to plans. Each item adds its segments and renderers to the two lines on its own, and
the connector is where the segments of the items before `:incoming` end; `valid_parts` concludes
that every format yields a plan.
-/
namespace AccessLog

/-- How lines are presented. `alwaysConnector` opens both lines with a connector where the format
does not place one. -/
structure Compiler where
  colors : Bool
  banner : Bool
  alwaysConnector : Bool
  deriving DecidableEq

namespace Compiler

/-- The value of a token, in brackets where the format has them, and painted. -/
def renderer (c : Compiler) (t : Token) (bracketed : Bool) : Renderer := fun moment context => do
  let v ← Field.value moment context t
  let text := if bracketed then "[" ++ v.text ++ "]" else v.text
  return Color.paint c.colors (v.color.getD t.color) text

/-- The arrow of a request line; a response line holds the place of its connector. -/
def arrow (c : Compiler) : Phase → Segment
  | .request => .literal (Color.paint c.colors .gray "<--")
  | .response => .literal "-->"

def heading (c : Compiler) : Phase → Segment
  | .request => .literal (Color.paint c.colors .gray "[INCOMING]")
  | .response => .literal (Color.paint c.colors .gray "[OUTGOING]")

open Format (Item)

def segments (c : Compiler) (phase : Phase) : Item → List Segment
  | .literal text => [.literal text]
  | .token t _ =>
    if t = .incoming then [c.arrow phase]
    else if t ∈ Token.ofPhase phase then [.slot]
    else []

def fields (c : Compiler) (phase : Phase) : Item → List Renderer
  | .literal _ => []
  | .token t bracketed => if t ∈ Token.ofPhase phase then [c.renderer t bracketed] else []

/-- What a line starts with. -/
def opening (c : Compiler) (phase : Phase) (items : List Item) : List Segment :=
  if items.any Item.isIncoming then [c.heading phase]
  else if c.alwaysConnector then [c.arrow phase]
  else []

/-- The place of the first `:incoming` among the segments of the response line. -/
def connectorOffset (c : Compiler) : List Item → Option Nat
  | [] => none
  | i :: is =>
    if i.isIncoming then some 0
    else (connectorOffset c is).map (· + (c.segments .response i).length)

def connector (c : Compiler) (items : List Item) : Option Int :=
  match c.connectorOffset items with
  | some k => some (k + 1)
  | none => if c.alwaysConnector then some 0 else none

def parts (c : Compiler) (items : List Item) : Plan.Parts where
  requestSegments := c.opening .request items ++ items.flatMap (c.segments .request)
  responseSegments := c.opening .response items ++ items.flatMap (c.segments .response)
  requestFields := items.flatMap (c.fields .request)
  responseFields := items.flatMap (c.fields .response)
  connector := c.connector items
  banner := c.banner
  colors := c.colors

theorem slots_segments (c : Compiler) (phase : Phase) (i : Item) :
    Segment.slots (c.segments phase i) = (c.fields phase i).length := by
  cases i with
  | literal text => simp [segments, fields, Segment.slots]
  | token t b =>
    by_cases ht : t = .incoming
    · subst ht
      cases phase <;> simp [segments, fields, arrow, Token.ofPhase, Segment.slots]
    · by_cases hp : t ∈ Token.ofPhase phase <;> simp [segments, fields, ht, hp, Segment.slots]

theorem slots_flatMap (c : Compiler) (phase : Phase) (items : List Item) :
    Segment.slots (items.flatMap (c.segments phase)) = (items.flatMap (c.fields phase)).length := by
  induction items with
  | nil => rfl
  | cons i is ih => simp only [List.flatMap_cons, Segment.slots_append, List.length_append, ih,
      slots_segments]

@[simp] theorem slots_opening (c : Compiler) (phase : Phase) (items : List Item) :
    Segment.slots (c.opening phase items) = 0 := by
  cases phase <;> unfold opening <;> split <;> (try split) <;>
    simp [Segment.slots, heading, arrow]

theorem getElem?_connectorOffset (c : Compiler) {items : List Item} {k : Nat}
    (h : c.connectorOffset items = some k) :
    (items.flatMap (c.segments .response))[k]? = some (c.arrow .response) := by
  induction items generalizing k with
  | nil => cases h
  | cons i is ih =>
    rw [connectorOffset] at h
    split at h
    · next hi =>
      cases h
      cases i with
      | literal text => cases hi
      | token t b => cases t <;> simp_all [Item.isIncoming, segments]
    · obtain ⟨j, hj, rfl⟩ := Option.map_eq_some_iff.1 h
      rw [List.flatMap_cons, List.getElem?_append_right (by omega), Nat.add_sub_cancel]
      exact ih hj

theorem connectorOffset_isSome (c : Compiler) (items : List Item) :
    (c.connectorOffset items).isSome = items.any Item.isIncoming := by
  induction items with
  | nil => rfl
  | cons i is ih =>
    rw [connectorOffset]
    split
    · next h => simp [h]
    · next h => simp [h, ih]

theorem valid_parts (c : Compiler) (items : List Item) : (c.parts items).Valid := by
  refine ⟨fun phase => ?_, ?_⟩
  · cases phase <;>
      simp [parts, Plan.Parts.segments, Plan.Parts.fields, slots_flatMap]
  · simp only [parts, connector]
    cases h : c.connectorOffset items with
    | some k =>
      have hi : items.any Item.isIncoming = true := by
        rw [← connectorOffset_isSome c, h]; rfl
      have hk : ((k : Int) + 1).toNat = k + 1 := by omega
      have hk0 : (0 : Int) ≤ k + 1 := by omega
      simp [Plan.Parts.literalAt, opening, hi, hk, hk0, getElem?_connectorOffset c h, arrow,
        Segment.isLiteral]
    | none =>
      have hi : items.any Item.isIncoming = false := by
        rw [← connectorOffset_isSome c, h]; rfl
      cases ha : c.alwaysConnector with
      | false => simp
      | true => simp [Plan.Parts.literalAt, opening, hi, ha, arrow, Segment.isLiteral]

def compile (c : Compiler) (f : Format) : Plan := ⟨c.parts f.items, c.valid_parts f.items⟩

/-- The plan of a format string. -/
def build (c : Compiler) (format : String) : Plan := c.compile (Format.parse format)

end Compiler

end AccessLog
