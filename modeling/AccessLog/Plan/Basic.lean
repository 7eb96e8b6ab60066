import AccessLog.Field.Token
import AccessLog.Text.LetterCase

/-!
Plans: a format string made ready for rendering. Each of the two lines is a list of segments, some
of them slots that field renderers fill; one literal of the response line may give way to the
connector, which shows how the exchange ended.
-/
namespace AccessLog

inductive Segment where
  | literal (text : String)
  | slot
  deriving DecidableEq, Repr

namespace Segment

def isLiteral : Segment → Bool
  | literal _ => true
  | slot => false

def slots (segments : List Segment) : Nat := segments.countP (· = slot)

@[simp] theorem slots_append (a b : List Segment) : slots (a ++ b) = slots a + slots b :=
  List.countP_append

/-- Puts the values into the slots, first to first. -/
def fill : List Segment → List String → List String
  | [], _ => []
  | literal s :: rest, vs => s :: fill rest vs
  | slot :: rest, v :: vs => v :: fill rest vs
  | slot :: rest, [] => fill rest []

theorem length_fill {segments : List Segment} {vs : List String} (h : slots segments = vs.length) :
    (fill segments vs).length = segments.length := by
  induction segments generalizing vs with
  | nil => rfl
  | cons s rest ih =>
    cases s with
    | literal t => simp [fill, @ih vs (by simpa [slots] using h)]
    | slot =>
      cases vs with
      | nil => simp [slots] at h
      | cons v vs => simp [fill, @ih vs (by simpa [slots] using h)]

end Segment

abbrev Renderer := Moment → Context → Except Fault String

namespace Plan

/-- Everything a plan consists of, before it is known to fit together. -/
structure Parts where
  requestSegments : List Segment
  responseSegments : List Segment
  requestFields : List Renderer
  responseFields : List Renderer
  connector : Option Int
  banner : Bool
  colors : Bool

namespace Parts

def segments (p : Parts) : Phase → List Segment
  | .request => p.requestSegments
  | .response => p.responseSegments

def fields (p : Parts) : Phase → List Renderer
  | .request => p.requestFields
  | .response => p.responseFields

/-- Whether there is a literal at that place of the response line. -/
def literalAt (p : Parts) (index : Int) : Bool :=
  0 ≤ index && (p.responseSegments[index.toNat]?.map Segment.isLiteral).getD false

/-- As many renderers as slots in each line, and a literal under the connector. -/
def Valid (p : Parts) : Prop :=
  (∀ phase, Segment.slots (p.segments phase) = (p.fields phase).length) ∧
    p.connector.all p.literalAt = true

end Parts

end Plan

structure Plan extends Plan.Parts where
  valid : toParts.Valid

inductive PlanFault where
  | unbalanced (phase : Phase) (slots renderers : Nat)
  | misplaced (connector : Int)
  deriving DecidableEq

namespace PlanFault

def phaseName : Phase → String
  | .request => "request"
  | .response => "response"

def message : PlanFault → Except WritingFault String
  | unbalanced phase slots renderers =>
    .ok (phaseName phase ++ " phase has " ++ Decimal.countText slots ++ " slots but " ++
      Decimal.countText renderers ++ " renderers")
  | misplaced i => do
    return "connector index " ++ (← Decimal.written i) ++ " is not a literal segment"

end PlanFault

namespace Plan

def balance (p : Parts) (phase : Phase) : Except PlanFault Unit :=
  let slots := Segment.slots (p.segments phase)
  let renderers := (p.fields phase).length
  if slots = renderers then .ok () else .error (.unbalanced phase slots renderers)

/-- The first complaint about the parts: the request line, the response line, the connector. -/
def fault? (p : Parts) : Option PlanFault :=
  match balance p .request, balance p .response with
  | .error e, _ => some e
  | _, .error e => some e
  | .ok _, .ok _ =>
    match p.connector with
    | some i => if p.literalAt i then none else some (.misplaced i)
    | none => none

theorem fault?_eq_none_iff (p : Parts) : fault? p = none ↔ p.Valid := by
  unfold fault? balance Parts.Valid
  constructor
  · intro h
    split at h
    · cases h
    · cases h
    · next hq hr =>
      refine ⟨fun phase => ?_, ?_⟩
      · cases phase
        · simp only at hq; split at hq
          · assumption
          · cases hq
        · simp only at hr; split at hr
          · assumption
          · cases hr
      · split at h
        · next hc => rw [hc]; split at h
                     · simpa
                     · cases h
        · next hc => simp [hc]
  · rintro ⟨hb, hc⟩
    simp only [hb .request, hb .response, if_true]
    cases h : p.connector with
    | none => rfl
    | some i => rw [h] at hc; simpa using hc

def check (p : Parts) : Except PlanFault Plan :=
  match h : fault? p with
  | none => .ok ⟨p, (fault?_eq_none_iff p).1 h⟩
  | some e => .error e

/-- The mark between the label of a response line and its fields. -/
def connectorText (colors : Bool) (c : Context) : String :=
  if c.error.isSome then Color.paint colors .red "xxx"
  else if c.outcome = some .close then Color.paint colors .yellow "-x-"
  else
    let status := (c.response.effectiveStatus none).value
    if 500 ≤ status then Color.paint colors .red "xxx"
    else if status = 404 then Color.paint colors .cyan "-X-"
    else Color.paint colors .gray "-->"

/-- The segments of a line, with the connector in its place. -/
def patched (p : Parts) (phase : Phase) (c : Context) : List Segment :=
  match phase, p.connector with
  | .response, some i => p.responseSegments.set i.toNat (.literal (connectorText p.colors c))
  | _, _ => p.segments phase

/-- The scheme in capitals, where the plan asks for it. -/
def label (p : Parts) (c : Context) : List String :=
  if p.banner then
    [Color.paint p.colors .banner (" " ++ Text.capitals c.request.scheme ++ " ")]
  else []

def render (p : Plan) (phase : Phase) (moment : Moment) (c : Context) : Except Fault Rendered := do
  let values ← (p.fields phase).mapM fun field => field moment c
  let parts := label p.toParts c ++ Segment.fill (patched p.toParts phase c) values
  return ⟨" ".intercalate parts, values⟩

end Plan

end AccessLog
