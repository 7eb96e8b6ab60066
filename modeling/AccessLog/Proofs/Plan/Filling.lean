import AccessLog.Plan.Compiler
import Mathlib.Data.List.Forall2

/-!
Which parts make a plan, and what becomes of them in a line. `Segment.draw` is the filling of slots
as a walk that takes one value after the other and fails where none is left; on the segments of a
plan it never fails and leaves no value over. `Plan.Filled` tells what each segment becomes, by the
plan's own segments, whatever the connector of another line was.
-/
namespace AccessLog

namespace Segment

@[simp] theorem slots_literal (text : String) (rest : List Segment) :
    slots (literal text :: rest) = slots rest := by
  simp [slots]

@[simp] theorem slots_slot (rest : List Segment) : slots (slot :: rest) = slots rest + 1 := by
  simp [slots]

/-- Takes the next value at every slot: the texts, and the values that are left over. Nothing where
a slot finds no value. -/
def draw : List Segment → List String → Option (List String × List String)
  | [], vs => some ([], vs)
  | literal s :: rest, vs => (draw rest vs).map fun drawn => (s :: drawn.1, drawn.2)
  | slot :: _, [] => none
  | slot :: rest, v :: vs => (draw rest vs).map fun drawn => (v :: drawn.1, drawn.2)

variable {segments : List Segment} {vs : List String}

/-- With as many values as slots the walk gets through and uses all of them. -/
theorem draw_eq_fill (h : slots segments = vs.length) :
    draw segments vs = some (fill segments vs, []) := by
  induction segments generalizing vs with
  | nil =>
    obtain rfl := List.eq_nil_of_length_eq_zero h.symm
    rfl
  | cons s rest ih =>
    cases s with
    | literal text =>
      rw [slots_literal] at h
      rw [draw, fill, ih h, Option.map_some]
    | slot =>
      cases vs with
      | nil => simp at h
      | cons v vs =>
        rw [slots_slot, List.length_cons, Nat.succ_inj] at h
        rw [draw, fill, ih h, Option.map_some]

theorem getElem?_fill_literal (h : slots segments = vs.length) {i : Nat} {text : String}
    (hi : segments[i]? = some (literal text)) : (fill segments vs)[i]? = some text := by
  induction segments generalizing vs i with
  | nil => cases hi
  | cons s rest ih =>
    cases s with
    | literal first =>
      rw [slots_literal] at h
      cases i with
      | zero =>
        cases hi
        rfl
      | succ i => exact ih h hi
    | slot =>
      cases vs with
      | nil => simp at h
      | cons v vs =>
        rw [slots_slot, List.length_cons, Nat.succ_inj] at h
        cases i with
        | zero => cases hi
        | succ i => exact ih h hi

/-- A slot gets the value that has as many values before it as there are slots before the slot. -/
theorem getElem?_fill_slot (h : slots segments = vs.length) {i : Nat}
    (hi : segments[i]? = some slot) :
    ∃ v, vs[slots (segments.take i)]? = some v ∧ (fill segments vs)[i]? = some v := by
  induction segments generalizing vs i with
  | nil => cases hi
  | cons s rest ih =>
    cases s with
    | literal first =>
      rw [slots_literal] at h
      cases i with
      | zero => cases hi
      | succ i =>
        rw [List.take_succ_cons, slots_literal]
        exact ih h hi
    | slot =>
      cases vs with
      | nil => simp at h
      | cons v vs =>
        rw [slots_slot, List.length_cons, Nat.succ_inj] at h
        cases i with
        | zero => exact ⟨v, rfl, rfl⟩
        | succ i =>
          rw [List.take_succ_cons, slots_slot]
          exact ih h hi

/-- Where there is no slot, a literal may be put without a change to the number of slots. -/
theorem slots_set {i : Nat} (h : segments[i]? ≠ some slot) (text : String) :
    slots (segments.set i (literal text)) = slots segments := by
  induction segments generalizing i with
  | nil => rfl
  | cons s rest ih =>
    cases i with
    | zero =>
      cases s with
      | literal first => simp
      | slot => exact absurd rfl h
    | succ i =>
      have hrest : slots (rest.set i (literal text)) = slots rest := ih h
      cases s <;> simp [hrest]

end Segment

namespace Plan

theorem Parts.literalAt_iff (p : Parts) (i : Int) :
    p.literalAt i = true ↔
      0 ≤ i ∧ ∃ text, p.responseSegments[i.toNat]? = some (.literal text) := by
  unfold Parts.literalAt
  rw [Bool.and_eq_true, decide_eq_true_eq]
  refine and_congr_right fun _ => ?_
  cases p.responseSegments[i.toNat]? with
  | none => simp
  | some s => cases s <;> simp [Segment.isLiteral]

/-- The parts fit together, as the check has it. -/
theorem Parts.valid_iff (p : Parts) :
    p.Valid ↔ (∀ phase, Segment.slots (p.segments phase) = (p.fields phase).length) ∧
      ∀ i, p.connector = some i →
        0 ≤ i ∧ ∃ text, p.responseSegments[i.toNat]? = some (.literal text) := by
  refine and_congr_right fun _ => ?_
  cases p.connector with
  | none => simp
  | some i => simp [p.literalAt_iff]

theorem check_of_valid {p : Parts} (h : p.Valid) : check p = .ok ⟨p, h⟩ := by
  unfold check
  split
  · rfl
  · next e he =>
    rw [(fault?_eq_none_iff p).mpr h] at he
    cases he

theorem toParts_of_check {p : Parts} {plan : Plan} (h : check p = .ok plan) :
    plan.toParts = p := by
  unfold check at h
  split at h
  · cases h
    rfl
  · cases h

end Plan

/-- What a complaint says of the parts. -/
def PlanFault.Tells (p : Plan.Parts) : PlanFault → Prop
  | unbalanced phase slots renderers =>
    slots = Segment.slots (p.segments phase) ∧ renderers = (p.fields phase).length ∧
      slots ≠ renderers
  | misplaced i => p.connector = some i ∧ p.literalAt i = false

namespace Plan

theorem tells_of_balance {p : Parts} {phase : Phase} {e : PlanFault}
    (h : balance p phase = .error e) : e.Tells p := by
  unfold balance at h
  dsimp only at h
  split at h
  · cases h
  · next hne =>
    cases h
    exact ⟨rfl, rfl, hne⟩

theorem tells_of_fault? {p : Parts} {e : PlanFault} (h : fault? p = some e) : e.Tells p := by
  unfold fault? at h
  split at h
  · next hq =>
    cases h
    exact tells_of_balance hq
  · next hr _ =>
    cases h
    exact tells_of_balance hr
  · split at h
    · next i hi =>
      split at h
      · cases h
      · next hliteral =>
        cases h
        exact ⟨hi, Bool.eq_false_iff.mpr hliteral⟩
    · cases h

theorem check_of_not_valid {p : Parts} (h : ¬ p.Valid) :
    ∃ e, check p = .error e ∧ e.Tells p := by
  unfold check
  split
  · next hnone => exact absurd ((fault?_eq_none_iff p).mp hnone) h
  · next e he => exact ⟨e, rfl, tells_of_fault? he⟩

/-- The segments of a line are the plan's own, or all but one of them are. -/
theorem patched_cases {p : Parts} (h : p.Valid) (phase : Phase) (context : Context) :
    (patched p phase context = p.segments phase ∧ (phase = .response → p.connector = none)) ∨
    ∃ (i : Nat) (text : String), phase = .response ∧ p.connector = some (i : Int) ∧
      p.responseSegments[i]? = some (.literal text) ∧
      patched p phase context =
        p.responseSegments.set i (.literal (connectorText p.colors context)) := by
  cases phase with
  | request => exact .inl ⟨rfl, nofun⟩
  | response =>
    cases hc : p.connector with
    | none => exact .inl ⟨by simp only [patched, hc], fun _ => rfl⟩
    | some i =>
      obtain ⟨hpos, text, htext⟩ := (p.valid_iff.mp h).2 i hc
      refine .inr ⟨i.toNat, text, rfl, ?_, htext, ?_⟩
      · rw [Int.toNat_of_nonneg hpos]
      · simp only [patched, hc]

/-- The texts of a line, one for each segment. -/
def texts (p : Parts) (phase : Phase) (context : Context) (values : List String) : List String :=
  Segment.fill (patched p phase context) values

theorem render_of_values {p : Plan} {phase : Phase} {moment : Moment} {context : Context}
    {values : List String}
    (h : (p.fields phase).mapM (fun field => field moment context) = .ok values) :
    p.render phase moment context =
      .ok ⟨" ".intercalate (label p.toParts context ++ texts p.toParts phase context values),
        values⟩ := by
  rw [render, h]
  rfl

/-- What the segments of a plan become: the n-th slot the n-th value, the literal under the
connector the connector, and every other literal its own text. -/
structure Filled (p : Parts) (phase : Phase) (context : Context) (values texts : List String) :
    Prop where
  length : texts.length = (p.segments phase).length
  slot : ∀ i, (p.segments phase)[i]? = some .slot →
    ∃ v, values[Segment.slots ((p.segments phase).take i)]? = some v ∧ texts[i]? = some v
  literal : ∀ (i : Nat) text, (p.segments phase)[i]? = some (.literal text) →
    (phase = .response → p.connector ≠ some (i : Int)) → texts[i]? = some text
  connector : phase = .response → ∀ i, p.connector = some i →
    texts[i.toNat]? = some (connectorText p.colors context)

variable {p : Parts} (hp : p.Valid) (phase : Phase) (context : Context)

include hp

theorem length_patched : (patched p phase context).length = (p.segments phase).length := by
  rcases patched_cases hp phase context with ⟨heq, -⟩ | ⟨i, text, rfl, -, -, heq⟩
  · rw [heq]
  · rw [heq, List.length_set]
    rfl

theorem getElem?_patched (i : Nat) :
    (patched p phase context)[i]? =
      if phase = .response ∧ p.connector = some (i : Int)
      then some (.literal (connectorText p.colors context)) else (p.segments phase)[i]? := by
  rcases patched_cases hp phase context with ⟨heq, hnone⟩ | ⟨k, text, rfl, hk, htext, heq⟩
  · rw [heq, if_neg]
    rintro ⟨hphase, hi⟩
    rw [hnone hphase] at hi
    cases hi
  · have hlt : k < p.responseSegments.length := (List.getElem?_eq_some_iff.mp htext).1
    rw [heq, hk, List.getElem?_set, if_pos hlt]
    by_cases h : k = i
    · rw [if_pos h, if_pos ⟨rfl, by rw [h]⟩]
    · rw [if_neg h, if_neg fun hki => h (Int.ofNat.inj (Option.some.inj hki.2))]
      rfl

/-- The connector stands in no slot, and so the slots before a place stay as many as they are. -/
theorem slots_take_patched (n : Nat) :
    Segment.slots ((patched p phase context).take n) =
      Segment.slots ((p.segments phase).take n) := by
  rcases patched_cases hp phase context with ⟨heq, -⟩ | ⟨i, text, rfl, -, htext, heq⟩
  · rw [heq]
  · have hslot : (p.responseSegments.take n)[i]? ≠ some .slot := by
      rw [List.getElem?_take, htext]
      split <;> nofun
    rw [heq, List.take_set, Segment.slots_set hslot]
    rfl

theorem slots_patched :
    Segment.slots (patched p phase context) = (p.fields phase).length := by
  have htake := slots_take_patched hp phase context (patched p phase context).length
  rw [List.take_length, length_patched hp, List.take_length] at htake
  rw [htake, hp.1 phase]

theorem filled_texts {values : List String} (hvalues : (p.fields phase).length = values.length) :
    Filled p phase context values (texts p phase context values) := by
  have hslots : Segment.slots (patched p phase context) = values.length := by
    rw [slots_patched hp, hvalues]
  refine ⟨?_, ?_, ?_, ?_⟩
  · rw [texts, Segment.length_fill hslots, length_patched hp]
  · intro i hi
    have hplace : ¬ (phase = .response ∧ p.connector = some (i : Int)) := by
      rintro ⟨rfl, hconnector⟩
      obtain ⟨-, text, htext⟩ := (p.valid_iff.mp hp).2 i hconnector
      rw [Int.toNat_natCast, show p.responseSegments[i]? = _ from hi] at htext
      cases htext
    have hslot : (patched p phase context)[i]? = some .slot := by
      rw [getElem?_patched hp, if_neg hplace, hi]
    obtain ⟨v, hv, htext⟩ := Segment.getElem?_fill_slot hslots hslot
    rw [slots_take_patched hp] at hv
    exact ⟨v, hv, htext⟩
  · intro i text hi hplace
    refine Segment.getElem?_fill_literal hslots ?_
    rw [getElem?_patched hp, if_neg fun h => hplace h.1 h.2, hi]
  · intro hphase i hi
    have hpos : 0 ≤ i := ((p.valid_iff.mp hp).2 i hi).1
    refine Segment.getElem?_fill_literal hslots ?_
    rw [getElem?_patched hp, if_pos ⟨hphase, by rw [Int.toNat_of_nonneg hpos, hi]⟩]

omit hp

/-- A line that is asked of a plan. -/
structure Call where
  phase : Phase
  moment : Moment
  context : Context

def answer (plan : Plan) (k : Call) : Except Fault Rendered := plan.render k.phase k.moment k.context

/-- A line made of the parts: a value from every renderer, as many values as the walk over the slots
needs, and each text where its segment is. -/
structure Made (p : Parts) (k : Call) (r : Rendered) : Prop where
  args : List.Forall₂ (fun field v => field k.moment k.context = .ok v) (p.fields k.phase) r.args
  drawn : Segment.draw (patched p k.phase k.context) r.args =
    some (texts p k.phase k.context r.args, [])
  filled : Filled p k.phase k.context r.args (texts p k.phase k.context r.args)
  line : r.line = " ".intercalate (label p k.context ++ texts p k.phase k.context r.args)

theorem exists_values {fields : List Renderer} {moment : Moment}
    (h : ∀ field ∈ fields, ∃ v, field moment context = .ok v) :
    ∃ values, fields.mapM (fun field => field moment context) = .ok values ∧
      List.Forall₂ (fun field v => field moment context = .ok v) fields values := by
  induction fields with
  | nil => exact ⟨[], rfl, .nil⟩
  | cons field fields ih =>
    obtain ⟨v, hv⟩ := h field List.mem_cons_self
    obtain ⟨values, hvalues, hall⟩ := ih fun f hf => h f (List.mem_cons_of_mem field hf)
    refine ⟨v :: values, ?_, .cons hv hall⟩
    rw [List.mapM_cons, hv, hvalues]
    rfl

/-- Whatever was asked of the plan before, a line whose renderers return is made of the parts. -/
theorem exists_made (plan : Plan) (k : Call)
    (h : ∀ field ∈ plan.fields k.phase, ∃ v, field k.moment k.context = .ok v) :
    ∃ r, plan.answer k = .ok r ∧ Made plan.toParts k r := by
  obtain ⟨values, hvalues, hall⟩ := exists_values k.context h
  have hlength := hall.length_eq
  refine ⟨_, render_of_values hvalues, hall, ?_, filled_texts plan.valid k.phase k.context hlength,
    rfl⟩
  exact Segment.draw_eq_fill (by rw [slots_patched plan.valid, hlength])

/-- Parts make a plan if and only if each line has as many slots as renderers and the connector, if
there is one, stands at a literal of the response line; else the complaint names what does not fit.
Every line of a run of renders on a plan is made of the parts that the plan was made of. And the
parts of a format always make a plan. -/
theorem check_and_answers :
    (∀ p : Parts,
      ((∃ plan, check p = .ok plan ∧ plan.toParts = p) ↔
        (∀ phase, Segment.slots (p.segments phase) = (p.fields phase).length) ∧
          ∀ i, p.connector = some i →
            0 ≤ i ∧ ∃ text, p.responseSegments[i.toNat]? = some (.literal text)) ∧
      (¬ (∃ plan, check p = .ok plan) → ∃ e, check p = .error e ∧ e.Tells p)) ∧
    (∀ (p : Parts) (plan : Plan), check p = .ok plan → ∀ calls : List Call,
      (∀ k ∈ calls, ∀ field ∈ p.fields k.phase, ∃ v, field k.moment k.context = .ok v) →
        List.Forall₂ (fun k answer => ∃ r, answer = .ok r ∧ Made p k r) calls
          (calls.map plan.answer)) ∧
    (∀ (c : Compiler) (format : String),
      check (c.parts (Format.parse format).items) = .ok (c.build format)) := by
  refine ⟨fun p => ⟨?_, ?_⟩, ?_, ?_⟩
  · rw [← p.valid_iff]
    constructor
    · rintro ⟨plan, -, rfl⟩
      exact plan.valid
    · intro h
      exact ⟨⟨p, h⟩, check_of_valid h, rfl⟩
  · intro h
    refine check_of_not_valid fun hvalid => h ⟨_, check_of_valid hvalid⟩
  · intro p plan hcheck calls hreturn
    obtain rfl := toParts_of_check hcheck
    rw [List.forall₂_map_right_iff, List.forall₂_same]
    intro k hk
    exact plan.exists_made k (hreturn k hk)
  · intro c format
    exact check_of_valid (c.valid_parts _)

/-- Parts put together by hand, with the connector between two slots. -/
def between : Parts where
  requestSegments := [.literal "from", .slot]
  responseSegments := [.slot, .literal "-->", .slot]
  requestFields := [fun _ c => .ok c.request.scheme]
  responseFields := [fun _ c => .ok c.request.method, fun _ c => .ok c.request.url]
  connector := some 1
  banner := true
  colors := false

/-- The response line of an exchange that the client left, and on the same plan that of one that went
well; and the connector in a slot. -/
theorem check_and_answers_between :
    let moment : Moment := ⟨.finite false 0 0, ⟨⟨2024, 3, 5⟩, 9, 7, 2, 0, 0⟩⟩
    let request : Request := { method := "GET", url := "/" }
    let left : Call := ⟨.response, moment, { request, outcome := some .close }⟩
    let well : Call := ⟨.response, moment, { request, response := ⟨some (.code 200), []⟩ }⟩
    let misplaced : Parts := { between with connector := some 0 }
    (∃ plan, check between = .ok plan ∧
      (∀ k ∈ [left, well], ∀ field ∈ between.fields k.phase,
        ∃ v, field k.moment k.context = .ok v) ∧
      List.Forall₂ (fun k answer => ∃ r, answer = .ok r ∧ Made between k r) [left, well]
        ([left, well].map plan.answer)) ∧
    (¬ ∃ plan, check misplaced = .ok plan) ∧
      ∃ e, check misplaced = .error e ∧ e.Tells misplaced := by
  intro moment request left well misplaced
  have hvalid : between.Valid := (fault?_eq_none_iff between).mp rfl
  have hcheck : check between = .ok ⟨between, hvalid⟩ := check_of_valid hvalid
  have hreturn : ∀ k ∈ [left, well], ∀ field ∈ between.fields k.phase,
      ∃ v, field k.moment k.context = .ok v := by
    have hfields : ∀ k : Call, k.phase = .response → ∀ field ∈ between.fields k.phase,
        ∃ v, field k.moment k.context = .ok v := by
      intro k hk field hfield
      rw [hk] at hfield
      rcases List.mem_pair.mp hfield with rfl | rfl
      · exact ⟨_, rfl⟩
      · exact ⟨_, rfl⟩
    intro k hk
    rcases List.mem_pair.mp hk with rfl | rfl
    · exact hfields left rfl
    · exact hfields well rfl
  have hrefused : ¬ ∃ plan, check misplaced = .ok plan := by
    rintro ⟨plan, hplan⟩
    have hfits := ((check_and_answers.1 misplaced).1.mp ⟨plan, hplan, toParts_of_check hplan⟩).2
    obtain ⟨-, text, htext⟩ := hfits 0 rfl
    cases htext
  exact ⟨⟨_, hcheck, hreturn, check_and_answers.2.1 between _ hcheck [left, well] hreturn⟩,
    hrefused, (check_and_answers.1 misplaced).2 hrefused⟩

end Plan

end AccessLog
