import AccessLog.Proofs.Exchange.Transparency

/-!
What a session does with the logger that it is given: it writes lines, one after the other, and goes
on by the faults that they meet. `Session.Tells.writes_step` says that each of its steps is of this
kind, and `Session.writes_arrive` that an arrival is, once the plan is found. Then all that a step
sees of the calls of the sink are the answers to its own (`Writes.answered`), and all that it writes
are lines of its plan about its request (`Writes.exists_context`).
-/
namespace AccessLog

/-- What had happened before the turn belongs to it. -/
def Turn.after {α : Type} (effects : List Effect) (turn : Turn α) : Turn α :=
  { turn with effects := effects ++ turn.effects }

/-- A step as a turn. -/
def Step.turn (step : Step) : Turn (Session × List Message × Reply) :=
  ⟨step.shared, step.effects, (step.session, step.sent, step.reply)⟩

/-- The turn makes so many calls, and the answers to these decide it: it would be the same with any
other numbers for the calls and any other answers to other calls. -/
structure Answered {α : Type} (f : Logger → Shared → Turn α) (g : Logger) (s : Shared)
    (made : Nat) : Prop where
  shared : (f g s).shared = { s with calls := s.calls + made }
  same : ∀ refuses calls, (∀ i < made, refuses (calls + i) = g.refuses (s.calls + i)) →
    f { g with refuses } { s with calls } =
      ⟨{ s with calls := calls + made }, (f g s).effects, (f g s).value⟩

theorem Watch.answered_emit (g : Logger) (s : Shared) (plan : Plan) (phase : Phase) (c : Context) :
    ∃ made, Answered (fun g s => emit g s plan phase c) g s made := by
  cases hr : plan.render phase s.moment c with
  | error e =>
    refine ⟨0, ?_, fun refuses calls _ => ?_⟩ <;> simp only [emit, hr, Nat.add_zero]
  | ok line =>
    cases hs : g.sink with
    | recorder =>
      refine ⟨1, ?_, fun refuses calls hagree => ?_⟩
      · simp only [emit, hr, Logger.deliver, hs]
      · have hnext : refuses calls = g.refuses s.calls := hagree 0 Nat.zero_lt_one
        simp only [emit, hr, Logger.deliver, hs, hnext]
    | stdout | journal | named =>
      refine ⟨0, ?_, fun refuses calls _ => ?_⟩
      · simp only [emit, hr, Logger.deliver, hs, Nat.add_zero]
      · simp only [emit, hr, Logger.deliver, hs, Nat.add_zero, Logger.accessText]

/-- Turns that only write lines of a plan, about requests with `About`. However the lines fare, the
value has `P`. -/
inductive Writes (plan : Plan) (About : Request → Prop) {α : Type} (P : α → Prop) :
    (Logger → Shared → Turn α) → Prop
  | done (value : α) (h : P value) : Writes plan About P fun _ s => ⟨s, [], value⟩
  | line (phase : Phase) (context : Context) (about : About context.request)
      (next : Option Fault → Logger → Shared → Turn α)
      (h : ∀ fault, Writes plan About P (next fault)) :
      Writes plan About P fun g s =>
        let turn := Watch.emit g s plan phase context
        (next turn.value g turn.shared).after turn.effects

namespace Writes

variable {plan : Plan} {About : Request → Prop} {α β : Type} {P : α → Prop} {Q : β → Prop}
  {f : Logger → Shared → Turn α}

theorem of_eq {f' : Logger → Shared → Turn α} (hf : Writes plan About P f)
    (h : ∀ g s, f' g s = f g s) : Writes plan About P f' := by
  have heq : f' = f := funext fun g => funext (h g)
  rwa [heq]

/-- One turn, and then another one that depends on its value. -/
theorem bind (hf : Writes plan About P f) (k : α → Logger → Shared → Turn β)
    (hk : ∀ a, P a → Writes plan About Q (k a)) :
    Writes plan About Q fun g s =>
      (k (f g s).value g (f g s).shared).after (f g s).effects := by
  induction hf with
  | done value h => exact hk value h
  | line phase context about next h ih =>
    refine (Writes.line phase context about _ ih).of_eq fun g s => ?_
    simp only [Turn.after, List.append_assoc]

theorem map (hf : Writes plan About P f) (k : α → β) (hk : ∀ a, P a → Q (k a)) :
    Writes plan About Q fun g s => ⟨(f g s).shared, (f g s).effects, k (f g s).value⟩ := by
  refine (hf.bind _ fun a ha => Writes.done (k a) (hk a ha)).of_eq fun g s => ?_
  simp only [Turn.after, List.append_nil]

/-- A line and nothing after it. -/
theorem emit (phase : Phase) (context : Context) (about : About context.request)
    (k : Option Fault → β) (hk : ∀ fault, Q (k fault)) :
    Writes plan About Q fun g s =>
      let turn := Watch.emit g s plan phase context
      ⟨turn.shared, turn.effects, k turn.value⟩ := by
  refine (Writes.line phase context about _ fun fault => .done (k fault) (hk fault)).of_eq
    fun g s => ?_
  simp only [Turn.after, List.append_nil]

/-- A step with more sent before it. -/
theorem step_after {R : Session → Prop} {step : Logger → Shared → Step}
    (hf : Writes plan About (fun v => R v.1) fun g s => (step g s).turn) (sent : List Message) :
    Writes plan About (fun v => R v.1) fun g s => ((step g s).after [] sent).turn :=
  hf.map (fun v => (v.1, sent ++ v.2.1, v.2.2)) fun _ hv => hv

variable (hf : Writes plan About P f) (g : Logger) (s : Shared)
include hf

theorem value : P (f g s).value := by
  induction hf generalizing s with
  | done value h => exact h
  | line phase context about next h ih => exact ih _ _

theorem answered : ∃ made, Answered f g s made := by
  induction hf generalizing s with
  | done value h => exact ⟨0, rfl, fun refuses calls _ => rfl⟩
  | line phase context about next h ih =>
    -- the line comes first, and the rest goes on from what it left behind
    obtain ⟨first, hline⟩ := Watch.answered_emit g s plan phase context
    have hshared : (Watch.emit g s plan phase context).shared = _ := hline.shared
    obtain ⟨rest, hrest⟩ := ih (Watch.emit g s plan phase context).value
      { s with calls := s.calls + first }
    refine ⟨first + rest, ?_, fun refuses calls hagree => ?_⟩
    · simp only [Turn.after, hshared, hrest.shared, Nat.add_assoc]
    · have hfirst := hline.same refuses calls fun i hi => hagree i (by omega)
      have hnext := hrest.same refuses (calls + first) fun i hi => by
        have h := hagree (first + i) (by omega)
        rwa [← Nat.add_assoc, ← Nat.add_assoc] at h
      simp only [Turn.after, hshared, hfirst, hnext, Nat.add_assoc]

/-- Every line shows a context that the turn may write about, as the plan renders it. -/
theorem exists_context : ∀ call ∈ calls (f g s).effects,
    ∃ phase context, About context.request ∧ plan.render phase s.moment context = .ok call.1 := by
  induction hf generalizing s with
  | done value h => exact fun call hcall => absurd hcall List.not_mem_nil
  | line phase context about next h ih =>
    obtain ⟨first, hline⟩ := Watch.answered_emit g s plan phase context
    have hshared : (Watch.emit g s plan phase context).shared = _ := hline.shared
    have hmoment : (Watch.emit g s plan phase context).shared.moment = s.moment := by rw [hshared]
    intro call hcall
    simp only [Turn.after, calls_append, List.mem_append, Watch.calls_emit] at hcall
    rcases hcall with hcall | hcall
    · refine ⟨phase, context, about, ?_⟩
      unfold Logger.offer at hcall
      split at hcall
      · next line hline =>
        rw [List.mem_singleton.mp hcall]
        exact hline
      · exact absurd hcall List.not_mem_nil
    · rw [← hmoment]
      exact ih _ _ call hcall

end Writes

variable {plan : Plan} {About : Request → Prop}

/-- A watch whose lines are of the plan, about a request with `About`. -/
structure Watch.Tells (plan : Plan) (About : Request → Prop) (w : Watch) : Prop where
  plan_eq : w.plan = plan
  about : About w.request

/-- The message goes on to the application, unless the line that it brings meets a fault. -/
def Watch.passing (m : Message) : Option Fault → Except Fault Message
  | some e => .error e
  | none => .ok m

namespace Watch.Tells

variable {w : Watch} (h : w.Tells plan About) (start : Option Double)
include h

theorem writes_complete (outcome : Outcome) (error : Option Fault) :
    Writes plan About (fun v => v.1.Tells plan About)
      fun g s => w.complete g s start outcome error := by
  obtain ⟨rfl, about⟩ := h
  obtain ⟨plan, request, response, ⟨_ | event⟩⟩ := w
  · exact Writes.emit .response _ about _ fun _ => ⟨rfl, about⟩
  · exact .done _ ⟨rfl, about⟩

theorem writes_receive (reply : Except Fault Message) :
    Writes plan About (fun v => v.1.Tells plan About) fun g s => w.receive g s start reply := by
  cases reply with
  | error e => exact .done _ h
  | ok m =>
    simp only [receive]
    split
    · exact .done _ h
    · split
      · exact (h.writes_complete start .close none).map (fun v => (v.1, passing m v.2)) fun _ hv => hv
      · exact .done _ h

theorem writes_send (m : Message) (refusal : Option Fault) :
    Writes plan About (fun v => v.1.Tells plan About) fun g s => w.send g s start m refusal := by
  simp only [send]
  split
  · exact .done _ h
  · next response _ =>
    have h' : Tells plan About { w with response } := ⟨h.plan_eq, h.about⟩
    cases refusal with
    | none =>
      dsimp only
      split
      · exact (h'.writes_complete start .finish none).map (fun v => (v.1, true, v.2)) fun _ hv => hv
      · exact .done _ h'
    | some e =>
      dsimp only
      split
      · exact (h'.writes_complete start .close none).map (fun v => (v.1, false, v.2 <|> some e))
          fun _ hv => hv
      · exact .done _ h'

theorem writes_unwind (e : Fault) :
    Writes plan About (fun v => v.1.Tells plan About) fun g s => w.unwind g s start e := by
  simp only [unwind]
  split
  · exact (h.writes_complete start .close none).map (fun v => (v.1, v.2.getD e)) fun _ hv => hv
  · split
    · exact (h.writes_complete start .finish (some e)).map (fun v => (v.1, v.2.getD e))
        fun _ hv => hv
    · exact .done _ h

end Watch.Tells

namespace Session

/-- The watch, if there is one, tells of its own exchange. -/
def Tells (plan : Plan) (About : Request → Prop) (x : Session) : Prop :=
  ∀ w, x.watch = some w → w.Tells plan About

/-- How a call for a message goes on from what the watch makes of it. -/
def received (x : Session) (handler : Handler) (v : Watch × Except Fault Message) (g : Logger)
    (s : Shared) : Step :=
  match v.2 with
  | .ok m => { shared := s, session := { x with watch := some v.1 }, reply := .got m }
  | .error e => { x with watch := some v.1 }.answerFault g s handler e

/-- How the sending of a message goes on from there. -/
def posted (x : Session) (m : Message) (handler : Handler) (v : Watch × Bool × Option Fault)
    (g : Logger) (s : Shared) : Step :=
  let sent := if v.2.1 then [m] else []
  match v.2.2 with
  | none => { shared := s, session := { x with watch := some v.1 }, sent }
  | some e => ({ x with watch := some v.1 }.answerFault g s handler e).after [] sent

/-- How a session begins, by how its request line fares. -/
def begun (x : Session) (plan : Plan) (request : Request) : Option Fault → Session
  | none => { x with watch := some { plan, request } }
  | some e => { x with ending := some (.raised e) }

variable {x : Session} {w : Watch} (g : Logger) (s : Shared)

theorem receive_watched (hw : x.watch = some w) (handler : Handler) :
    (x.receive g s handler).turn =
      let turn := w.receive g s x.start x.nextReply.1
      (x.nextReply.2.received handler turn.value g turn.shared).turn.after turn.effects := by
  have hw' : x.nextReply.2.watch = some w := (watch_nextReply x).trans hw
  simp only [receive, received, hw', start_nextReply]
  cases (w.receive g s x.start x.nextReply.1).value.2 <;>
    simp only [Turn.after, Step.turn, Step.after, List.append_nil, List.nil_append]

theorem send_watched (hw : x.watch = some w) (m : Message) (refusal : Option Fault)
    (handler : Handler) :
    (x.send g s m refusal handler).turn =
      let turn := w.send g s x.start m refusal
      (x.posted m handler turn.value g turn.shared).turn.after turn.effects := by
  simp only [send, posted, hw]
  cases (w.send g s x.start m refusal).value.2.2 <;>
    simp only [Turn.after, Step.turn, Step.after, List.append_nil, List.nil_append]

end Session

namespace Session.Tells

variable {x : Session}

theorem of_none (hw : x.watch = none) : x.Tells plan About :=
  fun _ hw' => nomatch hw.symm.trans hw'

theorem of_watch (x : Session) {w : Watch} (hw : w.Tells plan About) :
    { x with watch := some w }.Tells plan About := by
  rintro w ⟨⟩
  exact hw

variable (h : x.Tells plan About)
include h

/-- A step that leaves logger and watch alone. -/
theorem writes_still (sent : List Message) (reply : Reply) {y : Session}
    (hy : y.watch = x.watch) :
    Writes plan About (fun v => v.1.Tells plan About)
      fun _ s => { shared := s, session := y, sent, reply : Step }.turn :=
  .done (y, sent, reply) fun w hw => h w (hy.symm.trans hw)

theorem writes_fail (e : Fault) :
    Writes plan About (fun v => v.1.Tells plan About) fun g s => (x.fail g s e).turn := by
  cases hw : x.watch with
  | none =>
    simp only [fail, hw]
    exact h.writes_still [] .nothing hw.symm
  | some w =>
    simp only [fail, hw]
    refine ((h w hw).writes_unwind x.start e).map (fun v =>
      ({ x with watch := some v.1, ending := some (.raised v.2) }, [], Reply.nothing)) ?_
    rintro v hv w' ⟨⟩
    exact hv

theorem writes_answerFault (handler : Handler) (e : Fault) :
    Writes plan About (fun v => v.1.Tells plan About)
      fun g s => (x.answerFault g s handler e).turn := by
  simp only [answerFault]
  split
  · exact h.writes_still [] (.caught e) rfl
  · exact h.writes_fail e

theorem writes_receive (handler : Handler) :
    Writes plan About (fun v => v.1.Tells plan About) fun g s => (x.receive g s handler).turn := by
  cases hw : x.watch with
  | none =>
    have hbare : { x.nextReply.2 with watch := none }.Tells plan About := of_none rfl
    simp only [receive, watch_nextReply, hw]
    cases x.nextReply.1 with
    | ok m => exact hbare.writes_still [] (.got m) rfl
    | error e => exact hbare.writes_answerFault handler e
  | some w =>
    refine (((h w hw).writes_receive x.start x.nextReply.1).bind
      (fun v g s => (x.nextReply.2.received handler v g s).turn) ?_).of_eq
      fun g s => receive_watched g s hw handler
    rintro ⟨w', result⟩ hw'
    cases result with
    | ok m => exact (of_watch _ hw').writes_still [] (.got m) rfl
    | error e => exact (of_watch _ hw').writes_answerFault handler e

theorem writes_send (m : Message) (refusal : Option Fault) (handler : Handler) :
    Writes plan About (fun v => v.1.Tells plan About)
      fun g s => (x.send g s m refusal handler).turn := by
  cases hw : x.watch with
  | none =>
    have hbare : { x with watch := none }.Tells plan About := of_none rfl
    simp only [send, hw]
    cases refusal with
    | none => exact hbare.writes_still [m] .nothing rfl
    | some e => exact hbare.writes_answerFault handler e
  | some w =>
    refine (((h w hw).writes_send x.start m refusal).bind
      (fun v g s => (x.posted m handler v g s).turn) ?_).of_eq
      fun g s => send_watched g s hw m refusal handler
    rintro ⟨w', taken, fault⟩ hw'
    cases fault with
    | none => exact (of_watch _ hw').writes_still _ .nothing rfl
    | some e => exact ((of_watch _ hw').writes_answerFault handler e).step_after _

/-- What one step can do. -/
theorem writes_step (a : Action) :
    Writes plan About (fun v => v.1.Tells plan About) fun g s => (x.step g s a).turn := by
  by_cases hx : x.ending = none
  · simp only [step, hx, Option.isSome_none, Bool.false_eq_true, if_false]
    cases a with
    | receive handler => exact h.writes_receive handler
    | send m refusal handler => exact h.writes_send m refusal handler
    | raise e => exact h.writes_fail e
    | leave | abandon | setStart value | shiftStart amount | removeStart =>
      dsimp only
      refine h.writes_still [] .nothing ?_
      rfl
  · simp only [step_ended _ _ hx]
    exact h.writes_still [] .nothing rfl

end Session.Tells

/-- What an arrival can do at a reading of the clock, once the plan is found. -/
theorem Session.writes_arrive {scope : Scope}
    (about : ∀ request, scope.isHttp = true → scope.request = .ok request → About request)
    (queue : List (Except Fault Message)) (clock : Double) :
    ∃ f, Writes plan About (fun v => v.1.Tells plan About) f ∧
      ∀ g s, s.moment.clock = clock → (g.plan s).shared = s → (g.plan s).value = plan →
        (arrive g s scope queue).turn =
          (f g s).after (if scope.isHttp then (g.plan s).effects else []) := by
  cases hh : scope.isHttp with
  | false =>
    cases hk : scope.kind with
    | none =>
      let x : Session := { alone scope queue none with ending := some (.raised .untyped) }
      have hx : x.Tells plan About := .of_none rfl
      refine ⟨_, hx.writes_still [] .nothing rfl, fun g s _ _ _ => ?_⟩
      simp only [arrive, hk, Option.isNone_none, if_true]
      rfl
    | some kind =>
      have hx : (alone scope queue none).Tells plan About := .of_none rfl
      refine ⟨_, hx.writes_still [] .nothing rfl, fun g s _ _ _ => ?_⟩
      rw [arrive_other g s queue (by rw [hk]; rfl) hh]
      rfl
  | true =>
    cases hr : scope.request with
    | error e =>
      let x : Session := { alone scope queue (some clock) with ending := some (.raised e) }
      have hx : x.Tells plan About := .of_none rfl
      refine ⟨_, hx.writes_still [] .nothing rfl, fun g s hclock hs _ => ?_⟩
      rw [arrive_unreadable g s queue hh hr, hs, hclock]
      simp only [Step.turn, Turn.after, if_true, List.append_nil]
      rfl
    | ok request =>
      let x := alone scope queue (some clock)
      let context : Context := { request, start := some clock }
      have hbegun : ∀ fault, (x.begun plan request fault).Tells plan About := by
        rintro (_ | e) w ⟨⟩
        exact ⟨rfl, about request hh hr⟩
      refine ⟨_, Writes.emit .request context (about request hh hr)
        (fun fault => (x.begun plan request fault, [], Reply.nothing)) hbegun,
        fun g s hclock hs hplan => ?_⟩
      simp only [arrive_request g s hh hr, hs, hclock, hplan, Step.turn, Turn.after, if_true]
      cases (Watch.emit g s plan .request context).value <;> rfl

end AccessLog
