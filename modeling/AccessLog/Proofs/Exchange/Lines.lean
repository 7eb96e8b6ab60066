import AccessLog.Proofs.Exchange.Sign

/-!
The lines of one exchange. The request line is offered to the sink before the application does
anything, and without it the application never runs. The response line is offered at the first sign
that the exchange is over, whoever fails then; no step before or after it calls the sink.
-/
namespace AccessLog

/-- A call of the sink: the line, and whether the sink took it. -/
def Effect.call? : Effect → Option (Rendered × Bool)
  | .called line accepted => some (line, accepted)
  | .printed _ => none

def calls (effects : List Effect) : List (Rendered × Bool) := effects.filterMap Effect.call?

@[simp] theorem calls_nil : calls [] = [] := rfl

@[simp] theorem calls_append (a b : List Effect) : calls (a ++ b) = calls a ++ calls b :=
  List.filterMap_append

@[simp] theorem calls_print (text : Text.WideText) : calls (Logger.print text) = [] := by
  unfold Logger.print
  split <;> rfl

namespace Logger

variable (g : Logger) (s : Shared)

/-- Whether the sink takes the next line. Only a recorder may refuse it. -/
def accepts : Bool :=
  match g.sink with
  | .recorder => (g.refuses s.calls).isNone
  | _ => true

/-- The call that a line makes of the sink; a line that cannot be rendered makes none. -/
def offer (plan : Plan) (phase : Phase) (c : Context) : List (Rendered × Bool) :=
  match plan.render phase s.moment c with
  | .ok line => [(line, g.accepts s)]
  | .error _ => []

/-- The calls that an action makes. Only a sign makes any, and only if no `earlier` one has come; the
line then shows the response as it is in view, and the start time as the application has left it. -/
def offerOnSign (plan : Plan) (request : Request) (response : Response) (start : Option Double)
    (earlier : List Sign) (now : Option Sign) : List (Rendered × Bool) :=
  match earlier, now with
  | [], some sign => g.offer s plan .response
      { request, response, error := sign.error, start, outcome := some sign.outcome }
  | _, _ => []

theorem length_offer_le (plan : Plan) (phase : Phase) (c : Context) :
    (g.offer s plan phase c).length ≤ 1 := by
  unfold offer
  split <;> simp

@[simp] theorem offerOnSign_none (plan : Plan) (request : Request) (response : Response)
    (start : Option Double) (earlier : List Sign) :
    g.offerOnSign s plan request response start earlier none = [] := by
  cases earlier <;> rfl

@[simp] theorem offerOnSign_cons (plan : Plan) (request : Request) (response : Response)
    (start : Option Double) (first : Sign) (later : List Sign) (now : Option Sign) :
    g.offerOnSign s plan request response start (first :: later) now = [] := rfl

theorem length_offerOnSign_le (plan : Plan) (request : Request) (response : Response)
    (start : Option Double) (earlier : List Sign) (now : Option Sign) :
    (g.offerOnSign s plan request response start earlier now).length ≤ 1 := by
  unfold offerOnSign
  split
  · exact g.length_offer_le s plan .response _
  · exact Nat.zero_le 1

@[simp] theorem calls_announce (notices : List Notice) : calls (g.announce s notices) = [] := by
  induction notices with
  | nil => rfl
  | cons n ns ih =>
    rw [announce, List.flatMap_cons, calls_append, calls_print]
    exact ih

@[simp] theorem calls_plan : calls (g.plan s).effects = [] := calls_announce g s _

theorem calls_deliver (line : Rendered) :
    calls (g.deliver s line).effects = [(line, g.accepts s)] := by
  have hcons : ∀ taken rest, calls (.called line taken :: rest) = (line, taken) :: calls rest :=
    fun _ _ => rfl
  cases h : g.sink with
  | recorder | stdout | named => simp only [deliver, accepts, h]; rfl
  | journal => simp only [deliver, accepts, h, hcons, calls_print]

theorem value_deliver (line : Rendered) : (g.deliver s line).value.isNone = g.accepts s := by
  cases h : g.sink <;> simp only [deliver, accepts, h] <;> rfl

end Logger

namespace Watch

variable (g : Logger) (s : Shared) (plan : Plan) (phase : Phase) (c : Context)

theorem calls_emit : calls (emit g s plan phase c).effects = g.offer s plan phase c := by
  cases h : plan.render phase s.moment c with
  | ok line => simp only [emit, Logger.offer, h, Logger.calls_deliver]
  | error e => simp only [emit, Logger.offer, h, calls_nil]

/-- A line is written without a fault exactly if it was offered and taken. -/
theorem value_emit_eq_none_iff :
    (emit g s plan phase c).value = none ↔ ∃ line, g.offer s plan phase c = [(line, true)] := by
  cases h : plan.render phase s.moment c with
  | ok line =>
    simp only [emit, Logger.offer, h]
    rw [← Option.isNone_iff_eq_none, Logger.value_deliver]
    simp
  | error e => simp [emit, Logger.offer, h]

end Watch

theorem Scope.kind_of_isHttp {scope : Scope} (h : scope.isHttp = true) :
    scope.kind.isNone = false := by
  cases hk : scope.kind with
  | none => simp [isHttp, hk] at h
  | some kind => rfl

namespace Session

variable (g : Logger)

/-- The arrival of a request that can be read. -/
theorem arrive_request (s : Shared) {scope : Scope} {request : Request}
    (hh : scope.isHttp = true) (hr : scope.request = .ok request)
    (queue : List (Except Fault Message)) :
    arrive g s scope queue =
      let turn := g.plan s
      let line := Watch.emit g turn.shared turn.value .request
        { request, start := some s.moment.clock }
      { shared := line.shared
        effects := turn.effects ++ line.effects
        session := match line.value with
          | none => { alone scope queue (some s.moment.clock) with
              watch := some { plan := turn.value, request } }
          | some e => { alone scope queue (some s.moment.clock) with
              ending := some (.raised e) } } := by
  have hk : scope.kind.isNone = false := Scope.kind_of_isHttp hh
  simp only [arrive, hk, hh, Watch.start?, hr, Bool.false_eq_true, if_false, if_true]
  congr 1
  split <;> split <;> simp_all

/-- The signs of a course of moves, in order. -/
def signs (x : Session) : List (Shared × Action) → List Sign
  | [] => []
  | (s, a) :: moves => (x.sign? a).toList ++ signs (x.step g s a).session moves

end Session

/-- What the watch of a running exchange keeps: plan and request as they were, the response as the
actions so far have left it in view, and a latch that has fired once there has been a sign. -/
structure Watch.Kept (plan : Plan) (request : Request) (signs : List Sign) (actions : List Action)
    (w : Watch) : Prop where
  plan_eq : w.plan = plan
  request_eq : w.request = request
  response_eq : w.response = actions.foldl Response.noting {}
  fired_iff : w.latch.fired = true ↔ signs ≠ []

namespace Watch.Kept

variable {plan : Plan} {request : Request} {signs : List Sign} {actions : List Action} {w : Watch}

theorem noting (h : Kept plan request signs actions w) (a : Action) :
    Kept plan request signs (actions ++ [a]) (w.noting a) := by
  refine ⟨h.plan_eq, h.request_eq, ?_, h.fired_iff⟩
  rw [List.foldl_append, ← h.response_eq]
  rfl

theorem heed (h : Kept plan request signs actions w) (g : Logger) (s : Shared)
    (start : Option Double) (sign : Option Sign) :
    Kept plan request (signs ++ sign.toList) actions (w.heed g s start sign).value.1 := by
  cases sign with
  | none => simpa using h
  | some sign =>
    cases hf : w.latch.fired with
    | true =>
      rw [heed_of_fired g s start hf]
      exact ⟨h.plan_eq, h.request_eq, h.response_eq, by simp [hf]⟩
    | false =>
      rw [heed_of_armed g s w start hf]
      exact ⟨h.plan_eq, h.request_eq, h.response_eq, by simp [Latch.fired]⟩

/-- A sign calls the sink only if there has been none before. -/
theorem calls_heed (h : Kept plan request signs actions w) (g : Logger) (s : Shared)
    (start : Option Double) (sign? : Option Sign) :
    calls (w.heed g s start sign?).effects =
      g.offerOnSign s plan request (actions.foldl Response.noting {}) start signs sign? := by
  cases hs : signs with
  | nil =>
    have hf : w.latch.fired = false := by
      rw [← Bool.not_eq_true, h.fired_iff, hs]
      simp
    cases sign? with
    | none => rfl
    | some sign =>
      rw [heed_of_armed g s w start hf, ← h.plan_eq, ← h.request_eq, ← h.response_eq]
      exact calls_emit g s w.plan .response (w.context start sign.outcome sign.error)
  | cons first later =>
    have hf : w.latch.fired = true := by
      rw [h.fired_iff, hs]
      exact List.cons_ne_nil first later
    rw [heed_of_fired g s start hf, Logger.offerOnSign_cons]
    rfl

end Watch.Kept

/-- A session of a watched exchange. Once it has ended nothing is left to say of its watch. -/
structure Session.Watched (plan : Plan) (request : Request) (signs : List Sign)
    (actions : List Action) (x : Session) : Prop where
  readable : ∀ m, .ok m ∈ x.queue → m.Readable
  kept : x.ending = none → ∃ w, x.watch = some w ∧ w.Kept plan request signs actions

namespace Session.Watched

variable {plan : Plan} {request : Request} {signs : List Sign} {actions : List Action}
  {x : Session} {a : Action}

/-- One step keeps a watched exchange. -/
theorem step (h : x.Watched plan request signs actions) (g : Logger) (s : Shared)
    (ha : a.Readable) :
    (x.step g s a).session.Watched plan request (signs ++ (x.sign? a).toList)
      (actions ++ [a]) := by
  refine ⟨fun m hm => h.readable m (queue_step_subset g s x a hm), fun hend => ?_⟩
  by_cases hx : x.ending = none
  · obtain ⟨w, hw, hk⟩ := h.kept hx
    have hf := step_watched g s s hw hx ha (typed_nextReply h.readable)
    exact ⟨_, hf.watch, (hk.noting a).heed g s x.start (x.sign? a)⟩
  · rw [step_ended g s hx] at hend
    exact absurd hend hx

/-- The calls of one step. -/
theorem calls_step (h : x.Watched plan request signs actions) (g : Logger) (s : Shared)
    (ha : a.Readable) :
    calls (x.step g s a).effects =
      g.offerOnSign s plan request ((actions ++ [a]).foldl Response.noting {}) x.start signs
        (x.sign? a) := by
  by_cases hx : x.ending = none
  · obtain ⟨w, hw, hk⟩ := h.kept hx
    have hf := step_watched g s s hw hx ha (typed_nextReply h.readable)
    rw [hf.effects]
    exact (hk.noting a).calls_heed g s x.start (x.sign? a)
  · rw [step_ended g s hx, sign?_ended hx, Logger.offerOnSign_none]
    rfl

/-- A run keeps a watched exchange. -/
theorem after (h : x.Watched plan request signs actions) (g : Logger)
    (moves : List (Shared × Action)) (hm : ∀ move ∈ moves, move.2.Readable) :
    (x.after g moves).Watched plan request (signs ++ x.signs g moves)
      (actions ++ moves.map (·.2)) := by
  induction moves generalizing x signs actions with
  | nil => simpa [Session.after, Session.signs] using h
  | cons move moves ih =>
    obtain ⟨s, a⟩ := move
    have hstep := h.step g s (hm (s, a) List.mem_cons_self)
    have hrest := ih hstep fun move hmem => hm move (List.mem_cons_of_mem _ hmem)
    simpa only [Session.after, Session.signs, List.map_cons, List.append_assoc,
      List.singleton_append] using hrest

/-- After a sign a run calls the sink no more, and before it once at most. -/
theorem length_calls_run_le (h : x.Watched plan request signs actions) (g : Logger)
    (moves : List (Shared × Action)) (hm : ∀ move ∈ moves, move.2.Readable) :
    (calls ((x.run g moves).flatMap Step.effects)).length ≤ if signs = [] then 1 else 0 := by
  induction moves generalizing x signs actions with
  | nil => simp [run]
  | cons move moves ih =>
    obtain ⟨s, a⟩ := move
    have ha := hm (s, a) List.mem_cons_self
    have hstep := h.calls_step g s ha
    have hrest := ih (h.step g s ha) fun move hmem => hm move (List.mem_cons_of_mem _ hmem)
    rw [run, List.flatMap_cons, calls_append, List.length_append, hstep]
    cases signs with
    | cons first later => simpa using hrest
    | nil =>
      cases hsign : x.sign? a with
      | none => simpa [hsign] using hrest
      | some sign =>
        have hnone : ([] ++ (x.sign? a).toList : List Sign) ≠ [] := by simp [hsign]
        rw [if_neg hnone, Nat.le_zero] at hrest
        rw [if_pos rfl, hrest, Nat.add_zero]
        exact g.length_offerOnSign_le s plan request _ x.start [] (some sign)

end Session.Watched

namespace Session

/-- A session that was never reached stays as it is. -/
theorem run_ended (g : Logger) {x : Session} (hx : x.ending ≠ none)
    (moves : List (Shared × Action)) :
    ∀ step ∈ x.run g moves, step.effects = [] ∧ step.sent = [] ∧ step.reply = .nothing := by
  induction moves with
  | nil => exact fun _ h => absurd h List.not_mem_nil
  | cons move moves ih =>
    obtain ⟨s, a⟩ := move
    intro step h
    rw [run, step_ended g s hx] at h
    rcases List.mem_cons.mp h with rfl | h
    · exact ⟨rfl, rfl, rfl⟩
    · exact ih step h

variable (g : Logger) (s : Shared) {scope : Scope} {request : Request}
  {queue : List (Except Fault Message)}

/-- The session of a request that can be read is watched from its arrival on. -/
theorem watched_arrive (hh : scope.isHttp = true) (hr : scope.request = .ok request)
    (hq : ∀ m, .ok m ∈ queue → m.Readable) :
    (arrive g s scope queue).session.Watched (g.plan s).value request [] [] := by
  rw [arrive_request g s hh hr]
  dsimp only
  split
  · refine ⟨hq, fun _ => ⟨_, rfl, rfl, rfl, rfl, ?_⟩⟩
    simp [Latch.fired, Latch.armed]
  · exact ⟨hq, fun h => absurd h (Option.some_ne_none _)⟩

theorem calls_arrive (hh : scope.isHttp = true) (hr : scope.request = .ok request) :
    calls (arrive g s scope queue).effects =
      g.offer (g.plan s).shared (g.plan s).value .request
        { request, start := some s.moment.clock } := by
  rw [arrive_request g s hh hr]
  simp only [calls_append, Logger.calls_plan, List.nil_append, Watch.calls_emit]

/-- The application is reached exactly if the request line was offered and taken. -/
theorem ending_arrive_eq_none_iff (hh : scope.isHttp = true) (hr : scope.request = .ok request) :
    (arrive g s scope queue).session.ending = none ↔
      ∃ line, calls (arrive g s scope queue).effects = [(line, true)] := by
  rw [calls_arrive g s hh hr, ← Watch.value_emit_eq_none_iff, arrive_request g s hh hr]
  dsimp only
  split
  · next h => simp [h, alone]
  · next h => simp [h]

end Session

/-- The sink is called with the request line before the application acts, and if that fails the
application never runs. After that each step calls it only at the first sign that the exchange is
over, with the response line of that moment; so there are two calls at most. -/
theorem sink_called_at_first_sign (g : Logger) (s : Shared) (scope : Scope) (request : Request)
    (queue : List (Except Fault Message)) (hh : scope.isHttp = true)
    (hr : scope.request = .ok request) (hq : ∀ m, .ok m ∈ queue → m.Readable) :
    let plan := (g.plan s).value
    let opening := Session.arrive g s scope queue
    let x := opening.session
    (calls opening.effects = g.offer (g.plan s).shared plan .request
        { request, start := some s.moment.clock } ∧
      opening.sent = [] ∧ x.queue = queue ∧
      (x.ending = none ↔ ∃ line, calls opening.effects = [(line, true)])) ∧
    (x.ending ≠ none → ∀ moves, ∀ step ∈ x.run g moves,
      step.effects = [] ∧ step.sent = [] ∧ step.reply = .nothing) ∧
    (∀ before s' a, (∀ move ∈ before ++ [(s', a)], move.2.Readable) →
      calls ((x.after g before).step g s' a).effects =
        g.offerOnSign s' plan request (((before ++ [(s', a)]).map (·.2)).foldl Response.noting {})
          (x.after g before).start (x.signs g before) ((x.after g before).sign? a)) ∧
    (∀ moves, (∀ move ∈ moves, move.2.Readable) →
      (calls (opening.effects ++ (x.run g moves).flatMap Step.effects)).length ≤ 2) := by
  intro plan opening x
  have hx : x.Watched plan request [] [] := Session.watched_arrive g s hh hr hq
  have hcalls : calls opening.effects = g.offer (g.plan s).shared plan .request
      { request, start := some s.moment.clock } := Session.calls_arrive g s hh hr
  refine ⟨⟨hcalls, ?_, ?_, Session.ending_arrive_eq_none_iff g s hh hr⟩, ?_, ?_, ?_⟩
  · simp only [opening, Session.arrive_request g s hh hr]
  · simp only [x, opening, Session.arrive_request g s hh hr]
    split <;> rfl
  · exact fun hend moves => Session.run_ended g hend moves
  · intro before s' a hm
    have hbefore := hx.after g before fun move h => hm move (List.mem_append_left _ h)
    have ha : a.Readable := hm (s', a) (List.mem_append_right _ List.mem_cons_self)
    simpa only [List.nil_append, List.map_append, List.map_cons, List.map_nil] using
      hbefore.calls_step g s' ha
  · intro moves hm
    have hrun := hx.length_calls_run_le g moves hm
    have hopen : (calls opening.effects).length ≤ 1 := by
      rw [hcalls]
      exact g.length_offer_le (g.plan s).shared plan .request _
    rw [if_pos rfl] at hrun
    rw [calls_append, List.length_append]
    omega

/-- A request of which the server tells nothing. -/
def Scope.blank : Scope := { kind := some (.text "http") }

/-- The last piece of an empty body. -/
def Message.lastPiece : Message where
  fields := [("type", .text responseBody)]

theorem Message.readable_lastPiece : lastPiece.Readable := by
  constructor
  · rfl
  · intro h
    exact absurd h (by decide)

/-- A logger whose lines all read `a`, and whose sink refuses the second one. -/
def Logger.fickle : Logger where
  format := "a"
  compiler := ⟨false, false, false⟩
  sink := .recorder
  journal := {}
  refuses n := if n = 1 then some (.raised (Failure.simple .value "down")) else none

/-- Its plan at hand, and the clocks at nought. -/
def Shared.initial : Shared where
  plans := ⟨[("a", Logger.fickle.compiler.compile { items := [.literal "a"] })], 0⟩
  moment := ⟨Double.ofInt 0, ⟨⟨2024, 3, 5⟩, 9, 7, 2, 0, 0⟩⟩

/-- The transport refuses the last piece and then the sink refuses the line. An application that goes
on after both, and sends once more, causes no further call. -/
theorem sink_called_at_first_sign_fickle :
    let opening := Session.arrive .fickle .initial .blank []
    let send refusal := Action.send .lastPiece refusal ⟨fun _ => true⟩
    let refused := send (some (.raised (Failure.simple .connectionReset "")))
    let first := opening.session.step .fickle opening.shared refused
    Scope.blank.isHttp = true ∧ Scope.blank.request = .ok { method := "GET", url := "" } ∧
      refused.Readable ∧ (send none).Readable ∧
      calls first.effects = [(⟨"a", []⟩, false)] ∧
      calls (first.session.step .fickle first.shared (send none)).effects = [] := by
  intro opening send refused first
  have hr : ∀ refusal, (send refusal).Readable := by
    rintro refusal m ⟨⟩
    exact Message.readable_lastPiece
  have h := sink_called_at_first_sign .fickle .initial .blank { method := "GET", url := "" } [] rfl
    rfl (fun m hm => absurd hm List.not_mem_nil)
  refine ⟨rfl, rfl, hr _, hr none, ?_, ?_⟩
  · refine (h.2.2.1 [] opening.shared refused ?_).trans rfl
    rintro move hm
    rw [List.mem_singleton.mp hm]
    exact hr _
  · refine (h.2.2.1 [(opening.shared, refused)] first.shared (send none) ?_).trans rfl
    rintro move hm
    rcases List.mem_cons.mp hm with rfl | hm
    · exact hr _
    · rw [List.mem_singleton.mp hm]
      exact hr none

end AccessLog
