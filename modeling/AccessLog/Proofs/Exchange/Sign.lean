import AccessLog.Logger.Session

/-!
Signs that an exchange is over, told by what passes between application and server and by nothing
that the logger keeps. `step_watched` is the one law of a watched step that later modules use: the
watch heeds the first sign of the action, and where that goes well the step is the one of an
application that is by itself.
-/
namespace AccessLog

namespace Message

/-- A message with a type, whose headers can be read where it starts a response. -/
structure Readable (m : Message) : Prop where
  typed : m.isTyped = true
  listed : m.isKind responseStart = true → ∀ d, m.field? "headers" = some d →
    ∃ pairs, d = .list pairs ∧ ∀ p ∈ pairs, (headerOf? p).isSome = true

theorem readable_gone : gone.Readable := by
  constructor
  · decide
  · intro h
    exact absurd h (by decide)

end Message

/-- A sign that an exchange is over, and the error that comes with it. -/
structure Sign where
  outcome : Outcome
  error : Option Fault := none

namespace Sign

def close : Sign := ⟨.close, none⟩

def finish (error : Option Fault) : Sign := ⟨.finish, error⟩

/-- A fault leaves the application: it was cancelled, or it failed. Other interruptions are no sign. -/
def ofFault (e : Fault) : Option Sign :=
  if e.isCancelled then some close else if e.isOrdinary then some (finish (some e)) else none

/-- A call of the application fails; that leaves the application unless it goes on after it. -/
def ofCallFault (handler : Handler) (e : Fault) : Option Sign :=
  if handler.handles e then none else ofFault e

/-- The server answers with a message: it may say that the client has gone. -/
def ofMessage (m : Message) : Option Sign :=
  if m.isKind Message.disconnect then some close else none

/-- The server takes a message: it may be the last piece of the body. -/
def ofTaken (m : Message) : Option Sign := if m.endsBody then some (finish none) else none

/-- The server refuses a message: the transport to the client may be gone. -/
def ofRefusal (e : Fault) : Option Sign := if e.isTransport then some close else none

end Sign

namespace Session

/-- The first sign that an action brings. -/
def sign? (x : Session) (a : Action) : Option Sign :=
  if x.ending.isSome then none
  else
    match a with
    | .receive handler =>
      match x.nextReply.1 with
      | .ok m => Sign.ofMessage m
      | .error e => Sign.ofCallFault handler e
    | .send m none _ => Sign.ofTaken m
    | .send _ (some e) handler => Sign.ofRefusal e <|> Sign.ofCallFault handler e
    | .raise e => Sign.ofFault e
    | _ => none

end Session

/-- The response as an action leaves it in view: the application has started it, or not. -/
def Response.noting (r : Response) : Action → Response
  | .send m _ _ => if m.isKind Message.responseStart then ⟨m.status?, m.headers⟩ else r
  | _ => r

/-- The message that an action sends. -/
def Action.message? : Action → Option Message
  | .send m _ _ => some m
  | _ => none

def Action.Readable (a : Action) : Prop := ∀ m, a.message? = some m → m.Readable

namespace Watch

def noting (w : Watch) (a : Action) : Watch := { w with response := w.response.noting a }

/-- What a watch does about a sign, if there is one. -/
def heed (g : Logger) (s : Shared) (w : Watch) (start : Option Double) :
    Option Sign → Turn (Watch × Option Fault)
  | none => ⟨s, [], (w, none)⟩
  | some sign => w.complete g s start sign.outcome sign.error

variable (g : Logger) (s : Shared) (w : Watch) (start : Option Double)

@[simp] theorem heed_none : w.heed g s start none = ⟨s, [], (w, none)⟩ := rfl

/-- The first sign writes the response line. -/
theorem heed_of_armed (h : w.latch.fired = false) (sign : Sign) :
    w.heed g s start (some sign) =
      let turn := emit g s w.plan .response (w.context start sign.outcome sign.error)
      ⟨turn.shared, turn.effects, ({ w with latch := ⟨some sign.outcome⟩ }, turn.value)⟩ := by
  obtain ⟨plan, request, response, ⟨_ | event⟩⟩ := w
  · rfl
  · exact absurd h (by simp [Latch.fired])

/-- Later signs do nothing. -/
theorem heed_of_fired {w : Watch} (h : w.latch.fired = true) (sign : Option Sign) :
    w.heed g s start sign = ⟨s, [], (w, none)⟩ := by
  obtain ⟨plan, request, response, ⟨_ | event⟩⟩ := w
  · exact absurd h (by simp [Latch.fired])
  · cases sign <;> rfl

@[simp] theorem fired_heed (sign : Sign) :
    (w.heed g s start (some sign)).value.1.latch.fired = true := by
  cases h : w.latch.fired with
  | false => rw [heed_of_armed g s w start h]; rfl
  | true => rw [heed_of_fired g s start h]; exact h

/-- A fault comes only of the sign that fires the latch. -/
theorem fired_of_fault (sign : Option Sign)
    (h : (w.heed g s start sign).value.2.isSome = true) :
    (w.heed g s start sign).value.1.latch.fired = true := by
  cases sign with
  | none => exact absurd h Bool.false_ne_true
  | some sign => exact fired_heed g s w start sign

theorem receive_message {m : Message} (h : m.isTyped = true) :
    w.receive g s start (.ok m) =
      let turn := w.heed g s start (Sign.ofMessage m)
      ⟨turn.shared, turn.effects, (turn.value.1,
        match turn.value.2 with
        | some e => .error e
        | none => .ok m)⟩ := by
  by_cases hm : m.isKind Message.disconnect = true
  · simp only [receive, h, hm, Sign.ofMessage, Bool.not_true, Bool.false_eq_true, if_true, if_false]
    rfl
  · simp [receive, h, hm, Sign.ofMessage]

theorem send_taken {m : Message} (h : m.isTyped = true) (handler : Handler) :
    w.send g s start m none =
      let turn := (w.noting (.send m none handler)).heed g s start (Sign.ofTaken m)
      ⟨turn.shared, turn.effects, (turn.value.1, true, turn.value.2)⟩ := by
  simp only [send, Response.observe, h, if_true]
  by_cases hm : m.endsBody = true
  · simp only [hm, Sign.ofTaken, if_true]
    rfl
  · simp only [hm, Sign.ofTaken, if_false, Bool.false_eq_true]
    rfl

theorem send_refused {m : Message} (h : m.isTyped = true) (e : Fault) (handler : Handler) :
    w.send g s start m (some e) =
      let turn := (w.noting (.send m (some e) handler)).heed g s start (Sign.ofRefusal e)
      ⟨turn.shared, turn.effects, (turn.value.1, false, some (turn.value.2.getD e))⟩ := by
  simp only [send, Response.observe, h, if_true]
  by_cases he : e.isTransport = true
  · simp only [he, Sign.ofRefusal, if_true, Option.orElse_eq_orElse, Option.orElse_eq_or]
    simp [heed, noting, Response.noting, Sign.close]
  · simp only [he, Sign.ofRefusal, if_false, Bool.false_eq_true]
    rfl

theorem unwind_eq_heed (e : Fault) :
    w.unwind g s start e =
      let turn := w.heed g s start (Sign.ofFault e)
      ⟨turn.shared, turn.effects, (turn.value.1, turn.value.2.getD e)⟩ := by
  by_cases hc : e.isCancelled = true
  · simp [unwind, Sign.ofFault, hc, heed, Sign.close]
  · by_cases ho : e.isOrdinary = true
    · simp [unwind, Sign.ofFault, hc, ho, heed, Sign.finish]
    · simp [unwind, Sign.ofFault, hc, ho]

end Watch

/-- The session as application and server know it. -/
def Session.bare (x : Session) : Session := { x with watch := none }

/-- What application and server see of a step. -/
def Step.seen (step : Step) : Reply × List Message × Session :=
  (step.reply, step.sent, step.session.bare)

/-- A watched step does what the watch's own turn does. Where no fault comes of that, application and
server see what they see in the step of a bare session. -/
structure Follows (turn : Turn (Watch × Option Fault)) (step bare : Step) : Prop where
  shared : step.shared = turn.shared
  effects : step.effects = turn.effects
  watch : step.session.watch = some turn.value.1
  seen : turn.value.2 = none → step.seen = bare.seen

namespace Session

variable (g : Logger) (s s' : Shared) {x : Session} {w : Watch}

theorem follows_fail (hw : x.watch = some w) (e : Fault) :
    Follows (w.heed g s x.start (Sign.ofFault e)) (x.fail g s e) (x.bare.fail g s' e) := by
  have hstep : x.fail g s e =
      let turn := w.heed g s x.start (Sign.ofFault e)
      { shared := turn.shared
        effects := turn.effects
        session := { x with
          watch := some turn.value.1
          ending := some (.raised (turn.value.2.getD e)) } } := by
    simp only [fail, hw, Watch.unwind_eq_heed]
  rw [hstep]
  refine ⟨rfl, rfl, rfl, fun hn => ?_⟩
  simp only [hn, Option.getD_none]
  rfl

theorem follows_answerFault (hw : x.watch = some w) (handler : Handler) (e : Fault) :
    Follows (w.heed g s x.start (Sign.ofCallFault handler e)) (x.answerFault g s handler e)
      (x.bare.answerFault g s' handler e) := by
  by_cases hh : handler.handles e = true
  · simp only [answerFault, Sign.ofCallFault, hh, if_true]
    exact ⟨rfl, rfl, hw, fun _ => rfl⟩
  · simp only [answerFault, Sign.ofCallFault, hh, if_false, Bool.false_eq_true]
    exact follows_fail g s s' hw e

/-- Once the watch has heeded a sign, a fault of the same call brings nothing more. -/
theorem follows_answerFault_of_fired (hw : x.watch = some w) (hf : w.latch.fired = true)
    (handler : Handler) (e : Fault) :
    Follows ⟨s, [], (w, none)⟩ (x.answerFault g s handler e)
      (x.bare.answerFault g s' handler e) := by
  have h := follows_answerFault g s s' hw handler e
  rwa [Watch.heed_of_fired g s x.start hf] at h

/-- The fault of a line becomes the fault of the call, and nothing more is written for it. -/
theorem follows_interrupted (hw : x.watch = some w) (hf : w.latch.fired = true)
    (effects : List Effect) (sent : List Message) (handler : Handler) (e : Fault) (bare : Step) :
    Follows ⟨s, effects, (w, some e)⟩ ((x.answerFault g s handler e).after effects sent) bare := by
  have h := follows_answerFault_of_fired g s s hw hf handler e
  refine ⟨h.shared, ?_, h.watch, fun hn => nomatch hn⟩
  rw [Step.after, h.effects, List.append_nil]

@[simp] theorem watch_nextReply (x : Session) : x.nextReply.2.watch = x.watch := by
  unfold nextReply
  split <;> rfl

@[simp] theorem start_nextReply (x : Session) : x.nextReply.2.start = x.start := by
  unfold nextReply
  split <;> rfl

@[simp] theorem nextReply_bare (x : Session) :
    x.bare.nextReply = (x.nextReply.1, x.nextReply.2.bare) := by
  obtain ⟨watch, scope, queue, start, ending⟩ := x
  cases queue <;> rfl

theorem follows_receive (hw : x.watch = some w)
    (hq : ∀ m, x.nextReply.1 = .ok m → m.isTyped = true) (handler : Handler) :
    Follows
      (w.heed g s x.start (match x.nextReply.1 with
        | .ok m => Sign.ofMessage m
        | .error e => Sign.ofCallFault handler e))
      (x.receive g s handler) (x.bare.receive g s' handler) := by
  have hw' : x.nextReply.2.watch = some w := by rw [watch_nextReply, hw]
  have hs : x.nextReply.2.start = x.start := start_nextReply x
  have hb : x.bare.nextReply = (x.nextReply.1, x.nextReply.2.bare) := nextReply_bare x
  simp only [receive, hb]
  generalize x.nextReply.2 = y at hw' hs
  rw [← hs]
  cases hr : x.nextReply.1 with
  | error e =>
    have hy : { y with watch := some w } = y := by rw [← hw']
    have h := follows_answerFault g s s' hw' handler e
    simp only [hw', Watch.receive, Session.bare, hy]
    exact ⟨h.shared, h.effects, h.watch, h.seen⟩
  | ok m =>
    simp only [hw', Watch.receive_message g s w y.start (hq m hr)]
    generalize hturn : w.heed g s y.start (Sign.ofMessage m) = turn
    have hf := Watch.fired_of_fault g s w y.start (Sign.ofMessage m)
    rw [hturn] at hf
    obtain ⟨shared, effects, w', _ | e⟩ := turn
    · exact ⟨rfl, rfl, rfl, fun _ => rfl⟩
    · exact follows_interrupted g shared rfl (hf rfl) effects [] handler e _

theorem follows_send_taken (hw : x.watch = some w) {m : Message} (hm : m.isTyped = true)
    (handler : Handler) :
    Follows ((w.noting (.send m none handler)).heed g s x.start (Sign.ofTaken m))
      (x.send g s m none handler) (x.bare.send g s' m none handler) := by
  have hf := Watch.fired_of_fault g s (w.noting (.send m none handler)) x.start (Sign.ofTaken m)
  simp only [send, hw, Watch.send_taken g s w x.start hm handler]
  generalize (w.noting (.send m none handler)).heed g s x.start (Sign.ofTaken m) = turn at hf
  obtain ⟨shared, effects, w', _ | e⟩ := turn
  · exact ⟨rfl, rfl, rfl, fun _ => rfl⟩
  · exact follows_interrupted g shared rfl (hf rfl) effects [m] handler e _

theorem follows_send_refused (hw : x.watch = some w) {m : Message} (hm : m.isTyped = true)
    (e : Fault) (handler : Handler) :
    Follows
      ((w.noting (.send m (some e) handler)).heed g s x.start
        (Sign.ofRefusal e <|> Sign.ofCallFault handler e))
      (x.send g s m (some e) handler) (x.bare.send g s' m (some e) handler) := by
  have hstep := Watch.send_refused g s w x.start hm e handler
  generalize w.noting (.send m (some e) handler) = noted at hstep
  simp only [send, hw, hstep, Bool.false_eq_true, if_false]
  by_cases he : e.isTransport = true
  · have hsign : Sign.ofRefusal e = some .close := if_pos he
    have hf := Watch.fired_heed g s noted x.start .close
    simp only [hsign, Option.orElse_eq_orElse, Option.orElse_some]
    generalize noted.heed g s x.start (some .close) = turn at hf
    obtain ⟨shared, effects, w', _ | f⟩ := turn
    · -- the line is written, and the refusal goes on to the application
      have h := follows_answerFault_of_fired g shared s' (x := { x with watch := some w' }) rfl hf
        handler e
      refine ⟨h.shared, ?_, h.watch, fun _ => h.seen rfl⟩
      exact (congrArg (effects ++ ·) h.effects).trans (List.append_nil effects)
    · exact follows_interrupted g shared rfl hf effects [] handler f _
  · have hsign : Sign.ofRefusal e = none := if_neg he
    have h := follows_answerFault g s s' (x := { x with watch := some noted }) rfl handler e
    simp only [hsign, Option.orElse_eq_orElse, Option.orElse_none]
    exact ⟨h.shared, h.effects, h.watch, h.seen⟩

/-- The law of a watched step. -/
theorem step_watched (hw : x.watch = some w) (hx : x.ending = none) {a : Action}
    (ha : a.Readable) (hq : ∀ m, x.nextReply.1 = .ok m → m.isTyped = true) :
    Follows ((w.noting a).heed g s x.start (x.sign? a)) (x.step g s a) (x.bare.step g s' a) := by
  have hb : x.bare.ending = none := hx
  cases a with
  | receive handler =>
    simp only [step, sign?, hx, hb, Option.isSome_none, Bool.false_eq_true, if_false]
    exact follows_receive g s s' hw hq handler
  | send m refusal handler =>
    simp only [step, sign?, hx, hb, Option.isSome_none, Bool.false_eq_true, if_false]
    cases refusal with
    | none => exact follows_send_taken g s s' hw (ha m rfl).typed handler
    | some e => exact follows_send_refused g s s' hw (ha m rfl).typed e handler
  | raise e =>
    simp only [step, sign?, hx, hb, Option.isSome_none, Bool.false_eq_true, if_false]
    exact follows_fail g s s' hw e
  | leave | abandon | setStart value | shiftStart amount | removeStart =>
    simp only [step, sign?, hx, hb, Option.isSome_none, Bool.false_eq_true, if_false]
    exact ⟨rfl, rfl, hw, fun _ => rfl⟩

/-- Nothing happens in a session that has ended. -/
theorem step_ended (hx : x.ending ≠ none) (a : Action) :
    x.step g s a = { shared := s, session := x } := by
  have h : x.ending.isSome = true := Option.isSome_iff_ne_none.mpr hx
  unfold step
  exact if_pos h

theorem sign?_ended (hx : x.ending ≠ none) (a : Action) : x.sign? a = none := by
  have h : x.ending.isSome = true := Option.isSome_iff_ne_none.mpr hx
  unfold sign?
  exact if_pos h

theorem queue_fail (x : Session) (e : Fault) : (x.fail g s e).session.queue = x.queue := by
  unfold fail
  split <;> rfl

theorem queue_answerFault (x : Session) (handler : Handler) (e : Fault) :
    (x.answerFault g s handler e).session.queue = x.queue := by
  unfold answerFault
  split
  · rfl
  · exact queue_fail g s x e

theorem queue_receive (x : Session) (handler : Handler) :
    (x.receive g s handler).session.queue = x.nextReply.2.queue := by
  simp only [receive]
  split
  · rfl
  · exact queue_answerFault g _ _ handler _

theorem queue_send (x : Session) (m : Message) (refusal : Option Fault) (handler : Handler) :
    (x.send g s m refusal handler).session.queue = x.queue := by
  simp only [send]
  split
  · rfl
  · exact queue_answerFault g _ _ handler _

/-- The server has in store what it had before, or one answer less. -/
theorem queue_step_subset (x : Session) (a : Action) :
    (x.step g s a).session.queue ⊆ x.queue := by
  unfold step
  split
  · exact List.Subset.refl _
  · cases a with
    | receive handler =>
      simp only [queue_receive]
      unfold nextReply
      split
      · exact List.Subset.refl _
      · next h => rw [h]; exact List.subset_cons_self _ _
    | send m refusal handler =>
      simp only [queue_send]
      exact List.Subset.refl _
    | raise e =>
      simp only [queue_fail]
      exact List.Subset.refl _
    | leave | abandon | setStart value | shiftStart amount | removeStart =>
      exact List.Subset.refl _

theorem typed_nextReply {x : Session} (h : ∀ m, .ok m ∈ x.queue → m.Readable) :
    ∀ m, x.nextReply.1 = .ok m → m.isTyped = true := by
  intro m hm
  obtain ⟨watch, scope, queue, start, ending⟩ := x
  cases queue with
  | nil =>
    cases hm
    exact Message.readable_gone.typed
  | cons reply rest =>
    have hr : reply = .ok m := hm
    exact (h m (hr ▸ List.mem_cons_self)).typed

end Session

end AccessLog
