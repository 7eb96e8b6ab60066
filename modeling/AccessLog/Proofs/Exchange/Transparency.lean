import AccessLog.Proofs.Exchange.Lines

/-!
The logger in between. An application whose connection is watched sees, and shows the server, what it
would by itself, as long as every line is written; so it also acts alike, whatever it makes of what it
sees. A connection that is no request is not watched at all.
-/
namespace AccessLog

/-- What an application gets from a step: the answer to its call, and the start time that it finds. -/
structure Sight where
  reply : Reply
  start : Option Double

/-- An application decides on each action by what it is told of its connection and by all that it has
seen since, latest first. -/
abbrev Application := Scope → List Sight → Action

/-- The moves of an application, given what is shared at each of them. -/
def Application.moves (app : Application) (g : Logger) (x : Session) (seen : List Sight) :
    List Shared → List (Shared × Action)
  | [] => []
  | s :: later =>
    let a := app x.scope seen
    let step := x.step g s a
    (s, a) :: moves app g step.session (⟨step.reply, step.session.start⟩ :: seen) later

namespace Session

/-- The fault that the line of an action meets, if it writes one: of the rendering or of the sink. -/
def lineFault? (g : Logger) (s : Shared) (x : Session) (a : Action) : Option Fault :=
  match x.watch with
  | none => none
  | some w => ((w.noting a).heed g s x.start (x.sign? a)).value.2

/-- No line of a course of moves meets a fault. -/
def Quiet (g : Logger) (x : Session) : List (Shared × Action) → Prop
  | [] => True
  | (s, a) :: moves => x.lineFault? g s a = none ∧ Quiet g (x.step g s a).session moves

variable (g : Logger) (s : Shared) {x : Session}

/-- What becomes of a session that is not watched. -/
structure Unwatched (s : Shared) (step : Step) : Prop where
  shared : step.shared = s
  effects : step.effects = []
  watch : step.session.watch = none

theorem unwatched_answerFault (hw : x.watch = none) (handler : Handler) (e : Fault) :
    Unwatched s (x.answerFault g s handler e) := by
  unfold answerFault
  split
  · exact ⟨rfl, rfl, hw⟩
  · simp only [fail, hw]
    exact ⟨rfl, rfl, rfl⟩

theorem unwatched_receive (hw : x.watch = none) (handler : Handler) :
    Unwatched s (x.receive g s handler) := by
  have hw' : x.nextReply.2.watch = none := by rw [watch_nextReply, hw]
  simp only [receive, hw']
  cases x.nextReply.1 with
  | ok m => exact ⟨rfl, rfl, rfl⟩
  | error e =>
    have h := unwatched_answerFault g s (x := { x.nextReply.2 with watch := none }) rfl handler e
    exact ⟨h.shared, h.effects, h.watch⟩

theorem unwatched_send (hw : x.watch = none) (m : Message) (refusal : Option Fault)
    (handler : Handler) : Unwatched s (x.send g s m refusal handler) := by
  simp only [send, hw]
  cases refusal with
  | none => exact ⟨rfl, rfl, rfl⟩
  | some e =>
    have h := unwatched_answerFault g s (x := { x with watch := none }) rfl handler e
    exact ⟨h.shared, h.effects, h.watch⟩

/-- A session that is not watched never calls the sink, and stays so. -/
theorem unwatched_step (hw : x.watch = none) (a : Action) : Unwatched s (x.step g s a) := by
  by_cases hx : x.ending = none
  · cases a with
    | receive handler =>
      simp only [step, hx, Option.isSome_none, Bool.false_eq_true, if_false]
      exact unwatched_receive g s hw handler
    | send m refusal handler =>
      simp only [step, hx, Option.isSome_none, Bool.false_eq_true, if_false]
      exact unwatched_send g s hw m refusal handler
    | raise e =>
      simp only [step, hx, Option.isSome_none, Bool.false_eq_true, if_false, fail, hw]
      exact ⟨rfl, rfl, rfl⟩
    | leave | abandon | setStart value | shiftStart amount | removeStart =>
      simp only [step, hx, Option.isSome_none, Bool.false_eq_true, if_false]
      exact ⟨rfl, rfl, hw⟩
  · rw [step_ended g s hx]
    exact ⟨rfl, rfl, hw⟩

theorem bare_eq (hw : x.watch = none) : x.bare = x := by
  rw [bare, ← hw]

/-- A step whose line is written looks like the step of a bare session. -/
theorem seen_step (hq : ∀ m, .ok m ∈ x.queue → m.Readable) {a : Action} (ha : a.Readable)
    (hf : x.lineFault? g s a = none) : (x.step g s a).seen = (x.bare.step g s a).seen := by
  cases hw : x.watch with
  | none => rw [bare_eq hw]
  | some w =>
    by_cases hx : x.ending = none
    · have h := step_watched g s s hw hx ha (typed_nextReply hq)
      simp only [lineFault?, hw] at hf
      exact h.seen hf
    · rw [step_ended g s hx, step_ended g s (x := x.bare) hx]
      rfl

/-- So the session afterwards, taken by itself, is the one that the bare session comes to. -/
theorem bare_step (hq : ∀ m, .ok m ∈ x.queue → m.Readable) {a : Action} (ha : a.Readable)
    (hf : x.lineFault? g s a = none) :
    (x.step g s a).session.bare = (x.bare.step g s a).session := by
  have h := congrArg (·.2.2) (seen_step g s hq ha hf)
  have hb := (unwatched_step g s (x := x.bare) rfl a).watch
  exact h.trans (bare_eq hb)

/-- A run whose lines are written looks like the run of a bare session. -/
theorem seen_run (moves : List (Shared × Action)) (hq : ∀ m, .ok m ∈ x.queue → m.Readable)
    (hm : ∀ move ∈ moves, move.2.Readable) (hf : x.Quiet g moves) :
    (x.run g moves).map Step.seen = (x.bare.run g moves).map Step.seen := by
  induction moves generalizing x with
  | nil => rfl
  | cons move moves ih =>
    obtain ⟨s, a⟩ := move
    have ha := hm (s, a) List.mem_cons_self
    have hrest := ih (fun m h => hq m (queue_step_subset g s x a h))
      (fun move h => hm move (List.mem_cons_of_mem _ h)) hf.2
    rw [bare_step g s hq ha hf.1] at hrest
    simp only [run, List.map_cons, seen_step g s hq ha hf.1, hrest]

/-- Nothing calls the sink for a session that is not watched. -/
theorem effects_run (hw : x.watch = none) (moves : List (Shared × Action)) :
    ∀ step ∈ x.run g moves, step.effects = [] := by
  induction moves generalizing x with
  | nil => exact fun _ h => absurd h List.not_mem_nil
  | cons move moves ih =>
    have hu := unwatched_step g move.1 hw move.2
    intro step h
    rcases List.mem_cons.mp h with rfl | h
    · exact hu.effects
    · exact ih hu.watch step h

theorem bare_arrive {scope : Scope} {request : Request} (queue : List (Except Fault Message))
    (hh : scope.isHttp = true) (hr : scope.request = .ok request)
    (hend : (arrive g s scope queue).session.ending = none) :
    (arrive g s scope queue).session.bare = alone scope queue (some s.moment.clock) := by
  rw [arrive_request g s hh hr] at hend ⊢
  dsimp only at hend ⊢
  split at hend
  · rfl
  · exact absurd hend nofun

theorem arrive_unreadable {scope : Scope} {e : Fault} (queue : List (Except Fault Message))
    (hh : scope.isHttp = true) (hr : scope.request = .error e) :
    arrive g s scope queue =
      { shared := (g.plan s).shared
        effects := (g.plan s).effects
        session := { alone scope queue (some s.moment.clock) with ending := some (.raised e) } } := by
  have hk : scope.kind.isNone = false := Scope.kind_of_isHttp hh
  simp only [arrive, hk, hh, Watch.start?, hr, Bool.false_eq_true, if_false, if_true]

theorem arrive_other {scope : Scope} (queue : List (Except Fault Message))
    (hk : scope.kind.isSome = true) (hh : scope.isHttp = false) :
    arrive g s scope queue = { shared := s, session := alone scope queue none } := by
  have hn : scope.kind.isNone = false := by rw [← Option.not_isSome, hk]; rfl
  simp only [arrive, hn, hh, Bool.false_eq_true, if_false]

end Session

/-- An application that sees the same acts the same. -/
theorem Application.moves_bare (app : Application) (g : Logger) {x : Session} (seen : List Sight)
    (env : List Shared) (hq : ∀ m, .ok m ∈ x.queue → m.Readable)
    (hm : ∀ move ∈ app.moves g x seen env, move.2.Readable)
    (hf : x.Quiet g (app.moves g x seen env)) :
    app.moves g x.bare seen env = app.moves g x seen env := by
  induction env generalizing x seen with
  | nil => rfl
  | cons s later ih =>
    let a := app x.scope seen
    have ha : a.Readable := hm _ List.mem_cons_self
    have hbare : (x.step g s a).session.bare = (x.bare.step g s a).session :=
      Session.bare_step g s hq ha hf.1
    have hreply : (x.step g s a).reply = (x.bare.step g s a).reply :=
      congrArg (·.1) (Session.seen_step g s hq ha hf.1)
    have hstart : (x.step g s a).session.start = (x.bare.step g s a).session.start :=
      congrArg (·.start) hbare
    have hrest := ih (x := (x.step g s a).session) (⟨_, _⟩ :: seen)
      (fun m h => hq m (Session.queue_step_subset g s x a h))
      (fun move h => hm move (List.mem_cons_of_mem _ h)) hf.2
    rw [hbare, hreply, hstart] at hrest
    have hcons : app.moves g x seen (s :: later) =
        (s, a) :: app.moves g (x.step g s a).session
          (⟨(x.step g s a).reply, (x.step g s a).session.start⟩ :: seen) later := rfl
    rw [hcons, hreply, hstart, ← hrest]
    rfl

/-- Behind the logger an application acts as it does by itself, with the start time in place: it gets
the same messages and faults, the server gets the same messages, and it ends alike. Only a request
whose version cannot be read never reaches it. What is no request is handed to the application as it
is, and the sink is never called for it. -/
theorem alone_behind_logger (g : Logger) (s : Shared) (scope : Scope)
    (queue : List (Except Fault Message)) (app : Application) (env : List Shared) :
    let opening := Session.arrive g s scope queue
    let x := opening.session
    (∀ request, scope.isHttp = true → scope.request = .ok request →
      (∀ m, .ok m ∈ queue → m.Readable) →
      let y := Session.alone scope queue (some s.moment.clock)
      let moves := app.moves g x [⟨.nothing, x.start⟩] env
      (∃ line, calls opening.effects = [(line, true)]) → x.Quiet g moves →
      (∀ move ∈ moves, move.2.Readable) →
      app.moves g y [⟨.nothing, y.start⟩] env = moves ∧
      (x.run g moves).map Step.seen = (y.run g moves).map Step.seen) ∧
    (∀ e, scope.isHttp = true → scope.request = .error e →
      calls opening.effects = [] ∧ x.ending = some (.raised e) ∧
      ∀ moves, ∀ step ∈ x.run g moves,
        step.effects = [] ∧ step.sent = [] ∧ step.reply = .nothing) ∧
    (scope.kind.isSome = true → scope.isHttp = false →
      opening = { shared := s, session := Session.alone scope queue none } ∧
      ∀ moves, ∀ step ∈ x.run g moves, step.effects = []) := by
  intro opening x
  refine ⟨?_, ?_, ?_⟩
  · intro request hh hr hq y moves hline hquiet hm
    have hend : x.ending = none := (Session.ending_arrive_eq_none_iff g s hh hr).mpr hline
    have hbare : x.bare = y := Session.bare_arrive g s queue hh hr hend
    have hqueue : x.queue = queue := congrArg (·.queue) hbare
    have hstart : x.start = y.start := congrArg (·.start) hbare
    have hq' : ∀ m, .ok m ∈ x.queue → m.Readable := hqueue ▸ hq
    have hmoves := app.moves_bare g [⟨.nothing, x.start⟩] env hq' hm hquiet
    have hseen := Session.seen_run g moves hq' hm hquiet
    rw [hbare] at hmoves hseen
    rw [← hstart]
    exact ⟨hmoves, hseen⟩
  · intro e hh hr
    have hopen := Session.arrive_unreadable g s queue hh hr
    have hend : x.ending = some (.raised e) := congrArg (·.session.ending) hopen
    refine ⟨?_, hend, Session.run_ended g (by rw [hend]; exact nofun)⟩
    rw [show opening = _ from hopen, Logger.calls_plan]
  · intro hk hh
    have hopen : opening = _ := Session.arrive_other g s queue hk hh
    refine ⟨hopen, fun moves => Session.effects_run g ?_ moves⟩
    rw [show x = _ from congrArg (·.session) hopen]
    rfl

/-- A sink that takes every line. -/
def Logger.steady : Logger := { Logger.fickle with refuses := fun _ => none }

/-- An application that waits for a message, sends the last piece of a body, and leaves. -/
def Application.brief : Application
  | _, [_] => .receive ⟨fun _ => false⟩
  | _, [_, _] => .send .lastPiece none ⟨fun _ => false⟩
  | _, _ => .leave

theorem Application.readable_brief (g : Logger) (x : Session) (seen : List Sight)
    (env : List Shared) : ∀ move ∈ brief.moves g x seen env, move.2.Readable := by
  induction env generalizing x seen with
  | nil => exact fun _ h => absurd h List.not_mem_nil
  | cons s later ih =>
    intro move h
    rcases List.mem_cons.mp h with rfl | h
    · intro m hm
      match seen with
      | [_] => exact nomatch hm
      | [_, _] => cases hm; exact Message.readable_lastPiece
      | [] | _ :: _ :: _ :: _ => exact nomatch hm
    · exact ih _ _ move h

/-- The client goes away before the body is sent; behind the logger too both get through. A connection
of another kind passes. -/
theorem alone_behind_logger_brief :
    let opening := Session.arrive .steady .initial .blank []
    let x := opening.session
    let y := Session.alone .blank [] x.start
    let env := [opening.shared, opening.shared, opening.shared]
    let moves := Application.brief.moves .steady x [⟨.nothing, x.start⟩] env
    let other : Scope := { kind := some (.text "websocket") }
    let unread : Scope := { Scope.blank with version := some (.text "x") }
    (Scope.blank.isHttp = true ∧ Scope.blank.request = .ok { method := "GET", url := "" } ∧
      (∃ line, calls opening.effects = [(line, true)]) ∧ x.Quiet .steady moves ∧
      (x.run .steady moves).map Step.seen = (y.run .steady moves).map Step.seen) ∧
    (unread.isHttp = true ∧ unread.request = .error (.badVersion (.malformed "x")) ∧
      calls (Session.arrive .steady .initial unread []).effects = []) ∧
    (other.kind.isSome = true ∧ other.isHttp = false ∧
      Session.arrive .steady .initial other [] =
        { shared := .initial, session := Session.alone other [] none }) := by
  intro opening x y env moves other unread
  have hline : calls opening.effects = [(⟨"a", []⟩, true)] := rfl
  have hquiet : x.Quiet .steady moves := ⟨rfl, rfl, rfl, trivial⟩
  have hunread : unread.request = .error (.badVersion (.malformed "x")) := rfl
  have h := alone_behind_logger .steady .initial .blank [] .brief env
  refine ⟨⟨rfl, rfl, ⟨_, hline⟩, hquiet, ?_⟩, ⟨rfl, hunread, ?_⟩, ⟨rfl, rfl, ?_⟩⟩
  · exact (h.1 { method := "GET", url := "" } rfl rfl (fun m hm => absurd hm List.not_mem_nil)
      ⟨_, hline⟩ hquiet (Application.readable_brief _ _ _ _)).2
  · exact ((alone_behind_logger .steady .initial unread [] .brief env).2.1 _ rfl hunread).1
  · exact ((alone_behind_logger .steady .initial other [] .brief env).2.2 rfl rfl).1

/-- With a version that cannot be read: by itself the application returns, behind the logger it is never
reached. -/
theorem unreached_behind_logger :
    let scope : Scope := { Scope.blank with version := some (.text "x") }
    let opening := Session.arrive .steady .initial scope []
    let x := opening.session
    let y := Session.alone scope [] x.start
    let moves := [(opening.shared, Action.leave)]
    scope.isHttp = true ∧ calls opening.effects = [] ∧ x.Quiet .steady moves ∧
      (x.after .steady moves).ending = some (.raised (.badVersion (.malformed "x"))) ∧
      (y.after .steady moves).ending = some .returned := by
  exact ⟨rfl, rfl, ⟨rfl, trivial⟩, rfl, rfl⟩

end AccessLog
