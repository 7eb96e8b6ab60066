import AccessLog.Logger.Options
import AccessLog.Logger.Service
import AccessLog.Proofs.Exchange.Writing
import AccessLog.Proofs.Plan.Sharing

/-!
Several exchanges behind one logger. What they share is the plan, which no look-up changes once the
logger is made (`Logger.plan_of_settled`), the clocks, and the number of calls of the sink, of which
an exchange sees no more than the answers to its own. So an event does to its exchange what it would
do if there were no others (`Service.exists_moves`), and a run, cut down to the events of one exchange,
is the run of that exchange alone (`Service.history_beside`).

An action of an application is one event, which comes when the server has answered: what the action
does before that only its own session can see.
-/
namespace AccessLog

namespace Logger

variable (g : Logger) {s : Shared}

def ownPlan : Plan := g.compiler.build g.format

/-- The logger's plan is stored, or there is no room for it. -/
def Settled (plans : PlanCache Plan) : Prop :=
  plans.get? g.format = some g.ownPlan ∨ (plans.get? g.format = none ∧ plans.isFull = true)

/-- How the plan is had from a look-up. -/
theorem plan_eq_of_outcome {cache : PlanCache Plan} {plan : Plan}
    (hc : (g.compiler.asking g.format s.plans).outcome.cache = cache)
    (hr : (g.compiler.asking g.format s.plans).outcome.result = .ok plan) :
    (g.plan s).shared = { s with plans := cache } ∧ (g.plan s).value = plan := by
  have hrun : ((g.compiler.cached g.format : Retrieval Empty Plan).run s.plans).result = .ok plan :=
    hr
  subst hc
  refine ⟨rfl, ?_⟩
  simp only [Logger.plan, hrun]

variable {g}

/-- Nothing is changed by asking for a settled plan. -/
theorem plan_of_settled (h : g.Settled s.plans) :
    (g.plan s).shared = s ∧ (g.plan s).value = g.ownPlan := by
  let k := g.compiler.asking g.format s.plans
  have hbuilt : k.built = _ := g.compiler.built_asking g.format s.plans
  have hk : k.outcome.cache = s.plans ∧ k.outcome.result = .ok g.ownPlan := by
    rcases h with hget | ⟨hget, hfull⟩
    · rw [k.outcome_of_some hget]
      exact ⟨rfl, rfl⟩
    · rcases k.outcome_cases hget with ⟨e, he, -⟩ | ⟨own, hown, -, hr, hc⟩ | ⟨own, -, hroom, -⟩
      · rw [hbuilt] at he
        cases he
      · rw [hbuilt] at hown hc
        cases hown
        exact ⟨hc, hr⟩
      · rw [hbuilt] at hroom
        exact absurd (hroom.symm.trans hfull) Bool.false_ne_true
  exact g.plan_eq_of_outcome hk.1 hk.2

/-- The first asking settles the plan, whatever the capacity. -/
theorem settled_plan (h : s.plans.get? g.format = none) :
    g.Settled (g.plan s).shared.plans := by
  let k := g.compiler.asking g.format s.plans
  have hbuilt : k.built = _ := g.compiler.built_asking g.format s.plans
  rcases k.outcome_cases h with ⟨e, he, -⟩ | ⟨own, hown, hfull, hr, hc⟩ | ⟨own, hown, -, hr, hc⟩
  · rw [hbuilt] at he
    cases he
  · rw [hbuilt] at hfull hc
    rw [(g.plan_eq_of_outcome hc hr).1]
    exact .inr ⟨h, hfull⟩
  · rw [hbuilt] at hown hr hc
    cases hown
    rw [(g.plan_eq_of_outcome hc hr).1]
    exact .inl ((PlanCache.get?_publish_self _ _ _).trans
      (congrArg (fun p => some p.2) (PlanCache.publish_of_none h g.ownPlan)))

/-- What a new logger starts with, made for a format and options of its own. -/
theorem create_spec {settings : Settings} {terminal : Bool} {journal : Journal} {o : Options}
    {refuses : Nat → Option Fault} {moment : Moment} {turn : Turn Logger}
    (h : create settings terminal journal o refuses moment = .ok turn) :
    turn.value.Settled turn.shared.plans ∧ turn.shared.calls = 0 ∧
      turn.value.refuses = refuses ∧
      turn.value.ownPlan = (o.chosenCompiler settings terminal).build (o.chosenFormat settings) := by
  unfold create at h
  cases hsink : Sink.resolve o.sink (Options.defaultSink settings) with
  | error e =>
    rw [hsink] at h
    cases h
  | ok sink =>
    rw [hsink] at h
    cases h
    exact ⟨settled_plan (PlanCache.get?_empty _ _), rfl, rfl, rfl⟩

end Logger

namespace Service

/-- The exchange that an event belongs to; the clocks belong to none. -/
def Event.owner? : Event → Option String
  | .clock _ | .date _ => none
  | .arrive name _ _ | .act name _ => some name

/-- What an exchange would meet if it were alone: its own events, and those of the clocks. -/
def Event.concerns (name : String) (e : Event) : Bool := e.owner?.all (· == name)

theorem Event.concerns_of_none {e : Event} (h : e.owner? = none) (name : String) :
    e.concerns name = true := by
  rw [concerns, h]
  rfl

theorem Event.concerns_of_some {e : Event} {owner : String} (h : e.owner? = some owner)
    (name : String) : e.concerns name = (owner == name) := by
  rw [concerns, h]
  rfl

/-- The events with what happened at each. -/
def history (v : Service) (events : List Event) : List (Event × Report) :=
  events.zip (v.run events)

/-- The calls of the sink at an event, each with the exchange that it belongs to. -/
def entries (moment : Event × Report) : List (String × Rendered × Bool) :=
  match moment.1.owner? with
  | none => []
  | some name => (calls moment.2.effects).map (name, ·)

/-- All calls of the sink in a run. -/
def ledger (v : Service) (events : List Event) : List (String × Rendered × Bool) :=
  (v.history events).flatMap entries

/-- What the sink answers to the calls at an event. -/
def answers (v : Service) (e : Event) : List (Option Fault) :=
  (List.range' v.shared.calls ((v.step e).1.shared.calls - v.shared.calls)).map v.logger.refuses

/-- What the sink answers, in a run, to the calls of one exchange. -/
def answersTo (name : String) : Service → List Event → List (Option Fault)
  | _, [] => []
  | v, e :: events =>
    (if e.owner? = some name then v.answers e else []) ++ answersTo name (v.step e).1 events

@[simp] theorem history_nil (v : Service) : v.history [] = [] := rfl

@[simp] theorem history_cons (v : Service) (e : Event) (events : List Event) :
    v.history (e :: events) = (e, (v.step e).2) :: (v.step e).1.history events := rfl

theorem logger_step (v : Service) (e : Event) : (v.step e).1.logger = v.logger := by
  cases e with
  | clock | date | arrive => rfl
  | act name action =>
    simp only [step]
    split <;> rfl

theorem session?_put_self (v : Service) (name : String) (x : Session) :
    (v.put name x).session? name = some x := by
  simp only [session?, put, List.lookup_cons, beq_self_eq_true]

theorem session?_put_ne (v : Service) {name other : String} (h : other ≠ name) (x : Session) :
    (v.put name x).session? other = v.session? other := by
  have hfilter : ∀ sessions : List (String × Session),
      (sessions.filter (·.1 ≠ name)).lookup other = sessions.lookup other := by
    intro sessions
    induction sessions with
    | nil => rfl
    | cons entry sessions ih =>
      obtain ⟨key, y⟩ := entry
      rw [List.filter_cons]
      split
      · simp only [List.lookup_cons, ih]
      · next hkey =>
        have hkey : key = name := by simpa using hkey
        rw [ih, List.lookup_cons, beq_false_of_ne (hkey ▸ h)]
  simp only [session?, put, List.lookup_cons, beq_false_of_ne h]
  exact hfilter v.sessions

/-- A service with the same exchange. Nothing is said of its other exchanges and of what its sink
answers to them. -/
structure Beside (name : String) (u v : Service) : Prop where
  logger : u.logger = { v.logger with refuses := u.logger.refuses }
  shared : u.shared = { v.shared with calls := u.shared.calls }
  session : u.session? name = v.session? name

/-- A service whose plan is settled, and whose sessions tell of their own exchanges. -/
structure Sound (About : String → Request → Prop) (v : Service) : Prop where
  settled : v.logger.Settled v.shared.plans
  tells : ∀ name x, v.session? name = some x → x.Tells v.logger.ownPlan (About name)

/-- What an event does to its exchange, and how little it depends on the others. -/
structure Moves (About : String → Request → Prop) (name : String) (v : Service) (e : Event)
    (made : Nat) : Prop where
  shared : (v.step e).1.shared = { v.shared with calls := v.shared.calls + made }
  others : ∀ other ≠ name, (v.step e).1.session? other = v.session? other
  tells : ∀ x, (v.step e).1.session? name = some x → x.Tells v.logger.ownPlan (About name)
  lines : ∀ call ∈ calls (v.step e).2.effects, ∃ phase context, About name context.request ∧
    v.logger.ownPlan.render phase v.shared.moment context = .ok call.1
  same : ∀ u : Service, u.Beside name v →
    (∀ i < made, u.logger.refuses (u.shared.calls + i) = v.logger.refuses (v.shared.calls + i)) →
    (u.step e).2 = (v.step e).2 ∧ (u.step e).1.Beside name (v.step e).1 ∧
      (u.step e).1.shared.calls = u.shared.calls + made

/-- The requests that arrive under a name. -/
def Asked (events : List Event) (name : String) (request : Request) : Prop :=
  ∃ scope queue, Event.arrive name scope queue ∈ events ∧ scope.isHttp = true ∧
    scope.request = .ok request

/-- A turn of a session as a step of the service. -/
def take (v : Service) (name : String) (turn : Turn (Session × List Message × Reply)) :
    Service × Report :=
  v.adopt name ⟨turn.shared, turn.effects, turn.value.1, turn.value.2.1, turn.value.2.2⟩

variable {About : String → Request → Prop} {name : String} {v : Service} {e : Event}

/-- An event is such a move if it is a turn that only writes. -/
theorem moves_of_writes
    {f : Logger → Shared → Turn (Session × List Message × Reply)}
    (hf : Writes v.logger.ownPlan (About name)
      (fun x => x.1.Tells v.logger.ownPlan (About name)) f) (before : List Effect)
    (hbefore : calls before = [])
    (hstep : ∀ u : Service, u.Beside name v →
      u.step e = u.take name ((f u.logger u.shared).after before)) :
    ∃ made, v.Moves About name e made := by
  obtain ⟨made, hmade⟩ := hf.answered v.logger v.shared
  have hself := hstep v ⟨rfl, rfl, rfl⟩
  have hsession : (v.step e).1.session? name = some (f v.logger v.shared).value.1 := by
    rw [hself]
    exact session?_put_self _ name _
  refine ⟨made, ⟨?_, ?_, ?_, ?_, ?_⟩⟩
  · rw [hself]
    exact hmade.shared
  · intro other hne
    rw [hself]
    exact session?_put_ne _ hne _
  · intro x hx
    rw [hsession] at hx
    cases hx
    exact hf.value v.logger v.shared
  · intro call hcall
    rw [hself] at hcall
    change call ∈ calls (before ++ _) at hcall
    rw [calls_append, hbefore, List.nil_append] at hcall
    exact hf.exists_context v.logger v.shared call hcall
  · intro u hu hagree
    have hturn := hmade.same u.logger.refuses u.shared.calls hagree
    rw [← hu.logger, ← hu.shared] at hturn
    have hshared : (v.step e).1.shared = _ := (congrArg (·.1.shared) hself).trans hmade.shared
    have hsessionu : (u.step e).1.session? name = some (f v.logger v.shared).value.1 := by
      rw [hstep u hu, hturn]
      exact session?_put_self _ name _
    refine ⟨?_, ⟨?_, ?_, hsessionu.trans hsession.symm⟩, ?_⟩
    · rw [hstep u hu, hself, hturn]
      rfl
    · rw [hstep u hu, hself]
      exact hu.logger
    · rw [hshared, hstep u hu, hturn]
      rfl
    · rw [hstep u hu, hturn]
      rfl

/-- Nothing happens in an exchange that has not begun. -/
theorem moves_of_none (hv : v.Sound About) (hx : v.session? name = none) (action : Action) :
    v.Moves About name (.act name action) 0 := by
  have hstep : ∀ u : Service, u.session? name = none → u.step (.act name action) = (u, {}) := by
    intro u hu
    simp only [step, hu]
  have hself := hstep v hx
  refine ⟨?_, fun other _ => ?_, ?_, ?_, fun u hu _ => ?_⟩
  · rw [hself]
    rfl
  · rw [hself]
  · rw [hself]
    exact hv.tells name
  · rw [hself]
    exact fun call hcall => absurd hcall List.not_mem_nil
  · rw [hself, hstep u (hu.session.trans hx)]
    exact ⟨rfl, hu, rfl⟩

variable {all : List Event}

/-- Every event of an exchange is a move of it. -/
theorem exists_moves (hv : v.Sound (Asked all)) (hmem : e ∈ all) (he : e.owner? = some name) :
    ∃ made, v.Moves (Asked all) name e made := by
  cases e with
  | clock reading => cases he
  | date now => cases he
  | arrive owner scope queue =>
    cases he
    have about : ∀ request, scope.isHttp = true → scope.request = .ok request →
        Asked all name request := fun request hh hr => ⟨scope, queue, hmem, hh, hr⟩
    obtain ⟨f, hf, harrive⟩ := Session.writes_arrive about queue v.shared.moment.clock
    refine moves_of_writes hf
      (if scope.isHttp then (v.logger.plan v.shared).effects else []) ?_ fun u hu => ?_
    · split
      · exact v.logger.calls_plan v.shared
      · rfl
    · have hplan : u.logger.ownPlan = v.logger.ownPlan ∧ u.shared.moment = v.shared.moment ∧
          (u.logger.plan u.shared).effects = (v.logger.plan v.shared).effects := by
        rw [hu.logger, hu.shared]
        exact ⟨rfl, rfl, rfl⟩
      have hsettled : u.logger.Settled u.shared.plans := by
        rw [hu.logger, hu.shared]
        exact hv.settled
      have hown := Logger.plan_of_settled hsettled
      rw [← hplan.2.2, ← harrive u.logger u.shared (congrArg Moment.clock hplan.2.1) hown.1
        (hown.2.trans hplan.1)]
      rfl
  | act owner action =>
    cases he
    cases hx : v.session? name with
    | none => exact ⟨0, moves_of_none hv hx action⟩
    | some x =>
      refine moves_of_writes ((hv.tells name x hx).writes_step action) [] calls_nil
        fun u hu => ?_
      rw [← hu.session] at hx
      simp only [step, hx]
      rfl

/-- The clocks touch no exchange, and they are the same for all. -/
theorem beside_clocks (he : e.owner? = none) {u : Service} (hu : u.Beside name v) :
    (u.step e).2 = (v.step e).2 ∧ (u.step e).1.Beside name (v.step e).1 ∧
      (u.step e).1.shared.calls = u.shared.calls := by
  have hshared : ∀ moment : Moment → Moment,
      { u.shared with moment := moment u.shared.moment } =
        { v.shared with moment := moment v.shared.moment, calls := u.shared.calls } := by
    intro moment
    rw [hu.shared]
  cases e with
  | clock reading =>
    exact ⟨rfl, ⟨hu.logger, hshared ({ · with clock := reading }), hu.session⟩, rfl⟩
  | date now =>
    exact ⟨rfl, ⟨hu.logger, hshared ({ · with date := now }), hu.session⟩, rfl⟩
  | arrive | act => cases he

/-- An event of another exchange changes nothing for this one. -/
theorem beside_other {other : String} {made : Nat} (h : v.Moves About other e made)
    (hne : name ≠ other) {u : Service} (hu : u.Beside name v) : u.Beside name (v.step e).1 := by
  refine ⟨?_, ?_, ?_⟩
  · rw [v.logger_step]
    exact hu.logger
  · rw [h.shared]
    exact hu.shared
  · rw [h.others name hne]
    exact hu.session

theorem sound_step (hv : v.Sound (Asked all)) (hmem : e ∈ all) :
    (v.step e).1.Sound (Asked all) := by
  cases howner : e.owner? with
  | none =>
    cases e with
    | clock | date => exact ⟨hv.settled, hv.tells⟩
    | arrive | act => cases howner
  | some name =>
    obtain ⟨made, h⟩ := exists_moves hv hmem howner
    refine ⟨?_, fun other x hx => ?_⟩
    · rw [v.logger_step, h.shared]
      exact hv.settled
    · rw [v.logger_step]
      by_cases hname : other = name
      · subst hname
        exact h.tells x hx
      · rw [h.others other hname] at hx
        exact hv.tells other x hx

/-- From a number of calls on, the sink answers with these. -/
def Gives (u : Service) (answers : List (Option Fault)) : Prop :=
  ∀ i answer, answers[i]? = some answer → u.logger.refuses (u.shared.calls + i) = answer

theorem Moves.answers_eq {made : Nat} (h : v.Moves About name e made) :
    v.answers e = (List.range' v.shared.calls made).map v.logger.refuses := by
  have hmade : (v.step e).1.shared.calls - v.shared.calls = made := by
    rw [h.shared]
    exact Nat.add_sub_cancel_left v.shared.calls made
  rw [answers, hmade]

theorem Moves.agrees {made : Nat} (h : v.Moves About name e made) {u : Service}
    {later : List (Option Fault)} (hu : u.Gives (v.answers e ++ later)) :
    (∀ i < made, u.logger.refuses (u.shared.calls + i) = v.logger.refuses (v.shared.calls + i)) ∧
      ∀ i answer, later[i]? = some answer →
        u.logger.refuses (u.shared.calls + made + i) = answer := by
  rw [h.answers_eq] at hu
  refine ⟨fun i hi => hu i _ ?_, fun i answer hi => ?_⟩
  · rw [List.getElem?_append_left (by simpa using hi), List.getElem?_map,
      List.getElem?_range' (by simpa using hi)]
    simp
  · rw [Nat.add_assoc]
    refine hu (made + i) answer ?_
    rw [List.getElem?_append_right (by simp)]
    simpa using hi

/-- The run of one exchange among others is its run alone, if the sink answers alike. -/
theorem history_beside {events : List Event} (hsub : events ⊆ all) (hv : v.Sound (Asked all))
    {u : Service} (hu : u.Beside name v) (hgives : u.Gives (v.answersTo name events)) :
    (v.history events).filter (·.1.concerns name) =
      u.history (events.filter (·.concerns name)) := by
  induction events generalizing u v with
  | nil => rfl
  | cons e events ih =>
    have hmem : e ∈ all := hsub List.mem_cons_self
    have hlater : events ⊆ all := fun _ h => hsub (List.mem_cons_of_mem e h)
    have hnext := sound_step hv hmem
    rw [history_cons]
    cases howner : e.owner? with
    | none =>
      have hconcerns := Event.concerns_of_none howner name
      obtain ⟨hreport, hbeside, hcalls⟩ := beside_clocks howner hu
      have hrest : (u.step e).1.Gives ((v.step e).1.answersTo name events) := by
        rw [answersTo, howner, if_neg nofun, List.nil_append] at hgives
        rw [Gives, u.logger_step, hcalls]
        exact hgives
      simp only [List.filter_cons, hconcerns, if_true, history_cons, hreport,
        ih hlater hnext hbeside hrest]
    | some other =>
      obtain ⟨made, hmoves⟩ := exists_moves hv hmem howner
      by_cases hname : other = name
      · subst hname
        have hconcerns : e.concerns other = true := by
          rw [Event.concerns_of_some howner, beq_self_eq_true]
        rw [answersTo, howner, if_pos rfl] at hgives
        obtain ⟨hagree, hlast⟩ := hmoves.agrees hgives
        obtain ⟨hreport, hbeside, hcalls⟩ := hmoves.same u hu hagree
        have hrest : (u.step e).1.Gives ((v.step e).1.answersTo other events) := by
          rw [Gives, u.logger_step, hcalls]
          exact hlast
        simp only [List.filter_cons, hconcerns, if_true, history_cons, hreport,
          ih hlater hnext hbeside hrest]
      · have hconcerns : e.concerns name = false := by
          rw [Event.concerns_of_some howner, beq_false_of_ne hname]
        rw [answersTo, howner, if_neg (hname ∘ Option.some.inj), List.nil_append] at hgives
        simp only [List.filter_cons, hconcerns, Bool.false_eq_true, if_false]
        exact ih hlater hnext (beside_other hmoves (Ne.symm hname) hu) hgives

/-- The entries of one exchange are those of its events. -/
theorem filter_entries (name : String) (moments : List (Event × Report)) :
    (moments.flatMap entries).filter (·.1 = name) =
      (moments.filter (·.1.concerns name)).flatMap entries := by
  induction moments with
  | nil => rfl
  | cons moment moments ih =>
    obtain ⟨e, report⟩ := moment
    rw [List.flatMap_cons, List.filter_append, ih, List.filter_cons]
    cases howner : e.owner? with
    | none =>
      have hconcerns := Event.concerns_of_none howner name
      have hentries : entries (e, report) = [] := by simp [entries, howner]
      rw [if_pos hconcerns, List.flatMap_cons, hentries]
      rfl
    | some other =>
      have howned : ∀ call ∈ entries (e, report), call.1 = other := by
        intro call hcall
        rw [entries, howner] at hcall
        obtain ⟨entry, -, rfl⟩ := List.mem_map.mp hcall
        rfl
      rw [Event.concerns_of_some howner]
      by_cases hname : other = name
      · have hall : (entries (e, report)).filter (·.1 = name) = entries (e, report) :=
          List.filter_eq_self.mpr fun call hcall =>
            decide_eq_true ((howned call hcall).trans hname)
        rw [if_pos (beq_iff_eq.mpr hname), hall, List.flatMap_cons]
      · have hnone : (entries (e, report)).filter (·.1 = name) = [] :=
          List.filter_eq_nil_iff.mpr fun call hcall hcall' =>
            hname ((howned call hcall).symm.trans (of_decide_eq_true hcall'))
        rw [if_neg (hname ∘ beq_iff_eq.mp), hnone, List.nil_append]

/-- Every line is one of the plan, about a request that arrived under the name. -/
theorem exists_context_of_mem_ledger {events : List Event} (hsub : events ⊆ all)
    (hv : v.Sound (Asked all)) : ∀ call ∈ v.ledger events,
      ∃ phase moment context, Asked all call.1 context.request ∧
        v.logger.ownPlan.render phase moment context = .ok call.2.1 := by
  induction events generalizing v with
  | nil => exact fun call hcall => absurd hcall List.not_mem_nil
  | cons e events ih =>
    have hmem : e ∈ all := hsub List.mem_cons_self
    intro call hcall
    rw [ledger, history_cons, List.flatMap_cons, List.mem_append] at hcall
    rcases hcall with hcall | hcall
    · unfold entries at hcall
      split at hcall
      · exact absurd hcall List.not_mem_nil
      · next name howner =>
        obtain ⟨made, hmoves⟩ := exists_moves hv hmem howner
        obtain ⟨entry, hentry, rfl⟩ := List.mem_map.mp hcall
        obtain ⟨phase, context, hcontext⟩ := hmoves.lines entry hentry
        exact ⟨phase, v.shared.moment, context, hcontext⟩
    · have hrest := ih (fun _ h => hsub (List.mem_cons_of_mem e h)) (sound_step hv hmem) call hcall
      rwa [v.logger_step] at hrest

/-- The answers that a run collects are answers of its sink. -/
theorem mem_answersTo {name : String} {events : List Event} {answer : Option Fault}
    (h : answer ∈ v.answersTo name events) : ∃ n, v.logger.refuses n = answer := by
  induction events generalizing v with
  | nil => exact absurd h List.not_mem_nil
  | cons e events ih =>
    rw [answersTo, List.mem_append] at h
    rcases h with h | h
    · split at h
      · obtain ⟨n, -, hn⟩ := List.mem_map.mp h
        exact ⟨n, hn⟩
      · exact absurd h List.not_mem_nil
    · have hrest := ih h
      rwa [v.logger_step] at hrest

/-- Exchanges do not disturb each other. Behind one logger, whatever the capacity of its cache, let the
events of any exchanges come in any order: an exchange has the same history as if it were alone with
the same clocks and with the same answers of the sink to its own calls, and so the same calls. A sink
that answers all calls alike may be the same one. Every line is one of the plan that the compiler of
the options builds, about a request that arrived under the name of the exchange. -/
theorem exchanges_apart (settings : Settings) (terminal : Bool) (journal : Journal) (o : Options)
    (refuses : Nat → Option Fault) (moment : Moment) (turn : Turn Logger) (hc : o.compiler = none)
    (h : Logger.create settings terminal journal o refuses moment = .ok turn)
    (events : List Event) (name : String) :
    let v : Service := { logger := turn.value, shared := turn.shared }
    let own := events.filter (·.concerns name)
    let answers := v.answersTo name events
    let alone : Service :=
      { v with logger := { v.logger with refuses := fun n => (answers[n]?).getD none } }
    let compiler : Compiler := {
      colors := o.colors.getD (settings.colorsEnabled terminal)
      banner := o.banner.getD settings.banner
      alwaysConnector := o.alwaysConnector.getD settings.alwaysConnector }
    (v.history events).filter (·.1.concerns name) = alone.history own ∧
    (v.ledger events).filter (·.1 = name) = alone.ledger own ∧
    ((∀ n, refuses n = refuses 0) → (v.ledger events).filter (·.1 = name) = v.ledger own) ∧
    ∀ call ∈ v.ledger events, ∃ phase moment context, Asked events call.1 context.request ∧
      (compiler.build (o.chosenFormat settings)).render phase moment context = .ok call.2.1 := by
  intro v own answers alone compiler
  obtain ⟨hsettled, hcalls, hrefuses, hplan⟩ := Logger.create_spec h
  have hsound : v.Sound (Asked events) := ⟨hsettled, fun name x hx => nomatch hx⟩
  have hsub : events ⊆ events := List.Subset.refl events
  have hledger : ∀ u : Service, (v.history events).filter (·.1.concerns name) = u.history own →
      (v.ledger events).filter (·.1 = name) = u.ledger own := by
    intro u hu
    rw [ledger, filter_entries, hu, ledger]
  have halone : (v.history events).filter (·.1.concerns name) = alone.history own := by
    refine history_beside hsub hsound ⟨rfl, rfl, rfl⟩ fun i answer hi => ?_
    have hcount : alone.shared.calls = 0 := hcalls
    rw [hcount, Nat.zero_add]
    change (answers[i]?).getD none = answer
    rw [hi, Option.getD_some]
  have hcompiler : o.chosenCompiler settings terminal = compiler := by
    rw [Options.chosenCompiler, hc]
    rfl
  refine ⟨halone, hledger alone halone, fun hblind => hledger v ?_, ?_⟩
  · refine history_beside hsub hsound ⟨rfl, rfl, rfl⟩ fun i answer hi => ?_
    obtain ⟨n, rfl⟩ := mem_answersTo (List.mem_of_getElem? hi)
    rw [show v.logger.refuses = refuses from hrefuses, hblind n, hblind]
  · rw [← hcompiler, ← hplan]
    exact exists_context_of_mem_ledger hsub hsound

/-- With a cache that takes nothing, and a sink that refuses its second call: that is the first one of
the exchange that arrives later, and alone it would be refused too. -/
theorem exchanges_apart_refused :
    let settings : Settings := ⟨"a", false, false, some false, .stdout, -1, "", "", false⟩
    let o : Options := { sink := .function .recorder }
    let events : List Event := [
      .arrive "x" .blank [],
      .arrive "y" .blank [],
      .clock (Double.ofInt 1),
      .act "y" .leave,
      .act "x" (.send .lastPiece none ⟨fun _ => false⟩)]
    let create refuses := Logger.create settings false {} o refuses Shared.initial.moment
    o.compiler = none ∧
    (∃ turn, create Logger.fickle.refuses = .ok turn ∧ turn.shared.plans.isFull = true ∧
      let v : Service := { logger := turn.value, shared := turn.shared }
      let answers := v.answersTo "y" events
      let alone : Service :=
        { v with logger := { v.logger with refuses := fun n => (answers[n]?).getD none } }
      v.ledger events =
        [("x", ⟨"a", []⟩, true), ("y", ⟨"a", []⟩, false), ("x", ⟨"a", []⟩, true)] ∧
      (v.ledger events).filter (·.1 = "y") = alone.ledger (events.filter (·.concerns "y"))) ∧
    ∃ turn, create Logger.steady.refuses = .ok turn ∧
      let v : Service := { logger := turn.value, shared := turn.shared }
      (v.ledger events).filter (·.1 = "y") = v.ledger (events.filter (·.concerns "y")) := by
  intro settings o events create
  refine ⟨rfl, ⟨_, rfl, ?_, ?_, ?_⟩, _, rfl, ?_⟩
  · decide +kernel
  · decide +kernel
  · exact (exchanges_apart settings false {} o Logger.fickle.refuses Shared.initial.moment _ rfl rfl
      events "y").2.1
  · exact (exchanges_apart settings false {} o Logger.steady.refuses Shared.initial.moment _ rfl rfl
      events "y").2.2.1 fun _ => rfl

end Service

end AccessLog
