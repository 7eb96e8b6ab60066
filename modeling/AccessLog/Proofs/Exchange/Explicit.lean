import AccessLog.Proofs.Exchange.Interleaving

/-!
What the caller says and what the settings say. The caller's options win where they are given, but
for an empty format, and the lines of all exchanges are those of the plan that the options build: what
is stored in the cache makes no difference to them (`Service.ledger_alike`).
-/
namespace AccessLog

theorem Watch.emit_plans (g : Logger) (s : Shared) (plans : PlanCache Plan) (plan : Plan)
    (phase : Phase) (c : Context) :
    emit g { s with plans } plan phase c =
      let turn := emit g s plan phase c
      { turn with shared := { turn.shared with plans } } := by
  simp only [emit]
  cases plan.render phase s.moment c with
  | error e => rfl
  | ok line =>
    simp only [Logger.deliver]
    cases g.sink <;> rfl

/-- Lines are written without a look at the cache. -/
theorem Writes.with_plans {plan : Plan} {About : Request → Prop} {α : Type} {P : α → Prop}
    {f : Logger → Shared → Turn α} (hf : Writes plan About P f) (g : Logger) (s : Shared)
    (plans : PlanCache Plan) :
    f g { s with plans } = { f g s with shared := { (f g s).shared with plans } } := by
  induction hf generalizing s with
  | done value h => rfl
  | line phase context about next h ih => simp only [Watch.emit_plans, ih, Turn.after]

namespace Service

/-- The same service but for what its cache holds. -/
structure Alike (u v : Service) : Prop where
  logger : u.logger = v.logger
  shared : u.shared = { v.shared with plans := u.shared.plans }
  sessions : u.sessions = v.sessions
  settled : u.logger.Settled u.shared.plans

variable {u v : Service} {e : Event} {About : Request → Prop}

/-- An event that only writes leaves the two alike, with the same calls of the sink. -/
theorem alike_of_writes (h : u.Alike v)
    {f : Logger → Shared → Turn (Session × List Message × Reply)}
    (hf : Writes v.logger.ownPlan About (fun x => x.1.Tells v.logger.ownPlan About) f)
    (name : String) (before before' : List Effect) (hbefore : calls before = calls before')
    (hu : u.step e = u.take name ((f u.logger u.shared).after before))
    (hv : v.step e = v.take name ((f v.logger v.shared).after before')) :
    (u.step e).1.Alike (v.step e).1 ∧
      calls (u.step e).2.effects = calls (v.step e).2.effects := by
  -- the turn is that of the other service, with the plans of this one left where they are
  have hturn : f u.logger u.shared =
      { f v.logger v.shared with
        shared := { (f v.logger v.shared).shared with plans := u.shared.plans } } := by
    rw [h.logger, h.shared]
    exact hf.with_plans v.logger v.shared u.shared.plans
  have hplans : (u.step e).1.shared.plans = u.shared.plans := by
    rw [hu, hturn]
    rfl
  refine ⟨⟨?_, ?_, ?_, ?_⟩, ?_⟩
  · rw [logger_step, logger_step, h.logger]
  · rw [hplans, hu, hv, hturn]
    rfl
  · rw [hu, hv, hturn]
    change (name, _) :: u.sessions.filter _ = (name, _) :: v.sessions.filter _
    rw [h.sessions]
    rfl
  · rw [logger_step, hplans]
    exact h.settled
  · rw [hu, hv, hturn]
    change calls (before ++ _) = calls (before' ++ _)
    rw [calls_append, calls_append, hbefore]

variable {all : List Event}

theorem alike_step (h : u.Alike v) (hv : v.Sound (Asked all)) (hmem : e ∈ all) :
    (u.step e).1.Alike (v.step e).1 ∧
      calls (u.step e).2.effects = calls (v.step e).2.effects := by
  have hmoment : u.shared.moment = v.shared.moment := by rw [h.shared]
  have hshared : ∀ moment : Moment → Moment,
      { u.shared with moment := moment u.shared.moment } =
        { v.shared with moment := moment v.shared.moment, plans := u.shared.plans } := by
    intro moment
    rw [h.shared]
  cases e with
  | clock reading =>
    exact ⟨⟨h.logger, hshared ({ · with clock := reading }), h.sessions, h.settled⟩, rfl⟩
  | date now =>
    exact ⟨⟨h.logger, hshared ({ · with date := now }), h.sessions, h.settled⟩, rfl⟩
  | arrive name scope queue =>
    have about : ∀ request, scope.isHttp = true → scope.request = .ok request →
        Asked all name request := fun request hh hr => ⟨scope, queue, hmem, hh, hr⟩
    obtain ⟨f, hf, harrive⟩ := Session.writes_arrive about queue v.shared.moment.clock
    have hu := Logger.plan_of_settled h.settled
    have hv' := Logger.plan_of_settled hv.settled
    have hown : u.logger.ownPlan = v.logger.ownPlan := congrArg Logger.ownPlan h.logger
    have hturnu := harrive u.logger u.shared (congrArg Moment.clock hmoment) hu.1 (hu.2.trans hown)
    have hturnv := harrive v.logger v.shared rfl hv'.1 hv'.2
    have hplan : ∀ w : Service,
        calls (if scope.isHttp then (w.logger.plan w.shared).effects else []) = [] := by
      intro w
      split
      · exact w.logger.calls_plan w.shared
      · rfl
    refine alike_of_writes h hf name _ _ ((hplan u).trans (hplan v).symm) ?_ ?_
    · rw [← hturnu]
      rfl
    · rw [← hturnv]
      rfl
  | act name action =>
    have hlookup : u.session? name = v.session? name := by rw [session?, h.sessions, session?]
    cases hx : v.session? name with
    | none =>
      have hnone : ∀ w : Service, w.session? name = none → w.step (.act name action) = (w, {}) := by
        intro w hw
        simp only [step, hw]
      rw [hnone u (hlookup.trans hx), hnone v hx]
      exact ⟨h, rfl⟩
    | some x =>
      refine alike_of_writes h ((hv.tells name x hx).writes_step action) name [] [] rfl ?_ ?_
      · simp only [step, hlookup, hx]
        rfl
      · simp only [step, hx]
        rfl

theorem entries_congr {u v : Report} (h : calls u.effects = calls v.effects) (e : Event) :
    entries (e, u) = entries (e, v) := by
  unfold entries
  cases e.owner? with
  | none => rfl
  | some name => exact congrArg (List.map (name, ·)) h

/-- What the cache holds makes no difference to the lines. -/
theorem ledger_alike {events : List Event} (hsub : events ⊆ all) (h : u.Alike v)
    (hv : v.Sound (Asked all)) : u.ledger events = v.ledger events := by
  induction events generalizing u v with
  | nil => rfl
  | cons e events ih =>
    have hmem : e ∈ all := hsub List.mem_cons_self
    obtain ⟨hnext, hcalls⟩ := alike_step h hv hmem
    have hlater := ih (fun _ h => hsub (List.mem_cons_of_mem e h)) hnext (sound_step hv hmem)
    simp only [ledger, history_cons, List.flatMap_cons] at hlater ⊢
    rw [entries_congr hcalls e, hlater]

/-- The session of a report is one of the service afterwards. -/
theorem exists_session_of_report {x : Session} (h : (v.step e).2.session = some x) :
    ∃ name, (v.step e).1.session? name = some x := by
  cases e with
  | clock | date => cases h
  | arrive name scope queue =>
    cases h
    exact ⟨name, session?_put_self _ name _⟩
  | act name action =>
    simp only [step] at h ⊢
    split at h
    · cases h
      exact ⟨name, session?_put_self _ name _⟩
    · cases h

/-- All exchanges have the logger's own plan. -/
theorem plan_of_mem_history {events : List Event} (hsub : events ⊆ all)
    (hv : v.Sound (Asked all)) : ∀ now ∈ v.history events, ∀ x w,
      now.2.session = some x → x.watch = some w → w.plan = v.logger.ownPlan := by
  induction events generalizing v with
  | nil => exact fun now hnow => absurd hnow List.not_mem_nil
  | cons e events ih =>
    have hnext := sound_step hv (hsub List.mem_cons_self)
    intro now hnow x w hx hw
    rw [history_cons, List.mem_cons] at hnow
    rcases hnow with rfl | hnow
    · obtain ⟨name, hname⟩ := exists_session_of_report hx
      have hplan := (hnext.tells name x hname w hw).plan_eq
      rwa [logger_step] at hplan
    · have hlater := ih (fun _ h => hsub (List.mem_cons_of_mem e h)) hnext now hnow x w hx hw
      rwa [logger_step] at hlater

end Service

/-- What is said counts, but for an empty format. -/
theorem Options.chosenFormat_eq (o : Options) (settings : Settings) :
    o.chosenFormat settings =
      if o.format = some "" then settings.format else o.format.getD settings.format := by
  unfold chosenFormat
  cases o.format with
  | none => rfl
  | some format =>
    by_cases h : format = ""
    · subst h
      rfl
    · have hfilter : (some format).filter (· ≠ "") = some format := by simp [h]
      rw [hfilter, if_neg fun heq => h (Option.some.inj heq)]

/-- A logger can be made whenever its sink can be. -/
theorem Logger.create_of_sink {settings : Settings} (terminal : Bool) (journal : Journal)
    {o : Options} (refuses : Nat → Option Fault) (moment : Moment) {sink : Sink}
    (h : Sink.resolve o.sink (Options.defaultSink settings) = .ok sink) :
    ∃ turn, create settings terminal journal o refuses moment = .ok turn ∧
      turn.value = { format := o.chosenFormat settings,
                     compiler := o.chosenCompiler settings terminal, sink, journal, refuses } ∧
      turn.shared = { plans := turn.shared.plans, moment } ∧
      turn.value.Settled turn.shared.plans := by
  unfold create
  rw [h]
  exact ⟨_, rfl, rfl, rfl, settled_plan (PlanCache.get?_empty _ _)⟩

namespace Service

/-- A service that has no exchanges yet. -/
theorem sound_of_settled {g : Logger} {s : Shared} (h : g.Settled s.plans)
    {About : String → Request → Prop} :
    ({ logger := g, shared := s } : Service).Sound About :=
  ⟨h, fun name x hx => by cases hx⟩

/-- The caller's options win over the settings, also those that say no; only an empty format does
not. A logger made with them has the format and the compiler that they choose, and the lines of all
its exchanges are the same as if the plan were built anew for each of them: lines of that plan, about
requests that arrived. -/
theorem explicit_options_win (settings : Settings) (terminal : Bool) (journal : Journal)
    (o : Options) (refuses : Nat → Option Fault) (moment : Moment) (sink : Sink)
    (hc : o.compiler = none)
    (hsink : Sink.resolve o.sink (Options.defaultSink settings) = .ok sink) :
    let compiler : Compiler := {
      colors := o.colors.getD (settings.colorsEnabled terminal)
      banner := o.banner.getD settings.banner
      alwaysConnector := o.alwaysConnector.getD settings.alwaysConnector }
    let format := if o.format = some "" then settings.format else o.format.getD settings.format
    let g : Logger := { format, compiler, sink, journal, refuses }
    ∃ turn, Logger.create settings terminal journal o refuses moment = .ok turn ∧
      turn.value = g ∧
      ∀ events,
        let v : Service := { logger := g, shared := turn.shared }
        let anew : Service := { logger := g, shared := { plans := .empty (-1), moment } }
        v.ledger events = anew.ledger events ∧
        (∀ now ∈ v.history events, ∀ x w, now.2.session = some x → x.watch = some w →
          w.plan = compiler.build format) ∧
        ∀ call ∈ v.ledger events, ∃ phase moment context, Asked events call.1 context.request ∧
          (compiler.build format).render phase moment context = .ok call.2.1 := by
  intro compiler format g
  have hcompiler : o.chosenCompiler settings terminal = compiler := by
    rw [Options.chosenCompiler, hc]
    rfl
  obtain ⟨turn, hcreate, hvalue, hshared, hsettled⟩ :=
    Logger.create_of_sink terminal journal refuses moment hsink
  rw [o.chosenFormat_eq, hcompiler] at hvalue
  rw [hvalue] at hsettled
  refine ⟨turn, hcreate, hvalue, fun events => ?_⟩
  intro v anew
  have hsub : events ⊆ events := List.Subset.refl events
  have hsound : v.Sound (Asked events) := sound_of_settled hsettled
  have hempty : g.Settled anew.shared.plans := .inr ⟨PlanCache.get?_empty _ _, rfl⟩
  have hanew : anew.Sound (Asked events) := sound_of_settled hempty
  have halike : v.Alike anew := ⟨rfl, hshared, rfl, hsettled⟩
  exact ⟨ledger_alike hsub halike hanew, plan_of_mem_history hsub hsound,
    exists_context_of_mem_ledger hsub hsound⟩

/-- Settings that say yes to everything, about an exchange with both of its lines. -/
def insistent : Settings := ⟨"b", true, true, some true, .stdout, 5, "", "", false⟩

def oneExchange : List Event :=
  [.arrive "x" .blank [], .act "x" (.send .lastPiece none ⟨fun _ => false⟩)]

/-- Options that say no to everything: no colours, no banner and no connector are in the lines. -/
theorem explicit_options_win_off :
    let o : Options := {
      format := some "a", sink := .function .recorder
      colors := some false, banner := some false, alwaysConnector := some false }
    o.compiler = none ∧ Sink.resolve o.sink (Options.defaultSink insistent) = .ok .recorder ∧
      ∃ turn, Logger.create insistent true {} o (fun _ => none) Shared.initial.moment = .ok turn ∧
        let v : Service := { logger := turn.value, shared := turn.shared }
        v.ledger oneExchange = [("x", ⟨"a", []⟩, true), ("x", ⟨"a", []⟩, true)] := by
  intro o
  refine ⟨rfl, rfl, ?_⟩
  obtain ⟨turn, hcreate, hvalue, hlines⟩ :=
    explicit_options_win insistent true {} o (fun _ => none) Shared.initial.moment .recorder rfl rfl
  refine ⟨turn, hcreate, ?_⟩
  rw [hvalue]
  exact (hlines oneExchange).1.trans (by decide +kernel)

/-- An empty format is passed over: the lines are not those of its plan, which are empty. -/
theorem empty_format_passed_over :
    let o : Options := {
      format := some "", sink := .function .recorder
      colors := some false, banner := some false, alwaysConnector := some false }
    (∃ turn, Logger.create insistent true {} o (fun _ => none) Shared.initial.moment = .ok turn ∧
      let v : Service := { logger := turn.value, shared := turn.shared }
      v.ledger oneExchange = [("x", ⟨"b", []⟩, true), ("x", ⟨"b", []⟩, true)]) ∧
    ∀ phase moment context,
      ((⟨false, false, false⟩ : Compiler).build "").render phase moment context = .ok ⟨"", []⟩ := by
  intro o
  have hparse : Format.parse "" = { items := [] } := by decide +kernel
  refine ⟨⟨_, rfl, by decide +kernel⟩, fun phase moment context => ?_⟩
  rw [Compiler.build, hparse]
  cases phase <;> rfl

end Service

end AccessLog
