import AccessLog.Plan.Cache

/-!
What a course of look-ups does to the cache, at every moment and for every look-up in it, however
deep in the builds of others it is. `Call.outcome_cases` says what one look-up can do;
`pairwise_states` carries over to a whole course what each of these keeps.
-/
namespace AccessLog

namespace PlanCache

variable {α : Type} {c c' c'' : PlanCache α}

/-- A positive capacity is never exceeded, and with a negative one nothing is stored. -/
structure Bounded (c : PlanCache α) : Prop where
  positive : 0 < c.capacity → (c.size : Int) ≤ c.capacity
  negative : c.capacity < 0 → c.size = 0

theorem bounded_empty (capacity : Int) : (empty capacity : PlanCache α).Bounded :=
  ⟨fun h => Int.le_of_lt h, fun _ => rfl⟩

/-- How a cache may change: what it holds it keeps, within the same capacity. -/
structure Grows (c c' : PlanCache α) : Prop where
  kept : ∀ {format plan}, c.get? format = some plan → c'.get? format = some plan
  capacity : c'.capacity = c.capacity
  bounded : c.Bounded → c'.Bounded

theorem Grows.refl (c : PlanCache α) : c.Grows c := ⟨id, rfl, id⟩

theorem Grows.trans (h : c.Grows c') (h' : c'.Grows c'') : c.Grows c'' :=
  ⟨fun hf => h'.kept (h.kept hf), h'.capacity.trans h.capacity, fun hb => h'.bounded (h.bounded hb)⟩

theorem isFull_eq_false_iff : c.isFull = false ↔ c.capacity = 0 ∨ (c.size : Int) < c.capacity := by
  simp only [isFull, Bool.and_eq_false_iff, decide_eq_false_iff_not]
  omega

theorem publish_of_none {format : String} (h : c.get? format = none) (plan : α) :
    c.publish format plan = (⟨c.entries ++ [(format, plan)], c.capacity⟩, plan) := by
  simp only [publish, h]

theorem grows_publish (hfull : c.isFull = false) (format : String) (plan : α) :
    c.Grows (c.publish format plan).1 := by
  cases hget : c.get? format with
  | some stored =>
    rw [publish_of_some hget]
    exact .refl c
  | none =>
    have hkept : ∀ {asked stored}, c.get? asked = some stored →
        (c.publish format plan).1.get? asked = some stored :=
      fun h => get?_publish_of_some h format plan
    rw [isFull_eq_false_iff] at hfull
    rw [publish_of_none hget] at hkept ⊢
    refine ⟨hkept, rfl, fun hb => ⟨?_, ?_⟩⟩
    · intro hpos
      simp only [size, List.length_append, List.length_singleton] at hfull hpos ⊢
      omega
    · intro hneg
      have hnil := hb.negative hneg
      simp only [size] at hfull hneg hnil
      omega

end PlanCache

namespace Retrieval

variable {ε α : Type}

/-- A look-up in the course of a retrieval, with the cache that it finds. -/
structure Call (ε α : Type) where
  format : String
  build : Retrieval ε α
  before : PlanCache α

namespace Call

variable (k : Call ε α)

def outcome : Run ε α := (get k.format k.build).run k.before

/-- How its own build ends, if it comes to that. -/
def built : Run ε α := k.build.run k.before

theorem outcome_of_some {plan : α} (h : k.before.get? k.format = some plan) :
    k.outcome = ⟨k.before, [], .ok plan⟩ := by
  simp only [outcome, get, run, h]

theorem outcome_of_none (h : k.before.get? k.format = none) :
    k.outcome = (settle k.format k.built).after [.cacheMiss k.format] := by
  simp only [outcome, get, run, h, built]
  generalize (settle k.format (k.build.run k.before)).after [.cacheMiss k.format] = answer
  obtain ⟨cache, notices, result⟩ := answer
  cases result <;> simp only [run, Run.after, List.append_nil]

/-- A course goes on from what the look-up left behind, as if the look-up had been all of it. -/
theorem run_call (next : Except ε α → Retrieval ε α) :
    (call k.format k.build next).run k.before =
      ((next k.outcome.result).run k.outcome.cache).after k.outcome.notices := by
  cases h : k.before.get? k.format with
  | some plan =>
    rw [k.outcome_of_some h]
    simp only [run, h, Run.after, List.nil_append]
  | none =>
    rw [k.outcome_of_none h]
    simp only [run, h, built]

/-- What a look-up can do after a miss: its build fails, or the cache is full by then, or the plan
is published. -/
theorem outcome_cases (hmiss : k.before.get? k.format = none) :
    (∃ e, k.built.result = .error e ∧
      k.outcome.result = .error e ∧ k.outcome.cache = k.built.cache) ∨
    (∃ own, k.built.result = .ok own ∧ k.built.cache.isFull = true ∧
      k.outcome.result = .ok own ∧ k.outcome.cache = k.built.cache) ∨
    (∃ own, k.built.result = .ok own ∧ k.built.cache.isFull = false ∧
      k.outcome.result = .ok (k.built.cache.publish k.format own).2 ∧
      k.outcome.cache = (k.built.cache.publish k.format own).1) := by
  rw [k.outcome_of_none hmiss]
  simp only [Run.after, settle]
  cases hbuilt : k.built.result with
  | error e => exact .inl ⟨e, rfl, rfl, rfl⟩
  | ok own =>
    cases hfull : k.built.cache.isFull with
    | true => exact .inr (.inl ⟨own, rfl, rfl, rfl, rfl⟩)
    | false => exact .inr (.inr ⟨own, rfl, rfl, rfl, rfl⟩)

theorem grows_outcome (hmiss : k.before.get? k.format = none) :
    k.built.cache.Grows k.outcome.cache := by
  rcases k.outcome_cases hmiss with ⟨_, -, -, hc⟩ | ⟨_, -, -, -, hc⟩ | ⟨own, -, hfull, -, hc⟩
  · rw [hc]
    exact .refl _
  · rw [hc]
    exact .refl _
  · rw [hc]
    exact PlanCache.grows_publish hfull k.format own

/-- An answer is in the cache from then on, unless the cache was full. -/
theorem stored_or_full {plan : α} (h : k.outcome.result = .ok plan) :
    k.outcome.cache.get? k.format = some plan ∨
      (k.before.get? k.format = none ∧ k.built.cache.isFull = true ∧
        k.outcome.cache = k.built.cache) := by
  cases hget : k.before.get? k.format with
  | some found =>
    rw [k.outcome_of_some hget] at h ⊢
    cases h
    exact .inl hget
  | none =>
    rcases k.outcome_cases hget with ⟨e, -, hr, -⟩ | ⟨_, -, hfull, -, hc⟩ | ⟨own, -, -, hr, hc⟩
    · rw [hr] at h
      cases h
    · exact .inr ⟨rfl, hfull, hc⟩
    · rw [hr] at h
      cases h
      rw [hc]
      exact .inl (PlanCache.get?_publish_self _ _ _)

/-- The look-up answers a plan, and the cache holds a plan for the format when it does. -/
def Returns (plan stored : α) : Prop :=
  k.outcome.result = .ok plan ∧ k.outcome.cache.get? k.format = some stored

/-- The look-up comes too late: a build within its own has stored a plan for the format, and the
cache is full. -/
def Late : Prop :=
  k.before.get? k.format = none ∧ k.built.cache.get? k.format ≠ none ∧ k.built.cache.isFull = true

variable {k} {plan stored : α}

/-- A late look-up answers the plan of its own build. -/
theorem Returns.of_late (h : k.Returns plan stored) (hlate : k.Late) :
    k.built.result = .ok plan ∧ k.built.cache.get? k.format = some stored := by
  obtain ⟨hplan, hstored⟩ := h
  rcases k.outcome_cases hlate.1 with ⟨e, -, hr, -⟩ | ⟨own, hown, -, hr, hc⟩ | ⟨_, -, hroom, -, -⟩
  · rw [hr] at hplan
    cases hplan
  · rw [hr] at hplan
    cases hplan
    exact ⟨hown, hc ▸ hstored⟩
  · rw [hlate.2.2] at hroom
    cases hroom

/-- Otherwise the answer is the plan that is stored. -/
theorem Returns.eq (h : k.Returns plan stored) (hlate : ¬ k.Late) : plan = stored := by
  obtain ⟨hplan, hstored⟩ := h
  rcases k.stored_or_full hplan with hget | ⟨hmiss, hfull, hc⟩
  · exact Option.some.inj (hget.symm.trans hstored)
  · rw [hc] at hstored
    exact absurd ⟨hmiss, by rw [hstored]; exact Option.some_ne_none _, hfull⟩ hlate

end Call

/-- All look-ups of a retrieval: first one, then those of its build, then the later ones. -/
def calls : Retrieval ε α → PlanCache α → List (Call ε α)
  | done _, _ | fail _, _ => []
  | note _ next, c => calls next c
  | call format build next, c =>
    let k : Call ε α := ⟨format, build, c⟩
    k :: match c.get? format with
      | some plan => calls (next (.ok plan)) c
      | none => calls build c ++ calls (next k.outcome.result) k.outcome.cache

/-- The states that the cache goes through. -/
def states : Retrieval ε α → PlanCache α → List (PlanCache α)
  | done _, c | fail _, c => [c]
  | note _ next, c => states next c
  | call format build next, c =>
    let k : Call ε α := ⟨format, build, c⟩
    match c.get? format with
    | some plan => states (next (.ok plan)) c
    | none => states build c ++ states (next k.outcome.result) k.outcome.cache

variable (r : Retrieval ε α) (c : PlanCache α)

theorem start_mem_states : c ∈ r.states c := by
  induction r generalizing c with
  | done plan => exact List.mem_singleton_self c
  | fail e => exact List.mem_singleton_self c
  | note n next ih => exact ih c
  | call format build next ihb ihn =>
    simp only [states]
    split
    · exact ihn _ c
    · exact List.mem_append_left _ (ihb c)

theorem end_mem_states : (r.run c).cache ∈ r.states c := by
  induction r generalizing c with
  | done plan => exact List.mem_singleton_self c
  | fail e => exact List.mem_singleton_self c
  | note n next ih => exact ih c
  | call format build next ihb ihn =>
    let k : Call ε α := ⟨format, build, c⟩
    have hrun : (call format build next).run c = _ := k.run_call next
    rw [hrun]
    simp only [states]
    split
    · next plan hget =>
      have hout : k.outcome = ⟨c, [], .ok plan⟩ := k.outcome_of_some hget
      rw [hout]
      exact ihn _ c
    · exact List.mem_append_right _ (ihn _ _)

/-- The cache grows from state to state, in whichever build, and from the start to the end. -/
theorem pairwise_states : (r.states c).Pairwise PlanCache.Grows ∧
    ∀ s ∈ r.states c, c.Grows s ∧ s.Grows (r.run c).cache := by
  induction r generalizing c with
  | done plan => simp [states, run, PlanCache.Grows.refl]
  | fail e => simp [states, run, PlanCache.Grows.refl]
  | note n next ih => exact ih c
  | call format build next ihb ihn =>
    let k : Call ε α := ⟨format, build, c⟩
    have hrun : (call format build next).run c = _ := k.run_call next
    rw [hrun]
    simp only [states]
    split
    · next plan hget =>
      have hout : k.outcome = ⟨c, [], .ok plan⟩ := k.outcome_of_some hget
      rw [hout]
      exact ihn _ c
    · next hmiss =>
      obtain ⟨hbuild, hin⟩ := ihb c
      obtain ⟨hnext, hout⟩ := ihn k.outcome.result k.outcome.cache
      have hbuilt := (hin _ (start_mem_states build c)).2
      have hrest := (hout _ (start_mem_states _ _)).2
      -- the look-up's own step stands between its build and the rest of the course
      have hown : k.built.cache.Grows k.outcome.cache := k.grows_outcome hmiss
      refine ⟨List.pairwise_append.mpr ⟨hbuild, hnext, ?_⟩, ?_⟩
      · intro s hs t ht
        exact (hin s hs).2.trans (hown.trans (hout t ht).1)
      · intro s hs
        rcases List.mem_append.mp hs with hs | hs
        · exact ⟨(hin s hs).1, (hin s hs).2.trans (hown.trans hrest)⟩
        · exact ⟨hbuilt.trans (hown.trans (hout s hs).1), (hout s hs).2⟩

/-- What a look-up finds and what it leaves are states of the course, and after a miss so is what
its build leaves. -/
theorem mem_states_of_mem_calls {k : Call ε α} (hk : k ∈ r.calls c) :
    k.before ∈ r.states c ∧ k.outcome.cache ∈ r.states c ∧
      (k.before.get? k.format = none → k.built.cache ∈ r.states c) := by
  induction r generalizing c with
  | done plan => cases hk
  | fail e => cases hk
  | note n next ih => exact ih c hk
  | call format build next ihb ihn =>
    rw [calls, List.mem_cons] at hk
    simp only [states]
    split at hk
    · next plan hget =>
      rcases hk with rfl | hk
      · have hcache := congrArg Run.cache (Call.outcome_of_some ⟨format, build, c⟩ hget)
        rw [hcache]
        exact ⟨start_mem_states _ c, start_mem_states _ c,
          fun h => by simp only [hget, reduceCtorEq] at h⟩
      · exact ihn _ c hk
    · next hmiss =>
      simp only [List.mem_append]
      rcases hk with rfl | hk
      · exact ⟨.inl (start_mem_states build c), .inr (start_mem_states _ _),
          fun _ => .inl (end_mem_states build c)⟩
      · rcases List.mem_append.mp hk with hk | hk
        · obtain ⟨hb, ho, hi⟩ := ihb c hk
          exact ⟨.inl hb, .inl ho, fun h => .inl (hi h)⟩
        · obtain ⟨hb, ho, hi⟩ := ihn _ _ hk
          exact ⟨.inr hb, .inr ho, fun h => .inr (hi h)⟩

/-- For every course of look-ups, begun with nothing stored: what is once stored stays, and the
capacity is respected, at every moment; a failed build fails its look-up and stores nothing; what is
stored is found and not built; and without a bound every answer is the plan that is stored. -/
theorem stored_for_good (capacity : Int) (r : Retrieval ε α) :
    let start := PlanCache.empty capacity
    (r.states start).Pairwise (fun s t => ∀ format plan,
      s.get? format = some plan → t.get? format = some plan) ∧
    (∀ s ∈ r.states start, (0 < capacity → (s.size : Int) ≤ capacity) ∧
      (capacity < 0 → s.size = 0)) ∧
    ∀ k ∈ r.calls start,
      k.before ∈ r.states start ∧ k.outcome.cache ∈ r.states start ∧
      (∀ e, k.before.get? k.format = none → k.built.result = .error e →
        k.outcome.result = .error e ∧ k.outcome.cache = k.built.cache) ∧
      (∀ plan, k.before.get? k.format = some plan → ∀ build : Retrieval ε α,
        (get k.format build).run k.before = ⟨k.before, [], .ok plan⟩) ∧
      (capacity = 0 → ∀ plan, k.outcome.result = .ok plan →
        k.outcome.cache.get? k.format = some plan) := by
  intro start
  obtain ⟨hpair, hgrows⟩ := r.pairwise_states start
  refine ⟨hpair.imp ?_, ?_, ?_⟩
  · intro s t h format plan hget
    exact h.kept hget
  · intro s hs
    have h := (hgrows s hs).1
    have hbounded := h.bounded (PlanCache.bounded_empty capacity)
    have hcapacity : s.capacity = capacity := h.capacity
    rw [← hcapacity]
    exact ⟨hbounded.positive, hbounded.negative⟩
  · intro k hk
    obtain ⟨hbefore, hafter, hbuilt⟩ := r.mem_states_of_mem_calls start hk
    refine ⟨hbefore, hafter, ?_, ?_, ?_⟩
    · intro e hmiss he
      rw [k.outcome_of_none hmiss, settle, he]
      exact ⟨rfl, rfl⟩
    · intro plan hget build
      exact Call.outcome_of_some ⟨k.format, build, k.before⟩ hget
    · intro hzero plan hplan
      rcases k.stored_or_full hplan with hstored | ⟨hmiss, hfull, -⟩
      · exact hstored
      · have hcapacity : k.built.cache.capacity = 0 :=
          (hgrows _ (hbuilt hmiss)).1.capacity.trans hzero
        rw [PlanCache.isFull_eq_false_iff.mpr (.inl hcapacity)] at hfull
        cases hfull

/-- Two builds of one format, one within the other; then a build that fails, and the first format
again. -/
def twice : Retrieval String Nat :=
  call "a" (call "a" (done 1) fun _ => done 2) fun _ =>
    call "b" (fail "b") fun _ => get "a" (done 3)

theorem stored_for_good_twice :
    ∃ outer inner failed again, twice.calls (.empty 0) = [outer, inner, failed, again] ∧
      (outer.built.result = .ok 2 ∧ outer.outcome.result = .ok 1 ∧
        outer.outcome.cache.get? "a" = some 1) ∧
      (failed.before.get? "b" = none ∧ failed.built.result = .error "b" ∧
        failed.outcome.result = .error "b" ∧ failed.outcome.cache = failed.built.cache) ∧
      (again.before.get? "a" = some 1 ∧ again.outcome = ⟨again.before, [], .ok 1⟩) := by
  have h := (stored_for_good 0 twice).2.2
  refine ⟨_, _, _, _, rfl, ⟨rfl, rfl, ?_⟩, ⟨rfl, rfl, ?_⟩, ⟨rfl, ?_⟩⟩
  · exact (h _ (.head _)).2.2.2.2 rfl 1 rfl
  · exact (h _ (.tail _ (.tail _ (.head _)))).2.2.1 "b" rfl rfl
  · exact (h _ (.tail _ (.tail _ (.tail _ (.head _))))).2.2.2.1 1 rfl _

/-- Look-ups that overlap on a format agree: each answers the plan that is stored, which is the same
for all of them. The exception is a look-up that is late: it answers the plan of its own build. -/
theorem racers_agree (capacity : Int) (r : Retrieval ε α) :
    let calls := r.calls (.empty capacity)
    (∀ k ∈ calls, ∀ plan stored, k.Returns plan stored →
      (¬ k.Late → plan = stored) ∧
      (k.Late → k.built.result = .ok plan ∧ k.built.cache.get? k.format = some stored)) ∧
    (∀ k ∈ calls, ∀ k' ∈ calls, k.format = k'.format → ¬ k.Late → ¬ k'.Late →
      ∀ plan stored plan' stored', k.Returns plan stored → k'.Returns plan' stored' →
        plan = plan') := by
  intro calls
  refine ⟨fun k _ plan stored h => ⟨h.eq, h.of_late⟩, ?_⟩
  intro k hk k' hk' hformat hlate hlate' plan stored plan' stored' h h'
  -- both plans are still there in the end
  have hlast : ∀ k ∈ calls, k.outcome.cache.Grows (r.run (.empty capacity)).cache := fun k hk =>
    ((r.pairwise_states _).2 _ (r.mem_states_of_mem_calls _ hk).2.1).2
  have hkept := (hlast k hk).kept h.2
  have hkept' := (hlast k' hk').kept h'.2
  rw [hformat, hkept'] at hkept
  rw [h.eq hlate, h'.eq hlate']
  exact (Option.some.inj hkept).symm

theorem racers_agree_twice :
    ∃ outer inner failed again, twice.calls (.empty 2) = [outer, inner, failed, again] ∧
      outer.Returns 1 1 ∧ inner.Returns 1 1 ∧ ¬ outer.Late ∧ ¬ inner.Late ∧
      (∀ plan stored plan' stored', outer.Returns plan stored → inner.Returns plan' stored' →
        plan = plan') := by
  have hroom : ∀ {k : Call String Nat}, k.built.cache.isFull = false → ¬ k.Late := by
    intro k hfalse hlate
    exact Bool.false_ne_true (hfalse.symm.trans hlate.2.2)
  have h := (racers_agree 2 twice).2
  refine ⟨_, _, _, _, rfl, ⟨rfl, rfl⟩, ⟨rfl, rfl⟩, hroom rfl, hroom rfl, ?_⟩
  exact h _ (.head _) _ (.tail _ (.head _)) rfl (hroom rfl) (hroom rfl)

/-- With room for one plan the outer look-up answers its own, and the inner one's is stored. -/
theorem outer_of_full :
    ∃ outer inner failed again, twice.calls (.empty 1) = [outer, inner, failed, again] ∧
      outer.Returns 2 1 ∧ inner.Returns 1 1 :=
  ⟨_, _, _, _, rfl, ⟨rfl, rfl⟩, ⟨rfl, rfl⟩⟩

end Retrieval
end AccessLog
