import AccessLog.Latch

/-!
What a latch does in a whole run, signals within its own callback included. `Plays` tells a run rule
by rule, and with it every signal that was given on the way; nothing in the rules bounds how deep
callbacks are entered. `plays_iff` says that a latch runs by these rules and no other way; then the
first signal of a run, wherever it comes from, is the only one that calls back.
-/
namespace AccessLog.Latch

variable {ε δ φ : Type}

/-- One signal: what was given, the latch before and after, the latch that the callback found if it
was called, and the answer. -/
structure Firing (ε δ φ : Type) where
  event : ε
  details : δ
  before : Latch ε
  entered : Option (Latch ε)
  answer : Except φ Bool
  after : Latch ε

/-- The course of signals `r`, begun with the latch `l`, gives these firings, each before those in
its callback, and ends in this run. A late signal is declined; the first one moves the latch, and
then the callback is played with whatever signals it gives. -/
inductive Plays (callback : ε → δ → Reaction ε δ φ) :
    Reaction ε δ φ → Latch ε → List (Firing ε δ φ) → Run ε δ φ → Prop
  | done (l : Latch ε) : Plays callback .done l [] ⟨l, [], .ok true⟩
  | fail (fault : φ) (l : Latch ε) : Plays callback (.fail fault) l [] ⟨l, [], .error fault⟩
  | late {l : Latch ε} {won event : ε} {details : δ} {next : Except φ Bool → Reaction ε δ φ}
      {later : List (Firing ε δ φ)} {rest : Run ε δ φ} : l.event = some won →
      Plays callback (next (.ok false)) l later rest →
      Plays callback (.signal event details next) l
        (⟨event, details, l, none, .ok false, l⟩ :: later)
        { rest with trace := .answered (.ok false) :: rest.trace }
  | first {l : Latch ε} {event : ε} {details : δ} {next : Except φ Bool → Reaction ε δ φ}
      {within later : List (Firing ε δ φ)} {inner rest : Run ε δ φ} : l.event = none →
      Plays callback (callback event details) ⟨some event⟩ within inner →
      Plays callback (next inner.answer) inner.latch later rest →
      Plays callback (.signal event details next) l
        (⟨event, details, l, some ⟨some event⟩, inner.answer, inner.latch⟩ :: (within ++ later))
        { rest with
          trace := .called event details :: (inner.trace ++ .answered inner.answer :: rest.trace) }

/-- How a callback ends whose signals are all declined. -/
def Reaction.ending : Reaction ε δ φ → Except φ Bool
  | done => .ok true
  | fail fault => .error fault
  | signal _ _ next => ending (next (.ok false))

/-- The signals of a course that comes too late. -/
def declined (l : Latch ε) : Reaction ε δ φ → List (Firing ε δ φ)
  | .done | .fail _ => []
  | .signal event details next =>
    ⟨event, details, l, none, .ok false, l⟩ :: declined l (next (.ok false))

theorem of_mem_declined {l : Latch ε} {r : Reaction ε δ φ} {k : Firing ε δ φ}
    (hk : k ∈ declined l r) :
    k.before = l ∧ k.entered = none ∧ k.answer = .ok false ∧ k.after = l := by
  induction r with
  | done => cases hk
  | fail fault => cases hk
  | signal event details next ih =>
    rcases List.mem_cons.mp hk with rfl | hk
    · exact ⟨rfl, rfl, rfl, rfl⟩
    · exact ih _ hk

/-- The callbacks that were entered. -/
def Trace.call? : Trace ε δ φ → Option (ε × δ)
  | called event details => some (event, details)
  | answered _ => none

def Run.calls (run : Run ε δ φ) : List (ε × δ) := run.trace.filterMap Trace.call?

variable (callback : ε → δ → Reaction ε δ φ)

theorem react_late (event : ε) (details : δ) (next : Except φ Bool → Reaction ε δ φ) (won : ε) :
    react (signal callback) (.signal event details next) ⟨some won⟩ =
      let rest := react (signal callback) (next (.ok false)) ⟨some won⟩
      { rest with trace := .answered (.ok false) :: rest.trace } := by
  have hlate : signal callback ⟨some won⟩ event details = ⟨⟨some won⟩, [], .ok false⟩ :=
    signalWithin_fired callback 2 rfl event details
  simp only [react, hlate, List.nil_append]

/-- The first signal plays the callback, whose own signals are signals like any other. -/
theorem signal_armed (event : ε) (details : δ) :
    signal callback armed event details =
      let inner := react (signal callback) (callback event details) ⟨some event⟩
      { inner with trace := .called event details :: inner.trace } := by
  have hfired : ∀ depth e d, signalWithin callback depth ⟨some event⟩ e d =
      ⟨⟨some event⟩, [], .ok false⟩ := fun depth e d => signalWithin_fired callback depth rfl e d
  have hsame : react (signalWithin callback 1) (callback event details) ⟨some event⟩ =
      react (signal callback) (callback event details) ⟨some event⟩ := by
    refine react_congr ?_ ?_ _
    · intro e d
      rw [signal, hfired, hfired]
    · intro e d
      rw [signal, hfired]
  rw [signal, signalWithin_armed, hsame]

/-- On a fired latch a course calls nothing, leaves the latch, and ends as if all were declined. -/
theorem react_fired (r : Reaction ε δ φ) (won : ε) :
    (react (signal callback) r ⟨some won⟩).latch = ⟨some won⟩ ∧
      (react (signal callback) r ⟨some won⟩).answer = r.ending ∧
      (react (signal callback) r ⟨some won⟩).calls = [] := by
  induction r with
  | done => exact ⟨rfl, rfl, rfl⟩
  | fail fault => exact ⟨rfl, rfl, rfl⟩
  | signal event details next ih =>
    rw [react_late]
    exact ih _

theorem react_first (event : ε) (details : δ) (next : Except φ Bool → Reaction ε δ φ) :
    react (signal callback) (.signal event details next) armed =
      let answer := (callback event details).ending
      let inner := react (signal callback) (callback event details) ⟨some event⟩
      let rest := react (signal callback) (next answer) ⟨some event⟩
      { rest with trace := .called event details :: (inner.trace ++ .answered answer :: rest.trace) } := by
  obtain ⟨hlatch, hanswer, -⟩ := react_fired callback (callback event details) event
  rw [react, signal_armed]
  simp only [hlatch, hanswer, List.cons_append]

theorem plays_done_iff {l : Latch ε} {played : List (Firing ε δ φ)} {run : Run ε δ φ} :
    Plays callback .done l played run ↔ played = [] ∧ run = ⟨l, [], .ok true⟩ := by
  constructor
  · intro h
    cases h
    exact ⟨rfl, rfl⟩
  · rintro ⟨rfl, rfl⟩
    exact .done l

theorem plays_fail_iff {fault : φ} {l : Latch ε} {played : List (Firing ε δ φ)}
    {run : Run ε δ φ} :
    Plays callback (.fail fault) l played run ↔ played = [] ∧ run = ⟨l, [], .error fault⟩ := by
  constructor
  · intro h
    cases h
    exact ⟨rfl, rfl⟩
  · rintro ⟨rfl, rfl⟩
    exact .fail fault l

theorem plays_fired_iff (r : Reaction ε δ φ) (won : ε) (played : List (Firing ε δ φ))
    (run : Run ε δ φ) :
    Plays callback r ⟨some won⟩ played run ↔
      played = declined ⟨some won⟩ r ∧ run = react (signal callback) r ⟨some won⟩ := by
  induction r generalizing played run with
  | done => exact plays_done_iff callback
  | fail fault => exact plays_fail_iff callback
  | signal event details next ih =>
    rw [react_late]
    constructor
    · intro h
      cases h with
      | late _ hrest =>
        obtain ⟨rfl, rfl⟩ := (ih _ _ _).mp hrest
        exact ⟨rfl, rfl⟩
      | first hnone => cases hnone
    · rintro ⟨rfl, rfl⟩
      exact .late rfl ((ih _ _ _).mpr ⟨rfl, rfl⟩)

/-- The signals of a course, when the first of them that meets an armed latch is the only one that
calls back. -/
def firings : Reaction ε δ φ → Latch ε → List (Firing ε δ φ)
  | .signal event details next, ⟨none⟩ =>
    let answer := (callback event details).ending
    ⟨event, details, armed, some ⟨some event⟩, answer, ⟨some event⟩⟩ ::
      (declined ⟨some event⟩ (callback event details) ++ declined ⟨some event⟩ (next answer))
  | r, l => declined l r

theorem firings_fired (r : Reaction ε δ φ) (won : ε) :
    firings callback r ⟨some won⟩ = declined ⟨some won⟩ r := by
  cases r <;> rfl

/-- A latch runs by the rules and in no other way. -/
theorem plays_iff (r : Reaction ε δ φ) (l : Latch ε) (played : List (Firing ε δ φ))
    (run : Run ε δ φ) :
    Plays callback r l played run ↔
      played = firings callback r l ∧ run = react (signal callback) r l := by
  obtain ⟨_ | won⟩ := l
  · cases r with
    | done => exact plays_done_iff callback
    | fail fault => exact plays_fail_iff callback
    | signal event details next =>
      obtain ⟨hlatch, hanswer, -⟩ := react_fired callback (callback event details) event
      have hrun := react_first callback event details next
      constructor
      · intro h
        cases h with
        | late hsome => cases hsome
        | first _ hwithin hlater =>
          -- the callback and what comes after it both find a fired latch
          obtain ⟨rfl, rfl⟩ := (plays_fired_iff callback _ _ _ _).mp hwithin
          rw [hlatch, hanswer] at hlater ⊢
          obtain ⟨rfl, rfl⟩ := (plays_fired_iff callback _ _ _ _).mp hlater
          exact ⟨rfl, hrun.symm⟩
      · rintro ⟨rfl, rfl⟩
        have hwithin := (plays_fired_iff callback (callback event details) event _ _).mpr ⟨rfl, rfl⟩
        have hlater := (plays_fired_iff callback (next (callback event details).ending) event _ _).mpr
          ⟨rfl, rfl⟩
        have hfirst : Plays callback (.signal event details next) armed _ _ :=
          .first rfl hwithin (by
            rw [hlatch, hanswer]
            exact hlater)
        simp only [hlatch, hanswer] at hfirst
        rw [← hrun] at hfirst
        exact hfirst
  · rw [firings_fired]
    exact plays_fired_iff callback r won played run

/-- A use of a latch from outside: a signal, an observer made for an event, or a call of the
observer made so many observers after the first. -/
inductive Use (ε δ : Type) where
  | fire (event : ε) (details : δ)
  | observe (event : ε)
  | call (observer : Nat) (details : δ)

/-- The signals given by uses, when observers for these events are there already. -/
def Use.signals : List ε → List (Use ε δ) → List (ε × δ)
  | _, [] => []
  | made, fire event details :: uses => (event, details) :: signals made uses
  | made, observe event :: uses => signals (made ++ [event]) uses
  | made, call observer details :: uses =>
    (made[observer]?.map (·, details)).toList ++ signals made uses

/-- One signal after another, whatever the answers. -/
def Reaction.ofSignals : List (ε × δ) → Reaction ε δ φ
  | [] => .done
  | (event, details) :: later => .signal event details fun _ => ofSignals later

theorem ending_eq (r : Reaction ε δ φ) :
    r.ending = .ok true ∨ ∃ fault, r.ending = .error fault := by
  induction r with
  | done => exact .inl rfl
  | fail fault => exact .inr ⟨fault, rfl⟩
  | signal event details next ih => exact ih _

/-- The latch after signals given from outside: the first of them has fired it for good. -/
theorem latch_ofSignals (given : List (ε × δ)) :
    (react (signal callback) (.ofSignals given) armed).latch = ⟨given.head?.map Prod.fst⟩ := by
  obtain _ | ⟨⟨event, details⟩, later⟩ := given
  · rfl
  · rw [Reaction.ofSignals, react_first]
    exact (react_fired callback _ event).1

/-- Of the signals given from outside, the first one alone calls back. -/
theorem calls_ofSignals (given : List (ε × δ)) :
    (react (signal callback) (.ofSignals given) armed).calls = given.head?.toList := by
  obtain _ | ⟨⟨event, details⟩, later⟩ := given
  · rfl
  · obtain ⟨-, -, hwithin⟩ := react_fired callback (callback event details) event
    obtain ⟨-, -, hlater⟩ := react_fired callback (.ofSignals later) event
    rw [Run.calls] at hwithin hlater
    rw [Reaction.ofSignals, react_first, Run.calls]
    simp only [List.filterMap_cons, Trace.call?, List.filterMap_append, hwithin, hlater]
    rfl

/-- A callback that signals again and then fails. -/
example :
    let callback : Nat → Unit → Reaction Nat Unit String :=
      fun event details => .signal (event + 1) details fun _ => .fail "lost"
    let uses := [.observe 7, .fire 4 (), .call 0 ()]
    (react (signal callback) (.ofSignals (Use.signals [] uses)) armed).calls = [(4, ())] := rfl

/-- A latch is one-shot, whatever uses are made of it and whatever its callback does. The callback
is called with the first signal given, if any is, and never again. That signal is answered by the
end of the callback, which finds a latch that its event has fired; every other signal, before the
callback is over or after it, finds that latch, is declined without a call and leaves it so. -/
theorem one_shot (uses : List (Use ε δ)) :
    let given := Use.signals [] uses
    let run := react (signal callback) (.ofSignals given) armed
    let after := fun n =>
      (react (signal callback) (.ofSignals (Use.signals [] (uses.take n))) armed).latch
    ∃ played : List (Firing ε δ φ),
      (∀ played' run', Plays callback (.ofSignals given) armed played' run' ↔
        played' = played ∧ run' = run) ∧
      run.calls = given.head?.toList ∧
      (∀ n, (after n).event = (Use.signals [] (uses.take n)).head?.map Prod.fst ∧
        ((after n).fired = true ↔ Use.signals [] (uses.take n) ≠ [])) ∧
      (given = [] → played = []) ∧
      ∀ event details later, given = (event, details) :: later →
        ∃ answer others,
          played = ⟨event, details, armed, some ⟨some event⟩, answer, ⟨some event⟩⟩ :: others ∧
          answer = (callback event details).ending ∧
          (answer = .ok true ∨ ∃ fault, answer = .error fault) ∧
          ∀ k ∈ others, k.before = ⟨some event⟩ ∧ k.entered = none ∧ k.answer = .ok false ∧
            k.after = ⟨some event⟩ := by
  intro given run after
  refine ⟨firings callback (.ofSignals given) armed, plays_iff callback _ _,
    calls_ofSignals callback given, fun n => ?_, fun hnone => ?_, fun event details later hfirst => ?_⟩
  · have hafter : after n = ⟨(Use.signals [] (uses.take n)).head?.map Prod.fst⟩ :=
      latch_ofSignals callback _
    rw [hafter]
    refine ⟨rfl, ?_⟩
    cases Use.signals [] (uses.take n) <;> simp [fired]
  · rw [hnone]
    rfl
  · rw [hfirst]
    refine ⟨_, _, rfl, rfl, ending_eq _, fun k hk => ?_⟩
    exact (List.mem_append.mp hk).elim of_mem_declined of_mem_declined

end AccessLog.Latch
