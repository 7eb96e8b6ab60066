/-!
One-shot latches. Of the signals that say that something is over, the first one fires the latch and
calls back; later ones do nothing. The callback may signal the same latch again while it runs:
`Reaction` is such a callback as a course of events.
-/
namespace AccessLog

/-- The event that fired the latch. -/
structure Latch (ε : Type) where
  event : Option ε
  deriving DecidableEq

namespace Latch

variable {ε δ φ : Type}

def armed : Latch ε := ⟨none⟩

def fired (l : Latch ε) : Bool := l.event.isSome

/-- The latch after a signal, and whether that signal was the first. -/
def trip (l : Latch ε) (event : ε) : Latch ε × Bool :=
  match l.event with
  | none => (⟨some event⟩, true)
  | some _ => (l, false)

@[simp] theorem trip_armed (event : ε) : (armed : Latch ε).trip event = (⟨some event⟩, true) := rfl

@[simp] theorem trip_fired (first event : ε) :
    (⟨some first⟩ : Latch ε).trip event = (⟨some first⟩, false) := rfl

/-- What a callback does: signals on its own latch, each followed by whatever its answer leads to,
and an end, good or bad. -/
inductive Reaction (ε δ φ : Type) where
  | done
  | fail (fault : φ)
  | signal (event : ε) (details : δ) (next : Except φ Bool → Reaction ε δ φ)

/-- Calls of the callback, and answers to the signals it gave. -/
inductive Trace (ε δ φ : Type) where
  | called (event : ε) (details : δ)
  | answered (answer : Except φ Bool)

/-- The latch after a signal, what happened, and the answer: whether the signal was the first, or
the fault of the callback. -/
structure Run (ε δ φ : Type) where
  latch : Latch ε
  trace : List (Trace ε δ φ)
  answer : Except φ Bool

/-- Plays a reaction, where `signalled` plays the signals in it. -/
def react (signalled : Latch ε → ε → δ → Run ε δ φ) : Reaction ε δ φ → Latch ε → Run ε δ φ
  | .done, l => ⟨l, [], .ok true⟩
  | .fail fault, l => ⟨l, [], .error fault⟩
  | .signal event details next, l =>
    let inner := signalled l event details
    let rest := react signalled (next inner.answer) inner.latch
    { rest with trace := inner.trace ++ .answered inner.answer :: rest.trace }

/-- A signal whose callback may be entered so many times inside itself. -/
def signalWithin (callback : ε → δ → Reaction ε δ φ) :
    Nat → Latch ε → ε → δ → Run ε δ φ
  | 0, l, _, _ => ⟨l, [], .ok false⟩
  | depth + 1, l, event, details =>
    match l.trip event with
    | (l, false) => ⟨l, [], .ok false⟩
    | (l, true) =>
      let run := react (signalWithin callback depth) (callback event details) l
      { run with trace := .called event details :: run.trace }

/-- A signal with its callback. The callback is entered once at most, so one level and the answers
to its own signals are enough; `signalWithin_succ` says that more room changes nothing. -/
def signal (callback : ε → δ → Reaction ε δ φ) (l : Latch ε) (event : ε) (details : δ) :
    Run ε δ φ :=
  signalWithin callback 2 l event details

theorem signalWithin_fired (callback : ε → δ → Reaction ε δ φ) (depth : Nat) {l : Latch ε}
    (h : l.fired = true) (event : ε) (details : δ) :
    signalWithin callback depth l event details = ⟨l, [], .ok false⟩ := by
  obtain ⟨_ | e⟩ := l
  · cases h
  · cases depth <;> rfl

/-- Two ways to play signals that agree on a fired latch play the same reaction alike. -/
theorem react_congr {first second : Latch ε → ε → δ → Run ε δ φ} {l : Latch ε}
    (h : ∀ event details, first l event details = second l event details)
    (hl : ∀ event details, (second l event details).latch = l) (r : Reaction ε δ φ) :
    react first r l = react second r l := by
  induction r with
  | done => rfl
  | fail => rfl
  | signal event details next ih =>
    simp only [react, h, hl, ih]

theorem signalWithin_armed (callback : ε → δ → Reaction ε δ φ) (depth : Nat) (event : ε)
    (details : δ) :
    signalWithin callback (depth + 1) armed event details =
      let run := react (signalWithin callback depth) (callback event details) ⟨some event⟩
      { run with trace := .called event details :: run.trace } := rfl

/-- More room for nested calls changes nothing. -/
theorem signalWithin_succ (callback : ε → δ → Reaction ε δ φ) (depth : Nat) (l : Latch ε)
    (event : ε) (details : δ) :
    signalWithin callback (depth + 1) l event details = signal callback l event details := by
  obtain ⟨_ | e⟩ := l
  · have same : ∀ e d, signalWithin callback depth ⟨some event⟩ e d =
        signalWithin callback 1 ⟨some event⟩ e d := fun e d => by
      rw [signalWithin_fired _ _ rfl, signalWithin_fired _ _ rfl]
    have still : ∀ e d, (signalWithin callback 1 ⟨some event⟩ e d).latch = ⟨some event⟩ :=
      fun e d => by rw [signalWithin_fired _ _ rfl]
    have armed_eq : (⟨none⟩ : Latch ε) = armed := rfl
    rw [signal, armed_eq, signalWithin_armed, signalWithin_armed, react_congr same still]
  · rfl

end Latch

end AccessLog
