import AccessLog.Journal.Notice
import AccessLog.Plan.Compiler

/-!
Compiled plans, kept by format. An entry is never replaced and never leaves; a full cache takes
nothing new. Building a plan may itself ask the cache, so that several builds of one format can be
under way at once: `Retrieval` is such a course of events, and `Retrieval.run` plays it against a
cache.
-/
namespace AccessLog

/-- Capacity 0 sets no limit. -/
structure PlanCache (α : Type) where
  entries : List (String × α)
  capacity : Int

namespace PlanCache

variable {α : Type}

def empty (capacity : Int) : PlanCache α := ⟨[], capacity⟩

def get? (c : PlanCache α) (format : String) : Option α := c.entries.lookup format

def size (c : PlanCache α) : Nat := c.entries.length

def isFull (c : PlanCache α) : Bool := c.capacity ≠ 0 && c.capacity ≤ c.size

/-- Adds an entry unless there is one for the format; the entry that counts is the first. -/
def publish (c : PlanCache α) (format : String) (plan : α) : PlanCache α × α :=
  match c.get? format with
  | some stored => (c, stored)
  | none => ({ c with entries := c.entries ++ [(format, plan)] }, plan)

@[simp] theorem get?_empty (capacity : Int) (format : String) :
    (empty capacity : PlanCache α).get? format = none := rfl

theorem get?_append (entries : List (String × α)) (format asked : String) (plan : α)
    (capacity : Int) :
    get? ⟨entries ++ [(format, plan)], capacity⟩ asked =
      (get? ⟨entries, capacity⟩ asked).or (if asked = format then some plan else none) := by
  unfold get?
  induction entries with
  | nil =>
    rw [List.nil_append, List.lookup_cons, List.lookup_nil]
    by_cases h : asked = format
    · simp [h]
    · rw [beq_false_of_ne h, if_neg h]
      rfl
  | cons e es ih =>
    obtain ⟨k, v⟩ := e
    simp only [List.cons_append, List.lookup_cons]
    split
    · rfl
    · exact ih

theorem publish_of_some {c : PlanCache α} {format : String} {stored : α}
    (h : c.get? format = some stored) (plan : α) : c.publish format plan = (c, stored) := by
  simp [publish, h]

/-- What the cache holds for the format afterwards is what publishing answers. -/
theorem get?_publish_self (c : PlanCache α) (format : String) (plan : α) :
    (c.publish format plan).1.get? format = some (c.publish format plan).2 := by
  unfold publish
  split
  · assumption
  · next h =>
    have h' : get? ⟨c.entries, c.capacity⟩ format = none := h
    rw [get?_append, h', if_pos rfl]
    rfl

theorem get?_publish_of_some {c : PlanCache α} {asked : String} {stored : α}
    (h : c.get? asked = some stored) (format : String) (plan : α) :
    (c.publish format plan).1.get? asked = some stored := by
  unfold publish
  split
  · exact h
  · have h' : get? ⟨c.entries, c.capacity⟩ asked = some stored := h
    rw [get?_append, h']
    rfl

end PlanCache

/-- A course of cache look-ups. `call` asks for a format, with what is done when it is missing, and
goes on with the answer. -/
inductive Retrieval (ε α : Type) where
  | done (plan : α)
  | fail (fault : ε)
  | note (notice : Notice) (next : Retrieval ε α)
  | call (format : String) (build : Retrieval ε α) (next : Except ε α → Retrieval ε α)

namespace Retrieval

variable {ε α : Type}

/-- The cache after a retrieval, what was noticed on the way, and the answer. -/
structure Run (ε α : Type) where
  cache : PlanCache α
  notices : List Notice
  result : Except ε α

def Run.after (notices : List Notice) (r : Run ε α) : Run ε α :=
  { r with notices := notices ++ r.notices }

/-- Where the plan of a finished build goes: a full cache leaves it to the one who built it. -/
def settle (format : String) (built : Run ε α) : Run ε α :=
  match built.result with
  | .error e => ⟨built.cache, built.notices, .error e⟩
  | .ok plan =>
    if built.cache.isFull then
      ⟨built.cache, built.notices ++ [.cacheFull built.cache.capacity format], .ok plan⟩
    else
      let (cache, plan) := built.cache.publish format plan
      ⟨cache, built.notices, .ok plan⟩

def run : Retrieval ε α → PlanCache α → Run ε α
  | done plan, c => ⟨c, [], .ok plan⟩
  | fail e, c => ⟨c, [], .error e⟩
  | note n next, c => (run next c).after [n]
  | call format build next, c =>
    match c.get? format with
    | some plan => run (next (.ok plan)) c
    | none =>
      let answer := (settle format (run build c)).after [.cacheMiss format]
      (run (next answer.result) answer.cache).after answer.notices

/-- A look-up and nothing else. -/
def get (format : String) (build : Retrieval ε α) : Retrieval ε α :=
  call format build fun
    | .ok plan => done plan
    | .error e => fail e

end Retrieval

namespace Compiler

/-- The notices of a build. -/
def notices (c : Compiler) (format : String) : List Notice :=
  let f := Format.parse format
  let parts := c.parts f.items
  (if f.dropped = [] then [] else [.dropped format f.dropped]) ++
    [.compiled format parts.requestFields.length parts.responseFields.length]

/-- Building as a retrieval that never fails; `keep` is what the cache keeps of the plan. -/
def building {ε α : Type} (c : Compiler) (keep : Plan → α) (format : String) : Retrieval ε α :=
  (c.notices format).foldr Retrieval.note (.done (keep (c.build format)))

/-- The plan of a format, from the cache where it has one. -/
def cached {ε : Type} (c : Compiler) (format : String) : Retrieval ε Plan :=
  Retrieval.get format (c.building id format)

end Compiler

end AccessLog
