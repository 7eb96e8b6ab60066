import AccessLog.Proofs.Plan.Retrieval

/-!
Several compilers with one cache. Plans are kept under their formats alone, so the compiler that is
asked first for a format makes the plan for all of them, if there is room for it. `after_eq` tells
the cache by its history, and `plan_of_maker` the plan that the next compiler is given.
-/
namespace AccessLog

namespace Compiler

theorem run_building {ε α : Type} (c : Compiler) (keep : Plan → α) (format : String)
    (cache : PlanCache α) :
    (c.building keep format : Retrieval ε α).run cache =
      ⟨cache, c.notices format, .ok (keep (c.build format))⟩ := by
  unfold building
  induction c.notices format with
  | nil => rfl
  | cons n ns ih =>
    rw [List.foldr_cons, Retrieval.run, ih]
    rfl

/-- Compiling as a look-up. -/
def asking (c : Compiler) (format : String) (cache : PlanCache Plan) : Retrieval.Call Empty Plan :=
  ⟨format, c.building id format, cache⟩

theorem built_asking (c : Compiler) (format : String) (cache : PlanCache Plan) :
    (c.asking format cache).built = ⟨cache, c.notices format, .ok (c.build format)⟩ :=
  c.run_building id format cache

/-- Compiling against a cache. -/
def compiled (c : Compiler) (format : String) (cache : PlanCache Plan) :
    Retrieval.Run Empty Plan :=
  (c.cached format).run cache

end Compiler

/-- A compiler, and the format that it is asked for. -/
structure Asking where
  compiler : Compiler
  format : String

namespace Asking

def plan (a : Asking) : Plan := a.compiler.build a.format

/-- Adds an asking if it is the first one for its format. -/
def note (firsts : List Asking) (a : Asking) : List Asking :=
  if firsts.any (a.format == ·.format) then firsts else firsts ++ [a]

/-- The first asking for each format, in the order of the history. -/
def firsts (history : List Asking) : List Asking := history.foldl note []

/-- Those whose plans there is room for. -/
def kept (capacity : Int) (firsts : List Asking) : List Asking :=
  if capacity = 0 then firsts else firsts.take capacity.toNat

/-- The cache that holds their plans. -/
def cache (capacity : Int) (firsts : List Asking) : PlanCache Plan :=
  ⟨(kept capacity firsts).map fun a => (a.format, a.plan), capacity⟩

/-- Who makes the plan: the first of the askings for the format, or else `c`. -/
def maker (askings : List Asking) (c : Compiler) (format : String) : Compiler :=
  ((askings.find? (format == ·.format)).map compiler).getD c

variable {capacity : Int} {l : List Asking}

theorem kept_eq_self (h : capacity = 0 ∨ (l.length : Int) ≤ capacity) : kept capacity l = l := by
  unfold kept
  split
  · rfl
  · exact List.take_of_length_le (by omega)

theorem kept_append (h : capacity ≠ 0) (hfull : capacity ≤ l.length) (l' : List Asking) :
    kept capacity (l ++ l') = kept capacity l := by
  rw [kept, kept, if_neg h, if_neg h, List.take_append_of_le_length (by omega)]

theorem get?_cache (format : String) :
    (cache capacity l).get? format =
      ((kept capacity l).find? (format == ·.format)).map fun a => a.compiler.build format := by
  unfold cache PlanCache.get?
  induction kept capacity l with
  | nil => rfl
  | cons a as ih =>
    rw [List.map_cons, List.lookup_cons, List.find?_cons]
    cases h : format == a.format with
    | true =>
      rw [eq_of_beq h]
      rfl
    | false => exact ih

theorem isFull_cache : (cache capacity l).isFull = true ↔ capacity ≠ 0 ∧ capacity ≤ l.length := by
  have hsize : (cache capacity l).size = (kept capacity l).length := List.length_map _
  rw [PlanCache.isFull, Bool.and_eq_true, decide_eq_true_iff, decide_eq_true_iff, hsize]
  by_cases h : capacity = 0
  · exact iff_of_false (fun hn => hn.1 h) fun hn => hn.1 h
  · have hkept : (kept capacity l).length = min capacity.toNat l.length := by
      rw [kept, if_neg h, List.length_take]
    rw [hkept]
    change capacity ≠ 0 ∧ capacity ≤ _ ↔ _
    omega

theorem note_of_any {a : Asking} (h : l.any (a.format == ·.format) = true) : note l a = l := by
  rw [note, if_pos h]

theorem note_of_none {a : Asking} (h : l.find? (a.format == ·.format) = none) :
    note l a = l ++ [a] := by
  have hany : l.any (a.format == ·.format) = false :=
    List.any_eq_false.mpr (List.find?_eq_none.mp h)
  rw [note, hany, if_neg Bool.false_ne_true]

theorem kept_prefix : kept capacity l <+: l := by
  unfold kept
  split
  · exact List.prefix_refl l
  · exact List.take_prefix _ l

variable (a : Asking)

theorem cache_note_of_full (h : (cache capacity l).isFull = true) :
    cache capacity (note l a) = cache capacity l := by
  obtain ⟨hne, hle⟩ := isFull_cache.mp h
  unfold note
  split
  · rfl
  · rw [cache, cache, kept_append hne hle]

theorem cache_note_of_room (h : (cache capacity l).isFull = false)
    (hget : (cache capacity l).get? a.format = none) :
    (cache capacity l).publish a.format a.plan = (cache capacity (note l a), a.plan) := by
  have hroom : ¬ (capacity ≠ 0 ∧ capacity ≤ l.length) := fun hf =>
    Bool.false_ne_true (h.symm.trans (isFull_cache.mpr hf))
  have hself : ∀ l' : List Asking, l'.length ≤ l.length + 1 → kept capacity l' = l' :=
    fun l' hl => kept_eq_self (by omega)
  have hnote : note l a = l ++ [a] := by
    rw [get?_cache, Option.map_eq_none_iff, hself l (by omega)] at hget
    exact note_of_none hget
  have hlength : (l ++ [a]).length ≤ l.length + 1 := Nat.le_of_eq List.length_append
  rw [PlanCache.publish_of_none hget, hnote, cache, cache, hself _ hlength, hself l (by omega),
    List.map_append]
  rfl

/-- Compiling adds the asking to those that came first, and answers with its maker's plan. -/
theorem compiled_cache (capacity : Int) (l : List Asking) :
    let run := a.compiler.compiled a.format (cache capacity l)
    run.cache = cache capacity (note l a) ∧
      run.result = .ok ((maker (kept capacity l) a.compiler a.format).build a.format) := by
  let k := a.compiler.asking a.format (cache capacity l)
  have hbuilt : k.built = ⟨cache capacity l, a.compiler.notices a.format, .ok a.plan⟩ :=
    a.compiler.built_asking a.format _
  have hget : (cache capacity l).get? a.format = _ := get?_cache a.format
  intro run
  have hrun : run = k.outcome := rfl
  cases hfind : (kept capacity l).find? (a.format == ·.format) with
  | some first =>
    rw [hfind] at hget
    have hformat := List.find?_some hfind
    have hany : l.any (a.format == ·.format) = true := List.any_eq_true.mpr
      ⟨first, kept_prefix.subset (List.mem_of_find?_eq_some hfind), hformat⟩
    rw [hrun, k.outcome_of_some hget, note_of_any hany, maker, hfind]
    exact ⟨rfl, rfl⟩
  | none =>
    rw [hfind] at hget
    have hmaker : maker (kept capacity l) a.compiler a.format = a.compiler := by
      rw [maker, hfind]
      rfl
    rw [hrun, hmaker]
    rcases k.outcome_cases hget with ⟨e, he, -⟩ | ⟨own, hown, hfull, hr, hc⟩ |
      ⟨own, hown, hroom, hr, hc⟩
    · rw [hbuilt] at he
      cases he
    · rw [hbuilt] at hown hfull hc
      cases hown
      exact ⟨hc.trans (a.cache_note_of_full hfull).symm, hr⟩
    · rw [hbuilt] at hown hroom hr hc
      cases hown
      have hpublish := a.cache_note_of_room hroom hget
      exact ⟨hc.trans (congrArg Prod.fst hpublish),
        hr.trans (congrArg (fun p => Except.ok p.2) hpublish)⟩

/-- The cache after a history, begun with nothing stored. -/
def after (capacity : Int) (history : List Asking) : PlanCache Plan :=
  history.foldl (fun cache a => (a.compiler.compiled a.format cache).cache) (.empty capacity)

theorem after_eq (capacity : Int) (history : List Asking) :
    after capacity history = cache capacity (firsts history) := by
  have hstart : (.empty capacity : PlanCache Plan) = cache capacity [] := by
    unfold cache kept
    split
    · rfl
    · rw [List.take_nil]
      rfl
  unfold after firsts
  rw [hstart]
  generalize ([] : List Asking) = l
  induction history generalizing l with
  | nil => rfl
  | cons a as ih => rw [List.foldl_cons, List.foldl_cons, (a.compiled_cache capacity l).1, ih]

theorem find?_note (format : String) :
    (note l a).find? (format == ·.format) =
      (l.find? (format == ·.format)).or ([a].find? (format == ·.format)) := by
  unfold note
  split
  · next hany =>
    obtain ⟨b, hb, hformat⟩ := List.any_eq_true.mp hany
    cases h : format == a.format with
    | false => simp only [List.find?_cons, h, List.find?_nil, Option.or_none]
    | true =>
      -- then there is one already
      have hsome : (l.find? (format == ·.format)).isSome = true :=
        List.find?_isSome.mpr ⟨b, hb, by rw [eq_of_beq h]; exact hformat⟩
      rw [Option.or_of_isSome hsome]
  · exact List.find?_append

/-- The first asking for a format is the first one in the history. -/
theorem find?_firsts (history : List Asking) (format : String) :
    (firsts history).find? (format == ·.format) = history.find? (format == ·.format) := by
  have hfold : ∀ l : List Asking, (history.foldl note l).find? (format == ·.format) =
      (l.find? (format == ·.format)).or (history.find? (format == ·.format)) := by
    induction history with
    | nil => exact fun l => Option.or_none.symm
    | cons a as ih =>
      intro l
      rw [List.foldl_cons, ih, find?_note, Option.or_assoc, ← List.find?_append,
        List.singleton_append]
  exact hfold []

/-- Compilers that share a cache: each is given the plan of the compiler that was asked first for
the format, if there was room for it, and else its own. Without a bound there always is room; and a
compiler is given its own plan if all that were asked for the format before have its options. -/
theorem plan_of_maker (capacity : Int) (history : List Asking) (c : Compiler) (format : String) :
    let result := (c.compiled format (after capacity history)).result
    result = .ok ((maker (kept capacity (firsts history)) c format).build format) ∧
    (capacity = 0 → result = .ok ((maker history c format).build format)) ∧
    ((∀ a ∈ history, a.format = format → a.compiler = c) → result = .ok (c.build format)) := by
  intro result
  have h : result = .ok ((maker (kept capacity (firsts history)) c format).build format) := by
    have hrun := (compiled_cache ⟨c, format⟩ capacity (firsts history)).2
    rwa [← after_eq] at hrun
  refine ⟨h, fun hzero => ?_, fun hsame => ?_⟩
  · rw [h, kept_eq_self (.inl hzero), maker, find?_firsts]
    rfl
  · have hmaker : maker (kept capacity (firsts history)) c format = c := by
      unfold maker
      cases hfind : (kept capacity (firsts history)).find? (format == ·.format) with
      | none => rfl
      | some first =>
        have hfirst := kept_prefix.find?_eq_some hfind
        rw [find?_firsts] at hfirst
        have hformat := List.find?_some hfirst
        exact hsame first (List.mem_of_find?_eq_some hfirst) (eq_of_beq hformat).symm
    rw [h, hmaker]

/-- An asking for another format does no harm, and one for the same format decides. -/
theorem plan_of_maker_apart :
    let painted : Compiler := ⟨true, false, false⟩
    let plain : Compiler := ⟨false, false, false⟩
    let history : List Asking := [⟨plain, ":method"⟩, ⟨painted, ":url"⟩]
    (∀ a ∈ history, a.format = ":method" → a.compiler = plain) ∧
      (plain.compiled ":method" (after 1 history)).result = .ok (plain.build ":method") ∧
      (plain.compiled ":url" (after 0 history)).result = .ok (painted.build ":url") := by
  intro painted plain history
  have hsame : ∀ a ∈ history, a.format = ":method" → a.compiler = plain := by
    simp [history]
  exact ⟨hsame, (plan_of_maker 1 history plain ":method").2.2 hsame,
    (plan_of_maker 0 history plain ":url").2.1 rfl⟩

/-- A compiler that paints nothing is given a painted line, because another one was asked before. -/
theorem painted_by_other :
    let painted : Compiler := ⟨true, false, false⟩
    let plain : Compiler := ⟨false, false, false⟩
    ∃ plan, (plain.compiled ":incoming" (after 0 [⟨painted, ":incoming"⟩])).result = .ok plan ∧
      ∀ moment context,
        plan.render .request moment context =
          .ok ⟨"\x1b[90m[INCOMING]\x1b[0m \x1b[90m<--\x1b[0m", []⟩ ∧
        (plain.build ":incoming").render .request moment context = .ok ⟨"[INCOMING] <--", []⟩ := by
  intro painted plain
  have hparse : Format.parse ":incoming" = ⟨[.token .incoming false], true, []⟩ := by
    decide +kernel
  have hmaker : maker (kept 0 (firsts [⟨painted, ":incoming"⟩])) plain ":incoming" = painted := rfl
  have h := (compiled_cache ⟨plain, ":incoming"⟩ 0 (firsts [⟨painted, ":incoming"⟩])).2
  rw [← after_eq, hmaker] at h
  refine ⟨_, h, fun moment context => ⟨?_, ?_⟩⟩
  · rw [Compiler.build, hparse]
    rfl
  · rw [Compiler.build, hparse]
    rfl

end Asking
end AccessLog
