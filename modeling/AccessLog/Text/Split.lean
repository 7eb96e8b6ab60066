/-!
Cutting a text at a separator. The pieces, put back together with the separator between them, are
the text.
-/
namespace AccessLog.Text

/-- The pieces between the separators; there is one more piece than separators. -/
def splitAll (sep : Char) : List Char → List (List Char)
  | [] => [[]]
  | c :: cs =>
    if c = sep then [] :: splitAll sep cs
    else match splitAll sep cs with
      | [] => [[c]]
      | p :: ps => (c :: p) :: ps

theorem splitAll_eq_splitOn (sep : Char) (cs : List Char) : splitAll sep cs = cs.splitOn sep := by
  induction cs with
  | nil => rw [splitAll, List.splitOn_nil]
  | cons c cs ih =>
    have hne := List.splitOn_ne_nil sep cs
    rw [splitAll, List.splitOn_cons_eq_if_modifyHead, ih]
    by_cases h : c = sep
    · simp [h]
    · cases hs : cs.splitOn sep with
      | nil => exact absurd hs hne
      | cons p ps => simp [h]

theorem intercalate_splitAll (sep : Char) (cs : List Char) :
    [sep].intercalate (splitAll sep cs) = cs := by
  rw [splitAll_eq_splitOn, List.intercalate_splitOn]

/-- The text before the first separator, and what follows it if there is one. -/
def cutAt {α : Type} [DecidableEq α] (sep : α) (cs : List α) : List α × Option (List α) :=
  match cs.dropWhile (· ≠ sep) with
  | [] => (cs, none)
  | _ :: rest => (cs.takeWhile (· ≠ sep), some rest)

theorem cutAt_of_not_mem {α : Type} [DecidableEq α] {sep : α} {cs : List α} (h : sep ∉ cs) :
    cutAt sep cs = (cs, none) := by
  have hdrop : cs.dropWhile (· ≠ sep) = [] := by
    induction cs with
    | nil => rfl
    | cons c cs ih =>
      have hc : c ≠ sep := fun e => h (e ▸ List.mem_cons_self)
      have hd : decide (c ≠ sep) = true := decide_eq_true hc
      rw [List.dropWhile_cons, if_pos hd]
      exact ih fun hm => h (List.mem_cons_of_mem c hm)
  rw [cutAt, hdrop]

/-- Strings joined with a separator between them. -/
def join (sep : String) (parts : List String) : String := sep.intercalate parts

end AccessLog.Text
