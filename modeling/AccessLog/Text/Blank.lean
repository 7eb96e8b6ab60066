/-!
White space: which characters count, and cutting a text at them. `words` loses nothing but blanks,
and no word holds one.
-/
namespace AccessLog.Text

def isBlank (c : Char) : Bool :=
  let n := c.toNat
  (0x09 ≤ n && n ≤ 0x0D) || (0x1C ≤ n && n ≤ 0x20) || n == 0x85 || n == 0xA0 || n == 0x1680 ||
    (0x2000 ≤ n && n ≤ 0x200A) || n == 0x2028 || n == 0x2029 || n == 0x202F || n == 0x205F ||
    n == 0x3000

def trimLeft (cs : List Char) : List Char := cs.dropWhile isBlank

def trimRight (cs : List Char) : List Char := (cs.reverse.dropWhile isBlank).reverse

def trim (cs : List Char) : List Char := trimRight (trimLeft cs)

/-- The text without any blank. -/
def squeeze (cs : List Char) : List Char := cs.filter (!isBlank ·)

/-- The maximal runs without a blank, in order. -/
def words : List Char → List (List Char)
  | [] => []
  | c :: cs =>
    if isBlank c then words cs
    else match cs with
      | [] => [[c]]
      | d :: _ =>
        if isBlank d then [c] :: words cs
        else match words cs with
          | [] => [[c]]
          | w :: ws => (c :: w) :: ws

theorem words_blank {c : Char} (h : isBlank c = true) (cs : List Char) :
    words (c :: cs) = words cs := by simp [words, h]

theorem flatten_words (cs : List Char) : (words cs).flatten = squeeze cs := by
  induction cs with
  | nil => rfl
  | cons c cs ih =>
    by_cases hc : isBlank c
    · rw [words_blank hc, ih]; simp [squeeze, hc]
    · cases cs with
      | nil => simp [words, squeeze, hc]
      | cons d r =>
        by_cases hd : isBlank d
        · simp_all [words, squeeze]
        · have hw : words (d :: r) ≠ [] := by
            intro h
            rw [h] at ih
            simp [squeeze, hd] at ih
          cases h : words (d :: r) with
          | nil => exact absurd h hw
          | cons w ws =>
            rw [h] at ih
            rw [words]
            simp only [hc, hd, h, if_false, Bool.false_eq_true]
            simp [squeeze, hc] at ih ⊢
            exact ih

end AccessLog.Text
