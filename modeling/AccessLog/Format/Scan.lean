import AccessLog.Text.Blank

/-!
Cutting a format string into lexemes. A lexeme is `:[`, one character or more that is not `]`, and
`]`; or a colon and the longest run of letters, hyphens and underscores behind it. Everything else
is plain text. `flatten_scan` says that the pieces make up the format again.
-/
namespace AccessLog.Format

/-- Letters of token names. Case does not matter to the shape of a token, and four letters beyond
ASCII have a Latin letter as their other case. -/
def isNameChar (c : Char) : Bool :=
  c.isAlpha || c == '-' || c == '_' || c == '\u0130' || c == '\u0131' || c == '\u017f' ||
    c == '\u212a'

/-- The bracketed lexeme that starts the text. -/
def bracketLexeme? : List Char → Option (List Char)
  | ':' :: '[' :: body =>
    let inner := body.takeWhile (· ≠ ']')
    if inner ≠ [] ∧ inner.length < body.length then some (':' :: '[' :: inner ++ [']']) else none
  | _ => none

/-- The bare lexeme that starts the text. -/
def bareLexeme? : List Char → Option (List Char)
  | ':' :: body =>
    let name := body.takeWhile isNameChar
    if name ≠ [] then some (':' :: name) else none
  | _ => none

def lexeme? (cs : List Char) : Option (List Char) := bracketLexeme? cs <|> bareLexeme? cs

theorem prefix_of_bracketLexeme? {cs l : List Char} (h : bracketLexeme? cs = some l) :
    l <+: cs ∧ l ≠ [] := by
  unfold bracketLexeme? at h
  split at h
  · next body =>
    simp only at h
    split at h
    · next hi =>
      cases h
      have hsplit := List.takeWhile_append_dropWhile (p := (· ≠ ']')) (l := body)
      cases hd : body.dropWhile (· ≠ ']') with
      | nil =>
        rw [hd, List.append_nil] at hsplit
        rw [hsplit] at hi
        exact absurd hi.2 (Nat.lt_irrefl _)
      | cons x r =>
        have hx : x = ']' := by
          have := List.head?_dropWhile_not (· ≠ ']') body
          rw [hd] at this
          simpa using this
        rw [hd, hx] at hsplit
        exact ⟨⟨r, by simpa using hsplit⟩, by simp⟩
    · exact absurd h nofun
  · exact absurd h nofun

theorem prefix_of_bareLexeme? {cs l : List Char} (h : bareLexeme? cs = some l) :
    l <+: cs ∧ l ≠ [] := by
  unfold bareLexeme? at h
  split at h
  · next body =>
    simp only at h
    split at h
    · cases h
      exact ⟨List.prefix_cons_inj _ |>.2 (List.takeWhile_prefix _), by simp⟩
    · exact absurd h nofun
  · exact absurd h nofun

/-- A lexeme is a non-empty beginning of the text. -/
theorem prefix_of_lexeme? {cs l : List Char} (h : lexeme? cs = some l) : l <+: cs ∧ l ≠ [] := by
  unfold lexeme? at h
  cases hb : bracketLexeme? cs with
  | some b => rw [hb] at h; cases h; exact prefix_of_bracketLexeme? hb
  | none => rw [hb] at h; exact prefix_of_bareLexeme? h

inductive Piece where
  | plain (cs : List Char)
  | lexeme (cs : List Char)
  deriving DecidableEq

namespace Piece

def chars : Piece → List Char
  | plain cs => cs
  | lexeme cs => cs

end Piece

/-- Puts a plain character in front, into the plain text that may already stand there. -/
def consPlain (c : Char) : List Piece → List Piece
  | .plain cs :: ps => .plain (c :: cs) :: ps
  | ps => .plain [c] :: ps

/-- The pieces of a format string: lexemes from left to right, and the plain text between. -/
def scan (cs : List Char) : List Piece :=
  match _h : lexeme? cs with
  | some l => .lexeme l :: scan (cs.drop l.length)
  | none =>
    match cs with
    | [] => []
    | c :: rest => consPlain c (scan rest)
termination_by cs.length
decreasing_by
  · obtain ⟨hpre, hne⟩ := prefix_of_lexeme? _h
    have := hpre.length_le
    have := List.length_pos_iff.2 hne
    simp
    omega
  · simp

@[simp] theorem flatten_consPlain (c : Char) (ps : List Piece) :
    (consPlain c ps).flatMap Piece.chars = c :: ps.flatMap Piece.chars := by
  unfold consPlain
  split <;> simp [Piece.chars]

theorem flatten_scan (cs : List Char) : (scan cs).flatMap Piece.chars = cs := by
  fun_induction scan cs with
  | case1 cs l h ih =>
    simp only [List.flatMap_cons, Piece.chars, ih]
    exact (List.prefix_iff_eq_append.1 (prefix_of_lexeme? h).1)
  | case2 => rfl
  | case3 c rest h ih => simp [ih]

end AccessLog.Format
