/-!
Code points: the characters, and the surrogates, which stand for nothing by themselves. A string is
a text of code points without surrogates, and is taken as one where such a text is wanted.
-/
namespace AccessLog.Text

inductive CodePoint where
  | char (c : Char)
  | surrogate (offset : Fin 0x800)
  deriving DecidableEq

abbrev WideText := List CodePoint

namespace CodePoint

def value : CodePoint → Nat
  | char c => c.toNat
  | surrogate n => 0xD800 + n

theorem surrogate_lt {n : Nat} (h : ¬n.isValidChar) (hn : n < 0x110000) : n - 0xD800 < 0x800 := by
  simp only [Nat.isValidChar] at h
  omega

/-- The code point of that number; there are 0x110000 of them. -/
def ofNat? (n : Nat) : Option CodePoint :=
  if h : n.isValidChar then some (char (Char.ofNat n))
  else if hn : n < 0x110000 then some (surrogate ⟨n - 0xD800, surrogate_lt h hn⟩)
  else none

/-- A surrogate is shown as the replacement character. -/
def shown : CodePoint → Char
  | char c => c
  | surrogate _ => '\ufffd'

end CodePoint

def wideChars (cs : List Char) : WideText := cs.map .char

def wide (s : String) : WideText := wideChars s.toList

instance : Coe String WideText := ⟨wide⟩

/-- Whether two surrogates are the halves of a character. -/
def CodePoint.halves (n m : Fin 0x800) : Bool := n.val < 0x400 && 0x400 ≤ m.val

/-- Puts a code point before a text; halves that meet become their character. -/
def CodePoint.join : CodePoint → WideText → WideText
  | surrogate n, surrogate m :: t =>
    if halves n m then char (Char.ofNat (0x10000 + n.val * 0x400 + (m.val - 0x400))) :: t
    else surrogate n :: surrogate m :: t
  | p, t => p :: t

/-- The text with a character for every two halves that stand together. -/
def joined (t : WideText) : WideText := t.foldr CodePoint.join []

@[simp] theorem joined_nil : joined [] = [] := rfl

@[simp] theorem joined_cons (p : CodePoint) (t : WideText) : joined (p :: t) = p.join (joined t) :=
  rfl

/-- Characters are left alone. -/
@[simp] theorem CodePoint.join_char (c : Char) (t : WideText) : (char c).join t = char c :: t := by
  cases t <;> rfl

@[simp] theorem joined_wideChars (cs : List Char) : joined (wideChars cs) = wideChars cs := by
  induction cs with
  | nil => rfl
  | cons c cs ih =>
    have h : wideChars (c :: cs) = .char c :: wideChars cs := rfl
    rw [h, joined_cons, ih, CodePoint.join_char]

@[simp] theorem joined_wide (s : String) : joined (wide s) = wide s := joined_wideChars s.toList

end AccessLog.Text
