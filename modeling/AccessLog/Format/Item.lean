import AccessLog.Field.Token
import AccessLog.Format.Scan

/-!
Format strings as items. Plain text gives its words; a lexeme, freed of blanks, gives the token
that it names. Unknown names are dropped, and so is every `:incoming` after the first.
-/
namespace AccessLog

inductive Format.Item where
  | literal (text : String)
  | token (token : Token) (bracketed : Bool)
  deriving DecidableEq

/-- The items of a format string in order, whether one of them places the connector, and the lexemes
that were thrown away. -/
structure Format where
  items : List Format.Item
  hasIncoming : Bool := false
  dropped : List String := []
  deriving DecidableEq

namespace Format

/-- A lexeme without blanks: its brackets, and the name inside. -/
def readLexeme (cs : List Char) : Bool × String :=
  match cs with
  | ':' :: '[' :: inner => (true, String.ofList inner.dropLast)
  | cs => (false, String.ofList (cs.drop 1))

/-- Adds a piece in front of a format. `seen` tells whether `:incoming` has occurred before. -/
def read (seen : Bool) : List Piece → Format
  | [] => ⟨[], seen, []⟩
  | .plain cs :: ps =>
    let rest := read seen ps
    { rest with items := (Text.words cs).map (.literal ∘ String.ofList) ++ rest.items }
  | .lexeme cs :: ps =>
    let lexeme := Text.squeeze cs
    let (bracketed, name) := readLexeme lexeme
    match Token.ofName? name with
    | none =>
      let rest := read seen ps
      { rest with dropped := String.ofList lexeme :: rest.dropped }
    | some t =>
      if t = .incoming ∧ seen then
        let rest := read seen ps
        { rest with dropped := String.ofList lexeme :: rest.dropped }
      else
        let rest := read (seen || t = .incoming) ps
        { rest with items := .token t bracketed :: rest.items }

def parse (s : String) : Format := read false (scan s.toList)

def Item.isIncoming : Item → Bool
  | .token .incoming _ => true
  | _ => false

end Format

end AccessLog
