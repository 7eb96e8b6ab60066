import AccessLog.Number.Integer

/-!
Values whose kind is known only when they arrive: what messages, error attributes and arguments of
diagnostics carry. `display` shows a value as running text; inside a list or a record it is shown
quoted. A number with too many digits can be shown in neither way, nor can what contains one.
-/
namespace AccessLog

open Text (WideText)

inductive Datum where
  | null
  | flag (b : Bool)
  | whole (n : Int)
  | real (x : Double)
  | text (t : WideText)
  | list (items : List Datum)
  | record (fields : List (WideText × Datum))

namespace Datum

def flagText (b : Bool) : String := if b then "True" else "False"

mutual

def quoted : Datum → Except WritingFault String
  | null => .ok "None"
  | flag b => .ok (flagText b)
  | whole n => Decimal.written n
  | real x => .ok (String.ofList (Decimal.ofDouble x))
  | text t => .ok (Text.quoted t)
  | list items => do return "[" ++ ", ".intercalate (← quotedItems items) ++ "]"
  | record fields => do return "\x7b" ++ ", ".intercalate (← quotedFields fields) ++ "\x7d"

def quotedItems : List Datum → Except WritingFault (List String)
  | [] => .ok []
  | d :: ds => do return (← quoted d) :: (← quotedItems ds)

def quotedFields : List (WideText × Datum) → Except WritingFault (List String)
  | [] => .ok []
  | (k, d) :: ds => do return (Text.quoted k ++ ": " ++ (← quoted d)) :: (← quotedFields ds)

end

def display : Datum → Except WritingFault WideText
  | text t => .ok t
  | d => d.quoted.map Text.wide

/-- Nothing, zero and whatever is empty count as no. -/
def truthy : Datum → Bool
  | null => false
  | flag b => b
  | whole n => n != 0
  | real x => !x.isZero
  | text t => !t.isEmpty
  | list items => !items.isEmpty
  | record fields => !fields.isEmpty

def field? (key : WideText) : Datum → Option Datum
  | record fields => fields.lookup key
  | _ => none

/-- The kind of a value as complaints name it. -/
def kindName : Datum → String
  | null => "NoneType"
  | flag _ => "bool"
  | whole _ => "int"
  | real _ => "float"
  | text _ => "str"
  | list _ => "list"
  | record _ => "dict"

end Datum

end AccessLog
