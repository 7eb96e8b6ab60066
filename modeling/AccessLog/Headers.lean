import AccessLog.Text.LetterCase
import AccessLog.Text.Octets

/-!
Header lists as they travel: pairs of octet strings in order, with repetitions. A name is asked
for in small letters, and the first pair with exactly that name answers; so a stored name with a
capital is never found.
-/
namespace AccessLog

open Text (WideText wide)

structure Header where
  name : Octets
  value : Octets
  deriving DecidableEq

abbrev Headers := List Header

namespace Headers

def get? (hs : Headers) (key : Octets) : Option Octets :=
  (hs.find? (·.name = key)).map (·.value)

/-- Replaces the first pair of that name, drops the later ones, and appends where there is none. -/
def put (key value : Octets) : Headers → Headers
  | [] => [⟨key, value⟩]
  | h :: hs =>
    if h.name = key then ⟨key, value⟩ :: hs.filter (·.name ≠ key) else h :: put key value hs

/-- The name in small letters, as octets. -/
def key (name : String) : Except Unencodable Octets := Octets.encode (Text.smalls name)

def find (hs : Headers) (name : String) : Except Unencodable (Option WideText) := do
  return (hs.get? (← key name)).map fun value => wide value.decode

/-- Nothing changes when the name or the value has no octets. -/
def set (hs : Headers) (name : String) (value : WideText) : Except Unencodable Headers := do
  let k ← key name
  let v ← Octets.encode value
  return hs.put k v

def ofPairs (pairs : List (String × WideText)) : Except Unencodable Headers :=
  pairs.mapM fun (name, value) => do
    let k ← key name
    let v ← Octets.encode value
    return ⟨k, v⟩

/-- The value under a name of small ASCII letters. -/
def field? (hs : Headers) (name : String) : Option String :=
  (hs.get? (Octets.ofText name)).map Octets.decode

end Headers

end AccessLog
