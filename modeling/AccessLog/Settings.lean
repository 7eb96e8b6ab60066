import AccessLog.Number.Integer
import AccessLog.Text.LetterCase
import AccessLog.Text.Split

/-!
Settings from environment variables. A variable belongs to a setting whatever the case of its
letters; of several, the last one counts. All bad values are reported together.
-/
namespace AccessLog

/-- Environment variables with their values, in order. -/
abbrev Environment := List (String × String)

/-- Where access lines go unless the application says otherwise. -/
inductive DefaultSink where
  | stdout
  | journal
  deriving DecidableEq, Repr

structure Settings where
  format : String
  banner : Bool
  alwaysConnector : Bool
  colors : Option Bool
  sink : DefaultSink
  capacity : Int
  environment : String
  logLevel : String
  noColor : Bool
  deriving DecidableEq

/-- What a value should have been. -/
inductive Settings.Expected where
  | flag
  | whole
  | shorterWhole
  | choice
  deriving DecidableEq, Repr

structure Settings.Complaint where
  setting : String
  expected : Settings.Expected
  deriving DecidableEq

namespace Settings

def defaultFormat : String := ":incoming :method :url :status :response-time :content-length"

def lookup? (env : Environment) (setting : String) : Option String :=
  (env.reverse.find? fun v => Text.smalls v.1 = "chrona_" ++ Text.smalls setting).map (·.2)

def yesWords : List String := ["1", "t", "true", "y", "yes", "on"]

def noWords : List String := ["0", "f", "false", "n", "no", "off"]

/-- One of the words for yes and no, in any case of its ASCII letters. -/
def readFlag (s : String) : Except Expected Bool :=
  let word := String.ofList (s.toList.map Char.toLower)
  if word ∈ yesWords then .ok true else if word ∈ noWords then .ok false else .error .flag

/-- Without a plus sign in front, which no minus sign may follow. -/
def dropPlus? : List Char → Option (List Char)
  | '+' :: '-' :: _ => none
  | '+' :: cs => some cs
  | cs => some cs

/-- What is left behind a zero: from the next digit or minus sign on, or from the character before
the next point, whatever zeros and underscores were on the way. -/
def afterZero? (last : Char) : List Char → Option (List Char)
  | [] => some [last]
  | c :: cs =>
    if c = '0' ∨ c = '_' then afterZero? c cs
    else if c = '-' ∨ c.isDigit then some (c :: cs)
    else if c = '.' then some (last :: c :: cs)
    else none

/-- Without leading zeros; a number begins with a digit or a minus sign. -/
def dropZeros? : List Char → Option (List Char)
  | [] => none
  | c :: cs =>
    if c = '0' then afterZero? c cs
    else if c = '-' ∨ c.isDigit then some (c :: cs)
    else none

/-- Without a fraction, if it is all zeros. -/
def dropFraction (cs : List Char) : List Char :=
  match Text.cutAt '.' cs with
  | (number, some zeros) => if zeros ≠ [] ∧ zeros.all (· == '0') then number else cs
  | (_, none) => cs

/-- Without underscores, if each of them stands alone between two other characters. -/
def dropUnderscores (cs : List Char) : List Char :=
  if Integer.underscoresApart cs then cs.filter (· ≠ '_') else cs

/-- A minus sign, perhaps, and digits without zeros in front. Only so many characters are read. -/
def plainWhole (cs : List Char) : Except Expected Int :=
  let negative := cs.head? = some '-'
  let body := if negative then cs.drop 1 else cs
  let ds := body.takeWhile Char.isDigit
  if ds = [] ∨ (ds.head? = some '0' ∧ ds.length ≠ 1) then .error .whole
  else if Integer.digitLimit < ds.length + (cs.length - body.length) then .error .shorterWhole
  else if ds = body then .ok (Double.signed negative (Decimal.value ds))
  else .error .whole

/-- A whole number between blanks, written with all the liberties above. -/
def readWhole (s : String) : Except Expected Int :=
  match (dropPlus? (Integer.trimMargins s.toList)).bind dropZeros? with
  | some cs => plainWhole (dropUnderscores (dropFraction cs))
  | none => .error .whole

def readSink : String → Except Expected DefaultSink
  | "stdout" => .ok .stdout
  | "logging" => .ok .journal
  | _ => .error .choice

/-- The value of a setting, or a complaint about it. -/
def setting {α : Type} (env : Environment) (name : String) (default : α)
    (value : String → Except Expected α) : Except Complaint α :=
  match lookup? env name with
  | none => .ok default
  | some s => (value s).mapError (⟨name, ·⟩)

def complaint? {α : Type} : Except Complaint α → Option Complaint
  | .ok _ => none
  | .error e => some e

/-- All settings, or all complaints by the names of the settings. -/
def read (env : Environment) : Except (List Complaint) Settings :=
  let alwaysConnector := setting env "ALWAYS_CONNECTOR" false readFlag
  let banner := setting env "BANNER" false readFlag
  let colors := setting env "COLORS" none fun s => (readFlag s).map some
  let capacity := setting env "PLAN_CACHE_MAX_ENTRIES" 0 readWhole
  let sink := setting env "SINK" .stdout readSink
  match alwaysConnector, banner, colors, capacity, sink with
  | .ok alwaysConnector, .ok banner, .ok colors, .ok capacity, .ok sink =>
    .ok {
      format := (lookup? env "FORMAT").getD defaultFormat
      banner, alwaysConnector, colors, sink, capacity
      environment := (lookup? env "ENVIRONMENT").getD "development"
      logLevel := (lookup? env "LOG_LEVEL").getD "INFO"
      noColor := env.any (·.1 = "NO_COLOR") }
  | _, _, _, _, _ =>
    .error ([complaint? alwaysConnector, complaint? banner, complaint? colors,
      complaint? capacity, complaint? sink].filterMap id)

/-- An explicit wish counts; without one, only a terminal is painted, and not against `NO_COLOR`. -/
def colorsEnabled (s : Settings) (terminal : Bool) : Bool :=
  s.colors.getD (!s.noColor && terminal)

def isDevelopment (s : Settings) : Bool := Text.smalls s.environment = "development"

end Settings

end AccessLog
