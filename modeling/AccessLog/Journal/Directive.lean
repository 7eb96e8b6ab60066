import AccessLog.Datum
import AccessLog.Text.CodePoint

/-!
Directives in the texts of messages: `%s`, `%-5d`, `%(name)08.3f`. Each one takes the next argument,
or the argument of that name, and writes it as its letter says. `expand` writes a whole text; all
arguments must be used up. Surrogates stand in a text like other code points, and `%c` writes the
one of a number.
-/
namespace AccessLog.Directive

open Text (CodePoint WideText wide wideChars)

inductive Fault where
  | tooFewArguments
  | tooManyArguments
  | needsRecord
  | missingKey (name : WideText)
  | unfinished
  | unfinishedKey
  | unknownLetter (letter : CodePoint) (index : Nat)
  | widthTooBig
  | precisionTooBig
  | measureNotWhole
  | widthOutOfRange
  | precisionOutOfRange
  | precisionTooLarge
  | noRoom
  | notNumber (letter : Char) (kind : String)
  | notWhole (letter : Char) (kind : String)
  | notReal (kind : String)
  | notCharacter
  | characterOutOfRange
  | tooLargeForReal
  | unwritable (e : WritingFault)
  | arithmetic (e : ArithmeticFault)
  deriving DecidableEq

/-- Letters outside the printable ASCII range are shown as a question mark. -/
def shownLetter (p : CodePoint) : Char := if 31 ≤ p.value ∧ p.value ≤ 126 then p.shown else '?'

def hexText (n : Nat) : List Char := Nat.toDigits 16 n

def Fault.message : Fault → String
  | tooFewArguments => "not enough arguments for format string"
  | tooManyArguments => "not all arguments converted during string formatting"
  | needsRecord => "format requires a mapping"
  | missingKey name => Text.quoted name
  | unfinished => "incomplete format"
  | unfinishedKey => "incomplete format key"
  | unknownLetter p index =>
    "unsupported format character '" ++ String.singleton (shownLetter p) ++ "' (0x" ++
      String.ofList (hexText p.value) ++ ") at index " ++ Decimal.countText index
  | widthTooBig => "width too big"
  | precisionTooBig => "precision too big"
  | measureNotWhole => "* wants int"
  | widthOutOfRange => "Python int too large to convert to C ssize_t"
  | precisionOutOfRange => "Python int too large to convert to C int"
  | precisionTooLarge => "precision too large"
  | noRoom => ""
  | notNumber c kind =>
    "%" ++ String.singleton c ++ " format: a real number is required, not " ++ kind
  | notWhole c kind =>
    "%" ++ String.singleton c ++ " format: an integer is required, not " ++ kind
  | notReal kind => "must be real number, not " ++ kind
  | notCharacter => "%c requires int or char"
  | characterOutOfRange => "%c arg not in range(0x110000)"
  | tooLargeForReal => "int too large to convert to float"
  | unwritable e => e.message
  | arithmetic e => e.message

/-- Arguments still to be used. Of a record, the whole stands for every name not asked for. -/
structure Arguments where
  pending : List Datum
  record : Option Datum

namespace Arguments

/-- A record that is the only argument and not empty gives its members by name. -/
def ofList : List Datum → Arguments
  | [.record (f :: fs)] => ⟨[.record (f :: fs)], some (.record (f :: fs))⟩
  | ds => ⟨ds, none⟩

def next (a : Arguments) : Except Fault (Datum × Arguments) :=
  match a.pending with
  | [] => .error .tooFewArguments
  | d :: ds => .ok (d, { a with pending := ds })

end Arguments

/-- How a value is fitted into its place. -/
structure Layout where
  left : Bool := false
  plus : Bool := false
  space : Bool := false
  marked : Bool := false
  zeros : Bool := false
  width : Nat := 0
  precision : Option Nat := none

/-- A written value: the sign and the mark of its base are kept apart from the digits. -/
structure Written where
  negative : Bool := false
  mark : List Char := []
  body : WideText
  numeric : Bool := true

/-- There is room for texts shorter than this. -/
def roomBound : Nat := 0x40000000

namespace Layout

def sign (l : Layout) (w : Written) : List Char :=
  if !w.numeric then []
  else if w.negative then ['-']
  else if l.plus then ['+']
  else if l.space then [' ']
  else []

/-- Blanks on one side up to the width, or zeros between the sign and the digits. -/
def place (l : Layout) (w : Written) : WideText :=
  let lead := wideChars (l.sign w ++ w.mark)
  let fill := fun c => wideChars (List.replicate (l.width - (lead.length + w.body.length)) c)
  if l.left then lead ++ w.body ++ fill ' '
  else if l.zeros && w.numeric then lead ++ fill '0' ++ w.body
  else fill ' ' ++ lead ++ w.body

end Layout

/-- A whole part and a fraction. The point is left out with the fraction, unless it is kept. -/
def pointed (keep : Bool) (whole fraction : List Char) : List Char :=
  if fraction = [] && !keep then whole else whole ++ '.' :: fraction

def dropZeros (cs : List Char) : List Char := (cs.reverse.dropWhile (· == '0')).reverse

/-- The first `k` digits of `m · 2 ^ e`, or all that are not zero if these are fewer, and the power
of ten of the first one. -/
def scientific (k m : Nat) (e : Int) : List Char × Int :=
  let k := min k Decimal.maxDigits
  if m = 0 then (List.replicate k '0', 0)
  else
    let d := Decimal.significant k (m * Power.num 2 e) (Power.den 2 e)
    (Decimal.ofNat d.digits, d.exponent + k - 1)

/-- At least `k` digits, with zeros at the end. -/
def filled (k : Nat) (ds : List Char) : List Char := ds.rightpad k '0'

def fixedText (l : Layout) (places m : Nat) (e : Int) : List Char :=
  Decimal.fixed (min places Decimal.maxPlaces) (.finite false m e) ++
    List.replicate (places - Decimal.maxPlaces) '0' ++
    if places = 0 && l.marked then ['.'] else []

def exponentForm (keep : Bool) (ds : List Char) (power : Int) : List Char :=
  pointed keep (ds.take 1) (ds.drop 1) ++ Decimal.exponentText 'e' power

/-- So many significant digits, with an exponent for powers of ten below -4 and from there on. -/
def generalText (l : Layout) (k m : Nat) (e : Int) : List Char :=
  let k := max k 1
  let (ds, power) := scientific k m e
  let ds := if l.marked then filled k ds else ds
  let trim := fun cs => if l.marked then cs else dropZeros cs
  if power < -4 ∨ (k : Int) ≤ power then
    exponentForm l.marked (ds.take 1 ++ trim (ds.drop 1)) power
  else if power < 0 then
    pointed l.marked ['0'] (trim (List.replicate (-power - 1).toNat '0' ++ ds))
  else pointed l.marked (ds.take (power.toNat + 1)) (trim (ds.drop (power.toNat + 1)))

/-- Precisions are below this bound. -/
def precisionBound : Nat := 0x80000000

/-- How many digits are written besides those that matter. In the form with an exponent the first
digit is counted too, and beyond the bound the count begins again. -/
def realPlaces (l : Layout) (letter : Char) : Nat :=
  let places := l.precision.getD 6
  if letter = 'e' ∧ places + 1 = precisionBound then 0 else places

def realBody (l : Layout) (letter : Char) (m : Nat) (e : Int) : List Char :=
  let places := realPlaces l letter
  if letter = 'f' then fixedText l places m e
  else if letter = 'e' then
    let (ds, power) := scientific (places + 1) m e
    exponentForm l.marked (filled (places + 1) ds) power
  else generalText l places m e

/-- Whether zeros at the end are written as far as the precision says. -/
def showsZeros (l : Layout) (letter : Char) : Bool := letter != 'g' || l.marked

/-- A capital letter asks for capitals. -/
def writeReal (l : Layout) (letter : Char) (x : Double) : Except Fault Written :=
  let cased := fun cs : List Char =>
    wideChars (if letter.isUpper then cs.map Char.toUpper else cs)
  let letter := letter.toLower
  match x with
  | .nan => .ok { body := cased "nan".toList }
  | .infinite s => .ok { negative := s, body := cased "inf".toList }
  | .finite s m e =>
    if showsZeros l letter && decide (roomBound ≤ realPlaces l letter) then .error .noRoom
    else .ok { negative := s, body := cased (realBody l letter m e) }

def realOf : Datum → Except Fault Double
  | .real x => .ok x
  | .flag b => .ok (Double.ofInt (if b then 1 else 0))
  | .whole n =>
    match Double.ofInt n with
    | .infinite _ => .error .tooLargeForReal
    | x => .ok x
  | d => .error (.notReal d.kindName)

/-- The whole number of a value; a real loses its fraction. -/
def numberOf (letter : Char) : Datum → Except Fault Int
  | .whole n => .ok n
  | .flag b => .ok (if b then 1 else 0)
  | .real x => x.truncate.mapError .arithmetic
  | d => .error (.notNumber letter d.kindName)

def wholeOf (letter : Char) : Datum → Except Fault Int
  | .whole n => .ok n
  | .flag b => .ok (if b then 1 else 0)
  | d => .error (.notWhole letter d.kindName)

/-- Digits of whole numbers are filled up with zeros to less than this count. -/
def fillBound : Nat := 0x7FFFFFFD

/-- Digits to the base of ten have a limit, digits to other bases have none. -/
def decimalDigits (n : Nat) : Except WritingFault (List Char) :=
  (Decimal.written n).map String.toList

/-- A whole number in the digits of some base, behind the mark of that base if it is wanted. -/
def writeWhole (l : Layout) (digits : Nat → Except WritingFault (List Char)) (mark : List Char)
    (n : Int) : Except Fault Written := do
  let places := l.precision.getD 0
  if fillBound ≤ places then throw .precisionTooLarge
  let ds ← (digits n.natAbs).mapError .unwritable
  if roomBound ≤ places then throw .noRoom
  return {
    negative := n < 0
    mark := if l.marked then mark else []
    body := wideChars (ds.leftpad places '0') }

def writeText (l : Layout) (t : WideText) : Written :=
  { body := match l.precision with
      | some p => t.take p
      | none => t
    numeric := false }

def codePointOf : Datum → Except Fault CodePoint
  | .text t =>
    match t with
    | [p] => .ok p
    | _ => .error .notCharacter
  | .whole n =>
    match n with
    | .ofNat k => ((CodePoint.ofNat? k).map .ok).getD (.error .characterOutOfRange)
    | .negSucc _ => .error .characterOutOfRange
  | .flag b => .ok (.char (if b then '\x01' else '\x00'))
  | _ => .error .notCharacter

def write (l : Layout) (letter : Char) (index : Nat) (d : Datum) : Except Fault Written :=
  match letter with
  | 's' => (d.display.map (writeText l)).mapError .unwritable
  | 'r' => (d.quoted.map fun s => writeText l s).mapError .unwritable
  | 'a' => (d.quoted.map fun s => writeText l (Text.inAscii s)).mapError .unwritable
  | 'd' | 'i' | 'u' => do writeWhole l decimalDigits [] (← numberOf letter d)
  | 'o' => do writeWhole l (.ok <| Nat.toDigits 8 ·) ['0', 'o'] (← wholeOf letter d)
  | 'x' => do writeWhole l (.ok <| Nat.toDigits 16 ·) ['0', 'x'] (← wholeOf letter d)
  | 'X' => do
    let digits := fun n => .ok ((Nat.toDigits 16 n).map Char.toUpper)
    writeWhole l digits ['0', 'X'] (← wholeOf letter d)
  | 'e' | 'E' | 'f' | 'F' | 'g' | 'G' => do writeReal l letter (← realOf d)
  | 'c' => do return { body := [← codePointOf d], numeric := false }
  | _ => .error (.unknownLetter (.char letter) index)

/-- The text up to the parenthesis that closes it, with so many others still open. -/
def closeKey : Nat → WideText → Option (WideText × WideText)
  | _, [] => none
  | 0, .char ')' :: rest => some ([], rest)
  | n + 1, .char ')' :: rest => (closeKey n rest).map fun (key, r) => (.char ')' :: key, r)
  | n, .char '(' :: rest => (closeKey (n + 1) rest).map fun (key, r) => (.char '(' :: key, r)
  | n, p :: rest => (closeKey n rest).map fun (key, r) => (p :: key, r)

/-- A name in parentheses chooses the next argument. -/
def choose (a : Arguments) : WideText → Except Fault (Arguments × WideText)
  | .char '(' :: rest =>
    match a.record with
    | none => .error .needsRecord
    | some record =>
      match closeKey 0 rest with
      | none => .error .unfinishedKey
      | some (key, rest) =>
        match record.field? key with
        | none => .error (.missingKey key)
        | some d => .ok ({ a with pending := [d] }, rest)
  | t => .ok (a, t)

def isFlag (p : CodePoint) : Bool := (wide "-+ #0").contains p

def ofFlags (flags : WideText) : Layout :=
  { left := flags.contains (.char '-')
    plus := flags.contains (.char '+')
    space := flags.contains (.char ' ')
    marked := flags.contains (.char '#')
    zeros := flags.contains (.char '0') }

/-- The digits that a text begins with as a number, and what follows them. -/
def takeNumber (t : WideText) : Nat × WideText :=
  (Decimal.value ((t.takeWhile (·.shown.isDigit)).map CodePoint.shown),
    t.dropWhile (·.shown.isDigit))

/-- A star stands for the next argument, which must be a whole number. -/
def starred (a : Arguments) : Except Fault (Int × Arguments) := do
  let (d, a) ← a.next
  match d with
  | .whole n => return (n, a)
  | .flag b => return (if b then 1 else 0, a)
  | _ => throw .measureNotWhole

/-- Widths are below this bound. -/
def widthBound : Nat := 0x8000000000000000

/-- A negative width sets the text to the left. Of the lowest one nothing is left but that. -/
def takeWidth (l : Layout) (a : Arguments) :
    WideText → Except Fault (Layout × Arguments × WideText)
  | .char '*' :: rest => do
    let (n, a) ← starred a
    if n < -widthBound ∨ widthBound ≤ n then throw .widthOutOfRange
    return ({ l with left := l.left || n < 0, width := n.natAbs % widthBound }, a, rest)
  | t => do
    let (n, rest) := takeNumber t
    if widthBound ≤ n then throw .widthTooBig
    return ({ l with width := n }, a, rest)

def takePrecision (l : Layout) (a : Arguments) :
    WideText → Except Fault (Layout × Arguments × WideText)
  | .char '.' :: .char '*' :: rest => do
    let (n, a) ← starred a
    if n < -precisionBound ∨ precisionBound ≤ n then throw .precisionOutOfRange
    return ({ l with precision := some n.toNat }, a, rest)
  | .char '.' :: rest => do
    let (n, rest) := takeNumber rest
    if precisionBound ≤ n then throw .precisionTooBig
    return ({ l with precision := some n }, a, rest)
  | t => .ok (l, a, t)

/-- One of these letters before the last one means nothing. -/
def skipSize : WideText → WideText
  | .char 'h' :: rest | .char 'l' :: rest | .char 'L' :: rest => rest
  | t => t

/-- Writes the directive behind a percent sign of a text of `length` code points. -/
def one (length : Nat) (a : Arguments) (t : WideText) :
    Except Fault (WideText × Arguments × WideText) := do
  let (a, t) ← choose a t
  let l := ofFlags (t.takeWhile isFlag)
  let (l, a, t) ← takeWidth l a (t.dropWhile isFlag)
  let (l, a, t) ← takePrecision l a t
  match skipSize t with
  | [] => throw .unfinished
  | letter :: rest =>
    let (d, a) ← a.next
    let index := length - rest.length - 1
    let w ← match letter with
      | .char c => write l c index d
      | .surrogate _ => throw (.unknownLetter letter index)
    if roomBound ≤ l.width then throw .noRoom
    if a.record.isSome && !a.pending.isEmpty then throw .tooManyArguments
    return (l.place w, a, rest)

/-- As many steps as the text has code points are enough. -/
def expandFrom (length : Nat) : Nat → Arguments → WideText → Except Fault WideText
  | _, a, [] => if a.record.isNone && !a.pending.isEmpty then .error .tooManyArguments else .ok []
  | 0, _, _ => .ok []
  | steps + 1, a, .char '%' :: .char '%' :: rest =>
    (expandFrom length steps a rest).map (.char '%' :: ·)
  | steps + 1, a, .char '%' :: rest => do
    let (text, a, rest) ← one length a rest
    return text ++ (← expandFrom length steps a rest)
  | steps + 1, a, p :: rest => (expandFrom length steps a rest).map (p :: ·)

/-- The text with its directives written out. Without arguments it is taken as it is. -/
def expand (text : WideText) (arguments : List Datum) : Except Fault WideText :=
  if arguments.isEmpty then .ok text
  else expandFrom text.length text.length (Arguments.ofList arguments) text

end AccessLog.Directive
