/-!
Terminal colours. A painted text starts with the sequence of its colour and ends with the one that
takes all colour back.
-/
namespace AccessLog

inductive Color where
  | red | green | yellow | blue | magenta | cyan | white | gray
  | redBright | greenBright | yellowBright | blueBright | magentaBright | cyanBright | whiteBright
  | banner
  deriving DecidableEq, Repr

namespace Color

def reset : String := "\x1b[0m"

def code : Color → String
  | red => "\x1b[31m"
  | green => "\x1b[32m"
  | yellow => "\x1b[33m"
  | blue => "\x1b[34m"
  | magenta => "\x1b[35m"
  | cyan => "\x1b[36m"
  | white => "\x1b[37m"
  | gray => "\x1b[90m"
  | redBright => "\x1b[91m"
  | greenBright => "\x1b[92m"
  | yellowBright => "\x1b[93m"
  | blueBright => "\x1b[94m"
  | magentaBright => "\x1b[95m"
  | cyanBright => "\x1b[96m"
  | whiteBright => "\x1b[97m"
  | banner => "\x1b[1;44m"

def name : Color → String
  | red => "red"
  | green => "green"
  | yellow => "yellow"
  | blue => "blue"
  | magenta => "magenta"
  | cyan => "cyan"
  | white => "white"
  | gray => "gray"
  | redBright => "redBright"
  | greenBright => "greenBright"
  | yellowBright => "yellowBright"
  | blueBright => "blueBright"
  | magentaBright => "magentaBright"
  | cyanBright => "cyanBright"
  | whiteBright => "whiteBright"
  | banner => "banner"

def all : List Color :=
  [red, green, yellow, blue, magenta, cyan, white, gray, redBright, greenBright, yellowBright,
    blueBright, magentaBright, cyanBright, whiteBright, banner]

/-- Names nobody knows mean gray. -/
def ofName (name : String) : Color := (all.find? (·.name = name)).getD gray

theorem ofName_name (c : Color) : ofName c.name = c := by cases c <;> decide

def paint (enabled : Bool) (color : Color) (text : String) : String :=
  if enabled then color.code ++ text ++ reset else text

@[simp] theorem paint_false (color : Color) (text : String) : paint false color text = text := rfl

end Color

end AccessLog
