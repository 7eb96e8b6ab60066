import AccessLog.Datum
import AccessLog.Journal.Level

/-!
What the program tells about itself: each notice has a severity, a source and a text.
-/
namespace AccessLog

inductive Notice where
  | cacheMiss (format : String)
  | cacheFull (capacity : Int) (format : String)
  | dropped (format : String) (lexemes : List String)
  | compiled (format : String) (requestFields responseFields : Nat)
  | enabled (format : String)
  | errorPage (method path : String) (status : Int) (message : String)
  | demoStarted (environment : String) (colors : Bool)
  | demoStopped
  deriving DecidableEq

namespace Notice

def severity : Notice → Severity
  | cacheMiss _ | dropped .. | compiled .. | enabled _ => .debug
  | cacheFull .. => .warning
  | errorPage _ _ status _ => if 500 ≤ status then .error else .warning
  | demoStarted .. | demoStopped => .info

def source : Notice → String
  | cacheMiss _ | cacheFull .. | dropped .. | compiled .. => "chrona.services.compiler"
  | enabled _ => "chrona.request"
  | errorPage .. => "chrona.middleware.error_handler"
  | demoStarted .. | demoStopped => "chrona.main"

def text : Notice → Except WritingFault String
  | cacheMiss format => .ok ("Plan cache miss for " ++ Text.quoted format)
  | cacheFull capacity format => do
    return "Plan cache full (" ++ (← Decimal.written capacity) ++ " entries); format " ++
      Text.quoted format ++ " will be recompiled on each use"
  | dropped format lexemes =>
    .ok ("Dropped unknown tokens from " ++ Text.quoted format ++ ": " ++ ", ".intercalate lexemes)
  | compiled format requestFields responseFields =>
    .ok ("Compiled " ++ Text.quoted format ++ ": " ++ Decimal.countText requestFields ++
      " request fields, " ++ Decimal.countText responseFields ++ " response fields")
  | enabled format => .ok ("Request logging enabled with format " ++ Text.quoted format)
  | errorPage method path status message => do
    return method ++ " " ++ path ++ " -> " ++ (← Decimal.written status) ++ " " ++ message
  | demoStarted environment colors =>
    .ok ("chrona example started  env=" ++ environment ++ "  colors=" ++ Datum.flagText colors)
  | demoStopped => .ok "chrona example shutting down"

end Notice

end AccessLog
