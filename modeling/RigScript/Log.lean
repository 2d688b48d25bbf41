/-! ## Log

What the engine reports while it works: a severity and a text. A reader of the log picks a
severity and sees the lines that are at least as severe. -/

namespace RigScript

/-- Severities, the gravest first. -/
inductive Severity where
  | error | warn | info | debug | trace
  deriving DecidableEq, Repr

namespace Severity

def name : Severity → String
  | .error => "ERROR"
  | .warn => "WARN"
  | .info => "INFO"
  | .debug => "DEBUG"
  | .trace => "TRACE"

def rank : Severity → Nat
  | .error => 0
  | .warn => 1
  | .info => 2
  | .debug => 3
  | .trace => 4

/-- At least as grave as `limit`. -/
def within (limit s : Severity) : Bool := s.rank ≤ limit.rank

end Severity

structure LogLine where
  severity : Severity
  text : String
  deriving DecidableEq, Repr

def LogLine.render (l : LogLine) : String := l.severity.name ++ " " ++ l.text

end RigScript
