/-!
# Log lines

What a run leaves in its log: lines of two levels.  `LogLine.text` is how a line is shown.
-/

namespace LoftGraph

inductive LogLevel where
  | warning
  | error
  deriving Repr, DecidableEq

def LogLevel.name : LogLevel → String
  | warning => "WARNING"
  | error => "ERROR"

structure LogLine where
  level : LogLevel
  message : String
  deriving Repr, DecidableEq

/-- The line with its level in front. -/
def LogLine.text (l : LogLine) : String := s!"{l.level.name}: {l.message}"

end LoftGraph
