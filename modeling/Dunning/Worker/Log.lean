import Dunning.Text.Blank

/-!
# Log lines

What a process tells about itself: lines with a level. A deployment names the least level that it
wants to see.

## Main definitions

* `LogLevel`, `LogLine` — a line and its level.
* `LogThreshold` — which levels are shown.
-/

namespace Dunning

/-- How serious a line is. -/
inductive LogLevel where
  | error
  | warn
  | info
  deriving Repr, DecidableEq

namespace LogLevel

/-- The name of a level. -/
def name : LogLevel → String
  | .error => "ERROR"
  | .warn => "WARN"
  | .info => "INFO"

/-- The place of a level, the most serious first. -/
def rank : LogLevel → Nat
  | .error => 1
  | .warn => 2
  | .info => 3

end LogLevel

/-- A line of the log. -/
structure LogLine where
  level : LogLevel
  message : String
  deriving Repr, DecidableEq

namespace LogLine

/-- A line about something that failed. -/
def error (message : String) : LogLine := ⟨.error, message⟩

/-- A line about something that needs attention. -/
def warn (message : String) : LogLine := ⟨.warn, message⟩

/-- A line about something that happened. -/
def info (message : String) : LogLine := ⟨.info, message⟩

/-- The line about a failed operation of a store. The operation is a part of the line's fields, and
the message is empty. -/
def failedOperation : LogLine := error ""

end LogLine

/-- The levels that are shown: those up to a rank. -/
structure LogThreshold where
  rank : Nat
  deriving Repr, DecidableEq

namespace LogThreshold

/-- The threshold of a level. -/
def ofLevel (level : LogLevel) : LogThreshold := ⟨level.rank⟩

/-- The names of thresholds in lower case. Nothing here is more detailed than `info`. -/
def names : List (String × LogThreshold) :=
  [("off", ⟨0⟩), ("", ofLevel .error), ("error", ofLevel .error), ("warn", ofLevel .warn),
   ("info", ofLevel .info), ("debug", ofLevel .info), ("trace", ofLevel .info)]

/-- The threshold of a name, in any case; without a known name it is `info`. -/
def parse (name : Option String) : LogThreshold :=
  match name with
  | some s => (names.lookup (Text.asciiLower s)).getD (ofLevel .info)
  | none => ofLevel .info

/-- Whether a line is shown. -/
def shows (t : LogThreshold) (line : LogLine) : Bool := decide (line.level.rank ≤ t.rank)

end LogThreshold

end Dunning
