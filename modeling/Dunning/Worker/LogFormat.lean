import Dunning.Text.Blank

/-!
# The format of log lines

Log lines are JSON objects unless a deployment asks for text that is easier to read on a terminal.
-/

namespace Dunning

/-- The encoding of log lines. -/
inductive LogFormat where
  | json
  | pretty
  deriving Repr, DecidableEq

namespace LogFormat

/-- The format of a name; names that are not known mean JSON. -/
def parse (s : String) : LogFormat :=
  let name := Text.asciiLower (Text.trim s)
  if name = "pretty" ∨ name = "text" then .pretty else .json

/-- The name of a format. -/
def name : LogFormat → String
  | .json => "Json"
  | .pretty => "Pretty"

end LogFormat

end Dunning
