import Dunning.Number.Binary
import Dunning.Text.Blank
import Dunning.Time.Wire

/-!
# Handler backoff

How often a failing item is tried, and how long it rests in between. Delays are whole milliseconds
computed with 53 significant bits and cut off at the longest number of 64 bits.

## Main definitions

* `BackoffStrategy`, `BackoffPolicy` — the rule.
* `BackoffPolicy.delayMillis` — the rest after a failed invocation.
* `BackoffPolicy.allows` — whether a further invocation is allowed.
-/

namespace Dunning

/-- How delays grow. -/
inductive BackoffStrategy where
  /-- Always the base delay. -/
  | fixed
  /-- Doubling from one failure to the next. -/
  | exponential
  /-- Growing by the base delay. -/
  | linear
  deriving Repr, DecidableEq, Inhabited

namespace BackoffStrategy

/-- The stored name. -/
def name : BackoffStrategy → String
  | .fixed => "fixed"
  | .exponential => "exponential"
  | .linear => "linear"

/-- The strategy of a stored name. -/
def ofName? : String → Option BackoffStrategy
  | "fixed" => some .fixed
  | "exponential" => some .exponential
  | "linear" => some .linear
  | _ => none

/-- The strategy of a name with letters of either case. -/
def parse? (s : String) : Option BackoffStrategy := ofName? (Text.asciiLower s)

/-- A strategy as a document. -/
def toJson (s : BackoffStrategy) : Json := .string s.name

/-- The strategy of a document. -/
def decode? (n : Node) : Option BackoffStrategy := n.variant? ofName? false

end BackoffStrategy

/-- The retry budget of handlers. -/
structure BackoffPolicy where
  /-- Invocations allowed before the item is given up. -/
  maxAttempts : UInt32 := 5
  baseDelay : Span := Span.ofSecs 30
  maxDelay : Span := Span.ofSecs 3600
  strategy : BackoffStrategy := .exponential
  deriving DecidableEq

namespace BackoffPolicy

/-- The same delay after every failure. -/
def fixed (maxAttempts : UInt32) (delay : Span) : BackoffPolicy :=
  ⟨maxAttempts, delay, delay, .fixed⟩

/-- The largest number of milliseconds of a delay. -/
def longestMillis : Nat := 18446744073709551615

/-- The milliseconds of rest after a number of failures. -/
def delayMillis (p : BackoffPolicy) (failures : UInt32) : Nat :=
  if failures = 0 then 0
  else
    let base := Number.toPrecision p.baseDelay.millis
    let longest := Number.toPrecision p.maxDelay.millis
    let delay :=
      match p.strategy with
      | .fixed => base
      | .exponential =>
        min (Number.toPrecision (base * Nat.pow 2 (min (failures.toNat - 1) 62))) longest
      | .linear => min (Number.toPrecision (base * failures.toNat)) longest
    min delay longestMillis

/-- The rest after a number of failures. -/
def delay (p : BackoffPolicy) (failures : UInt32) : Span := Span.ofMillis (p.delayMillis failures)

/-- Whether a further invocation is allowed after a number of failures. -/
def allows (p : BackoffPolicy) (failures : UInt32) : Bool := failures < p.maxAttempts

/-- A policy as a document. -/
def toJson (p : BackoffPolicy) : Json :=
  .object
    [("max_attempts", .nat p.maxAttempts.toNat), ("base_delay", p.baseDelay.toJson),
     ("max_delay", p.maxDelay.toJson), ("strategy", p.strategy.toJson)]

/-- The fields of a policy. -/
def shape : Shape :=
  ⟨[field "max_attempts", field "base_delay", field "max_delay", field "strategy"], false⟩

/-- The policy of a document. -/
def decode? (n : Node) : Option BackoffPolicy := do
  let entries ← shape.entries? n
  let maxAttempts ← entries.required "max_attempts" Node.uint32?
  let baseDelay ← entries.required "base_delay" Span.decode?
  let maxDelay ← entries.required "max_delay" Span.decode?
  let strategy ← entries.required "strategy" BackoffStrategy.decode?
  pure { maxAttempts, baseDelay, maxDelay, strategy }

end BackoffPolicy

end Dunning
