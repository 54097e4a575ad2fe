import Dunning.Json.Decode
import Dunning.Time.Timestamp

/-!
# Instants and durations in documents

An instant is a string in its written form. A duration is a strict record of whole seconds and the
nanoseconds beyond them; more than a second of nanoseconds carries over, and a sum beyond the
longest duration is refused.
-/

namespace Dunning

namespace Instant

/-- An instant as a document. -/
def toJson (t : Instant) : Json := .string t.render

/-- The instant of a document. -/
def decode? (n : Node) : Option Instant := n.string?.bind parse?

end Instant

namespace Span

/-- A duration as a document. -/
def toJson (d : Span) : Json :=
  .object [("secs", .nat d.secs), ("nanos", .nat d.subsecNanos)]

/-- The fields of a duration. -/
def shape : Shape := ⟨[field "secs", field "nanos"], true⟩

/-- The duration of a number of nanoseconds, if it is not beyond the longest. -/
def ofNanos? (nanos : Nat) : Option Span :=
  if h : nanos < 18446744073709551616000000000 then some ⟨nanos, h⟩ else none

/-- The duration of a document. -/
def decode? (n : Node) : Option Span := do
  let entries ← shape.entries? n
  let secs ← entries.required "secs" (Node.below? UInt64.size)
  let nanos ← entries.required "nanos" (Node.below? UInt32.size)
  ofNanos? (secs * 1000000000 + nanos)

end Span

end Dunning
