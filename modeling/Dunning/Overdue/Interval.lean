import Dunning.Json.Decode
import Dunning.Time.Instant

/-!
# Re-evaluation intervals

A duration as authors of a configuration write it: days, hours and minutes.
-/

namespace Dunning

/-- Days, hours and minutes. -/
structure Interval where
  days : UInt32 := 0
  hours : UInt32 := 0
  minutes : UInt32 := 0
  deriving Repr, DecidableEq, Inhabited

namespace Interval

/-- Some days. -/
def ofDays (days : UInt32) : Interval := { days }

/-- Whether all three parts are zero. -/
def isZero (i : Interval) : Bool := i.days == 0 && i.hours == 0 && i.minutes == 0

/-- The length in minutes. -/
def totalMinutes (i : Interval) : Nat :=
  i.days.toNat * 24 * 60 + i.hours.toNat * 60 + i.minutes.toNat

/-- The length in nanoseconds. -/
def nanos (i : Interval) : Nat := i.totalMinutes * nanosPerMinute

/-- The length in milliseconds. -/
def millis (i : Interval) : Nat := i.totalMinutes * 60000

/-- The moment an interval later, if the calendar has it. -/
def after? (i : Interval) (t : Instant) : Option Instant := t.plus? i.nanos

/-- An interval as a document. -/
def toJson (i : Interval) : Json :=
  .object
    [("days", .nat i.days.toNat), ("hours", .nat i.hours.toNat), ("minutes", .nat i.minutes.toNat)]

/-- The fields of an interval, all of which may be left out and no others given. -/
def shape : Shape := ⟨[defaulted "days", defaulted "hours", defaulted "minutes"], true⟩

/-- The interval of a document. -/
def decode? (n : Node) : Option Interval := do
  let entries ← shape.entries? n
  let days ← entries.withDefault "days" 0 Node.uint32?
  let hours ← entries.withDefault "hours" 0 Node.uint32?
  let minutes ← entries.withDefault "minutes" 0 Node.uint32?
  pure { days, hours, minutes }

/-- An interval is zero exactly when it has no minutes. -/
theorem isZero_iff (i : Interval) : i.isZero = true ↔ i.totalMinutes = 0 := by
  simp only [isZero, Bool.and_eq_true, beq_iff_eq, totalMinutes, ← UInt32.toNat_inj,
    UInt32.toNat_zero]
  omega

end Interval

end Dunning
