import Dunning.Ident
import Dunning.Time.Instant

/-!
# Column values

What is bound to a statement and what comes back in a row. A column holds a value of its type or
nothing (null). A timestamp is a whole number of microseconds from 2000-01-01; an instant is cut
toward that moment when it is bound, and one in a leap second becomes one in the next second.

## Main definitions

* `Datum` — a value of a column type.
* `Row` — the columns of a row by name.
* `Instant.toMicros`, `Instant.ofMicros?` — instants and timestamps.
-/

namespace Dunning

namespace Instant

/-- Nanoseconds from 1970 to 2000-01-01T00:00:00Z. -/
def microsOrigin : Int := 946684800000000000

/-- The whole microseconds between 2000-01-01 and an instant, counted toward that day. -/
def toMicros (t : Instant) : Int := Int.tdiv (t.nanos - microsOrigin) 1000

/-- The instant a number of microseconds after 2000-01-01, if the calendar has it. -/
def ofMicros? (micros : Int) : Option Instant := ofNanos? (microsOrigin + micros * 1000)

end Instant

namespace Database

/-- A value of a column type. -/
inductive Datum where
  | uuid (id : Uuid)
  | text (s : String)
  | bool (b : Bool)
  | int4 (n : Int32)
  | int8 (n : Int64)
  | timestamp (micros : Int)
  /-- A document travels as its text. -/
  | json (text : String)

/-- A value that is bound or held, or null. -/
abbrev Cell : Type := Option Datum

/-- An identifier as a value. -/
def Cell.ofUuid (id : Uuid) : Cell := some (.uuid id)

/-- A text as a value. -/
def Cell.ofText (s : String) : Cell := some (.text s)

/-- A truth value as a value. -/
def Cell.ofBool (b : Bool) : Cell := some (.bool b)

/-- An instant as a value. -/
def Cell.ofInstant (t : Instant) : Cell := some (.timestamp t.toMicros)

/-- A number of 64 bits as a value. Beyond the column's range it wraps around. -/
def Cell.wrapping (n : Nat) : Cell := some (.int8 (Int64.ofNat n))

/-- The columns of a row. -/
abbrev Row : Type := List (String × Cell)

end Database

end Dunning
