/-!
# Errors of the stores

A store may not find a record, lose a race, be out of reach or hold something unreadable. The second
and third kinds pass with time.
-/

namespace Dunning

/-- The kind of a storage failure. -/
inductive StoreFault where
  | notFound
  | conflict
  | unavailable
  | serialization
  deriving Repr, DecidableEq

/-- A storage failure with its text. -/
structure StoreError where
  fault : StoreFault
  detail : String
  deriving Repr, DecidableEq

namespace StoreError

/-- What stands before the text. -/
def intro : StoreFault → String
  | .notFound => "not found: "
  | .conflict => "concurrent modification: "
  | .unavailable => "store unavailable: "
  | .serialization => "serialization error: "

/-- The wording of a failure. -/
def message (e : StoreError) : String := intro e.fault ++ e.detail

/-- Whether the same call may succeed later. -/
def isTransient (e : StoreError) : Bool :=
  e.fault == .unavailable || e.fault == .conflict

/-- Whether a race was lost. -/
def isConflict (e : StoreError) : Bool := e.fault == .conflict

end StoreError

end Dunning
