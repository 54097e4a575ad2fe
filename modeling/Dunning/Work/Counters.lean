import Dunning.Json.Basic

/-!
# Counters of a dispatcher

What a dispatcher did since it was made.
-/

namespace Dunning

/-- What is counted. -/
inductive Counter where
  | polls
  | claimed
  | succeeded
  | rescheduled
  | released
  | failed
  | deadLettered
  /-- Items of queues without a handler, dropped. -/
  | poisoned
  | timeouts
  | panics
  | storageErrors
  /-- Settlements that came too late: the claim was no longer the dispatcher's. -/
  | lostClaims
  deriving Repr, DecidableEq

namespace Counter

/-- All counters. -/
def all : List Counter :=
  [.polls, .claimed, .succeeded, .rescheduled, .released, .failed, .deadLettered, .poisoned,
    .timeouts, .panics, .storageErrors, .lostClaims]

/-- The name under which a counter is reported. -/
def name : Counter → String
  | .polls => "polls"
  | .claimed => "claimed"
  | .succeeded => "succeeded"
  | .rescheduled => "rescheduled"
  | .released => "released"
  | .failed => "failed"
  | .deadLettered => "dead_lettered"
  | .poisoned => "poisoned"
  | .timeouts => "timeouts"
  | .panics => "panics"
  | .storageErrors => "storage_errors"
  | .lostClaims => "lost_claims"

end Counter

/-- The value of every counter. -/
structure Counters where
  value : Counter → Nat := fun _ => 0

namespace Counters

/-- The counters after one of them grew. -/
def add (c : Counters) (counter : Counter) (n : Nat) : Counters :=
  ⟨fun other => if other = counter then c.value other + n else c.value other⟩

/-- The counters as a document. -/
def toJson (c : Counters) : Json :=
  .object (Counter.all.map fun counter => (counter.name, .nat (c.value counter)))

@[simp] theorem value_add_self (c : Counters) (counter : Counter) (n : Nat) :
    (c.add counter n).value counter = c.value counter + n := by
  simp [add]

theorem value_add_of_ne (c : Counters) {counter other : Counter} (h : other ≠ counter) (n : Nat) :
    (c.add counter n).value other = c.value other := by
  simp [add, h]

end Counters

end Dunning
