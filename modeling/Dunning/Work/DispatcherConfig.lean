import Dunning.Ident
import Dunning.Work.Backoff

/-!
# Settings of a dispatcher

How often a dispatcher looks for work, how much it takes at a time, how long it may keep it and what
it does when the store is out of reach.
-/

namespace Dunning

/-- Settings of a dispatcher. -/
structure DispatcherConfig where
  /-- Written into the claims; unique among the dispatchers of a store. -/
  name : String
  pollInterval : Span := Span.ofSecs 2
  /-- How long a claim stays exclusive. -/
  lease : Span := Span.ofSecs 300
  /-- Items claimed from a queue at a time. -/
  batchSize : Nat := 16
  /-- Handlers that may run at a time. -/
  maxConcurrent : Nat := 4
  /-- The longest run of a handler. -/
  handlerTimeout : Span := Span.ofSecs 60
  backoff : BackoffPolicy := {}
  /-- The first rest after a failed claim. -/
  storageBackoffBase : Span := Span.ofMillis 500
  /-- The longest rest after a failed claim. -/
  storageBackoffMax : Span := Span.ofSecs 60
  /-- The queues to look at; none means every queue with a handler. -/
  queues : List String := []
  deriving DecidableEq

namespace DispatcherConfig

/-- A name that no other dispatcher has. -/
def defaultName (id : Uuid) : String := "dispatcher-" ++ id.render

/-- The settings with a batch of at least one. -/
def withBatchSize (c : DispatcherConfig) (n : Nat) : DispatcherConfig :=
  { c with batchSize := max n 1 }

/-- The settings with at least one handler at a time. -/
def withMaxConcurrent (c : DispatcherConfig) (n : Nat) : DispatcherConfig :=
  { c with maxConcurrent := max n 1 }

/-- The rest after a further failed claim, given the one before: doubling, up to the longest. -/
def nextStorageBackoff (c : DispatcherConfig) (previous : Option Span) : Span :=
  match previous with
  | some rest => rest.double.min c.storageBackoffMax
  | none => c.storageBackoffBase.min c.storageBackoffMax

/-- The settings as a document. -/
def toJson (c : DispatcherConfig) : Json :=
  .object
    [("name", .string c.name), ("poll_interval", c.pollInterval.toJson),
     ("lease_duration", c.lease.toJson), ("batch_size", .nat c.batchSize),
     ("max_concurrent", .nat c.maxConcurrent), ("handler_timeout", c.handlerTimeout.toJson),
     ("backoff", c.backoff.toJson), ("storage_backoff_base", c.storageBackoffBase.toJson),
     ("storage_backoff_max", c.storageBackoffMax.toJson), ("queues", Json.ofList .string c.queues)]

end DispatcherConfig

end Dunning
