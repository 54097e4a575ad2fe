import Dunning.Text.Digits
import Dunning.Work.DispatcherConfig

/-!
# Settings of the process

Settings are read from named texts, as an environment gives them. A text is taken without the blanks
at its ends; a blank text counts as unset. The keys are read in a fixed order and the first one that
cannot be read is reported.

## Main definitions

* `Settings` — what one process runs with.
* `SettingsError` — the key, its text and the reason of a refusal.
* `Settings.read` — reading from a look-up.
* `Settings.dispatcher` — the part that concerns the dispatcher.
-/

namespace Dunning

/-- A setting that cannot be read. -/
structure SettingsError where
  key : String
  value : String
  reason : String
  deriving Repr, DecidableEq

/-- The wording of a refusal. -/
def SettingsError.message (e : SettingsError) : String :=
  "invalid value '" ++ e.value ++ "' for " ++ e.key ++ ": " ++ e.reason

/-- Settings of one process. -/
structure Settings where
  dispatcherName : String
  pollInterval : Span := Span.ofSecs 2
  lease : Span := Span.ofSecs 300
  batchSize : Nat := 16
  maxConcurrent : Nat := 4
  handlerTimeout : Span := Span.ofSecs 60
  backoff : BackoffPolicy := {}
  /-- The most attempts of a payment, the first charge included. -/
  paymentMaxAttempts : UInt32 := 4
  /-- The name of the retry policy. -/
  retryPolicy : String := "invoice"
  /-- The overdue configuration to load at the start. Without one every account stays clear. -/
  stateSetPath : Option String := none
  /-- How often a refresh is repeated after losing a race. -/
  maxConflictRetries : UInt32 := 5
  deriving DecidableEq

namespace Settings

/-- The text of a key without its blanks, unless nothing is left. -/
def text? (lookup : String → Option String) (key : String) : Option String :=
  match (lookup key).map Text.trim with
  | some s => if s.isEmpty then none else some s
  | none => none

/-- A whole number below a limit. -/
def number? (lookup : String → Option String) (limit : Nat) (key : String) :
    Except SettingsError (Option Nat) :=
  match text? lookup key with
  | none => .ok none
  | some s =>
    match Text.parseBounded limit s with
    | .ok n => .ok (some n)
    | .error e => .error ⟨key, s, e.message⟩

/-- A whole number of 64 bits that is not zero. -/
def positive? (lookup : String → Option String) (key : String) :
    Except SettingsError (Option Nat) :=
  match number? lookup UInt64.size key with
  | .ok (some 0) => .error ⟨key, "0", "must be at least 1"⟩
  | other => other

/-- The backoff of the four backoff keys. -/
def backoff? (lookup : String → Option String) (default : BackoffPolicy) :
    Except SettingsError BackoffPolicy := do
  let maxAttempts ← number? lookup UInt32.size "DUEBILL_MAX_ATTEMPTS"
  let base ← number? lookup UInt64.size "DUEBILL_BACKOFF_BASE_MS"
  let longest ← number? lookup UInt64.size "DUEBILL_BACKOFF_MAX_MS"
  let maxAttempts := (maxAttempts.map UInt32.ofNat).getD default.maxAttempts
  let base := (base.map Span.ofMillis).getD default.baseDelay
  let longest := (longest.map Span.ofMillis).getD default.maxDelay
  if longest.nanos < base.nanos then
    .error ⟨"DUEBILL_BACKOFF_MAX_MS", toString longest.millis,
      "must not be below DUEBILL_BACKOFF_BASE_MS"⟩
  else
    let strategy ←
      match text? lookup "DUEBILL_BACKOFF_STRATEGY" with
      | none => .ok default.strategy
      | some s =>
        match BackoffStrategy.parse? s with
        | some strategy => .ok strategy
        | none =>
          .error ⟨"DUEBILL_BACKOFF_STRATEGY", s, "expected fixed, linear or exponential"⟩
    match strategy with
    | .fixed => .ok (BackoffPolicy.fixed maxAttempts base)
    | other => .ok ⟨maxAttempts, base, longest, other⟩

/-- The settings of a look-up. Keys that are not set keep their defaults. -/
def read (defaultName : String) (lookup : String → Option String) :
    Except SettingsError Settings := do
  let default : Settings := { dispatcherName := defaultName }
  let dispatcherName := (text? lookup "DUEBILL_DISPATCHER_NAME").getD defaultName
  let pollInterval ← number? lookup UInt64.size "DUEBILL_POLL_INTERVAL_MS"
  let lease ← number? lookup UInt64.size "DUEBILL_LEASE_SECS"
  let batchSize ← positive? lookup "DUEBILL_BATCH_SIZE"
  let maxConcurrent ← positive? lookup "DUEBILL_MAX_CONCURRENT"
  let handlerTimeout ← number? lookup UInt64.size "DUEBILL_HANDLER_TIMEOUT_SECS"
  let backoff ← backoff? lookup default.backoff
  let paymentMaxAttempts ← number? lookup UInt32.size "DUEBILL_PAYMENT_MAX_ATTEMPTS"
  let maxConflictRetries ← number? lookup UInt32.size "DUEBILL_MAX_CONFLICT_RETRIES"
  pure
    { dispatcherName
      pollInterval := (pollInterval.map Span.ofMillis).getD default.pollInterval
      lease := (lease.map Span.ofSecs).getD default.lease
      batchSize := batchSize.getD default.batchSize
      maxConcurrent := maxConcurrent.getD default.maxConcurrent
      handlerTimeout := (handlerTimeout.map Span.ofSecs).getD default.handlerTimeout
      backoff
      paymentMaxAttempts :=
        (paymentMaxAttempts.map fun n => UInt32.ofNat (max n 1)).getD default.paymentMaxAttempts
      retryPolicy := (text? lookup "DUEBILL_RETRY_POLICY").getD default.retryPolicy
      stateSetPath := text? lookup "DUEBILL_STATE_SET_PATH"
      maxConflictRetries :=
        (maxConflictRetries.map UInt32.ofNat).getD default.maxConflictRetries }

/-- The settings of the dispatcher. -/
def dispatcher (s : Settings) : DispatcherConfig :=
  ((({ name := s.dispatcherName, pollInterval := s.pollInterval, lease := s.lease,
        handlerTimeout := s.handlerTimeout, backoff := s.backoff } : DispatcherConfig)
      ).withBatchSize s.batchSize).withMaxConcurrent s.maxConcurrent

/-- The settings as a document. -/
def toJson (s : Settings) : Json :=
  .object
    [("dispatcher_name", .string s.dispatcherName), ("poll_interval", s.pollInterval.toJson),
     ("lease_duration", s.lease.toJson), ("batch_size", .nat s.batchSize),
     ("max_concurrent", .nat s.maxConcurrent), ("handler_timeout", s.handlerTimeout.toJson),
     ("backoff", s.backoff.toJson), ("payment_max_attempts", .nat s.paymentMaxAttempts.toNat),
     ("retry_policy", .string s.retryPolicy),
     ("state_set_path", Json.ofOption .string s.stateSetPath),
     ("max_conflict_retries", .nat s.maxConflictRetries.toNat)]

end Settings

end Dunning
