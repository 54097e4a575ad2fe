import Dunning.Proofs.Dispatch.Durations
import Dunning.Proofs.Task.Refusal
import Mathlib.Logic.Function.Basic

/-!
# Keys and the settings they give

Every setting is governed by one key, the backoff by four. The text of a key says which value the
setting has; a key without a text leaves the default. So settings are accepted exactly when each text
says something and the delays of the backoff are in order, and a key has no effect on the settings of
the others.

## Main definitions

* `Settings.Sets` — what a key makes of a value.
* `Settings.SetsBackoff`, `Settings.ReadFrom` — what all keys make of the settings.
* `Settings.Sound` — the bounds that accepted settings keep.
* `Settings.AgreeBut` — settings that differ at most in what one key governs.

## Main results

* `Settings.read_eq_ok_iff` — settings are accepted exactly when they are what the keys say.
* `Settings.read_update_none` — a key with a blank text can as well be left out.
* `Settings.ReadFrom.agreeBut` — a key has no effect on the settings of the others.
* `Settings.accepted_sound_and_independent` — all of this for every look-up.
-/

namespace Dunning.Settings

variable {α : Type} {lookup other : String → Option String} {key : String}

/-! ## One key -/

/-- What a key makes of a value: its text says which one it is, and without a text it is the
default. -/
def Sets (lookup : String → Option String) (key : String) (meaning : String → Option α)
    (default value : α) : Prop :=
  match text? lookup key with
  | none => value = default
  | some s => meaning s = some value

/-- A key gives one value. Only a key without a text lets the default show. -/
theorem Sets.unique {meaning : String → Option α} {default default' v w : α}
    (h : Sets lookup key meaning default v) (h' : Sets other key meaning default' w)
    (hsame : text? lookup key = text? other key)
    (hdefault : text? lookup key = none → default = default') : v = w := by
  unfold Sets at h h'
  rw [← hsame] at h'
  cases htext : text? lookup key with
  | none =>
      rw [htext] at h h'
      rw [h, h', hdefault htext]
  | some s =>
      rw [htext] at h h'
      exact Option.some.inj (h.symm.trans h')

/-- The whole number below a limit that a text writes. -/
def whole? (limit : Nat) (s : String) : Option Nat := (Text.parseBounded limit s).toOption

/-- A whole number that is not zero. -/
def positiveWhole? (s : String) : Option Nat := (whole? UInt64.size s).filter fun n => n ≠ 0

/-- A number of milliseconds of 64 bits. -/
def millis? (s : String) : Option Span := (whole? UInt64.size s).map Span.ofMillis

/-- A number of seconds of 64 bits. -/
def secs? (s : String) : Option Span := (whole? UInt64.size s).map Span.ofSecs

/-- A count of 32 bits. -/
def count? (s : String) : Option UInt32 := (whole? UInt32.size s).map UInt32.ofNat

/-- A count of 32 bits, with zero taken as one. -/
def countFromOne? (s : String) : Option UInt32 :=
  (whole? UInt32.size s).map fun n => UInt32.ofNat (max n 1)

/-- A reader of numbers succeeds exactly when its key sets the value. -/
theorem exists_number?_iff {limit : Nat} {use : Nat → α} {default value : α} :
    (∃ n, number? lookup limit key = .ok n ∧ (n.map use).getD default = value) ↔
      Sets lookup key (fun s => (whole? limit s).map use) default value := by
  unfold number? Sets whole?
  cases text? lookup key with
  | none => simp [eq_comm]
  | some s => cases hread : Text.parseBounded limit s <;> simp [hread, Except.toOption]

theorem exists_positive?_iff {default value : Nat} :
    (∃ n, positive? lookup key = .ok n ∧ n.getD default = value) ↔
      Sets lookup key positiveWhole? default value := by
  unfold positive? number? Sets positiveWhole? whole?
  cases text? lookup key with
  | none => simp [eq_comm]
  | some s =>
      cases hread : Text.parseBounded UInt64.size s with
      | error => simp [hread, Except.toOption]
      | ok n => cases n <;> simp [hread, Except.toOption, Option.filter]

theorem sets_text {default value : String} :
    (text? lookup key).getD default = value ↔ Sets lookup key some default value := by
  unfold Sets
  cases text? lookup key <;> simp [eq_comm]

theorem sets_text? {value : Option String} :
    text? lookup key = value ↔ Sets lookup key (fun s => some (some s)) none value := by
  unfold Sets
  cases text? lookup key <;> simp [eq_comm]

/-! ## All keys -/

/-- What the four backoff keys make of the backoff. A fixed backoff has only one delay. -/
def SetsBackoff (lookup : String → Option String) (p : BackoffPolicy) : Prop :=
  ∃ base longest : Span,
    Sets lookup "DUEBILL_BACKOFF_BASE_MS" millis? (Span.ofSecs 30) base ∧
      Sets lookup "DUEBILL_BACKOFF_MAX_MS" millis? (Span.ofSecs 3600) longest ∧
      base.nanos ≤ longest.nanos ∧
      Sets lookup "DUEBILL_MAX_ATTEMPTS" count? 5 p.maxAttempts ∧
      Sets lookup "DUEBILL_BACKOFF_STRATEGY" BackoffStrategy.parse? .exponential p.strategy ∧
      p.baseDelay = base ∧ p.maxDelay = if p.strategy = .fixed then base else longest

/-- What all keys make of the settings. -/
structure ReadFrom (defaultName : String) (lookup : String → Option String) (s : Settings) :
    Prop where
  dispatcherName : Sets lookup "DUEBILL_DISPATCHER_NAME" some defaultName s.dispatcherName
  pollInterval : Sets lookup "DUEBILL_POLL_INTERVAL_MS" millis? (Span.ofSecs 2) s.pollInterval
  lease : Sets lookup "DUEBILL_LEASE_SECS" secs? (Span.ofSecs 300) s.lease
  batchSize : Sets lookup "DUEBILL_BATCH_SIZE" positiveWhole? 16 s.batchSize
  maxConcurrent : Sets lookup "DUEBILL_MAX_CONCURRENT" positiveWhole? 4 s.maxConcurrent
  handlerTimeout :
    Sets lookup "DUEBILL_HANDLER_TIMEOUT_SECS" secs? (Span.ofSecs 60) s.handlerTimeout
  backoff : SetsBackoff lookup s.backoff
  paymentMaxAttempts :
    Sets lookup "DUEBILL_PAYMENT_MAX_ATTEMPTS" countFromOne? 4 s.paymentMaxAttempts
  retryPolicy : Sets lookup "DUEBILL_RETRY_POLICY" some "invoice" s.retryPolicy
  stateSetPath : Sets lookup "DUEBILL_STATE_SET_PATH" (fun path => some (some path)) none
    s.stateSetPath
  maxConflictRetries : Sets lookup "DUEBILL_MAX_CONFLICT_RETRIES" count? 5 s.maxConflictRetries

/-- The strategy key chooses how the delays go on. -/
theorem strategy_eq_ok_iff {default : BackoffStrategy} {maxAttempts : UInt32}
    {base longest : Span} {p : BackoffPolicy} :
    (do
      let strategy ←
        match text? lookup "DUEBILL_BACKOFF_STRATEGY" with
        | none => .ok default
        | some s =>
          match BackoffStrategy.parse? s with
          | some strategy => .ok strategy
          | none =>
            .error ⟨"DUEBILL_BACKOFF_STRATEGY", s, "expected fixed, linear or exponential"⟩
      match strategy with
      | .fixed => .ok (BackoffPolicy.fixed maxAttempts base)
      | other => .ok ⟨maxAttempts, base, longest, other⟩ :
        Except SettingsError BackoffPolicy) = .ok p ↔
      ∃ strategy,
        Sets lookup "DUEBILL_BACKOFF_STRATEGY" BackoffStrategy.parse? default strategy ∧
          ⟨maxAttempts, base, if strategy = .fixed then base else longest, strategy⟩ = p := by
  have hcurve (strategy : BackoffStrategy) :
      (match strategy with
        | .fixed => (.ok (BackoffPolicy.fixed maxAttempts base) : Except SettingsError BackoffPolicy)
        | other => .ok ⟨maxAttempts, base, longest, other⟩) =
        .ok ⟨maxAttempts, base, if strategy = .fixed then base else longest, strategy⟩ := by
    cases strategy <;> rfl
  unfold Sets
  cases text? lookup "DUEBILL_BACKOFF_STRATEGY" with
  | none => simp [bind, Except.bind, hcurve]
  | some s => cases hparse : BackoffStrategy.parse? s <;> simp [bind, Except.bind, hparse, hcurve]

/-- **The backoff is accepted exactly when it is what its keys say.** -/
theorem backoff?_eq_ok_iff {p : BackoffPolicy} :
    backoff? lookup {} = .ok p ↔ SetsBackoff lookup p := by
  unfold backoff?
  simp only [bind_eq_ok_iff]
  constructor
  · rintro ⟨attempts, hattempts, base, hbase, longest, hlongest, h⟩
    split at h
    · cases h
    · rename_i horder
      obtain ⟨strategy, hstrategy, rfl⟩ := strategy_eq_ok_iff.mp h
      exact ⟨_, _, exists_number?_iff.mp ⟨base, hbase, rfl⟩,
        exists_number?_iff.mp ⟨longest, hlongest, rfl⟩, Nat.le_of_not_lt horder,
        exists_number?_iff.mp ⟨attempts, hattempts, rfl⟩, hstrategy, rfl, rfl⟩
  · rintro ⟨_, _, hbase, hlongest, horder, hattempts, hstrategy, hbaseDelay, hmaxDelay⟩
    obtain ⟨base, hreadBase, rfl⟩ := exists_number?_iff.mpr hbase
    obtain ⟨longest, hreadLongest, rfl⟩ := exists_number?_iff.mpr hlongest
    obtain ⟨attempts, hreadAttempts, hmaxAttempts⟩ := exists_number?_iff.mpr hattempts
    refine ⟨attempts, hreadAttempts, base, hreadBase, longest, hreadLongest, ?_⟩
    rw [if_neg (Nat.not_lt.mpr horder)]
    refine strategy_eq_ok_iff.mpr ⟨p.strategy, hstrategy, ?_⟩
    rw [← hmaxDelay, ← hbaseDelay, hmaxAttempts]

/-- **Settings are accepted exactly when they are what the keys say.** -/
theorem read_eq_ok_iff {defaultName : String} {s : Settings} :
    read defaultName lookup = .ok s ↔ ReadFrom defaultName lookup s := by
  unfold read
  simp only [bind_eq_ok_iff]
  constructor
  · rintro ⟨pollInterval, hpoll, lease, hlease, batchSize, hbatch, maxConcurrent, hconcurrent,
      handlerTimeout, htimeout, backoff, hbackoff, paymentMaxAttempts, hpayment,
      maxConflictRetries, hretries, h⟩
    obtain rfl := Except.ok.inj h
    exact {
      dispatcherName := sets_text.mp rfl
      pollInterval := exists_number?_iff.mp ⟨_, hpoll, rfl⟩
      lease := exists_number?_iff.mp ⟨_, hlease, rfl⟩
      batchSize := exists_positive?_iff.mp ⟨_, hbatch, rfl⟩
      maxConcurrent := exists_positive?_iff.mp ⟨_, hconcurrent, rfl⟩
      handlerTimeout := exists_number?_iff.mp ⟨_, htimeout, rfl⟩
      backoff := backoff?_eq_ok_iff.mp hbackoff
      paymentMaxAttempts := exists_number?_iff.mp ⟨_, hpayment, rfl⟩
      retryPolicy := sets_text.mp rfl
      stateSetPath := sets_text?.mp rfl
      maxConflictRetries := exists_number?_iff.mp ⟨_, hretries, rfl⟩ }
  · intro h
    obtain ⟨pollInterval, hpoll, heqPoll⟩ := exists_number?_iff.mpr h.pollInterval
    obtain ⟨lease, hlease, heqLease⟩ := exists_number?_iff.mpr h.lease
    obtain ⟨batchSize, hbatch, heqBatch⟩ := exists_positive?_iff.mpr h.batchSize
    obtain ⟨maxConcurrent, hconcurrent, heqConcurrent⟩ := exists_positive?_iff.mpr h.maxConcurrent
    obtain ⟨handlerTimeout, htimeout, heqTimeout⟩ := exists_number?_iff.mpr h.handlerTimeout
    obtain ⟨payment, hpayment, heqPayment⟩ := exists_number?_iff.mpr h.paymentMaxAttempts
    obtain ⟨retries, hretries, heqRetries⟩ := exists_number?_iff.mpr h.maxConflictRetries
    refine ⟨pollInterval, hpoll, lease, hlease, batchSize, hbatch, maxConcurrent, hconcurrent,
      handlerTimeout, htimeout, s.backoff, backoff?_eq_ok_iff.mpr h.backoff, payment, hpayment,
      retries, hretries, ?_⟩
    have hname := sets_text.mpr h.dispatcherName
    have hpolicy := sets_text.mpr h.retryPolicy
    have hpath := sets_text?.mpr h.stateSetPath
    rw [heqPoll, heqLease, heqBatch, heqConcurrent, heqTimeout, heqPayment, heqRetries, hname,
      hpolicy, hpath]
    rfl

/-! ## What accepted settings keep -/

/-- The bounds that settings keep. -/
structure Sound (s : Settings) : Prop where
  batchSize : 1 ≤ s.batchSize
  maxConcurrent : 1 ≤ s.maxConcurrent
  paymentMaxAttempts : 1 ≤ s.paymentMaxAttempts
  backoff : s.backoff.baseDelay.nanos ≤ s.backoff.maxDelay.nanos

/-- What holds of the default and of every value that a text says holds of the value of a key. -/
theorem Sets.holds {meaning : String → Option α} {default value : α} {P : α → Prop}
    (h : Sets lookup key meaning default value) (hdefault : P default)
    (hmeaning : ∀ s v, meaning s = some v → P v) : P value := by
  unfold Sets at h
  split at h
  · rw [h]
    exact hdefault
  · exact hmeaning _ _ h

theorem positiveWhole?_pos {s : String} {n : Nat} (h : positiveWhole? s = some n) : 1 ≤ n := by
  have hne := (Option.filter_eq_some_iff.mp h).2
  exact Nat.one_le_iff_ne_zero.mpr (of_decide_eq_true hne)

theorem lt_of_parseBounded {limit n : Nat} {s : String} (hlimit : 0 < limit)
    (h : Text.parseBounded limit s = .ok n) : n < limit := by
  unfold Text.parseBounded at h
  split at h
  · cases h
  · cases h
  · cases h
  · exact Text.readDigits_lt hlimit h
  · exact Text.readDigits_lt hlimit h

theorem whole?_lt {limit n : Nat} {s : String} (hlimit : 0 < limit) (h : whole? limit s = some n) :
    n < limit := by
  unfold whole? at h
  cases hread : Text.parseBounded limit s with
  | error e =>
      rw [hread] at h
      cases h
  | ok k =>
      rw [hread] at h
      obtain rfl := Option.some.inj h
      exact lt_of_parseBounded hlimit hread

/-- A count that starts at one does not wrap around. -/
theorem countFromOne?_pos {s : String} {n : UInt32} (h : countFromOne? s = some n) : 1 ≤ n := by
  obtain ⟨k, hk, rfl⟩ := Option.map_eq_some_iff.mp h
  have hlt : max k 1 < UInt32.size := Nat.max_lt.mpr ⟨whole?_lt (by decide) hk, by decide⟩
  rw [UInt32.le_iff_toNat_le, UInt32.toNat_ofNat_of_lt' hlt]
  exact Nat.le_max_right k 1

/-- **Accepted settings are within their bounds.** -/
theorem ReadFrom.sound {defaultName : String} {s : Settings} (h : ReadFrom defaultName lookup s) :
    s.Sound where
  batchSize := h.batchSize.holds (by decide) fun _ _ => positiveWhole?_pos
  maxConcurrent := h.maxConcurrent.holds (by decide) fun _ _ => positiveWhole?_pos
  paymentMaxAttempts := h.paymentMaxAttempts.holds (by decide) fun _ _ => countFromOne?_pos
  backoff := by
    obtain ⟨base, longest, -, -, horder, -, -, hbase, hlongest⟩ := h.backoff
    rw [hbase, hlongest]
    split
    · exact Nat.le_refl _
    · exact horder

/-- The dispatcher runs with settings within their bounds as they are. -/
theorem Sound.dispatcher_eq {s : Settings} (h : s.Sound) :
    s.dispatcher =
      { name := s.dispatcherName, pollInterval := s.pollInterval, lease := s.lease,
        batchSize := s.batchSize, maxConcurrent := s.maxConcurrent,
        handlerTimeout := s.handlerTimeout, backoff := s.backoff } := by
  have hbatch : max s.batchSize 1 = s.batchSize := Nat.max_eq_left h.batchSize
  have hconcurrent : max s.maxConcurrent 1 = s.maxConcurrent := Nat.max_eq_left h.maxConcurrent
  simp only [dispatcher, DispatcherConfig.withBatchSize, DispatcherConfig.withMaxConcurrent,
    hbatch, hconcurrent]

/-! ## One key among the others -/

/-- Settings are read from the texts alone. -/
theorem read_congr {defaultName : String} (h : text? lookup = text? other) :
    read defaultName lookup = read defaultName other := by
  unfold read backoff? positive? number?
  rw [h]

theorem text?_eq_none_of_blank (h : ∀ value ∈ lookup key, Text.isBlankText value = true) :
    text? lookup key = none := by
  unfold text?
  cases hvalue : lookup key with
  | none => rfl
  | some value =>
      have hblank : Text.trimChars value.toList = [] :=
        (Text.trimChars_eq_nil_iff _).mpr (List.all_eq_true.mp (h value hvalue))
      simp [Text.trim, hblank]

/-- **A key with a blank text can as well be left out.** -/
theorem read_update_none {defaultName : String}
    (h : ∀ value ∈ lookup key, Text.isBlankText value = true) :
    read defaultName (Function.update lookup key none) = read defaultName lookup := by
  refine read_congr (funext fun k => ?_)
  by_cases hk : k = key
  · subst hk
    rw [text?_eq_none_of_blank h]
    simp [text?]
  · unfold text?
    rw [Function.update_of_ne hk]

/-- The keys of the backoff. -/
def backoffKeys : List String :=
  ["DUEBILL_MAX_ATTEMPTS", "DUEBILL_BACKOFF_BASE_MS", "DUEBILL_BACKOFF_MAX_MS",
    "DUEBILL_BACKOFF_STRATEGY"]

/-- Settings that differ at most in what one key governs. -/
structure AgreeBut (key : String) (s t : Settings) : Prop where
  dispatcherName : key ≠ "DUEBILL_DISPATCHER_NAME" → s.dispatcherName = t.dispatcherName
  pollInterval : key ≠ "DUEBILL_POLL_INTERVAL_MS" → s.pollInterval = t.pollInterval
  lease : key ≠ "DUEBILL_LEASE_SECS" → s.lease = t.lease
  batchSize : key ≠ "DUEBILL_BATCH_SIZE" → s.batchSize = t.batchSize
  maxConcurrent : key ≠ "DUEBILL_MAX_CONCURRENT" → s.maxConcurrent = t.maxConcurrent
  handlerTimeout : key ≠ "DUEBILL_HANDLER_TIMEOUT_SECS" → s.handlerTimeout = t.handlerTimeout
  backoff : key ∉ backoffKeys → s.backoff = t.backoff
  paymentMaxAttempts :
    key ≠ "DUEBILL_PAYMENT_MAX_ATTEMPTS" → s.paymentMaxAttempts = t.paymentMaxAttempts
  retryPolicy : key ≠ "DUEBILL_RETRY_POLICY" → s.retryPolicy = t.retryPolicy
  stateSetPath : key ≠ "DUEBILL_STATE_SET_PATH" → s.stateSetPath = t.stateSetPath
  maxConflictRetries :
    key ≠ "DUEBILL_MAX_CONFLICT_RETRIES" → s.maxConflictRetries = t.maxConflictRetries

/-- The four backoff keys give one backoff. -/
theorem SetsBackoff.unique {p q : BackoffPolicy} (h : SetsBackoff lookup p)
    (h' : SetsBackoff other q) (hsame : ∀ k ∈ backoffKeys, text? lookup k = text? other k) :
    p = q := by
  obtain ⟨base, longest, hbase, hlongest, -, hattempts, hstrategy, hbaseDelay, hmaxDelay⟩ := h
  obtain ⟨base', longest', hbase', hlongest', -, hattempts', hstrategy', hbaseDelay', hmaxDelay'⟩ :=
    h'
  have hbaseEq := hbase.unique hbase' (hsame _ (by decide)) fun _ => rfl
  have hlongestEq := hlongest.unique hlongest' (hsame _ (by decide)) fun _ => rfl
  have hattemptsEq := hattempts.unique hattempts' (hsame _ (by decide)) fun _ => rfl
  have hstrategyEq := hstrategy.unique hstrategy' (hsame _ (by decide)) fun _ => rfl
  obtain ⟨maxAttempts, baseDelay, maxDelay, strategy⟩ := p
  obtain ⟨maxAttempts', baseDelay', maxDelay', strategy'⟩ := q
  simp only at hattemptsEq hstrategyEq hbaseDelay hmaxDelay hbaseDelay' hmaxDelay'
  rw [hbaseDelay, hmaxDelay, hbaseDelay', hmaxDelay', hattemptsEq, hstrategyEq, hbaseEq, hlongestEq]

/-- **A key has no effect on the settings of the others.** -/
theorem ReadFrom.agreeBut {defaultName defaultName' : String} {s t : Settings}
    (h : ReadFrom defaultName lookup s) (h' : ReadFrom defaultName' other t)
    (hnamed : text? lookup "DUEBILL_DISPATCHER_NAME" ≠ none)
    (hsame : ∀ k ≠ key, lookup k = other k) : AgreeBut key s t := by
  have htext (k : String) (hk : key ≠ k) : text? lookup k = text? other k := by
    unfold text?
    rw [hsame k hk.symm]
  have hvalue {α : Type} {k : String} {meaning : String → Option α} {default v w : α}
      (hv : Sets lookup k meaning default v) (hw : Sets other k meaning default w)
      (hk : key ≠ k) : v = w :=
    hv.unique hw (htext k hk) fun _ => rfl
  exact {
    dispatcherName := fun hk =>
      h.dispatcherName.unique h'.dispatcherName (htext _ hk) fun hnone => absurd hnone hnamed
    pollInterval := hvalue h.pollInterval h'.pollInterval
    lease := hvalue h.lease h'.lease
    batchSize := hvalue h.batchSize h'.batchSize
    maxConcurrent := hvalue h.maxConcurrent h'.maxConcurrent
    handlerTimeout := hvalue h.handlerTimeout h'.handlerTimeout
    backoff := fun hk =>
      h.backoff.unique h'.backoff fun k hmem => htext k fun heq => hk (heq ▸ hmem)
    paymentMaxAttempts := hvalue h.paymentMaxAttempts h'.paymentMaxAttempts
    retryPolicy := hvalue h.retryPolicy h'.retryPolicy
    stateSetPath := hvalue h.stateSetPath h'.stateSetPath
    maxConflictRetries := hvalue h.maxConflictRetries h'.maxConflictRetries }

/-- **Accepted settings are sound and independent.** Settings are accepted exactly when they are what
the keys say. They are within their bounds, and the dispatcher runs with them as they are. A key that
is absent or blank has the effect of one that is not set, refusals included. When two look-ups that
name the dispatcher agree on every key but one, their settings differ at most in what this key
governs. -/
theorem accepted_sound_and_independent (defaultName : String) (lookup : String → Option String) :
    (∀ s, read defaultName lookup = .ok s ↔ ReadFrom defaultName lookup s) ∧
      (∀ s, read defaultName lookup = .ok s → s.Sound ∧
        s.dispatcher =
          { name := s.dispatcherName, pollInterval := s.pollInterval, lease := s.lease,
            batchSize := s.batchSize, maxConcurrent := s.maxConcurrent,
            handlerTimeout := s.handlerTimeout, backoff := s.backoff }) ∧
      (∀ key, (∀ value ∈ lookup key, Text.isBlankText value = true) →
        read defaultName (Function.update lookup key none) = read defaultName lookup) ∧
      ∀ s t key defaultName' other, read defaultName lookup = .ok s →
        read defaultName' other = .ok t → text? lookup "DUEBILL_DISPATCHER_NAME" ≠ none →
        (∀ k ≠ key, lookup k = other k) → AgreeBut key s t := by
  refine ⟨fun s => read_eq_ok_iff, fun s hread => ?_, fun key => read_update_none, ?_⟩
  · have hsound := (read_eq_ok_iff.mp hread).sound
    exact ⟨hsound, hsound.dispatcher_eq⟩
  · intro s t key defaultName' other hread hread' hnamed hsame
    exact (read_eq_ok_iff.mp hread).agreeBut (read_eq_ok_iff.mp hread') hnamed hsame

/-- A look-up that names the dispatcher, leaves a key blank and sets the batch. -/
def withBatch (text : String) : String → Option String :=
  ofKeys [("DUEBILL_DISPATCHER_NAME", "svc"), ("DUEBILL_MAX_CONCURRENT", "  "),
    ("DUEBILL_BATCH_SIZE", text)]

/-- Two such look-ups with other batches differ in the batch only, and the blank key leaves the default
as it is. -/
theorem accepted_sound_and_independent_batches :
    read "first" (withBatch " 32 ") = .ok { dispatcherName := "svc", batchSize := 32 } ∧
      read "second" (withBatch "64") = .ok { dispatcherName := "svc", batchSize := 64 } ∧
      text? (withBatch " 32 ") "DUEBILL_DISPATCHER_NAME" ≠ none ∧
      (∀ k ≠ "DUEBILL_BATCH_SIZE", withBatch " 32 " k = withBatch "64" k) ∧
      AgreeBut "DUEBILL_BATCH_SIZE" { dispatcherName := "svc", batchSize := 32 }
        { dispatcherName := "svc", batchSize := 64 } ∧
      read "first" (Function.update (withBatch " 32 ") "DUEBILL_MAX_CONCURRENT" none) =
        .ok { dispatcherName := "svc", batchSize := 32 } := by
  have hfirst :
      read "first" (withBatch " 32 ") = .ok { dispatcherName := "svc", batchSize := 32 } := rfl
  have hsecond :
      read "second" (withBatch "64") = .ok { dispatcherName := "svc", batchSize := 64 } := rfl
  have hnamed : text? (withBatch " 32 ") "DUEBILL_DISPATCHER_NAME" ≠ none := by decide
  have hsame : ∀ k ≠ "DUEBILL_BATCH_SIZE", withBatch " 32 " k = withBatch "64" k := by
    intro k hk
    have hother : (k == "DUEBILL_BATCH_SIZE") = false := beq_eq_false_iff_ne.mpr hk
    simp only [withBatch, ofKeys, List.lookup_cons, hother]
  obtain ⟨-, -, hblank, hindependent⟩ := accepted_sound_and_independent "first" (withBatch " 32 ")
  refine ⟨hfirst, hsecond, hnamed, hsame, hindependent _ _ _ _ _ hfirst hsecond hnamed hsame, ?_⟩
  rw [hblank "DUEBILL_MAX_CONCURRENT" (by decide)]
  exact hfirst

end Dunning.Settings
