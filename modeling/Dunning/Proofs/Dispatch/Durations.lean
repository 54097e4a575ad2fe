import Dunning.Proofs.Work.Lifecycle
import Dunning.Settings
import Dunning.Time.Civil
import Dunning.Work.Dispatcher

/-!
# Leases and rests that are too long

Settings give durations in seconds and milliseconds of 64 bits, and every number is accepted. The
calendar ends earlier. A duration that is too long for an offset counts as none, so the longest leases
and rests are over at once; one that is an offset, and too long for the calendar, has no end that can be
written. Both happen exactly when the calendar has no moment that much later.

## Main definitions

* `Instant.InPresent` — the years 2025 to 2059.
* `Instant.Lasts` — a moment is late enough for a duration.
* `Dispatcher.LeasesLast`, `Dispatcher.RestsLast` — the claims of a poll are answered and last, and the
  failures of an item are settled and rest as long as the policy says.

## Main results

* `Dispatcher.leasesLast_iff`, `Dispatcher.restsLast_iff` — when they do.
* `Settings.durations_last` — the same for all accepted settings, with bounds on the settings alone.
* `Settings.durations_can_collapse` — accepted settings beyond the three limits.
-/

namespace Dunning

namespace Instant

/-- Whether a moment lies in the years 2025 to 2059. -/
def InPresent (now : Instant) : Prop :=
  Civil.toDays ⟨2025, 1, 1⟩ * 86400 ≤ now.secs ∧ now.secs < Civil.toDays ⟨2060, 1, 1⟩ * 86400

/-- Whether a moment is late enough for a duration: it is not before its end, or it is the last moment
of the calendar when that ends earlier. -/
def Lasts (now : Instant) (delay : Span) (moment : Instant) : Prop :=
  match now.plus? delay.nanos with
  | some due => due ≤ moment
  | none => last ≤ moment

/-- The nanoseconds from the end of 2059 to the end of the calendar. -/
def presentRoom : Nat := 8207426736000 * nanosPerSecond

theorem InPresent.secs_lt {now : Instant} (h : now.InPresent) : now.secs < 2840140800 := by
  have hlast : Civil.toDays ⟨2060, 1, 1⟩ * 86400 = 2840140800 := by decide
  rw [← hlast]
  exact h.2

theorem InPresent.secs_ge {now : Instant} (h : now.InPresent) : 1735689600 ≤ now.secs := by
  have hfirst : Civil.toDays ⟨2025, 1, 1⟩ * 86400 = 1735689600 := by decide
  rw [← hfirst]
  exact h.1

theorem InPresent.not_last_le {now : Instant} (h : now.InPresent) : ¬ last ≤ now := by
  have hsecs := h.secs_lt
  have hfrac := now.frac_lt
  rw [le_def, rank, rank]
  show ¬ (8210266876799 * 2000000000 + 999999999 ≤ now.secs * 2000000000 + now.frac)
  omega

/-! ## Sums that the calendar has -/

theorem isSome_ofNanos? {n : Int} (hfirst : -8334601228800000000000 ≤ n)
    (hlast : n < 8210266876800000000000) : (ofNanos? n).isSome = true := by
  unfold ofNanos? ofParts?
  rw [dif_pos ⟨⟨by omega, by omega⟩, by omega, by omega⟩]
  rfl

/-- Nothing is too long for the present that ends by the end of the calendar after 2059. -/
theorem InPresent.isSome_plus? {now : Instant} (h : now.InPresent) {delay : Nat}
    (hdelay : delay ≤ presentRoom) : (now.plus? delay).isSome = true := by
  have hge := h.secs_ge
  have hlt := h.secs_lt
  have hfrac := now.frac_lt
  have hroom : delay ≤ 8207426736000 * 1000000000 := hdelay
  unfold plus?
  split
  · rename_i hleap
    split
    · have hsecs := now.leap (by simpa [inLeap] using hleap)
      unfold ofParts?
      rw [dif_pos ⟨⟨by omega, by omega⟩, by omega, fun _ => hsecs⟩]
      rfl
    · split
      · exact isSome_ofNanos? (by simp only [nanos]; omega) (by simp only [nanos]; omega)
      · omega
  · rename_i hleap
    simp only [inLeap, decide_eq_true_eq] at hleap
    exact isSome_ofNanos? (by simp only [nanos]; omega) (by simp only [nanos]; omega)

/-- Adding nothing leads nowhere. -/
theorem plus?_zero (t : Instant) : t.plus? 0 = some t := by
  have hfrac := t.frac_lt
  unfold plus?
  split
  · rw [if_pos (by omega), ofParts?_eq_some_iff]
    simp
  · rename_i hleap
    rw [ofNanos?_eq_some_iff]
    exact ⟨Bool.eq_false_iff.mpr hleap, (Int.add_zero _).symm⟩

/-- **When a duration lasts.** The moment that is worked out from a duration is there and late enough
exactly when the calendar has the sum. A duration that counts as none ends at once, and that is too
early. -/
theorem InPresent.lasts_asDelay_iff {now : Instant} (h : now.InPresent) {delay : Span} :
    (∃ due, now.plus? delay.asDelay = some due ∧ now.Lasts delay due) ↔
      (now.plus? delay.nanos).isSome = true := by
  constructor
  · rintro ⟨due, hdue, hlasts⟩
    by_contra hnone
    rw [Option.not_isSome_iff_eq_none] at hnone
    rw [Lasts, hnone] at hlasts
    unfold Span.asDelay at hdue
    split at hdue
    · rw [hnone] at hdue
      cases hdue
    · rw [Int.natCast_zero, plus?_zero, Option.some.injEq] at hdue
      exact h.not_last_le (hdue ▸ hlasts)
  · intro hsome
    obtain ⟨due, hdue⟩ := Option.isSome_iff_exists.mp hsome
    refine ⟨due, by rw [Span.asDelay_eq_of_plus? hdue, hdue], ?_⟩
    rw [Lasts, hdue]
    exact Int.le_refl _

end Instant

/-! ## Leases -/

/-- Whether the run of a handler failed in a way that may pass: it says so, it took too long, or it broke.
-/
def HandlerRun.isSetback : HandlerRun → Bool
  | .returned (.error (.transient _)) => true
  | .returned _ => false
  | .timedOut => true
  | .panicked => true

namespace Dispatcher

/-- Whether the claims of a poll last: every store in memory answers them, and what it hands out is
leased for as long as the settings say. -/
def LeasesLast (d : Dispatcher) (now : Instant) : Prop :=
  ∀ (s : WorkStore) (clock : Instant) (fresh : ItemId) (queue : String), ∃ items t,
    s.respond clock fresh
        (.claimDue queue now d.config.lease d.config.batchSize d.config.name) =
      some (.ok items, t) ∧
    ∀ i ∈ items, ∃ leaseEnd, i.leaseEnd = some leaseEnd ∧ now.Lasts d.config.lease leaseEnd

/-- Whether the failures of an item rest: when the policy allows a further invocation after a failed one
there is something to settle, and when the store takes it the item is not due before its rest is over.
-/
def RestsLast (d : Dispatcher) (now : Instant) (item : Item) : Prop :=
  ∀ run : HandlerRun, run.isSetback = true →
    d.config.backoff.allows (item.attempts + 1) = true →
    ∃ settlement, (d.settlement item now run).2 = some settlement ∧
      ∀ (s t : WorkStore) (clock : Instant) (fresh : ItemId), s.Distinct →
        s.Step ⟨clock, fresh, .settle item.id d.config.name settlement, .ok true⟩ t →
        ∀ i ∈ t.items, i.id = item.id →
          now.Lasts (d.config.backoff.delay (item.attempts + 1)) i.dueAt

variable {d : Dispatcher} {now : Instant}

theorem claimDue_eq (s : WorkStore) (clock : Instant) (fresh : ItemId) (queue : String)
    {lease : Span} {batch : Nat} {claimer : String} {leaseEnd : Instant}
    (hend : now.plus? lease.asDelay = some leaseEnd) :
    s.respond clock fresh (.claimDue queue now lease batch claimer) =
      some (.ok (s.claimUntil queue now leaseEnd batch claimer).1,
        (s.claimUntil queue now leaseEnd batch claimer).2) := by
  simp only [WorkStore.respond, WorkStore.claim, hend, Option.map_some]

/-- An item that is due at an instant. -/
def dueItem (now : Instant) : Item := Item.ofNew ⟨.ofNat 0⟩ ⟨"", "", now, .null⟩ now

theorem claimable_dueItem (now : Instant) :
    (⟨[dueItem now]⟩ : WorkStore).claimable "" now = [dueItem now] := by
  have heligible : (dueItem now).isEligible now = true := by
    have hdue : now ≤ now := Int.le_refl _
    simp [dueItem, Item.ofNew, Item.isEligible, Item.isClaimed, hdue]
  have hfilter : ([dueItem now].filter fun i => i.queue == "" && i.isEligible now) =
      [dueItem now] := by
    rw [List.filter_singleton, heligible]
    rfl
  rw [WorkStore.claimable, hfilter, List.mergeSort_singleton]

/-- **When leases last.** The claims of a poll are answered and last exactly when the calendar has the
end of the lease. -/
theorem leasesLast_iff (hnow : now.InPresent) (hbatch : 0 < d.config.batchSize) :
    d.LeasesLast now ↔ (now.plus? d.config.lease.nanos).isSome = true := by
  rw [← hnow.lasts_asDelay_iff]
  constructor
  · intro h
    obtain ⟨items, t, hresponds, hleases⟩ := h ⟨[dueItem now]⟩ now ⟨.ofNat 1⟩ ""
    cases hend : now.plus? d.config.lease.asDelay with
    | none => simp [WorkStore.respond, WorkStore.claim, hend] at hresponds
    | some leaseEnd =>
        rw [claimDue_eq _ _ _ _ hend, Option.some.injEq, Prod.mk.injEq, Except.ok.injEq] at hresponds
        obtain ⟨rfl, -⟩ := hresponds
        have hmem : WorkStore.leased d.config.name leaseEnd now (dueItem now) ∈
            ((⟨[dueItem now]⟩ : WorkStore).claimUntil "" now leaseEnd d.config.batchSize
              d.config.name).1 := by
          rw [WorkStore.claimUntil, claimable_dueItem, List.take_of_length_le hbatch]
          exact List.mem_singleton_self _
        obtain ⟨moment, hmoment, hlasts⟩ := hleases _ hmem
        obtain rfl : leaseEnd = moment := Option.some.inj hmoment
        exact ⟨leaseEnd, rfl, hlasts⟩
  · rintro ⟨leaseEnd, hend, hlasts⟩ s clock fresh queue
    refine ⟨_, _, claimDue_eq s clock fresh queue hend, ?_⟩
    intro i hi
    obtain ⟨j, -, rfl⟩ := List.mem_map.mp hi
    exact ⟨leaseEnd, rfl, hlasts⟩

/-! ## Rests -/

/-- What becomes of an item whose run failed in a way that may pass, while the policy allows another. -/
theorem settlement_of_setback (d : Dispatcher) (item : Item) (now : Instant) (run : HandlerRun)
    (hrun : run.isSetback = true)
    (hallows : d.config.backoff.allows (item.attempts + 1) = true) :
    ∃ reason, (d.settlement item now run).2 =
      (now.plus? (d.config.backoff.delay (item.attempts + 1)).asDelay).map
        fun retryAt => .recordFailure reason retryAt := by
  have hfailure (reason : String) : (d.failureSettlement item reason now).2 =
      (now.plus? (d.config.backoff.delay (item.attempts + 1)).asDelay).map
        fun retryAt => .recordFailure reason retryAt := by
    rw [failureSettlement, if_pos hallows]
  match run with
  | .returned (.ok .done) => cases hrun
  | .returned (.ok (.rescheduleAt due)) => cases hrun
  | .returned (.ok .release) => cases hrun
  | .returned (.error (.permanent reason)) => cases hrun
  | .returned (.error (.transient reason)) => exact ⟨_, hfailure reason⟩
  | .timedOut => exact ⟨_, hfailure _⟩
  | .panicked => exact ⟨_, hfailure _⟩

/-- After a failure was recorded the item is due when its rest is over. -/
theorem dueAt_of_recordFailure {s t : WorkStore} {clock : Instant} {fresh id : ItemId}
    {claimer reason : String} {retryAt : Instant} (distinct : s.Distinct)
    (step : s.Step ⟨clock, fresh, .settle id claimer (.recordFailure reason retryAt), .ok true⟩ t)
    {j : Item} (hj : j ∈ t.items) (hid : j.id = id) : j.dueAt = retryAt := by
  rcases step.of_mem distinct hj with ⟨i, hi, hchange⟩ | hcreated
  · have hsame : i.id = id := hchange.id_eq.symm.trans hid
    have hsettled := (step.settled distinct hi hsame).2
    rw [(step.distinct distinct).eq hj hsettled (hid.trans hsame.symm)]
    rfl
  · cases hcreated

theorem exists_other_id (id : ItemId) : ∃ other, id ≠ other := by
  by_cases hid : id = ⟨.ofNat 0⟩
  · refine ⟨⟨.ofNat 1⟩, ?_⟩
    rw [hid]
    decide
  · exact ⟨⟨.ofNat 0⟩, hid⟩

/-- An item that a dispatcher holds. -/
def heldItem (d : Dispatcher) (item : Item) : Item :=
  { item with claimedBy := some d.config.name, status := .available }

/-- A store takes the settlement of an item that the dispatcher holds. -/
theorem settles_heldItem (d : Dispatcher) (item : Item) (settlement : Settlement) (clock : Instant)
    {fresh : ItemId} (hfresh : item.id ≠ fresh) :
    ∃ t, (⟨[d.heldItem item]⟩ : WorkStore).Step
      ⟨clock, fresh, .settle item.id d.config.name settlement, .ok true⟩ t := by
  have haccepts : (d.heldItem item).accepts d.config.name = true := by
    simp [Item.accepts, heldItem, ItemStatus.isTerminal]
  have hanswer := WorkStore.touch_answer (s := ⟨[d.heldItem item]⟩) (List.nodup_singleton _)
    (List.mem_singleton_self _) clock (fun i => i.accepts d.config.name) settlement.apply
  rw [haccepts] at hanswer
  refine ⟨((⟨[d.heldItem item]⟩ : WorkStore).settle item.id d.config.name settlement clock).2,
    List.forall_mem_singleton.mpr hfresh, ?_⟩
  exact congrArg some (Prod.ext hanswer rfl)

/-- **When rests last.** The failures of an item are settled and rest exactly when the policy gives the
item up, or when the calendar has the end of the rest. -/
theorem restsLast_iff (hnow : now.InPresent) (item : Item) :
    d.RestsLast now item ↔ (d.config.backoff.allows (item.attempts + 1) = true →
      (now.plus? (d.config.backoff.delay (item.attempts + 1)).nanos).isSome = true) := by
  refine ⟨fun h hallows => ?_, fun h run hrun hallows => ?_⟩
  · rw [← hnow.lasts_asDelay_iff]
    obtain ⟨settlement, hsettlement, hdue⟩ := h .panicked rfl hallows
    obtain ⟨reason, hreason⟩ := d.settlement_of_setback item now .panicked rfl hallows
    rw [hreason] at hsettlement
    obtain ⟨retryAt, hretry, rfl⟩ := Option.map_eq_some_iff.mp hsettlement
    obtain ⟨fresh, hfresh⟩ := exists_other_id item.id
    obtain ⟨t, step⟩ := d.settles_heldItem item (.recordFailure reason retryAt) now hfresh
    have distinct : (⟨[d.heldItem item]⟩ : WorkStore).Distinct := List.nodup_singleton _
    obtain ⟨j, hj, hchange⟩ := step.exists_of_mem distinct (List.mem_singleton_self _)
    have hlasts := hdue _ t now fresh distinct step j hj hchange.id_eq
    rw [dueAt_of_recordFailure distinct step hj hchange.id_eq] at hlasts
    exact ⟨retryAt, hretry, hlasts⟩
  · obtain ⟨retryAt, hretry, hlasts⟩ := hnow.lasts_asDelay_iff.mpr (h hallows)
    obtain ⟨reason, hreason⟩ := d.settlement_of_setback item now run hrun hallows
    refine ⟨.recordFailure reason retryAt, by rw [hreason, hretry]; rfl, ?_⟩
    intro s t clock fresh distinct step j hj hid
    rw [dueAt_of_recordFailure distinct step hj hid]
    exact hlasts

end Dispatcher

/-! ## Settings -/

/-- No rest is longer than the longest one, as long as the numbers are exact. -/
theorem BackoffPolicy.delay_le {p : BackoffPolicy}
    (hfixed : p.strategy = .fixed → p.baseDelay = p.maxDelay)
    (hexact : p.maxDelay.millis < Nat.pow 2 Number.precision) (failures : UInt32) :
    (p.delay failures).nanos ≤ p.maxDelay.nanos := by
  have hlongest := Number.toPrecision_of_lt hexact
  have hmillis : p.delayMillis failures ≤ p.maxDelay.millis := by
    unfold delayMillis
    split
    · exact Nat.zero_le _
    · refine (Nat.min_le_left _ _).trans ?_
      cases hstrategy : p.strategy with
      | fixed =>
          rw [hfixed hstrategy, hlongest]
      | exponential =>
          rw [hlongest]
          exact Nat.min_le_right _ _
      | linear =>
          rw [hlongest]
          exact Nat.min_le_right _ _
  have hnanos : (p.delay failures).nanos ≤ p.delayMillis failures * 1000000 := Nat.min_le_left _ _
  have hwhole : p.maxDelay.millis * 1000000 ≤ p.maxDelay.nanos := Nat.div_mul_le_self _ _
  omega

namespace Settings

private theorem except_bind_ok {ε α β : Type} {x : Except ε α} {f : α → Except ε β} {result : β}
    (h : x >>= f = .ok result) : ∃ value, x = .ok value ∧ f value = .ok result := by
  cases x with
  | error e => cases h
  | ok value => exact ⟨value, rfl, h⟩

private theorem fixed_of_choice {maxAttempts : UInt32} {base longest : Span}
    {strategy : BackoffStrategy} {p : BackoffPolicy}
    (h : (match strategy with
      | .fixed => (.ok (BackoffPolicy.fixed maxAttempts base) : Except SettingsError BackoffPolicy)
      | other => .ok ⟨maxAttempts, base, longest, other⟩) = .ok p)
    (hfixed : p.strategy = .fixed) : p.baseDelay = p.maxDelay := by
  cases strategy with
  | fixed =>
      obtain rfl := Except.ok.inj h
      rfl
  | exponential =>
      obtain rfl := Except.ok.inj h
      cases hfixed
  | linear =>
      obtain rfl := Except.ok.inj h
      cases hfixed

/-- A fixed backoff that is accepted has only one delay. -/
theorem backoff?_fixed {lookup : String → Option String} {default p : BackoffPolicy}
    (h : backoff? lookup default = .ok p) (hfixed : p.strategy = .fixed) :
    p.baseDelay = p.maxDelay := by
  unfold backoff? at h
  obtain ⟨maxAttempts, -, h⟩ := except_bind_ok h
  obtain ⟨base, -, h⟩ := except_bind_ok h
  obtain ⟨longest, -, h⟩ := except_bind_ok h
  simp only at h
  split at h
  · cases h
  · split at h
    · exact fixed_of_choice h hfixed
    · split at h
      · exact fixed_of_choice h hfixed
      · cases h

theorem read_backoff {name : String} {lookup : String → Option String} {s : Settings}
    (h : read name lookup = .ok s) : ∃ default, backoff? lookup default = .ok s.backoff := by
  unfold read at h
  obtain ⟨pollInterval, -, h⟩ := except_bind_ok h
  obtain ⟨lease, -, h⟩ := except_bind_ok h
  obtain ⟨batchSize, -, h⟩ := except_bind_ok h
  obtain ⟨maxConcurrent, -, h⟩ := except_bind_ok h
  obtain ⟨handlerTimeout, -, h⟩ := except_bind_ok h
  obtain ⟨backoff, hbackoff, h⟩ := except_bind_ok h
  obtain ⟨paymentMaxAttempts, -, h⟩ := except_bind_ok h
  obtain ⟨maxConflictRetries, -, h⟩ := except_bind_ok h
  obtain rfl := Except.ok.inj h
  exact ⟨_, hbackoff⟩

/-- **Accepted settings and how long they last.** For all settings that are accepted and every time in
the years 2025 to 2059: the claims of a poll are answered and last exactly when the calendar has the end
of the lease, and the failures of an item are settled and rest exactly when the calendar has the end of
the rest, unless the item is given up. Leases of at most the room that the calendar has after 2059
always last, and so do all rests when the longest one fits into that room. -/
theorem durations_last {name : String} {lookup : String → Option String} {s : Settings}
    (hread : read name lookup = .ok s) {d : Dispatcher} (hconfig : d.config = s.dispatcher)
    {now : Instant} (hnow : now.InPresent) :
    (d.LeasesLast now ↔ (now.plus? s.lease.nanos).isSome = true) ∧
      (∀ item, d.RestsLast now item ↔ (s.backoff.allows (item.attempts + 1) = true →
        (now.plus? (s.backoff.delay (item.attempts + 1)).nanos).isSome = true)) ∧
      (s.lease.nanos ≤ Instant.presentRoom → d.LeasesLast now) ∧
      (s.backoff.maxDelay.nanos ≤ Instant.presentRoom → ∀ item, d.RestsLast now item) := by
  have hlease : d.config.lease = s.lease := by rw [hconfig]; rfl
  have hbackoff : d.config.backoff = s.backoff := by rw [hconfig]; rfl
  have hbatch : 0 < d.config.batchSize := by
    rw [hconfig]
    exact Nat.le_max_right s.batchSize 1
  have hleases := d.leasesLast_iff hnow hbatch
  have hrests (item : Item) := d.restsLast_iff hnow item
  rw [hlease] at hleases
  rw [hbackoff] at hrests
  refine ⟨hleases, hrests, ?_, ?_⟩
  · intro hroom
    exact hleases.mpr (hnow.isSome_plus? hroom)
  · intro hroom item
    refine (hrests item).mpr fun _ => hnow.isSome_plus? (le_trans ?_ hroom)
    obtain ⟨default, haccepted⟩ := read_backoff hread
    refine BackoffPolicy.delay_le (fun hfixed => backoff?_fixed haccepted hfixed) ?_ _
    have hwhole : s.backoff.maxDelay.millis ≤ Instant.presentRoom / 1000000 :=
      Nat.div_le_div_right hroom
    have hprecise : Instant.presentRoom / 1000000 < Nat.pow 2 Number.precision := by decide
    omega

/-! ### Settings within the limits and beyond them -/

/-- 2026-01-01T00:00:00Z. -/
def newYear : Instant := (Instant.ofNanos? 1767225600000000000).getD .first

theorem newYear_inPresent : newYear.InPresent := by
  constructor <;> decide

/-- Some keys with their texts. -/
def ofKeys (entries : List (String × String)) (key : String) : Option String := entries.lookup key

/-- Settings that are as they are when nothing is said, but for the lease and the backoff. -/
def unhurried (lease : Span) (backoff : BackoffPolicy) : Settings :=
  { dispatcherName := "svc", lease, backoff }

/-- The dispatcher of such settings, with a handler for no queue. -/
def unhurriedDispatcher (lease : Span) (backoff : BackoffPolicy) : Dispatcher :=
  ⟨(unhurried lease backoff).dispatcher, []⟩

/-- With the settings of a process that says nothing, leases and rests last. -/
theorem durations_last_default :
    read "svc" (ofKeys []) = .ok (unhurried (Span.ofSecs 300) {}) ∧ newYear.InPresent ∧
      (unhurriedDispatcher (Span.ofSecs 300) {}).LeasesLast newYear ∧
      (unhurriedDispatcher (Span.ofSecs 300) {}).RestsLast newYear (Dispatcher.dueItem newYear) := by
  have hread : read "svc" (ofKeys []) = .ok (unhurried (Span.ofSecs 300) {}) := rfl
  obtain ⟨-, -, hlease, hrest⟩ := durations_last hread
    (rfl : (unhurriedDispatcher (Span.ofSecs 300) {}).config = _) newYear_inPresent
  exact ⟨hread, newYear_inPresent, hlease (by decide), hrest (by decide) _⟩

/-- The longest lease that settings can give. -/
def endless : Span := Span.ofSecs 18446744073709551615

/-- A lease that is an offset and ends after the calendar. -/
def distant : Span := Span.ofSecs 9000000000000

/-- A backoff of the longest rests that settings can give. -/
def weary : BackoffPolicy :=
  { baseDelay := Span.ofMillis 18446744073709551615, maxDelay := Span.ofMillis 18446744073709551615 }

/-- **Accepted durations can collapse.** The longest lease is over at the moment of the claim, a shorter
one that ends after the calendar leaves the claim without an answer, and after the longest rest an item
is due at the moment of its failure. -/
theorem durations_can_collapse :
    newYear.InPresent ∧
      (read "svc" (ofKeys [("DUEBILL_LEASE_SECS", "18446744073709551615")]) =
          .ok (unhurried endless {}) ∧
        ¬ (unhurriedDispatcher endless {}).LeasesLast newYear ∧
        ((⟨[Dispatcher.dueItem newYear]⟩ : WorkStore).claim "" newYear endless 16 "svc").map
          (fun taken => taken.1.map Item.leaseEnd) = some [some newYear]) ∧
      (read "svc" (ofKeys [("DUEBILL_LEASE_SECS", "9000000000000")]) =
          .ok (unhurried distant {}) ∧
        ¬ (unhurriedDispatcher distant {}).LeasesLast newYear ∧
        ((⟨[Dispatcher.dueItem newYear]⟩ : WorkStore).claim "" newYear distant 16 "svc").isSome =
          false) ∧
      read "svc" (ofKeys [("DUEBILL_BACKOFF_BASE_MS", "18446744073709551615"),
          ("DUEBILL_BACKOFF_MAX_MS", "18446744073709551615")]) =
          .ok (unhurried (Span.ofSecs 300) weary) ∧
        ¬ (unhurriedDispatcher (Span.ofSecs 300) weary).RestsLast newYear
          (Dispatcher.dueItem newYear) ∧
        ((unhurriedDispatcher (Span.ofSecs 300) weary).settlement (Dispatcher.dueItem newYear)
          newYear .panicked).2 = some (.recordFailure "handler panicked" newYear) := by
  have hbatch (lease : Span) (backoff : BackoffPolicy) :
      0 < (unhurriedDispatcher lease backoff).config.batchSize := by
    show 0 < max 16 1
    decide
  have hlease (lease : Span) (h : (newYear.plus? lease.nanos).isSome = false) :
      ¬ (unhurriedDispatcher lease {}).LeasesLast newYear := by
    rw [Dispatcher.leasesLast_iff newYear_inPresent (hbatch lease {})]
    exact Bool.eq_false_iff.mp h
  have hover : ((⟨[Dispatcher.dueItem newYear]⟩ : WorkStore).claim "" newYear endless 16 "svc").map
      (fun taken => taken.1.map Item.leaseEnd) = some [some newYear] := by
    have hend : newYear.plus? endless.asDelay = some newYear := by decide
    rw [WorkStore.claim, hend, Option.map_some, Option.map_some, WorkStore.claimUntil,
      Dispatcher.claimable_dueItem]
    rfl
  refine ⟨newYear_inPresent, ⟨rfl, hlease endless (by decide), hover⟩,
    ⟨rfl, hlease distant (by decide), by decide⟩, rfl, ?_, by decide⟩
  rw [Dispatcher.restsLast_iff newYear_inPresent]
  intro hrests
  exact absurd (hrests (by decide)) (by decide)

end Settings

end Dunning
