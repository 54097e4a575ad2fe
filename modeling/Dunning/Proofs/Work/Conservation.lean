import Dunning.Proofs.Work.Lifecycle

/-!
# No item is lost or altered

Whatever is put into a store stays in it: an event adds what it creates and takes nothing away, and
what an item is about never changes. The counters of a queue, the pending items of an owner, the
dead letters and the marks of closed owners are four views of these items. Each is read off the same
list, so each can be compared with what was ever put there.

## Main definitions

* `Item.Origin` — what an item is given when it is made.
* `WorkEvent.creates` — the events that put an item into the store.

## Main results

* `WorkStore.Trace.origins` — a run adds what its events create and alters nothing.
* `WorkStore.no_item_is_lost` — the items of a store, its counters and its other views in every run.
-/

namespace Dunning

/-- What an item is given when it is made. -/
structure Item.Origin where
  id : ItemId
  queue : String
  owner : String
  payload : Json
  createdAt : Instant

/-- What the item was given when it was made. -/
def Item.origin (i : Item) : Origin := ⟨i.id, i.queue, i.owner, i.payload, i.createdAt⟩

/-- Whether an item is on a queue in a status. -/
def Item.isOn (queue : String) (status : ItemStatus) (i : Item) : Bool :=
  i.queue == queue && i.status == status

namespace WorkEvent

/-- Whether an event puts an item into the store. -/
def creates (e : WorkEvent) : Bool :=
  match e.request with
  | .enqueue _ => true
  | .markOwnerCancelled .. => true
  | _ => false

theorem length_created (e : WorkEvent) : e.created.length = if e.creates then 1 else 0 := by
  obtain ⟨clock, fresh, request, answer⟩ := e
  cases request <;> rfl

/-- No event alters what an item was given. -/
theorem Change.origin_eq {e : WorkEvent} {i j : Item} (h : e.Change i j) : j.origin = i.origin := by
  cases h with
  | @settled claimer settlement => cases settlement <;> rfl
  | _ => rfl

/-- An item that has ended keeps its place in the counters. -/
theorem Change.isOn {e : WorkEvent} {i j : Item} (h : e.Change i j) {queue : String}
    {status : ItemStatus} (hterminal : status.isTerminal = true)
    (hi : i.isOn queue status = true) : j.isOn queue status = true := by
  have hstatus : i.status = status := by
    simp only [Item.isOn, Bool.and_eq_true, beq_iff_eq] at hi
    exact hi.2
  rw [← hstatus] at hterminal
  obtain ⟨moment, rfl⟩ := h.eq_of_isTerminal hterminal
  exact hi

end WorkEvent

namespace WorkStore

/-! ## Runs only add -/

/-- An event adds what it creates and alters nothing. -/
theorem Step.origins {s t : WorkStore} {e : WorkEvent} (step : s.Step e t) (distinct : s.Distinct) :
    t.items.map Item.origin = s.items.map Item.origin ++ e.created.map Item.origin := by
  obtain ⟨change, hitems, hchange⟩ := step.items distinct
  have hsame : (s.items.map change).map Item.origin = s.items.map Item.origin := by
    rw [List.map_map]
    exact List.map_congr_left fun i hi => (hchange i hi).origin_eq
  rw [hitems, List.map_append, hsame]

/-- **A run only adds.** The items that were there come first and are as they were made; after them
come those that the events created, in their order. -/
theorem Trace.origins {s t : WorkStore} {events : List WorkEvent} (run : s.Trace events t)
    (distinct : s.Distinct) :
    t.items.map Item.origin =
      s.items.map Item.origin ++ (events.flatMap WorkEvent.created).map Item.origin := by
  induction run with
  | nil => simp
  | cons step _ ih =>
      rw [ih (step.distinct distinct), step.origins distinct, List.flatMap_cons, List.map_append,
        List.append_assoc]

theorem length_created (events : List WorkEvent) :
    (events.flatMap WorkEvent.created).length = events.countP WorkEvent.creates := by
  induction events with
  | nil => rfl
  | cons e rest ih =>
      rw [List.flatMap_cons, List.length_append, List.countP_cons, ih, e.length_created]
      omega

/-- The items of a queue that a run put there. -/
theorem Trace.countP_queue {s : WorkStore} {events : List WorkEvent}
    (run : ({} : WorkStore).Trace events s) (queue : String) :
    s.items.countP (fun i => i.queue == queue) =
      (events.flatMap WorkEvent.created).countP fun i => i.queue == queue := by
  have horigins : s.items.map Item.origin = (events.flatMap WorkEvent.created).map Item.origin :=
    run.origins distinct_empty
  have hcount := congrArg (List.countP fun o : Item.Origin => o.queue == queue) horigins
  rw [List.countP_map, List.countP_map] at hcount
  exact hcount

/-- Those that have ended are counted for good. -/
theorem Step.countP_le {s t : WorkStore} {e : WorkEvent} (step : s.Step e t) (distinct : s.Distinct)
    (queue : String) {status : ItemStatus} (hterminal : status.isTerminal = true) :
    s.items.countP (Item.isOn queue status) ≤ t.items.countP (Item.isOn queue status) := by
  obtain ⟨change, hitems, hchange⟩ := step.items distinct
  have hkept : s.items.countP (Item.isOn queue status) ≤
      (s.items.map change).countP (Item.isOn queue status) := by
    rw [List.countP_map]
    exact List.countP_mono_left fun i hi => (hchange i hi).isOn hterminal
  rw [hitems, List.countP_append]
  omega

theorem Trace.countP_le {s t : WorkStore} {events : List WorkEvent} (run : s.Trace events t)
    (distinct : s.Distinct) (queue : String) {status : ItemStatus}
    (hterminal : status.isTerminal = true) :
    s.items.countP (Item.isOn queue status) ≤ t.items.countP (Item.isOn queue status) := by
  induction run with
  | nil => exact Nat.le_refl _
  | cons step _ ih =>
      exact (step.countP_le distinct queue hterminal).trans (ih (step.distinct distinct))

/-! ## Counters -/

theorem filter_isOn (s : WorkStore) (queue : String) (status : ItemStatus) :
    (s.items.filter (Item.isOn queue status)).length = s.items.countP (Item.isOn queue status) :=
  List.countP_eq_length_filter.symm

/-- The counters of items that have ended. -/
theorem stats_ended (s : WorkStore) (queue : String) (now : Instant) :
    (s.stats queue now).processed = s.items.countP (Item.isOn queue .processed) ∧
      (s.stats queue now).cancelled = s.items.countP (Item.isOn queue .cancelled) ∧
      (s.stats queue now).deadLettered = s.items.countP (Item.isOn queue .deadLettered) :=
  ⟨s.filter_isOn queue _, s.filter_isOn queue _, s.filter_isOn queue _⟩

/-- What has not ended is either claimed or not. -/
theorem stats_live (s : WorkStore) (queue : String) (now : Instant) :
    (s.stats queue now).available + (s.stats queue now).claimed =
      s.items.countP (Item.isOn queue .available) := by
  have hsplit := List.length_eq_countP_add_countP (fun i : Item => i.isClaimed now)
    (l := s.items.filter (Item.isOn queue .available))
  have hfree : (fun i : Item => !i.isClaimed now) = fun i => decide ¬ i.isClaimed now = true := by
    funext i
    cases i.isClaimed now <;> rfl
  rw [filter_isOn, ← hfree] at hsplit
  rw [hsplit]
  exact Nat.add_comm _ _

theorem isOn_available (queue : String) :
    Item.isOn queue .available = fun i => i.queue == queue && !i.status.isTerminal := by
  funext i
  rw [Item.isOn]
  cases i.status <;> rfl

/-- Every item of a queue is in one status. -/
theorem countP_statuses (items : List Item) (queue : String) :
    items.countP (Item.isOn queue .available) + items.countP (Item.isOn queue .processed) +
        items.countP (Item.isOn queue .cancelled) + items.countP (Item.isOn queue .deadLettered) =
      items.countP fun i => i.queue == queue := by
  induction items with
  | nil => rfl
  | cons i rest ih =>
      have hone (status : ItemStatus) : Item.isOn queue status i =
          (i.queue == queue && i.status == status) := rfl
      simp only [List.countP_cons, hone]
      by_cases hqueue : i.queue = queue
      · cases hstatus : i.status <;> simp [hqueue] <;> omega
      · simpa [hqueue] using ih

/-- Dead letters are listed up to the limit. -/
theorem length_deadLetters (s : WorkStore) (queue : String) (limit : Nat) :
    (s.deadLetters queue limit).length =
      min limit (s.items.countP (Item.isOn queue .deadLettered)) := by
  rw [deadLetters, List.length_take, List.length_mergeSort]
  exact congrArg (min limit) (s.filter_isOn queue .deadLettered)

/-! ## Eligibility -/

/-- What has not ended may be claimed once it is due and its lease is over. -/
theorem mem_claimable_of_live {s : WorkStore} {i : Item} (hi : i ∈ s.items)
    (hlive : i.status.isTerminal = false) {now : Instant} (hdue : i.dueAt ≤ now)
    (hlease : ∀ leaseEnd, i.leaseEnd = some leaseEnd → leaseEnd < now) :
    i ∈ s.claimable i.queue now := by
  have hstatus : i.status = .available := by
    cases hstatus : i.status with
    | available => rfl
    | _ =>
        rw [hstatus] at hlive
        cases hlive
  have hfree : i.isClaimed now = false := by
    unfold Item.isClaimed
    cases hend : i.leaseEnd with
    | none => rfl
    | some leaseEnd =>
        have hlt := hlease leaseEnd hend
        rw [Instant.lt_def] at hlt
        rw [Option.any_some, decide_eq_false_iff_not, Instant.le_def]
        omega
  refine mem_claimable.mpr ⟨hi, rfl, ?_⟩
  simp only [Item.isEligible, hstatus, hfree, hdue, beq_self_eq_true, decide_true, Bool.not_false,
    Bool.and_self]

/-! ## The views together -/

/-- An item is found again after every run as it was made. -/
theorem Trace.get?_origin {s t : WorkStore} {events : List WorkEvent} (run : s.Trace events t)
    (distinct : s.Distinct) {i : Item} (hi : i ∈ s.items) :
    ∃ j, t.get? i.id = some j ∧ j.origin = i.origin := by
  have hmem : i.origin ∈ t.items.map Item.origin := by
    rw [run.origins distinct]
    exact List.mem_append_left _ (List.mem_map_of_mem hi)
  obtain ⟨j, hj, horigin⟩ := List.mem_map.mp hmem
  have hid : j.id = i.id := congrArg Item.Origin.id horigin
  refine ⟨j, ?_, horigin⟩
  rw [← hid]
  exact (run.distinct distinct).get?_eq hj

/-- A mark stays. -/
theorem Trace.isOwnerCancelled {s t : WorkStore} {events : List WorkEvent} (run : s.Trace events t)
    (distinct : s.Distinct) {owner : String} (h : s.isOwnerCancelled owner = true) :
    t.isOwnerCancelled owner = true := by
  obtain ⟨i, hi, hqueue, howner⟩ := isOwnerCancelled_eq_true_iff.mp h
  obtain ⟨j, hj, -, hsamequeue, hsameowner⟩ := run.exists_of_mem distinct hi
  exact isOwnerCancelled_eq_true_iff.mpr ⟨j, hj, hsamequeue.trans hqueue, hsameowner.trans howner⟩

/-- **No item is lost or altered.** After every run from an empty store, whatever the order, the
claimers and the times:

* a later run puts exactly one item into the store for each item or mark that it records, and all
  others are found again with the identifier, the queue, the owner, the payload and the time of
  creation that they had;
* the counters of a queue add up to the items ever put there, those of live items to the items that
  have not ended, and the dead letters are as many as the limit admits of those that are counted;
* the counters of items that have ended never fall;
* an item that has not ended is among the pending ones of its owner, and may be claimed at every
  moment at which it is due and its lease is over;
* a mark of a closed owner stays. -/
theorem no_item_is_lost {events : List WorkEvent} {s : WorkStore}
    (run : ({} : WorkStore).Trace events s) :
    (∀ later t, s.Trace later t →
      t.items.length = s.items.length + later.countP WorkEvent.creates ∧
      t.items.map Item.origin =
        s.items.map Item.origin ++ (later.flatMap WorkEvent.created).map Item.origin ∧
      ∀ i ∈ s.items, ∃ j, t.get? i.id = some j ∧ j.origin = i.origin) ∧
    (∀ queue now,
      (s.stats queue now).available + (s.stats queue now).claimed + (s.stats queue now).processed +
          (s.stats queue now).cancelled + (s.stats queue now).deadLettered =
        (events.flatMap WorkEvent.created).countP (fun i => i.queue == queue) ∧
      (s.stats queue now).available + (s.stats queue now).claimed =
        s.items.countP (fun i => i.queue == queue && !i.status.isTerminal) ∧
      ∀ limit, (s.deadLetters queue limit).length = min limit (s.stats queue now).deadLettered) ∧
    (∀ later t, s.Trace later t → ∀ queue now moment,
      (s.stats queue now).processed ≤ (t.stats queue moment).processed ∧
      (s.stats queue now).cancelled ≤ (t.stats queue moment).cancelled ∧
      (s.stats queue now).deadLettered ≤ (t.stats queue moment).deadLettered) ∧
    (∀ i ∈ s.items, i.status.isTerminal = false → i ∈ s.pendingForOwner i.queue i.owner ∧
      ∀ now, i.dueAt ≤ now → (∀ leaseEnd, i.leaseEnd = some leaseEnd → leaseEnd < now) →
        i ∈ s.claimable i.queue now) ∧
    ∀ owner, s.isOwnerCancelled owner = true → ∀ later t, s.Trace later t →
      t.isOwnerCancelled owner = true := by
  have distinct : s.Distinct := run.distinct distinct_empty
  refine ⟨?_, ?_, ?_, ?_, ?_⟩
  · intro later t laterRun
    have horigins := laterRun.origins distinct
    refine ⟨?_, horigins, fun i hi => laterRun.get?_origin distinct hi⟩
    have hlength := congrArg List.length horigins
    rw [List.length_append, List.length_map, List.length_map, List.length_map,
      length_created] at hlength
    exact hlength
  · intro queue now
    obtain ⟨hprocessed, hcancelled, hdead⟩ := s.stats_ended queue now
    have hlive := s.stats_live queue now
    refine ⟨?_, ?_, ?_⟩
    · rw [hlive, hprocessed, hcancelled, hdead, countP_statuses]
      exact run.countP_queue queue
    · rw [hlive, isOn_available]
    · intro limit
      rw [hdead]
      exact s.length_deadLetters queue limit
  · intro later t laterRun queue now moment
    obtain ⟨hprocessed, hcancelled, hdead⟩ := s.stats_ended queue now
    obtain ⟨hprocessed', hcancelled', hdead'⟩ := t.stats_ended queue moment
    rw [hprocessed, hcancelled, hdead, hprocessed', hcancelled', hdead']
    exact ⟨laterRun.countP_le distinct queue rfl, laterRun.countP_le distinct queue rfl,
      laterRun.countP_le distinct queue rfl⟩
  · intro i hi hlive
    refine ⟨mem_pendingForOwner.mpr ⟨hi, rfl, rfl, hlive⟩, ?_⟩
    intro now hdue hlease
    exact mem_claimable_of_live hi hlive hdue hlease
  · intro owner hmarked later t laterRun
    exact laterRun.isOwnerCancelled distinct hmarked

/-- An item that was leased, given back and leased again is the only one of its queue, and it may be
claimed once the second lease is over. -/
theorem no_item_is_lost_noon :
    ({} : WorkStore).Trace [noonCreation, noonClaim "north", noonReturn, noonClaim "south"]
        ⟨[noonItemOf "south"]⟩ ∧
      (WorkStore.stats ⟨[noonItemOf "south"]⟩ "queue" .noon).available +
          (WorkStore.stats ⟨[noonItemOf "south"]⟩ "queue" .noon).claimed = 1 ∧
      ∀ now, Instant.noon ≤ now →
        (∀ leaseEnd, (noonItemOf "south").leaseEnd = some leaseEnd → leaseEnd < now) →
        noonItemOf "south" ∈ WorkStore.claimable ⟨[noonItemOf "south"]⟩ "queue" now := by
  obtain ⟨-, hcounters, -, hclaimable, -⟩ := no_item_is_lost trace_noon
  obtain ⟨-, hlive, -⟩ := hcounters "queue" .noon
  have hmem : noonItemOf "south" ∈ [noonItemOf "south"] := List.mem_singleton_self _
  exact ⟨trace_noon, hlive.trans (by decide), (hclaimable _ hmem rfl).2⟩

end WorkStore

end Dunning
