import Dunning.Work.Store
import Mathlib.Data.List.Nodup

/-!
# Runs of the store of work items

A run is a list of events. Each event asks the store one thing, at some reading of the clock and with
an identifier for whatever it creates, and carries the answer. The order of the events, their owners
and the times that their requests name are free; only identifiers are never given twice.

All that a run can do to an item is said once, by `WorkEvent.Change`: an item stays, is touched in
vain, leased, settled or withdrawn. What a run keeps is derived from that list.

## Main definitions

* `WorkEvent` — a request with its answer.
* `WorkStore.Step`, `WorkStore.Trace` — the events that lead from one store to another.
* `WorkEvent.Change` — what an event can make of an item that is there.

## Main results

* `WorkStore.Step.items` — every event changes the items that are there and adds what it creates.
* `WorkStore.Trace.distinct` — no two items of a run have one identifier.
* `WorkStore.Trace.keeps` — what every event keeps holds after every run.
* `WorkStore.Step.of_mem_handedOut` — what a claim hands out was eligible and is leased.
-/

namespace Dunning

/-- The moment at which everything happens in runs that need no time, 1970-01-01T12:00:00Z. -/
def Instant.noon : Instant := (ofNanos? 43200000000000).getD first

/-- One request to a store of work items, with its answer. -/
structure WorkEvent where
  /-- The reading of the clock. -/
  clock : Instant
  /-- The identifier of whatever is created. -/
  fresh : ItemId
  request : WorkRequest
  answer : request.Answer

namespace WorkEvent

/-- The items that a claim hands out. -/
def handedOut : WorkEvent → List Item
  | ⟨_, _, .claimDue .., .ok items⟩ => items
  | _ => []

/-- Whether a settlement or a withdrawal counted. -/
def verdict? : WorkEvent → Option Bool
  | ⟨_, _, .settle .., .ok counted⟩ => some counted
  | ⟨_, _, .cancel _, .ok counted⟩ => some counted
  | _ => none

/-- The items that an event adds. -/
def created : WorkEvent → List Item
  | ⟨clock, fresh, .enqueue new, _⟩ => [Item.ofNew fresh new clock]
  | ⟨_, fresh, .markOwnerCancelled owner now, _⟩ => [WorkStore.mark fresh owner now]
  | _ => []

/-- Whether an event settles or withdraws the item of an identifier. -/
def Addresses (e : WorkEvent) (id : ItemId) : Prop :=
  (∃ claimer settlement, e.request = .settle id claimer settlement) ∨ e.request = .cancel id

/-- What an event can make of an item that is there. -/
inductive Change (e : WorkEvent) (i : Item) : Item → Prop where
  | kept : Change e i i
  /-- A settlement or a withdrawal that does not count only leaves its time. -/
  | refused : e.Addresses i.id → e.verdict? = some false → Change e i { i with updatedAt := e.clock }
  | leased {queue : String} {now leaseEnd : Instant} {lease : Span} {batch : Nat}
      {claimer : String} : e.request = .claimDue queue now lease batch claimer →
      now.plus? lease.asDelay = some leaseEnd → i.queue = queue → i.isEligible now = true →
      WorkStore.leased claimer leaseEnd now i ∈ e.handedOut →
      Change e i (WorkStore.leased claimer leaseEnd now i)
  | settled {claimer : String} {settlement : Settlement} :
      e.request = .settle i.id claimer settlement → e.verdict? = some true →
      i.accepts claimer = true → Change e i { settlement.apply i with updatedAt := e.clock }
  | cancelled : e.request = .cancel i.id → e.verdict? = some true → i.status.isTerminal = false →
      Change e i { i.unclaimed with status := .cancelled, updatedAt := e.clock }
  | withdrawn {queue owner : String} {now : Instant} :
      e.request = .cancelPending queue owner now → WorkStore.waits queue owner now i = true →
      Change e i { i with status := .cancelled, updatedAt := now }

/-- No event gives an item another name. -/
theorem Change.id_eq {e : WorkEvent} {i j : Item} (h : e.Change i j) : j.id = i.id := by
  cases h with
  | settled hrequest hverdict haccepts =>
      rename_i claimer settlement
      cases settlement <;> rfl
  | _ => rfl

/-- No event gives an item to another queue or owner, or changes what it carries. -/
theorem Change.frame {e : WorkEvent} {i j : Item} (h : e.Change i j) :
    j.queue = i.queue ∧ j.owner = i.owner ∧ j.payload = i.payload := by
  cases h with
  | settled hrequest hverdict haccepts =>
      rename_i claimer settlement
      cases settlement <;> exact ⟨rfl, rfl, rfl⟩
  | _ => exact ⟨rfl, rfl, rfl⟩

/-- An item that has ended does not come back. -/
theorem Change.isTerminal {e : WorkEvent} {i j : Item} (h : e.Change i j)
    (hterminal : i.status.isTerminal = true) : j.status.isTerminal = true := by
  cases h with
  | settled hrequest hverdict haccepts =>
      rw [Item.accepts, hterminal] at haccepts
      cases haccepts
  | cancelled => rfl
  | withdrawn => rfl
  | _ => exact hterminal

theorem fresh_of_mem_created {e : WorkEvent} {i : Item} (h : i ∈ e.created) : i.id = e.fresh := by
  obtain ⟨clock, fresh, request, answer⟩ := e
  cases request <;> simp [created] at h
  · rw [h]
    rfl
  · rw [h]
    rfl

theorem length_created_le (e : WorkEvent) : e.created.length ≤ 1 := by
  obtain ⟨clock, fresh, request, answer⟩ := e
  cases request <;> simp [created]

end WorkEvent

namespace WorkStore

/-- Whether no two items have one identifier. -/
def Distinct (s : WorkStore) : Prop := (s.items.map Item.id).Nodup

theorem distinct_empty : Distinct {} := List.nodup_nil

theorem Distinct.eq {s : WorkStore} (distinct : s.Distinct) {i j : Item} (hi : i ∈ s.items)
    (hj : j ∈ s.items) (h : i.id = j.id) : i = j :=
  List.inj_on_of_nodup_map distinct hi hj h

/-! ## Requests one by one -/

theorem mem_claimable {s : WorkStore} {queue : String} {now : Instant} {i : Item} :
    i ∈ s.claimable queue now ↔ i ∈ s.items ∧ i.queue = queue ∧ i.isEligible now = true := by
  simp only [claimable, List.mem_mergeSort, List.mem_filter, Bool.and_eq_true, beq_iff_eq]

theorem mem_pendingForOwner {s : WorkStore} {queue owner : String} {i : Item} :
    i ∈ s.pendingForOwner queue owner ↔ i ∈ s.items ∧ i.queue = queue ∧ i.owner = owner ∧
      i.status.isTerminal = false := by
  simp only [pendingForOwner, byDue, List.mem_mergeSort, List.mem_filter, Bool.and_eq_true,
    beq_iff_eq, Bool.not_eq_true', and_assoc]

theorem isOwnerCancelled_eq_true_iff {s : WorkStore} {owner : String} :
    s.isOwnerCancelled owner = true ↔
      ∃ i ∈ s.items, i.queue = cancellationQueue ∧ i.owner = owner := by
  simp only [isOwnerCancelled, List.any_eq_true, Bool.and_eq_true, beq_iff_eq]

theorem Distinct.claimable {s : WorkStore} (distinct : s.Distinct) (queue : String)
    (now : Instant) : ((s.claimable queue now).map Item.id).Nodup := by
  have hperm : ((s.claimable queue now).map Item.id).Perm
      ((s.items.filter fun i => i.queue == queue && i.isEligible now).map Item.id) :=
    (List.mergeSort_perm _ _).map Item.id
  rw [hperm.nodup_iff]
  exact distinct.sublist (List.filter_sublist.map Item.id)

/-- Touching an item changes the items of its identifier only. -/
theorem touch_items (s : WorkStore) (id : ItemId) (clock : Instant) (allowed : Item → Bool)
    (change : Item → Item) :
    (s.touch id clock allowed change).2.items = s.items.map fun i =>
      if i.id = id then { (if allowed i then change i else i) with updatedAt := clock } else i := by
  unfold touch
  cases hget : s.get? id with
  | some item => rfl
  | none =>
      have habsent : ∀ i ∈ s.items, i.id ≠ id := by
        intro i hi
        have hne := List.find?_eq_none.mp hget i hi
        simpa using hne
      symm
      simp only
      rw [List.map_congr_left (g := fun i => i) fun i hi => if_neg (habsent i hi), List.map_id']

/-- Touching an item that is there tells whether it let itself be changed. -/
theorem touch_answer {s : WorkStore} (distinct : s.Distinct) {i : Item} (hi : i ∈ s.items)
    (clock : Instant) (allowed : Item → Bool) (change : Item → Item) :
    (s.touch i.id clock allowed change).1 = .ok (allowed i) := by
  unfold touch
  cases hget : s.get? i.id with
  | none =>
      have hne := List.find?_eq_none.mp hget i hi
      simp at hne
  | some item =>
      have hid : item.id = i.id := by simpa using List.find?_some hget
      have hitem : item = i := distinct.eq (List.mem_of_find?_eq_some hget) hi hid
      rw [hitem]

/-! ## Steps -/

/-- An event that leads from one store to another. -/
structure Step (s : WorkStore) (e : WorkEvent) (t : WorkStore) : Prop where
  /-- No item has the identifier of whatever is created. -/
  unused : ∀ i ∈ s.items, i.id ≠ e.fresh
  responds : s.respond e.clock e.fresh e.request = some (e.answer, t)

/-- The events that lead from one store to another. -/
inductive Trace : WorkStore → List WorkEvent → WorkStore → Prop where
  | nil {s : WorkStore} : Trace s [] s
  | cons {s t u : WorkStore} {e : WorkEvent} {rest : List WorkEvent} :
      s.Step e t → Trace t rest u → Trace s (e :: rest) u

/-- The identifier that counts the items, for whatever is created next. -/
def nextId (s : WorkStore) : ItemId := ⟨.ofNat s.items.length⟩

/-- The answer to a request at noon, unless an item has the identifier that counts the items. -/
def respondAtNoon (s : WorkStore) (request : WorkRequest) : Option (request.Answer × WorkStore) :=
  if s.items.all fun i => i.id ≠ s.nextId then s.respond .noon s.nextId request else none

theorem step_of_respondAtNoon {s t : WorkStore} {request : WorkRequest} {answer : request.Answer}
    (h : s.respondAtNoon request = some (answer, t)) :
    s.Step ⟨.noon, s.nextId, request, answer⟩ t := by
  obtain ⟨hunused, hresponds⟩ := Option.ite_none_right_eq_some.mp h
  refine ⟨?_, hresponds⟩
  intro i hi
  simpa using List.all_eq_true.mp hunused i hi

/-- A claim hands out what it leases: the first claimable items of its queue. -/
theorem Step.handedOut_eq {s t : WorkStore} {e : WorkEvent} (step : s.Step e t) {queue : String}
    {now : Instant} {lease : Span} {batch : Nat} {claimer : String}
    (hrequest : e.request = .claimDue queue now lease batch claimer) :
    ∃ leaseEnd, now.plus? lease.asDelay = some leaseEnd ∧
      e.handedOut = ((s.claimable queue now).take batch).map (leased claimer leaseEnd now) ∧
      t = (s.claimUntil queue now leaseEnd batch claimer).2 := by
  obtain ⟨clock, fresh, request, answer⟩ := e
  obtain rfl : request = _ := hrequest
  have hresponds := step.responds
  simp only [respond, claim, Option.map_map, Option.map_eq_some_iff, Function.comp_apply,
    Prod.mk.injEq] at hresponds
  obtain ⟨leaseEnd, hend, hanswer, hstore⟩ := hresponds
  subst hanswer
  exact ⟨leaseEnd, hend, rfl, hstore.symm⟩

/-- Only claims hand items out. -/
theorem Step.claim_of_mem {e : WorkEvent} {i : Item} (h : i ∈ e.handedOut) :
    ∃ queue now lease batch claimer, e.request = .claimDue queue now lease batch claimer := by
  obtain ⟨clock, fresh, request, answer⟩ := e
  cases request with
  | claimDue queue now lease batch claimer => exact ⟨queue, now, lease, batch, claimer, rfl⟩
  | _ => simp [WorkEvent.handedOut] at h

/-- What a claim hands out was eligible and is leased now. -/
theorem Step.of_mem_handedOut {s t : WorkStore} {e : WorkEvent} (step : s.Step e t)
    {queue : String} {now : Instant} {lease : Span} {batch : Nat} {claimer : String}
    (hrequest : e.request = .claimDue queue now lease batch claimer) {i : Item}
    (h : i ∈ e.handedOut) :
    ∃ leaseEnd, now.plus? lease.asDelay = some leaseEnd ∧ ∃ j ∈ s.items, j.queue = queue ∧
      j.isEligible now = true ∧ i = leased claimer leaseEnd now j := by
  obtain ⟨leaseEnd, hend, hout, -⟩ := step.handedOut_eq hrequest
  rw [hout] at h
  obtain ⟨j, hj, rfl⟩ := List.mem_map.mp h
  obtain ⟨hmem, hqueue, heligible⟩ := mem_claimable.mp (List.mem_of_mem_take hj)
  exact ⟨leaseEnd, hend, j, hmem, hqueue, heligible, rfl⟩

private theorem Step.items_of_claim {s t : WorkStore} {e : WorkEvent} (step : s.Step e t)
    (distinct : s.Distinct) {queue : String} {now : Instant} {lease : Span} {batch : Nat}
    {claimer : String} (hrequest : e.request = .claimDue queue now lease batch claimer) :
    ∃ change : Item → Item, t.items = s.items.map change ∧
      ∀ i ∈ s.items, e.Change i (change i) := by
  obtain ⟨leaseEnd, hend, hout, rfl⟩ := step.handedOut_eq hrequest
  refine ⟨_, rfl, ?_⟩
  intro i hi
  split
  · rename_i htaken
    obtain ⟨j, hj, hid⟩ := List.any_eq_true.mp htaken
    obtain ⟨hmem, hqueue, heligible⟩ := mem_claimable.mp (List.mem_of_mem_take hj)
    obtain rfl : j = i := distinct.eq hmem hi (by simpa using hid)
    exact .leased hrequest hend hqueue heligible (by rw [hout]; exact List.mem_map_of_mem hj)
  · exact .kept

private theorem Step.items_of_settle {s t : WorkStore} {e : WorkEvent} (step : s.Step e t)
    (distinct : s.Distinct) {id : ItemId} {claimer : String} {settlement : Settlement}
    (hrequest : e.request = .settle id claimer settlement) :
    ∃ change : Item → Item, t.items = s.items.map change ∧
      ∀ i ∈ s.items, e.Change i (change i) := by
  obtain ⟨clock, fresh, request, answer⟩ := e
  obtain rfl : request = _ := hrequest
  have hresponds : s.settle id claimer settlement clock = (answer, t) :=
    Option.some.inj step.responds
  have hitems := touch_items s id clock (fun i => i.accepts claimer) settlement.apply
  rw [← settle, hresponds] at hitems
  refine ⟨_, hitems, ?_⟩
  intro i hi
  simp only
  by_cases hid : i.id = id
  · subst hid
    have hanswer : answer = .ok (i.accepts claimer) :=
      (congrArg Prod.fst hresponds).symm.trans (touch_answer distinct hi clock _ _)
    subst hanswer
    rw [if_pos rfl]
    cases haccepts : i.accepts claimer with
    | true => exact .settled rfl rfl haccepts
    | false => exact .refused (.inl ⟨claimer, settlement, rfl⟩) rfl
  · rw [if_neg hid]
    exact .kept

private theorem Step.items_of_cancel {s t : WorkStore} {e : WorkEvent} (step : s.Step e t)
    (distinct : s.Distinct) {id : ItemId} (hrequest : e.request = .cancel id) :
    ∃ change : Item → Item, t.items = s.items.map change ∧
      ∀ i ∈ s.items, e.Change i (change i) := by
  obtain ⟨clock, fresh, request, answer⟩ := e
  obtain rfl : request = _ := hrequest
  have hresponds : s.cancel id clock = (answer, t) := Option.some.inj step.responds
  have hitems := touch_items s id clock (fun i => !i.status.isTerminal) fun i =>
    { i.unclaimed with status := .cancelled }
  rw [← cancel, hresponds] at hitems
  refine ⟨_, hitems, ?_⟩
  intro i hi
  simp only
  by_cases hid : i.id = id
  · subst hid
    have hanswer : answer = .ok (!i.status.isTerminal) :=
      (congrArg Prod.fst hresponds).symm.trans (touch_answer distinct hi clock _ _)
    subst hanswer
    rw [if_pos rfl]
    cases hterminal : i.status.isTerminal with
    | true => exact .refused (.inr rfl) rfl
    | false => exact .cancelled rfl rfl hterminal
  · rw [if_neg hid]
    exact .kept

/-- **What an event does.** It changes the items that are there, each in one of the ways of
`WorkEvent.Change`, and adds what it creates. -/
theorem Step.items {s t : WorkStore} {e : WorkEvent} (step : s.Step e t) (distinct : s.Distinct) :
    ∃ change : Item → Item, t.items = s.items.map change ++ e.created ∧
      ∀ i ∈ s.items, e.Change i (change i) := by
  have hkept (t : WorkStore) (h : t.items = s.items ++ e.created) :
      ∃ change : Item → Item, t.items = s.items.map change ++ e.created ∧
        ∀ i ∈ s.items, e.Change i (change i) :=
    ⟨id, by rw [List.map_id, h], fun _ _ => .kept⟩
  have hcreated (h : e.created = []) {change : Item → Item} (hitems : t.items = s.items.map change)
      (hchange : ∀ i ∈ s.items, e.Change i (change i)) :
      ∃ change : Item → Item, t.items = s.items.map change ++ e.created ∧
        ∀ i ∈ s.items, e.Change i (change i) :=
    ⟨change, by rw [h, List.append_nil, hitems], hchange⟩
  have hresponds := step.responds
  cases hrequest : e.request with
  | claimDue =>
      obtain ⟨change, hitems, hchange⟩ := step.items_of_claim distinct hrequest
      exact hcreated (by obtain ⟨_, _, _, _⟩ := e; cases hrequest; rfl) hitems hchange
  | settle =>
      obtain ⟨change, hitems, hchange⟩ := step.items_of_settle distinct hrequest
      exact hcreated (by obtain ⟨_, _, _, _⟩ := e; cases hrequest; rfl) hitems hchange
  | cancel =>
      obtain ⟨change, hitems, hchange⟩ := step.items_of_cancel distinct hrequest
      exact hcreated (by obtain ⟨_, _, _, _⟩ := e; cases hrequest; rfl) hitems hchange
  | cancelPending queue owner now =>
      obtain ⟨clock, fresh, request, answer⟩ := e
      obtain rfl : request = _ := hrequest
      obtain ⟨-, rfl⟩ := Prod.mk.inj (Option.some.inj hresponds)
      refine hcreated rfl rfl ?_
      intro i hi
      split
      · rename_i hwaits
        exact .withdrawn rfl hwaits
      · exact .kept
  | _ =>
      obtain ⟨clock, fresh, request, answer⟩ := e
      obtain rfl : request = _ := hrequest
      obtain ⟨-, rfl⟩ := Prod.mk.inj (Option.some.inj hresponds)
      exact hkept _ (by simp [WorkEvent.created, enqueue, markOwnerCancelled])

/-- Every item of a store is found again after an event, changed as `WorkEvent.Change` says. -/
theorem Step.exists_of_mem {s t : WorkStore} {e : WorkEvent} (step : s.Step e t)
    (distinct : s.Distinct) {i : Item} (h : i ∈ s.items) : ∃ j ∈ t.items, e.Change i j := by
  obtain ⟨change, hitems, hchange⟩ := step.items distinct
  refine ⟨change i, ?_, hchange i h⟩
  rw [hitems]
  exact List.mem_append_left _ (List.mem_map_of_mem h)

/-- Every item after an event was there before or is created by it. -/
theorem Step.of_mem {s t : WorkStore} {e : WorkEvent} (step : s.Step e t) (distinct : s.Distinct)
    {j : Item} (h : j ∈ t.items) : (∃ i ∈ s.items, e.Change i j) ∨ j ∈ e.created := by
  obtain ⟨change, hitems, hchange⟩ := step.items distinct
  rw [hitems] at h
  rcases List.mem_append.mp h with hmem | hmem
  · obtain ⟨i, hi, rfl⟩ := List.mem_map.mp hmem
    exact .inl ⟨i, hi, hchange i hi⟩
  · exact .inr hmem

theorem Step.distinct {s t : WorkStore} {e : WorkEvent} (step : s.Step e t)
    (distinct : s.Distinct) : t.Distinct := by
  obtain ⟨change, hitems, hchange⟩ := step.items distinct
  have hids : (s.items.map change).map Item.id = s.items.map Item.id := by
    rw [List.map_map]
    exact List.map_congr_left fun i hi => (hchange i hi).id_eq
  unfold Distinct
  rw [hitems, List.map_append, hids, List.nodup_append]
  refine ⟨distinct, ?_, ?_⟩
  · have hlength := e.length_created_le
    rw [List.nodup_iff_pairwise_ne]
    match hcreated : e.created with
    | [] => simp
    | [i] => simp
    | _ :: _ :: _ =>
        rw [hcreated] at hlength
        simp at hlength
  · intro a ha b hb
    obtain ⟨i, hi, rfl⟩ := List.mem_map.mp ha
    obtain ⟨j, hj, rfl⟩ := List.mem_map.mp hb
    rw [WorkEvent.fresh_of_mem_created hj]
    exact step.unused i hi

theorem Step.nodup_handedOut {s t : WorkStore} {e : WorkEvent} (step : s.Step e t)
    (distinct : s.Distinct) : (e.handedOut.map Item.id).Nodup := by
  rcases hout : e.handedOut with _ | ⟨i, rest⟩
  · exact List.nodup_nil
  · obtain ⟨queue, now, lease, batch, claimer, hrequest⟩ := Step.claim_of_mem (e := e) (i := i)
      (by rw [hout]; exact List.mem_cons_self)
    obtain ⟨leaseEnd, -, htaken, -⟩ := step.handedOut_eq hrequest
    have hids : (e.handedOut.map Item.id) =
        ((s.claimable queue now).map Item.id).take batch := by
      rw [htaken, List.map_map, ← List.map_take]
      rfl
    rw [← hout, hids]
    exact (distinct.claimable queue now).sublist (List.take_sublist _ _)

/-! ## Runs -/

theorem Trace.append_iff {s u : WorkStore} {before after : List WorkEvent} :
    s.Trace (before ++ after) u ↔ ∃ t, s.Trace before t ∧ t.Trace after u := by
  constructor
  · intro h
    induction before generalizing s with
    | nil => exact ⟨s, .nil, h⟩
    | cons e rest ih =>
        cases h with
        | cons step run =>
            obtain ⟨t, hbefore, hafter⟩ := ih run
            exact ⟨t, .cons step hbefore, hafter⟩
  · intro h
    obtain ⟨t, hbefore, hafter⟩ := h
    induction hbefore with
    | nil => exact hafter
    | cons step _ ih => exact .cons step (ih hafter)

theorem Trace.cons_iff {s u : WorkStore} {e : WorkEvent} {rest : List WorkEvent} :
    s.Trace (e :: rest) u ↔ ∃ t, s.Step e t ∧ t.Trace rest u := by
  constructor
  · intro h
    cases h with
    | cons step run => exact ⟨_, step, run⟩
  · intro h
    obtain ⟨t, step, run⟩ := h
    exact .cons step run

theorem Trace.distinct {s t : WorkStore} {events : List WorkEvent} (run : s.Trace events t)
    (distinct : s.Distinct) : t.Distinct := by
  induction run with
  | nil => exact distinct
  | cons step _ ih => exact ih (step.distinct distinct)

/-- An item stays in every run, on its queue and with its owner. -/
theorem Trace.exists_of_mem {s t : WorkStore} {events : List WorkEvent} (run : s.Trace events t)
    (distinct : s.Distinct) {i : Item} (hi : i ∈ s.items) :
    ∃ j ∈ t.items, j.id = i.id ∧ j.queue = i.queue ∧ j.owner = i.owner := by
  induction run generalizing i with
  | nil => exact ⟨i, hi, rfl, rfl, rfl⟩
  | cons step _ ih =>
      obtain ⟨j, hj, hchange⟩ := step.exists_of_mem distinct hi
      obtain ⟨hqueue, howner, -⟩ := hchange.frame
      obtain ⟨k, hk, hid, hsamequeue, hsameowner⟩ := ih (step.distinct distinct) hj
      exact ⟨k, hk, hid.trans hchange.id_eq, hsamequeue.trans hqueue, hsameowner.trans howner⟩

private theorem Trace.keeps_from {inv : List WorkEvent → WorkStore → Prop} {s t : WorkStore}
    {events : List WorkEvent} (run : s.Trace events t) (distinct : s.Distinct)
    (hstep : ∀ before s e t, s.Distinct → inv before s → s.Step e t → inv (before ++ [e]) t)
    (before : List WorkEvent) (hbefore : inv before s) : inv (before ++ events) t := by
  induction run generalizing before with
  | nil =>
      rw [List.append_nil]
      exact hbefore
  | cons step _ ih =>
      have hnext := hstep before _ _ _ distinct hbefore step
      have hrest := ih (step.distinct distinct) _ hnext
      rwa [List.append_assoc] at hrest

/-- What every event keeps of the events so far and the store holds after every run. -/
theorem Trace.keeps (inv : List WorkEvent → WorkStore → Prop) {s t : WorkStore}
    {events : List WorkEvent} (run : s.Trace events t) (distinct : s.Distinct)
    (hstep : ∀ before s e t, s.Distinct → inv before s → s.Step e t → inv (before ++ [e]) t)
    (hstart : inv [] s) : inv events t :=
  run.keeps_from distinct hstep [] hstart

end WorkStore

end Dunning
