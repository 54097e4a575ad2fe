import Dunning.Proofs.Work.ClaimFields

/-!
# The life of an item and the fencing of its claims

A store answers a settlement from the fields of the item. What those fields mean is a matter of the
events so far: the holder is the claimer of the last claim that handed the item out, if no settlement
or withdrawal counted since, and the number of failed invocations is the number of failures that
counted. `Accounted` states that the fields say what the events did, and every event keeps it.

## Main definitions

* `WorkEvent.EndsClaim`, `WorkEvent.fails` — what ends a claim and what counts as a failure.
* `HoldsClaim`, `failures` — the holder and the failures of an item, read off the events.
* `WorkStore.Accounted` — the fields agree with the events.

## Main results

* `WorkStore.Accounted.step` — one event keeps the agreement.
* `WorkStore.settles_for_the_holder` — answers, refusals, ended items and failures in every run.
-/

namespace Dunning

/-- Whether a settlement counts as a failed invocation. -/
def Settlement.isFailure : Settlement → Bool
  | .recordFailure .. => true
  | .deadLetter _ => true
  | .complete => false
  | .release => false
  | .reschedule _ => false

theorem Settlement.attempts_apply (settlement : Settlement) (i : Item) :
    (settlement.apply i).attempts =
      i.attempts + if settlement.isFailure = true then 1 else 0 := by
  cases settlement <;> simp [apply, write, Item.unclaimed, isFailure]

namespace WorkEvent

/-- Whether an event is a settlement or a withdrawal of an item, and counts. -/
def EndsClaim (e : WorkEvent) (id : ItemId) : Prop := e.Addresses id ∧ e.verdict? = some true

/-- Whether an event records a failed invocation of an item, and counts. -/
def fails (id : ItemId) : WorkEvent → Bool
  | ⟨_, _, .settle named _ settlement, .ok counted⟩ => named == id && settlement.isFailure && counted
  | _ => false

theorem endsClaim_of_fails {e : WorkEvent} {id : ItemId} (h : e.fails id = true) :
    e.EndsClaim id := by
  unfold fails at h
  split at h
  · rename_i named claimer settlement counted
    simp only [Bool.and_eq_true, beq_iff_eq] at h
    obtain ⟨⟨rfl, -⟩, rfl⟩ := h
    exact ⟨.inl ⟨claimer, settlement, rfl⟩, rfl⟩
  · cases h

theorem fails_eq_false {e : WorkEvent} {id : ItemId} (h : ¬ e.EndsClaim id) :
    e.fails id = false := by
  rw [← Bool.not_eq_true]
  intro hfails
  exact h (endsClaim_of_fails hfails)

theorem fields_of_mem_created {e : WorkEvent} {i : Item} (h : i ∈ e.created) :
    i.claimedBy = none ∧ i.attempts = 0 := by
  obtain ⟨clock, fresh, request, answer⟩ := e
  cases request with
  | enqueue =>
      obtain rfl := List.mem_singleton.mp h
      exact ⟨rfl, rfl⟩
  | markOwnerCancelled =>
      obtain rfl := List.mem_singleton.mp h
      exact ⟨rfl, rfl⟩
  | _ => cases h

/-- An event that does not end the claim of an item leaves its failures alone. -/
theorem Change.attempts_eq {e : WorkEvent} {i j : Item} (h : e.Change i j)
    (hends : ¬ e.EndsClaim i.id) : j.attempts = i.attempts := by
  cases h with
  | settled hrequest hverdict => exact absurd ⟨.inl ⟨_, _, hrequest⟩, hverdict⟩ hends
  | _ => rfl

/-- An item that an event neither hands out nor takes from its holder keeps him, or it ends. -/
theorem Change.claimedBy_eq {e : WorkEvent} {i j : Item} (h : e.Change i j)
    (hout : i.id ∉ e.handedOut.map Item.id) (hends : ¬ e.EndsClaim i.id)
    (hlive : j.status.isTerminal = false) :
    i.status.isTerminal = false ∧ j.claimedBy = i.claimedBy := by
  cases h with
  | kept => exact ⟨hlive, rfl⟩
  | refused => exact ⟨hlive, rfl⟩
  | leased _ _ _ _ hmem => exact absurd (List.mem_map_of_mem hmem) hout
  | settled hrequest hverdict => exact absurd ⟨.inl ⟨_, _, hrequest⟩, hverdict⟩ hends
  | cancelled => cases hlive
  | withdrawn => cases hlive

/-- Of an item that has ended, an event changes at most the time of its last touch. -/
theorem Change.eq_of_isTerminal {e : WorkEvent} {i j : Item} (h : e.Change i j)
    (hterminal : i.status.isTerminal = true) : ∃ moment, j = { i with updatedAt := moment } := by
  have hended : i.status ≠ .available := by
    intro havailable
    rw [havailable] at hterminal
    cases hterminal
  cases h with
  | kept => exact ⟨i.updatedAt, rfl⟩
  | refused => exact ⟨e.clock, rfl⟩
  | leased _ _ _ heligible =>
      simp only [Item.isEligible, Bool.and_eq_true, beq_iff_eq] at heligible
      exact absurd heligible.1.1 hended
  | settled _ _ haccepts =>
      rw [Item.accepts, hterminal] at haccepts
      cases haccepts
  | cancelled _ _ hlive =>
      rw [hterminal] at hlive
      cases hlive
  | withdrawn _ hwaits =>
      simp only [WorkStore.waits, Bool.and_eq_true, beq_iff_eq] at hwaits
      exact absurd hwaits.1.1.2 hended

end WorkEvent

/-! ## What the events say -/

/-- Whether the last claim that handed an item out was a claimer's, and no settlement or withdrawal of
the item counted since. -/
def HoldsClaim (events : List WorkEvent) (id : ItemId) (claimer : String) : Prop :=
  ∃ before claim after now lease, events = before ++ claim :: after ∧
    claim.HandsOut id now lease claimer ∧
    ∀ e ∈ after, id ∉ e.handedOut.map Item.id ∧ ¬ e.EndsClaim id

/-- How many failed invocations of an item were recorded. -/
def failures (events : List WorkEvent) (id : ItemId) : Nat := events.countP (WorkEvent.fails id)

theorem not_holdsClaim_nil (id : ItemId) (claimer : String) : ¬ HoldsClaim [] id claimer := by
  rintro ⟨before, claim, after, now, lease, hevents, -⟩
  simp at hevents

/-- The last event hands the item out to its holder, or leaves the holder what he was. -/
theorem holdsClaim_concat_iff {events : List WorkEvent} {e : WorkEvent} {id : ItemId}
    {claimer : String} :
    HoldsClaim (events ++ [e]) id claimer ↔
      (∃ now lease, e.HandsOut id now lease claimer) ∨
        (id ∉ e.handedOut.map Item.id ∧ ¬ e.EndsClaim id ∧ HoldsClaim events id claimer) := by
  constructor
  · rintro ⟨before, claim, after, now, lease, hevents, hclaim, hafter⟩
    rcases List.eq_nil_or_concat after with rfl | ⟨rest, last, rfl⟩
    · obtain ⟨-, rfl⟩ := List.append_singleton_inj.mp hevents
      exact .inl ⟨now, lease, hclaim⟩
    · rw [List.concat_eq_append, ← List.cons_append, ← List.append_assoc] at hevents
      obtain ⟨rfl, rfl⟩ := List.append_singleton_inj.mp hevents
      obtain ⟨hout, hends⟩ := hafter e (by simp)
      refine .inr ⟨hout, hends, before, claim, rest, now, lease, rfl, hclaim, ?_⟩
      intro other hother
      exact hafter other (by simp [hother])
  · rintro (⟨now, lease, hclaim⟩ | ⟨hout, hends, before, claim, after, now, lease, rfl, hclaim, hafter⟩)
    · exact ⟨events, e, [], now, lease, rfl, hclaim, by simp⟩
    · refine ⟨before, claim, after ++ [e], now, lease, by simp, hclaim, ?_⟩
      intro other hother
      rcases List.mem_append.mp hother with hmem | hmem
      · exact hafter other hmem
      · obtain rfl := List.mem_singleton.mp hmem
        exact ⟨hout, hends⟩

/-- The claimer to whom the last event hands the item out is its holder. -/
theorem holdsClaim_concat_of_handsOut {events : List WorkEvent} {e : WorkEvent} {id : ItemId}
    {now : Instant} {lease : Span} {holder : String} (h : e.HandsOut id now lease holder)
    (claimer : String) : HoldsClaim (events ++ [e]) id claimer ↔ holder = claimer := by
  obtain ⟨hout, queue, batch, hrequest⟩ := h
  rw [holdsClaim_concat_iff]
  constructor
  · rintro (⟨now', lease', -, queue', batch', hrequest'⟩ | ⟨hnot, -⟩)
    · rw [hrequest] at hrequest'
      cases hrequest'
      rfl
    · exact absurd hout hnot
  · rintro rfl
    exact .inl ⟨now, lease, hout, queue, batch, hrequest⟩

/-- An event that ends the claim leaves no holder. -/
theorem not_holdsClaim_concat {events : List WorkEvent} {e : WorkEvent} {id : ItemId}
    (hout : id ∉ e.handedOut.map Item.id) (hends : e.EndsClaim id) (claimer : String) :
    ¬ HoldsClaim (events ++ [e]) id claimer := by
  rw [holdsClaim_concat_iff]
  rintro (⟨now, lease, hclaim⟩ | ⟨-, hnot, -⟩)
  · exact hout hclaim.1
  · exact hnot hends

/-- Any other event leaves the holder. -/
theorem holdsClaim_concat_of_not {events : List WorkEvent} {e : WorkEvent} {id : ItemId}
    (hout : id ∉ e.handedOut.map Item.id) (hends : ¬ e.EndsClaim id) (claimer : String) :
    HoldsClaim (events ++ [e]) id claimer ↔ HoldsClaim events id claimer := by
  rw [holdsClaim_concat_iff]
  constructor
  · rintro (⟨now, lease, hclaim⟩ | ⟨-, -, hholds⟩)
    · exact absurd hclaim.1 hout
    · exact hholds
  · intro hholds
    exact .inr ⟨hout, hends, hholds⟩

theorem failures_concat (events : List WorkEvent) (e : WorkEvent) (id : ItemId) :
    failures (events ++ [e]) id = failures events id + if e.fails id = true then 1 else 0 := by
  rw [failures, List.countP_append, List.countP_singleton]
  rfl

namespace WorkStore

theorem Distinct.get?_eq {s : WorkStore} (distinct : s.Distinct) {i : Item} (hi : i ∈ s.items) :
    s.get? i.id = some i := by
  cases hget : s.get? i.id with
  | none =>
      have hne := List.find?_eq_none.mp hget i hi
      simp at hne
  | some found =>
      have hid : found.id = i.id := by simpa using List.find?_some hget
      rw [distinct.eq (List.mem_of_find?_eq_some hget) hi hid]

/-- A change of items that leaves them their names is seen when they are looked up. -/
theorem get?_map (s : WorkStore) {change : Item → Item} (h : ∀ i, (change i).id = i.id)
    (id : ItemId) : (⟨s.items.map change⟩ : WorkStore).get? id = (s.get? id).map change := by
  simp only [get?, List.find?_map, Function.comp_def, h]

/-! ## Settlements and withdrawals -/

theorem touch_unknown {s : WorkStore} {id : ItemId} (h : ∀ i ∈ s.items, i.id ≠ id) (clock : Instant)
    (allowed : Item → Bool) (change : Item → Item) :
    s.touch id clock allowed change = (.error (unknownItem id), s) := by
  have hget : s.get? id = none := by
    refine List.find?_eq_none.mpr ?_
    intro i hi
    simpa using h i hi
  rw [touch, hget]

/-- A touch that does not count leaves at most its time behind. -/
theorem touch_refused {s : WorkStore} (distinct : s.Distinct) {id : ItemId} {clock : Instant}
    {allowed : Item → Bool} {change : Item → Item}
    (h : (s.touch id clock allowed change).1 ≠ .ok true) :
    (s.touch id clock allowed change).2.items =
      s.items.map fun i => if i.id = id then { i with updatedAt := clock } else i := by
  rw [touch_items]
  refine List.map_congr_left ?_
  intro i hi
  split
  · rename_i hid
    subst hid
    rw [touch_answer distinct hi] at h
    have hrefused : allowed i = false := by simpa using h
    rw [hrefused]
    rfl
  · rfl

/-- A touch that counts makes of its item what it is to write. -/
theorem eq_of_touched {s : WorkStore} (distinct : s.Distinct) {i j : Item} (hi : i ∈ s.items)
    {clock : Instant} {allowed : Item → Bool} {change : Item → Item}
    (hanswer : (s.touch i.id clock allowed change).1 = .ok true)
    (hj : j ∈ (s.touch i.id clock allowed change).2.items) (hid : j.id = i.id) :
    j = { change i with updatedAt := clock } := by
  have hallowed : allowed i = true := by
    rw [touch_answer distinct hi] at hanswer
    exact Except.ok.inj hanswer
  rw [touch_items] at hj
  obtain ⟨other, hother, rfl⟩ := List.mem_map.mp hj
  split at hid
  · rename_i hsame
    obtain rfl : other = i := distinct.eq hother hi hsame
    rw [if_pos rfl, hallowed]
    rfl
  · rename_i hne
    exact absurd hid hne

/-- A settlement that counts was the holder's, and it makes of its item what it is to write. -/
theorem Step.settled {s t : WorkStore} (distinct : s.Distinct) {clock : Instant} {id fresh : ItemId}
    {claimer : String} {settlement : Settlement}
    (step : s.Step ⟨clock, fresh, .settle id claimer settlement, .ok true⟩ t) {i : Item}
    (hi : i ∈ s.items) (hid : i.id = id) :
    i.accepts claimer = true ∧ { settlement.apply i with updatedAt := clock } ∈ t.items := by
  subst hid
  have hresponds : s.settle i.id claimer settlement clock = (.ok true, t) :=
    Option.some.inj step.responds
  have haccepts : i.accepts claimer = true := by
    have hanswer := touch_answer distinct hi clock (fun i => i.accepts claimer) settlement.apply
    rw [← settle, hresponds] at hanswer
    exact (Except.ok.inj hanswer).symm
  refine ⟨haccepts, ?_⟩
  have hitems := touch_items s i.id clock (fun i => i.accepts claimer) settlement.apply
  rw [← settle, hresponds] at hitems
  rw [show t.items = _ from hitems]
  refine List.mem_map.mpr ⟨i, hi, ?_⟩
  rw [if_pos rfl, if_pos haccepts]

/-- What ends the claim of an item leaves it without one and counts its own failure. -/
theorem Step.ended {s t : WorkStore} {e : WorkEvent} (step : s.Step e t) (distinct : s.Distinct)
    {i j : Item} (hi : i ∈ s.items) (hj : j ∈ t.items) (hid : j.id = i.id)
    (hends : e.EndsClaim i.id) :
    j.claimedBy = none ∧ j.attempts = i.attempts + if e.fails i.id = true then 1 else 0 := by
  obtain ⟨clock, fresh, request, answer⟩ := e
  obtain ⟨haddresses, hverdict⟩ := hends
  rcases haddresses with ⟨claimer, settlement, hrequest⟩ | hrequest
  · obtain rfl : request = _ := hrequest
    have hresponds : s.settle i.id claimer settlement clock = (answer, t) :=
      Option.some.inj step.responds
    obtain rfl : answer = .ok true := by
      cases answer with
      | error => cases hverdict
      | ok => exact congrArg _ (Option.some.inj hverdict)
    rw [settle] at hresponds
    obtain rfl := eq_of_touched distinct hi (by rw [hresponds]) (by rw [hresponds]; exact hj) hid
    refine ⟨rfl, (settlement.attempts_apply i).trans ?_⟩
    simp [WorkEvent.fails]
  · obtain rfl : request = _ := hrequest
    have hresponds : s.cancel i.id clock = (answer, t) := Option.some.inj step.responds
    obtain rfl : answer = .ok true := by
      cases answer with
      | error => cases hverdict
      | ok => exact congrArg _ (Option.some.inj hverdict)
    rw [cancel] at hresponds
    obtain rfl := eq_of_touched distinct hi (by rw [hresponds]) (by rw [hresponds]; exact hj) hid
    refine ⟨rfl, ?_⟩
    simp [WorkEvent.fails, Item.unclaimed]

/-! ## Fields and events -/

/-- The holder and the failures of every item are those of the events so far, and nothing has happened
to an identifier that no item has. -/
structure Accounted (events : List WorkEvent) (s : WorkStore) : Prop where
  holder : ∀ i ∈ s.items, i.status.isTerminal = false → ∀ claimer,
    i.claimedBy = some claimer ↔ HoldsClaim events i.id claimer
  attempts : ∀ i ∈ s.items, i.attempts = UInt32.ofNat (failures events i.id)
  unknown : ∀ id, (∀ i ∈ s.items, i.id ≠ id) →
    failures events id = 0 ∧ ∀ claimer, ¬ HoldsClaim events id claimer

theorem accounted_empty : Accounted [] {} where
  holder _ hi := nomatch hi
  attempts _ hi := nomatch hi
  unknown id _ := ⟨rfl, not_holdsClaim_nil id⟩

/-- Nothing happens to an identifier that no item has. -/
theorem Step.untouched {s t : WorkStore} {e : WorkEvent} (step : s.Step e t) {id : ItemId}
    (h : ∀ i ∈ s.items, i.id ≠ id) : id ∉ e.handedOut.map Item.id ∧ ¬ e.EndsClaim id := by
  constructor
  · intro hout
    obtain ⟨i, hi, rfl⟩ := List.mem_map.mp hout
    obtain ⟨queue, now, lease, batch, claimer, hrequest⟩ := Step.claim_of_mem hi
    obtain ⟨leaseEnd, -, j, hj, -, -, rfl⟩ := step.of_mem_handedOut hrequest hi
    exact h j hj rfl
  · rintro ⟨haddresses, hverdict⟩
    obtain ⟨clock, fresh, request, answer⟩ := e
    rcases haddresses with ⟨claimer, settlement, hrequest⟩ | hrequest
    · obtain rfl : request = _ := hrequest
      have hresponds : s.settle id claimer settlement clock = (answer, t) :=
        Option.some.inj step.responds
      rw [settle, touch_unknown h] at hresponds
      obtain ⟨rfl, -⟩ := Prod.mk.inj hresponds
      cases hverdict
    · obtain rfl : request = _ := hrequest
      have hresponds : s.cancel id clock = (answer, t) := Option.some.inj step.responds
      rw [cancel, touch_unknown h] at hresponds
      obtain ⟨rfl, -⟩ := Prod.mk.inj hresponds
      cases hverdict

/-- A new item has no holder and no failures, as is right for an identifier that is new. -/
private theorem Accounted.created {s t : WorkStore} {e : WorkEvent} {events : List WorkEvent}
    (accounted : Accounted events s) (step : s.Step e t) {i : Item} (hi : i ∈ e.created) :
    (∀ claimer, i.claimedBy = some claimer ↔ HoldsClaim (events ++ [e]) i.id claimer) ∧
      i.attempts = UInt32.ofNat (failures (events ++ [e]) i.id) := by
  have hunused : ∀ j ∈ s.items, j.id ≠ i.id := by
    rw [WorkEvent.fresh_of_mem_created hi]
    exact step.unused
  obtain ⟨hout, hends⟩ := step.untouched hunused
  obtain ⟨hnone, hfree⟩ := accounted.unknown i.id hunused
  obtain ⟨hclaimed, hattempts⟩ := WorkEvent.fields_of_mem_created hi
  constructor
  · intro claimer
    rw [hclaimed, holdsClaim_concat_of_not hout hends]
    constructor
    · intro h
      cases h
    · intro hholds
      exact absurd hholds (hfree claimer)
  · rw [hattempts, failures_concat, hnone, WorkEvent.fails_eq_false hends]
    rfl

/-- The holder of an item that was there is the one of the events, whatever comes next: it is handed
out, its claim ends, or neither happens. -/
private theorem Accounted.holder_changed {s t : WorkStore} {e : WorkEvent}
    {events : List WorkEvent} (accounted : Accounted events s) (step : s.Step e t)
    (distinct : s.Distinct) {i j : Item} (hi : i ∈ s.items) (hj : j ∈ t.items)
    (hchange : e.Change i j) (hlive : j.status.isTerminal = false) (claimer : String) :
    j.claimedBy = some claimer ↔ HoldsClaim (events ++ [e]) i.id claimer := by
  by_cases hout : i.id ∈ e.handedOut.map Item.id
  · obtain ⟨k, hk, -⟩ := List.mem_map.mp hout
    obtain ⟨queue, now, lease, batch, holder, hrequest⟩ := Step.claim_of_mem hk
    have hclaim : e.HandsOut i.id now lease holder := ⟨hout, queue, batch, hrequest⟩
    obtain ⟨leaseEnd, -, hheld⟩ := step.held hclaim
    have hholder : j.claimedBy = some holder := by
      rcases hheld.held j hj hchange.id_eq with hended | ⟨hholder, -⟩
      · rw [hlive] at hended
        cases hended
      · exact hholder
    rw [hholder, holdsClaim_concat_of_handsOut hclaim, Option.some.injEq]
  · by_cases hends : e.EndsClaim i.id
    · have hnone := (step.ended distinct hi hj hchange.id_eq hends).1
      rw [hnone]
      constructor
      · intro h
        cases h
      · intro hholds
        exact absurd hholds (not_holdsClaim_concat hout hends claimer)
    · obtain ⟨hbefore, hsame⟩ := hchange.claimedBy_eq hout hends hlive
      rw [hsame, accounted.holder i hi hbefore, holdsClaim_concat_of_not hout hends]

/-- The failures of an item that was there are those of the events, whatever comes next. -/
private theorem Accounted.attempts_changed {s t : WorkStore} {e : WorkEvent}
    {events : List WorkEvent} (accounted : Accounted events s) (step : s.Step e t)
    (distinct : s.Distinct) {i j : Item} (hi : i ∈ s.items) (hj : j ∈ t.items)
    (hchange : e.Change i j) : j.attempts = UInt32.ofNat (failures (events ++ [e]) i.id) := by
  rw [failures_concat, UInt32.ofNat_add, ← accounted.attempts i hi]
  by_cases hends : e.EndsClaim i.id
  · rw [(step.ended distinct hi hj hchange.id_eq hends).2]
    split <;> rfl
  · rw [hchange.attempts_eq hends, WorkEvent.fails_eq_false hends]
    exact (UInt32.add_zero _).symm

/-- **One event keeps fields and events in agreement.** -/
theorem Accounted.step {s t : WorkStore} {e : WorkEvent} {events : List WorkEvent}
    (accounted : Accounted events s) (step : s.Step e t) (distinct : s.Distinct) :
    Accounted (events ++ [e]) t where
  holder j hj hlive := by
    rcases step.of_mem distinct hj with ⟨i, hi, hchange⟩ | hcreated
    · rw [hchange.id_eq]
      exact accounted.holder_changed step distinct hi hj hchange hlive
    · exact (accounted.created step hcreated).1
  attempts j hj := by
    rcases step.of_mem distinct hj with ⟨i, hi, hchange⟩ | hcreated
    · rw [hchange.id_eq]
      exact accounted.attempts_changed step distinct hi hj hchange
    · exact (accounted.created step hcreated).2
  unknown id hunknown := by
    have hbefore : ∀ i ∈ s.items, i.id ≠ id := by
      intro i hi
      obtain ⟨j, hj, hchange⟩ := step.exists_of_mem distinct hi
      rw [← hchange.id_eq]
      exact hunknown j hj
    obtain ⟨hout, hends⟩ := step.untouched hbefore
    obtain ⟨hnone, hfree⟩ := accounted.unknown id hbefore
    refine ⟨?_, ?_⟩
    · rw [failures_concat, hnone, WorkEvent.fails_eq_false hends]
      rfl
    · intro claimer
      rw [holdsClaim_concat_of_not hout hends]
      exact hfree claimer

/-- After every run from an empty store the fields say what the events did. -/
theorem Trace.accounted {events : List WorkEvent} {s : WorkStore}
    (run : ({} : WorkStore).Trace events s) : Accounted events s :=
  run.keeps Accounted distinct_empty
    (fun _ _ _ _ distinct accounted step => accounted.step step distinct) accounted_empty

/-- An item that has ended stays as it is, the time of its last touch apart. -/
theorem Trace.of_isTerminal {s t : WorkStore} {events : List WorkEvent} (run : s.Trace events t)
    (distinct : s.Distinct) {i : Item} (hi : i ∈ s.items) (hterminal : i.status.isTerminal = true) :
    ∃ moment, { i with updatedAt := moment } ∈ t.items := by
  induction run generalizing i with
  | nil => exact ⟨i.updatedAt, hi⟩
  | cons step _ ih =>
      obtain ⟨j, hj, hchange⟩ := step.exists_of_mem distinct hi
      obtain ⟨moment, rfl⟩ := hchange.eq_of_isTerminal hterminal
      obtain ⟨last, hlast⟩ := ih (step.distinct distinct) hj hterminal
      exact ⟨last, hlast⟩

/-- **The life of an item and the fencing of its claims.** After every run from an empty store:
a settlement is answered with an error, that the item was not found, when no item has the identifier;
otherwise it counts exactly when the item has not ended and the claimer made the last claim that
handed it out, no settlement or withdrawal having counted since. A settlement or a withdrawal that
does not count leaves every item as it is but for the time of the last touch of its own. An item
that has ended has no claim, and whatever happens later it stays as it is but for that time. And the
failed invocations of an item are those settlements for it that recorded one and counted. -/
theorem settles_for_the_holder {events : List WorkEvent} {s : WorkStore}
    (run : ({} : WorkStore).Trace events s) :
    (∀ id claimer settlement clock,
      ((s.settle id claimer settlement clock).1 = .error (unknownItem id) ↔
          ∀ i ∈ s.items, i.id ≠ id) ∧
        (∀ i ∈ s.items, i.id = id → ∃ counted,
          (s.settle id claimer settlement clock).1 = .ok counted ∧
            (counted = true ↔ i.status.isTerminal = false ∧ HoldsClaim events id claimer)) ∧
        ((s.settle id claimer settlement clock).1 ≠ .ok true →
          (s.settle id claimer settlement clock).2.items =
            s.items.map fun i => if i.id = id then { i with updatedAt := clock } else i)) ∧
      (∀ id clock, (s.cancel id clock).1 ≠ .ok true →
        (s.cancel id clock).2.items =
          s.items.map fun i => if i.id = id then { i with updatedAt := clock } else i) ∧
      (∀ i ∈ s.items, i.status.isTerminal = true →
        i.claimedBy = none ∧ i.leaseEnd = none ∧
          ∀ later t, s.Trace later t → ∃ moment, t.get? i.id = some { i with updatedAt := moment }) ∧
      ∀ i ∈ s.items, failures events i.id < 2 ^ 32 → i.attempts.toNat = failures events i.id := by
  have distinct : s.Distinct := run.distinct distinct_empty
  have accounted := run.accounted
  have sound := run.claimSound
  have hsettles (id : ItemId) (claimer : String) (settlement : Settlement) (clock : Instant) (i : Item)
      (hi : i ∈ s.items) (hid : i.id = id) :
      (s.settle id claimer settlement clock).1 = .ok (i.accepts claimer) := by
    subst hid
    exact touch_answer distinct hi clock _ _
  refine ⟨?_, ?_, ?_, ?_⟩
  · intro id claimer settlement clock
    refine ⟨⟨?_, ?_⟩, ?_, touch_refused distinct⟩
    · intro herror i hi hid
      rw [hsettles id claimer settlement clock i hi hid] at herror
      cases herror
    · intro hunknown
      exact congrArg Prod.fst (touch_unknown hunknown clock _ _)
    · intro i hi hid
      refine ⟨_, hsettles id claimer settlement clock i hi hid, ?_⟩
      subst hid
      simp only [Item.accepts, Bool.and_eq_true, Bool.not_eq_true', beq_iff_eq]
      constructor
      · rintro ⟨hlive, hholder⟩
        exact ⟨hlive, (accounted.holder i hi hlive claimer).mp hholder⟩
      · rintro ⟨hlive, hholds⟩
        exact ⟨hlive, (accounted.holder i hi hlive claimer).mpr hholds⟩
  · intro id clock
    exact touch_refused distinct
  · intro i hi hterminal
    have hclaimed := (sound i hi).ended hterminal
    refine ⟨hclaimed, (sound i hi).leaseEnd_eq_none.mpr hclaimed, ?_⟩
    intro later t laterRun
    obtain ⟨moment, hmem⟩ := laterRun.of_isTerminal distinct hi hterminal
    exact ⟨moment, (laterRun.distinct distinct).get?_eq hmem⟩
  · intro i hi hbound
    rw [accounted.attempts i hi]
    exact UInt32.toNat_ofNat_of_lt hbound

/-- After the run in which an item is leased, given back and leased again, its first holder is refused:
the claim is the second one's. -/
theorem settles_for_the_holder_noon :
    ({} : WorkStore).Trace [noonCreation, noonClaim "north", noonReturn, noonClaim "south"]
        ⟨[noonItemOf "south"]⟩ ∧
      HoldsClaim [noonCreation, noonClaim "north", noonReturn, noonClaim "south"] noonItem.id "south" ∧
      ¬ HoldsClaim [noonCreation, noonClaim "north", noonReturn, noonClaim "south"] noonItem.id
        "north" := by
  obtain ⟨hsettles, -⟩ := settles_for_the_holder trace_noon
  have hmem : noonItemOf "south" ∈ [noonItemOf "south"] := List.mem_singleton_self _
  refine ⟨trace_noon, ?_, ?_⟩
  · obtain ⟨-, hknown, -⟩ := hsettles noonItem.id "south" .complete .noon
    obtain ⟨counted, hanswer, hcounts⟩ := hknown _ hmem rfl
    have hcounted : true = counted := by
      exact Except.ok.inj (.trans (by cbv) hanswer)
    exact (hcounts.mp hcounted.symm).2
  · obtain ⟨-, hknown, -⟩ := hsettles noonItem.id "north" .complete .noon
    obtain ⟨counted, hanswer, hcounts⟩ := hknown _ hmem rfl
    have hrefused : false = counted := by
      exact Except.ok.inj (.trans (by cbv) hanswer)
    intro hholds
    subst hrefused
    exact absurd (hcounts.mpr ⟨rfl, hholds⟩) Bool.false_ne_true

end WorkStore

end Dunning
