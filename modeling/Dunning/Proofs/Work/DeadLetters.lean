import Dunning.Proofs.Work.Conservation
import Dunning.Proofs.Work.GivenUp
import Mathlib.Data.List.Dedup

/-!
# The order of dead letters

Dead letters are listed by the time of their last touch. When the clock never stands still, that time
tells which event touched an item last: the one that gave it up, or a later settlement or withdrawal
that was refused. So the list follows the last touches. It follows the order in which the items were
given up as long as nobody asks for one of them again, and a single refused call is enough to move an
item behind those that were given up after it.

## Main definitions

* `WorkEvent.touched?` — the item that a settlement or a withdrawal found.
* `lastTouched`, `deaths` — items in the order of their last touches, and in the order in which they
  were given up.
* `touchedAt` — when an item was last touched.
* `NotFoundAgain` — no settlement and no withdrawal finds an item after it was given up.

## Main results

* `WorkStore.Trace.stamped` — a dead letter shows when it was last touched.
* `WorkStore.deadLetters_eq` — a list of dead letters in the order of their times is the listing.
* `WorkStore.dead_letters_follow_last_touch` — the order of dead letters in every run.
* `WorkStore.refused_call_reorders` — a refused call changes it.
-/

namespace Dunning

namespace WorkEvent

/-- The item that a settlement or a withdrawal found, whether it counted or not. -/
def touched? : WorkEvent → Option ItemId
  | ⟨_, _, .settle id _ _, .ok _⟩ => some id
  | ⟨_, _, .cancel id, .ok _⟩ => some id
  | _ => none

theorem touched?_of_verdict {e : WorkEvent} {id : ItemId} {counted : Bool}
    (haddresses : e.Addresses id) (hverdict : e.verdict? = some counted) :
    e.touched? = some id := by
  obtain ⟨clock, fresh, request, answer⟩ := e
  rcases haddresses with ⟨claimer, settlement, hrequest⟩ | hrequest
  · obtain rfl : request = _ := hrequest
    cases answer with
    | error => cases hverdict
    | ok => rfl
  · obtain rfl : request = _ := hrequest
    cases answer with
    | error => cases hverdict
    | ok => rfl

theorem addresses_of_touched? {e : WorkEvent} {id : ItemId} (h : e.touched? = some id) :
    e.Addresses id := by
  unfold touched? at h
  split at h
  · obtain rfl := Option.some.inj h
    exact .inl ⟨_, _, rfl⟩
  · obtain rfl := Option.some.inj h
    exact .inr rfl
  · cases h

/-- An event that gives an item up has found it. -/
theorem touched?_of_givesUp {e : WorkEvent} {id : ItemId} (h : id ∈ e.givesUp.map Prod.fst) :
    e.touched? = some id := by
  rcases e.givesUp_cases with hnone | ⟨clock, fresh, given, claimer, reason, rfl⟩
  · rw [hnone] at h
    cases h
  · obtain rfl := List.mem_singleton.mp h
    rfl

/-- An item that is a dead letter after an event was there just like this, unless the event found
it. -/
theorem Change.eq_of_deadLettered {e : WorkEvent} {i j : Item} (h : e.Change i j)
    (hdead : j.status = .deadLettered) (hfound : e.touched? ≠ some i.id) : j = i := by
  cases h with
  | kept => rfl
  | refused haddresses hverdict => exact absurd (touched?_of_verdict haddresses hverdict) hfound
  | leased _ _ _ heligible =>
      simp only [Item.isEligible, Bool.and_eq_true, beq_iff_eq] at heligible
      exact absurd (heligible.1.1.symm.trans hdead) (by decide)
  | settled hrequest hverdict =>
      exact absurd (touched?_of_verdict (.inl ⟨_, _, hrequest⟩) hverdict) hfound
  | cancelled => cases hdead
  | withdrawn => cases hdead

end WorkEvent

/-! ## What the events say -/

/-- The items that were touched, in the order of their last touches. -/
def lastTouched (events : List WorkEvent) : List ItemId :=
  (events.filterMap WorkEvent.touched?).dedup

/-- The items that were given up, in this order. -/
def deaths (events : List WorkEvent) : List ItemId :=
  events.flatMap fun e => e.givesUp.map Prod.fst

/-- The time of the clock when an item was last touched. -/
def touchedAt (events : List WorkEvent) (id : ItemId) : Option Instant :=
  (events.filter fun e => e.touched? = some id).getLast?.map WorkEvent.clock

/-- Whether no settlement and no withdrawal finds an item after it was given up. -/
def NotFoundAgain (events : List WorkEvent) (id : ItemId) : Prop :=
  events.Pairwise fun a b => id ∈ a.givesUp.map Prod.fst → b.touched? ≠ some id

theorem touchedAt_append (before after : List WorkEvent) (id : ItemId) :
    touchedAt (before ++ after) id = (touchedAt after id).or (touchedAt before id) := by
  unfold touchedAt
  rw [List.filter_append, List.getLast?_append, Option.map_or]

theorem touchedAt_singleton (e : WorkEvent) (id : ItemId) :
    touchedAt [e] id = if e.touched? = some id then some e.clock else none := by
  unfold touchedAt
  by_cases h : e.touched? = some id
  · rw [if_pos h, List.filter_cons_of_pos (by simpa using h)]
    rfl
  · rw [if_neg h, List.filter_cons_of_neg (by simpa using h)]
    rfl

theorem touchedAt_eq_none {events : List WorkEvent} {id : ItemId}
    (h : ∀ e ∈ events, e.touched? ≠ some id) : touchedAt events id = none := by
  unfold touchedAt
  rw [List.filter_eq_nil_iff.mpr (by simpa using h)]
  rfl

/-- The last touch of an item is one of the events. -/
theorem exists_of_touchedAt {events : List WorkEvent} {id : ItemId} {moment : Instant}
    (h : touchedAt events id = some moment) :
    ∃ e ∈ events, e.touched? = some id ∧ e.clock = moment := by
  obtain ⟨e, hlast, hclock⟩ := Option.map_eq_some_iff.mp h
  obtain ⟨hmem, htouched⟩ := List.mem_filter.mp (List.mem_of_getLast? hlast)
  exact ⟨e, hmem, by simpa using htouched, hclock⟩

/-- An item that was touched has a time of its last touch. -/
theorem exists_touchedAt {events : List WorkEvent} {e : WorkEvent} {id : ItemId} (he : e ∈ events)
    (h : e.touched? = some id) : ∃ moment, touchedAt events id = some moment := by
  rw [← Option.isSome_iff_exists, ← Option.ne_none_iff_isSome]
  intro hnone
  have hempty := List.getLast?_eq_none_iff.mp (Option.map_eq_none_iff.mp hnone)
  have hmem : e ∈ events.filter fun e => e.touched? = some id :=
    List.mem_filter.mpr ⟨he, decide_eq_true h⟩
  rw [hempty] at hmem
  cases hmem

/-- The clock never stands still. -/
def Advances (events : List WorkEvent) : Prop := events.Pairwise fun a b => a.clock < b.clock

/-- **Last touches are in the order of their times.** -/
theorem pairwise_lastTouched {events : List WorkEvent} (clocks : Advances events) :
    (lastTouched events).Pairwise fun a b =>
      ∀ m ∈ touchedAt events a, ∀ n ∈ touchedAt events b, m < n := by
  induction events with
  | nil => exact .nil
  | cons e rest ih =>
      obtain ⟨hfirst, hrest⟩ := List.pairwise_cons.mp clocks
      have hlater : ∀ id ∈ lastTouched rest, touchedAt (e :: rest) id = touchedAt rest id := by
        intro id hid
        obtain ⟨other, hmem, htouched⟩ := List.mem_filterMap.mp (List.mem_dedup.mp hid)
        obtain ⟨moment, hmoment⟩ := exists_touchedAt hmem htouched
        rw [← List.singleton_append, touchedAt_append, hmoment]
        rfl
      have hkept := (ih hrest).imp_of_mem fun {a b} ha hb h m hm n hn =>
        h m (hlater a ha ▸ hm) n (hlater b hb ▸ hn)
      unfold lastTouched
      cases htouched : e.touched? with
      | none =>
          rw [List.filterMap_cons_none htouched]
          exact hkept
      | some id =>
          rw [List.filterMap_cons_some htouched]
          by_cases hagain : id ∈ rest.filterMap WorkEvent.touched?
          · rw [List.dedup_cons_of_mem hagain]
            exact hkept
          · rw [List.dedup_cons_of_notMem hagain]
            refine List.pairwise_cons.mpr ⟨?_, hkept⟩
            intro b hb m hm n hn
            -- The first event is the last touch of its item, and every other touch comes later.
            have hnone : touchedAt rest id = none := by
              refine touchedAt_eq_none fun other hother hsame => hagain ?_
              exact List.mem_filterMap.mpr ⟨other, hother, hsame⟩
            have hclock : touchedAt (e :: rest) id = some e.clock := by
              rw [← List.singleton_append, touchedAt_append, hnone, touchedAt_singleton,
                if_pos htouched]
              rfl
            rw [hlater b hb] at hn
            obtain ⟨other, hother, -, rfl⟩ := exists_of_touchedAt hn
            obtain rfl := Option.some.inj (hclock.symm.trans hm)
            exact hfirst other hother

/-- An item that is not found again was last touched when it was given up. -/
theorem NotFoundAgain.touchedAt_eq {events : List WorkEvent} {id : ItemId}
    (alone : NotFoundAgain events id)
    {e : WorkEvent} (he : e ∈ events) (hdeath : id ∈ e.givesUp.map Prod.fst) :
    touchedAt events id = some e.clock := by
  obtain ⟨before, after, rfl⟩ := List.append_of_mem he
  have hafter := (List.pairwise_cons.mp (List.pairwise_append.mp alone).2.1).1
  have hnone : touchedAt after id = none :=
    touchedAt_eq_none fun other hother => hafter other hother hdeath
  rw [touchedAt_append, ← List.singleton_append, touchedAt_append, hnone, touchedAt_singleton,
    if_pos (WorkEvent.touched?_of_givesUp hdeath)]
  rfl

/-- **Deaths are in the order of the last touches of items that are not found again.** -/
theorem pairwise_deaths {events : List WorkEvent} (clocks : Advances events) :
    (deaths events).Pairwise fun a b => NotFoundAgain events a → NotFoundAgain events b →
      ∀ m ∈ touchedAt events a, ∀ n ∈ touchedAt events b, m < n := by
  refine List.pairwise_flatMap.mpr ⟨?_, ?_⟩
  · intro e he
    rcases e.givesUp_cases with hnone | ⟨clock, fresh, given, claimer, reason, rfl⟩
    · rw [hnone]
      exact .nil
    · exact List.pairwise_singleton _ _
  · refine List.Pairwise.imp_of_mem ?_ clocks
    intro e other he hother hlt a ha b hb alone hbalone m hm n hn
    rw [alone.touchedAt_eq he ha] at hm
    rw [hbalone.touchedAt_eq hother hb] at hn
    obtain rfl := Option.some.inj hm
    obtain rfl := Option.some.inj hn
    exact hlt

namespace WorkStore

variable {s t : WorkStore} {e : WorkEvent} {events : List WorkEvent}

/-! ## Dead letters and their times -/

/-- What an event finds shows its time. -/
theorem Step.updatedAt_of_touched (step : s.Step e t) {j : Item} (hj : j ∈ t.items)
    (h : e.touched? = some j.id) : j.updatedAt = e.clock := by
  have htouch (allowed : Item → Bool) (change : Item → Item)
      (hstore : (s.touch j.id e.clock allowed change).2 = t) : j.updatedAt = e.clock := by
    rw [← hstore, touch_items] at hj
    obtain ⟨i, -, hi⟩ := List.mem_map.mp hj
    split at hi
    · rw [← hi]
    · rename_i hne
      exact absurd (congrArg Item.id hi) hne
  obtain ⟨clock, fresh, request, answer⟩ := e
  rcases WorkEvent.addresses_of_touched? h with ⟨claimer, settlement, hrequest⟩ | hrequest
  · obtain rfl : request = _ := hrequest
    exact htouch _ _ (congrArg Prod.snd (Option.some.inj step.responds))
  · obtain rfl : request = _ := hrequest
    exact htouch _ _ (congrArg Prod.snd (Option.some.inj step.responds))

theorem status_of_mem_created {i : Item} (h : i ∈ e.created) : i.status ≠ .deadLettered := by
  intro hdead
  have hnone := WorkEvent.givenUp?_of_mem_created h
  rw [Item.givenUp?, if_pos hdead] at hnone
  cases hnone

/-- **A dead letter shows when it was last touched.** -/
theorem Trace.stamped (run : ({} : WorkStore).Trace events s) {i : Item} (hi : i ∈ s.items)
    (hdead : i.status = .deadLettered) : touchedAt events i.id = some i.updatedAt := by
  refine run.keeps (fun events s => ∀ i ∈ s.items, i.status = .deadLettered →
    touchedAt events i.id = some i.updatedAt) distinct_empty ?_ (fun _ h => nomatch h) i hi hdead
  intro before s e t distinct stamped step j hj hdead
  rw [touchedAt_append, touchedAt_singleton]
  by_cases hfound : e.touched? = some j.id
  · rw [if_pos hfound, step.updatedAt_of_touched hj hfound]
    rfl
  · rw [if_neg hfound]
    rcases step.of_mem distinct hj with ⟨i, hi, hchange⟩ | hcreated
    · rw [hchange.id_eq] at hfound
      obtain rfl := hchange.eq_of_deadLettered hdead hfound
      exact stamped j hi hdead
    · exact absurd hdead (status_of_mem_created hcreated)

/-- The items that were given up are the dead letters. -/
theorem Trace.mem_deaths_iff (run : ({} : WorkStore).Trace events s) (id : ItemId) :
    id ∈ deaths events ↔ ∃ i ∈ s.items, i.id = id ∧ i.status = .deadLettered := by
  have hgivenUp : (s.givenUp.map Prod.fst).Perm (deaths events) := by
    refine run.keeps (fun events s => (s.givenUp.map Prod.fst).Perm (deaths events)) distinct_empty
      ?_ .rfl
    intro before s e t distinct hbefore step
    have hdeaths : deaths (before ++ [e]) = deaths before ++ e.givesUp.map Prod.fst := by
      rw [deaths, List.flatMap_append, List.flatMap_singleton]
      rfl
    have hperm := (step.givenUp_perm distinct).map Prod.fst
    rw [List.map_append] at hperm
    rw [hdeaths]
    exact hperm.trans (List.perm_append_comm.trans (hbefore.append_right _))
  rw [← hgivenUp.mem_iff]
  constructor
  · intro h
    obtain ⟨⟨given, reason⟩, hmem, rfl⟩ := List.mem_map.mp h
    obtain ⟨i, hi, hdead, hid, -⟩ := mem_givenUp.mp hmem
    exact ⟨i, hi, hid, hdead⟩
  · rintro ⟨i, hi, rfl, hdead⟩
    exact List.mem_map.mpr ⟨(i.id, i.lastError), mem_givenUp.mpr ⟨i, hi, hdead, rfl, rfl⟩, rfl⟩

/-! ## The listing -/

/-- The items of a store under some identifiers that were given up on a queue. -/
def deadAmong (s : WorkStore) (queue : String) (order : List ItemId) : List Item :=
  (order.filterMap s.get?).filter (Item.isOn queue .deadLettered)

theorem get?_eq_some_iff (distinct : s.Distinct) {id : ItemId} {i : Item} :
    s.get? id = some i ↔ i ∈ s.items ∧ i.id = id := by
  constructor
  · intro h
    exact ⟨List.mem_of_find?_eq_some h, by simpa using List.find?_some h⟩
  · rintro ⟨hi, rfl⟩
    exact distinct.get?_eq hi

/-- **The listing is the only list in the order of its times.** Whatever names all dead letters of a
queue, in the order of their times, lists them as the store does. -/
theorem deadLetters_eq (distinct : s.Distinct) {queue : String} {order : List ItemId}
    (hall : ∀ i ∈ s.items, i.isOn queue .deadLettered = true → i.id ∈ order)
    (hordered : order.Pairwise fun a b => ∀ i ∈ s.items, ∀ j ∈ s.items,
      i.isOn queue .deadLettered = true → j.isOn queue .deadLettered = true → i.id = a → j.id = b →
        i.updatedAt < j.updatedAt) (limit : Nat) :
    s.deadLetters queue limit = (s.deadAmong queue order).take limit := by
  have hsorted : (s.deadAmong queue order).Pairwise fun i j => i.updatedAt < j.updatedAt := by
    refine List.pairwise_filter.mpr (List.pairwise_filterMap.mpr (hordered.imp ?_))
    intro a b h i hi j hj hidead hjdead
    obtain ⟨hi, hid⟩ := (get?_eq_some_iff distinct).mp hi
    obtain ⟨hj, hjd⟩ := (get?_eq_some_iff distinct).mp hj
    exact h i hi j hj hidead hjdead hid hjd
  have hperm : (s.deadAmong queue order).Perm
      (s.items.filter (Item.isOn queue .deadLettered)) := by
    have hnodup : (s.deadAmong queue order).Nodup := by
      refine hsorted.imp ?_
      rintro i _ hlt rfl
      exact absurd hlt (Int.lt_irrefl _)
    refine (List.perm_ext_iff_of_nodup hnodup (distinct.of_map.filter _)).mpr ?_
    intro i
    simp only [deadAmong, List.mem_filter, List.mem_filterMap, get?_eq_some_iff distinct]
    constructor
    · rintro ⟨⟨id, -, hi, -⟩, hdead⟩
      exact ⟨hi, hdead⟩
    · rintro ⟨hi, hdead⟩
      exact ⟨⟨i.id, hall i hi hdead, hi, rfl⟩, hdead⟩
  -- Two dead letters of one time would stand in the strict order in both ways.
  have hdifferent : ∀ i ∈ s.deadAmong queue order, ∀ j ∈ s.deadAmong queue order,
      i.updatedAt = j.updatedAt → i = j := by
    have hunequal : (s.deadAmong queue order).Pairwise fun i j => i.updatedAt ≠ j.updatedAt := by
      refine hsorted.imp ?_
      intro i j hlt hsame
      rw [hsame] at hlt
      exact absurd hlt (Int.lt_irrefl _)
    have : Std.Symm fun i j : Item => i.updatedAt ≠ j.updatedAt := ⟨fun _ _ => Ne.symm⟩
    intro i hi j hj hsame
    by_contra hne
    exact hunequal.forall hi hj hne hsame
  have hlisting := (List.mergeSort_perm (s.items.filter (Item.isOn queue .deadLettered))
    fun a b => decide (a.updatedAt ≤ b.updatedAt)).trans hperm.symm
  refine congrArg (List.take limit) (List.Perm.eq_of_pairwise ?_ ?_
    (hsorted.imp fun h => decide_eq_true (Int.le_of_lt h)) hlisting)
  · intro i j hi hj hij hji
    refine hdifferent i (hlisting.mem_iff.mp hi) j hj (Instant.ext_rank ?_)
    exact Int.le_antisymm (of_decide_eq_true hij) (of_decide_eq_true hji)
  · refine List.pairwise_mergeSort ?_ ?_ _
    · intro a b c hab hbc
      exact decide_eq_true (Int.le_trans (of_decide_eq_true hab) (of_decide_eq_true hbc))
    · intro a b
      rw [Bool.or_eq_true, decide_eq_true_eq, decide_eq_true_eq]
      exact Int.le_total _ _

/-- **The order of dead letters.** After every run under a clock that never stands still, the dead
letters of a queue are listed in the order of their last touches. They are listed in the order in which
they were given up as long as no settlement or withdrawal finds one of them afterwards. A settlement or
a withdrawal that is refused leaves every item as it is, but for the time of the last touch of its
own. -/
theorem dead_letters_follow_last_touch (run : ({} : WorkStore).Trace events s)
    (clocks : Advances events) (queue : String) :
    (∀ limit, s.deadLetters queue limit = (s.deadAmong queue (lastTouched events)).take limit) ∧
      ((∀ i ∈ s.items, i.queue = queue → NotFoundAgain events i.id) → ∀ limit,
        s.deadLetters queue limit = (s.deadAmong queue (deaths events)).take limit) ∧
      (∀ id, id ∈ deaths events ↔ ∃ i ∈ s.items, i.id = id ∧ i.status = .deadLettered) ∧
      (∀ id claimer settlement clock, (s.settle id claimer settlement clock).1 ≠ .ok true →
        (s.settle id claimer settlement clock).2.items =
          s.items.map fun i => if i.id = id then { i with updatedAt := clock } else i) ∧
      ∀ id clock, (s.cancel id clock).1 ≠ .ok true →
        (s.cancel id clock).2.items =
          s.items.map fun i => if i.id = id then { i with updatedAt := clock } else i := by
  have distinct : s.Distinct := run.distinct distinct_empty
  have hstatus : ∀ i : Item, i.isOn queue .deadLettered = true →
      i.queue = queue ∧ i.status = .deadLettered := by
    intro i hi
    simpa only [Item.isOn, Bool.and_eq_true, beq_iff_eq] using hi
  have hstamped : ∀ i ∈ s.items, i.isOn queue .deadLettered = true →
      touchedAt events i.id = some i.updatedAt := fun i hi hon => run.stamped hi (hstatus i hon).2
  refine ⟨?_, ?_, run.mem_deaths_iff, fun _ _ _ _ => touch_refused distinct,
    fun _ _ => touch_refused distinct⟩
  · refine deadLetters_eq distinct ?_ ((pairwise_lastTouched clocks).imp ?_)
    · intro i hi hon
      obtain ⟨e, he, htouched, -⟩ := exists_of_touchedAt (hstamped i hi hon)
      exact List.mem_dedup.mpr (List.mem_filterMap.mpr ⟨e, he, htouched⟩)
    · rintro _ _ h i hi j hj hidead hjdead rfl rfl
      exact h _ (hstamped i hi hidead) _ (hstamped j hj hjdead)
  · intro alone
    refine deadLetters_eq distinct ?_ ((pairwise_deaths clocks).imp ?_)
    · intro i hi hon
      exact (run.mem_deaths_iff i.id).mpr ⟨i, hi, rfl, (hstatus i hon).2⟩
    · rintro _ _ h i hi j hj hidead hjdead rfl rfl
      exact h (alone i hi (hstatus i hidead).1) (alone j hj (hstatus j hjdead).1) _
        (hstamped i hi hidead) _ (hstamped j hj hjdead)

/-! ### A refused call behind two deaths -/

/-- A moment of the runs below: some seconds past noon. -/
def pastNoon (seconds : Nat) : Instant :=
  (Instant.ofNanos? (43200000000000 + seconds * 1000000000)).getD .first

/-- An item of those runs, as it is created. -/
def twinItem (seconds : Nat) : Item :=
  Item.ofNew ⟨Uuid.ofNat seconds⟩ ⟨"queue", "owner", .noon, .null⟩ (pastNoon seconds)

/-- The item under a lease of an hour. -/
def twinLeased (seconds : Nat) : Item :=
  leased "north" (pastNoon 3602) (pastNoon 2) (twinItem seconds)

/-- The item as it is given up. -/
def twinDead (seconds : Nat) (moment : Instant) : Item :=
  { (Settlement.deadLetter "broken").apply (twinLeased seconds) with updatedAt := moment }

/-- The item is created. -/
def twinCreation (seconds : Nat) : WorkEvent :=
  ⟨pastNoon seconds, ⟨Uuid.ofNat seconds⟩, .enqueue ⟨"queue", "owner", .noon, .null⟩,
    .ok ⟨Uuid.ofNat seconds⟩⟩

/-- One claim hands both items out. -/
def twinClaim : WorkEvent :=
  ⟨pastNoon 2, ⟨Uuid.ofNat 9⟩, .claimDue "queue" (pastNoon 2) (Span.ofSecs 3600) 2 "north",
    .ok [twinLeased 0, twinLeased 1]⟩

/-- The item is given up, the first one second after the claim and the other one another second
later. -/
def twinDeath (seconds : Nat) : WorkEvent :=
  ⟨pastNoon (seconds + 3), ⟨Uuid.ofNat 9⟩, .settle ⟨Uuid.ofNat seconds⟩ "north"
    (.deadLetter "broken"), .ok true⟩

/-- The first item is given up, then the other one. -/
def twinDeaths : List WorkEvent :=
  [twinCreation 0, twinCreation 1, twinClaim, twinDeath 0, twinDeath 1]

/-- The former holder of the first item completes it in vain. -/
def lateCompletion : WorkEvent :=
  ⟨pastNoon 5, ⟨Uuid.ofNat 9⟩, .settle ⟨Uuid.ofNat 0⟩ "north" .complete, .ok false⟩

theorem trace_twins : ({} : WorkStore).Trace twinDeaths
    ⟨[twinDead 0 (pastNoon 3), twinDead 1 (pastNoon 4)]⟩ := by
  refine .cons (t := ⟨[twinItem 0]⟩) ⟨by simp, rfl⟩ ?_
  refine .cons (t := ⟨[twinItem 0, twinItem 1]⟩) ⟨by simp; decide, rfl⟩ ?_
  refine .cons (t := ⟨[twinLeased 0, twinLeased 1]⟩) ⟨by simp; decide, by cbv⟩ ?_
  refine .cons (t := ⟨[twinDead 0 (pastNoon 3), twinLeased 1]⟩) ⟨by simp; decide, by cbv⟩ ?_
  exact .cons ⟨by simp; decide, by cbv⟩ .nil

theorem trace_lateCompletion : ({} : WorkStore).Trace (twinDeaths ++ [lateCompletion])
    ⟨[twinDead 0 (pastNoon 5), twinDead 1 (pastNoon 4)]⟩ :=
  Trace.append_iff.mpr ⟨_, trace_twins, .cons ⟨by simp; decide, by cbv⟩ .nil⟩

theorem advances_twins : Advances (twinDeaths ++ [lateCompletion]) := by
  unfold Advances
  decide

/-- Nobody asks for the two items again, so they are listed in the order of their deaths. -/
theorem dead_letters_follow_last_touch_twins :
    ({} : WorkStore).Trace twinDeaths ⟨[twinDead 0 (pastNoon 3), twinDead 1 (pastNoon 4)]⟩ ∧
      Advances twinDeaths ∧
      (∀ i ∈ [twinDead 0 (pastNoon 3), twinDead 1 (pastNoon 4)], NotFoundAgain twinDeaths i.id) ∧
      (⟨[twinDead 0 (pastNoon 3), twinDead 1 (pastNoon 4)]⟩ : WorkStore).deadLetters "queue" 10 =
        [twinDead 0 (pastNoon 3), twinDead 1 (pastNoon 4)] := by
  have hadvances : Advances twinDeaths := (List.pairwise_append.mp advances_twins).1
  have halone : ∀ i ∈ [twinDead 0 (pastNoon 3), twinDead 1 (pastNoon 4)],
      NotFoundAgain twinDeaths i.id := by
    unfold NotFoundAgain
    decide
  refine ⟨trace_twins, hadvances, halone, ?_⟩
  exact (dead_letters_follow_last_touch trace_twins hadvances "queue").2.1
    (fun i hi _ => halone i hi) 10

/-- **A refused call moves an item behind those that were given up after it.** The first item dies
before the second one, and its former holder then completes it in vain. The listing shows it last. -/
theorem refused_call_reorders :
    ({} : WorkStore).Trace (twinDeaths ++ [lateCompletion])
        ⟨[twinDead 0 (pastNoon 5), twinDead 1 (pastNoon 4)]⟩ ∧
      Advances (twinDeaths ++ [lateCompletion]) ∧ lateCompletion.verdict? = some false ∧
      deaths (twinDeaths ++ [lateCompletion]) = [⟨Uuid.ofNat 0⟩, ⟨Uuid.ofNat 1⟩] ∧
      (⟨[twinDead 0 (pastNoon 5), twinDead 1 (pastNoon 4)]⟩ : WorkStore).deadLetters "queue" 10 =
        [twinDead 1 (pastNoon 4), twinDead 0 (pastNoon 5)] :=
  ⟨trace_lateCompletion, advances_twins, rfl, rfl, by cbv⟩

end WorkStore

end Dunning
