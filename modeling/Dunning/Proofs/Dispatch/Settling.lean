import Dunning.Proofs.Task.Conduct
import Dunning.Proofs.Work.Lifecycle
import Dunning.Work.Dispatcher

/-!
# What becomes of a claimed item

A dispatcher works out from the snapshot of a claim whether an item is given up, and the store counts
the failure when it writes. The two agree because nobody else changes an item while its claim lasts:
others can only touch it in vain, and that moves nothing but the time of the last touch. So what is
written can be said of the item as it was claimed.

Others may do to the store whatever they like before each call of the dispatcher, and so may the
handler, as long as the claim lasts. Calls to the store do not fail here.

## Main definitions

* `WorkStore.Meanwhile` — what others do while the claim of an item lasts.
* `Bench` — the store and the counters, and how the requests of a handling are answered.
* `Dispatcher.Disposes` — what becomes of an item, by the end of its handler's run.

## Main results

* `WorkStore.Trace.undisturbed` — an item is left as it is while its claim lasts.
* `Dispatcher.disposes_settlement` — the settlement that is worked out is the one that is called for.
* `Dispatcher.claimed_item_is_settled` — the handling of a claimed item comes to its end, the item is
  settled as it should be, and the counters say so.
-/

namespace Dunning

/-! ## While a claim lasts -/

namespace WorkEvent

/-- An event that neither hands an item out nor ends its claim leaves at most its time behind, unless it
withdraws the item. -/
theorem Change.undisturbed {e : WorkEvent} {i j : Item} (h : e.Change i j)
    (hout : i.id ∉ e.handedOut.map Item.id) (hends : ¬ e.EndsClaim i.id) :
    j.status.isTerminal = true ∨ ∃ touched, j = { i with updatedAt := touched } := by
  cases h with
  | kept => exact .inr ⟨i.updatedAt, rfl⟩
  | refused => exact .inr ⟨e.clock, rfl⟩
  | leased _ _ _ _ hmem => exact absurd (List.mem_map_of_mem hmem) hout
  | settled hrequest hverdict => exact absurd ⟨.inl ⟨_, _, hrequest⟩, hverdict⟩ hends
  | cancelled hrequest hverdict => exact absurd ⟨.inr hrequest, hverdict⟩ hends
  | withdrawn => exact .inl rfl

end WorkEvent

namespace WorkStore

/-- What others do at a store while the claim of an item lasts: any events of which none hands the item
out, settles it or withdraws it, so that afterwards it has not ended. -/
def Meanwhile (id : ItemId) (s t : WorkStore) : Prop :=
  ∃ events, s.Trace events t ∧
    (∀ e ∈ events, id ∉ e.handedOut.map Item.id ∧ ¬ e.EndsClaim id) ∧
    ∃ i ∈ t.items, i.id = id ∧ i.status.isTerminal = false

/-- After events that neither hand an item out nor end its claim, it is as it was or has ended. -/
theorem Trace.undisturbed {s t : WorkStore} {events : List WorkEvent} (run : s.Trace events t)
    (distinct : s.Distinct) {i : Item} (hi : i ∈ s.items)
    (hevents : ∀ e ∈ events, i.id ∉ e.handedOut.map Item.id ∧ ¬ e.EndsClaim i.id) :
    ∃ j ∈ t.items, j.id = i.id ∧
      (j.status.isTerminal = true ∨ ∃ touched, j = { i with updatedAt := touched }) := by
  induction run generalizing i with
  | nil => exact ⟨i, hi, rfl, .inr ⟨i.updatedAt, rfl⟩⟩
  | cons step _ ih =>
      obtain ⟨hout, hends⟩ := hevents _ List.mem_cons_self
      obtain ⟨j, hj, hchange⟩ := step.exists_of_mem distinct hi
      have hname := hchange.id_eq
      obtain ⟨k, hk, hid, hkept⟩ := ih (step.distinct distinct) hj fun e he => by
        rw [hname]
        exact hevents e (List.mem_cons_of_mem _ he)
      refine ⟨k, hk, hid.trans hname, ?_⟩
      rcases hchange.undisturbed hout hends with hended | ⟨touched, rfl⟩
      · rcases hkept with hterminal | ⟨moment, rfl⟩
        · exact .inl hterminal
        · exact .inl hended
      · exact hkept

/-- The item is in the store as it was claimed, except that it may have been touched in vain. -/
def Shows (s : WorkStore) (item : Item) : Prop :=
  s.Distinct ∧ ∃ touched, { item with updatedAt := touched } ∈ s.items

/-- An item is left as it is while its claim lasts. -/
theorem Meanwhile.shows {s t : WorkStore} {item : Item} (h : Meanwhile item.id s t)
    (shows : s.Shows item) : t.Shows item := by
  obtain ⟨events, run, hevents, live, hlive, hid, hstatus⟩ := h
  obtain ⟨distinct, touched, hmem⟩ := shows
  have distinct' := run.distinct distinct
  obtain ⟨j, hj, hname, hkept⟩ := run.undisturbed distinct hmem hevents
  obtain rfl : j = live := distinct'.eq hj hlive (hname.trans hid.symm)
  refine ⟨distinct', ?_⟩
  rcases hkept with hended | ⟨later, rfl⟩
  · rw [hstatus] at hended
    cases hended
  · exact ⟨later, hj⟩

/-- Others may do nothing. -/
theorem Shows.meanwhile {s : WorkStore} {item : Item} (shows : s.Shows item)
    (hlive : item.status = .available) : Meanwhile item.id s s := by
  obtain ⟨-, touched, hmem⟩ := shows
  refine ⟨[], .nil, List.forall_mem_nil _, _, hmem, rfl, ?_⟩
  show item.status.isTerminal = false
  rw [hlive]
  rfl

/-- The settlement of an item by its holder counts, and makes of the item what it is to write. -/
theorem Shows.settle {s : WorkStore} {item : Item} (shows : s.Shows item) {claimer : String}
    (hclaimed : item.claimedBy = some claimer) (hlive : item.status = .available)
    (settlement : Settlement) (clock : Instant) :
    (s.settle item.id claimer settlement clock).1 = .ok true ∧
      (s.settle item.id claimer settlement clock).2.get? item.id =
        some { settlement.apply item with updatedAt := clock } := by
  obtain ⟨distinct, touched, hmem⟩ := shows
  have haccepts : ({ item with updatedAt := touched } : Item).accepts claimer = true := by
    simp [Item.accepts, hclaimed, hlive, ItemStatus.isTerminal]
  have hnames : ∀ j : Item, (if j.id = item.id then
      { (if j.accepts claimer then settlement.apply j else j) with updatedAt := clock } else j).id =
        j.id := by
    intro j
    split
    · show (if j.accepts claimer then settlement.apply j else j).id = j.id
      split
      · cases settlement <;> rfl
      · rfl
    · rfl
  have hanswer := touch_answer distinct hmem clock (fun j => j.accepts claimer) settlement.apply
  have hitems := touch_items s item.id clock (fun j => j.accepts claimer) settlement.apply
  have hstore : (s.settle item.id claimer settlement clock).2 = ⟨_⟩ := congrArg WorkStore.mk hitems
  have hfound : s.get? item.id = some { item with updatedAt := touched } := distinct.get?_eq hmem
  constructor
  · rw [haccepts] at hanswer
    exact hanswer
  · rw [hstore, get?_map s hnames, hfound, Option.map_some, if_pos rfl, if_pos haccepts]
    cases settlement <;> rfl

end WorkStore

/-! ## The surroundings of a handling -/

/-- What the handling of an item changes. -/
structure Bench where
  store : WorkStore
  counters : Counters := {}

namespace Bench

/-- How the requests of a handling are answered while the claim of its item lasts. Others come before
each call to the store; the end of the handler's run is given. -/
def Answers (id : ItemId) (run : HandlerRun) :
    (request : PollRequest) → Bench → request.Answer → Bench → Prop
  | .work request, bench, answer, later =>
    later.counters = bench.counters ∧ ∃ between clock fresh,
      WorkStore.Meanwhile id bench.store between ∧
        between.respond clock fresh request = some (answer, later.store)
  | .invoke .., bench, answer, later => answer = run ∧ later = bench
  | .count counter n, bench, _, later =>
    later = { bench with counters := bench.counters.add counter n }
  | .reportDead .., bench, _, later => later = bench

/-- What the handling of an item may ask: reading and settling as long as the item is there. -/
def Allows (item : Item) (bench : Bench) : PollRequest → Prop
  | .work (.isOwnerCancelled _) => bench.store.Shows item
  | .work (.settle ..) => bench.store.Shows item
  | .work _ => False
  | _ => True

variable {bench later : Bench} {item : Item} {run : HandlerRun}

/-- Whatever the handling of a live item may ask is answered. -/
theorem exists_answers (hlive : item.status = .available) (request : PollRequest)
    (h : bench.Allows item request) :
    ∃ answer later, Answers item.id run request bench answer later := by
  cases request with
  | work request =>
      cases request with
      | isOwnerCancelled owner =>
          exact ⟨_, ⟨bench.store, bench.counters⟩, rfl, bench.store, .noon, item.id,
            h.meanwhile hlive, rfl⟩
      | settle id claimer settlement =>
          exact ⟨_, ⟨(bench.store.settle id claimer settlement .noon).2, bench.counters⟩, rfl,
            bench.store, .noon, item.id, h.meanwhile hlive, rfl⟩
      | _ => exact h.elim
  | invoke => exact ⟨run, bench, rfl, rfl⟩
  | count counter n => exact ⟨(), _, rfl⟩
  | reportDead => exact ⟨(), bench, rfl⟩

end Bench

namespace HandlerRun

/-- Why a run failed in a way that may pass, and what is counted beside the failure. -/
inductive FailsFor (d : Dispatcher) : HandlerRun → String → List Counter → Prop where
  | transient {reason : String} : FailsFor d (.returned (.error (.transient reason))) reason []
  | timedOut : FailsFor d .timedOut d.timeoutReason [.timeouts]
  | panicked : FailsFor d .panicked "handler panicked" [.panics]

end HandlerRun

/-- The counters of which one grows with every handled item, unless its handler asks for the item to be
given up. -/
def Counter.endings : List Counter := [.poisoned, .succeeded, .rescheduled, .released, .failed]

namespace Dispatcher

/-- What becomes of an item, the end of its claim apart, and which counters grow; there is no run when
nobody handles the queue. Failures are numbers of 32 bits. -/
inductive Disposes (d : Dispatcher) (item : Item) (now : Instant) :
    Option HandlerRun → Item → List Counter → Prop where
  | dropped : Disposes d item now none { item with status := .processed } [.poisoned]
  | done : Disposes d item now (some (.returned (.ok .done))) { item with status := .processed }
      [.succeeded]
  | released : Disposes d item now (some (.returned (.ok .release))) item [.released]
  | rescheduled {due : Instant} : Disposes d item now (some (.returned (.ok (.rescheduleAt due))))
      { item with dueAt := due } [.rescheduled]
  | permanent {reason : String} : Disposes d item now
      (some (.returned (.error (.permanent reason))))
      { item with status := .deadLettered, attempts := item.attempts + 1, lastError := some reason }
      [.deadLettered]
  | retried {run : HandlerRun} {reason : String} {causes : List Counter} {retryAt : Instant} :
      run.FailsFor d reason causes → item.attempts + 1 < d.config.backoff.maxAttempts →
      now.plus? (d.config.backoff.delay (item.attempts + 1)).nanos = some retryAt →
      Disposes d item now (some run)
        { item with attempts := item.attempts + 1, lastError := some reason, dueAt := retryAt }
        (causes ++ [.failed])
  | givenUp {run : HandlerRun} {reason : String} {causes : List Counter} :
      run.FailsFor d reason causes → d.config.backoff.maxAttempts ≤ item.attempts + 1 →
      Disposes d item now (some run)
        { item with status := .deadLettered, attempts := item.attempts + 1, lastError := some reason }
        (causes ++ [.failed, .deadLettered])

variable {d : Dispatcher} {item after : Item} {now : Instant} {grown : List Counter}

/-- Where an item belongs and what it carries stays. -/
theorem Disposes.frame {run : Option HandlerRun} (h : d.Disposes item now run after grown) :
    after.queue = item.queue ∧ after.owner = item.owner ∧ after.payload = item.payload ∧
      after.createdAt = item.createdAt := by
  cases h <;> exact ⟨rfl, rfl, rfl, rfl⟩

/-- When the handler asks for the item to be given up, only dead letters are counted. -/
theorem Disposes.count_of_permanent {reason : String}
    (h : d.Disposes item now (some (.returned (.error (.permanent reason)))) after grown) :
    ∀ counter, grown.count counter = if counter = .deadLettered then 1 else 0 := by
  cases h with
  | permanent => rintro (_ | _) <;> rfl
  | retried hfails => cases hfails
  | givenUp hfails => cases hfails

/-- One ending is counted, unless the handler asked for the item to be given up. -/
theorem Disposes.one_ending {run : Option HandlerRun} (h : d.Disposes item now run after grown)
    (hrun : ∀ reason, run ≠ some (.returned (.error (.permanent reason)))) :
    ∃ ending ∈ Counter.endings, ∀ counter ∈ Counter.endings,
      grown.count counter = if counter = ending then 1 else 0 := by
  cases h with
  | dropped => exact ⟨.poisoned, by decide, by decide⟩
  | done => exact ⟨.succeeded, by decide, by decide⟩
  | released => exact ⟨.released, by decide, by decide⟩
  | rescheduled => exact ⟨.rescheduled, by decide, by decide⟩
  | permanent => exact absurd rfl (hrun _)
  | retried hfails => cases hfails <;> exact ⟨.failed, by decide, by decide⟩
  | givenUp hfails => cases hfails <;> exact ⟨.failed, by decide, by decide⟩

/-! ## What is worked out -/

/-- What becomes of an item whose run failed in a way that may pass. -/
theorem disposes_failureSettlement {run : HandlerRun} {reason : String} {causes : List Counter}
    (hfails : run.FailsFor d reason causes)
    (hdates : item.attempts + 1 < d.config.backoff.maxAttempts →
      ∃ retryAt, now.plus? (d.config.backoff.delay (item.attempts + 1)).nanos = some retryAt) :
    ∃ settlement, (d.failureSettlement item reason now).2 = some settlement ∧
      d.Disposes item now (some run) (settlement.write item)
        (causes ++ (d.failureSettlement item reason now).1) := by
  unfold failureSettlement
  by_cases hallows : item.attempts + 1 < d.config.backoff.maxAttempts
  · obtain ⟨retryAt, hretry⟩ := hdates hallows
    simp only [BackoffPolicy.allows, hallows, decide_true, if_true, Span.asDelay_eq_of_plus? hretry,
      hretry, Option.map_some]
    exact ⟨_, rfl, .retried hfails hallows hretry⟩
  · simp only [BackoffPolicy.allows, hallows, decide_false, Bool.false_eq_true, if_false]
    exact ⟨_, rfl, .givenUp hfails (UInt32.not_lt.mp hallows)⟩

/-- **The settlement that is worked out is the one that is called for.** -/
theorem disposes_settlement (run : HandlerRun)
    (hdates : item.attempts + 1 < d.config.backoff.maxAttempts →
      ∃ retryAt, now.plus? (d.config.backoff.delay (item.attempts + 1)).nanos = some retryAt) :
    ∃ settlement, (d.settlement item now run).2 = some settlement ∧
      d.Disposes item now (some run) (settlement.write item) (d.settlement item now run).1 := by
  match run with
  | .returned (.ok .done) => exact ⟨_, rfl, .done⟩
  | .returned (.ok (.rescheduleAt due)) => exact ⟨_, rfl, .rescheduled⟩
  | .returned (.ok .release) => exact ⟨_, rfl, .released⟩
  | .returned (.error (.permanent reason)) => exact ⟨_, rfl, .permanent⟩
  | .returned (.error (.transient reason)) => exact disposes_failureSettlement .transient hdates
  | .timedOut => exact disposes_failureSettlement .timedOut hdates
  | .panicked => exact disposes_failureSettlement .panicked hdates

/-! ## What is written and counted -/

variable {bench : Bench} {run : HandlerRun}

/-- A counter grows as often as it is counted, and the store stays as it is. -/
theorem countAll_obeys (counters : List Counter) (bench : Bench) :
    (countAll counters).Obeys (Bench.Answers item.id run) (Bench.Allows item) (fun _ later =>
      later.store = bench.store ∧ ∀ counter,
        later.counters.value counter = bench.counters.value counter + counters.count counter)
      bench := by
  induction counters generalizing bench with
  | nil => exact ⟨rfl, fun counter => rfl⟩
  | cons first rest ih =>
      refine ⟨trivial, ?_⟩
      rintro - middle rfl
      refine (ih _).imp ?_
      rintro - later ⟨hstore, hcounters⟩
      refine ⟨hstore, fun counter => ?_⟩
      rw [hcounters, List.count_cons]
      by_cases hsame : counter = first
      · subst hsame
        rw [Counters.value_add_self, beq_self_eq_true, if_pos rfl]
        omega
      · rw [Counters.value_add_of_ne _ hsame, if_neg (by simpa using Ne.symm hsame)]
        rfl

/-- The settlement of an item that is still held is written at once. -/
theorem settle_obeys (settlement : Settlement) (hclaimed : item.claimedBy = some d.config.name)
    (hlive : item.status = .available) (shows : bench.store.Shows item) :
    (d.settle item settlement).Obeys (Bench.Answers item.id run) (Bench.Allows item) (fun _ later =>
      later.counters = bench.counters ∧ ∃ clock, later.store.get? item.id =
        some { settlement.apply item with updatedAt := clock }) bench := by
  refine ⟨shows, ?_⟩
  rintro answer later ⟨hcounters, between, clock, fresh, hmeanwhile, hresponds⟩
  obtain ⟨hanswer, hwritten⟩ :=
    (WorkStore.Meanwhile.shows hmeanwhile shows).settle hclaimed hlive settlement clock
  have hsettles : between.settle item.id d.config.name settlement clock = (answer, later.store) :=
    Option.some.inj hresponds
  rw [hsettles] at hanswer hwritten
  obtain rfl : answer = .ok true := hanswer
  cases settlement with
  | deadLetter reason =>
      refine ⟨trivial, ?_⟩
      rintro - reported rfl
      exact ⟨hcounters, clock, hwritten⟩
  | _ => exact ⟨hcounters, clock, hwritten⟩

/-- Whether an item is settled and the counters have grown. -/
def Leaves (bench : Bench) (item after : Item) (grown : List Counter) (later : Bench) : Prop :=
  (∃ clock, later.store.get? item.id =
    some { after with claimedBy := none, leaseEnd := none, updatedAt := clock }) ∧
  ∀ counter, later.counters.value counter = bench.counters.value counter + grown.count counter

/-- An item is settled after what happened was counted. -/
theorem conclude_obeys (settlement : Settlement) (counters : List Counter)
    (hclaimed : item.claimedBy = some d.config.name) (hlive : item.status = .available)
    (shows : bench.store.Shows item) :
    ((countAll counters).bind fun _ => d.settle item settlement).Obeys (Bench.Answers item.id run)
      (Bench.Allows item) (fun _ later => Leaves bench item (settlement.write item) counters later)
      bench := by
  refine Task.obeys_bind.mpr ((countAll_obeys counters bench).imp ?_)
  rintro - middle ⟨hstore, hcounters⟩
  refine (d.settle_obeys settlement hclaimed hlive (hstore ▸ shows)).imp ?_
  rintro - later ⟨hsame, clock, hwritten⟩
  refine ⟨⟨clock, hwritten⟩, fun counter => ?_⟩
  rw [hsame, hcounters]

/-- The handling of a claimed item settles it as it should be. -/
theorem process_obeys (run : HandlerRun) (hclaimed : item.claimedBy = some d.config.name)
    (hlive : item.status = .available) (shows : bench.store.Shows item)
    (hdates : item.attempts + 1 < d.config.backoff.maxAttempts →
      ∃ retryAt, now.plus? (d.config.backoff.delay (item.attempts + 1)).nanos = some retryAt) :
    (d.process item now).Obeys (Bench.Answers item.id run) (Bench.Allows item) (fun _ later =>
      ∃ after grown, d.Disposes item now (if item.queue ∈ d.handled then some run else none)
        after grown ∧ Leaves bench item after grown later) bench := by
  unfold process
  by_cases hhandled : item.queue ∈ d.handled
  · rw [if_pos (List.contains_iff_mem.mpr hhandled), if_pos hhandled]
    refine ⟨shows, ?_⟩
    rintro answer later ⟨hcounters, between, clock, fresh, hmeanwhile, hresponds⟩
    obtain ⟨rfl, hstore⟩ := Prod.mk.inj (Option.some.inj hresponds)
    have shows' : later.store.Shows item := hstore ▸ WorkStore.Meanwhile.shows hmeanwhile shows
    refine ⟨trivial, ?_⟩
    rintro ended invoked ⟨hrun, rfl⟩
    obtain ⟨settlement, hsettlement, hdisposes⟩ := d.disposes_settlement run hdates
    simp only [hrun, hsettlement]
    refine (d.conclude_obeys settlement _ hclaimed hlive shows').imp ?_
    rintro - last ⟨hwritten, hgrown⟩
    rw [hcounters] at hgrown
    exact ⟨_, _, hdisposes, hwritten, hgrown⟩
  · have hmissing : ¬ d.handled.contains item.queue = true := by simpa using hhandled
    rw [if_neg hmissing, if_neg hhandled]
    refine (d.conclude_obeys .complete [.poisoned] hclaimed hlive shows).imp ?_
    intro _ later hleaves
    exact ⟨_, _, .dropped, hleaves⟩

/-- **What becomes of a claimed item.** Take an item as it was claimed, any end of its handler's run, and
dates that the calendar has. If the claim lasts until the item is settled and the store does not fail,
the handling comes to its end, and whenever it does the item has become what `Disposes` says, free of its
claim, on its queue, with its owner, its payload and its date of creation. Every counter has grown as
often as is said there: one of the five endings by one and the others not at all, or, if the handler
asked for the item to be given up, nothing but the dead letters. -/
theorem claimed_item_is_settled (run : HandlerRun) (distinct : bench.store.Distinct)
    (hitem : item ∈ bench.store.items) (hclaimed : item.claimedBy = some d.config.name)
    (hlive : item.status = .available)
    (hdates : item.attempts + 1 < d.config.backoff.maxAttempts →
      ∃ retryAt, now.plus? (d.config.backoff.delay (item.attempts + 1)).nanos = some retryAt) :
    (∃ later, (d.process item now).Runs (Bench.Answers item.id run) bench () later) ∧
      ∀ later, (d.process item now).Runs (Bench.Answers item.id run) bench () later →
        ∃ after grown clock,
          d.Disposes item now (if item.queue ∈ d.handled then some run else none) after grown ∧
          later.store.get? item.id =
            some { after with claimedBy := none, leaseEnd := none, updatedAt := clock } ∧
          (after.queue = item.queue ∧ after.owner = item.owner ∧ after.payload = item.payload ∧
            after.createdAt = item.createdAt) ∧
          (∀ counter, later.counters.value counter =
            bench.counters.value counter + grown.count counter) ∧
          ((∃ ending ∈ Counter.endings, ∀ counter ∈ Counter.endings, later.counters.value counter =
              bench.counters.value counter + if counter = ending then 1 else 0) ∨
            ((∃ reason, run = .returned (.error (.permanent reason))) ∧ item.queue ∈ d.handled ∧
              ∀ counter, later.counters.value counter =
                bench.counters.value counter + if counter = .deadLettered then 1 else 0)) := by
  have hobeys := process_obeys run hclaimed hlive ⟨distinct, item.updatedAt, hitem⟩ hdates
  constructor
  · obtain ⟨_, later, hruns⟩ := hobeys.exists_runs fun bench request =>
      Bench.exists_answers hlive request
    exact ⟨later, hruns⟩
  · intro later hruns
    obtain ⟨after, grown, hdisposes, ⟨clock, hwritten⟩, hgrown⟩ := hobeys.of_runs hruns
    refine ⟨after, grown, clock, hdisposes, hwritten, hdisposes.frame, hgrown, ?_⟩
    by_cases hpermanent : ∃ reason, (if item.queue ∈ d.handled then some run else none) =
        some (.returned (.error (.permanent reason)))
    · obtain ⟨reason, hasked⟩ := hpermanent
      obtain ⟨hhandled, hrun⟩ := Option.ite_none_right_eq_some.mp hasked
      rw [hasked] at hdisposes
      refine .inr ⟨⟨reason, Option.some.inj hrun⟩, hhandled, fun counter => ?_⟩
      rw [hgrown, hdisposes.count_of_permanent]
    · obtain ⟨ending, hmem, hone⟩ := hdisposes.one_ending fun reason heq => hpermanent ⟨reason, heq⟩
      refine .inl ⟨ending, hmem, fun counter hcounter => ?_⟩
      rw [hgrown, hone counter hcounter]

/-! ### An item whose handler breaks -/

/-- A dispatcher that handles one queue. -/
def noonDispatcher : Dispatcher := ⟨{ name := "north" }, ["queue"]⟩

/-- The handler breaks, one failure is counted, and the item is due again. -/
theorem claimed_item_is_settled_broken :
    (⟨[WorkStore.noonItemOf "north"]⟩ : WorkStore).Distinct ∧
      ∃ later after, (noonDispatcher.process (WorkStore.noonItemOf "north") .noon).Runs
          (Bench.Answers (WorkStore.noonItemOf "north").id .panicked)
          ⟨⟨[WorkStore.noonItemOf "north"]⟩, {}⟩ () later ∧
        later.store.get? (WorkStore.noonItemOf "north").id = some after ∧
        after.status = .available ∧ after.attempts = 1 ∧ after.claimedBy = none ∧
        later.counters.value .failed = 1 := by
  have distinct : (⟨[WorkStore.noonItemOf "north"]⟩ : WorkStore).Distinct := List.nodup_singleton _
  have hretry : ∃ retryAt, Instant.noon.plus?
      (noonDispatcher.config.backoff.delay ((WorkStore.noonItemOf "north").attempts + 1)).nanos =
        some retryAt := Option.isSome_iff_exists.mp (by decide)
  obtain ⟨⟨later, hruns⟩, hall⟩ := @claimed_item_is_settled noonDispatcher
    (WorkStore.noonItemOf "north") .noon ⟨⟨[WorkStore.noonItemOf "north"]⟩, {}⟩ .panicked
    distinct (List.mem_singleton_self _) rfl rfl fun _ => hretry
  obtain ⟨after, grown, clock, hdisposes, hwritten, -, hgrown, -⟩ := hall later hruns
  rw [if_pos (by decide)] at hdisposes
  cases hdisposes with
  | retried hfails =>
      cases hfails
      exact ⟨distinct, later, _, hruns, hwritten, rfl, rfl, rfl, hgrown .failed⟩
  | givenUp _ hlast => exact absurd hlast (by decide)

end Dispatcher

end Dunning
