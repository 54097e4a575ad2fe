import Dunning.Proofs.Dispatch.Pool
import Mathlib.Data.String.Basic

/-!
# The account of a poll

What a poll has done when it is over, whatever its claims and its handlings were told, however many
handlings went on side by side and in whichever order: each queue was tried once, each claimed item was
processed once, and the counters and the result say so.

The account is kept from step to step. What a handling still has to ask is bound to what it has been
told; so a handling that is over has run as `Dispatcher.process` does when it runs alone.

## Main definitions

* `Counters.after` — the counters after a history.
* `Dispatcher.Processed` — the histories of an item that was processed.
* `Claims` — the claims of a poll with their answers.
* `Pool.Accounts` — the account of a poll that is over.

## Main results

* `Dispatcher.processed_of_runs` — a handling has the history of a processed item.
* `QueueTable.queues_of` — the queues of a table, each once and in order.
* `Dispatcher.claims_handled_once` — a poll handles each claim once.
-/

namespace Dunning

/-! ## Counters -/

/-- How much a request counts up. -/
def PollRequest.counts (counter : Counter) : PollRequest → Nat
  | .count other n => if counter = other then n else 0
  | _ => 0

/-- How much a history counts up. -/
def PollHistory.counts (counter : Counter) (past : PollHistory) : Nat :=
  (past.map fun x => x.request.counts counter).sum

/-- The counters after a request. -/
def Counters.afterRequest (c : Counters) : PollRequest → Counters
  | .count counter n => c.add counter n
  | _ => c

/-- The counters after a history, whose latest request stands first. -/
def Counters.after (c : Counters) (past : PollHistory) : Counters :=
  past.foldr (fun x c => c.afterRequest x.request) c

theorem Counters.value_afterRequest (c : Counters) (request : PollRequest) (counter : Counter) :
    (c.afterRequest request).value counter = c.value counter + request.counts counter := by
  cases request with
  | count other n =>
      rcases eq_or_ne counter other with rfl | hne
      · simp [afterRequest, PollRequest.counts]
      · simp [afterRequest, PollRequest.counts, value_add_of_ne c hne, hne]
  | work | invoke | reportDead => rfl

theorem Counters.value_after (c : Counters) (past : PollHistory) (counter : Counter) :
    (c.after past).value counter = c.value counter + PollHistory.counts counter past := by
  induction past with
  | nil => rfl
  | cons x past ih =>
      rw [Counters.after, List.foldr_cons, value_afterRequest, ← Counters.after, ih,
        PollHistory.counts, PollHistory.counts, List.map_cons, List.sum_cons]
      omega

namespace PollHistory

variable {counter : Counter} {past later : PollHistory}

theorem counts_append :
    counts counter (past ++ later) = counts counter past + counts counter later := by
  rw [counts, List.map_append, List.sum_append]
  rfl

theorem counts_perm (h : past.Perm later) : counts counter past = counts counter later :=
  (h.map _).sum_eq

theorem counts_flatMap {α : Type} (f : α → PollHistory) (xs : List α) :
    counts counter (xs.flatMap f) = (xs.map fun x => counts counter (f x)).sum := by
  induction xs with
  | nil => rfl
  | cons x xs ih => rw [List.flatMap_cons, counts_append, ih, List.map_cons, List.sum_cons]

end PollHistory

/-! ## Processed items -/

/-- Whether a request may follow the decision about an item: it writes that settlement, counts or
reports. -/
def PollRequest.Concludes (d : Dispatcher) (item : Item) (settlement : Option Settlement) :
    PollRequest → Prop
  | .work (.settle id claimer written) =>
    id = item.id ∧ claimer = d.config.name ∧ settlement = some written
  | .work _ => False
  | .invoke .. => False
  | .count .. => True
  | .reportDead .. => True

namespace Dispatcher

variable {d : Dispatcher} {item : Item} {now : Instant} {past later : PollHistory}

/-- The histories of an item that was processed, the latest first. Its handler runs once and is told
what the look-up of the owner said; without an answer to that the item is left to the end of its
lease, and without a handler it is dropped. -/
inductive Processed (d : Dispatcher) (item : Item) (now : Instant) : PollHistory → Prop where
  | invoked {closed : Bool} {run : HandlerRun} {rest : PollHistory} : item.queue ∈ d.handled →
      (∀ x ∈ rest, x.request.Concludes d item (d.settlement item now run).2) →
      Processed d item now (rest ++
        [⟨.invoke item
            { now, attempt := item.attempts, ownerCancelled := closed, dispatcher := d.config.name },
          run⟩,
        ⟨.work (.isOwnerCancelled item.owner), .ok closed⟩])
  | unknown {e : StoreError} : item.queue ∈ d.handled →
      Processed d item now
        [⟨.count .storageErrors 1, ()⟩, ⟨.work (.isOwnerCancelled item.owner), .error e⟩]
  | dropped {rest : PollHistory} : item.queue ∉ d.handled →
      (∀ x ∈ rest, x.request.Concludes d item (some .complete)) →
      Processed d item now (rest ++ [⟨.count .poisoned 1, ()⟩])

/-- What a task asks that keeps to a rule about single requests. -/
theorem KeepsTo.requests {α : Type} {allowed : PollRequest → Prop} {t : PollTask α} {value : α}
    (h : KeepsTo (fun _ request => allowed request) past t) (run : t.Runs Task.Told past value later) :
    ∃ rest, later = rest ++ past ∧ ∀ x ∈ rest, allowed x.request := by
  induction run with
  | done => exact ⟨[], rfl, List.forall_mem_nil _⟩
  | @ask request next answer value past middle later hanswer hrest ih =>
      subst hanswer
      obtain ⟨hallowed, hnext⟩ := Task.obeys_hears.mp h
      obtain ⟨rest, rfl, hkept⟩ := ih (hnext answer trivial)
      refine ⟨rest ++ [⟨request, answer⟩], by simp, fun x hx => ?_⟩
      rcases List.mem_append.mp hx with hx | hx
      · exact hkept x hx
      · rw [List.mem_singleton.mp hx]
        exact hallowed

private theorem free_concludes (settlement : Option Settlement) :
    Free fun _ request => request.Concludes d item settlement :=
  ⟨trivial, trivial⟩

/-- What follows the run of a handler. -/
private theorem keepsTo_concludes (run : HandlerRun) :
    KeepsTo (fun _ request => request.Concludes d item (d.settlement item now run).2) past
      ((countAll (d.settlement item now run).1).bind fun _ =>
        match (d.settlement item now run).2 with
        | some settlement => d.settle item settlement
        | none => pure ()) := by
  refine ((free_concludes _).countAll _).bind fun _ later _ => ?_
  split
  · rename_i settlement hsettlement
    exact (free_concludes _).settleWithin _ fun _ _ => ⟨rfl, rfl, hsettlement⟩
  · exact .done ()

/-- A handling that runs to its end has the history of a processed item. -/
theorem processed_of_runs {value : Unit} (run : (d.process item now).Runs Task.Told [] value past) :
    d.Processed item now past := by
  unfold process at run
  split at run
  · rename_i hqueue
    have hqueue : item.queue ∈ d.handled := by simpa using hqueue
    obtain ⟨answer, hrest⟩ := Task.runs_told.mp run
    cases answer with
    | error e =>
        obtain ⟨_, hend⟩ := Task.runs_told.mp hrest
        cases hend
        exact .unknown hqueue
    | ok closed =>
        obtain ⟨outcome, hrest⟩ := Task.runs_told.mp hrest
        obtain ⟨rest, rfl, hconcludes⟩ := (keepsTo_concludes outcome).requests hrest
        exact .invoked hqueue hconcludes
  · rename_i hqueue
    have hqueue : item.queue ∉ d.handled := by simpa using hqueue
    obtain ⟨_, hrest⟩ := Task.runs_told.mp run
    have hkeeps : KeepsTo (fun _ request => request.Concludes d item (some .complete))
        [⟨.count .poisoned 1, ()⟩] (d.settle item .complete) :=
      (free_concludes _).settleWithin _ fun _ _ => ⟨rfl, rfl, rfl⟩
    obtain ⟨rest, rfl, hconcludes⟩ := hkeeps.requests hrest
    exact .dropped hqueue hconcludes

end Dispatcher

/-! ## The account -/

/-- The claims of a poll in order: the queues with the answers. -/
abbrev Claims : Type := List (String × Except StoreError (List Item))

namespace Claims

open Pool (noted failure? counting claiming)

/-- The items that were claimed. -/
def items (tried : Claims) : List Item := tried.flatMap fun c => Shift.claimed c.2

/-- The first failure. -/
def firstFailure? (tried : Claims) : Option StoreError := tried.findSome? fun c => failure? c.2

/-- The number of failures. -/
def failures (tried : Claims) : Nat := tried.countP fun c => (failure? c.2).isSome

/-- What the loop over the queues asks and is told, in order. -/
def exchanges (tried : Claims) (d : Dispatcher) (now : Instant) : PollHistory :=
  counting (.polls, 1) ::
    tried.flatMap fun c => [claiming d now c.1 c.2, counting (noted c.2)]

/-- What the loop over the queues counts. -/
def counts (tried : Claims) : Counter → Nat
  | .polls => 1
  | .claimed => tried.items.length
  | .storageErrors => tried.failures
  | _ => 0

variable {tried : Claims} {queue : String} {answer : Except StoreError (List Item)}

theorem items_concat : items (tried ++ [(queue, answer)]) = tried.items ++ Shift.claimed answer := by
  simp [items]

theorem firstFailure?_concat :
    firstFailure? (tried ++ [(queue, answer)]) = tried.firstFailure?.or (failure? answer) := by
  rw [firstFailure?, List.findSome?_append, List.findSome?_singleton]
  rfl

theorem exchanges_concat (d : Dispatcher) (now : Instant) :
    exchanges (tried ++ [(queue, answer)]) d now =
      tried.exchanges d now ++ [claiming d now queue answer, counting (noted answer)] := by
  simp [exchanges]

theorem counts_exchanges (tried : Claims) (d : Dispatcher) (now : Instant) (counter : Counter) :
    PollHistory.counts counter (tried.exchanges d now) = tried.counts counter := by
  induction tried with
  | nil => cases counter <;> rfl
  | cons c rest ih =>
      obtain ⟨queue, answer⟩ := c
      have hsplit : PollHistory.counts counter (exchanges ((queue, answer) :: rest) d now) =
          (counting (noted answer)).request.counts counter +
            PollHistory.counts counter (exchanges rest d now) := by
        simp only [exchanges, PollHistory.counts, List.flatMap_cons, List.map_cons, List.map_append,
          List.sum_cons, List.sum_append, List.map_nil, List.sum_nil]
        rw [show (claiming d now queue answer).request.counts counter = 0 from rfl]
        omega
      rw [hsplit, ih]
      cases answer <;> cases counter <;>
        simp [counts, items, failures, failure?, Shift.claimed, noted, counting,
          PollRequest.counts, Nat.add_comm]

end Claims

/-- The account of a poll that is over, given its claims. -/
structure Pool.Accounts (d : Dispatcher) (now : Instant) (tried : Claims) (p : Pool) : Prop where
  /-- Each queue is tried once and in order, whatever became of those before it. -/
  queues : tried.map Prod.fst = d.queues
  loop : p.past.reverse = tried.exchanges d now
  /-- There is one handling for each claimed item. -/
  items : p.handlings.map Handling.item = tried.items
  /-- Each handling ran to its end and did with its item what is done with an item once. -/
  processed : ∀ h ∈ p.handlings, (d.process h.item now).Runs Task.Told [] () h.past ∧
    d.Processed h.item now h.past
  /-- Nothing else was asked. -/
  log : p.log.Perm (p.past ++ p.handlings.flatMap Handling.past)
  counters : ∀ (c : Counters) (counter : Counter), (c.after p.log).value counter =
    c.value counter + tried.counts counter +
      (p.handlings.map fun h => PollHistory.counts counter h.past).sum
  result : p.result =
    match tried.firstFailure? with
    | some e => .error e
    | none => .ok tried.items.length

namespace Pool

variable {d : Dispatcher} {now : Instant} {permits : Nat} {tried : Claims} {p q : Pool}

/-- Whether a handling will have run as `Dispatcher.process` does alone, given what it was told. -/
def Handling.Continues (d : Dispatcher) (now : Instant) (h : Handling) : Prop :=
  ∀ past, h.rest.Runs Task.Told h.past () past → (d.process h.item now).Runs Task.Told [] () past

/-- What a poll has done so far, given its claims. -/
structure Tracks (d : Dispatcher) (now : Instant) (tried : Claims) (p : Pool) : Prop where
  queues : tried.map Prod.fst ++ p.ahead = d.queues
  loop : p.past.reverse ++ p.owed.toList.map counting = tried.exchanges d now
  items : p.handlings.map Handling.item ++ p.waiting = tried.items
  continues : ∀ h ∈ p.handlings, h.Continues d now
  log : p.log.Perm (p.past ++ p.handlings.flatMap Handling.past)
  claimed : p.claimed = tried.items.length
  error : p.error = tried.firstFailure?

theorem tracks_pool (d : Dispatcher) (now : Instant) : Tracks d now [] d.pool where
  queues := rfl
  loop := rfl
  items := rfl
  continues := List.forall_mem_nil _
  log := .refl _
  claimed := rfl
  error := rfl

/-- **Every step of a poll keeps its account.** -/
theorem Tracks.step (h : Tracks d now tried p) (step : Step d now permits p q) :
    ∃ tried, Tracks d now tried q := by
  cases step with
  | @count owed howed =>
      refine ⟨tried, { h with loop := ?_, log := h.log.cons _ }⟩
      simpa [howed] using h.loop
  | @claim queue ahead answer howed hwaiting hahead =>
      have hloop := h.loop
      have hitems := h.items
      rw [howed, Option.toList_none, List.map_nil, List.append_nil] at hloop
      rw [hwaiting, List.append_nil] at hitems
      exact ⟨tried ++ [(queue, answer)],
        { queues := by rw [← h.queues, hahead, List.map_append, List.append_assoc]; rfl
          loop := by
            rw [Claims.exchanges_concat, ← hloop, List.reverse_cons, List.append_assoc]
            rfl
          items := by rw [Claims.items_concat, ← hitems]
          continues := h.continues
          log := h.log.cons _
          claimed := by rw [Claims.items_concat, List.length_append, ← h.claimed]
          error := by rw [Claims.firstFailure?_concat, ← h.error] }⟩
  | @start item waiting howed hwaiting hfree =>
      refine ⟨tried, { h with items := ?_, continues := ?_, log := ?_ }⟩
      · rw [← h.items, hwaiting, List.map_append, List.append_assoc]
        rfl
      · intro other hother
        rcases List.mem_append.mp hother with hother | hother
        · exact h.continues other hother
        · rw [List.mem_singleton.mp hother]
          exact fun _ run => run
      · have hpast : [d.handling now item].flatMap Handling.past = [] := rfl
        rw [List.flatMap_append, hpast, List.append_nil]
        exact h.log
  | @work place item past request next answer hplace =>
      obtain ⟨before, after, hbefore, hafter⟩ := exists_append_of_set hplace
      refine ⟨tried, { h with items := ?_, continues := ?_, log := ?_ }⟩
      · rw [← h.items, hafter, hbefore]
        simp
      · have hcontinues := h.continues
        rw [hbefore, List.forall_mem_append, List.forall_mem_cons] at hcontinues
        obtain ⟨hfirst, hhandling, hlast⟩ := hcontinues
        rw [hafter, List.forall_mem_append, List.forall_mem_cons]
        exact ⟨hfirst, fun later run => hhandling later (Task.runs_told.mpr ⟨answer, run⟩), hlast⟩
      · have hlog := h.log.cons ⟨request, answer⟩
        rw [hbefore, List.flatMap_append, List.flatMap_cons, ← List.append_assoc] at hlog
        rw [hafter, List.flatMap_append, List.flatMap_cons, ← List.append_assoc]
        exact hlog.trans List.perm_middle.symm

theorem Tracks.reaches (h : Tracks d now tried p) (hreaches : Reaches d now permits p q) :
    ∃ tried, Tracks d now tried q := by
  induction hreaches with
  | refl => exact ⟨tried, h⟩
  | tail _ step ih =>
      obtain ⟨_, hmiddle⟩ := ih
      exact hmiddle.step step

/-- A poll that is over has a complete account. -/
theorem Tracks.accounts (h : Tracks d now tried p) (hover : p.IsOver) : p.Accounts d now tried := by
  have hloop : p.past.reverse = tried.exchanges d now := by
    rw [← h.loop, hover.owed, Option.toList_none, List.map_nil, List.append_nil]
  refine
    { queues := by rw [← h.queues, hover.ahead, List.append_nil]
      loop := hloop
      items := by rw [← h.items, hover.waiting, List.append_nil]
      processed := ?_
      log := h.log
      counters := ?_
      result := ?_ }
  · intro handling hmem
    have hdone := hover.handlings handling hmem
    have hcontinues := h.continues handling hmem
    obtain ⟨item, past, rest⟩ := handling
    cases rest with
    | ask => cases hdone
    | done =>
        have hruns := hcontinues past .done
        exact ⟨hruns, Dispatcher.processed_of_runs hruns⟩
  · intro c counter
    have hpast : PollHistory.counts counter p.past = tried.counts counter := by
      rw [← Claims.counts_exchanges tried d now, ← hloop]
      exact PollHistory.counts_perm p.past.reverse_perm.symm
    rw [Counters.value_after, PollHistory.counts_perm h.log, PollHistory.counts_append, hpast,
      PollHistory.counts_flatMap, Nat.add_assoc]
  · cases herror : tried.firstFailure? <;> simp [result, h.error, h.claimed, herror]

end Pool

/-! ## The queues of a table -/

namespace QueueTable

variable {α : Type}

/-- The table of some handlers, each put in after those before it. -/
def of (handlers : List (String × α)) : QueueTable α :=
  handlers.foldl (fun t h => t.register h.1 h.2) {}

variable {queue other : String} {handler : α}

theorem mem_queues_register {t : QueueTable α} :
    other ∈ (t.register queue handler).queues ↔ other = queue ∨ other ∈ t.queues := by
  obtain ⟨entries⟩ := t
  show other ∈ (insert queue handler entries).map Prod.fst ↔
    other = queue ∨ other ∈ entries.map Prod.fst
  induction entries with
  | nil => simp [insert]
  | cons entry rest ih =>
      obtain ⟨key, h⟩ := entry
      rw [insert]
      split_ifs with hlt heq
      · simp
      · subst heq
        simp
      · simp only [List.map_cons, List.mem_cons, ih]
        exact or_left_comm

theorem sorted_queues_register {t : QueueTable α} (h : t.queues.Pairwise (· < ·)) :
    (t.register queue handler).queues.Pairwise (· < ·) := by
  obtain ⟨entries⟩ := t
  show ((insert queue handler entries).map Prod.fst).Pairwise (· < ·)
  replace h : (entries.map Prod.fst).Pairwise (· < ·) := h
  induction entries with
  | nil => exact List.pairwise_singleton _ _
  | cons entry rest ih =>
      obtain ⟨key, h'⟩ := entry
      obtain ⟨hkey, hrest⟩ := List.pairwise_cons.mp h
      rw [insert]
      split_ifs with hlt heq
      · refine List.pairwise_cons.mpr ⟨fun other hother => ?_, h⟩
        rcases List.mem_cons.mp hother with rfl | hother
        · exact hlt
        · exact String.lt_trans hlt (hkey other hother)
      · subst heq
        exact h
      · refine List.pairwise_cons.mpr ⟨fun other hother => ?_, ih hrest⟩
        have hmem : other ∈ (register ⟨rest⟩ queue handler).queues := hother
        rcases mem_queues_register.mp hmem with rfl | hother
        · exact lt_of_le_of_ne (not_lt.mp hlt) fun h => heq h.symm
        · exact hkey other hother

private theorem queues_foldl (handlers : List (String × α)) {t : QueueTable α}
    (h : t.queues.Pairwise (· < ·)) :
    (handlers.foldl (fun t h => t.register h.1 h.2) t).queues.Pairwise (· < ·) ∧
      ∀ queue, queue ∈ (handlers.foldl (fun t h => t.register h.1 h.2) t).queues ↔
        queue ∈ handlers.map Prod.fst ∨ queue ∈ t.queues := by
  induction handlers generalizing t with
  | nil => exact ⟨h, fun queue => by simp⟩
  | cons handler rest ih =>
      have hregister : (t.register handler.1 handler.2).queues.Pairwise (· < ·) :=
        sorted_queues_register h
      obtain ⟨hsorted, hmem⟩ := ih hregister
      refine ⟨hsorted, fun queue => ?_⟩
      rw [List.foldl_cons, hmem, mem_queues_register, List.map_cons, List.mem_cons]
      exact or_left_comm.trans (or_assoc.symm)

/-- The queues of a table are those of its handlers, each once and in increasing order. -/
theorem queues_of (handlers : List (String × α)) :
    (of handlers).queues.Pairwise (· < ·) ∧
      ∀ queue, queue ∈ (of handlers).queues ↔ queue ∈ handlers.map Prod.fst := by
  obtain ⟨hsorted, hmem⟩ := queues_foldl handlers (t := {}) List.Pairwise.nil
  exact ⟨hsorted, fun queue => (hmem queue).trans (or_iff_left List.not_mem_nil)⟩

end QueueTable

/-! ## A poll handles each claim once -/

namespace Dispatcher

open Pool (Step Reaches)

/-- **A poll handles each claim once.** Whatever the store and the handlers answer, and however many
handlings may go on at a time: the poll comes to its end, and then it has the account that is asked of
it. `Dispatcher.poll` is such a poll. -/
theorem claims_handled_once {α : Type} (d : Dispatcher) (handlers : List (String × α))
    (hhandled : d.handled = (QueueTable.of handlers).queues) (now : Instant) :
    (d.config.queues ≠ [] → d.queues = d.config.queues) ∧
    (d.config.queues = [] → d.queues.Pairwise (· < ·) ∧
      ∀ queue, queue ∈ d.queues ↔ queue ∈ handlers.map Prod.fst) ∧
    (∀ result past, (d.poll now).Runs Task.Told [] result past →
      ∃ p, Reaches d now 1 d.pool p ∧ p.IsOver ∧ p.result = result ∧ p.log = past) ∧
    ∀ permits, 0 < permits →
      (WellFounded fun q p => Step d now permits p q) ∧
      ∀ p, Reaches d now permits d.pool p →
        (¬ p.IsOver → ∃ q, Step d now permits p q) ∧
        (p.IsOver → ∃ tried, p.Accounts d now tried) := by
  refine ⟨fun hconfig => ?_, fun hconfig => ?_, fun _ _ => reaches_of_poll, ?_⟩
  · rw [queues, if_neg (by simpa using hconfig)]
  · rw [queues, hconfig, List.isEmpty_nil, if_pos rfl, hhandled]
    exact QueueTable.queues_of handlers
  · intro permits hpermits
    refine ⟨Pool.wellFounded_step d now permits, fun p hreaches => ?_⟩
    refine ⟨Pool.exists_step hpermits, fun hover => ?_⟩
    obtain ⟨tried, htracks⟩ := (Pool.tracks_pool d now).reaches hreaches
    exact ⟨tried, htracks.accounts hover⟩

/-! ### Two handlings side by side -/

/-- A dispatcher that lets two handlers run at a time. -/
def paired : Dispatcher where
  config := { name := "pair", maxConcurrent := 2 }
  handled := ["first", "second"]

/-- An item of the second queue. -/
def pairItem (n : Nat) : Item :=
  Item.ofNew ⟨.ofNat n⟩ ⟨"second", "owner", .first, .null⟩ .first

/-- The answer of a store that is out of reach. -/
def outOfReach {α : Type} : Except StoreError α := .error ⟨.unavailable, ""⟩

/-- The claim of the first queue fails and that of the second yields two items. Both are started; the
owner of the one cannot be looked up while the handler of the other is at work. -/
theorem paired_reaches : ∃ p, Reaches paired .first 2 paired.pool p ∧ p.IsOver ∧
    p.result = outOfReach := by
  have hfailed : Reaches paired .first 2 paired.pool _ :=
    ((Relation.ReflTransGen.single (.count rfl)).tail (.claim outOfReach rfl rfl rfl)).tail
      (.count rfl)
  have hclaimed :=
    (hfailed.tail (.claim (.ok [pairItem 1, pairItem 2]) rfl rfl rfl)).tail (.count rfl)
  have hstarted := (hclaimed.tail (.start rfl rfl (by decide))).tail (.start rfl rfl (by decide))
  have hlookedUp := (hstarted.tail
    (@Step.work _ _ _ _ 1 _ _ _ _ (.ok false : Except StoreError Bool) rfl)).tail
      (@Step.work _ _ _ _ 0 _ _ _ _ (outOfReach : Except StoreError Bool) rfl)
  have hran := (hlookedUp.tail
    (@Step.work _ _ _ _ 1 _ _ _ _ (HandlerRun.returned (.ok .done)) rfl)).tail
      (@Step.work _ _ _ _ 0 _ _ _ _ () rfl)
  have hsettled := (hran.tail (@Step.work _ _ _ _ 1 _ _ _ _ () rfl)).tail
    (@Step.work _ _ _ _ 1 _ _ _ _ (.ok true : Except StoreError Bool) rfl)
  exact ⟨_, hsettled, ⟨rfl, rfl, rfl, by decide⟩, rfl⟩

private theorem exists_runs_ask {α : Type} {past : PollHistory} {request : PollRequest}
    {next : request.Answer → PollTask α} {value : α} (answer : request.Answer)
    (h : ∃ later, (next answer).Runs Task.Told (⟨request, answer⟩ :: past) value later) :
    ∃ later, (Task.ask request next).Runs Task.Told past value later := by
  obtain ⟨later, run⟩ := h
  exact ⟨later, Task.runs_told.mpr ⟨answer, run⟩⟩

/-- The same answers to a poll with one permit. -/
theorem paired_polls : ∃ past, (paired.poll .first).Runs Task.Told [] outOfReach past := by
  refine exists_runs_ask () ?_
  refine exists_runs_ask (outOfReach : Except StoreError (List Item)) (exists_runs_ask () ?_)
  refine exists_runs_ask (.ok [pairItem 1, pairItem 2] : Except StoreError (List Item))
    (exists_runs_ask () ?_)
  refine exists_runs_ask (outOfReach : Except StoreError Bool) (exists_runs_ask () ?_)
  refine exists_runs_ask (.ok false : Except StoreError Bool) ?_
  refine exists_runs_ask (HandlerRun.returned (.ok .done)) (exists_runs_ask () ?_)
  exact exists_runs_ask (.ok true : Except StoreError Bool) ⟨_, .done⟩

/-- A poll of the dispatcher, and one in which two handlings go on side by side. -/
theorem claims_handled_once_paired :
    paired.queues.Pairwise (· < ·) ∧
    (∃ p tried, Reaches paired .first 1 paired.pool p ∧ p.result = outOfReach ∧
      p.Accounts paired .first tried) ∧
    ∃ p tried, Reaches paired .first 2 paired.pool p ∧ p.result = outOfReach ∧
      p.Accounts paired .first tried := by
  obtain ⟨-, hqueues, hpolls, hpools⟩ :=
    claims_handled_once paired [("second", ()), ("first", ())] rfl .first
  obtain ⟨past, hrun⟩ := paired_polls
  obtain ⟨p, hp, hoverp, hresultp, -⟩ := hpolls _ _ hrun
  obtain ⟨q, hq, hoverq, hresultq⟩ := paired_reaches
  obtain ⟨triedp, haccountsp⟩ := ((hpools 1 (by decide)).2 p hp).2 hoverp
  obtain ⟨triedq, haccountsq⟩ := ((hpools 2 (by decide)).2 q hq).2 hoverq
  exact ⟨(hqueues rfl).1, ⟨p, triedp, hp, hresultp, haccountsp⟩, q, triedq, hq, hresultq, haccountsq⟩

end Dispatcher

end Dunning
