import Dunning.Proofs.Task.Interleaving
import Dunning.Work.Dispatcher

/-!
# What polls and handlings ask

A poll claims, counts and handles what it claimed; a handling looks the owner up, has the handler run
and writes what becomes of the item. This is said once, for every rule about what may be asked after
which history: it is enough to know that the rule allows each of these requests where it is made.

## Main definitions

* `PollHistory` — what a task of a dispatcher asked and was told.
* `Dispatcher.HandlesBy`, `Dispatcher.PollsBy` — a rule allows the requests of a handling, and those of
  a poll for what it holds.

## Main results

* `Dispatcher.HandlesBy.process` — handlings keep to such a rule.
* `Dispatcher.PollsBy.poll` — polls keep to such a rule.
-/

namespace Dunning

variable {α : Type}

/-- What a task of a dispatcher asked and was told, the latest first. -/
abbrev PollHistory : Type := List (Exchange PollRequest PollRequest.Answer)

namespace Dispatcher

/-- Whether a task of a dispatcher keeps to a rule, whatever it is told. -/
abbrev KeepsTo (rule : PollHistory → PollRequest → Prop) (past : PollHistory) (t : PollTask α) :
    Prop :=
  t.Keeps (fun _ => True) rule past

/-- Whether a rule lets any task count and report, whatever it was told. -/
structure Free (rule : PollHistory → PollRequest → Prop) : Prop where
  count : ∀ {past counter n}, rule past (.count counter n)
  report : ∀ {past item reason}, rule past (.reportDead item reason)

variable {d : Dispatcher} {rule : PollHistory → PollRequest → Prop} {past : PollHistory}
  {item : Item} {now : Instant}

theorem Free.countAll (free : Free rule) (counters : List Counter) :
    KeepsTo rule past (countAll counters) := by
  induction counters generalizing past with
  | nil => exact .done ()
  | cons counter rest ih => exact .call free.count fun _ _ => ih

/-- A settlement is tried again as long as the rule allows it. -/
theorem Free.settleWithin (free : Free rule) {settlement : Settlement} (tries : Nat)
    (h : ∀ later, past ⊆ later →
      rule later (.work (.settle item.id d.config.name settlement))) :
    KeepsTo rule past (d.settleWithin item settlement tries) := by
  induction tries generalizing past with
  | zero => exact .done ()
  | succ tries ih =>
      refine .ask (h past (List.Subset.refl past)) fun answer _ => ?_
      rcases answer with e | _ | _
      · refine .ask free.count fun _ _ => ?_
        simp only [Task.bind_done]
        split
        · refine ih fun later hlater => h later (List.Subset.trans ?_ hlater)
          exact List.subset_cons_of_subset _ (List.subset_cons_self _ _)
        · exact .done ()
      · exact .call free.count fun _ _ => .done ()
      · simp only
        split
        · exact .call free.report fun _ _ => .done ()
        · exact .done ()

/-! ## Handlings -/

/-- Whether a rule allows the requests of the handling of an item from a history on: the owner is looked
up, the handler is told the answer, and its run decides what is written. An item of a queue without a
handler is dropped. -/
structure HandlesBy (d : Dispatcher) (item : Item) (now : Instant)
    (rule : PollHistory → PollRequest → Prop) (past : PollHistory) : Prop where
  lookUp : rule past (.work (.isOwnerCancelled item.owner))
  invoke : ∀ closed later, past ⊆ later →
    ⟨.work (.isOwnerCancelled item.owner), .ok closed⟩ ∈ later →
    rule later (.invoke item (d.context item now closed))
  settle : ∀ closed run settlement later, past ⊆ later →
    ⟨.invoke item (d.context item now closed), run⟩ ∈ later →
    (d.settlement item now run).2 = some settlement →
    rule later (.work (.settle item.id d.config.name settlement))
  drop : item.queue ∉ d.handled → ∀ later, past ⊆ later →
    rule later (.work (.settle item.id d.config.name .complete))

/-- **Handlings keep to every rule that allows their requests.** -/
theorem HandlesBy.process (h : d.HandlesBy item now rule past) (free : Free rule) :
    KeepsTo rule past (d.process item now) := by
  unfold Dispatcher.process
  split
  · refine .ask h.lookUp fun answer _ => ?_
    cases answer with
    | error e => exact .call free.count fun _ _ => .done ()
    | ok closed =>
        have hlookup := List.subset_cons_self
          (⟨.work (.isOwnerCancelled item.owner), .ok closed⟩ :
            Exchange PollRequest PollRequest.Answer) past
        refine .ask (h.invoke closed _ hlookup List.mem_cons_self) fun run _ => ?_
        refine (free.countAll _).bind fun _ later hlater => ?_
        have hpast := List.Subset.trans (List.subset_cons_of_subset _ hlookup) hlater
        split
        · rename_i settlement hsettlement
          refine free.settleWithin _ fun last hlast => ?_
          exact h.settle closed run settlement last (List.Subset.trans hpast hlast)
            (hlast (hlater List.mem_cons_self)) hsettlement
        · exact .done ()
  · rename_i hqueue
    refine .ask free.count fun _ _ => free.settleWithin _ fun later hlater => ?_
    exact h.drop (by simpa using hqueue) later
      (List.Subset.trans (List.subset_cons_self _ _) hlater)

/-! ## Polls -/

/-- Whether a rule allows the requests of a poll, given what is held after a history: what was claimed
is held from then on, and what is held may be handled. -/
structure PollsBy (d : Dispatcher) (now : Instant) (rule : PollHistory → PollRequest → Prop)
    (held : PollHistory → Item → Prop) : Prop where
  free : Free rule
  mono : ∀ {past later item}, held past item → past ⊆ later → held later item
  claim : ∀ past queue lease batch claimer,
    rule past (.work (.claimDue queue now lease batch claimer))
  claimed : ∀ past queue lease batch claimer items item, item ∈ items →
    held (⟨.work (.claimDue queue now lease batch claimer), .ok items⟩ :: past) item
  process : ∀ {past item}, held past item → KeepsTo rule past (d.process item now)

namespace PollsBy

variable {held : PollHistory → Item → Prop}

theorem finish (h : d.PollsBy now rule held) {started : Option Item}
    (hstarted : ∀ item ∈ started, held past item) : KeepsTo rule past (d.finish now started) := by
  cases started with
  | none => exact .done ()
  | some item => exact h.process (hstarted item rfl)

/-- What is started and what is left to start stays held while the items before it are handled. -/
theorem startAll (h : d.PollsBy now rule held) {started : Option Item} {items : List Item}
    {f : Option Item → PollTask α} (hstarted : ∀ item ∈ started, held past item)
    (hitems : ∀ item ∈ items, held past item)
    (hf : ∀ started later, past ⊆ later → (∀ item ∈ started, held later item) →
      KeepsTo rule later (f started)) :
    KeepsTo rule past ((d.startAll now started items).bind f) := by
  induction items generalizing started past with
  | nil => exact hf started past (List.Subset.refl past) hstarted
  | cons item rest ih =>
      rw [Dispatcher.startAll, Task.bind_assoc]
      refine (h.finish hstarted).bind fun _ later hlater => ih ?_ ?_ ?_
      · rintro _ ⟨⟩
        exact h.mono (hitems item List.mem_cons_self) hlater
      · intro other hother
        exact h.mono (hitems other (List.mem_cons_of_mem _ hother)) hlater
      · intro started last hlast hlaststarted
        exact hf started last (List.Subset.trans hlater hlast) hlaststarted

theorem pollQueues (h : d.PollsBy now rule held) (queues : List String) {progress : Progress}
    {f : Progress → PollTask α} (hstarted : ∀ item ∈ progress.started, held past item)
    (hf : ∀ (progress : Progress) later, (∀ item ∈ progress.started, held later item) →
      KeepsTo rule later (f progress)) :
    KeepsTo rule past ((d.pollQueues now queues progress).bind f) := by
  induction queues generalizing progress past with
  | nil => exact hf progress past hstarted
  | cons queue rest ih =>
      rw [Dispatcher.pollQueues, Task.bind_assoc]
      have hkept (x y : Exchange PollRequest PollRequest.Answer) (item : Item)
          (hitem : item ∈ progress.started) : held (x :: y :: past) item :=
        h.mono (hstarted item hitem) (List.subset_cons_of_subset _ (List.subset_cons_self _ _))
      refine .ask (h.claim _ _ _ _ _) fun answer _ => ?_
      cases answer with
      | error e => exact .ask h.free.count fun _ _ => ih (hkept _ _)
      | ok items =>
          refine .ask h.free.count fun _ _ => ?_
          simp only [Task.bind_done, Task.bind_assoc]
          refine h.startAll (hkept _ _) ?_ fun started later _ hlater => ih hlater
          intro item hitem
          exact h.mono (h.claimed past queue _ _ _ items item hitem) (List.subset_cons_self _ _)

/-- **Polls keep to every rule that allows their requests.** -/
theorem poll (h : d.PollsBy now rule held) : KeepsTo rule past (d.poll now) := by
  refine .call h.free.count fun _ _ => ?_
  simp only [Task.bind_done]
  refine h.pollQueues _ (fun _ hitem => by cases hitem) fun progress later hprogress => ?_
  exact (h.finish hprogress).bind fun _ _ _ => .done _

end PollsBy

end Dispatcher

end Dunning
