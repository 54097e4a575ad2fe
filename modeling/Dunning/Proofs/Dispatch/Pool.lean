import Dunning.Proofs.Dispatch.Polls
import Dunning.Proofs.Dispatch.Shifts
import Mathlib.Logic.Hydra

/-!
# A poll with a pool of handlings

A dispatcher may let several handlers run at a time. The handlings of the items that a poll claimed
then go on side by side and in any order, each with a permit of its own. The loop over the queues goes
on beside them: it starts the items of a claim one after another, each as soon as there is a permit,
and claims from the next queue when the last of them has been started.

With one permit the pool can do what `Dispatcher.poll` does. With any number of them it comes to an
end in every order of its steps.

## Main definitions

* `Pool` — a poll with its handlings.
* `Pool.Step`, `Pool.Reaches` — one request of a poll, or the start of a handling, and any number of
  them.
* `Pool.IsOver`, `Pool.result` — the end of a poll and what it returns.

## Main results

* `Pool.exists_step` — a poll with a permit is stuck nowhere.
* `Pool.wellFounded_step` — no poll goes on forever.
* `Dispatcher.reaches_of_poll` — the polls of a dispatcher are polls with one permit.
-/

namespace Dunning

/-- The handling of an item that has been started. -/
structure Pool.Handling where
  item : Item
  /-- What the handling asked and was told, the latest first. -/
  past : PollHistory := []
  /-- What is left of the handling. -/
  rest : PollTask Unit

/-- A poll with its handlings. -/
structure Pool where
  /-- The queues that are still to be claimed from. -/
  ahead : List String
  /-- What the loop over the queues counts before it goes on. -/
  owed : Option (Counter × Nat) := some (.polls, 1)
  /-- The claimed items that are still to be started. -/
  waiting : List Item := []
  handlings : List Pool.Handling := []
  claimed : Nat := 0
  /-- The first failed claim. -/
  error : Option StoreError := none
  /-- What the loop over the queues asked and was told, the latest first. -/
  past : PollHistory := []
  /-- What the loop over the queues and the handlings asked and were told. -/
  log : PollHistory := []

namespace Dispatcher

/-- A poll before its first request. -/
def pool (d : Dispatcher) : Pool := { ahead := d.queues }

/-- The handling of an item before its first request. -/
def handling (d : Dispatcher) (now : Instant) (item : Item) : Pool.Handling :=
  ⟨item, [], d.process item now⟩

end Dispatcher

namespace Pool

/-- What is counted when a claim is answered. -/
def noted : Except StoreError (List Item) → Counter × Nat
  | .ok items => (.claimed, items.length)
  | .error _ => (.storageErrors, 1)

/-- The failure of a claim. -/
def failure? : Except StoreError (List Item) → Option StoreError
  | .ok _ => none
  | .error e => some e

/-- The number of handlings under way. -/
def running (p : Pool) : Nat := p.handlings.countP fun h => !h.rest.isDone

/-- Whether a poll is over: there is nothing left to claim, and all that was claimed is handled. -/
structure IsOver (p : Pool) : Prop where
  owed : p.owed = none
  waiting : p.waiting = []
  ahead : p.ahead = []
  handlings : ∀ h ∈ p.handlings, h.rest.isDone = true

/-- What a poll that is over returns. -/
def result (p : Pool) : Except StoreError Nat :=
  match p.error with
  | some e => .error e
  | none => .ok p.claimed

/-- A count, which has no answer to speak of. -/
def counting (owed : Counter × Nat) : Exchange PollRequest PollRequest.Answer :=
  ⟨.count owed.1 owed.2, ()⟩

/-- The claim of a queue with its answer. -/
def claiming (d : Dispatcher) (now : Instant) (queue : String)
    (answer : Except StoreError (List Item)) : Exchange PollRequest PollRequest.Answer :=
  ⟨.work (d.claim now queue), answer⟩

/-- One step of a poll: the loop over the queues counts, claims from the next queue or starts the next
item, or one request of one of the handlings is answered. -/
inductive Step (d : Dispatcher) (now : Instant) (permits : Nat) (p : Pool) : Pool → Prop where
  | count {owed : Counter × Nat} : p.owed = some owed →
      Step d now permits p
        { p with owed := none, past := counting owed :: p.past, log := counting owed :: p.log }
  | claim {queue : String} {ahead : List String} (answer : Except StoreError (List Item)) :
      p.owed = none → p.waiting = [] → p.ahead = queue :: ahead →
      Step d now permits p
        { p with
          ahead
          owed := some (noted answer)
          waiting := Shift.claimed answer
          claimed := p.claimed + (Shift.claimed answer).length
          error := p.error.or (failure? answer)
          past := claiming d now queue answer :: p.past
          log := claiming d now queue answer :: p.log }
  | start {item : Item} {waiting : List Item} :
      p.owed = none → p.waiting = item :: waiting → p.running < permits →
      Step d now permits p { p with waiting, handlings := p.handlings ++ [d.handling now item] }
  | work {place : Nat} {item : Item} {past : PollHistory} {request : PollRequest}
      {next : request.Answer → PollTask Unit} (answer : request.Answer) :
      p.handlings[place]? = some ⟨item, past, .ask request next⟩ →
      Step d now permits p
        { p with
          handlings := p.handlings.set place ⟨item, ⟨request, answer⟩ :: past, next answer⟩
          log := ⟨request, answer⟩ :: p.log }

/-- Any number of steps. -/
def Reaches (d : Dispatcher) (now : Instant) (permits : Nat) : Pool → Pool → Prop :=
  Relation.ReflTransGen (Step d now permits)

end Pool

/-! ## The end of a poll -/

/-- Every request can be answered. -/
theorem PollRequest.nonempty_answer (request : PollRequest) : Nonempty request.Answer := by
  cases request with
  | work request => cases request <;> exact ⟨.error ⟨.unavailable, ""⟩⟩
  | invoke => exact ⟨.panicked⟩
  | count => exact ⟨()⟩
  | reportDead => exact ⟨()⟩

namespace Pool

variable {d : Dispatcher} {now : Instant} {permits : Nat} {p q : Pool}

/-- What replacing one of the handlings leaves as it is. -/
theorem exists_append_of_set {handlings : List Handling} {place : Nat} {h : Handling}
    (hplace : handlings[place]? = some h) : ∃ before after, handlings = before ++ h :: after ∧
      ∀ h' : Handling, handlings.set place h' = before ++ h' :: after := by
  obtain ⟨hlt, rfl⟩ := List.getElem?_eq_some_iff.mp hplace
  refine ⟨handlings.take place, handlings.drop (place + 1), ?_, fun h' => ?_⟩
  · rw [← List.drop_eq_getElem_cons hlt, List.take_append_drop]
  · rw [List.set_eq_take_append_cons_drop, if_pos hlt]

/-- A handling that is under way can go on. -/
private theorem exists_work {h : Handling} (hmem : h ∈ p.handlings) (hrest : h.rest.isDone = false) :
    ∃ q, Step d now permits p q := by
  obtain ⟨item, past, rest⟩ := h
  obtain ⟨place, hplace⟩ := List.getElem?_of_mem hmem
  cases rest with
  | done => cases hrest
  | ask request next =>
      obtain ⟨answer⟩ := request.nonempty_answer
      exact ⟨_, .work answer hplace⟩

/-- **A poll with a permit is stuck nowhere.** -/
theorem exists_step (hpermits : 0 < permits) (h : ¬ p.IsOver) : ∃ q, Step d now permits p q := by
  cases howed : p.owed with
  | some owed => exact ⟨_, .count howed⟩
  | none =>
      cases hwaiting : p.waiting with
      | cons item waiting =>
          rcases Nat.lt_or_ge p.running permits with hfree | hfull
          · exact ⟨_, .start howed hwaiting hfree⟩
          · -- Without a permit for the item, another one is being handled.
            have hrunning : 0 < p.running := Nat.lt_of_lt_of_le hpermits hfull
            obtain ⟨h, hmem, hrest⟩ := List.countP_pos_iff.mp hrunning
            exact exists_work hmem (by simpa using hrest)
      | nil =>
          cases hahead : p.ahead with
          | cons queue ahead => exact ⟨_, .claim (.ok []) howed hwaiting hahead⟩
          | nil =>
              have hopen : ∃ h ∈ p.handlings, h.rest.isDone = false := by
                by_contra hclosed
                refine h ⟨howed, hwaiting, hahead, fun h hmem => ?_⟩
                by_contra hrest
                exact hclosed ⟨h, hmem, by simpa using hrest⟩
              obtain ⟨h, hmem, hrest⟩ := hopen
              exact exists_work hmem hrest

/-- What is left of a task after a request. -/
private inductive Below : PollTask Unit → PollTask Unit → Prop where
  | next {request : PollRequest} {next : request.Answer → PollTask Unit} (answer : request.Answer) :
      Below (next answer) (.ask request next)

private theorem wellFounded_below : WellFounded Below := by
  refine ⟨fun t => ?_⟩
  induction t with
  | done value => exact ⟨_, nofun⟩
  | ask request next ih => exact ⟨_, fun _ h => by cases h with | next answer => exact ih answer⟩

/-- What is left of the loop over the queues: a claim is worth any number of starts, a start any
number of counts. -/
private abbrev LoopRest : Type := Nat ×ₗ Nat ×ₗ Nat

/-- What is left of a poll: each handling, and the loop over the queues. -/
private def rank (p : Pool) : Multiset (PollTask Unit ⊕ LoopRest) :=
  Multiset.ofList (p.handlings.map fun h => .inl h.rest) +
    {.inr (toLex (p.ahead.length, toLex (p.waiting.length, p.owed.toList.length)))}

/-- The loop over the queues is worth any number of handlings. -/
private abbrev Less : PollTask Unit ⊕ LoopRest → PollTask Unit ⊕ LoopRest → Prop :=
  Sum.Lex Below (· < ·)

/-- A handling becomes less by every answer, the loop over the queues by everything else. -/
private theorem Step.rank_lt (h : Step d now permits p q) :
    Relation.CutExpand Less q.rank p.rank := by
  cases h with
  | count howed =>
      refine Relation.cutExpand_add_single _ (.inr ?_)
      simp [howed, Prod.Lex.toLex_lt_toLex]
  | claim answer howed hwaiting hahead =>
      refine Relation.cutExpand_add_single _ (.inr ?_)
      simp [hahead, Prod.Lex.toLex_lt_toLex]
  | start howed hwaiting hfree =>
      simp only [rank, List.map_append, ← Multiset.coe_add, List.map_cons, List.map_nil,
        Multiset.coe_singleton, add_assoc]
      refine (Relation.cutExpand_add_left _).mpr (Relation.cutExpand_singleton fun x hx => ?_)
      rcases Multiset.mem_add.mp hx with hx | hx <;> rw [Multiset.mem_singleton.mp hx]
      · exact .sep _ _
      · refine .inr ?_
        simp [hwaiting, Prod.Lex.toLex_lt_toLex]
  | @work place item past request next answer hplace =>
      obtain ⟨before, after, hbefore, hafter⟩ := exists_append_of_set hplace
      refine (Relation.cutExpand_add_right _).mpr ?_
      rw [hafter _, hbefore]
      simp only [List.map_append, List.map_cons, ← Multiset.coe_add, ← Multiset.cons_coe,
        ← Multiset.singleton_add]
      have hless : Less (.inl (next answer)) (.inl (.ask request next)) := .inl (.next answer)
      exact (Relation.cutExpand_add_left _).mpr (Relation.cutExpand_single_add hless _)

/-- **No poll goes on forever.** -/
theorem wellFounded_step (d : Dispatcher) (now : Instant) (permits : Nat) :
    WellFounded fun q p => Step d now permits p q := by
  have hless : WellFounded Less := Sum.lex_wf wellFounded_below wellFounded_lt
  exact Subrelation.wf (fun h => h.rank_lt) (InvImage.wf rank hless.cutExpand)

/-! ## Polls with one permit -/

/-- A handling that is under way runs to its end. -/
private theorem exists_reaches_of_runs {finished : List Handling} {item : Item}
    {own past later : PollHistory} {t : PollTask Unit} {value : Unit}
    (run : t.Runs Task.Told past value later)
    (hhandlings : p.handlings = finished ++ [⟨item, own, t⟩]) (hlog : p.log = past) :
    ∃ own, Reaches d now permits p
      { p with handlings := finished ++ [⟨item, own, .done ()⟩], log := later } := by
  induction run generalizing p own with
  | done =>
      obtain ⟨ahead, owed, waiting, handlings, claimed, error, loop, log⟩ := p
      subst hhandlings hlog
      exact ⟨own, Relation.ReflTransGen.refl⟩
  | @ask request next answer value past middle later hanswer hrest ih =>
      subst hlog hanswer
      have hplace : p.handlings[finished.length]? = some ⟨item, own, .ask request next⟩ := by
        rw [hhandlings, List.getElem?_append_right (Nat.le_refl _), Nat.sub_self]
        rfl
      have hstep : Step d now permits p _ := .work answer hplace
      have hset : p.handlings.set finished.length ⟨item, ⟨request, answer⟩ :: own, next answer⟩ =
          finished ++ [⟨item, ⟨request, answer⟩ :: own, next answer⟩] := by
        simp [hhandlings]
      rw [hset] at hstep
      obtain ⟨own, hreaches⟩ := ih (p := { p with
        handlings := finished ++ [⟨item, ⟨request, answer⟩ :: own, next answer⟩]
        log := ⟨request, answer⟩ :: p.log }) rfl rfl
      exact ⟨own, Relation.ReflTransGen.head hstep hreaches⟩

end Pool

namespace Dispatcher

open Pool (Step Reaches)

variable {d : Dispatcher} {now : Instant} {ahead : List String} {waiting : List Item}
  {progress : Progress} {past later : PollHistory} {p : Pool}

/-- Where a poll with one permit is when `Dispatcher.poll` has come to `progress`: the item started
last is the only one that may not be handled. -/
private structure Follows (d : Dispatcher) (now : Instant) (ahead : List String)
    (waiting : List Item) (progress : Progress) (past : PollHistory) (p : Pool) : Prop where
  ahead : p.ahead = ahead
  owed : p.owed = none
  waiting : p.waiting = waiting
  claimed : p.claimed = progress.claimed
  error : p.error = progress.error
  log : p.log = past
  handlings : ∃ finished : List Pool.Handling, (∀ h ∈ finished, h.rest.isDone = true) ∧
    p.handlings = finished ++ progress.started.toList.map (d.handling now)

private theorem Follows.finish (h : Follows d now ahead waiting progress past p) {value : Unit}
    (run : (d.finish now progress.started).Runs Task.Told past value later) :
    ∃ q, Reaches d now 1 p q ∧
      Follows d now ahead waiting { progress with started := none } later q := by
  obtain ⟨finished, hfinished, hhandlings⟩ := h.handlings
  cases hstarted : progress.started with
  | none =>
      rw [hstarted] at run hhandlings
      cases run
      exact ⟨p, Relation.ReflTransGen.refl, { h with handlings := ⟨finished, hfinished, hhandlings⟩ }⟩
  | some item =>
      rw [hstarted] at run hhandlings
      obtain ⟨own, hreaches⟩ := Pool.exists_reaches_of_runs run hhandlings h.log
      refine ⟨_, hreaches, { h with log := rfl, handlings := ⟨_, ?_, (List.append_nil _).symm⟩ }⟩
      intro other hother
      rcases List.mem_append.mp hother with hother | hother
      · exact hfinished other hother
      · rw [List.mem_singleton.mp hother]
        rfl

/-- The items of a claim are started one after another. -/
private theorem Follows.startAll {items : List Item} {started : Option Item}
    (h : Follows d now ahead items progress past p)
    (run : (d.startAll now progress.started items).Runs Task.Told past started later) :
    ∃ q, Reaches d now 1 p q ∧ Follows d now ahead [] { progress with started } later q := by
  induction items generalizing progress past p with
  | nil =>
      cases run
      exact ⟨p, Relation.ReflTransGen.refl, h⟩
  | cons item rest ih =>
      obtain ⟨_, middle, hfinish, hrest⟩ := Task.runs_bind.mp run
      obtain ⟨q, hreaches, hq⟩ := h.finish hfinish
      obtain ⟨finished, hfinished, hhandlings⟩ := hq.handlings
      have hfree : q.running < 1 := by
        rw [Pool.running, hhandlings, Nat.lt_one_iff, List.countP_eq_zero]
        simpa using hfinished
      have hstep : Step d now 1 q _ := .start hq.owed hq.waiting hfree
      have hstarted : Follows d now ahead rest { progress with started := some item } middle
          { q with waiting := rest, handlings := q.handlings ++ [d.handling now item] } :=
        { hq with
          waiting := rfl
          handlings := ⟨finished, hfinished, by simp [hhandlings]⟩ }
      obtain ⟨r, hlater, hr⟩ := ih hstarted hrest
      exact ⟨r, hreaches.trans (.head hstep hlater), hr⟩

/-- A claim and the count that follows it. -/
private theorem Follows.claim {queue : String} (h : Follows d now (queue :: ahead) [] progress past p)
    (answer : Except StoreError (List Item)) :
    ∃ q, Reaches d now 1 p q ∧
      Follows d now ahead (Shift.claimed answer)
        { progress with
          claimed := progress.claimed + (Shift.claimed answer).length
          error := progress.error.or (Pool.failure? answer) }
        (Pool.counting (Pool.noted answer) :: Pool.claiming d now queue answer :: past) q := by
  refine ⟨_, .tail (.single (.claim answer h.owed h.waiting h.ahead)) (.count rfl), ?_⟩
  exact
    { ahead := rfl
      owed := rfl
      waiting := rfl
      claimed := by rw [h.claimed]
      error := by rw [h.error]
      log := by rw [h.log]
      handlings := h.handlings }

private theorem Follows.pollQueue {queue : String} {after : Progress}
    (h : Follows d now (queue :: ahead) [] progress past p)
    (run : (d.pollQueue now queue progress).Runs Task.Told past after later) :
    ∃ q, Reaches d now 1 p q ∧ Follows d now ahead [] after later q := by
  obtain ⟨answer, hrest⟩ := Task.runs_told.mp run
  obtain ⟨q, hclaim, hq⟩ := h.claim answer
  cases answer with
  | error e =>
      obtain ⟨_, hend⟩ := Task.runs_told.mp hrest
      cases hend
      exact ⟨q, hclaim, hq⟩
  | ok items =>
      obtain ⟨_, hitems⟩ := Task.runs_told.mp hrest
      rw [Task.bind_done] at hitems
      obtain ⟨started, _, hstart, hend⟩ := Task.runs_bind.mp hitems
      rw [Pool.failure?, Option.or_none] at hq
      cases hend
      obtain ⟨r, hreaches, hr⟩ := hq.startAll hstart
      exact ⟨r, hclaim.trans hreaches, hr⟩

private theorem Follows.pollQueues {queues : List String} {after : Progress}
    (h : Follows d now queues [] progress past p)
    (run : (d.pollQueues now queues progress).Runs Task.Told past after later) :
    ∃ q, Reaches d now 1 p q ∧ Follows d now [] [] after later q := by
  induction queues generalizing progress past p with
  | nil =>
      cases run
      exact ⟨p, .refl, h⟩
  | cons queue rest ih =>
      obtain ⟨middle, _, hqueue, hrest⟩ := Task.runs_bind.mp run
      obtain ⟨q, hfirst, hq⟩ := h.pollQueue hqueue
      obtain ⟨r, hreaches, hr⟩ := ih hq hrest
      exact ⟨r, hfirst.trans hreaches, hr⟩

/-- **The polls of a dispatcher are polls with one permit.** -/
theorem reaches_of_poll {result : Except StoreError Nat}
    (run : (d.poll now).Runs Task.Told [] result past) :
    ∃ p, Reaches d now 1 d.pool p ∧ p.IsOver ∧ p.result = result ∧ p.log = past := by
  obtain ⟨_, hrun⟩ := Task.runs_told.mp run
  rw [Task.bind_done] at hrun
  obtain ⟨progress, middle, hqueues, hrest⟩ := Task.runs_bind.mp hrun
  obtain ⟨_, _, hfinish, hend⟩ := Task.runs_bind.mp hrest
  have hfirst : Step d now 1 d.pool _ := .count rfl
  have hstart : Follows d now d.queues [] {} [Pool.counting (.polls, 1)]
      { d.pool with
        owed := none, past := [Pool.counting (.polls, 1)], log := [Pool.counting (.polls, 1)] } :=
    ⟨rfl, rfl, rfl, rfl, rfl, rfl, [], List.forall_mem_nil _, rfl⟩
  obtain ⟨q, hloop, hq⟩ := hstart.pollQueues hqueues
  obtain ⟨r, hlast, hr⟩ := hq.finish hfinish
  cases hend
  obtain ⟨finished, hfinished, hhandlings⟩ := hr.handlings
  refine ⟨r, (Relation.ReflTransGen.head hfirst hloop).trans hlast, ?_, ?_, hr.log⟩
  · refine ⟨hr.owed, hr.waiting, hr.ahead, ?_⟩
    rw [hhandlings]
    simpa using hfinished
  · cases herror : progress.error <;> simp [Pool.result, hr.error, hr.claimed, herror]

end Dispatcher

end Dunning
