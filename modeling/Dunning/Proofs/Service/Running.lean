import Dunning.Proofs.Dispatch.Polls
import Dunning.Proofs.Service.Handlers
import Dunning.Proofs.Work.Trace

/-!
# A service at work

Events are published and dispatchers poll, side by side and in any number, over three stores that
they share. A request may stay without an answer: then what made it ends, a handler by running out of
time or by breaking, anything else by breaking off. The request may have had its effect or not.

A dispatcher hands its items to handlers that run while it goes on claiming. Two views of that are
taken at once. A poll as a whole handles one item after another; and claims by themselves, with
handlings of the items that they hand out, run side by side in every order.

## Main definitions

* `ServiceCall`, `ServiceTask` — what publishing and polling ask.
* `ServiceTask.ofProgram`, `Service.ofPoll` — programs and polls whose requests may stay without an
  answer.
* `Shared`, `Shared.Responds` — the stores, and how they answer.
* `Service.Starts`, `Service.running` — what may join, and the rules of the interleaving.
* `Service.May` — what any of it may ask.

## Main results

* `Dispatcher.poll_keeps`, `Dispatcher.process_keeps` — handlers run for items that were claimed,
  with what the store said of their owners.
* `Service.running_conduct` — what any of it asks.
-/

namespace Dunning

open Simulation (refuseWork refuseState refuseAttempt)

/-! ## Tasks -/

/-- What publishing and polling ask. -/
inductive ServiceCall where
  | ask (request : Request)
  /-- Take an item that a claim handed out. -/
  | take

/-- The answer, or why there is none. -/
@[reducible] def ServiceCall.Answer : ServiceCall → Type
  | .ask request => Except Stop request.Answer
  | .take => Item

/-- A task of a service. -/
abbrev ServiceTask (α : Type) : Type := Task ServiceCall ServiceCall.Answer α

variable {α β : Type}

/-- A program that ends when a request stays without an answer. -/
def ServiceTask.ofProgram : Program α → ServiceTask (Except Stop α)
  | .done value => .done (.ok value)
  | .ask request next =>
    .ask (.ask request) fun (reply : Except Stop request.Answer) =>
      match reply with
      | .ok answer => ofProgram (next answer)
      | .error stop => .done (.error stop)

/-- How the run of a handler ended. -/
def HandlerRun.ofResult : Except Stop (Except HandlerError HandlerOutcome) → HandlerRun
  | .ok result => .returned result
  | .error .expired => .timedOut
  | .error .crashed => .panicked

namespace Service

/-- A task of the dispatcher, with the handlers of the service. It ends when a request of its own
stays without an answer. -/
def ofPoll (s : Service) : PollTask α → ServiceTask (Except Stop α)
  | .done value => .done (.ok value)
  | .ask (.work request) next =>
    .ask (.ask (.work request)) fun (reply : Except Stop request.Answer) =>
      match reply with
      | .ok answer => s.ofPoll (next answer)
      | .error stop => .done (.error stop)
  | .ask (.invoke item context) next =>
    (ServiceTask.ofProgram (s.handle item context)).bind fun result =>
      s.ofPoll (next (.ofResult result))
  | .ask (.count ..) next => s.ofPoll (next ())
  | .ask (.reportDead ..) next => s.ofPoll (next ())

/-- What may join: the publication of an event, a poll, a claim by itself, and the handling of an item
that was handed out. -/
inductive Starts : ServiceTask Unit → Prop where
  | publish (event : BillingEvent) :
      Starts ((ServiceTask.ofProgram event.publish).bind fun _ => .done ())
  | poll (s : Service) (now : Instant) :
      Starts ((s.ofPoll (s.dispatcher.poll now)).bind fun _ => .done ())
  | claim (queue : String) (now : Instant) (lease : Span) (batch : Nat) (claimer : String) :
      Starts (.ask (.ask (.work (.claimDue queue now lease batch claimer))) fun _ => .done ())
  | handle (s : Service) (now : Instant) :
      Starts (.ask .take fun (item : Item) =>
        (s.ofPoll (s.dispatcher.process item now)).bind fun _ => .done ())

end Service

/-! ## Stores -/

/-- What the tasks of a service share. -/
structure Shared where
  attempts : AttemptStore := {}
  work : WorkStore := {}
  states : StateStore := {}
  /-- The items that claims handed out. -/
  handedOut : List Item := []

namespace Shared

/-- How a request may be answered, and what is shared afterwards. A call to a store goes through or
fails without effect; what other systems say is open. -/
def Answers : (request : Request) → Shared → request.Answer → Shared → Prop
  | .work request, s, answer, s' =>
    (∃ clock fresh work, s.work.Step ⟨clock, fresh, request, answer⟩ work ∧
        s' = { s with
          work, handedOut := WorkEvent.handedOut ⟨clock, fresh, request, answer⟩ ++ s.handedOut }) ∨
      (∃ e, answer = refuseWork e request) ∧ s' = s
  | .attempt request, s, answer, s' =>
    (∃ attempts, s.attempts.respond request = (answer, attempts) ∧ s' = { s with attempts }) ∨
      (∃ e, answer = refuseAttempt e request) ∧ s' = s
  | .state request, s, answer, s' =>
    (∃ states, s.states.respond request = (answer, states) ∧ s' = { s with states }) ∨
      (∃ e, answer = refuseState e request) ∧ s' = s
  | _, s, _, s' => s' = s

/-- How a call may be answered, and what is shared afterwards. A request without an answer may have
had its effect. -/
def Responds : (call : ServiceCall) → Shared → call.Answer → Shared → Prop
  | .ask request, s, .ok answer, s' => Answers request s answer s'
  | .ask request, s, .error _, s' => s' = s ∨ ∃ answer, Answers request s answer s'
  | .take, s, item, s' => item ∈ s.handedOut ∧ s' = s

end Shared

/-- The rules of a service at work. -/
def Service.running : Interleaving.Rules ServiceCall ServiceCall.Answer Shared Unit where
  starts := Service.Starts
  answers := Shared.Responds

/-! ## The dispatcher -/

namespace Dispatcher

/-- Whether an item was given, or claimed in a history. -/
def Has (given : Item → Prop) (past : PollHistory) (item : Item) : Prop :=
  given item ∨ ∃ queue now lease batch claimer items,
    ⟨.work (.claimDue queue now lease batch claimer), .ok items⟩ ∈ past ∧ item ∈ items

/-- What a task of a dispatcher may ask: it claims, settles and looks owners up, and it runs handlers
for items that it has, with what it was told of their owners. -/
inductive Asks (given : Item → Prop) (past : PollHistory) : PollRequest → Prop
  | claim {queue : String} {now : Instant} {lease : Span} {batch : Nat} {claimer : String} :
      Asks given past (.work (.claimDue queue now lease batch claimer))
  | settle {id : ItemId} {claimer : String} {settlement : Settlement} :
      Asks given past (.work (.settle id claimer settlement))
  | lookUp {owner : String} : Asks given past (.work (.isOwnerCancelled owner))
  | invoke {item : Item} {context : HandlerContext} : Has given past item →
      ⟨.work (.isOwnerCancelled item.owner), .ok context.ownerCancelled⟩ ∈ past →
      Asks given past (.invoke item context)
  | count {counter : Counter} {n : Nat} : Asks given past (.count counter n)
  | report {item : Item} {reason : String} : Asks given past (.reportDead item reason)

/-- Whether a task of a dispatcher keeps to that. -/
abbrev Conducts (given : Item → Prop) (past : PollHistory) (t : PollTask α) : Prop :=
  t.Keeps (fun _ => True) (Asks given) past

variable {given : Item → Prop} {past later : PollHistory} {item : Item}

theorem Has.mono (h : Has given past item) (hsubset : past ⊆ later) : Has given later item := by
  rcases h with hgiven | ⟨queue, now, lease, batch, claimer, items, hclaim, hmem⟩
  · exact .inl hgiven
  · exact .inr ⟨queue, now, lease, batch, claimer, items, hsubset hclaim, hmem⟩

theorem asks_invoke_iff {context : HandlerContext} : Asks given past (.invoke item context) ↔
    Has given past item ∧
      ⟨.work (.isOwnerCancelled item.owner), .ok context.ownerCancelled⟩ ∈ past := by
  refine ⟨?_, fun ⟨hitem, hlookup⟩ => .invoke hitem hlookup⟩
  intro h
  cases h with
  | invoke hitem hlookup => exact ⟨hitem, hlookup⟩

theorem free_asks : Free (Asks given) := ⟨.count, .report⟩

/-- The handler of an item is told what the store said of the owner. -/
theorem process_keeps (d : Dispatcher) (now : Instant) (hitem : Has given past item) :
    Conducts given past (d.process item now) := by
  have hhandles : d.HandlesBy item now (Asks given) past := {
    lookUp := .lookUp
    invoke := fun _ _ hlater hlookup => .invoke (hitem.mono hlater) hlookup
    settle := fun _ _ _ _ _ _ _ => .settle
    drop := fun _ _ _ => .settle }
  exact hhandles.process free_asks

/-- **Polls.** Handlers run for items that the poll claimed, with what it was told of their owners.
-/
theorem poll_keeps (d : Dispatcher) (now : Instant) : Conducts given past (d.poll now) := by
  have hpolls : d.PollsBy now (Asks given) (Has given) := {
    free := free_asks
    mono := Has.mono
    claim := fun _ _ _ _ _ => .claim
    claimed := fun _ queue lease batch claimer items _ hitem =>
      .inr ⟨queue, now, lease, batch, claimer, items, List.mem_cons_self, hitem⟩
    process := d.process_keeps now }
  exact hpolls.poll

end Dispatcher

/-! ## The rule -/

/-- What a task of a service asked and was told, the latest first. -/
abbrev ServiceHistory : Type := List (Exchange ServiceCall ServiceCall.Answer)

/-- A request that got an answer. -/
def Exchange.answered? :
    Exchange ServiceCall ServiceCall.Answer → Option (Exchange Request Request.Answer)
  | ⟨.ask request, .ok answer⟩ => some ⟨request, answer⟩
  | _ => none

namespace ServiceHistory

/-- The requests that got an answer. -/
def answered (past : ServiceHistory) : History := past.filterMap Exchange.answered?

/-- Whether a history gave an item out: it was claimed or taken. -/
def GivesOut (past : ServiceHistory) (item : Item) : Prop :=
  (∃ queue now lease batch claimer items,
      ⟨.ask (.work (.claimDue queue now lease batch claimer)), .ok (.ok items)⟩ ∈ past ∧
        item ∈ items) ∨ ⟨.take, item⟩ ∈ past

/-- Whether a history tells that an owner is closed, or that he is not. -/
def Says (past : ServiceHistory) (owner : String) (closed : Bool) : Prop :=
  ⟨.ask (.work (.isOwnerCancelled owner)), .ok (.ok closed)⟩ ∈ past

variable {past later : ServiceHistory} {item : Item}

theorem mem_answered {request : Request} {answer : request.Answer} :
    ⟨request, answer⟩ ∈ past.answered ↔ ⟨.ask request, .ok answer⟩ ∈ past := by
  rw [answered, List.mem_filterMap]
  constructor
  · rintro ⟨⟨call, reply⟩, hmem, hanswered⟩
    rcases call with request | _
    · rcases reply with stop | answer
      · cases hanswered
      · cases hanswered
        exact hmem
    · cases hanswered
  · intro hmem
    exact ⟨_, hmem, rfl⟩

theorem answered_mono (hsubset : past ⊆ later) : past.answered ⊆ answered later := by
  rintro ⟨request, answer⟩ hmem
  exact mem_answered.mpr (hsubset (mem_answered.mp hmem))

theorem GivesOut.mono (h : past.GivesOut item) (hsubset : past ⊆ later) : GivesOut later item := by
  rcases h with ⟨queue, now, lease, batch, claimer, items, hclaim, hmem⟩ | htake
  · exact .inl ⟨queue, now, lease, batch, claimer, items, hsubset hclaim, hmem⟩
  · exact .inr (hsubset htake)

end ServiceHistory

/-- What a task of a service may ask: it publishes, it runs the dispatcher, and for an item that it
was given it asks what the handling of the item may ask, as the store spoke of the owner. -/
inductive Service.May (past : ServiceHistory) : ServiceCall → Prop
  | take : May past .take
  | plain {request : Request} : request.isPlain = true → May past (.ask request)
  | schedule {event : BillingEvent} {new : NewItem} : event.item? = some new →
      May past (.ask (.work (.enqueue new)))
  | close {account : AccountId} {now : Instant} :
      May past (.ask (.work (.markOwnerCancelled account.render now)))
  | handle {item : Item} {closed : Bool} {request : Request} :
      past.GivesOut item → past.Says item.owner closed →
      ((∀ x ∈ past.answered, x.IsHonest) → Handles item closed past.answered request) →
      May past (.ask request)

theorem Service.May.mono {past later : ServiceHistory} {call : ServiceCall}
    (h : Service.May past call) (hsubset : past ⊆ later) : Service.May later call := by
  cases h with
  | take => exact .take
  | plain hplain => exact .plain hplain
  | schedule hitem => exact .schedule hitem
  | close => exact .close
  | handle hitem hsays hhandles =>
      refine .handle (hitem.mono hsubset) (hsubset hsays) fun honest => ?_
      have hanswered := ServiceHistory.answered_mono hsubset
      exact (hhandles fun x hx => honest x (hanswered hx)).mono hanswered

/-! ## Conduct -/

namespace Service

variable {past : ServiceHistory}

/-- Whether a task of a service keeps to what it may ask. -/
abbrev Conducts (past : ServiceHistory) (t : ServiceTask α) : Prop :=
  t.Obeys Task.Told May (fun _ later => past ⊆ later) past

theorem conducts_done (value : α) : Conducts past (.done value : ServiceTask α) :=
  List.Subset.refl past

theorem conducts_ask {call : ServiceCall} {next : call.Answer → ServiceTask α} (h : May past call)
    (hnext : ∀ answer, Conducts (⟨call, answer⟩ :: past) (next answer)) :
    Conducts past (.ask call next) := by
  refine Task.obeys_told.mpr ⟨h, fun answer => (hnext answer).imp ?_⟩
  intro value later hsubset
  exact List.Subset.trans (List.subset_cons_self _ _) hsubset

theorem conducts_bind {t : ServiceTask α} {f : α → ServiceTask β} (h : Conducts past t)
    (hf : ∀ value later, past ⊆ later → Conducts later (f value)) : Conducts past (t.bind f) := by
  refine Task.obeys_bind.mpr (h.imp ?_)
  intro value later hlater
  exact (hf value later hlater).imp fun _ _ hlast => List.Subset.trans hlater hlast

/-- A program whose rule is within that of the service. -/
theorem ofProgram_conducts {rule : History → Request → Prop} {post : α → History → Prop}
    {program : Program α} (h : program.Obeys Task.Told rule post past.answered)
    (hrule : ∀ (later : ServiceHistory) request, past ⊆ later → rule later.answered request →
      May later (.ask request)) : Conducts past (ServiceTask.ofProgram program) := by
  induction program generalizing past with
  | done value => exact conducts_done _
  | ask request next ih =>
      rw [ServiceTask.ofProgram]
      refine conducts_ask (hrule past request (List.Subset.refl past) h.1) fun reply => ?_
      cases reply with
      | error stop => exact conducts_done _
      | ok answer =>
          refine ih answer ((Task.obeys_told.mp h).2 answer) fun later request hlater => ?_
          exact hrule later request (List.Subset.trans (List.subset_cons_self _ _) hlater)

/-- What a task of a dispatcher was told, the task of the service was told. -/
def Covers (past : ServiceHistory) (polled : PollHistory) : Prop :=
  ∀ (request : WorkRequest) (answer : request.Answer), ⟨.work request, answer⟩ ∈ polled →
    ⟨.ask (.work request), .ok answer⟩ ∈ past

theorem Covers.mono {later : ServiceHistory} {polled : PollHistory} (h : Covers past polled)
    (hsubset : past ⊆ later) : Covers later polled :=
  fun request answer hmem => hsubset (h request answer hmem)

theorem Covers.cons {polled : PollHistory} {exchange : Exchange PollRequest PollRequest.Answer}
    (h : Covers past polled) (hother : ∀ request, exchange.request ≠ .work request) :
    Covers past (exchange :: polled) := by
  intro request answer hmem
  rcases List.mem_cons.mp hmem with heq | hmem
  · exact absurd (congrArg Exchange.request heq).symm (hother request)
  · exact h request answer hmem

theorem Covers.answered {polled : PollHistory} {request : WorkRequest} {answer : request.Answer}
    (h : Covers past polled) :
    Covers (⟨.ask (.work request), .ok answer⟩ :: past) (⟨.work request, answer⟩ :: polled) := by
  intro other reply hmem
  rcases List.mem_cons.mp hmem with heq | hmem
  · cases heq
    exact List.mem_cons_self
  · exact List.mem_cons_of_mem _ (h other reply hmem)

/-- An item that the dispatcher has was given out to the service. -/
theorem Covers.givesOut {given : Item → Prop} {polled : PollHistory} (h : Covers past polled)
    (hgiven : ∀ item, given item → past.GivesOut item) {item : Item}
    (hitem : Dispatcher.Has given polled item) : past.GivesOut item := by
  rcases hitem with hitem | ⟨queue, now, lease, batch, claimer, items, hclaim, hmem⟩
  · exact hgiven item hitem
  · exact .inl ⟨queue, now, lease, batch, claimer, items, h _ _ hclaim, hmem⟩

/-- A task of a dispatcher, with the handlers of the service. -/
theorem ofPoll_conducts (s : Service) (given : Item → Prop) {polled : PollHistory}
    {task : PollTask α} (h : Dispatcher.Conducts given polled task)
    (hcovers : Covers past polled) (hgiven : ∀ item, given item → past.GivesOut item) :
    Conducts past (s.ofPoll task) := by
  induction task generalizing past polled with
  | done value => exact conducts_done _
  | ask request next ih =>
      obtain ⟨hasks, hnext⟩ := Task.obeys_hears.mp h
      cases request with
      | work request =>
          have hplain : (Request.work request).isPlain = true := by cases hasks <;> rfl
          rw [ofPoll]
          refine conducts_ask (.plain hplain) fun reply => ?_
          cases reply with
          | error stop => exact conducts_done _
          | ok answer =>
              refine ih answer (hnext answer trivial) hcovers.answered fun item hitem => ?_
              exact (hgiven item hitem).mono (List.subset_cons_self _ _)
      | invoke item context =>
          obtain ⟨hitem, hlookup⟩ := Dispatcher.asks_invoke_iff.mp hasks
          have hout : past.GivesOut item := hcovers.givesOut hgiven hitem
          have hsays : past.Says item.owner context.ownerCancelled := hcovers _ _ hlookup
          refine conducts_bind (ofProgram_conducts
            (s.handle_serves past.answered item context).of_hears ?_) fun result later hlater => ?_
          · intro later request hlater hrule
            exact .handle (hout.mono hlater) (hlater hsays) hrule
          · exact ih _ (hnext _ trivial)
              ((hcovers.mono hlater).cons (by rintro _ ⟨⟩)) fun item hitem =>
                (hgiven item hitem).mono hlater
      | count counter n =>
          exact ih () (hnext () trivial) (hcovers.cons (by rintro _ ⟨⟩)) hgiven
      | reportDead item reason =>
          exact ih () (hnext () trivial) (hcovers.cons (by rintro _ ⟨⟩)) hgiven

/-- Publishing an event creates the item of the event, or marks its account as closed. -/
theorem publish_keeps (event : BillingEvent) (past : History) :
    event.publish.Keeps (fun _ => True)
      (fun _ request => ∀ later : ServiceHistory, May later (.ask request)) past := by
  unfold BillingEvent.publish
  cases hitem : event.item? with
  | some new => exact .call (fun _ => .schedule hitem) fun _ _ => .done _
  | none =>
      refine .call (fun _ => .close) fun answer later => ?_
      cases answer with
      | error error => exact .done _
      | ok =>
          refine Task.Keeps.bind ?_ fun _ _ _ => .done _
          show (BillingEvent.withdraw event.owner event.occurredAt accountQueues).Keeps _ _ later
          induction accountQueues generalizing later with
          | nil => exact .done _
          | cons queue rest ih =>
              refine .call (fun _ => .plain rfl) fun answer later => ?_
              cases answer with
              | error error => exact .done _
              | ok count => exact ih later

theorem publish_conducts (event : BillingEvent) :
    Conducts past (ServiceTask.ofProgram event.publish) :=
  ofProgram_conducts (publish_keeps event past.answered).of_hears
    fun later _ _ hrule => hrule (fun _ _ => trivial) later

/-- **The conduct of a service at work.** -/
theorem running_conduct : Interleaving.Conduct running May (fun _ _ => True) := by
  intro t hstarts
  suffices hconducts : Conducts [] t from hconducts.imp fun _ _ _ => trivial
  cases hstarts with
  | publish event => exact conducts_bind (publish_conducts event) fun _ _ _ => conducts_done ()
  | poll s now =>
      have hpoll : Dispatcher.Conducts (fun _ => False) [] (s.dispatcher.poll now) :=
        s.dispatcher.poll_keeps now
      refine conducts_bind (s.ofPoll_conducts _ hpoll ?_ ?_) fun _ _ _ => conducts_done ()
      · rintro _ _ ⟨⟩
      · rintro _ ⟨⟩
  | claim => exact conducts_ask (.plain rfl) fun _ => conducts_done ()
  | handle s now =>
      refine conducts_ask .take fun item => ?_
      have hprocess : Dispatcher.Conducts (fun other => other = item) []
          (s.dispatcher.process item now) := s.dispatcher.process_keeps now (.inl rfl)
      refine conducts_bind (s.ofPoll_conducts _ hprocess ?_ ?_) fun _ _ _ => conducts_done ()
      · rintro _ _ ⟨⟩
      · rintro _ rfl
        exact .inr List.mem_cons_self

end Service

end Dunning
