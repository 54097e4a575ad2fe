import Dunning.Proofs.Service.Running
import Dunning.Proofs.Service.Sparing

/-!
# Items on their way

Between its creation and its end an item is in three hands: a program records it, a dispatcher leases
it and hands it to a handler, and the dispatcher writes what became of it. Publications, refreshes and
polls do all this side by side and in any number. This module says who may end an item. Settlements
are those of a handler's run that has begun, withdrawals belong to a closed account or to a state that
was left, and nothing else ends an item.

What is noted beside the requests is the moment in which an item is handed to its handler. The time of
a claim stays with the items that it hands out, and their handlers are told the same time.

## Main definitions

* `DeliveryCall`, `DeliveryTask` — what publications, refreshes and polls ask.
* `DeliveryTask.ofProgram`, `Service.deliver` — programs and polls as such tasks.
* `Depot`, `Depot.Responds` — the stores with the items that are out, and how they answer.
* `Service.Joins`, `Service.delivering` — what may join, and the rules of the interleaving.
* `Service.Orders` — what any of it may ask.

## Main results

* `Dispatcher.poll_settles` — a poll settles the items that it claimed, as their runs decide.
* `Service.delivering_conduct` — what any of it asks.
* `Service.Orders.of_settle`, `Service.Orders.of_cancelPending` — who ends an item.
-/

namespace Dunning

variable {α β : Type}

/-! ## Tasks -/

/-- What publications, refreshes and polls ask. -/
inductive DeliveryCall where
  | ask (request : Request)
  /-- Take an item that a claim handed out, with the time of the claim. -/
  | take
  /-- Hand an item to its handler. -/
  | hand (item : Item) (context : HandlerContext)

/-- The answer, or why there is none. -/
@[reducible] def DeliveryCall.Answer : DeliveryCall → Type
  | .ask request => Except Stop request.Answer
  | .take => Instant × Item
  | .hand .. => Unit

/-- A task of a service whose handlers are seen to begin. -/
abbrev DeliveryTask (α : Type) : Type := Task DeliveryCall DeliveryCall.Answer α

/-- A program that ends when a request stays without an answer. -/
def DeliveryTask.ofProgram : Program α → DeliveryTask (Except Stop α)
  | .done value => .done (.ok value)
  | .ask request next =>
    .ask (.ask request) fun (reply : Except Stop request.Answer) =>
      match reply with
      | .ok answer => ofProgram (next answer)
      | .error stop => .done (.error stop)

/-- A task of the dispatcher, with the handlers of the service. It ends when a request of its own
stays without an answer. -/
def Service.deliver (s : Service) : PollTask α → DeliveryTask (Except Stop α)
  | .done value => .done (.ok value)
  | .ask (.work request) next =>
    .ask (.ask (.work request)) fun (reply : Except Stop request.Answer) =>
      match reply with
      | .ok answer => s.deliver (next answer)
      | .error stop => .done (.error stop)
  | .ask (.invoke item context) next =>
    .ask (.hand item context) fun _ =>
      (DeliveryTask.ofProgram (s.handle item context)).bind fun result =>
        s.deliver (next (.ofResult result))
  | .ask (.count ..) next => s.deliver (next ())
  | .ask (.reportDead ..) next => s.deliver (next ())

/-! ## Surroundings -/

/-- The stores, with the items that claims handed out, each with the time of its claim. -/
structure Depot where
  shared : Shared := {}
  claims : List (Instant × Item) := []

namespace Depot

/-- The items that an exchange hands out, with the time of the claim. -/
def claimed : (request : Request) → request.Answer → List (Instant × Item)
  | .work (.claimDue _ now _ _ _), .ok items => items.map fun item => (now, item)
  | _, _ => []

/-- How a request is carried out and answered. -/
def Performs (s : Depot) (request : Request) (answer : request.Answer) (s' : Depot) : Prop :=
  Shared.Answers request s.shared answer s'.shared ∧ s'.claims = claimed request answer ++ s.claims

/-- How a call may be answered, and what the depot is then. A request without an answer may have had
its effect. -/
def Responds : (call : DeliveryCall) → Depot → call.Answer → Depot → Prop
  | .ask request, s, .ok answer, s' => s.Performs request answer s'
  | .ask request, s, .error _, s' => s' = s ∨ ∃ answer, s.Performs request answer s'
  | .take, s, entry, s' => entry ∈ s.claims ∧ s' = s
  | .hand .., s, _, s' => s' = s

end Depot

/-- What may join: the publication of an event, a refresh, a poll, a claim by itself, and the handling
of an item that was handed out. -/
inductive Service.Joins : DeliveryTask Unit → Prop where
  | publish (event : BillingEvent) :
      Joins ((DeliveryTask.ofProgram event.publish).bind fun _ => .done ())
  | refresh {account : AccountId} {facts : AccountFacts}
      {program : Program (Except OverdueError Refreshed)} :
      OverdueEngine.Refreshes account facts program →
      Joins ((DeliveryTask.ofProgram program).bind fun _ => .done ())
  | poll (s : Service) (now : Instant) :
      Joins ((s.deliver (s.dispatcher.poll now)).bind fun _ => .done ())
  | claim (queue : String) (now : Instant) (lease : Span) (batch : Nat) (claimer : String) :
      Joins (.ask (.ask (.work (.claimDue queue now lease batch claimer))) fun _ => .done ())
  | handle (s : Service) :
      Joins (.ask .take fun (entry : Instant × Item) =>
        (s.deliver (s.dispatcher.process entry.2 entry.1)).bind fun _ => .done ())

/-- The rules of publications, refreshes and polls side by side. -/
def Service.delivering : Interleaving.Rules DeliveryCall DeliveryCall.Answer Depot Unit where
  starts := Service.Joins
  answers := Depot.Responds

/-! ## The dispatcher -/

/-- Whether a task may end with a value. -/
def Task.MayEnd {Request : Type} {Answer : Request → Type} (t : Task Request Answer α) (value : α) :
    Prop := t.Runs (fun _ (_ : Unit) _ _ => True) () value ()

/-- A task that keeps to a rule ends as it should. -/
theorem Task.Obeys.of_mayEnd {Request : Type} {Answer : Request → Type}
    {rule : List (Exchange Request Answer) → Request → Prop}
    {post : α → List (Exchange Request Answer) → Prop} {t : Task Request Answer α}
    {past : List (Exchange Request Answer)} {value : α} (h : t.Obeys Told rule post past)
    (run : t.MayEnd value) : ∃ later, post value later := by
  induction t generalizing past with
  | done other =>
      cases run
      exact ⟨past, h⟩
  | ask request next ih =>
      cases run with
      | ask _ hrest => exact ih _ ((Task.obeys_told.mp h).2 _) hrest

/-- Whether the run of a program may end in a way. Running out of time and breaking are always
possible. -/
def HandlerRun.EndOf (program : HandlerProgram) : HandlerRun → Prop
  | .returned result => program.MayEnd result
  | .timedOut => True
  | .panicked => True

namespace Dispatcher

/-- Whether an item was given at a time, or claimed then in a history. -/
def HasAt (given : Instant → Item → Prop) (past : PollHistory) (now : Instant) (item : Item) : Prop :=
  given now item ∨ ∃ queue lease batch claimer items,
    ⟨.work (.claimDue queue now lease batch claimer), .ok items⟩ ∈ past ∧ item ∈ items

/-- What a task of a dispatcher may ask: it claims, looks owners up and runs the handlers of items that
it has. An item is settled as its run decides, or dropped when its queue has no handler. -/
inductive Settles (d : Dispatcher) (given : Instant → Item → Prop) (past : PollHistory) :
    PollRequest → Prop
  | claim {queue : String} {now : Instant} {lease : Span} {batch : Nat} {claimer : String} :
      Settles d given past (.work (.claimDue queue now lease batch claimer))
  | lookUp {owner : String} : Settles d given past (.work (.isOwnerCancelled owner))
  | invoke {item : Item} {context : HandlerContext} : HasAt given past context.now item →
      Settles d given past (.invoke item context)
  | settle {item : Item} {context : HandlerContext} {run : HandlerRun} {claimer : String}
      {settlement : Settlement} : HasAt given past context.now item →
      ⟨.invoke item context, run⟩ ∈ past →
      (d.settlement item context.now run).2 = some settlement →
      Settles d given past (.work (.settle item.id claimer settlement))
  | drop {item : Item} {now : Instant} {claimer : String} : HasAt given past now item →
      item.queue ∉ d.handled → Settles d given past (.work (.settle item.id claimer .complete))
  | count {counter : Counter} {n : Nat} : Settles d given past (.count counter n)
  | report {item : Item} {reason : String} : Settles d given past (.reportDead item reason)

/-- Whether a task of a dispatcher keeps to that. -/
abbrev SettlesIn (d : Dispatcher) (given : Instant → Item → Prop) (past : PollHistory)
    (t : PollTask α) : Prop :=
  t.Keeps (fun _ => True) (d.Settles given) past

variable {d : Dispatcher} {given : Instant → Item → Prop} {past later : PollHistory} {item : Item}
  {now : Instant}

theorem HasAt.mono (h : HasAt given past now item) (hsubset : past ⊆ later) :
    HasAt given later now item := by
  rcases h with hgiven | ⟨queue, lease, batch, claimer, items, hclaim, hmem⟩
  · exact .inl hgiven
  · exact .inr ⟨queue, lease, batch, claimer, items, hsubset hclaim, hmem⟩

theorem free_settles : Free (d.Settles given) := ⟨.count, .report⟩

/-- An item is settled as the run of its handler decides. -/
theorem process_settles (hitem : HasAt given past now item) :
    d.SettlesIn given past (d.process item now) := by
  have hhandles : d.HandlesBy item now (d.Settles given) past := {
    lookUp := .lookUp
    invoke := fun closed later hlater _ => by
      have hheld : HasAt given later (d.context item now closed).now item := hitem.mono hlater
      exact .invoke hheld
    settle := fun closed run settlement later hlater hrun hsettlement => by
      have hheld : HasAt given later (d.context item now closed).now item := hitem.mono hlater
      exact .settle hheld hrun hsettlement
    drop := fun hqueue later hlater => .drop (hitem.mono hlater) hqueue }
  exact hhandles.process free_settles

/-- **Polls.** A poll settles the items that it claimed, as their runs decide. -/
theorem poll_settles (d : Dispatcher) (now : Instant) : d.SettlesIn given past (d.poll now) := by
  have hpolls : d.PollsBy now (d.Settles given) (fun past item => HasAt given past now item) := {
    free := free_settles
    mono := HasAt.mono
    claim := fun _ _ _ _ _ => .claim
    claimed := fun _ queue lease batch claimer items _ hitem =>
      .inr ⟨queue, lease, batch, claimer, items, List.mem_cons_self, hitem⟩
    process := process_settles }
  exact hpolls.poll

end Dispatcher

/-! ## The rule -/

/-- What a task of a service asked and was told, the latest first. -/
abbrev DeliveryHistory : Type := List (Exchange DeliveryCall DeliveryCall.Answer)

/-- A request that got an answer. -/
def Exchange.replied? :
    Exchange DeliveryCall DeliveryCall.Answer → Option (Exchange Request Request.Answer)
  | ⟨.ask request, .ok answer⟩ => some ⟨request, answer⟩
  | _ => none

namespace DeliveryHistory

/-- The requests that got an answer. -/
def answered (past : DeliveryHistory) : History := past.filterMap Exchange.replied?

/-- Whether a history gave an item out at a time: it was claimed then, or taken. -/
def GivesOut (past : DeliveryHistory) (now : Instant) (item : Item) : Prop :=
  (∃ queue lease batch claimer items,
      ⟨.ask (.work (.claimDue queue now lease batch claimer)), .ok (.ok items)⟩ ∈ past ∧
        item ∈ items) ∨ ⟨.take, (now, item)⟩ ∈ past

variable {past later : DeliveryHistory} {now : Instant} {item : Item}

theorem mem_answered {request : Request} {answer : request.Answer} :
    ⟨request, answer⟩ ∈ past.answered ↔ ⟨.ask request, .ok answer⟩ ∈ past := by
  rw [answered, List.mem_filterMap]
  constructor
  · rintro ⟨⟨call, reply⟩, hmem, hanswered⟩
    rcases call with request | _ | _
    · rcases reply with stop | answer
      · cases hanswered
      · cases hanswered
        exact hmem
    · cases hanswered
    · cases hanswered
  · intro hmem
    exact ⟨_, hmem, rfl⟩

theorem GivesOut.mono (h : past.GivesOut now item) (hsubset : past ⊆ later) :
    GivesOut later now item := by
  rcases h with ⟨queue, lease, batch, claimer, items, hclaim, hmem⟩ | htake
  · exact .inl ⟨queue, lease, batch, claimer, items, hsubset hclaim, hmem⟩
  · exact .inr (hsubset htake)

end DeliveryHistory

namespace Service

/-- What publications, refreshes and polls may ask. Programs ask what a part of the history allows
them, the part in which they were told something. -/
inductive Orders (past : DeliveryHistory) : DeliveryCall → Prop
  | take : Orders past .take
  | spare {request : Request} : request.endsNoItem = true → Orders past (.ask request)
  | leave {recent earlier : History} {request : Request} :
      past.answered = recent ++ earlier → recent.Leaves request → Orders past (.ask request)
  | hand {item : Item} {context : HandlerContext} : past.GivesOut context.now item →
      Orders past (.hand item context)
  | settle {s : Service} {item : Item} {context : HandlerContext} {run : HandlerRun}
      {claimer : String} {settlement : Settlement} :
      past.GivesOut context.now item → ⟨.hand item context, ()⟩ ∈ past →
      run.EndOf (s.handle item context) →
      (s.dispatcher.settlement item context.now run).2 = some settlement →
      Orders past (.ask (.work (.settle item.id claimer settlement)))
  | drop {s : Service} {item : Item} {now : Instant} {claimer : String} :
      past.GivesOut now item → item.queue ∉ s.dispatcher.handled →
      Orders past (.ask (.work (.settle item.id claimer .complete)))
  | close {queue owner : String} {now since : Instant} :
      ⟨.ask (.work (.markOwnerCancelled owner since)), .ok (.ok ())⟩ ∈ past →
      Orders past (.ask (.work (.cancelPending queue owner now)))

/-! ## Conduct -/

/-- Whether a task keeps to what it may ask, and how it ends. -/
abbrev OrdersIn (past : DeliveryHistory) (t : DeliveryTask α) (post : α → Prop) : Prop :=
  t.Obeys Task.Told Orders (fun value later => past ⊆ later ∧ post value) past

variable {past : DeliveryHistory} {post : α → Prop}

theorem orders_done {value : α} (h : post value) :
    OrdersIn past (.done value : DeliveryTask α) post := ⟨List.Subset.refl past, h⟩

theorem orders_ask {call : DeliveryCall} {next : call.Answer → DeliveryTask α}
    (h : Orders past call) (hnext : ∀ answer, OrdersIn (⟨call, answer⟩ :: past) (next answer) post) :
    OrdersIn past (.ask call next) post := by
  refine Task.obeys_told.mpr ⟨h, fun answer => (hnext answer).imp ?_⟩
  rintro value later ⟨hsubset, hpost⟩
  exact ⟨List.Subset.trans (List.subset_cons_self _ _) hsubset, hpost⟩

theorem orders_bind {middle : α → Prop} {t : DeliveryTask α} {f : α → DeliveryTask β}
    {post : β → Prop} (h : OrdersIn past t middle)
    (hf : ∀ value later, past ⊆ later → middle value → OrdersIn later (f value) post) :
    OrdersIn past (t.bind f) post := by
  refine Task.obeys_bind.mpr (h.imp ?_)
  rintro value later ⟨hlater, hmiddle⟩
  refine (hf value later hlater hmiddle).imp ?_
  rintro result last ⟨hlast, hpost⟩
  exact ⟨List.Subset.trans hlater hlast, hpost⟩

/-- A program ends as it may, when all its requests are answered. -/
theorem ofProgram_orders {program : Program α} {recent earlier : History}
    {end' : α → History → Prop} (h : program.Obeys Task.Told History.Leaves end' recent)
    (hpast : past.answered = recent ++ earlier) :
    OrdersIn past (DeliveryTask.ofProgram program)
      fun result => ∀ value, result = .ok value → program.MayEnd value := by
  induction program generalizing past recent with
  | done value =>
      refine orders_done ?_
      intro other hother
      obtain rfl := Except.ok.inj hother
      exact .done
  | ask request next ih =>
      obtain ⟨hleaves, hnext⟩ := Task.obeys_told.mp h
      rw [DeliveryTask.ofProgram]
      refine orders_ask (.leave hpast hleaves) fun reply => ?_
      cases reply with
      | error stop => exact orders_done fun _ hvalue => nomatch hvalue
      | ok answer =>
          have hlater : DeliveryHistory.answered (⟨.ask request, .ok answer⟩ :: past) =
              ⟨request, answer⟩ :: recent ++ earlier := by
            show ⟨request, answer⟩ :: past.answered = _
            rw [hpast]
            rfl
          refine (ih answer (hnext answer) hlater).imp ?_
          rintro result later ⟨hsubset, hresult⟩
          exact ⟨hsubset, fun value hvalue => .ask trivial (hresult value hvalue)⟩

/-- What a task of a dispatcher was told, the task of the service was told. -/
structure Mirrors (s : Service) (past : DeliveryHistory) (polled : PollHistory) : Prop where
  work : ∀ (request : WorkRequest) (answer : request.Answer), ⟨.work request, answer⟩ ∈ polled →
    ⟨.ask (.work request), .ok answer⟩ ∈ past
  runs : ∀ (item : Item) (context : HandlerContext) (run : HandlerRun),
    ⟨.invoke item context, run⟩ ∈ polled →
      ⟨.hand item context, ()⟩ ∈ past ∧ run.EndOf (s.handle item context)

namespace Mirrors

variable {s : Service} {polled : PollHistory}

theorem nil (s : Service) (past : DeliveryHistory) : s.Mirrors past [] where
  work _ _ h := nomatch h
  runs _ _ _ h := nomatch h

theorem mono {later : DeliveryHistory} (h : s.Mirrors past polled) (hsubset : past ⊆ later) :
    s.Mirrors later polled where
  work request answer hmem := hsubset (h.work request answer hmem)
  runs item context run hmem :=
    ⟨hsubset (h.runs item context run hmem).1, (h.runs item context run hmem).2⟩

theorem answered {request : WorkRequest} {answer : request.Answer} (h : s.Mirrors past polled) :
    s.Mirrors (⟨.ask (.work request), .ok answer⟩ :: past) (⟨.work request, answer⟩ :: polled) where
  work other reply hmem := by
    rcases List.mem_cons.mp hmem with heq | hmem
    · cases heq
      exact List.mem_cons_self
    · exact List.mem_cons_of_mem _ (h.work other reply hmem)
  runs item context run hmem := by
    rcases List.mem_cons.mp hmem with heq | hmem
    · cases heq
    · exact (h.mono (List.subset_cons_self _ _)).runs item context run hmem

theorem ran {item : Item} {context : HandlerContext} {run : HandlerRun} (h : s.Mirrors past polled)
    (hhand : ⟨.hand item context, ()⟩ ∈ past) (hrun : run.EndOf (s.handle item context)) :
    s.Mirrors past (⟨.invoke item context, run⟩ :: polled) where
  work request answer hmem := by
    rcases List.mem_cons.mp hmem with heq | hmem
    · cases heq
    · exact h.work request answer hmem
  runs other context run hmem := by
    rcases List.mem_cons.mp hmem with heq | hmem
    · cases heq
      exact ⟨hhand, hrun⟩
    · exact h.runs other context run hmem

/-- What is only for the counters and for the sink makes no difference. -/
theorem skip {exchange : Exchange PollRequest PollRequest.Answer} (h : s.Mirrors past polled)
    (hwork : ∀ request, exchange.request ≠ .work request)
    (hinvoke : ∀ item context, exchange.request ≠ .invoke item context) :
    s.Mirrors past (exchange :: polled) where
  work request answer hmem := by
    rcases List.mem_cons.mp hmem with rfl | hmem
    · exact absurd rfl (hwork request)
    · exact h.work request answer hmem
  runs item context run hmem := by
    rcases List.mem_cons.mp hmem with rfl | hmem
    · exact absurd rfl (hinvoke item context)
    · exact h.runs item context run hmem

/-- An item that the dispatcher has was given out to the service. -/
theorem givesOut {given : Instant → Item → Prop} (h : s.Mirrors past polled)
    (hgiven : ∀ now item, given now item → past.GivesOut now item) {now : Instant} {item : Item}
    (hitem : Dispatcher.HasAt given polled now item) : past.GivesOut now item := by
  rcases hitem with hitem | ⟨queue, lease, batch, claimer, items, hclaim, hmem⟩
  · exact hgiven now item hitem
  · exact .inl ⟨queue, lease, batch, claimer, items, h.work _ _ hclaim, hmem⟩

end Mirrors

/-- How a run is noted. -/
theorem endOf_ofResult {program : HandlerProgram}
    {result : Except Stop (Except HandlerError HandlerOutcome)}
    (h : ∀ value, result = .ok value → program.MayEnd value) :
    (HandlerRun.ofResult result).EndOf program := by
  rcases result with (_ | _) | value
  · trivial
  · trivial
  · exact h value rfl

/-- A task of a dispatcher, with the handlers of the service. -/
theorem deliver_orders (s : Service) (given : Instant → Item → Prop) {polled : PollHistory}
    {task : PollTask α} (h : s.dispatcher.SettlesIn given polled task)
    (hmirrors : s.Mirrors past polled)
    (hgiven : ∀ now item, given now item → past.GivesOut now item) :
    OrdersIn past (s.deliver task) fun _ => True := by
  induction task generalizing past polled with
  | done value => exact orders_done trivial
  | ask request next ih =>
      obtain ⟨hsettles, hnext⟩ := Task.obeys_hears.mp h
      have hkept (call : DeliveryCall) (answer : call.Answer) (now : Instant) (item : Item)
          (hitem : given now item) : DeliveryHistory.GivesOut (⟨call, answer⟩ :: past) now item :=
        (hgiven now item hitem).mono (List.subset_cons_self _ _)
      cases request with
      | work request =>
          have horders : Orders past (.ask (.work request)) := by
            cases hsettles with
            | claim | lookUp => exact .spare rfl
            | settle hitem hrun hsettlement =>
                obtain ⟨hhand, hend⟩ := hmirrors.runs _ _ _ hrun
                exact .settle (hmirrors.givesOut hgiven hitem) hhand hend hsettlement
            | drop hitem hqueue => exact .drop (hmirrors.givesOut hgiven hitem) hqueue
          rw [deliver]
          refine orders_ask horders fun reply => ?_
          cases reply with
          | error stop => exact orders_done trivial
          | ok answer => exact ih answer (hnext answer trivial) hmirrors.answered (hkept _ _)
      | invoke item context =>
          have hout : past.GivesOut context.now item := by
            cases hsettles with
            | invoke hitem => exact hmirrors.givesOut hgiven hitem
          rw [deliver]
          refine orders_ask (.hand hout) fun _ => ?_
          refine orders_bind (ofProgram_orders (s.handle_leaves item context) (List.nil_append _).symm)
            fun result later hlater hresult => ?_
          refine ih _ (hnext _ trivial) ?_ fun now item hitem => (hkept _ _ now item hitem).mono hlater
          refine (hmirrors.mono ?_).ran (hlater List.mem_cons_self) (endOf_ofResult hresult)
          exact List.Subset.trans (List.subset_cons_self _ _) hlater
      | count counter n =>
          exact ih () (hnext () trivial)
            (hmirrors.skip (by rintro _ ⟨⟩) (by rintro _ _ ⟨⟩)) hgiven
      | reportDead item reason =>
          exact ih () (hnext () trivial)
            (hmirrors.skip (by rintro _ ⟨⟩) (by rintro _ _ ⟨⟩)) hgiven

/-- Publishing an event creates the item of the event, or marks its account and withdraws the items of
the account. -/
theorem publish_orders (event : BillingEvent) :
    OrdersIn past (DeliveryTask.ofProgram event.publish) fun _ => True := by
  unfold BillingEvent.publish
  cases hitem : event.item? with
  | some new =>
      show OrdersIn past (DeliveryTask.ofProgram (.ask (.work (.enqueue new)) _)) _
      rw [DeliveryTask.ofProgram]
      refine orders_ask (.spare rfl) fun reply => ?_
      cases reply <;> exact orders_done trivial
  | none =>
      show OrdersIn past (DeliveryTask.ofProgram
        (.ask (.work (.markOwnerCancelled event.owner event.occurredAt)) _)) _
      rw [DeliveryTask.ofProgram]
      refine orders_ask (.spare rfl) fun reply => ?_
      rcases reply with stop | error | ⟨⟨⟩⟩
      · exact orders_done trivial
      · exact orders_done trivial
      · have hwithdraw (queues : List String) (later : DeliveryHistory)
            (hmark : ⟨.ask (.work (.markOwnerCancelled event.owner event.occurredAt)),
              .ok (.ok ())⟩ ∈ later) :
            OrdersIn later (DeliveryTask.ofProgram
              ((BillingEvent.withdraw event.owner event.occurredAt queues).bind fun result =>
                .done (result.map fun _ => (none : Option ItemId)))) fun _ => True := by
          induction queues generalizing later with
          | nil => exact orders_done trivial
          | cons queue rest ih =>
              show OrdersIn later (DeliveryTask.ofProgram
                (.ask (.work (.cancelPending queue event.owner event.occurredAt)) _)) _
              rw [DeliveryTask.ofProgram]
              refine orders_ask (.close hmark) fun reply => ?_
              rcases reply with stop | error | count
              · exact orders_done trivial
              · exact orders_done trivial
              · exact ih _ (List.mem_cons_of_mem _ hmark)
        exact hwithdraw accountQueues _ List.mem_cons_self

/-- **Conduct.** Whatever joins asks what it may. -/
theorem delivering_conduct : Interleaving.Conduct delivering Orders (fun _ _ => True) := by
  intro t hstarts
  suffices horders : OrdersIn [] t fun _ => True from horders.imp fun _ _ _ => trivial
  cases hstarts with
  | publish event => exact orders_bind (publish_orders event) fun _ _ _ _ => orders_done trivial
  | refresh hrefresh =>
      exact orders_bind (ofProgram_orders hrefresh.leaves (List.nil_append _).symm)
        fun _ _ _ _ => orders_done trivial
  | poll s now =>
      refine orders_bind (s.deliver_orders (fun _ _ => False) (s.dispatcher.poll_settles now)
        (.nil s []) ?_) fun _ _ _ _ => orders_done trivial
      rintro _ _ ⟨⟩
  | claim => exact orders_ask (.spare rfl) fun _ => orders_done trivial
  | handle s =>
      refine orders_ask .take fun entry => ?_
      have hprocess : s.dispatcher.SettlesIn (fun now item => (now, item) = entry) []
          (s.dispatcher.process entry.2 entry.1) :=
        Dispatcher.process_settles (.inl rfl)
      refine orders_bind (s.deliver_orders _ hprocess (.nil s _) ?_)
        fun _ _ _ _ => orders_done trivial
      rintro now item rfl
      exact .inr List.mem_cons_self

/-- A settlement is that of a run which has begun, or the item has no handler. -/
theorem Orders.of_settle {past : DeliveryHistory} {id : ItemId} {claimer : String}
    {settlement : Settlement}
    (h : Orders past (.ask (.work (.settle id claimer settlement)))) :
    (∃ (s : Service) (item : Item) (context : HandlerContext) (run : HandlerRun), item.id = id ∧
        past.GivesOut context.now item ∧ ⟨.hand item context, ()⟩ ∈ past ∧
        run.EndOf (s.handle item context) ∧
        (s.dispatcher.settlement item context.now run).2 = some settlement) ∨
      ∃ (s : Service) (item : Item) (now : Instant), item.id = id ∧ past.GivesOut now item ∧
        item.queue ∉ s.dispatcher.handled ∧ settlement = .complete := by
  generalize hcall : DeliveryCall.ask (.work (.settle id claimer settlement)) = call at h
  cases h with
  | take | hand | close => cases hcall
  | spare hspares =>
      cases hcall
      cases hspares
  | leave _ hleaves =>
      cases hcall
      rcases hleaves with hspares | ⟨_, hmay⟩
      · cases hspares
      · cases hmay with
        | effect _ _ heffect => cases heffect
  | settle hout hhand hend hsettlement =>
      cases hcall
      exact .inl ⟨_, _, _, _, rfl, hout, hhand, hend, hsettlement⟩
  | drop hout hqueue =>
      cases hcall
      exact .inr ⟨_, _, _, rfl, hout, hqueue, rfl⟩

/-- Nobody withdraws an item by its identifier. -/
theorem Orders.not_cancel {past : DeliveryHistory} {id : ItemId} :
    ¬ Orders past (.ask (.work (.cancel id))) := by
  intro h
  cases h with
  | spare hspares => cases hspares
  | leave _ hleaves =>
      rcases hleaves with hspares | ⟨_, hmay⟩
      · cases hspares
      · cases hmay with
        | effect _ _ heffect => cases heffect

/-- Items are withdrawn for an owner that is marked, or for a state that was left. -/
theorem Orders.of_cancelPending {past : DeliveryHistory} {queue owner : String} {now : Instant}
    (h : Orders past (.ask (.work (.cancelPending queue owner now)))) :
    (∃ since, ⟨.ask (.work (.markOwnerCancelled owner since)), .ok (.ok ())⟩ ∈ past) ∨
      ∃ recent earlier account, past.answered = recent ++ earlier ∧
        OverdueEngine.May account recent (.work (.cancelPending queue owner now)) := by
  cases h with
  | spare hspares => cases hspares
  | leave hpast hleaves =>
      rcases hleaves with hspares | ⟨account, hmay⟩
      · cases hspares
      · exact .inr ⟨_, _, account, hpast, hmay⟩
  | close hmark => exact .inl ⟨_, hmark⟩

end Service

end Dunning
