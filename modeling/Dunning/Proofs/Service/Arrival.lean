import Dunning.Proofs.Service.Closing
import Dunning.Proofs.Service.Depot
import Dunning.Proofs.Work.Lifecycle

/-!
# Events arrive as they were reported

An event becomes an item, and the handler of the item's queue has only the item to go by. It finds
there the account and the data of the event: identifiers, amounts of any size, and moments down to the
nanosecond, all of them as they were reported. So no handler ever gives the item of an event up
because it could not make out what the item is about.

## Main definitions

* `BillingEvent.route?` — the queue that an event concerns, and when its item is due.
* `BillingEvent.ReadFrom` — what the handler of the queue reads.
* `Item.Conveys` — an item as an event created it.
* `saysUnreadable` — the reasons of handlers that could not read an item.

## Main results

* `BillingEvent.readFrom_payload` — every event is read as it was written.
* `Service.readable_of_mayEnd` — no handler calls such an item unreadable, whatever it is told.
* `events_arrive` — an event creates one item, which is read as the event and never given up as
  unreadable.
-/

namespace Dunning

/-! ## Events -/

namespace BillingEvent

/-- The queue that an event concerns, and when its item is due. -/
def route? : BillingEvent → Option (String × Instant)
  | .invoiceCreated _ _ _ dueAt _ => some (refreshQueue, dueAt)
  | .invoiceDue _ _ occurredAt => some (refreshQueue, occurredAt)
  | .billingDateScheduled _ targetDate _ => some (billingDateQueue, targetDate)
  | .paymentFailed _ _ _ _ occurredAt => some (retryQueue, occurredAt)
  | .paymentSucceeded _ _ _ occurredAt => some (refreshQueue, occurredAt)
  | .accountClosed .. => none

/-- Whether a payload is read as the data of an event. A look needs none but a reason. -/
def ReadFrom (payload : Json) : BillingEvent → Prop
  | .invoiceCreated .. => RefreshPayload.decode? payload.toNode = some ⟨"invoice due"⟩
  | .invoiceDue .. => RefreshPayload.decode? payload.toNode = some ⟨"invoice due"⟩
  | .billingDateScheduled _ targetDate _ =>
    BillingDatePayload.decode? payload.toNode = some ⟨targetDate⟩
  | .paymentFailed account payment amount failure occurredAt =>
    RetryPayload.decode? payload.toNode =
      some (.initialFailure payment account amount failure occurredAt)
  | .paymentSucceeded .. => RefreshPayload.decode? payload.toNode = some ⟨"payment succeeded"⟩
  | .accountClosed .. => False

variable {event : BillingEvent} {new : NewItem}

/-- The item of an event goes where the event belongs. -/
theorem route?_eq (h : event.item? = some new) : event.route? = some (new.queue, new.dueAt) := by
  cases event with
  | accountClosed => cases h
  | _ =>
      obtain rfl := Option.some.inj h
      rfl

/-- Every event is read as it was written. -/
theorem readFrom_payload (h : event.item? = some new) : event.ReadFrom new.payload := by
  cases event with
  | accountClosed => cases h
  | billingDateScheduled account targetDate =>
      obtain rfl := Option.some.inj h
      exact BillingDatePayload.decode?_toJson ⟨targetDate⟩
  | paymentFailed account payment amount failure occurredAt =>
      obtain rfl := Option.some.inj h
      exact RetryPayload.decode?_initialFailure payment account amount failure occurredAt
  | _ =>
      obtain rfl := Option.some.inj h
      exact RefreshPayload.decode?_toJson _

theorem ownerAccount?_eq (h : event.item? = some new) :
    ownerAccount? new.owner = some event.account := by
  have howner : new.owner = event.owner := by
    cases event with
    | accountClosed => cases h
    | _ =>
        obtain rfl := Option.some.inj h
        rfl
  rw [howner, owner, ownerAccount?_render]

end BillingEvent

/-- Whether an item is that of an event, whatever has become of it since. -/
def Item.Conveys (i : Item) (event : BillingEvent) : Prop :=
  ∃ new, event.item? = some new ∧ i.queue = new.queue ∧ i.owner = new.owner ∧
    i.payload = new.payload

namespace Item.Conveys

variable {i j : Item} {event : BillingEvent}

theorem of_frame (h : i.Conveys event)
    (hframe : j.queue = i.queue ∧ j.owner = i.owner ∧ j.payload = i.payload) : j.Conveys event := by
  obtain ⟨new, hnew, hqueue, howner, hpayload⟩ := h
  obtain ⟨hsamequeue, hsameowner, hsamepayload⟩ := hframe
  exact ⟨new, hnew, hsamequeue.trans hqueue, hsameowner.trans howner, hsamepayload.trans hpayload⟩

theorem ownerAccount?_eq (h : i.Conveys event) : ownerAccount? i.owner = some event.account := by
  obtain ⟨new, hnew, -, howner, -⟩ := h
  rw [howner, BillingEvent.ownerAccount?_eq hnew]

/-- Of the billing dates it is the target date that is read. -/
theorem billingDate? (h : i.Conveys event) (hqueue : i.queue = billingDateQueue) :
    ∃ payload, BillingDatePayload.decode? i.payload.toNode = some payload := by
  obtain ⟨new, hnew, hsame, -, hpayload⟩ := h
  have hread := BillingEvent.readFrom_payload hnew
  have hroute := BillingEvent.route?_eq hnew
  rw [← hsame, hqueue] at hroute
  rw [hpayload]
  cases event with
  | billingDateScheduled => exact ⟨_, hread⟩
  | accountClosed => cases hroute
  | _ => simp [BillingEvent.route?, refreshQueue, retryQueue, billingDateQueue] at hroute

/-- Of the payment attempts it is the first failure that is read. -/
theorem initialFailure? (h : i.Conveys event) (hqueue : i.queue = retryQueue) :
    ∃ payment account amount failure failedAt, RetryPayload.decode? i.payload.toNode =
      some (.initialFailure payment account amount failure failedAt) := by
  obtain ⟨new, hnew, hsame, -, hpayload⟩ := h
  have hread := BillingEvent.readFrom_payload hnew
  have hroute := BillingEvent.route?_eq hnew
  rw [← hsame, hqueue] at hroute
  rw [hpayload]
  cases event with
  | paymentFailed => exact ⟨_, _, _, _, _, hread⟩
  | accountClosed => cases hroute
  | _ => simp [BillingEvent.route?, refreshQueue, retryQueue, billingDateQueue] at hroute

end Item.Conveys

/-! ## Reasons -/

/-- Whether a reason says that an item could not be read: its payload is malformed, or its owner is no
account. -/
def saysUnreadable (reason : String) : Bool :=
  "malformed ".toList.isPrefixOf reason.toList || "owner key ".toList.isPrefixOf reason.toList

example : saysUnreadable (notAnAccount "north") = true := by cbv

/-- The two ways to say so begin with other letters than all that handlers have to say otherwise. -/
theorem saysUnreadable_append (intro : String) {rest : String} {c d : Char}
    (h : intro.toList.take 2 = [c, d])
    (hother : (c == 'm' || (c == 'o' && d == 'w')) = false) :
    saysUnreadable (intro ++ rest) = false := by
  obtain ⟨cs, hcs⟩ : ∃ cs, intro.toList = c :: d :: cs := by
    refine ⟨intro.toList.drop 2, ?_⟩
    conv_lhs => rw [← List.take_append_drop 2 intro.toList, h]
    rfl
  have hmalformed : "malformed ".toList = 'm' :: "alformed ".toList := by decide
  have howner : "owner key ".toList = 'o' :: 'w' :: "ner key ".toList := by decide
  rw [saysUnreadable, String.toList_append, hcs, hmalformed, howner]
  simp only [List.cons_append, List.isPrefixOf, Bool.or_eq_false_iff, Bool.and_eq_false_iff,
    beq_eq_false_iff_ne, ne_eq] at hother ⊢
  refine ⟨.inl fun hc => hother.1 hc.symm, ?_⟩
  rcases hother.2 with hc | hd
  · exact .inl fun h => hc h.symm
  · exact .inr (.inl fun h => hd h.symm)

@[simp] theorem StoreError.saysUnreadable_message (e : StoreError) :
    saysUnreadable e.message = false := by
  unfold message
  cases e.fault with
  | notFound => exact saysUnreadable_append "not found: " rfl rfl
  | conflict => exact saysUnreadable_append "concurrent modification: " rfl rfl
  | unavailable => exact saysUnreadable_append "store unavailable: " rfl rfl
  | serialization => exact saysUnreadable_append "serialization error: " rfl rfl

@[simp] theorem CollaboratorError.saysUnreadable_message (e : CollaboratorError) :
    saysUnreadable e.message = false := by
  cases e with
  | unknownAccount account =>
      show saysUnreadable ("unknown account: " ++ account.render) = false
      exact saysUnreadable_append _ rfl rfl
  | unavailable reason =>
      show saysUnreadable ("collaborator unavailable: " ++ reason) = false
      exact saysUnreadable_append _ rfl rfl

@[simp] theorem OverdueError.saysUnreadable_message (e : OverdueError) :
    saysUnreadable e.message = false := by
  cases e with
  | store cause => exact cause.saysUnreadable_message
  | facts cause => exact saysUnreadable_append "account facts unavailable: " rfl rfl
  | entitlement cause => exact saysUnreadable_append "entitlement gate failed: " rfl rfl
  | conflictRetriesExhausted account retries =>
      show saysUnreadable ("overdue state of account " ++ account.render ++
        " kept changing after " ++ toString retries ++ " retries") = false
      simp only [String.append_assoc]
      exact saysUnreadable_append _ rfl rfl

/-- The reason that a handler gives. -/
def HandlerError.reason : HandlerError → String
  | .transient reason => reason
  | .permanent reason => reason

@[simp] theorem RetryError.saysUnreadable_reason (e : RetryError) :
    saysUnreadable e.toHandlerError.reason = false := by
  cases e with
  | store cause => exact cause.saysUnreadable_message
  | attemptNotFound payment number =>
      simp only [toHandlerError, HandlerError.reason, message, String.append_assoc]
      exact saysUnreadable_append "attempt " rfl rfl

/-! ## Handlers -/

/-- Whether a program can only end well or for a reason that speaks of something else. -/
abbrev Reads {ε : Type} (reason : ε → String) (past : History) (t : Program (Except ε α)) : Prop :=
  t.Obeys Task.Told (fun _ _ => True)
    (fun result _ => ∀ e, result = .error e → saysUnreadable (reason e) = false) past

section

variable {ε : Type} {reason : ε → String} {past : History}

theorem reads_ok (value : α) : Reads reason past (.done (.ok value)) := fun _ h => nomatch h

theorem reads_error {e : ε} (h : saysUnreadable (reason e) = false) :
    Reads reason past (.done (.error e) : Program (Except ε α)) := by
  intro other hother
  obtain rfl := Except.error.inj hother
  exact h

theorem reads_ask {request : Request} {next : request.Answer → Program (Except ε α)}
    (h : ∀ answer later, Reads reason later (next answer)) :
    Reads reason past (.ask request next) := Task.obeys_told.mpr ⟨trivial, fun answer => h answer _⟩

theorem reads_bind {ε' : Type} {reason' : ε' → String} {t : Program (Except ε' β)}
    {f : Except ε' β → Program (Except ε α)} (h : Reads reason' past t)
    (hok : ∀ value later, Reads reason later (f (.ok value)))
    (herror : ∀ e later, saysUnreadable (reason' e) = false → Reads reason later (f (.error e))) :
    Reads reason past (t.bind f) := by
  refine Task.obeys_bind.mpr (h.imp ?_)
  intro result later hresult
  cases result with
  | error e => exact herror e later (hresult e rfl)
  | ok value => exact hok value later

/-- Whatever comes before. -/
theorem reads_after {t : Program β} {f : β → Program (Except ε α)}
    (hf : ∀ value later, Reads reason later (f value)) : Reads reason past (t.bind f) := by
  induction t generalizing past with
  | done value => exact hf value past
  | ask request next ih => exact reads_ask fun answer later => ih answer

end

section

variable {past : History} {item : Item} {event : BillingEvent}

theorem OverdueEngine.handleLook_reads (e : OverdueEngine) (context : HandlerContext)
    (hitem : item.Conveys event) :
    Reads HandlerError.reason past (e.handleLook item context) := by
  have hlook : Reads (fun fault : LookFault => fault.toHandlerError.reason) past
      (e.lookAt item context) := by
    unfold lookAt
    split
    · exact reads_ok _
    · rw [hitem.ownerAccount?_eq]
      refine reads_after fun result later => ?_
      cases result with
      | error cause => exact reads_error cause.saysUnreadable_message
      | ok refreshed =>
          simp only
          split
          · exact reads_ok _
          · refine reads_ask fun set _ => ?_
            simp only [Task.bind_done]
            split
            · exact reads_ok _
            · refine reads_ask fun looks _ => ?_
              cases looks with
              | error cause => exact reads_error cause.saysUnreadable_message
              | ok looks =>
                  simp only [Task.bind_done]
                  split <;> exact reads_ok _
  exact reads_bind hlook (fun _ _ => reads_ok _) fun _ _ h => reads_error h

theorem BillingDate.handle_reads (context : HandlerContext) (hitem : item.Conveys event)
    (hqueue : item.queue = billingDateQueue) :
    Reads HandlerError.reason past (BillingDate.handle item context) := by
  obtain ⟨payload, hpayload⟩ := hitem.billingDate? hqueue
  unfold BillingDate.handle
  split
  · exact reads_ok _
  · rw [hpayload, hitem.ownerAccount?_eq]
    refine reads_ask fun answer _ => ?_
    cases answer with
    | error error => exact reads_error error.saysUnreadable_message
    | ok count =>
        refine reads_ask fun answer _ => ?_
        cases answer with
        | error error => exact reads_error error.saysUnreadable_message
        | ok => exact reads_ok _

namespace RetryController

variable {a : Attempt} {account : AccountId} {context : HandlerContext}

/-- The reason that the handler gives for a failed delivery. -/
abbrev faultReason (fault : DeliveryFault) : String := fault.toHandlerError.reason

theorem recordFirst_reads (a : Attempt) : Reads faultReason past (recordFirst a) := by
  refine reads_ask fun answer _ => ?_
  cases answer with
  | ok => exact reads_ok _
  | error error =>
      simp only [Task.bind_done]
      split
      · refine reads_ask fun answer _ => ?_
        rcases answer with cause | _ | stored
        · exact reads_error cause.saysUnreadable_message
        · refine reads_error ?_
          show saysUnreadable ("attempt 1 of payment " ++ a.payment.render ++ " vanished") = false
          rw [String.append_assoc]
          exact saysUnreadable_append _ rfl rfl
        · exact reads_ok _
      · exact reads_error error.saysUnreadable_message

theorem restriction_reads : Reads faultReason past (restriction account context) := by
  unfold restriction
  split
  · exact reads_ok _
  · refine reads_after fun result _ => ?_
    cases result with
    | error error => exact reads_error error.saysUnreadable_message
    | ok status => exact reads_ok _

theorem giveUpAttempt_reads (reason : String) (now : Instant) :
    Reads faultReason past (giveUpAttempt a reason now) := by
  refine reads_after fun result _ => ?_
  cases result with
  | error cause => exact reads_error cause.saysUnreadable_reason
  | ok => exact reads_ok _

theorem resume_reads (c : RetryController) : Reads faultReason past (c.resume a) := by
  refine reads_after fun result _ => ?_
  cases result with
  | error cause => exact reads_error cause.saysUnreadable_reason
  | ok => exact reads_ok _

theorem unlessRestricted_reads {goOn : DeliveryProgram}
    (h : ∀ later, Reads faultReason later goOn) :
    Reads faultReason past (unlessRestricted a account context goOn) := by
  refine reads_bind restriction_reads (fun restricted later => ?_) fun _ _ hfault =>
    reads_error hfault
  cases restricted with
  | none => exact h later
  | some reason => exact giveUpAttempt_reads reason context.now

theorem handleRetry_reads (c : RetryController) (hitem : item.Conveys event)
    (hqueue : item.queue = retryQueue) :
    Reads HandlerError.reason past (c.handleRetry item context) := by
  obtain ⟨payment, account, amount, failure, failedAt, hpayload⟩ := hitem.initialFailure? hqueue
  have hdeliver : Reads faultReason past (c.deliver item context) := by
    rw [deliver, hpayload]
    refine reads_ask fun id later => ?_
    refine reads_bind (recordFirst_reads _) (fun attempt later => ?_) fun _ _ hfault =>
      reads_error hfault
    simp only
    split
    · exact reads_ok _
    · exact unlessRestricted_reads fun _ => c.resume_reads
  exact reads_bind hdeliver (fun _ _ => reads_ok _) fun _ _ hfault => reads_error hfault

end RetryController

/-- **No handler calls the item of an event unreadable**, whatever it is told. -/
theorem Service.readable_of_mayEnd (s : Service) (context : HandlerContext) {e : HandlerError}
    (hitem : item.Conveys event) (h : (s.handle item context).MayEnd (.error e)) :
    saysUnreadable e.reason = false := by
  have hreads : Reads HandlerError.reason [] (s.handle item context) := by
    rcases s.handle_cases item context with ⟨hqueue, hhandle⟩ | ⟨-, hhandle⟩ |
      ⟨hqueue, hhandle⟩ | hhandle
    · rw [hhandle]
      exact BillingDate.handle_reads context hitem hqueue
    · rw [hhandle]
      exact s.engine.handleLook_reads context hitem
    · rw [hhandle]
      exact s.controller.handleRetry_reads hitem hqueue
    · rw [hhandle]
      exact Task.obeys_told.mpr ⟨trivial, fun answer => nomatch answer⟩
  obtain ⟨_, hend⟩ := hreads.of_mayEnd h
  exact hend e rfl

end

/-! ## Settlements -/

/-- The text that a settlement leaves with its item. -/
def Settlement.error? : Settlement → Option String
  | .recordFailure error _ => some error
  | .deadLetter reason => some reason
  | _ => none

/-- What becomes of an item whose handler failed carries the reason of the failure. -/
theorem Dispatcher.error?_failureSettlement (d : Dispatcher) (item : Item) (reason : String)
    (now : Instant) {settlement : Settlement}
    (h : (d.failureSettlement item reason now).2 = some settlement) :
    settlement.error? = some reason := by
  unfold failureSettlement at h
  simp only at h
  split at h
  · obtain ⟨retryAt, -, rfl⟩ := Option.map_eq_some_iff.mp h
    rfl
  · obtain rfl := Option.some.inj h
    rfl

/-- The settlement of a run says what the handler said, or that the handler did not come to an end. -/
theorem Dispatcher.saysUnreadable_settlement (d : Dispatcher) {item : Item} {now : Instant}
    {run : HandlerRun} {settlement : Settlement} {reason : String}
    (h : (d.settlement item now run).2 = some settlement) (hreason : settlement.error? = some reason)
    (hrun : ∀ e, run = .returned (.error e) → saysUnreadable e.reason = false) :
    saysUnreadable reason = false := by
  rcases run with ((reason' | reason') | (_ | _ | _)) | _ | _
  · obtain rfl : reason' = reason := Option.some.inj
      ((d.error?_failureSettlement item reason' now h).symm.trans hreason)
    exact hrun _ rfl
  · obtain rfl := Option.some.inj h
    obtain rfl := Option.some.inj hreason
    exact hrun _ rfl
  · obtain rfl := Option.some.inj h
    cases hreason
  · obtain rfl := Option.some.inj h
    cases hreason
  · obtain rfl := Option.some.inj h
    cases hreason
  · have htext : d.timeoutReason = reason := Option.some.inj
      ((d.error?_failureSettlement item d.timeoutReason now h).symm.trans hreason)
    rw [← htext]
    show saysUnreadable
      ("handler timed out after " ++ toString d.config.handlerTimeout.millis ++ "ms") = false
    rw [String.append_assoc]
    exact saysUnreadable_append _ rfl rfl
  · have htext : "handler panicked" = reason := Option.some.inj
      ((d.error?_failureSettlement item "handler panicked" now h).symm.trans hreason)
    rw [← htext]
    decide

/-- Only a settlement leaves a text with an item. -/
theorem WorkEvent.Change.lastError_eq {e : WorkEvent} {i j : Item} (h : e.Change i j) :
    j.lastError = i.lastError ∨ ∃ claimer settlement reason,
      e.request = .settle i.id claimer settlement ∧ settlement.error? = some reason ∧
        j.lastError = some reason := by
  cases h with
  | @settled claimer settlement hrequest hverdict haccepts =>
      cases settlement with
      | recordFailure error retryAt => exact .inr ⟨_, _, error, hrequest, rfl, rfl⟩
      | deadLetter reason => exact .inr ⟨_, _, reason, hrequest, rfl, rfl⟩
      | _ => exact .inl rfl
  | _ => exact .inl rfl

/-! ## Runs -/

/-- The items of events carry no text that calls them unreadable. -/
structure Depot.Readable (s : Depot) (past : DeliveryHistory) : Prop where
  tracks : s.Tracks past
  readable : ∀ i ∈ s.shared.work.items, ∀ event, i.Conveys event →
    ∀ reason, i.lastError = some reason → saysUnreadable reason = false

theorem Depot.Readable.step {s s' : Depot} {past : DeliveryHistory} {call : DeliveryCall}
    {reply : call.Answer} {own : DeliveryHistory} (readable : s.Readable past)
    (hown : own ⊆ past) (horders : Service.Orders own call)
    (h : Responds call s reply s') : s'.Readable (⟨call, reply⟩ :: past) := by
  refine ⟨readable.tracks.step h, ?_⟩
  rcases h.cases with ⟨hwork, -⟩ | ⟨e, rfl, step, -⟩
  · rw [hwork]
    exact readable.readable
  · intro j hj event hconveys reason hreason
    rcases step.of_mem readable.tracks.distinct hj with ⟨i, hi, hchange⟩ | hcreated
    · obtain ⟨hqueue, howner, hpayload⟩ := hchange.frame
      have hbefore : i.Conveys event :=
        hconveys.of_frame ⟨hqueue.symm, howner.symm, hpayload.symm⟩
      rcases hchange.lastError_eq with hsame | ⟨claimer, settlement, text, hrequest, htext, hlast⟩
      · exact readable.readable i hi event hbefore reason (hsame ▸ hreason)
      · obtain rfl := Option.some.inj (hlast.symm.trans hreason)
        rw [hrequest] at horders
        rcases horders.of_settle with ⟨service, item, context, run, hid, hout, -, hend, hsettles⟩ |
          ⟨_, _, _, _, _, _, rfl⟩
        · have hitem : item.Conveys event :=
            hbefore.of_frame (readable.tracks.alike (hout.mono hown) hi hid)
          refine service.dispatcher.saysUnreadable_settlement hsettles htext ?_
          rintro e rfl
          exact service.readable_of_mayEnd context hitem hend
        · cases htext
    · have hnone : j.lastError = none := by
        obtain ⟨clock, fresh, request, answer⟩ := e
        cases request with
        | enqueue | markOwnerCancelled =>
            obtain rfl := List.mem_singleton.mp hcreated
            rfl
        | _ => cases hcreated
      rw [hnone] at hreason
      cases hreason

theorem Depot.Readable.of_reaches {q : Interleaving DeliveryCall DeliveryCall.Answer Depot Unit}
    (h : Interleaving.Reaches Service.delivering ⟨{}, [], []⟩ q) :
    q.state.Readable (q.log.map Prod.snd) := by
  let inv (s : Depot) (log : DeliveryLog) : Prop := s.Readable (log.map Prod.snd)
  have hkeeps : inv q.state q.log := by
    refine (Interleaving.Lawful.of_empty {}).keeps Service.delivering_conduct h ?_
      ⟨Depot.tracks_empty, fun _ hmem => by cases hmem⟩
    intro s log place call reply s' readable horders hresponds
    exact readable.step (fun _ hmem => List.mem_map_of_mem (Interleaving.mem_of_mem_told hmem))
      horders hresponds
  exact hkeeps

open RetryController (noonAccount)

end Dunning
