import Dunning.Proofs.Overdue.Refreshing
import Dunning.Proofs.Payment.Moves
import Dunning.Service

/-!
# What the handling of an item asks

Four requests act on an account: charges, invoices, hooks and restrictions. A handler makes them for
one account only, and for none when it is told that the owner of its item is closed. Looks and
billing dates act on the account that the owner of the item names, and charges on the account of the
attempt that the item asks for, as it was read.

What a handler schedules belongs to the owner of its item, to some account, or to an attempt that it
knows. All of this is stated in its own view, for every controller, engine and context, along the
three handlers.

## Main definitions

* `Request.actsOn?`, `Request.isPlain` — whose account a request acts on, and which requests neither
  act on accounts nor write what a later handling rests on.
* `Exchange.IsHonest` — the stores give out the record that was asked for.
* `Handles` — what the handling of an item may ask.

## Main results

* `Service.handle_serves` — every handler of a service keeps to that.
-/

namespace Dunning

/-! ## Requests -/

/-- The account that a request acts on. -/
def Request.actsOn? : Request → Option AccountId
  | .charge request => some request.account
  | .generateInvoices account _ => some account
  | .runHook run => some run.account
  | .setBlocked account _ => some account
  | _ => none

/-- Whether a request neither acts on an account nor writes what a later handling rests on: it creates
no item and no mark, and replaces no attempt. -/
def Request.isPlain : Request → Bool
  | .work (.enqueue _) => false
  | .work (.markOwnerCancelled ..) => false
  | .attempt (.update _) => false
  | .charge _ => false
  | .generateInvoices .. => false
  | .runHook _ => false
  | .setBlocked .. => false
  | _ => true

/-- A plain request acts on no account. -/
theorem Request.actsOn?_of_isPlain {request : Request} (h : request.isPlain = true) :
    request.actsOn? = none := by
  unfold actsOn?
  split
  all_goals first | rfl | cases h

/-- Whether an exchange gives out no record but the one that was asked for. -/
def Exchange.IsHonest : Exchange Request Request.Answer → Prop
  | ⟨.state (.get account), .ok (some record)⟩ => record.account = account
  | ⟨.attempt (.get payment number), .ok (some a)⟩ => a.payment = payment ∧ a.number = number
  | _ => True

namespace History

/-- Whether a history tells of an attempt: it was read or recorded. -/
def TellsOf (past : History) (a : Attempt) : Prop :=
  (∃ payment number, ⟨.attempt (.get payment number), .ok (some a)⟩ ∈ past) ∨
    ⟨.attempt (.insert a), .ok ()⟩ ∈ past

/-- Whether a history tells of an attempt of the same payment, number and account. -/
def Knows (past : History) (a : Attempt) : Prop :=
  ∃ b, past.TellsOf b ∧ b.payment = a.payment ∧ b.number = a.number ∧ b.account = a.account

variable {past later : History} {a : Attempt}

theorem TellsOf.mono (h : past.TellsOf a) (hsubset : past ⊆ later) : later.TellsOf a := by
  rcases h with ⟨payment, number, hmem⟩ | hmem
  · exact .inl ⟨payment, number, hsubset hmem⟩
  · exact .inr (hsubset hmem)

theorem Knows.mono (h : past.Knows a) (hsubset : past ⊆ later) : later.Knows a := by
  obtain ⟨b, htells, hkey⟩ := h
  exact ⟨b, htells.mono hsubset, hkey⟩

theorem TellsOf.knows (h : past.TellsOf a) : past.Knows a := ⟨a, h, rfl, rfl, rfl⟩

end History

/-! ## The rule -/

/-- What the handling of an item may ask after a history, given whether its owner is closed. -/
inductive Handles (item : Item) (closed : Bool) (past : History) : Request → Prop
  | plain {request : Request} : request.isPlain = true → Handles item closed past request
  /-- The owner names the account that is acted on. -/
  | act {request : Request} {account : AccountId} : closed = false →
      ownerAccount? item.owner = some account → request.actsOn? = some account →
      Handles item closed past request
  /-- The attempt that the item asks for is charged as it was read. -/
  | charge {payment : PaymentId} {account : AccountId} {number : UInt32} {amount : UInt64}
      {a : Attempt} : closed = false → item.queue = retryQueue →
      RetryPayload.decode? item.payload.toNode =
        some (.scheduledRetry payment account number amount) →
      ⟨.attempt (.get payment number), .ok (some a)⟩ ∈ past →
      Handles item closed past (.charge (RetryController.requestOf a payment number))
  | update {a : Attempt} : past.Knows a → Handles item closed past (.attempt (.update a))
  | look {owner reason : String} {due : Instant} :
      (owner = item.owner ∨ ∃ account : AccountId, owner = account.render) →
      Handles item closed past (.work (.enqueue (refreshItem owner due reason)))
  | schedule {a : Attempt} : past.Knows a →
      Handles item closed past (.work (.enqueue (RetryController.itemOf a)))

theorem Handles.mono {item : Item} {closed : Bool} {past later : History} {request : Request}
    (h : Handles item closed past request) (hsubset : past ⊆ later) :
    Handles item closed later request := by
  cases h with
  | plain hplain => exact .plain hplain
  | act hopen howner hacts => exact .act hopen howner hacts
  | charge hopen hqueue hpayload htold => exact .charge hopen hqueue hpayload (hsubset htold)
  | update hknows => exact .update (hknows.mono hsubset)
  | look howner => exact .look howner
  | schedule hknows => exact .schedule (hknows.mono hsubset)

/-- Whether a program keeps to what the handling of an item may ask. -/
abbrev Serves {α : Type} (item : Item) (closed : Bool) (past : History) (t : Program α) : Prop :=
  t.Keeps Exchange.IsHonest (Handles item closed) past

/-! ## Looks -/

namespace OverdueEngine

variable {item : Item} {past : History} {account : AccountId} {t : Transition} {now : Instant}

theorem runHooks_serves (e : OverdueEngine) (howner : ownerAccount? item.owner = some account)
    (haccount : t.after.account = account) (phase : HookPhase) (hooks : List String) :
    Serves item false past (e.runHooks t phase now hooks) := by
  induction hooks generalizing past with
  | nil => exact .done ()
  | cons hook rest ih =>
      unfold runHooks
      split
      · exact .call (.act rfl howner (congrArg some haccount)) fun _ _ => ih
      · exact ih

theorem dropLooks_serves (closed : Bool) : Serves item closed past (dropLooks t now) := by
  unfold dropLooks
  split
  · exact .call (.plain rfl) fun _ _ => .done ()
  · exact .done ()

theorem restrict_serves (howner : ownerAccount? item.owner = some account)
    (haccount : t.after.account = account) : Serves item false past (restrict t) := by
  unfold restrict
  split
  · exact .call (.act rfl howner (congrArg some haccount)) fun _ _ => .done _
  · exact .done _

theorem scheduleLook_serves (closed : Bool) : Serves item closed past (scheduleLook t) := by
  unfold scheduleLook
  split
  · exact .call (.look (.inr ⟨_, rfl⟩)) fun _ _ => .done ()
  · exact .done ()

theorem apply_serves (e : OverdueEngine) (howner : ownerAccount? item.owner = some account)
    (haccount : t.after.account = account) (setVersion : UInt64) :
    Serves item false past (e.apply t setVersion now) := by
  simp only [apply, Task.bind_eq, Task.pure_eq]
  refine (e.runHooks_serves howner haccount _ _).bind fun _ _ _ => ?_
  refine (dropLooks_serves false).bind fun _ _ _ => ?_
  refine (restrict_serves howner haccount).bind fun restricted _ _ => ?_
  refine (e.runHooks_serves howner haccount _ _).bind fun _ _ _ => ?_
  refine (scheduleLook_serves false).bind fun _ _ _ => ?_
  cases restricted with
  | ok => exact .done _
  | error cause => exact .call (.plain rfl) fun _ _ => .done _

/-- A refresh acts on the account whose record it was given. -/
theorem tryRefresh_serves (e : OverdueEngine) (howner : ownerAccount? item.owner = some account)
    (facts : AccountFacts) : Serves item false past (e.tryRefresh account facts now) := by
  refine .call (.plain rfl) fun set _ => ?_
  refine .ask (.plain rfl) fun answer honest => ?_
  cases answer with
  | error error => exact .done _
  | ok record =>
      simp only [Task.bind_done]
      split
      · exact .done _
      · rename_i t hplan
        have haccount : t.after.account = account := by
          rw [planTransition_account hplan]
          cases record with
          | none => rfl
          | some record => exact honest
        refine .call (.plain rfl) fun answer _ => ?_
        cases answer with
        | error error => exact .done _
        | ok =>
            refine (e.apply_serves howner haccount _).bind fun result _ _ => ?_
            cases result with
            | ok => exact .done _
            | error error => exact .done _

theorem refreshWithin_serves (e : OverdueEngine) (howner : ownerAccount? item.owner = some account)
    (facts : AccountFacts) (attempts : Nat) :
    Serves item false past (e.refreshWithin account facts now attempts) := by
  induction attempts generalizing past with
  | zero => exact .done _
  | succ attempts ih =>
      refine (e.tryRefresh_serves howner facts).bind fun result _ _ => ?_
      cases result with
      | none => exact ih
      | some result => exact .done _

theorem refresh_serves (e : OverdueEngine) (howner : ownerAccount? item.owner = some account) :
    Serves item false past (e.refresh account now) := by
  refine .call (.plain rfl) fun answer _ => ?_
  cases answer with
  | error cause => exact .done _
  | ok facts => exact e.refreshWithin_serves howner facts _

theorem look_serves (e : OverdueEngine) (howner : ownerAccount? item.owner = some account) :
    Serves item false past (e.look account item now) := by
  refine (e.refresh_serves howner).bind fun result _ _ => ?_
  cases result with
  | error cause => exact .done _
  | ok refreshed =>
      simp only
      split
      · exact .done _
      · refine .call (.plain rfl) fun set _ => ?_
        simp only [Task.bind_done]
        split
        · exact .done _
        · refine .call (.plain rfl) fun looks _ => ?_
          cases looks with
          | error cause => exact .done _
          | ok looks =>
              simp only [Task.bind_done]
              split <;> exact .done _

theorem handleLook_serves (e : OverdueEngine) (item : Item) (context : HandlerContext) :
    Serves item context.ownerCancelled past (e.handleLook item context) := by
  unfold handleLook
  refine Task.Keeps.bind ?_ fun _ _ _ => .done _
  unfold lookAt
  cases hclosed : context.ownerCancelled with
  | true => exact .done _
  | false =>
      simp only [Bool.false_eq_true, if_false]
      split
      · exact .done _
      · rename_i account howner
        exact e.look_serves howner

end OverdueEngine

/-! ## Billing dates -/

theorem BillingDate.handle_serves {past : History} (item : Item) (context : HandlerContext) :
    Serves item context.ownerCancelled past (BillingDate.handle item context) := by
  unfold BillingDate.handle
  cases hclosed : context.ownerCancelled with
  | true => exact .done _
  | false =>
      simp only [Bool.false_eq_true, if_false]
      split
      · exact .done _
      · exact .done _
      · rename_i payload account hpayload howner
        refine .call (.act rfl howner rfl) fun answer _ => ?_
        cases answer with
        | error error => exact .done _
        | ok count =>
            refine .call (.look (.inl rfl)) fun answer _ => ?_
            cases answer <;> exact .done _

/-! ## Payment attempts -/

namespace RetryController

variable {item : Item} {closed : Bool} {past : History} {a : Attempt} {now : Instant}

theorem finish_serves (outcome : AttemptOutcome) (hknows : past.Knows a) :
    Serves item closed past (finish a outcome now) := by
  unfold finish
  split
  · exact .done _
  · have hfinished : past.Knows (finished a outcome now) := hknows
    refine .call (.update hfinished) fun answer _ => ?_
    cases answer <;> exact .done _

theorem ensureItem_serves (hknows : past.Knows a) : Serves item closed past (ensureItem a) := by
  refine .ask (.plain rfl) fun answer _ => ?_
  cases answer with
  | error cause => exact .done _
  | ok items =>
      simp only [Task.bind_done]
      split
      · exact .done _
      · refine .call (.schedule (hknows.mono (List.subset_cons_self _ _))) fun answer _ => ?_
        cases answer <;> exact .done _

/-- An attempt that is recorded or found is known afterwards. -/
theorem insertOrFind_serves {ε β : Type} (candidate : Attempt) (payment : PaymentId)
    (number : UInt32) (refused : StoreError → ε) (vanished : ε) {f : Except ε Attempt → Program β}
    (hf : ∀ result later, past ⊆ later →
      (∀ b, result = .ok b → later.TellsOf b) → Serves item closed later (f result)) :
    Serves item closed past ((insertOrFind candidate payment number refused vanished).bind f) := by
  refine .ask (.plain rfl) fun answer _ => ?_
  cases answer with
  | ok =>
      refine hf _ _ (List.subset_cons_self _ _) ?_
      rintro b hresult
      obtain rfl := Except.ok.inj hresult
      exact .inr List.mem_cons_self
  | error error =>
      simp only [Task.bind_eq, Task.pure_eq, Task.bind_done]
      split
      · simp only [Program.getAttempt, Task.bind_ask, Task.bind_done]
        refine .ask (.plain rfl) fun answer _ => ?_
        have hlater : past ⊆ ⟨.attempt (.get payment number), answer⟩ ::
            ⟨.attempt (.insert candidate), .error error⟩ :: past :=
          List.subset_cons_of_subset _ (List.subset_cons_self _ _)
        rcases answer with cause | _ | stored
        · exact hf _ _ hlater fun _ hresult => by cases hresult
        · exact hf _ _ hlater fun _ hresult => by cases hresult
        · refine hf _ _ hlater ?_
          rintro b hresult
          obtain rfl := Except.ok.inj hresult
          exact .inl ⟨_, _, List.mem_cons_self⟩
      · exact hf _ _ (List.subset_cons_self _ _) fun _ hresult => by cases hresult

theorem schedule_serves (due : Instant) (adjusted : Option UInt64) :
    Serves item closed past (schedule a due adjusted now) := by
  refine .call (.plain rfl) fun id later => ?_
  simp only [Task.bind_done, Task.bind_eq, recordNext_eq]
  refine insertOrFind_serves _ _ _ _ _ fun result _ _ hknown => ?_
  cases result with
  | error error => exact .done _
  | ok next =>
      simp only
      split
      · exact ensureItem_serves (hknown next rfl).knows
      · exact .done _

theorem followUp_serves (c : RetryController) (failedAt : Instant) (hknows : past.Knows a) :
    Serves item closed past (c.followUp a failedAt) := by
  unfold followUp
  split
  · rename_i decision hdecision
    rw [applyDecision_eq]
    refine (finish_serves _ hknows).bind fun result _ _ => ?_
    cases result with
    | error error => exact .done _
    | ok =>
        simp only [goOn]
        split
        · exact .done _
        · split
          · exact .done _
          · exact schedule_serves _ _
  · exact .call (.plain rfl) fun answer => nomatch answer

theorem giveUpAttempt_serves (reason : String) (hknows : past.Knows a) :
    Serves item closed past (giveUpAttempt a reason now) := by
  refine Task.Keeps.bind ?_ fun result _ _ => ?_
  · refine (finish_serves _ hknows).bind fun result _ _ => ?_
    cases result <;> exact .done _
  · cases result <;> exact .done _

theorem restriction_serves (account : AccountId) (context : HandlerContext) :
    Serves item closed past (restriction account context) := by
  unfold restriction
  split
  · exact .done _
  · refine Task.Keeps.bind ?_ fun result _ _ => ?_
    · refine .call (.plain rfl) fun record _ => ?_
      cases record with
      | error error => exact .done _
      | ok record =>
          refine .call (.plain rfl) fun set _ => ?_
          refine .call (.plain rfl) fun looks _ => ?_
          cases looks <;> exact .done _
    · cases result <;> exact .done _

/-- An account that is closed is never charged: what goes on is asked only when it is open. -/
theorem unlessRestricted_serves {account : AccountId} {context : HandlerContext}
    {goOn : DeliveryProgram} (hknows : past.Knows a)
    (hgoOn : context.ownerCancelled = false → ∀ later, past ⊆ later →
      Serves item context.ownerCancelled later goOn) :
    Serves item context.ownerCancelled past (unlessRestricted a account context goOn) := by
  unfold unlessRestricted
  cases hclosed : context.ownerCancelled with
  | true =>
      simp only [restriction, hclosed, if_true, Task.pure_eq, Task.bind_done]
      exact giveUpAttempt_serves _ hknows
  | false =>
      refine (restriction_serves account context).bind fun result later hlater => ?_
      rcases result with fault | _ | reason
      · exact .done _
      · rw [← hclosed]
        exact hgoOn hclosed later hlater
      · exact giveUpAttempt_serves _ (hknows.mono hlater)

theorem resume_serves (c : RetryController) (hknows : past.Knows a) :
    Serves item closed past (c.resume a) :=
  (c.followUp_serves _ hknows).bind fun _ _ _ => .done _

theorem firstFailure_serves (c : RetryController) (payment : PaymentId) (account : AccountId)
    (amount : UInt64) (failure : PaymentFailure) (failedAt : Instant) (context : HandlerContext) :
    Serves item context.ownerCancelled past
      (c.firstFailure payment account amount failure failedAt context) := by
  refine .call (.plain rfl) fun id _ => ?_
  simp only [Task.bind_done, Task.bind_eq, recordFirst_eq]
  refine insertOrFind_serves _ _ _ _ _ fun result later _ hknown => ?_
  cases result with
  | error fault => exact .done _
  | ok attempt =>
      simp only
      split
      · exact .done _
      · have hknows : History.Knows later attempt := (hknown attempt rfl).knows
        exact unlessRestricted_serves hknows fun _ _ hlater =>
          c.resume_serves (hknows.mono hlater)

/-- A pending attempt is charged as it was read. -/
theorem charge_serves (c : RetryController) {payment : PaymentId} {account : AccountId}
    {number : UInt32} {amount : UInt64} (hqueue : item.queue = retryQueue)
    (hpayload : RetryPayload.decode? item.payload.toNode =
      some (.scheduledRetry payment account number amount))
    (htold : ⟨.attempt (.get payment number), .ok (some a)⟩ ∈ past) :
    Serves item false past (c.charge a payment number now) := by
  have hknows : past.Knows a := History.TellsOf.knows (.inl ⟨payment, number, htold⟩)
  refine .ask (.charge rfl hqueue hpayload htold) fun answer _ => ?_
  have hlater := hknows.mono (List.subset_cons_self
    (⟨.charge (requestOf a payment number), answer⟩ : Exchange Request Request.Answer) past)
  rcases answer with error | _ | failure
  · exact .done _
  · refine (finish_serves _ hlater).bind fun result _ _ => ?_
    cases result with
    | error cause => exact .done _
    | ok => exact .call (.look (.inr ⟨_, rfl⟩)) fun _ _ => .done _
  · have hfailed : History.Knows (⟨.charge (requestOf a payment number), .ok (.failed failure)⟩ ::
        past) { a with failure := some failure } := hlater
    exact (c.followUp_serves _ hfailed).bind fun _ _ _ => .done _

theorem scheduledAttempt_serves (c : RetryController) {payment : PaymentId} {account : AccountId}
    {number : UInt32} {amount : UInt64} (context : HandlerContext)
    (hqueue : item.queue = retryQueue)
    (hpayload : RetryPayload.decode? item.payload.toNode =
      some (.scheduledRetry payment account number amount)) :
    Serves item context.ownerCancelled past (c.scheduledAttempt payment number context) := by
  refine .ask (.plain rfl) fun answer _ => ?_
  rcases answer with cause | _ | a
  · exact .done _
  · exact .done _
  · have hknows : History.Knows (⟨.attempt (.get payment number), .ok (some a)⟩ :: past) a :=
      History.TellsOf.knows (.inl ⟨payment, number, List.mem_cons_self⟩)
    simp only [Task.bind_done]
    split
    · refine unlessRestricted_serves hknows fun hopen later hlater => ?_
      rw [hopen]
      exact c.charge_serves hqueue hpayload (hlater List.mem_cons_self)
    · exact c.resume_serves hknows
    · exact .done _
    · exact .done _

theorem handleRetry_serves (c : RetryController) (context : HandlerContext)
    (hqueue : item.queue = retryQueue) :
    Serves item context.ownerCancelled past (c.handleRetry item context) := by
  refine Task.Keeps.bind ?_ fun _ _ _ => .done _
  unfold deliver
  split
  · exact .done _
  · exact c.firstFailure_serves _ _ _ _ _ _
  · rename_i payment account number amount hpayload
    exact c.scheduledAttempt_serves context hqueue hpayload

end RetryController

/-! ## Services -/

/-- **What the handling of an item asks.** Every handler of every service keeps to the rule. -/
theorem Service.handle_serves (s : Service) (past : History) (item : Item)
    (context : HandlerContext) :
    Serves item context.ownerCancelled past (s.handle item context) := by
  have htable : s.handlers.entries =
      [(billingDateQueue, BillingDate.handle), (refreshQueue, s.engine.handleLook),
       (retryQueue, s.controller.handleRetry)] := rfl
  unfold handle
  split
  · rename_i handler hhandler
    rw [QueueTable.get?, htable, List.lookup_cons, List.lookup_cons, List.lookup_cons] at hhandler
    split at hhandler
    · obtain rfl := Option.some.inj hhandler
      exact BillingDate.handle_serves item context
    · split at hhandler
      · obtain rfl := Option.some.inj hhandler
        exact s.engine.handleLook_serves item context
      · split at hhandler
        · rename_i hqueue
          obtain rfl := Option.some.inj hhandler
          exact s.controller.handleRetry_serves context (beq_iff_eq.mp hqueue)
        · cases hhandler
  · exact .call (.plain rfl) fun answer => nomatch answer

end Dunning
