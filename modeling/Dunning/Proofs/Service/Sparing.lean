import Dunning.Proofs.Service.Handlers

/-!
# Handlers end no items

An item ends when it is settled or withdrawn. Handlers leave that to their dispatcher. There is one
exception: a refresh that moves an account to another state withdraws the looks that belong to the
state it left. What it may ask then is known from its conduct, so here it is enough to say that every
other request of every handler spares the items.

## Main definitions

* `Request.endsNoItem` — whether a request neither settles nor withdraws an item.
* `History.Leaves` — what a handler may ask: it ends no item, or works on a transition of its own.

## Main results

* `Service.handle_cases` — the handler of an item is that of its queue.
* `Service.handle_leaves` — every handler of a service keeps to the rule.
-/

namespace Dunning

variable {α : Type}

/-! ## The rule -/

/-- Whether a request neither settles nor withdraws an item. -/
def Request.endsNoItem : Request → Bool
  | .work (.settle ..) => false
  | .work (.cancel _) => false
  | .work (.cancelPending ..) => false
  | _ => true

/-- What a handler or a refresh may ask: it ends no item, or it is at work on a transition of its own.
-/
def History.Leaves (past : History) (request : Request) : Prop :=
  request.endsNoItem = true ∨ ∃ account, OverdueEngine.May account past request

/-- Whether a program ends no item at all. -/
abbrev Spares (past : History) (t : Program α) : Prop :=
  t.Keeps (fun _ => True) (fun _ request => request.endsNoItem = true) past

theorem Spares.leaves {past : History} {t : Program α} (h : Spares past t) :
    t.Obeys Task.Told History.Leaves (fun _ _ => True) past :=
  (h.of_hears.imp_rule fun _ _ hrule => .inl (hrule fun _ _ => trivial)).imp fun _ _ _ => trivial

/-! ## Looks -/

theorem OverdueEngine.Refreshes.leaves {account : AccountId} {facts : AccountFacts}
    {program : Program (Except OverdueError Refreshed)} (h : Refreshes account facts program) :
    program.Obeys Task.Told History.Leaves (fun _ _ => True) [] :=
  (h.obeys.imp_rule fun _ _ hmay => .inr ⟨account, hmay⟩).imp fun _ _ _ => trivial

theorem OverdueEngine.handleLook_leaves (e : OverdueEngine) (item : Item)
    (context : HandlerContext) :
    (e.handleLook item context).Obeys Task.Told History.Leaves (fun _ _ => True) [] := by
  suffices hlook : (e.lookAt item context).Obeys Task.Told History.Leaves (fun _ _ => True) [] from
    Task.obeys_bind.mpr (hlook.imp fun _ _ _ => trivial)
  unfold lookAt
  split
  · trivial
  · split
    · trivial
    · rename_i account _
      have hrefresh : Refreshes account {} (e.refresh account context.now) := .asking e context.now
      refine Task.obeys_bind.mpr (hrefresh.leaves.imp ?_)
      intro result past _
      cases result with
      | error cause => trivial
      | ok refreshed =>
          refine Spares.leaves ?_
          simp only
          split
          · exact .done _
          · refine .call rfl fun set _ => ?_
            simp only [Task.bind_done]
            split
            · exact .done _
            · refine .call rfl fun looks _ => ?_
              cases looks with
              | error cause => exact .done _
              | ok looks =>
                  simp only [Task.bind_done]
                  split <;> exact .done _

/-! ## Billing dates -/

theorem BillingDate.handle_spares {past : History} (item : Item) (context : HandlerContext) :
    Spares past (BillingDate.handle item context) := by
  unfold BillingDate.handle
  split
  · exact .done _
  · split
    · exact .done _
    · exact .done _
    · refine .call rfl fun answer _ => ?_
      cases answer with
      | error error => exact .done _
      | ok count =>
          refine .call rfl fun answer _ => ?_
          cases answer <;> exact .done _

/-! ## Payment attempts -/

namespace RetryController

variable {past : History} {a : Attempt} {now : Instant}

theorem finish_spares (outcome : AttemptOutcome) : Spares past (finish a outcome now) := by
  unfold finish
  split
  · exact .done _
  · refine .call rfl fun answer _ => ?_
    cases answer <;> exact .done _

theorem insertOrFind_spares {ε : Type} (candidate : Attempt) (payment : PaymentId)
    (number : UInt32) (refused : StoreError → ε) (vanished : ε) :
    Spares past (insertOrFind candidate payment number refused vanished) := by
  refine .call rfl fun answer _ => ?_
  cases answer with
  | ok => exact .done _
  | error error =>
      simp only [Task.bind_eq, Task.pure_eq, Task.bind_done]
      split
      · refine .call rfl fun answer _ => ?_
        rcases answer with cause | _ | stored <;> exact .done _
      · exact .done _

theorem ensureItem_spares : Spares past (ensureItem a) := by
  refine .call rfl fun answer _ => ?_
  cases answer with
  | error cause => exact .done _
  | ok items =>
      simp only [Task.bind_done]
      split
      · exact .done _
      · refine .call rfl fun answer _ => ?_
        cases answer <;> exact .done _

theorem schedule_spares (due : Instant) (adjusted : Option UInt64) :
    Spares past (schedule a due adjusted now) := by
  refine .call rfl fun id later => ?_
  simp only [Task.bind_done, Task.bind_eq, recordNext_eq]
  refine (insertOrFind_spares _ _ _ _ _).bind fun result _ _ => ?_
  cases result with
  | error error => exact .done _
  | ok next =>
      simp only
      split
      · exact ensureItem_spares
      · exact .done _

theorem followUp_spares (c : RetryController) (failedAt : Instant) :
    Spares past (c.followUp a failedAt) := by
  unfold followUp
  split
  · rename_i decision hdecision
    rw [applyDecision_eq]
    refine (finish_spares _).bind fun result _ _ => ?_
    cases result with
    | error error => exact .done _
    | ok =>
        simp only [goOn]
        split
        · exact .done _
        · split
          · exact .done _
          · exact schedule_spares _ _
  · refine .call rfl fun answer => ?_
    cases answer

theorem restriction_spares (account : AccountId) (context : HandlerContext) :
    Spares past (restriction account context) := by
  unfold restriction
  split
  · exact .done _
  · refine Task.Keeps.bind ?_ fun result _ _ => ?_
    · refine .call rfl fun record _ => ?_
      cases record with
      | error error => exact .done _
      | ok record =>
          refine .call rfl fun set _ => .call rfl fun looks _ => ?_
          cases looks <;> exact .done _
    · cases result <;> exact .done _

theorem unlessRestricted_spares {account : AccountId} {context : HandlerContext}
    {goOn : DeliveryProgram} (hgoOn : ∀ later, Spares later goOn) :
    Spares past (unlessRestricted a account context goOn) := by
  refine (restriction_spares account context).bind fun result later _ => ?_
  rcases result with fault | _ | reason
  · exact .done _
  · exact hgoOn later
  · refine Task.Keeps.bind ?_ fun result _ _ => ?_
    · refine (finish_spares _).bind fun result _ _ => ?_
      cases result <;> exact .done _
    · cases result <;> exact .done _

theorem resume_spares (c : RetryController) : Spares past (c.resume a) :=
  (c.followUp_spares _).bind fun _ _ _ => .done _

theorem charge_spares (c : RetryController) (payment : PaymentId) (number : UInt32) :
    Spares past (c.charge a payment number now) := by
  refine .call rfl fun answer _ => ?_
  rcases answer with error | _ | failure
  · exact .done _
  · refine (finish_spares _).bind fun result _ _ => ?_
    cases result with
    | error cause => exact .done _
    | ok => exact .call rfl fun _ _ => .done _
  · exact (c.followUp_spares _).bind fun _ _ _ => .done _

theorem handleRetry_spares (c : RetryController) (item : Item) (context : HandlerContext) :
    Spares past (c.handleRetry item context) := by
  refine Task.Keeps.bind ?_ fun _ _ _ => .done _
  unfold deliver
  split
  · exact .done _
  · refine .call rfl fun id _ => ?_
    simp only [Task.bind_done, Task.bind_eq, recordFirst_eq]
    refine (insertOrFind_spares _ _ _ _ _).bind fun result _ _ => ?_
    cases result with
    | error fault => exact .done _
    | ok attempt =>
        simp only
        split
        · exact .done _
        · exact unlessRestricted_spares fun _ => c.resume_spares
  · refine .call rfl fun answer _ => ?_
    rcases answer with cause | _ | attempt
    · exact .done _
    · exact .done _
    · simp only [Task.bind_done]
      split
      · exact unlessRestricted_spares fun _ => c.charge_spares _ _
      · exact c.resume_spares
      · exact .done _
      · exact .done _

end RetryController

/-! ## Services -/

/-- The queues that have handlers. -/
theorem Service.handled_dispatcher (s : Service) :
    s.dispatcher.handled = [billingDateQueue, refreshQueue, retryQueue] := rfl

/-- The handler of an item is that of its queue. -/
theorem Service.handle_cases (s : Service) (item : Item) (context : HandlerContext) :
    (item.queue = billingDateQueue ∧ s.handle item context = BillingDate.handle item context) ∨
      (item.queue = refreshQueue ∧ s.handle item context = s.engine.handleLook item context) ∨
      (item.queue = retryQueue ∧ s.handle item context = s.controller.handleRetry item context) ∨
      s.handle item context = Program.giveUp := by
  have htable : s.handlers.get? item.queue =
      [(billingDateQueue, BillingDate.handle), (refreshQueue, s.engine.handleLook),
       (retryQueue, s.controller.handleRetry)].lookup item.queue := rfl
  simp only [handle, htable, List.lookup_cons]
  by_cases hbilling : item.queue = billingDateQueue
  · exact .inl ⟨hbilling, by rw [beq_iff_eq.mpr hbilling]⟩
  · by_cases hrefresh : item.queue = refreshQueue
    · exact .inr (.inl ⟨hrefresh, by rw [beq_false_of_ne hbilling, beq_iff_eq.mpr hrefresh]⟩)
    · by_cases hretry : item.queue = retryQueue
      · refine .inr (.inr (.inl ⟨hretry, ?_⟩))
        rw [beq_false_of_ne hbilling, beq_false_of_ne hrefresh, beq_iff_eq.mpr hretry]
      · refine .inr (.inr (.inr ?_))
        rw [beq_false_of_ne hbilling, beq_false_of_ne hrefresh, beq_false_of_ne hretry]
        rfl

/-- **Handlers.** The handler of an item ends no item, or it works on a transition of its own. -/
theorem Service.handle_leaves (s : Service) (item : Item) (context : HandlerContext) :
    (s.handle item context).Obeys Task.Told History.Leaves (fun _ _ => True) [] := by
  rcases s.handle_cases item context with ⟨-, h⟩ | ⟨-, h⟩ | ⟨-, h⟩ | h
  · rw [h]
    exact (BillingDate.handle_spares item context).leaves
  · rw [h]
    exact s.engine.handleLook_leaves item context
  · rw [h]
    exact (s.controller.handleRetry_spares item context).leaves
  · rw [h]
    exact Task.obeys_told.mpr ⟨.inl rfl, fun answer => nomatch answer⟩

end Dunning
