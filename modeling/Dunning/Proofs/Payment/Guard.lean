import Dunning.Proofs.Overdue.Agreement
import Dunning.Proofs.Payment.Recovery

/-!
# What guards a charge

Three things keep a delivery from charging an account: the outcome of the stored attempt, the mark of a
closed owner and the flags that are recorded for the account. They are looked at on two paths, and the
amount is written down in two places. The law about them has two sides. A charge is asked for at most
once, when nothing speaks against it, and as the stored attempt says. And when the account is restricted,
the attempt is given up and nothing else comes of the delivery.

The stores do not fail here, and the recorded states are given; everything else that the surroundings say
is open.

## Main definitions

* `Surroundings.recorded` — stores that do not fail, and given states.
* `RetryController.Restricted` — an account that must not be charged.
* `RetryController.Guards` — the charges that a delivery may ask for.
* `Ledger.GaveUp` — all that has come of a delivery is that an attempt was given up.
* `RetryController.DeliversTo` — a delivery comes to an end, and to no other than is said.

## Main results

* `RetryController.handleRetry_guards` — every delivery asks for no other charge.
* `RetryController.deliver_restricted_attempt`, `RetryController.deliver_restricted_failure`,
  `RetryController.deliver_restricted_repetition` — the deliveries for a restricted account.
* `RetryController.charges_are_guarded` — both sides of the law.
-/

namespace Dunning

/-! ## The surroundings -/

/-- Surroundings whose stores do not fail and in which the recorded states are given. -/
def Surroundings.recorded (states : StateStore) : Surroundings where
  fails _ _ := False
  gives
    | .state (.get account), answer => answer = .ok (states.get? account)
    | _, _ => True

theorem Surroundings.recorded_honest (states : StateStore) : (recorded states).Honest :=
  fun _ _ h => h.elim

/-- Whether no charge was answered so far. -/
def Ledger.Uncharged (l : Ledger) : Prop :=
  ∀ request answer, LedgerEvent.answered (.charge request) answer ∉ l.past

/-- Whether the history only went on, without a charge: the stores are as they were. -/
structure Ledger.LooksOn (l l' : Ledger) : Prop where
  agrees : l.Agrees l'
  uncharged : l.Uncharged → l'.Uncharged

namespace Ledger.LooksOn

theorem refl (l : Ledger) : l.LooksOn l := ⟨.refl l, id⟩

theorem trans {l m n : Ledger} (h : l.LooksOn m) (g : m.LooksOn n) : l.LooksOn n :=
  ⟨h.agrees.trans g.agrees, fun huncharged => g.uncharged (h.uncharged huncharged)⟩

end Ledger.LooksOn

theorem Surroundings.Answers.looksOn {w : Surroundings} {l l' : Ledger} {request : Request}
    {answer : request.Answer} (h : w.Answers request l answer l') (hlook : request.IsLook) :
    l.LooksOn l' := by
  refine ⟨h.look hlook, ?_⟩
  intro huncharged charge given hmem
  rw [h.past] at hmem
  rcases List.mem_cons.mp hmem with heq | hmem
  · cases heq
    exact hlook
  · exact huncharged charge given hmem

/-- A request that starts nothing: it looks something up, or records a first charge or what became of an
attempt. -/
def Request.StartsNothing : Request → Prop
  | .attempt (.insert a) => a.number = 1
  | .attempt (.update _) => True
  | request => request.IsLook

theorem Request.StartsNothing.of_isLook {request : Request} (h : request.IsLook) :
    request.StartsNothing := by
  cases request with
  | attempt request =>
      cases request with
      | get => trivial
      | _ => exact h.elim
  | _ => exact h

/-- What starts nothing is answered, as long as an identifier is left. -/
theorem Surroundings.exists_answers {states : StateStore} {l : Ledger}
    (hfresh : ∃ id, ∀ i ∈ l.work.items, i.id ≠ id) {request : Request} (h : request.StartsNothing) :
    ∃ answer l', (recorded states).Answers request l answer l' := by
  cases request with
  | work request =>
      obtain ⟨id, hunused⟩ := hfresh
      cases request with
      | pendingForOwner queue owner =>
          exact ⟨_, _, .inl ⟨.noon, id, l.work, ⟨hunused, rfl⟩, rfl⟩⟩
      | _ => exact h.elim
  | attempt request => exact ⟨_, _, .inl ⟨_, rfl, rfl⟩⟩
  | state request =>
      cases request with
      | get account => exact ⟨.ok (states.get? account), _, rfl, rfl⟩
      | save => exact h.elim
  | activeSet => exact ⟨none, _, trivial, rfl⟩
  | freshId => exact ⟨default, _, trivial, rfl⟩
  | _ => exact h.elim

namespace RetryController

/-! ## Restrictions -/

/-- Whether an account must not be charged: its owner is closed, or its record suspends automatic
payments. -/
def Restricted (states : StateStore) (account : AccountId) (context : HandlerContext) : Prop :=
  context.ownerCancelled = true ∨ (OverdueEngine.recordedFlags account states).disableAutoPay = true

section

variable {c : RetryController} {states : StateStore} {l : Ledger} {rule : Ledger → Request → Prop}
  {account : AccountId} {context : HandlerContext} {a : Attempt}

/-- The status of an account has the flags that are recorded. -/
theorem status_tells (hlooks : ∀ l' request, l.LooksOn l' → request.IsLook → rule l' request) :
    (OverdueEngine.status account).Obeys (Surroundings.recorded states).Answers rule
      (fun result l' => l.LooksOn l' ∧ ∃ status, result = .ok status ∧
        status.blocked = OverdueEngine.recordedFlags account states) l := by
  simp only [OverdueEngine.status, Program.getState, Program.activeSet,
    OverdueEngine.pendingLooks, Program.pendingForOwner, Task.bind_eq, Task.pure_eq,
    Task.bind_ask, Task.bind_done]
  refine ⟨hlooks l _ (.refl l) trivial, ?_⟩
  intro record l₁ h₁
  have hlooks₁ := h₁.looksOn trivial
  obtain rfl : record = .ok (states.get? account) := h₁.1
  refine ⟨hlooks l₁ _ hlooks₁ trivial, ?_⟩
  intro set l₂ h₂
  have hlooks₂ := hlooks₁.trans (h₂.looksOn trivial)
  refine ⟨hlooks l₂ _ hlooks₂ trivial, ?_⟩
  intro looks l₃ h₃
  have hlooks₃ := hlooks₂.trans (h₃.looksOn trivial)
  rcases h₃.pendingForOwner with rfl | ⟨e, hfails, -⟩
  · exact ⟨hlooks₃, _, rfl, (OverdueEngine.recordedFlags_of_get? rfl).symm⟩
  · exact hfails.elim

/-- A reason against the charge is found exactly when the account is restricted. -/
theorem restriction_tells (hlooks : ∀ l' request, l.LooksOn l' → request.IsLook → rule l' request) :
    (restriction account context).Obeys (Surroundings.recorded states).Answers rule
      (fun result l' => l.LooksOn l' ∧ ∃ reason, result = .ok reason ∧
        (reason.isSome = true ↔ Restricted states account context)) l := by
  unfold restriction Restricted
  by_cases hclosed : context.ownerCancelled = true
  · rw [if_pos hclosed]
    exact ⟨.refl l, _, rfl, fun _ => .inl hclosed, fun _ => rfl⟩
  · rw [if_neg hclosed, Task.obeys_bind]
    refine (status_tells hlooks).imp ?_
    rintro _ l' ⟨hlooks', status, rfl, hblocked⟩
    refine ⟨hlooks', _, rfl, ?_⟩
    rw [← hblocked]
    by_cases hflag : status.blocked.disableAutoPay = true
    · rw [if_pos hflag]
      exact ⟨fun _ => .inr hflag, fun _ => rfl⟩
    · rw [if_neg hflag]
      exact ⟨nofun, fun h => (h.elim hclosed hflag).elim⟩

/-- A delivery gives the attempt up or goes on, as the account is restricted or not. -/
theorem unlessRestricted_tells {post : Except DeliveryFault RetryDelivery → Ledger → Prop}
    {goOn : DeliveryProgram}
    (hlooks : ∀ l' request, l.LooksOn l' → request.IsLook → rule l' request)
    (hgiveUp : Restricted states account context → ∀ reason l', l.LooksOn l' →
      (giveUpAttempt a reason context.now).Obeys (Surroundings.recorded states).Answers rule post l')
    (hgoOn : ¬ Restricted states account context → ∀ l', l.LooksOn l' →
      goOn.Obeys (Surroundings.recorded states).Answers rule post l') :
    (unlessRestricted a account context goOn).Obeys (Surroundings.recorded states).Answers rule post
      l := by
  unfold unlessRestricted
  rw [Task.obeys_bind]
  refine (restriction_tells hlooks).imp ?_
  rintro _ l' ⟨hlooks', reason, rfl, hrestricted⟩
  cases reason with
  | none => exact hgoOn (fun h => Bool.false_ne_true (hrestricted.mpr h)) l' hlooks'
  | some reason => exact hgiveUp (hrestricted.mp rfl) reason l' hlooks'

/-- The outcome of an attempt is recorded by one write at most. -/
theorem finish_asks {w : Surroundings} {outcome : AttemptOutcome} {now : Instant}
    (hupdate : rule l (.attempt (.update (finished a outcome now)))) :
    (finish a outcome now).Obeys w.Answers rule (fun _ _ => True) l := by
  unfold finish
  split
  · trivial
  · refine ⟨hupdate, ?_⟩
    intro answer l' _
    cases answer <;> trivial

theorem giveUpAttempt_asks {w : Surroundings} {reason : String} {now : Instant}
    (hupdate : rule l (.attempt (.update (finished a .aborted now)))) :
    (giveUpAttempt a reason now).Obeys w.Answers rule (fun _ _ => True) l := by
  unfold giveUpAttempt abort
  rw [Task.obeys_bind, Task.obeys_bind]
  refine (finish_asks hupdate).imp ?_
  rintro (e | u) l' - <;> trivial

/-- Giving a stored attempt up is one write. -/
theorem giveUpAttempt_writes {reason : String} {now : Instant}
    (hstored : l.attempts.get? a.payment a.number = some a) (hopen : a.outcome ≠ .aborted)
    (hwrite : rule l (.attempt (.update (finished a .aborted now)))) :
    (giveUpAttempt a reason now).Obeys (Surroundings.recorded states).Answers rule (fun result l' =>
      RetryDelivery.outcome result = .ok .done ∧
        l'.attempts = l.attempts.replace (finished a .aborted now) ∧ l'.work = l.work) l := by
  unfold giveUpAttempt abort finish
  rw [if_neg hopen]
  refine ⟨hwrite, ?_⟩
  intro answer l' h
  have hwork := h.work_eq (by simp)
  rcases h.update with ⟨_, _, _, rfl, hreplace⟩ | ⟨hnone, _⟩ | ⟨e, hfails, _⟩
  · exact ⟨rfl, hreplace, hwork⟩
  · exact absurd ⟨a, hstored, rfl⟩ hnone
  · exact hfails.elim

/-! ## Charges -/

/-- The charges that the delivery of an item may ask for: one, of a stored attempt that is pending, for
an account that is not restricted, and as the attempt says. -/
def Guards (states : StateStore) (attempts : AttemptStore) (item : Item) (context : HandlerContext)
    (l : Ledger) : Request → Prop
  | .charge request => l.Uncharged ∧ ∃ payment account number amount a,
      RetryPayload.decode? item.payload.toNode =
        some (.scheduledRetry payment account number amount) ∧
      attempts.get? payment number = some a ∧ a.outcome = .pending ∧
      context.ownerCancelled = false ∧
      (OverdueEngine.recordedFlags a.account states).disableAutoPay = false ∧
      request = ⟨a.payment, a.account, a.number, a.effectiveAmount⟩
  | _ => True

variable {attempts : AttemptStore} {item : Item}

theorem Guards.of_not_charge {request : Request} (h : ∀ charge, request ≠ .charge charge) :
    Guards states attempts item context l request := by
  cases request with
  | charge charge => exact absurd rfl (h charge)
  | _ => trivial

theorem Guards.of_isLook {request : Request} (h : request.IsLook) :
    Guards states attempts item context l request := by
  refine .of_not_charge ?_
  rintro charge rfl
  exact h

theorem Guards.of_quiet {request : Request} (h : c.Quiet l request) :
    Guards states attempts item context l request := by
  refine .of_not_charge ?_
  rintro charge rfl
  exact h

/-- What charges nothing is guarded. -/
theorem guards_of_quiet {α : Type} {t : Program α} {post : α → Ledger → Prop}
    (h : t.Obeys (Surroundings.recorded states).Answers c.Quiet post l) :
    t.Obeys (Surroundings.recorded states).Answers (Guards states attempts item context)
      (fun _ _ => True) l :=
  (h.imp_rule fun _ _ => Guards.of_quiet).imp fun _ _ _ => trivial

/-- The follow-up of a recorded failure charges nothing. -/
theorem resume_guards (hstored : l.attempts.get? a.payment a.number = some a)
    (hopen : a.isTerminal = false) :
    (c.resume a).Obeys (Surroundings.recorded states).Answers (Guards states attempts item context)
      (fun _ _ => True) l :=
  guards_of_quiet (resume_ends (Surroundings.recorded_honest states) hstored hopen (.refl l))

/-- After its charge a delivery charges nothing more. -/
theorem charge_guards {payment : PaymentId} {number : UInt32} {now : Instant}
    (hstored : l.attempts.get? payment number = some a) (hpending : a.outcome = .pending)
    (hguards : Guards states attempts item context l (.charge (requestOf a payment number))) :
    (c.charge a payment number now).Obeys (Surroundings.recorded states).Answers
      (Guards states attempts item context) (fun _ _ => True) l := by
  obtain ⟨rfl, rfl⟩ := AttemptStore.key_of_get? hstored
  simp only [charge, Program.charge, Task.bind_eq, Task.pure_eq, Task.bind_ask, Task.bind_done]
  refine ⟨hguards, ?_⟩
  intro answer l₁ h
  have hstored₁ : l₁.attempts.get? a.payment a.number = some a := by
    rw [h.attempts_eq (by simp), hstored]
  rcases answer with e | _ | failure
  · trivial
  · simp only [collect, recordSuccess, Task.bind_eq]
    rw [Task.obeys_bind]
    have houtcome : AttemptOutcome.success ≠ .pending := AttemptOutcome.noConfusion
    have hquiet := finish_ends (c := c) (w := .recorded states) now hstored₁ rfl houtcome
      fun _ => rfl
    refine (hquiet.imp_rule fun _ _ => Guards.of_quiet).imp ?_
    rintro result l₂ -
    rcases result with e | u
    · trivial
    · exact ⟨trivial, fun answer l₃ _ => trivial⟩
  · rw [Task.obeys_bind]
    have hends := handleFailure_ends (c := c) (a := { a with failure := some failure }) now
      (Surroundings.recorded_honest states) hstored₁ rfl hpending
    exact (guards_of_quiet hends).imp fun _ _ _ => trivial

theorem scheduledAttempt_guards {payment : PaymentId} {number : UInt32} {amount : UInt64}
    (hpayload : RetryPayload.decode? item.payload.toNode =
      some (.scheduledRetry payment account number amount))
    (huncharged : l.Uncharged) :
    (c.scheduledAttempt payment number context).Obeys (Surroundings.recorded states).Answers
      (Guards states l.attempts item context) (fun _ _ => True) l := by
  simp only [scheduledAttempt, Program.getAttempt, Task.bind_eq, Task.pure_eq, Task.bind_ask,
    Task.bind_done]
  refine ⟨trivial, ?_⟩
  intro answer l₁ h
  have hlooks₁ := h.looksOn trivial
  rcases answer with e | _ | a
  · trivial
  · trivial
  · have hget : l.attempts.get? payment number = some a := h.get_ok
    have hstored (l' : Ledger) (hlooks : l.LooksOn l') :
        l'.attempts.get? a.payment a.number = some a := by
      rw [hlooks.agrees.attempts]
      exact AttemptStore.get?_self_of_get? hget
    cases houtcome : a.outcome with
    | pending =>
        simp only [houtcome]
        refine unlessRestricted_tells (fun _ _ _ => Guards.of_isLook)
          (fun _ _ _ _ => giveUpAttempt_asks trivial) ?_
        intro hfree l₂ hlooks₂
        have hlooks := hlooks₁.trans hlooks₂
        obtain ⟨hopen, hflag⟩ := not_or.mp hfree
        refine charge_guards (hlooks.agrees.attempts ▸ hget) houtcome ?_
        refine ⟨hlooks.uncharged huncharged, payment, account, number, amount, a, hpayload, hget,
          houtcome, Bool.eq_false_iff.mpr hopen, Bool.eq_false_iff.mpr hflag, ?_⟩
        obtain ⟨rfl, rfl⟩ := AttemptStore.key_of_get? hget
        rfl
    | failed =>
        simp only [houtcome]
        exact resume_guards (hstored l₁ hlooks₁) (Attempt.isTerminal_of_outcome houtcome)
    | aborted =>
        simp only [houtcome]
        trivial
    | success =>
        simp only [houtcome]
        trivial

theorem firstFailure_guards (payment : PaymentId) (account : AccountId) (amount : UInt64)
    (failure : PaymentFailure) (failedAt : Instant) :
    (c.firstFailure payment account amount failure failedAt context).Obeys
      (Surroundings.recorded states).Answers (Guards states attempts item context)
      (fun _ _ => True) l := by
  simp only [firstFailure, Program.freshId, Task.bind_eq, Task.pure_eq, Task.bind_ask,
    Task.bind_done]
  refine ⟨trivial, ?_⟩
  intro id l₁ _
  rw [Task.obeys_bind, recordFirst_eq]
  have hrecords := insertOrFind_ends (c := c) (l := l₁)
    (b := .firstFailure id payment account amount failure failedAt) (fun e => passing e.message)
    (passing ("attempt 1 of payment " ++ payment.render ++ " vanished"))
    (Surroundings.recorded_honest states) rfl rfl
  refine (hrecords.imp_rule fun _ _ => Guards.of_quiet).imp ?_
  rintro _ l₂ (⟨stored, rfl, -, hstored⟩ | ⟨e, rfl, -⟩)
  · have hget : l₂.attempts.get? stored.payment stored.number = some stored :=
      AttemptStore.get?_self_of_get? hstored
    cases hterminal : stored.isTerminal with
    | true =>
        simp only [hterminal, if_true]
        trivial
    | false =>
        simp only [hterminal, Bool.false_eq_true, if_false]
        refine unlessRestricted_tells (fun _ _ _ => Guards.of_isLook)
          (fun _ _ _ _ => giveUpAttempt_asks trivial) ?_
        intro _ l₃ hlooks
        exact resume_guards (hlooks.agrees.attempts ▸ hget) hterminal
  · trivial

/-- **Every delivery of every item asks for no charge but the one that is guarded.** -/
theorem handleRetry_guards (c : RetryController) (states : StateStore) (item : Item)
    (context : HandlerContext) (huncharged : l.Uncharged) :
    (c.handleRetry item context).Obeys (Surroundings.recorded states).Answers
      (Guards states l.attempts item context) (fun _ _ => True) l := by
  suffices hdeliver : (c.deliver item context).Obeys (Surroundings.recorded states).Answers
      (Guards states l.attempts item context) (fun _ _ => True) l from
    Task.obeys_bind.mpr (hdeliver.imp fun _ _ _ => trivial)
  unfold deliver
  cases hpayload : RetryPayload.decode? item.payload.toNode with
  | none => trivial
  | some payload =>
      cases payload with
      | initialFailure payment account amount failure failedAt =>
          exact firstFailure_guards payment account amount failure failedAt
      | scheduledRetry payment account number amount =>
          exact scheduledAttempt_guards hpayload huncharged

end

/-! ## Deliveries for a restricted account -/

/-- Whether a request starts nothing, while no item was created or changed. -/
def Withdraws (work : WorkStore) (l : Ledger) (request : Request) : Prop :=
  l.work = work ∧ request.StartsNothing

end RetryController

/-- Whether all that has come of a delivery is that an attempt was given up. -/
structure Ledger.GaveUp (attempts : AttemptStore) (work : WorkStore) (a : Attempt) (now : Instant)
    (l : Ledger) : Prop where
  aborted : l.attempts.get? a.payment a.number = some { a with outcome := .aborted, updatedAt := now }
  /-- No other attempt is new or changed. -/
  others : ∀ payment number, ¬(payment = a.payment ∧ number = a.number) →
    l.attempts.get? payment number = attempts.get? payment number
  work : l.work = work

namespace RetryController

section

variable {c : RetryController} {states : StateStore} {l : Ledger} {account : AccountId}
  {context : HandlerContext} {item : Item} {a : Attempt}

/-- The attempt of a restricted account is given up. -/
theorem unlessRestricted_gives_up (goOn : DeliveryProgram)
    (hrestricted : Restricted states account context)
    (hstored : l.attempts.get? a.payment a.number = some a) (hopen : a.outcome ≠ .aborted) :
    (unlessRestricted a account context goOn).Obeys (Surroundings.recorded states).Answers
      (Withdraws l.work) (fun result l' => RetryDelivery.outcome result = .ok .done ∧
        l'.attempts = l.attempts.replace (finished a .aborted context.now) ∧ l'.work = l.work) l := by
  refine unlessRestricted_tells ?_ ?_ fun hfree => absurd hrestricted hfree
  · intro l' request hlooks hlook
    exact ⟨hlooks.agrees.work, .of_isLook hlook⟩
  · intro _ reason l' hlooks
    have hstored' : l'.attempts.get? a.payment a.number = some a := hlooks.agrees.attempts ▸ hstored
    refine (giveUpAttempt_writes hstored' hopen ⟨hlooks.agrees.work, trivial⟩).imp ?_
    rintro result l₂ ⟨hdone, hattempts, hwork⟩
    exact ⟨hdone, hlooks.agrees.attempts ▸ hattempts, hwork.trans hlooks.agrees.work⟩

theorem gaveUp_replace {attempts : AttemptStore} {now : Instant}
    (hstored : attempts.get? a.payment a.number = some a) {l' : Ledger}
    (hattempts : l'.attempts = attempts.replace (finished a .aborted now)) :
    l'.GaveUp attempts l'.work a now where
  aborted := by
    rw [hattempts]
    exact AttemptStore.get?_replace_self (a := finished a .aborted now) hstored
  others payment number hother := by
    rw [hattempts, AttemptStore.get?_replace_of_ne (a := finished a .aborted now) _ hother]
  work := rfl

/-- **The delivery of a pending attempt of a restricted account** gives the attempt up. -/
theorem deliver_restricted_attempt {payment : PaymentId} {number : UInt32} {amount : UInt64}
    (hpayload : RetryPayload.decode? item.payload.toNode =
      some (.scheduledRetry payment account number amount))
    (hget : l.attempts.get? payment number = some a) (hpending : a.outcome = .pending)
    (hrestricted : Restricted states a.account context) :
    (c.deliver item context).Obeys (Surroundings.recorded states).Answers (Withdraws l.work)
      (fun result l' => RetryDelivery.outcome result = .ok .done ∧
        l'.GaveUp l.attempts l.work a context.now) l := by
  have hopen : a.outcome ≠ .aborted := by rw [hpending]; exact AttemptOutcome.noConfusion
  have hstored : l.attempts.get? a.payment a.number = some a := AttemptStore.get?_self_of_get? hget
  unfold deliver
  simp only [hpayload, scheduledAttempt, Program.getAttempt, Task.bind_eq, Task.pure_eq,
    Task.bind_ask, Task.bind_done]
  refine ⟨⟨rfl, trivial⟩, ?_⟩
  intro answer l₁ h
  have hagrees := h.look trivial
  rcases h.get with rfl | ⟨e, hfails, -⟩
  · simp only [hget, hpending]
    have hstored₁ : l₁.attempts.get? a.payment a.number = some a := hagrees.attempts ▸ hstored
    have hgives := unlessRestricted_gives_up (c.charge a payment number context.now) hrestricted
      hstored₁ hopen
    rw [hagrees.work, hagrees.attempts] at hgives
    refine hgives.imp ?_
    rintro result l' ⟨hdone, hattempts, hwork⟩
    exact ⟨hdone, hwork ▸ gaveUp_replace hstored hattempts⟩
  · exact hfails.elim

/-- **The report of a first failure for a restricted account** records the attempt and gives it up. -/
theorem deliver_restricted_failure {payment : PaymentId} {amount : UInt64}
    {failure : PaymentFailure} {failedAt : Instant}
    (hpayload : RetryPayload.decode? item.payload.toNode =
      some (.initialFailure payment account amount failure failedAt))
    (hnew : l.attempts.get? payment 1 = none) (hrestricted : Restricted states account context) :
    (c.deliver item context).Obeys (Surroundings.recorded states).Answers (Withdraws l.work)
      (fun result l' => RetryDelivery.outcome result = .ok .done ∧ ∃ id, l'.GaveUp l.attempts l.work
        (.firstFailure id payment account amount failure failedAt) context.now) l := by
  unfold deliver
  simp only [hpayload, firstFailure, recordFirst, Program.freshId, Program.insertAttempt,
    Task.bind_eq, Task.pure_eq, Task.bind_ask, Task.bind_done]
  refine ⟨⟨rfl, trivial⟩, ?_⟩
  intro id l₁ h₁
  have hagrees₁ := h₁.look trivial
  refine ⟨⟨hagrees₁.work, rfl⟩, ?_⟩
  intro answer l₂ h₂
  have hwork₂ : l₂.work = l.work := (h₂.work_eq (by simp)).trans hagrees₁.work
  have hnew₁ : l₁.attempts.get? payment 1 = none := hagrees₁.attempts ▸ hnew
  rcases h₂.insert with ⟨hnone, rfl, hadd⟩ | ⟨stored, e, hstored, -⟩ | ⟨e, hfails, -⟩
  · let first : Attempt := .firstFailure id payment account amount failure failedAt
    have hstored : l₂.attempts.get? first.payment first.number = some first := by
      rw [hadd]
      exact AttemptStore.get?_add_self hnone
    have hopen : first.outcome ≠ .aborted := AttemptOutcome.noConfusion
    have hgives := unlessRestricted_gives_up (c.resume first) hrestricted hstored hopen
    rw [hwork₂] at hgives
    refine hgives.imp ?_
    rintro result l' ⟨hdone, hattempts, hwork⟩
    have gaveUp := gaveUp_replace hstored hattempts
    refine ⟨hdone, id, gaveUp.aborted, ?_, hwork⟩
    intro payment' number' hother
    rw [gaveUp.others payment' number' hother, hadd, hagrees₁.attempts]
    exact AttemptStore.get?_add_of_ne _ hother
  · rw [show l₁.attempts.get? payment 1 = some stored from hstored] at hnew₁
    cases hnew₁
  · exact hfails.elim

/-- **Another report of a first failure for a restricted account** gives the recorded attempt up. -/
theorem deliver_restricted_repetition {payment : PaymentId} {amount : UInt64}
    {failure : PaymentFailure} {failedAt : Instant}
    (hpayload : RetryPayload.decode? item.payload.toNode =
      some (.initialFailure payment account amount failure failedAt))
    (hget : l.attempts.get? payment 1 = some a) (hterminal : a.isTerminal = false)
    (hrestricted : Restricted states account context) :
    (c.deliver item context).Obeys (Surroundings.recorded states).Answers (Withdraws l.work)
      (fun result l' => RetryDelivery.outcome result = .ok .done ∧
        l'.GaveUp l.attempts l.work a context.now) l := by
  have hopen : a.outcome ≠ .aborted := fun h => by simp [Attempt.isTerminal, h] at hterminal
  have hstored : l.attempts.get? a.payment a.number = some a := AttemptStore.get?_self_of_get? hget
  unfold deliver
  simp only [hpayload, firstFailure, recordFirst, Program.freshId, Program.insertAttempt,
    Program.getAttempt, Task.bind_eq, Task.pure_eq, Task.bind_ask, Task.bind_done]
  refine ⟨⟨rfl, trivial⟩, ?_⟩
  intro id l₁ h₁
  have hagrees₁ := h₁.look trivial
  have hget₁ : l₁.attempts.get? payment 1 = some a := hagrees₁.attempts ▸ hget
  refine ⟨⟨hagrees₁.work, rfl⟩, ?_⟩
  intro answer l₂ h₂
  have hwork₂ : l₂.work = l.work := (h₂.work_eq (by simp)).trans hagrees₁.work
  rcases h₂.insert with ⟨hnone, -⟩ | ⟨_, e, -, hconflict, rfl, hsame⟩ | ⟨e, hfails, -⟩
  · rw [show l₁.attempts.get? payment 1 = none from hnone] at hget₁
    cases hget₁
  · simp only [hconflict, if_true]
    refine ⟨⟨hwork₂, trivial⟩, ?_⟩
    intro answer l₃ h₃
    have hagrees₃ := h₃.look trivial
    have hattempts₃ : l₃.attempts = l.attempts :=
      hagrees₃.attempts.trans (hsame.trans hagrees₁.attempts)
    rcases h₃.get with rfl | ⟨e, hfails, -⟩
    · have hfound : l₂.attempts.get? (Attempt.firstFailure id payment account amount failure
          failedAt).payment 1 = some a := hsame ▸ hget₁
      simp only [hfound, Task.bind_done, hterminal, Bool.false_eq_true, if_false]
      have hgives := unlessRestricted_gives_up (c.resume a) hrestricted (hattempts₃ ▸ hstored) hopen
      rw [hagrees₃.work.trans hwork₂, hattempts₃] at hgives
      refine hgives.imp ?_
      rintro result l' ⟨hdone, hattempts, hwork⟩
      exact ⟨hdone, hwork ▸ gaveUp_replace hstored hattempts⟩
    · exact hfails.elim
  · exact hfails.elim

end

/-! ## Both sides -/

/-- Whether a delivery comes to an end, and every end of it is the end of its item and leaves a ledger
such as `target` says. -/
def DeliversTo (c : RetryController) (states : StateStore) (item : Item) (context : HandlerContext)
    (l : Ledger) (target : Ledger → Prop) : Prop :=
  (∃ l', (c.handleRetry item context).Runs (Surroundings.recorded states).Answers l
      (.ok .done) l') ∧
    ∀ result l', (c.handleRetry item context).Runs (Surroundings.recorded states).Answers l
      result l' → result = .ok .done ∧ target l'

theorem deliversTo_of_obeys {c : RetryController} {states : StateStore} {item : Item}
    {context : HandlerContext} {l : Ledger} {target : Ledger → Prop}
    (hfresh : ∃ id, ∀ i ∈ l.work.items, i.id ≠ id)
    (h : (c.deliver item context).Obeys (Surroundings.recorded states).Answers (Withdraws l.work)
      (fun result l' => RetryDelivery.outcome result = .ok .done ∧ target l') l) :
    c.DeliversTo states item context l target := by
  have hhandle : (c.handleRetry item context).Obeys (Surroundings.recorded states).Answers
      (Withdraws l.work) (fun result l' => result = .ok .done ∧ target l') l :=
    Task.obeys_bind.mpr h
  refine ⟨?_, fun result l' run => hhandle.of_runs run⟩
  have hanswered : ∀ l' request, Withdraws l.work l' request →
      ∃ answer l'', (Surroundings.recorded states).Answers request l' answer l'' := by
    rintro l' request ⟨hwork, hstarts⟩
    exact Surroundings.exists_answers (hwork ▸ hfresh) hstarts
  obtain ⟨result, l', run⟩ := hhandle.exists_runs hanswered
  obtain ⟨rfl, -⟩ := hhandle.of_runs run
  exact ⟨l', run⟩

/-- **A charge is asked for at most once, when nothing speaks against it, and as the stored attempt
says**; and the delivery for a restricted account gives its attempt up, and nothing else comes of it.
The identifiers of items must not be used up, as every call to their store takes one. -/
theorem charges_are_guarded (c : RetryController) (states : StateStore) (attempts : AttemptStore)
    (work : WorkStore) (item : Item) (context : HandlerContext)
    (hfresh : ∃ id, ∀ i ∈ work.items, i.id ≠ id) :
    (c.handleRetry item context).Obeys (Surroundings.recorded states).Answers
        (Guards states attempts item context) (fun _ _ => True) ⟨attempts, work, []⟩ ∧
      (∀ payment account number amount a,
        RetryPayload.decode? item.payload.toNode =
          some (.scheduledRetry payment account number amount) →
        attempts.get? payment number = some a → a.outcome = .pending →
        Restricted states a.account context →
        c.DeliversTo states item context ⟨attempts, work, []⟩
          (Ledger.GaveUp attempts work a context.now)) ∧
      ∀ payment account amount failure failedAt,
        RetryPayload.decode? item.payload.toNode =
          some (.initialFailure payment account amount failure failedAt) →
        Restricted states account context →
        (attempts.get? payment 1 = none →
          c.DeliversTo states item context ⟨attempts, work, []⟩ (fun l' => ∃ id, l'.GaveUp attempts
            work (.firstFailure id payment account amount failure failedAt) context.now)) ∧
        ∀ a, attempts.get? payment 1 = some a → a.isTerminal = false →
          c.DeliversTo states item context ⟨attempts, work, []⟩
            (Ledger.GaveUp attempts work a context.now) := by
  refine ⟨?_, ?_, ?_⟩
  · exact handleRetry_guards (l := ⟨attempts, work, []⟩) c states item context
      fun _ _ => List.not_mem_nil
  · intro payment account number amount a hpayload hget hpending hrestricted
    exact deliversTo_of_obeys hfresh
      (deliver_restricted_attempt hpayload hget hpending hrestricted)
  · intro payment account amount failure failedAt hpayload hrestricted
    refine ⟨?_, ?_⟩
    · intro hnew
      exact deliversTo_of_obeys hfresh (deliver_restricted_failure hpayload hnew hrestricted)
    · intro a hget hterminal
      exact deliversTo_of_obeys hfresh
        (deliver_restricted_repetition hpayload hget hterminal hrestricted)

/-- The states of the overdue accounts: automatic payments of the one account are suspended. -/
def suspendedStates : StateStore :=
  ⟨[{ OverdueState.clear noonAccount with blocked := { disableAutoPay := true } }]⟩

/-- The attempt that is due at noon is given up, and so is the first attempt of a payment whose failure
is reported, although the owner is not closed. -/
theorem charges_are_guarded_suspended :
    noonController.DeliversTo suspendedStates noonRetry { now := Instant.noon } noonPending
        (Ledger.GaveUp noonPending.attempts {} noonAttempt Instant.noon) ∧
      noonController.DeliversTo suspendedStates noonFailure { now := Instant.noon } {}
        (fun l' => ∃ id, l'.GaveUp {} {} (.firstFailure id noonPayment noonAccount 500 .declined
          Instant.noon) Instant.noon) := by
  have hretry : RetryPayload.decode? noonRetry.payload.toNode =
      some (.scheduledRetry noonPayment noonAccount 2 500) := by
    rw [noonRetry, noonItem, Item.payload_ofNew]
    exact RetryPayload.decode?_scheduledRetry ..
  have hfailure : RetryPayload.decode? noonFailure.payload.toNode =
      some (.initialFailure noonPayment noonAccount 500 .declined Instant.noon) := by
    rw [noonFailure, noonItem, Item.payload_ofNew]
    exact RetryPayload.decode?_initialFailure ..
  have hrestricted : Restricted suspendedStates noonAccount { now := Instant.noon } :=
    .inr (by decide)
  have hfresh : ∃ id, ∀ i ∈ ({} : WorkStore).items, i.id ≠ id :=
    ⟨default, List.forall_mem_nil _⟩
  have hstored : noonPending.attempts.get? noonPayment 2 = some noonAttempt := rfl
  have hscheduled := (charges_are_guarded noonController suspendedStates noonPending.attempts {}
    noonRetry { now := Instant.noon } hfresh).2.1
  have hreported := (charges_are_guarded noonController suspendedStates {} {} noonFailure
    { now := Instant.noon } hfresh).2.2
  exact ⟨hscheduled _ _ _ _ noonAttempt hretry hstored rfl hrestricted,
    (hreported _ _ _ _ _ hfailure hrestricted).1 rfl⟩

end RetryController

end Dunning
