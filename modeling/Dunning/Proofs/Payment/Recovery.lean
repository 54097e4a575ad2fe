import Dunning.Proofs.Payment.FollowUp

/-!
# Interrupted follow-ups recover

A follow-up may break off at any call to a store, and its item is then delivered again. Whatever the
interruptions, once a delivery is done the stores hold what they would hold had nothing failed: the
same attempts, with the same times, and the same items. The gateway is not asked again.

The first delivery of a scheduled attempt reads the clock; when it has recorded the outcome, the time
is in the record, and no later delivery reads the clock again.

## Main definitions

* `Surroundings.declining` — an account that nobody restricted and whose charges fail.
* `RetryController.Redelivered` — deliveries of one item, one after another.
* `RetryController.Recovers` — whatever is delivered next, it ends as if nothing had failed.

## Main results

* `RetryController.interrupted_deliveries_recover` — the deliveries of a scheduled attempt whose
  charge failed, and those of a failed first charge.
-/

namespace Dunning

/-! ## Surroundings -/

/-- An account that nobody restricted and whose charges fail in one way. -/
def Surroundings.declining (failure : PaymentFailure) (fails : Request → StoreError → Prop) :
    Surroundings where
  fails
  gives
    | .charge _, answer => answer = .ok (.failed failure)
    | .state (.get account), answer =>
      (∃ record, answer = .ok record ∧ ∀ state ∈ record, state.blocked.disableAutoPay = false) ∨
        ∃ e, fails (.state (.get account)) e ∧ answer = .error e
    | _, _ => True

/-- Surroundings of such an account without failures. -/
def Surroundings.steady (failure : PaymentFailure) : Surroundings :=
  .declining failure fun _ _ => False

/-- Surroundings of such an account in which the stores may be out of reach. -/
def Surroundings.shaky (failure : PaymentFailure) : Surroundings :=
  .declining failure fun _ e => e.fault = .unavailable

namespace Surroundings

theorem steady_honest (failure : PaymentFailure) : (steady failure).Honest :=
  fun _ _ h => h.elim

theorem steady_reliable (failure : PaymentFailure) : (steady failure).Reliable :=
  fun _ _ h => h

/-- A store that is out of reach has lost no race. -/
theorem shaky_honest (failure : PaymentFailure) : (shaky failure).Honest := by
  intro request e h
  have hfault : e.fault = .unavailable := h
  rw [StoreError.isConflict, hfault]
  rfl

end Surroundings

namespace RetryController

variable {failure : PaymentFailure} {fails : Request → StoreError → Prop} {c : RetryController}
  {l l' : Ledger}

/-- The status of an unrestricted account is found, or a call fails. -/
theorem status_ends (account : AccountId) :
    (OverdueEngine.status account).Obeys (Surroundings.declining failure fails).Answers c.Quiet
      (fun result l' =>
        (∃ status, result = .ok status ∧ status.blocked.disableAutoPay = false ∧ l.Agrees l') ∨
        ∃ e, result = .error e ∧ Fails (.declining failure fails) l l') l := by
  simp only [OverdueEngine.status, Program.getState, Program.activeSet,
    OverdueEngine.pendingLooks, Program.pendingForOwner, Task.bind_eq, Task.pure_eq,
    Task.bind_ask, Task.bind_done]
  refine ⟨trivial, ?_⟩
  intro answer l₁ h₁
  have hagrees₁ := h₁.look trivial
  rcases h₁.1 with ⟨record, rfl, hrecord⟩ | ⟨e, hfails, rfl⟩
  · refine ⟨trivial, ?_⟩
    intro set l₂ h₂
    have hagrees₂ := hagrees₁.trans (h₂.look trivial)
    refine ⟨trivial, ?_⟩
    intro looks l₃ h₃
    have hagrees₃ := hagrees₂.trans (h₃.look trivial)
    rcases h₃.pendingForOwner with rfl | ⟨e, hfails, rfl⟩
    · refine .inl ⟨_, rfl, ?_, hagrees₃⟩
      rcases record with _ | state
      · rfl
      · exact hrecord state rfl
    · exact .inr ⟨_, rfl, .of_fails hagrees₃ hfails⟩
  · exact .inr ⟨_, rfl, hagrees₁, fun hreliable => hreliable _ e hfails⟩

/-- An unrestricted account is not held up: the delivery goes on, or a call fails. -/
theorem unlessRestricted_ends {a : Attempt} {account : AccountId} {context : HandlerContext}
    {goOn : DeliveryProgram} {rule : Ledger → Request → Prop}
    {post : Except DeliveryFault RetryDelivery → Ledger → Prop}
    (hcontext : context.ownerCancelled = false) (hrule : ∀ l request, c.Quiet l request → rule l request)
    (hfails : ∀ fault l', Fails (.declining failure fails) l l' → post (.error fault) l')
    (hgoOn : ∀ l', l.Agrees l' → (∀ p n, l'.charges p n = l.charges p n) →
      goOn.Obeys (Surroundings.declining failure fails).Answers rule post l') :
    (unlessRestricted a account context goOn).Obeys
      (Surroundings.declining failure fails).Answers rule post l := by
  unfold unlessRestricted restriction
  simp only [hcontext, Bool.false_eq_true, if_false]
  rw [Task.obeys_bind, Task.obeys_bind]
  refine ((quiet_keeps (status_ends account)).imp_rule hrule).imp ?_
  intro result l₁ hpost
  rcases hpost with ⟨⟨status, rfl, hblocked, hagrees⟩ | ⟨e, rfl, hfailed⟩, hcharges, -⟩
  · simp only [hblocked, Bool.false_eq_true, if_false]
    exact hgoOn l₁ hagrees hcharges
  · exact hfails _ l₁ hfailed

/-! ## Deliveries of an attempt that is not pending -/

/-- What follows an attempt up is done when the delivery is. -/
theorem resume_ends {w : Surroundings} {r : Attempt} {payment : PaymentId} {number : UInt32}
    (honest : w.Honest) (hstored : l.attempts.get? payment number = some r)
    (hopen : r.isTerminal = false) (hagrees : l.Agrees l') :
    (c.resume r).Obeys w.Answers c.Quiet (fun result l'' =>
      l''.Ends w (.conclude c payment number) (l.outline.conclude c payment number)
        (result.isOk = true)) l' := by
  obtain ⟨hpayment, hnumber⟩ := AttemptStore.key_of_get? hstored
  have hstored' : l'.attempts.get? r.payment r.number = some r := by
    rw [hagrees.attempts, hpayment, hnumber, hstored]
  have hends := followUp_ends (c := c) honest hstored' hopen
  rw [hpayment, hnumber, Ledger.outline_eq_of_agrees hagrees] at hends
  simp only [resume, resumeFailed, Task.pure_eq]
  rw [Task.obeys_bind]
  refine hends.imp ?_
  intro result l'' hends
  rcases result with e | directive
  · exact hends
  · exact hends

/-- A settled attempt leaves nothing to do. -/
theorem ends_of_terminal {w : Surroundings} {r : Attempt} {payment : PaymentId} {number : UInt32}
    {done : Prop} (hdone : done) (hstored : l.attempts.get? payment number = some r)
    (hterminal : r.isTerminal = true) (hagrees : l.Agrees l') :
    l'.Ends w (.conclude c payment number) (l.outline.conclude c payment number) done := by
  have hget := Ledger.get?_outline_of_some hstored
  have hterminal' : r.unnamed.isTerminal = true := hterminal
  have hsame : l.outline.conclude c payment number = l.outline := by
    simp only [Outline.conclude, hget, hterminal', if_true]
  have houtline := Ledger.outline_eq_of_agrees hagrees
  refine ⟨by rw [houtline], fun _ => ?_, fun _ => hdone⟩
  rw [houtline, hsame]

theorem scheduledAttempt_ends {w : Surroundings} {r : Attempt} {payment : PaymentId}
    {number : UInt32} (context : HandlerContext) (honest : w.Honest)
    (hstored : l.attempts.get? payment number = some r) (hsettled : r.outcome ≠ .pending) :
    (c.scheduledAttempt payment number context).Obeys w.Answers c.Quiet (fun result l' =>
      l'.Ends w (.conclude c payment number) (l.outline.conclude c payment number)
        (result.isOk = true)) l := by
  simp only [scheduledAttempt, Program.getAttempt, Task.bind_eq, Task.pure_eq, Task.bind_ask,
    Task.bind_done]
  refine ⟨trivial, ?_⟩
  intro answer l₁ h
  have hagrees := h.look trivial
  rcases h.get with rfl | ⟨e, hfails, rfl⟩
  · rw [hstored]
    cases houtcome : r.outcome with
    | pending => exact absurd houtcome hsettled
    | failed =>
        simp only [houtcome]
        exact resume_ends honest hstored (Attempt.isTerminal_of_outcome houtcome) hagrees
    | aborted =>
        simp only [houtcome]
        exact ends_of_terminal rfl hstored (Attempt.isTerminal_of_outcome houtcome) hagrees
    | success =>
        simp only [houtcome]
        exact ends_of_terminal rfl hstored (Attempt.isTerminal_of_outcome houtcome) hagrees
  · exact (Fails.of_fails hagrees hfails).ends Bool.false_ne_true

/-! ## The delivery of a pending attempt -/

/-- Requests of a program that gives up only when the policy makes no decision. -/
def Persistent (c : RetryController) : Ledger → Request → Prop
  | _, .giveUp => ∃ failed, c.policy.decide failed = none
  | _, _ => True

theorem Quiet.persistent {request : Request} (quiet : c.Quiet l request) :
    c.Persistent l request := by
  cases request with
  | giveUp => exact quiet
  | _ => trivial

/-- How the delivery of a pending attempt ends: before the outcome of its charge is recorded, or after
it. -/
def ChargeEnds (w : Surroundings) (c : RetryController) (a : Attempt) (failure : PaymentFailure)
    (now : Instant) (start : Ledger) (done : Prop) (l : Ledger) : Prop :=
  (l.attempts.get? a.payment a.number = some a ∧ ¬done ∧ ¬w.Reliable) ∨
    l.Ends w (.conclude c a.payment a.number)
        (start.outline.failing c (Attempt.unnamed { a with failure := some failure }) now) done ∧
      (∀ payment number, l.charges payment number = start.charges payment number +
        if a.payment = payment ∧ a.number = number then 1 else 0) ∧
      ∃ b, l.attempts.get? a.payment a.number = some b ∧ b.outcome ≠ .pending

theorem charge_ends {a : Attempt} (now : Instant)
    (honest : (Surroundings.declining failure fails).Honest)
    (hstored : l.attempts.get? a.payment a.number = some a) (hpending : a.outcome = .pending) :
    (c.charge a a.payment a.number now).Obeys (Surroundings.declining failure fails).Answers
      c.Persistent (fun result l' =>
        ChargeEnds (.declining failure fails) c a failure now l (result.isOk = true) l') l := by
  simp only [charge, Program.charge, Task.bind_eq, Task.pure_eq, Task.bind_ask, Task.bind_done]
  refine ⟨trivial, ?_⟩
  intro answer l₁ h
  have hagrees : l.Agrees l₁ := ⟨h.attempts_eq (by simp), h.work_eq (by simp)⟩
  have hstored₁ : l₁.attempts.get? a.payment a.number = some a := by rw [hagrees.attempts, hstored]
  obtain rfl : answer = .ok (.failed failure) := h.1
  have hcharges (payment : PaymentId) (number : UInt32) : l₁.charges payment number =
      l.charges payment number + if a.payment = payment ∧ a.number = number then 1 else 0 :=
    h.charges_of_charge payment number
  have hends := handleFailure_ends (c := c) (a := { a with failure := some failure }) now honest
    hstored₁ rfl hpending
  rw [Ledger.outline_eq_of_agrees hagrees] at hends
  show ((c.handleFailure { a with failure := some failure } now).bind _).Obeys _ _ _ l₁
  rw [Task.obeys_bind]
  refine ((quiet_keeps hends).imp_rule fun _ _ quiet => quiet.persistent).imp ?_
  intro result l₂ hpost
  rcases hpost with ⟨⟨hends, hrow⟩ | ⟨e, rfl, hfails⟩, hkeeps, -⟩
  · have hcharges₂ (payment : PaymentId) (number : UInt32) :=
      (hkeeps payment number).trans (hcharges payment number)
    rcases result with e | directive
    · exact .inr ⟨hends, hcharges₂, hrow⟩
    · exact .inr ⟨hends, hcharges₂, hrow⟩
  · exact .inl ⟨by rw [hfails.1.attempts, hstored₁], Bool.false_ne_true, hfails.2⟩

theorem pendingAttempt_ends {a : Attempt} {context : HandlerContext}
    (honest : (Surroundings.declining failure fails).Honest)
    (hcontext : context.ownerCancelled = false)
    (hstored : l.attempts.get? a.payment a.number = some a) (hpending : a.outcome = .pending) :
    (c.scheduledAttempt a.payment a.number context).Obeys
      (Surroundings.declining failure fails).Answers c.Persistent (fun result l' =>
        ChargeEnds (.declining failure fails) c a failure context.now l (result.isOk = true) l')
      l := by
  have hbefore (fault : DeliveryFault) (l' : Ledger) (hfails : Fails (.declining failure fails) l l') :
      ChargeEnds (.declining failure fails) c a failure context.now l
        ((Except.error fault : Except DeliveryFault RetryDelivery).isOk = true) l' :=
    .inl ⟨by rw [hfails.1.attempts, hstored], Bool.false_ne_true, hfails.2⟩
  simp only [scheduledAttempt, Program.getAttempt, Task.bind_eq, Task.pure_eq, Task.bind_ask,
    Task.bind_done]
  refine ⟨trivial, ?_⟩
  intro answer l₁ h
  have hagrees₁ := h.look trivial
  have hcharges₁ := h.charges_eq (by simp)
  rcases h.get with rfl | ⟨e, hfails, rfl⟩
  · simp only [hstored, hpending]
    refine unlessRestricted_ends (c := c) hcontext (fun _ _ quiet => quiet.persistent) ?_ ?_
    · intro fault l₂ hfails
      exact hbefore fault l₂ ⟨hagrees₁.trans hfails.1, hfails.2⟩
    · intro l₂ hagrees₂ hcharges₂
      have hagrees := hagrees₁.trans hagrees₂
      have hends := charge_ends (c := c) context.now honest
        (by rw [hagrees.attempts, hstored]) hpending
      refine hends.imp ?_
      intro result l₃ hpost
      rcases hpost with hleft | ⟨hends, hcharges, hrow⟩
      · exact .inl hleft
      · rw [Ledger.outline_eq_of_agrees hagrees] at hends
        refine .inr ⟨hends, ?_, hrow⟩
        intro payment number
        rw [hcharges, hcharges₂, hcharges₁]
  · exact hbefore _ l₁ (.of_fails hagrees₁ hfails)

/-! ## The delivery of a failed first charge -/

/-- What is recorded of a failed charge is followed up, unless it is settled. -/
theorem recorded_ends {r : Attempt} {payment : PaymentId} {number : UInt32} (account : AccountId)
    {context : HandlerContext} (honest : (Surroundings.declining failure fails).Honest)
    (hcontext : context.ownerCancelled = false)
    (hstored : l.attempts.get? payment number = some r) :
    Task.Obeys (Surroundings.declining failure fails).Answers c.Quiet
      (fun result l' => l'.Ends (.declining failure fails) (.conclude c payment number)
        (l.outline.conclude c payment number) (result.isOk = true))
      (if r.isTerminal then .done (.ok .settledBefore)
        else unlessRestricted r account context (c.resume r) : DeliveryProgram) l := by
  cases hterminal : r.isTerminal with
  | true => exact ends_of_terminal rfl hstored hterminal (.refl l)
  | false =>
      refine unlessRestricted_ends (c := c) hcontext (fun _ _ quiet => quiet) ?_ ?_
      · intro fault l' hfails
        exact hfails.ends Bool.false_ne_true
      · intro l' hagrees _
        exact resume_ends honest hstored hterminal hagrees

theorem firstFailure_ends {payment : PaymentId} {account : AccountId} {amount : UInt64}
    {cause : PaymentFailure} {failedAt : Instant} {context : HandlerContext}
    (honest : (Surroundings.declining failure fails).Honest)
    (hcontext : context.ownerCancelled = false) :
    (c.firstFailure payment account amount cause failedAt context).Obeys
      (Surroundings.declining failure fails).Answers c.Quiet (fun result l' =>
        l'.Ends (.declining failure fails)
          (.reported c (.firstFailure default payment account amount cause failedAt))
          (l.outline.reported c (.firstFailure default payment account amount cause failedAt))
          (result.isOk = true)) l := by
  simp only [firstFailure, Program.freshId, Task.bind_eq, Task.pure_eq, Task.bind_ask,
    Task.bind_done]
  refine ⟨trivial, ?_⟩
  intro id l₁ h
  have houtline₁ := Ledger.outline_eq_of_agrees (h.look trivial)
  rw [Task.obeys_bind, recordFirst_eq, ← houtline₁]
  refine (insertOrFind_ends (c := c) (b := .firstFailure id payment account amount cause failedAt)
    _ _ honest rfl rfl).imp ?_
  intro result l₂ hpost
  rcases hpost with ⟨r, rfl, hrecord, hr⟩ | ⟨e, rfl, hfails⟩
  · have hstored : l₂.attempts.get? payment 1 = some r := hr
    have htarget : l₂.outline.conclude c payment 1 =
        l₁.outline.reported c (.firstFailure default payment account amount cause failedAt) := by
      rw [hrecord]
      rfl
    refine (quiet_keeps (recorded_ends account honest hcontext hstored)).imp ?_
    intro result l₃ hpost
    obtain ⟨hends, -, hstays⟩ := hpost
    -- What is recorded is still there, so it is not recorded again.
    obtain ⟨b, hb, -⟩ := hstays _ _ _ hstored
    have hsame : l₃.outline.record (.firstFailure default payment account amount cause failedAt) =
        l₃.outline := Outline.record_of_some (Ledger.get?_outline_of_some hb)
    rw [htarget] at hends
    refine ⟨?_, hends.reached, hends.completes⟩
    rw [Outline.reported, hsame]
    exact hends.leads
  · exact hfails.ends Bool.false_ne_true

/-! ## Deliveries of one item -/

/-- What is known of a delivery is known of its report to the queue. -/
theorem handleRetry_ends {w : Surroundings} {rule : Ledger → Request → Prop}
    {item : Item} {context : HandlerContext} (post : Prop → Ledger → Prop)
    (h : (c.deliver item context).Obeys w.Answers rule
      (fun result l' => post (result.isOk = true) l') l) :
    (c.handleRetry item context).Obeys w.Answers rule
      (fun result l' => post (result = .ok .done) l') l := by
  have hdone (result : Except DeliveryFault RetryDelivery) :
      (RetryDelivery.outcome result = .ok .done) = (result.isOk = true) := by
    rcases result with fault | delivery
    · exact propext ⟨nofun, nofun⟩
    · exact propext ⟨fun _ => rfl, fun _ => rfl⟩
  unfold handleRetry
  rw [Task.obeys_bind]
  refine h.imp ?_
  intro result l' hpost
  show post (RetryDelivery.outcome result = .ok .done) l'
  rw [hdone]
  exact hpost

/-- Deliveries of an item to an account that is not closed, one after another, whatever comes of
them. -/
def Redelivered (w : Surroundings) (c : RetryController) (item : Item) : Ledger → Ledger → Prop :=
  Relation.ReflTransGen fun l l' => ∃ context result, context.ownerCancelled = false ∧
    (c.handleRetry item context).Runs w.Answers l result l'

/-- Two ledgers that only names and clocks tell apart: the same attempts, the same items and the same
charges. -/
structure Same (l l' : Ledger) : Prop where
  outline : l.outline = l'.outline
  charges : ∀ payment number, l.charges payment number = l'.charges payment number

/-- Whatever is delivered next, it ends as if nothing had failed. -/
structure Recovers (c : RetryController) (failure : PaymentFailure) (item : Item)
    (clean l : Ledger) : Prop where
  /-- Without failures the next delivery is done, and asks for no charge. -/
  completes : ∀ context, context.ownerCancelled = false →
    (c.handleRetry item context).Obeys (Surroundings.steady failure).Answers c.Quiet
      (fun result _ => result = .ok .done) l
  /-- A delivery that is done, with failures or without, leaves what the clean delivery left. -/
  same : ∀ context l', context.ownerCancelled = false →
    (c.handleRetry item context).Runs (Surroundings.shaky failure).Answers l (.ok .done) l' →
      Same l' clean

/-- Deliveries of an item that charge nothing and lead to a target from the ledgers of a kind. -/
def LeadsTo (c : RetryController) (failure : PaymentFailure) (item : Item)
    (follow : Outline → Outline) (kind : Ledger → Prop) : Prop :=
  ∀ fails, (Surroundings.declining failure fails).Honest →
    ∀ l context, context.ownerCancelled = false → kind l →
      (c.handleRetry item context).Obeys (Surroundings.declining failure fails).Answers c.Quiet
        (fun result l' => l'.Ends (.declining failure fails) follow (follow l.outline)
          (result = .ok .done) ∧ kind l') l

namespace LeadsTo

variable {item : Item} {follow : Outline → Outline} {kind : Ledger → Prop} {clean : Ledger}

theorem of_runs (leads : LeadsTo c failure item follow kind)
    (honest : (Surroundings.declining failure fails).Honest) {context : HandlerContext}
    {result : Except HandlerError HandlerOutcome} (hcontext : context.ownerCancelled = false)
    (hkind : kind l)
    (run : (c.handleRetry item context).Runs (Surroundings.declining failure fails).Answers l result
      l') :
    l'.Ends (.declining failure fails) follow (follow l.outline) (result = .ok .done) ∧ kind l' ∧
      ∀ payment number, l'.charges payment number = l.charges payment number := by
  have hends := quiet_keeps (leads fails honest l context hcontext hkind)
  obtain ⟨⟨hends, hkind'⟩, hcharges, -⟩ := hends.of_runs run
  exact ⟨hends, hkind', hcharges⟩

theorem redelivered (leads : LeadsTo c failure item follow kind) (hkind : kind l)
    (h : Redelivered (.shaky failure) c item l l') : kind l' ∧ follow l'.outline = follow l.outline ∧
      ∀ payment number, l'.charges payment number = l.charges payment number := by
  induction h with
  | refl => exact ⟨hkind, rfl, fun _ _ => rfl⟩
  | tail _ step ih =>
      obtain ⟨context, result, hcontext, run⟩ := step
      obtain ⟨hkind₁, hfollow, hcharges⟩ := ih
      obtain ⟨hends, hkind₂, hcharges₂⟩ :=
        leads.of_runs (Surroundings.shaky_honest failure) hcontext hkind₁ run
      refine ⟨hkind₂, hends.leads.trans hfollow, ?_⟩
      intro payment number
      rw [hcharges₂, hcharges]

/-- **Deliveries that lead to what the clean delivery came to recover.** -/
theorem recovers (leads : LeadsTo c failure item follow kind) (hkind : kind l)
    (hfollow : follow l.outline = clean.outline)
    (hcharges : ∀ payment number, l.charges payment number = clean.charges payment number)
    (h : Redelivered (.shaky failure) c item l l') : Recovers c failure item clean l' := by
  obtain ⟨hkind', hfollow', hcharges'⟩ := leads.redelivered hkind h
  refine ⟨?_, ?_⟩
  · intro context hcontext
    have hends := leads _ (Surroundings.steady_honest failure) l' context hcontext hkind'
    exact hends.imp fun _ _ hends => hends.1.completes (Surroundings.steady_reliable failure)
  · intro context l₁ hcontext run
    obtain ⟨hends, -, hcharges₁⟩ :=
      leads.of_runs (Surroundings.shaky_honest failure) hcontext hkind' run
    refine ⟨?_, ?_⟩
    · rw [hends.reached rfl, hfollow', hfollow]
    · intro payment number
      rw [hcharges₁, hcharges', hcharges]

end LeadsTo

/-- The deliveries of a scheduled attempt that is not pending any more follow it up. -/
theorem scheduledRetry_leadsTo {item : Item} {payment : PaymentId} {account : AccountId}
    {number : UInt32} {amount : UInt64}
    (hpayload : RetryPayload.decode? item.payload.toNode =
      some (.scheduledRetry payment account number amount)) :
    LeadsTo c failure item (.conclude c payment number) fun l =>
      ∃ b, l.attempts.get? payment number = some b ∧ b.outcome ≠ .pending := by
  intro fails honest l context _ hkind
  obtain ⟨r, hr, hsettled⟩ := hkind
  refine handleRetry_ends (fun done l' =>
    l'.Ends (.declining failure fails) (.conclude c payment number)
        (l.outline.conclude c payment number) done ∧
      ∃ b, l'.attempts.get? payment number = some b ∧ b.outcome ≠ .pending) ?_
  have hends := quiet_keeps (scheduledAttempt_ends (c := c) context honest hr hsettled)
  unfold deliver
  rw [hpayload]
  refine hends.imp ?_
  intro result l' hpost
  obtain ⟨hends, -, hstays⟩ := hpost
  obtain ⟨b, hb, hback⟩ := hstays payment number r hr
  exact ⟨hends, b, hb, fun hpending => hsettled (hback hpending)⟩

/-- The deliveries of a failed first charge report it. -/
theorem initialFailure_leadsTo {item : Item} {payment : PaymentId} {account : AccountId}
    {amount : UInt64} {cause : PaymentFailure} {failedAt : Instant}
    (hpayload : RetryPayload.decode? item.payload.toNode =
      some (.initialFailure payment account amount cause failedAt)) :
    LeadsTo c failure item
      (.reported c (.firstFailure default payment account amount cause failedAt))
      fun _ => True := by
  intro fails honest l context hcontext _
  refine handleRetry_ends (fun done l' =>
    l'.Ends (.declining failure fails)
        (.reported c (.firstFailure default payment account amount cause failedAt))
        (l.outline.reported c (.firstFailure default payment account amount cause failedAt)) done ∧
      True) ?_
  unfold deliver
  rw [hpayload]
  exact (firstFailure_ends honest hcontext).imp fun _ _ hends => ⟨hends, trivial⟩

/-- The first delivery of a pending attempt whose charge fails. -/
theorem scheduledRetry_ends {item : Item} {context : HandlerContext} {a : Attempt}
    {account : AccountId} {amount : UInt64} (honest : (Surroundings.declining failure fails).Honest)
    (hpayload : RetryPayload.decode? item.payload.toNode =
      some (.scheduledRetry a.payment account a.number amount))
    (hcontext : context.ownerCancelled = false)
    (hstored : l.attempts.get? a.payment a.number = some a) (hpending : a.outcome = .pending) :
    (c.handleRetry item context).Obeys (Surroundings.declining failure fails).Answers c.Persistent
      (fun result l' =>
        ChargeEnds (.declining failure fails) c a failure context.now l (result = .ok .done) l')
      l := by
  refine handleRetry_ends (ChargeEnds (.declining failure fails) c a failure context.now l) ?_
  unfold deliver
  rw [hpayload]
  exact pendingAttempt_ends honest hcontext hstored hpending

/-- **Interrupted deliveries recover.** A delivery that breaks off because stores are out of reach is
repeated at any later times, until one is done. Then the ledger is that of the clean delivery, at
which nothing failed, up to names and clocks.

For a scheduled attempt whose charge failed the clean delivery charges once. Once the outcome is
recorded, no other delivery charges. For a failed first charge no delivery charges at all. -/
theorem interrupted_deliveries_recover (c : RetryController) (failure : PaymentFailure) {item : Item}
    {context : HandlerContext} {start : Ledger} (hcontext : context.ownerCancelled = false) :
    (∀ a account amount,
      RetryPayload.decode? item.payload.toNode =
        some (.scheduledRetry a.payment account a.number amount) →
      start.attempts.get? a.payment a.number = some a → a.outcome = .pending →
        (c.handleRetry item context).Obeys (Surroundings.steady failure).Answers c.Persistent
          (fun result clean => result = .ok .done ∧
            clean.charges a.payment a.number = start.charges a.payment a.number + 1) start ∧
        ∀ clean result l,
          (c.handleRetry item context).Runs (Surroundings.steady failure).Answers start (.ok .done)
            clean →
          (c.handleRetry item context).Runs (Surroundings.shaky failure).Answers start result l →
          (∃ b, l.attempts.get? a.payment a.number = some b ∧ b.outcome ≠ .pending) →
            (result = .ok .done → Same l clean) ∧
            ∀ l', Redelivered (.shaky failure) c item l l' → Recovers c failure item clean l') ∧
    ∀ payment account amount cause failedAt,
      RetryPayload.decode? item.payload.toNode =
        some (.initialFailure payment account amount cause failedAt) →
      (c.handleRetry item context).Obeys (Surroundings.steady failure).Answers c.Quiet
          (fun result _ => result = .ok .done) start ∧
        ∀ clean l,
          (c.handleRetry item context).Runs (Surroundings.steady failure).Answers start (.ok .done)
            clean →
          Redelivered (.shaky failure) c item start l → Recovers c failure item clean l := by
  have hsteady := Surroundings.steady_honest failure
  have hshaky := Surroundings.shaky_honest failure
  have hreliable := Surroundings.steady_reliable failure
  refine ⟨?_, ?_⟩
  · intro a account amount hpayload hstored hpending
    have hclean := scheduledRetry_ends (c := c) hsteady hpayload hcontext hstored hpending
    have hinterrupted := scheduledRetry_ends (c := c) hshaky hpayload hcontext hstored hpending
    refine ⟨?_, ?_⟩
    · refine hclean.imp ?_
      intro result l hpost
      rcases hpost with ⟨-, -, hunreliable⟩ | ⟨hends, hcharges, -⟩
      · exact absurd hreliable hunreliable
      · refine ⟨hends.completes hreliable, ?_⟩
        rw [hcharges, if_pos ⟨rfl, rfl⟩]
    · intro clean result l hrun hrun' hsettled
      rcases hclean.of_runs hrun with ⟨-, -, hunreliable⟩ | ⟨hends, hcharges, -⟩
      · exact absurd hreliable hunreliable
      · rcases hinterrupted.of_runs hrun' with ⟨hrow, -, -⟩ | ⟨hends', hcharges', -⟩
        · obtain ⟨b, hb, hsettled⟩ := hsettled
          rw [hrow] at hb
          exact absurd (Option.some.inj hb ▸ hpending) hsettled
        · have houtline := hends.reached rfl
          have hsame (payment : PaymentId) (number : UInt32) :
              l.charges payment number = clean.charges payment number := by
            rw [hcharges, hcharges']
          refine ⟨fun hdone => ⟨?_, hsame⟩, ?_⟩
          · rw [hends'.reached hdone, houtline]
          · intro l' hagain
            refine (scheduledRetry_leadsTo hpayload).recovers hsettled ?_ hsame hagain
            rw [hends'.leads, houtline]
  · intro payment account amount cause failedAt hpayload
    have hleads : LeadsTo c failure item _ _ := initialFailure_leadsTo hpayload
    refine ⟨?_, ?_⟩
    · have hclean := hleads _ hsteady start context hcontext trivial
      exact hclean.imp fun _ _ hends => hends.1.completes hreliable
    · intro clean l hrun hagain
      obtain ⟨hends, -, hcharges⟩ := hleads.of_runs hsteady hcontext trivial hrun
      refine hleads.recovers trivial (hends.reached rfl).symm ?_ hagain
      intro p n
      exact (hcharges p n).symm

/-! ### A retry that is declined while the store takes no new attempts -/

/-- The failure of a store that takes no new attempts. -/
def outage : StoreError := ⟨.unavailable, "out of space"⟩

/-- Answer a request at once, but record no new attempts. -/
def replyFull (given : (request : Request) → Option request.Answer) :
    (request : Request) → Ledger → Except Stop request.Answer × Ledger
  | .attempt (.insert a), l =>
    (.ok (.error outage), l.noting (.answered (.attempt (.insert a)) (.error outage)))
  | request, l => l.reply given request

/-- What an unrestricted account says it may say. -/
private theorem gives_of_unrestricted (request : Request) (answer : request.Answer)
    (h : Surroundings.unrestricted (.failed failure) request = some answer) :
    (Surroundings.declining failure fails).gives request answer := by
  cases request with
  | charge request => exact (Option.some.inj h).symm
  | state request =>
      cases request with
      | get account =>
          have hrecord : answer = .ok none := (Option.some.inj h).symm
          exact .inl ⟨none, hrecord, by simp⟩
      | _ => cases h
  | _ => trivial

/-- A store that takes no new attempts is out of reach now and then. -/
theorem answers_of_replyFull (request : Request) (l : Ledger) (answer : request.Answer)
    (l' : Ledger)
    (h : replyFull (Surroundings.unrestricted (.failed failure)) request l = (.ok answer, l')) :
    (Surroundings.shaky failure).Answers request l answer l' := by
  have hreply := Surroundings.answers_of_reply (w := .shaky failure)
    (Surroundings.unrestricted (.failed failure)) gives_of_unrestricted
  unfold replyFull at h
  split at h
  · obtain ⟨hanswer, rfl⟩ := Prod.mk.inj h
    obtain rfl := Except.ok.inj hanswer
    exact .inr ⟨outage, rfl, rfl, rfl⟩
  · exact hreply _ _ _ _ h

/-- The second attempt, due at noon. -/
def noonAttempt : Attempt :=
  (Attempt.firstFailure (.ofNat 5) noonPayment noonAccount 500 .declined Instant.noon).next
    (.ofNat 6) Instant.noon none Instant.noon

/-- The ledger that holds it and nothing else. -/
def noonPending : Ledger := { attempts := ⟨[noonAttempt]⟩ }

/-- The delivery of the second attempt. -/
def noonDelivery : HandlerProgram := noonController.handleRetry noonRetry { now := Instant.noon }

/-- What comes of it when its charge is declined. -/
def declined : Ledger :=
  (noonDelivery.run (Ledger.reply (Surroundings.unrestricted (.failed .declined))) noonPending).2

/-- What comes of it when the next attempt cannot be recorded either. -/
def interrupted : Ledger :=
  (noonDelivery.run (replyFull (Surroundings.unrestricted (.failed .declined))) noonPending).2

theorem noonDelivery_runs :
    (declined.attempts.records.map Attempt.number = [2, 3] ∧
      noonDelivery.Runs (Surroundings.steady .declined).Answers noonPending (.ok .done) declined) ∧
      (interrupted.attempts.get? noonPayment 2).map Attempt.outcome = some .failed ∧
        ∃ e, noonDelivery.Runs (Surroundings.shaky .declined).Answers noonPending (.error e)
          interrupted := by
  have hclean : (declined.attempts.records.map Attempt.number,
      (noonDelivery.run (Ledger.reply (Surroundings.unrestricted (.failed .declined)))
        noonPending).1) = ([2, 3], .ok (.ok .done)) := by cbv
  have hbroken : ((interrupted.attempts.get? noonPayment 2).map Attempt.outcome,
      (noonDelivery.run (replyFull (Surroundings.unrestricted (.failed .declined)))
        noonPending).1) = (some .failed, .ok (.error (.transient outage.message))) := by cbv
  obtain ⟨hnumbers, hvalue⟩ := Prod.mk.inj hclean
  obtain ⟨houtcome, hvalue'⟩ := Prod.mk.inj hbroken
  have hanswers := Surroundings.answers_of_reply (w := .steady .declined)
    (Surroundings.unrestricted (.failed .declined)) gives_of_unrestricted
  exact ⟨⟨hnumbers, Task.runs_of_run hanswers (Prod.ext hvalue rfl)⟩, houtcome, _,
    Task.runs_of_run answers_of_replyFull (Prod.ext hvalue' rfl)⟩

/-- The outcome of the second attempt was recorded, the third attempt was not. Delivering the item
again makes up for it. -/
theorem interrupted_deliveries_recover_declined :
    interrupted.attempts.records.map Attempt.number = [2] ∧
      declined.attempts.records.map Attempt.number = [2, 3] ∧
      Recovers noonController .declined noonRetry declined interrupted := by
  obtain ⟨⟨hnumbers, hclean⟩, houtcome, e, hbroken⟩ := noonDelivery_runs
  have hpayload : RetryPayload.decode? noonRetry.payload.toNode =
      some (.scheduledRetry noonAttempt.payment noonAccount noonAttempt.number 500) := by
    rw [noonRetry, noonItem, Item.payload_ofNew]
    exact RetryPayload.decode?_scheduledRetry ..
  have hrow : ∃ b, interrupted.attempts.get? noonAttempt.payment noonAttempt.number = some b ∧
      b.outcome ≠ .pending := by
    obtain ⟨b, hb, hfailed⟩ := Option.map_eq_some_iff.mp houtcome
    exact ⟨b, hb, by rw [hfailed]; decide⟩
  have hcontext : ({ now := Instant.noon } : HandlerContext).ownerCancelled = false := rfl
  have hstored : noonPending.attempts.get? noonAttempt.payment noonAttempt.number =
      some noonAttempt := rfl
  have hpending : noonAttempt.outcome = .pending := rfl
  obtain ⟨-, hrecovers⟩ := (interrupted_deliveries_recover noonController .declined hcontext).1
    noonAttempt noonAccount 500 hpayload hstored hpending
  exact ⟨by cbv, hnumbers, (hrecovers declined _ interrupted hclean hbroken hrow).2 _ .refl⟩

end RetryController

end Dunning
