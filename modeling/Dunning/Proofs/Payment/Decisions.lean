import Dunning.Proofs.Payment.Chains

/-!
# Deliveries follow the policy

The next attempt of a payment is recorded because the last one failed and the policy asks for
another. The policy is asked as of the time at which the failure was recorded, so a delivery that
comes again gets the decision that was made before, and a failed attempt that the policy tries again
stays failed.

There is one way around the policy. A report of the first failure looks at the restrictions of the
account before it asks the policy. When it is delivered again, it can give the first attempt up
although the second is on its way. What such a delivery was told is kept in the history: its report
was refused as known, after the second attempt had been recorded.

## Main definitions

* `RetryController.Retries` — an attempt that failed and that the policy tries again.
* `Ledger.ReportedAgain` — the first failure of a payment was reported again.
* `RetryController.Respects` — the writes of a delivery that follows the policy.

## Main results

* `RetryController.applyDecision_respects` — a decision that is made again is made as before.
* `RetryController.handleRetry_respects` — every delivery follows the policy, up to the exception.
-/

namespace Dunning

/-- Whether, after the second attempt of a payment was recorded, a report of its first failure came
again and was refused as known. -/
def Ledger.ReportedAgain (l : Ledger) (payment : PaymentId) : Prop :=
  ∃ (report second : Attempt) (e : StoreError) (earlier : List LedgerEvent),
    .answered (.attempt (.insert report)) (.error e) :: earlier <:+ l.past ∧
    report.payment = payment ∧ report.number = 1 ∧
    .answered (.attempt (.insert second)) (.ok ()) ∈ earlier ∧
    second.payment = payment ∧ second.number = 2

/-- Whether every second attempt has a first one before it, and the history tells of its record. -/
def Ledger.SecondsNoted (l : Ledger) : Prop :=
  ∀ payment, (∃ second, l.attempts.get? payment 2 = some second) →
    (∃ first, l.attempts.get? payment 1 = some first) ∧
      ∃ second : Attempt, .answered (.attempt (.insert second)) (.ok ()) ∈ l.past ∧
        second.payment = payment ∧ second.number = 2

/-- The history goes on while the attempts stay as they are. -/
structure Ledger.Onward (l l' : Ledger) : Prop where
  attempts : l'.attempts = l.attempts
  past : l.past <:+ l'.past

theorem Ledger.Onward.refl (l : Ledger) : l.Onward l := ⟨rfl, List.suffix_refl _⟩

theorem Ledger.Onward.trans {l m n : Ledger} (h : l.Onward m) (g : m.Onward n) : l.Onward n :=
  ⟨g.attempts.trans h.attempts, h.past.trans g.past⟩

theorem Ledger.ReportedAgain.mono {l l' : Ledger} {payment : PaymentId}
    (h : l.ReportedAgain payment) (hpast : l.past <:+ l'.past) : l'.ReportedAgain payment := by
  obtain ⟨report, second, e, earlier, hreported, hrest⟩ := h
  exact ⟨report, second, e, earlier, hreported.trans hpast, hrest⟩

namespace RetryController

/-- Whether an attempt failed and the policy, asked as of the recorded time, tries again. -/
def Retries (c : RetryController) (a : Attempt) : Prop :=
  a.outcome = .failed ∧
    ∃ due adjusted, c.policy.decide (failedAttempt a a.updatedAt) = some (.retryAt due adjusted)

/-- Whether an attempt is the first of its payment and given up. If the second is recorded, the
failure of the first was reported again. -/
def GivenUpAgain (l : Ledger) (a : Attempt) : Prop :=
  a.number = 1 ∧ a.outcome = .aborted ∧
    ((∃ second, l.attempts.get? a.payment 2 = some second) → l.ReportedAgain a.payment)

/-- The writes of a delivery that follows the policy: what the policy tries again stays so, the
first attempt of a payment apart, and only what the policy tries again gets a next attempt. -/
def Respects (c : RetryController) (l : Ledger) : Request → Prop
  | .attempt (.update b) => ∀ a, l.attempts.get? b.payment b.number = some a → c.Retries a →
      c.Retries b ∨ GivenUpAgain l b
  | .attempt (.insert b) => b.number = 1 ∨
      ∃ a, l.attempts.get? b.payment a.number = some a ∧ b.number = a.number + 1 ∧ c.Retries a
  | _ => True

section

variable {w : Surroundings} {c : RetryController} {l : Ledger} {a : Attempt} {α : Type}

theorem respects_of_isLook {request : Request} (h : request.IsLook) : c.Respects l request := by
  cases request with
  | attempt request =>
      cases request with
      | get => trivial
      | _ => exact h.elim
  | _ => trivial

theorem respects_look {request : Request} {next : request.Answer → Program α}
    {post : α → Ledger → Prop} (hlook : request.IsLook)
    (hnext : ∀ answer l', w.Answers request l answer l' → l.Onward l' →
      (next answer).Obeys w.Answers c.Respects post l') :
    Task.Obeys w.Answers c.Respects post (.ask request next) l := by
  refine ⟨respects_of_isLook hlook, ?_⟩
  intro answer l' h
  refine hnext answer l' h ⟨(h.look hlook).attempts, ?_⟩
  rw [h.past]
  exact List.suffix_cons _ _

/-- Recording an outcome. If it was recorded before, nothing happens. -/
theorem finish_respects {outcome : AttemptOutcome} {now : Instant}
    (h : ∀ stored, l.attempts.get? a.payment a.number = some stored → c.Retries stored →
      c.Retries (finished a outcome now) ∨ GivenUpAgain l (finished a outcome now)) :
    (finish a outcome now).Obeys w.Answers c.Respects (fun result l' => result = .ok () →
      (a.outcome = outcome ∧ l' = l) ∨
        l'.attempts.get? a.payment a.number = some (finished a outcome now)) l := by
  unfold finish
  by_cases hsame : a.outcome = outcome
  · rw [if_pos hsame]
    exact fun _ => .inl ⟨hsame, rfl⟩
  · rw [if_neg hsame]
    refine ⟨h, ?_⟩
    intro answer l' hanswer
    rcases answer with e | u
    · exact nofun
    · intro _
      obtain ⟨⟨stored, hstored, -⟩, hreplace⟩ := hanswer.update_ok
      right
      rw [hreplace]
      exact AttemptStore.get?_replace_self (a := finished a outcome now) hstored

/-- Recording an attempt. It is new, or the one that is found was stored before. -/
theorem insertOrFind_respects {ε : Type} {b : Attempt} (payment : PaymentId) (number : UInt32)
    (refused : StoreError → ε) (vanished : ε) (h : c.Respects l (.attempt (.insert b))) :
    (insertOrFind b payment number refused vanished).Obeys w.Answers c.Respects
      (fun result l' => ∀ a, result = .ok a →
        (a = b ∧ l.attempts.get? b.payment b.number = none ∧ l'.attempts = l.attempts.add b) ∨
        (l.attempts.get? payment number = some a ∧ l'.attempts = l.attempts ∧
          ∃ e, .answered (.attempt (.insert b)) (.error e) :: l.past <:+ l'.past)) l := by
  simp only [insertOrFind, Program.insertAttempt, Program.getAttempt, Task.bind_eq, Task.pure_eq,
    Task.bind_ask, Task.bind_done]
  refine ⟨h, ?_⟩
  intro answer l₁ h₁
  rcases answer with e | u
  · by_cases hconflict : e.isConflict = true
    · simp only [hconflict, if_true]
      refine respects_look trivial ?_
      intro answer l₂ h₂ honward
      have hsame := h₁.insert_error
      rcases answer with cause | _ | stored
      · intro a hresult
        cases hresult
      · intro a hresult
        cases hresult
      · intro a hresult
        obtain rfl := Except.ok.inj hresult
        refine .inr ⟨hsame ▸ h₂.get_ok, honward.attempts.trans hsame, e, ?_⟩
        rw [← h₁.past]
        exact honward.past
    · simp only [hconflict, if_false, Bool.false_eq_true]
      intro a hresult
      cases hresult
  · obtain ⟨hnone, hadd⟩ := h₁.insert_ok
    intro a hresult
    obtain rfl := Except.ok.inj hresult
    exact .inl ⟨rfl, hnone, hadd⟩

theorem ensureItem_respects :
    (ensureItem a).Obeys w.Answers c.Respects (fun _ _ => True) l := by
  simp only [ensureItem, Program.pendingForOwner, Program.enqueue, Task.bind_eq, Task.pure_eq,
    Task.bind_ask, Task.bind_done]
  refine respects_look trivial ?_
  intro answer l₁ _ _
  rcases answer with e | items
  · trivial
  · by_cases hitem : items.any (isItemOf a) = true
    · simp only [hitem, if_true]
      trivial
    · simp only [hitem, if_false, Bool.false_eq_true]
      refine ⟨trivial, ?_⟩
      intro answer l₂ _
      rcases answer with e | id <;> trivial

theorem schedule_respects {stored : Attempt} (due : Instant) (adjusted : Option UInt64)
    (now : Instant) (hstored : l.attempts.get? a.payment a.number = some stored)
    (hretries : c.Retries stored) :
    (schedule a due adjusted now).Obeys w.Answers c.Respects (fun _ _ => True) l := by
  simp only [schedule, Program.freshId, Task.bind_eq, Task.pure_eq, Task.bind_ask, Task.bind_done]
  refine respects_look trivial ?_
  intro id l₁ _ honward
  have hnext : c.Respects l₁ (.attempt (.insert (a.next id due adjusted now))) := by
    have hnumber : stored.number = a.number := (AttemptStore.key_of_get? hstored).2
    refine .inr ⟨stored, ?_, ?_, hretries⟩
    · rw [honward.attempts, hnumber]
      exact hstored
    · rw [hnumber]
      rfl
  rw [Task.obeys_bind, recordNext_eq]
  refine (insertOrFind_respects _ _ _ _ hnext).imp ?_
  intro result l₂ _
  rcases result with e | b
  · trivial
  · by_cases hpending : b.outcome = .pending
    · simp only [hpending, if_true]
      exact ensureItem_respects
    · simp only [hpending, if_false]
      trivial

/-- An attempt whose follow-up gets the decision that it had before, or that has none yet. -/
def Undecided (l : Ledger) (a : Attempt) (failedAt : Instant) : Prop :=
  (a.outcome = .failed ∧ failedAt = a.updatedAt ∧ l.attempts.get? a.payment a.number = some a) ∨
    (a.outcome = .pending ∧ ∀ stored, l.attempts.get? a.payment a.number = some stored →
      stored.outcome = .pending)

/-- Making a decision about an attempt durable, when it is the decision that the policy made before.
-/
theorem applyDecision_respects {failedAt : Instant} {decision : RetryDecision}
    (h : Undecided l a failedAt)
    (hdecision : c.policy.decide (failedAttempt a failedAt) = some decision) :
    (c.applyDecision a decision failedAt).Obeys w.Answers c.Respects (fun _ _ => True) l := by
  rw [applyDecision_eq, Task.obeys_bind]
  refine (finish_respects ?_).imp ?_
  · intro stored hstored hagain
    rcases h with ⟨-, rfl, hget⟩ | ⟨-, hpending⟩
    · obtain rfl : a = stored := Option.some.inj (hget.symm.trans hstored)
      obtain ⟨-, due, adjusted, hbefore⟩ := hagain
      obtain rfl : decision = .retryAt due adjusted :=
        Option.some.inj (hdecision.symm.trans hbefore)
      exact .inl ⟨rfl, due, adjusted, hdecision⟩
    · have hfailed := hagain.1
      rw [hpending stored hstored] at hfailed
      cases hfailed
  · intro result l₁ hrecorded
    rcases result with e | u
    · trivial
    · show (c.goOn a decision failedAt).Obeys w.Answers c.Respects (fun _ _ => True) l₁
      unfold goOn
      by_cases hceiling : c.maxAttempts ≤ a.number
      · rw [if_pos hceiling]
        trivial
      · rw [if_neg hceiling]
        cases decision with
        | abort reason => trivial
        | retryAt due adjusted =>
            rcases hrecorded rfl with ⟨hfailed, rfl⟩ | hget
            · rcases h with ⟨-, rfl, hget⟩ | ⟨hpending, -⟩
              · exact schedule_respects due adjusted _ hget ⟨hfailed, due, adjusted, hdecision⟩
              · rw [hpending] at hfailed
                cases hfailed
            · exact schedule_respects due adjusted failedAt hget ⟨rfl, due, adjusted, hdecision⟩

theorem followUp_respects {failedAt : Instant} (h : Undecided l a failedAt) :
    (c.followUp a failedAt).Obeys w.Answers c.Respects (fun _ _ => True) l := by
  unfold followUp
  cases hdecision : c.policy.decide (failedAttempt a failedAt) with
  | none => exact ⟨trivial, fun answer => nomatch answer⟩
  | some decision => exact applyDecision_respects h hdecision

/-! ## Restrictions -/

theorem status_respects (account : AccountId) :
    (OverdueEngine.status account).Obeys w.Answers c.Respects (fun _ l' => l.Onward l') l := by
  simp only [OverdueEngine.status, Program.getState, Program.activeSet, OverdueEngine.pendingLooks,
    Program.pendingForOwner, Task.bind_eq, Task.pure_eq, Task.bind_ask, Task.bind_done]
  refine respects_look trivial ?_
  intro record l₁ _ honward₁
  rcases record with e | record
  · exact honward₁
  · refine respects_look trivial ?_
    intro set l₂ _ honward₂
    refine respects_look trivial ?_
    intro looks l₃ _ honward₃
    have honward := (honward₁.trans honward₂).trans honward₃
    rcases looks with e | looks
    · exact honward
    · exact honward

theorem restriction_respects (account : AccountId) (context : HandlerContext) :
    (restriction account context).Obeys w.Answers c.Respects (fun _ l' => l.Onward l') l := by
  unfold restriction
  by_cases hclosed : context.ownerCancelled = true
  · rw [if_pos hclosed]
    exact .refl l
  · rw [if_neg hclosed, Task.obeys_bind]
    refine (status_respects account).imp ?_
    intro result l' honward
    rcases result with e | status
    · exact honward
    · exact honward

theorem giveUpAttempt_respects (reason : String) (now : Instant)
    (h : ∀ stored, l.attempts.get? a.payment a.number = some stored → c.Retries stored →
      GivenUpAgain l (finished a .aborted now)) :
    (giveUpAttempt a reason now).Obeys w.Answers c.Respects (fun _ _ => True) l := by
  unfold giveUpAttempt abort
  rw [Task.obeys_bind, Task.obeys_bind]
  refine (finish_respects fun stored hstored hagain => .inr (h stored hstored hagain)).imp ?_
  intro result l' _
  rcases result with e | u
  · trivial
  · trivial

/-- A restricted account: its attempt is given up, which must be right in the end. -/
theorem unlessRestricted_respects {account : AccountId} {context : HandlerContext}
    {goOn : DeliveryProgram}
    (hgiveUp : ∀ l' stored, l.Onward l' → l'.attempts.get? a.payment a.number = some stored →
      c.Retries stored → GivenUpAgain l' (finished a .aborted context.now))
    (hgoOn : ∀ l', l.Onward l' → goOn.Obeys w.Answers c.Respects (fun _ _ => True) l') :
    (unlessRestricted a account context goOn).Obeys w.Answers c.Respects (fun _ _ => True) l := by
  unfold unlessRestricted
  rw [Task.obeys_bind]
  refine (restriction_respects account context).imp ?_
  intro result l' honward
  rcases result with fault | _ | reason
  · trivial
  · exact hgoOn l' honward
  · exact giveUpAttempt_respects reason context.now fun stored => hgiveUp l' stored honward

/-! ## Deliveries -/

/-- An attempt that was just read, and has not ended. -/
theorem Undecided.of_get? (hget : l.attempts.get? a.payment a.number = some a)
    (hopen : a.isTerminal = false) : Undecided l a a.updatedAt := by
  cases houtcome : a.outcome with
  | pending =>
      refine .inr ⟨houtcome, ?_⟩
      intro stored hstored
      obtain rfl : a = stored := Option.some.inj (hget.symm.trans hstored)
      exact houtcome
  | failed => exact .inl ⟨houtcome, rfl, hget⟩
  | _ =>
      rw [Attempt.isTerminal_of_outcome houtcome] at hopen
      cases hopen

theorem resume_respects (h : Undecided l a a.updatedAt) :
    (c.resume a).Obeys w.Answers c.Respects (fun _ _ => True) l := by
  simp only [resume, resumeFailed, Task.pure_eq]
  rw [Task.obeys_bind]
  exact (followUp_respects h).imp fun _ _ _ => trivial

theorem collect_respects (now : Instant)
    (hpending : ∀ stored, l.attempts.get? a.payment a.number = some stored →
      stored.outcome = .pending) :
    (collect a now).Obeys w.Answers c.Respects (fun _ _ => True) l := by
  simp only [collect, recordSuccess, Program.enqueue, Task.bind_eq, Task.pure_eq]
  rw [Task.obeys_bind]
  refine (finish_respects ?_).imp ?_
  · intro stored hstored hagain
    have hfailed := hagain.1
    rw [hpending stored hstored] at hfailed
    cases hfailed
  · intro result l₁ _
    rcases result with e | u
    · trivial
    · exact ⟨trivial, fun _ _ _ => trivial⟩

theorem charge_respects {payment : PaymentId} {number : UInt32} (now : Instant)
    (hget : l.attempts.get? payment number = some a) (hpending : a.outcome = .pending) :
    (c.charge a payment number now).Obeys w.Answers c.Respects (fun _ _ => True) l := by
  simp only [charge, Program.charge, Task.bind_eq, Task.pure_eq, Task.bind_ask, Task.bind_done]
  refine ⟨trivial, ?_⟩
  intro answer l₁ h
  have hstored : ∀ stored, l₁.attempts.get? a.payment a.number = some stored →
      stored.outcome = .pending := by
    intro stored hstored
    obtain ⟨rfl, rfl⟩ := AttemptStore.key_of_get? hget
    rw [h.attempts_eq (by simp), hget] at hstored
    obtain rfl := Option.some.inj hstored
    exact hpending
  rcases answer with e | _ | failure
  · trivial
  · exact collect_respects now hstored
  · rw [Task.obeys_bind]
    let failed : Attempt := { a with failure := some failure }
    exact (followUp_respects (a := failed) (.inr ⟨hpending, hstored⟩)).imp fun _ _ _ => trivial

theorem scheduledAttempt_respects (payment : PaymentId) (number : UInt32)
    (context : HandlerContext) :
    (c.scheduledAttempt payment number context).Obeys w.Answers c.Respects (fun _ _ => True) l := by
  simp only [scheduledAttempt, Program.getAttempt, Task.bind_eq, Task.pure_eq, Task.bind_ask,
    Task.bind_done]
  refine respects_look trivial ?_
  intro answer l₁ h honward
  rcases answer with e | _ | a
  · trivial
  · trivial
  · have hget : l₁.attempts.get? payment number = some a := by
      rw [honward.attempts]
      exact h.get_ok
    obtain ⟨rfl, rfl⟩ := AttemptStore.key_of_get? hget
    cases houtcome : a.outcome with
    | pending =>
        simp only [houtcome]
        refine unlessRestricted_respects ?_ ?_
        · intro l₂ stored honward₂ hstored hagain
          rw [honward₂.attempts, hget] at hstored
          obtain rfl := Option.some.inj hstored
          have hfailed := hagain.1
          rw [houtcome] at hfailed
          cases hfailed
        · intro l₂ honward₂
          exact charge_respects context.now (honward₂.attempts ▸ hget) houtcome
    | failed =>
        simp only [houtcome]
        exact resume_respects (.of_get? hget (Attempt.isTerminal_of_outcome houtcome))
    | aborted =>
        simp only [houtcome]
        trivial
    | success =>
        simp only [houtcome]
        trivial

/-- If the second attempt is recorded when a report of the first failure has been dealt with, then
that was not the first report. -/
theorem reportedAgain_of_recorded {report : Attempt} {l₁ : Ledger} (hnoted : l.SecondsNoted)
    (hnumber : report.number = 1)
    (h : (a = report ∧ l.attempts.get? report.payment report.number = none ∧
          l₁.attempts = l.attempts.add report) ∨
        (l.attempts.get? report.payment 1 = some a ∧ l₁.attempts = l.attempts ∧
          ∃ e, .answered (.attempt (.insert report)) (.error e) :: l.past <:+ l₁.past))
    (hsecond : ∃ second, l₁.attempts.get? report.payment 2 = some second) :
    l₁.ReportedAgain report.payment := by
  rcases h with ⟨-, hnone, hadd⟩ | ⟨-, hsame, e, hrefused⟩
  · have hbefore : ∃ second, l.attempts.get? report.payment 2 = some second := by
      obtain ⟨second, hget⟩ := hsecond
      rw [hadd] at hget
      rcases AttemptStore.get?_add_eq_some hget with hbefore | ⟨-, -, hsecond, -⟩
      · exact ⟨second, hbefore⟩
      · rw [hnumber] at hsecond
        cases hsecond
    obtain ⟨⟨first, hfirst⟩, -⟩ := hnoted _ hbefore
    rw [hnumber, hfirst] at hnone
    cases hnone
  · rw [hsame] at hsecond
    obtain ⟨-, second, hmem, hpayment, hnumber₂⟩ := hnoted _ hsecond
    exact ⟨report, second, e, l.past, hrefused, rfl, hnumber, hmem, hpayment, hnumber₂⟩

theorem firstFailure_respects (payment : PaymentId) (account : AccountId) (amount : UInt64)
    (failure : PaymentFailure) (failedAt : Instant) (context : HandlerContext)
    (hnoted : l.SecondsNoted) :
    (c.firstFailure payment account amount failure failedAt context).Obeys w.Answers c.Respects
      (fun _ _ => True) l := by
  simp only [firstFailure, Program.freshId, Task.bind_eq, Task.pure_eq, Task.bind_ask,
    Task.bind_done]
  refine respects_look trivial ?_
  intro id l₁ _ honward₁
  rw [Task.obeys_bind, recordFirst_eq]
  have hnoted₁ : l₁.SecondsNoted := by
    intro other hsecond
    rw [honward₁.attempts] at hsecond ⊢
    obtain ⟨hfirst, second, hmem, hkey⟩ := hnoted other hsecond
    exact ⟨hfirst, second, honward₁.past.subset hmem, hkey⟩
  refine (insertOrFind_respects _ _ _ _ (.inl rfl)).imp ?_
  intro result l₂ hrecorded
  rcases result with fault | a
  · trivial
  · have hrecorded := hrecorded a rfl
    have hkey : a.payment = payment ∧ a.number = 1 := by
      rcases hrecorded with ⟨rfl, -, -⟩ | ⟨hget, -, -⟩
      · exact ⟨rfl, rfl⟩
      · exact AttemptStore.key_of_get? hget
    have hget : l₂.attempts.get? a.payment a.number = some a := by
      rcases hrecorded with ⟨rfl, hnone, hadd⟩ | ⟨hget, hsame, -⟩
      · rw [hadd]
        exact AttemptStore.get?_add_self hnone
      · rw [hsame, hkey.1, hkey.2]
        exact hget
    obtain ⟨rfl, hnumber⟩ := hkey
    by_cases hterminal : a.isTerminal = true
    · simp only [hterminal, if_true]
      trivial
    · simp only [hterminal, if_false, Bool.false_eq_true]
      refine unlessRestricted_respects ?_ ?_
      · intro l₃ stored honward₃ _ _
        refine ⟨hnumber, rfl, ?_⟩
        intro hsecond
        rw [honward₃.attempts] at hsecond
        exact (reportedAgain_of_recorded hnoted₁ rfl hrecorded hsecond).mono honward₃.past
      · intro l₃ honward₃
        have hopen : a.isTerminal = false := by simpa using hterminal
        exact resume_respects (.of_get? (honward₃.attempts ▸ hget) hopen)

/-- **Every delivery follows the policy**, but for a first attempt that is given up when its failure
is reported again. -/
theorem handleRetry_respects (item : Item) (context : HandlerContext) (hnoted : l.SecondsNoted) :
    (c.handleRetry item context).Obeys w.Answers c.Respects (fun _ _ => True) l := by
  unfold handleRetry
  rw [Task.obeys_bind]
  suffices hdeliver : (c.deliver item context).Obeys w.Answers c.Respects (fun _ _ => True) l from
    hdeliver.imp fun _ _ _ => trivial
  unfold deliver
  rcases RetryPayload.decode? item.payload.toNode with
    _ | ⟨payment, account, amount, failure, failedAt⟩ | ⟨payment, account, number, amount⟩
  · trivial
  · exact firstFailure_respects payment account amount failure failedAt context hnoted
  · exact scheduledAttempt_respects payment number context

end

end RetryController

end Dunning
