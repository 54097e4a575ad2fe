import Dunning.Payment.RetryHandler
import Dunning.Proofs.Payment.Ledger
import Dunning.Proofs.Task.Conduct

/-!
# What the delivery of an attempt may do

A delivery reads, charges and writes in many orders, depending on what it finds and on what fails.
All that it can ask in a given state is said once, by `Ledger.Move`. What deliveries keep is derived
from that list.

A move says of the stores what the program found out before it asked: deliveries run one at a time,
so what was read still holds. An answered charge is recorded at once; every other move is made only
when no answer waits to be recorded.

## Main definitions

* `Ledger.Move` — the requests that a delivery may make.
* `Ledger.Change` — what they make of the stored attempts.
* `RetryController.insertOrFind` — how both kinds of attempts are recorded.
* `RetryController.verdict`, `RetryController.goOn` — the outcome that a decision gives a failed
  attempt, and what is done after that.

## Main results

* `RetryController.handleRetry_obeys` — every delivery of every item keeps to the moves.
* `Ledger.Move.change` — every move changes the attempts in one of four ways.
* `Ledger.Change.exists_of_get?` — attempts stay, and stay settled.
-/

namespace Dunning

/-- Whether an attempt that a program holds is stored with some outcome. Only what became of it may
differ. -/
def Ledger.Knows (l : Ledger) (a : Attempt) (outcome : AttemptOutcome) : Prop :=
  ∃ stored, l.attempts.get? a.payment a.number = some stored ∧ a.Alike stored ∧
    stored.outcome = outcome

theorem Ledger.Knows.of_get? {l : Ledger} {payment : PaymentId} {number : UInt32} {a : Attempt}
    (h : l.attempts.get? payment number = some a) : l.Knows a a.outcome := by
  obtain ⟨rfl, rfl⟩ := AttemptStore.key_of_get? h
  exact ⟨a, h, .refl a, rfl⟩

theorem Ledger.Knows.agrees {l l' : Ledger} {a : Attempt} {outcome : AttemptOutcome}
    (h : l.Knows a outcome) (hagrees : l.Agrees l') : l'.Knows a outcome := by
  obtain ⟨stored, hstored, hrest⟩ := h
  exact ⟨stored, hagrees.attempts ▸ hstored, hrest⟩

/-- What a delivery may ask while no attempt has a number above a limit. -/
inductive Ledger.Move (limit : UInt32) (l : Ledger) : Request → Prop where
  | look {request : Request} : l.Free → request.IsLook → Move limit l request
  | giveUp : Move limit l .giveUp
  /-- A pending attempt is charged. -/
  | charge {a : Attempt} {payment : PaymentId} {number : UInt32} : l.Free →
      l.attempts.get? payment number = some a → a.outcome = .pending →
      Move limit l (.charge (RetryController.requestOf a payment number))
  /-- An attempt that is not settled gets its outcome. After an answered charge it is the charged
  one. -/
  | settle {a : Attempt} {outcome : AttemptOutcome} {now : Instant} :
      (∀ key, l.owing = some key → key = (a.payment, a.number)) → l.Knows a a.outcome →
      a.isTerminal = false → outcome ≠ .pending →
      Move limit l (.attempt (.update (RetryController.finished a outcome now)))
  /-- A failed first charge is recorded. -/
  | first {id : Uuid} {payment : PaymentId} {account : AccountId} {amount : UInt64}
      {failure : PaymentFailure} {due : Instant} : l.Free →
      Move limit l (.attempt (.insert (.firstFailure id payment account amount failure due)))
  /-- The attempt after a failed one is recorded. -/
  | next {a : Attempt} {id : Uuid} {due now : Instant} {adjusted : Option UInt64} :
      l.Free → l.Knows a .failed → a.number < limit →
      Move limit l (.attempt (.insert (a.next id due adjusted now)))
  /-- The item of a pending attempt is created, because there is none. -/
  | schedule {a : Attempt} : l.Free → l.attempts.get? a.payment a.number = some a →
      a.outcome = .pending →
      (l.work.pendingForOwner retryQueue a.account.render).any (RetryController.isItemOf a) =
        false → Move limit l (.work (.enqueue (RetryController.itemOf a)))
  /-- A look at the account is scheduled. -/
  | recheck {owner reason : String} {due : Instant} : l.Free →
      Move limit l (.work (.enqueue (refreshItem owner due reason)))

section

variable {w : Surroundings} {limit : UInt32} {α : Type} {l : Ledger}

private theorem obeys_look {request : Request} {next : request.Answer → Program α}
    {post : α → Ledger → Prop} (hfree : l.Free) (hlook : request.IsLook)
    (hnext : ∀ answer l', w.Answers request l answer l' → l'.Free → l.Agrees l' →
      (next answer).Obeys w.Answers (Ledger.Move limit) post l') :
    Task.Obeys w.Answers (Ledger.Move limit) post (.ask request next) l := by
  refine ⟨.look hfree hlook, ?_⟩
  intro answer l' h
  exact hnext answer l' h (h.free_of_look hlook) (h.look hlook)

private theorem obeys_giveUp {post : α → Ledger → Prop} :
    (Program.giveUp : Program α).Obeys w.Answers (Ledger.Move limit) post l :=
  ⟨.giveUp, fun answer => nomatch answer⟩

private theorem stored_of_get {payment : PaymentId} {number : UInt32} {a : Attempt} {l' : Ledger}
    (h : w.Answers (.attempt (.get payment number)) l (.ok (some a)) l') (hagrees : l.Agrees l') :
    l'.attempts.get? a.payment a.number = some a := by
  have hget := h.get_ok
  obtain ⟨hpayment, hnumber⟩ := AttemptStore.key_of_get? hget
  rw [hagrees.attempts, hpayment, hnumber, hget]

theorem OverdueEngine.status_obeys (account : AccountId) (hfree : l.Free) :
    (status account).Obeys w.Answers (Ledger.Move limit) (fun _ l' => l'.Free ∧ l.Agrees l') l := by
  simp only [status, Program.getState, Program.activeSet, pendingLooks, Program.pendingForOwner,
    Task.bind_eq, Task.pure_eq, Task.bind_ask, Task.bind_done]
  refine obeys_look hfree trivial ?_
  intro record l₁ _ hfree₁ hagrees₁
  rcases record with e | record
  · exact ⟨hfree₁, hagrees₁⟩
  · refine obeys_look hfree₁ trivial ?_
    intro set l₂ _ hfree₂ hagrees₂
    refine obeys_look hfree₂ trivial ?_
    intro looks l₃ _ hfree₃ hagrees₃
    have hagrees := (hagrees₁.trans hagrees₂).trans hagrees₃
    rcases looks with e | looks
    · exact ⟨hfree₃, hagrees⟩
    · exact ⟨hfree₃, hagrees⟩

namespace RetryController

/-! ## Following up -/

theorem finish_obeys {a : Attempt} {outcome : AttemptOutcome} (now : Instant)
    (howing : l.Free ∨ l.owing = some (a.payment, a.number) ∧ a.outcome = .pending)
    (hknows : l.Knows a a.outcome) (hopen : a.isTerminal = false) (houtcome : outcome ≠ .pending) :
    (finish a outcome now).Obeys w.Answers (Ledger.Move limit)
      (fun result l' => l'.Free ∧ (result = .ok () → l'.Knows a outcome)) l := by
  unfold finish
  by_cases hsame : a.outcome = outcome
  · rw [if_pos hsame]
    refine ⟨?_, fun _ => hsame ▸ hknows⟩
    rcases howing with hfree | ⟨_, hpending⟩
    · exact hfree
    · exact absurd (hsame.symm.trans hpending) houtcome
  · rw [if_neg hsame]
    refine ⟨.settle ?_ hknows hopen houtcome, ?_⟩
    · intro key hkey
      rcases howing with hfree | ⟨howing, _⟩
      · exact absurd (hkey.symm.trans hfree) (by simp)
      · exact Option.some.inj (hkey.symm.trans howing)
    · intro answer l' h
      have hfree := h.free (by simp)
      obtain ⟨stored, hstored, -⟩ := hknows
      rcases answer with e | u
      · exact ⟨hfree, nofun⟩
      · refine ⟨hfree, fun _ => ⟨finished a outcome now, ?_, ?_, rfl⟩⟩
        · rw [h.update_ok.2]
          exact AttemptStore.get?_replace_self (a := finished a outcome now) hstored
        · exact ⟨rfl, rfl, rfl, rfl, rfl, rfl, rfl⟩

/-- Record an attempt, or find the one that is recorded under a payment and number. The wording of
failures is left open. -/
def insertOrFind {ε : Type} (candidate : Attempt) (payment : PaymentId) (number : UInt32)
    (refused : StoreError → ε) (vanished : ε) : Program (Except ε Attempt) := do
  match ← Program.insertAttempt candidate with
  | .ok () => pure (.ok candidate)
  | .error error =>
    if error.isConflict then
      match ← Program.getAttempt payment number with
      | .error cause => pure (.error (refused cause))
      | .ok (some stored) => pure (.ok stored)
      | .ok none => pure (.error vanished)
    else pure (.error (refused error))

theorem recordNext_eq (a b : Attempt) : recordNext a b =
    insertOrFind b a.payment b.number .store (.attemptNotFound a.payment b.number) := rfl

theorem recordFirst_eq (a : Attempt) : recordFirst a =
    insertOrFind a a.payment 1 (fun e => passing e.message)
      (passing ("attempt 1 of payment " ++ a.payment.render ++ " vanished")) := rfl

/-- Recording an attempt that may be recorded. What is handed on is stored. -/
theorem insertOrFind_obeys {ε : Type} {b : Attempt} (payment : PaymentId) (number : UInt32)
    (refused : StoreError → ε) (vanished : ε) (move : l.Move limit (.attempt (.insert b))) :
    (insertOrFind b payment number refused vanished).Obeys w.Answers (Ledger.Move limit)
      (fun result l' => l'.Free ∧ ∀ a, result = .ok a →
        l'.attempts.get? a.payment a.number = some a) l := by
  simp only [insertOrFind, Program.insertAttempt, Program.getAttempt, Task.bind_eq, Task.pure_eq,
    Task.bind_ask, Task.bind_done]
  refine ⟨move, ?_⟩
  intro answer l₁ h
  have hfree₁ := h.free (by simp)
  rcases answer with e | u
  · by_cases hconflict : e.isConflict = true
    · simp only [hconflict, if_true]
      refine obeys_look hfree₁ trivial ?_
      intro answer l₂ h₂ hfree₂ hagrees₂
      rcases answer with e | found
      · exact ⟨hfree₂, by simp⟩
      · rcases found with _ | a
        · exact ⟨hfree₂, by simp⟩
        · refine ⟨hfree₂, ?_⟩
          intro _ hresult
          obtain ⟨rfl⟩ := hresult
          exact stored_of_get h₂ hagrees₂
    · simp only [hconflict, if_false, Bool.false_eq_true]
      exact ⟨hfree₁, by simp⟩
  · obtain ⟨hnone, hadd⟩ := h.insert_ok
    refine ⟨hfree₁, ?_⟩
    intro a hresult
    obtain ⟨rfl⟩ := hresult
    rw [hadd]
    exact AttemptStore.get?_add_self hnone

theorem ensureItem_obeys {a : Attempt} (hfree : l.Free)
    (hstored : l.attempts.get? a.payment a.number = some a) (hpending : a.outcome = .pending) :
    (ensureItem a).Obeys w.Answers (Ledger.Move limit) (fun _ l' => l'.Free) l := by
  simp only [ensureItem, Program.pendingForOwner, Program.enqueue, Task.bind_eq, Task.pure_eq,
    Task.bind_ask, Task.bind_done]
  refine obeys_look hfree trivial ?_
  intro answer l₁ h₁ hfree₁ hagrees₁
  rcases answer with e | items
  · exact hfree₁
  · obtain rfl := h₁.pendingForOwner_ok
    by_cases hitem : (l.work.pendingForOwner retryQueue a.account.render).any (isItemOf a) = true
    · simp only [hitem, if_true]
      exact hfree₁
    · simp only [hitem, if_false, Bool.false_eq_true]
      refine ⟨.schedule hfree₁ (hagrees₁.attempts ▸ hstored) hpending ?_, ?_⟩
      · rw [hagrees₁.work]
        exact Bool.not_eq_true _ ▸ hitem
      · intro answer l₂ h₂
        rcases answer with e | id
        · exact h₂.free (by simp)
        · exact h₂.free (by simp)

theorem schedule_obeys {a : Attempt} (due : Instant) (adjusted : Option UInt64) (now : Instant)
    (hfree : l.Free) (hknows : l.Knows a .failed) (hnumber : a.number < limit) :
    (schedule a due adjusted now).Obeys w.Answers (Ledger.Move limit) (fun _ l' => l'.Free) l := by
  simp only [schedule, Program.freshId, Task.bind_eq, Task.pure_eq, Task.bind_ask, Task.bind_done]
  refine obeys_look hfree trivial ?_
  intro id l₁ _ hfree₁ hagrees₁
  have move : l₁.Move limit (.attempt (.insert (a.next id due adjusted now))) :=
    .next hfree₁ (hknows.agrees hagrees₁) hnumber
  rw [Task.obeys_bind, recordNext_eq]
  refine (insertOrFind_obeys _ _ _ _ move).imp ?_
  intro result l₂ hpost
  obtain ⟨hfree₂, hstored⟩ := hpost
  rcases result with e | b
  · exact hfree₂
  · by_cases hpending : b.outcome = .pending
    · simp only [hpending, if_true]
      exact ensureItem_obeys hfree₂ (hstored b rfl) hpending
    · simp only [hpending, if_false]
      exact hfree₂

/-- The outcome that a decision leaves a failed attempt with. -/
def verdict (c : RetryController) (number : UInt32) :
    RetryDecision → AttemptOutcome
  | .abort _ => if c.maxAttempts ≤ number then .failed else .aborted
  | .retryAt .. => .failed

/-- A decision leaves no attempt pending. -/
theorem verdict_ne_pending (c : RetryController) (number : UInt32) (decision : RetryDecision) :
    c.verdict number decision ≠ .pending := by
  cases decision with
  | retryAt => exact AttemptOutcome.noConfusion
  | abort reason =>
      show (if c.maxAttempts ≤ number then AttemptOutcome.failed else .aborted) ≠ .pending
      by_cases hceiling : c.maxAttempts ≤ number
      · rw [if_pos hceiling]
        exact AttemptOutcome.noConfusion
      · rw [if_neg hceiling]
        exact AttemptOutcome.noConfusion

/-- What is done after the outcome of a failed attempt is recorded. -/
def goOn (c : RetryController) (a : Attempt) (decision : RetryDecision) (now : Instant) :
    Program (Except RetryError RetryDirective) :=
  if c.maxAttempts ≤ a.number then pure (.ok (.exhausted a.number))
  else
    match decision with
    | .abort reason => pure (.ok (.aborted reason))
    | .retryAt due adjusted => schedule a due adjusted now

/-- A decision gives the attempt its outcome, and what follows does not depend on how. -/
theorem applyDecision_eq (c : RetryController) (a : Attempt) (decision : RetryDecision)
    (now : Instant) : c.applyDecision a decision now =
      (finish a (c.verdict a.number decision) now).bind fun
        | .ok () => c.goOn a decision now
        | .error error => .done (.error error) := by
  unfold applyDecision
  by_cases hceiling : c.maxAttempts ≤ a.number
  · have hverdict : c.verdict a.number decision = .failed := by
      cases decision with
      | abort => exact if_pos hceiling
      | retryAt => rfl
    have hgoOn : c.goOn a decision now = pure (.ok (.exhausted a.number)) := if_pos hceiling
    rw [if_pos hceiling, hverdict, hgoOn]
    show (finish a .failed now).bind _ = (finish a .failed now).bind _
    refine congrArg (Task.bind _) (funext ?_)
    intro result
    rcases result with e | u <;> rfl
  · rw [if_neg hceiling]
    cases decision with
    | abort reason =>
        have hverdict : c.verdict a.number (.abort reason) = .aborted := if_neg hceiling
        have hgoOn : c.goOn a (.abort reason) now = pure (.ok (.aborted reason)) :=
          if_neg hceiling
        rw [hverdict, hgoOn]
        show (finish a .aborted now).bind _ = (finish a .aborted now).bind _
        refine congrArg (Task.bind _) (funext ?_)
        intro result
        rcases result with e | u <;> rfl
    | retryAt due adjusted =>
        have hgoOn : c.goOn a (.retryAt due adjusted) now = schedule a due adjusted now :=
          if_neg hceiling
        rw [hgoOn]
        show (finish a .failed now).bind _ = (finish a .failed now).bind _
        refine congrArg (Task.bind _) (funext ?_)
        intro result
        rcases result with e | u <;> rfl

theorem goOn_obeys {c : RetryController} {a : Attempt} (decision : RetryDecision) (now : Instant)
    (hlimit : c.maxAttempts ≤ limit) (hfree : l.Free)
    (hknows : l.Knows a (c.verdict a.number decision)) :
    (c.goOn a decision now).Obeys w.Answers (Ledger.Move limit) (fun _ l' => l'.Free) l := by
  unfold goOn
  by_cases hceiling : c.maxAttempts ≤ a.number
  · rw [if_pos hceiling]
    exact hfree
  · rw [if_neg hceiling]
    cases decision with
    | abort => exact hfree
    | retryAt due adjusted =>
        have hnumber : a.number < limit := by
          rw [UInt32.lt_iff_toNat_lt]
          rw [UInt32.le_iff_toNat_le] at hceiling hlimit
          omega
        exact schedule_obeys due adjusted now hfree hknows hnumber

theorem applyDecision_obeys {c : RetryController} {a : Attempt} (decision : RetryDecision)
    (now : Instant) (hlimit : c.maxAttempts ≤ limit)
    (howing : l.Free ∨ l.owing = some (a.payment, a.number) ∧ a.outcome = .pending)
    (hknows : l.Knows a a.outcome) (hopen : a.isTerminal = false) :
    (c.applyDecision a decision now).Obeys w.Answers (Ledger.Move limit)
      (fun _ l' => l'.Free) l := by
  rw [applyDecision_eq, Task.obeys_bind]
  have houtcome := c.verdict_ne_pending a.number decision
  refine (finish_obeys now howing hknows hopen houtcome).imp ?_
  intro result l' hpost
  obtain ⟨hfree, hrecorded⟩ := hpost
  rcases result with e | u
  · exact hfree
  · exact goOn_obeys decision now hlimit hfree (hrecorded rfl)

theorem followUp_obeys {c : RetryController} {a : Attempt} (failedAt : Instant)
    (hlimit : c.maxAttempts ≤ limit)
    (howing : l.Free ∨ l.owing = some (a.payment, a.number) ∧ a.outcome = .pending)
    (hknows : l.Knows a a.outcome) (hopen : a.isTerminal = false) :
    (c.followUp a failedAt).Obeys w.Answers (Ledger.Move limit) (fun _ l' => l'.Free) l := by
  unfold followUp
  cases c.policy.decide (failedAttempt a failedAt) with
  | none => exact obeys_giveUp
  | some decision => exact applyDecision_obeys decision failedAt hlimit howing hknows hopen

theorem abort_obeys {a : Attempt} (reason : String) (now : Instant) (hfree : l.Free)
    (hknows : l.Knows a a.outcome) (hopen : a.isTerminal = false) :
    (abort a reason now).Obeys w.Answers (Ledger.Move limit) (fun _ l' => l'.Free) l := by
  have haborted : AttemptOutcome.aborted ≠ .pending := by decide
  unfold abort
  rw [Task.obeys_bind]
  refine (finish_obeys now (.inl hfree) hknows hopen haborted).imp ?_
  intro result l' hpost
  obtain ⟨hfree, -⟩ := hpost
  rcases result with e | u
  · exact hfree
  · exact hfree

/-! ## Restrictions -/

theorem restriction_obeys (account : AccountId) (context : HandlerContext) (hfree : l.Free) :
    (restriction account context).Obeys w.Answers (Ledger.Move limit)
      (fun _ l' => l'.Free ∧ l.Agrees l') l := by
  unfold restriction
  by_cases hclosed : context.ownerCancelled = true
  · rw [if_pos hclosed]
    exact ⟨hfree, .refl l⟩
  · rw [if_neg hclosed, Task.obeys_bind]
    refine (OverdueEngine.status_obeys account hfree).imp ?_
    intro result l' hlooked
    rcases result with e | status
    · exact hlooked
    · exact hlooked

theorem giveUpAttempt_obeys {a : Attempt} (reason : String) (now : Instant) (hfree : l.Free)
    (hknows : l.Knows a a.outcome) (hopen : a.isTerminal = false) :
    (giveUpAttempt a reason now).Obeys w.Answers (Ledger.Move limit) (fun _ l' => l'.Free) l := by
  unfold giveUpAttempt
  rw [Task.obeys_bind]
  refine (abort_obeys reason now hfree hknows hopen).imp ?_
  intro result l' hfree
  rcases result with e | directive
  · exact hfree
  · exact hfree

theorem unlessRestricted_obeys {a : Attempt} {account : AccountId} {context : HandlerContext}
    {goOn : DeliveryProgram} (hfree : l.Free) (hknows : l.Knows a a.outcome)
    (hopen : a.isTerminal = false) (hgoOn : ∀ l', l'.Free → l.Agrees l' →
      goOn.Obeys w.Answers (Ledger.Move limit) (fun _ l' => l'.Free) l') :
    (unlessRestricted a account context goOn).Obeys w.Answers (Ledger.Move limit)
      (fun _ l' => l'.Free) l := by
  unfold unlessRestricted
  rw [Task.obeys_bind]
  refine (restriction_obeys account context hfree).imp ?_
  intro result l' hpost
  obtain ⟨hfree', hagrees⟩ := hpost
  rcases result with fault | _ | reason
  · exact hfree'
  · exact hgoOn l' hfree' hagrees
  · exact giveUpAttempt_obeys reason context.now hfree' (hknows.agrees hagrees) hopen

/-! ## Deliveries -/

theorem resume_obeys {c : RetryController} {a : Attempt} (hlimit : c.maxAttempts ≤ limit)
    (hfree : l.Free) (hknows : l.Knows a a.outcome) (hopen : a.isTerminal = false) :
    (c.resume a).Obeys w.Answers (Ledger.Move limit) (fun _ l' => l'.Free) l := by
  simp only [resume, resumeFailed, Task.pure_eq]
  rw [Task.obeys_bind]
  exact (followUp_obeys a.updatedAt hlimit (.inl hfree) hknows hopen).imp fun _ _ hfree => hfree

theorem firstFailure_obeys {c : RetryController} (payment : PaymentId) (account : AccountId)
    (amount : UInt64) (failure : PaymentFailure) (failedAt : Instant) (context : HandlerContext)
    (hlimit : c.maxAttempts ≤ limit) (hfree : l.Free) :
    (c.firstFailure payment account amount failure failedAt context).Obeys w.Answers
      (Ledger.Move limit) (fun _ l' => l'.Free) l := by
  simp only [firstFailure, Program.freshId, Task.bind_eq, Task.pure_eq, Task.bind_ask,
    Task.bind_done]
  refine obeys_look hfree trivial ?_
  intro id l₁ _ hfree₁ _
  rw [Task.obeys_bind]
  rw [recordFirst_eq]
  refine (insertOrFind_obeys _ _ _ _ (.first hfree₁)).imp ?_
  intro result l₂ hpost
  obtain ⟨hfree₂, hstored⟩ := hpost
  rcases result with fault | a
  · exact hfree₂
  · have hknows := Ledger.Knows.of_get? (hstored a rfl)
    by_cases hterminal : a.isTerminal = true
    · simp only [hterminal, if_true]
      exact hfree₂
    · simp only [hterminal, if_false, Bool.false_eq_true]
      have hopen : a.isTerminal = false := by simpa using hterminal
      refine unlessRestricted_obeys hfree₂ hknows hopen ?_
      intro l₃ hfree₃ hagrees
      exact resume_obeys hlimit hfree₃ (hknows.agrees hagrees) hopen

theorem collect_obeys {a : Attempt} (now : Instant)
    (howing : l.owing = some (a.payment, a.number)) (hknows : l.Knows a a.outcome)
    (hpending : a.outcome = .pending) :
    (collect a now).Obeys w.Answers (Ledger.Move limit) (fun _ l' => l'.Free) l := by
  simp only [collect, recordSuccess, Program.enqueue, Task.bind_eq, Task.pure_eq]
  have hopen : a.isTerminal = false := Attempt.isTerminal_of_outcome hpending
  rw [Task.obeys_bind]
  refine (finish_obeys now (.inr ⟨howing, hpending⟩) hknows hopen (by decide)).imp ?_
  intro result l₁ hpost
  obtain ⟨hfree₁, -⟩ := hpost
  rcases result with e | u
  · exact hfree₁
  · refine ⟨.recheck hfree₁, ?_⟩
    intro answer l₂ h
    exact h.free (by simp)

theorem charge_obeys {c : RetryController} {a : Attempt} {payment : PaymentId} {number : UInt32}
    (now : Instant) (hlimit : c.maxAttempts ≤ limit) (hfree : l.Free)
    (hstored : l.attempts.get? payment number = some a) (hpending : a.outcome = .pending) :
    (c.charge a payment number now).Obeys w.Answers (Ledger.Move limit) (fun _ l' => l'.Free) l := by
  simp only [charge, Program.charge, Task.bind_eq, Task.pure_eq, Task.bind_ask, Task.bind_done]
  refine ⟨.charge hfree hstored hpending, ?_⟩
  intro answer l₁ h
  have hpast := h.past
  have hknows : l₁.Knows a a.outcome :=
    (Ledger.Knows.of_get? hstored).agrees ⟨h.attempts_eq (by simp), h.work_eq (by simp)⟩
  obtain ⟨rfl, rfl⟩ := AttemptStore.key_of_get? hstored
  rcases answer with e | result
  · show l₁.Free
    rw [Ledger.Free, Ledger.owing, hpast]
    rfl
  · have howing : l₁.owing = some (a.payment, a.number) := by
      rw [Ledger.owing, hpast]
      rfl
    cases result with
    | succeeded => exact collect_obeys now howing hknows hpending
    | failed failure =>
        rw [Task.obeys_bind]
        let failed : Attempt := { a with failure := some failure }
        have hknows' : l₁.Knows failed failed.outcome := by
          obtain ⟨stored, hget, halike, houtcome⟩ := hknows
          exact ⟨stored, hget, ⟨halike.id, halike.payment, halike.account, halike.number,
            halike.scheduledFor, halike.amount, halike.adjusted⟩, houtcome⟩
        have hopen : failed.isTerminal = false := Attempt.isTerminal_of_outcome hpending
        exact (followUp_obeys (a := failed) now hlimit (.inr ⟨howing, hpending⟩) hknows' hopen).imp
          fun _ _ hfree => hfree

theorem scheduledAttempt_obeys {c : RetryController} (payment : PaymentId) (number : UInt32)
    (context : HandlerContext) (hlimit : c.maxAttempts ≤ limit) (hfree : l.Free) :
    (c.scheduledAttempt payment number context).Obeys w.Answers (Ledger.Move limit)
      (fun _ l' => l'.Free) l := by
  simp only [scheduledAttempt, Program.getAttempt, Task.bind_eq, Task.pure_eq, Task.bind_ask,
    Task.bind_done]
  refine obeys_look hfree trivial ?_
  intro answer l₁ h hfree₁ hagrees₁
  rcases answer with e | _ | a
  · exact hfree₁
  · exact hfree₁
  · have hget : l₁.attempts.get? payment number = some a := hagrees₁.attempts ▸ h.get_ok
    have hknows := Ledger.Knows.of_get? hget
    cases houtcome : a.outcome with
    | pending =>
        have hopen : a.isTerminal = false := Attempt.isTerminal_of_outcome houtcome
        simp only [houtcome]
        refine unlessRestricted_obeys hfree₁ hknows hopen ?_
        intro l₂ hfree₂ hagrees₂
        exact charge_obeys context.now hlimit hfree₂ (hagrees₂.attempts ▸ hget) houtcome
    | failed =>
        have hopen : a.isTerminal = false := Attempt.isTerminal_of_outcome houtcome
        simp only [houtcome]
        exact resume_obeys hlimit hfree₁ hknows hopen
    | aborted =>
        simp only [houtcome]
        exact hfree₁
    | success =>
        simp only [houtcome]
        exact hfree₁

theorem deliver_obeys {c : RetryController} (item : Item) (context : HandlerContext)
    (hlimit : c.maxAttempts ≤ limit) (hfree : l.Free) :
    (c.deliver item context).Obeys w.Answers (Ledger.Move limit) (fun _ l' => l'.Free) l := by
  unfold deliver
  rcases RetryPayload.decode? item.payload.toNode with
    _ | ⟨payment, account, amount, failure, failedAt⟩ | ⟨payment, account, number, amount⟩
  · exact hfree
  · exact firstFailure_obeys payment account amount failure failedAt context hlimit hfree
  · exact scheduledAttempt_obeys payment number context hlimit hfree

/-- **Every delivery keeps to the moves**, whatever it finds and whatever fails. -/
theorem handleRetry_obeys {c : RetryController} (item : Item) (context : HandlerContext)
    (hlimit : c.maxAttempts ≤ limit) (hfree : l.Free) :
    (c.handleRetry item context).Obeys w.Answers (Ledger.Move limit) (fun _ l' => l'.Free) l := by
  unfold handleRetry
  rw [Task.obeys_bind]
  exact (deliver_obeys item context hlimit hfree).imp fun _ _ hfree => hfree

end RetryController

end

/-! ## What the moves make of the attempts -/

/-- What a move can make of the stored attempts. -/
inductive Ledger.Change (limit : UInt32) (l : Ledger) : AttemptStore → Prop where
  | none : Change limit l l.attempts
  | settled {a : Attempt} {outcome : AttemptOutcome} {now : Instant} : l.Knows a a.outcome →
      a.isTerminal = false → outcome ≠ .pending →
      Change limit l (l.attempts.replace (RetryController.finished a outcome now))
  | first {a : Attempt} : l.attempts.get? a.payment a.number = .none → a.number = 1 →
      a.outcome = .failed → Change limit l (l.attempts.add a)
  | next {a : Attempt} {id : Uuid} {due now : Instant} {adjusted : Option UInt64} :
      l.Knows a .failed → a.number < limit →
      l.attempts.get? a.payment (a.number + 1) = .none →
      Change limit l (l.attempts.add (a.next id due adjusted now))

section

variable {w : Surroundings} {limit : UInt32} {l l' : Ledger} {request : Request}
  {answer : request.Answer}

/-- Every move changes the attempts in one of four ways. -/
theorem Ledger.Move.change (move : l.Move limit request) (h : w.Answers request l answer l') :
    l.Change limit l'.attempts := by
  cases move with
  | look hfree hlook =>
      rw [(h.look hlook).attempts]
      exact .none
  | giveUp => exact nomatch answer
  | charge =>
      rw [h.attempts_eq (by simp)]
      exact .none
  | settle howing hknows hopen houtcome =>
      rcases answer with e | u
      · rw [h.update_error]
        exact .none
      · rw [h.update_ok.2]
        exact .settled hknows hopen houtcome
  | first hfree =>
      rcases answer with e | u
      · rw [h.insert_error]
        exact .none
      · rw [h.insert_ok.2]
        exact .first h.insert_ok.1 rfl rfl
  | next hfree hknows hnumber =>
      rcases answer with e | u
      · rw [h.insert_error]
        exact .none
      · rw [h.insert_ok.2]
        exact .next hknows hnumber h.insert_ok.1
  | schedule =>
      rw [h.attempts_eq (by simp)]
      exact .none
  | recheck =>
      rw [h.attempts_eq (by simp)]
      exact .none

/-- Whatever is done, an attempt stays, and it stays settled. -/
theorem Ledger.Change.exists_of_get? {attempts : AttemptStore} (change : l.Change limit attempts)
    {payment : PaymentId} {number : UInt32} {a : Attempt}
    (h : l.attempts.get? payment number = some a) :
    ∃ b, attempts.get? payment number = some b ∧ a.Alike b ∧
      (b.outcome = .pending → a.outcome = .pending) := by
  cases change with
  | none => exact ⟨a, h, .refl a, id⟩
  | settled hknows hopen houtcome =>
      rename_i b outcome now
      by_cases hkey : payment = b.payment ∧ number = b.number
      · obtain ⟨rfl, rfl⟩ := hkey
        obtain ⟨stored, hstored, halike, -⟩ := hknows
        obtain rfl : stored = a := Option.some.inj (hstored.symm.trans h)
        refine ⟨RetryController.finished b outcome now,
          AttemptStore.get?_replace_self (a := RetryController.finished b outcome now) hstored, ?_,
          fun hpending => absurd hpending houtcome⟩
        have hsymm := halike.symm
        exact ⟨hsymm.id, hsymm.payment, hsymm.account, hsymm.number, hsymm.scheduledFor,
          hsymm.amount, hsymm.adjusted⟩
      · refine ⟨a, ?_, .refl a, id⟩
        rw [AttemptStore.get?_replace_of_ne (a := RetryController.finished b outcome now) _ hkey, h]
  | first => exact ⟨a, AttemptStore.get?_add_of_some h _, .refl a, id⟩
  | next => exact ⟨a, AttemptStore.get?_add_of_some h _, .refl a, id⟩

end

end Dunning
