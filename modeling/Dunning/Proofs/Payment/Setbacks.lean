import Dunning.Proofs.Payment.Chains

/-!
# Storage trouble and the end of an item

A handler says of each of its failures whether it passes with time. A delivery reads and writes at
many points, each of which may fail, and all but one of the failures are said to pass. The exception
is a next attempt that lost a race which nobody won: the store refuses it as a conflict, as it does
when a transaction is broken off, and the look-up that follows finds no attempt in its place. That
is said to be for good, and the item is given up with its budget unused.

## Main definitions

* `Surroundings.LostRace` — the last two calls were a refused attempt and a look-up in vain.
* `Surroundings.Passes` — a program fails for good only after a lost race.

## Main results

* `RetryController.permanent_only_after_lost_race` — every other failure of a delivery passes.
* `RetryController.lost_race_is_permanent` — that one does not.
-/

namespace Dunning

/-- Whether an attempt that the payload names is stored. -/
def RetryPayload.HasAttempt (l : Ledger) : RetryPayload → Prop
  | .initialFailure .. => True
  | .scheduledRetry payment _ number _ => ∃ a, l.attempts.get? payment number = some a

namespace Surroundings

/-- Whether the last two calls were an attempt that the store refused as a conflict without having
one in its place, and the look-up that found none. -/
def LostRace (w : Surroundings) (l : Ledger) (reason : String) : Prop :=
  ∃ (a : Attempt) (e : StoreError) (earlier : List LedgerEvent),
    l.past = .answered (.attempt (.get a.payment a.number)) (.ok none) ::
      .answered (.attempt (.insert a)) (.error e) :: earlier ∧
    w.fails (.attempt (.insert a)) e ∧ e.isConflict = true ∧
    l.attempts.get? a.payment a.number = none ∧
    reason = (RetryError.attemptNotFound a.payment a.number).message

/-- Whether a failure passes with time or comes of a lost race. -/
def Excused (w : Surroundings) (l : Ledger) (e : HandlerError) : Prop :=
  ∀ reason, e = .permanent reason → w.LostRace l reason

/-- Whether a program fails for good only after a lost race. -/
abbrev Passes {ε α : Type} (w : Surroundings) (reading : ε → HandlerError) (l : Ledger)
    (t : Program (Except ε α)) : Prop :=
  t.Obeys w.Answers (fun _ _ => True)
    (fun result l' => ∀ e, result = .error e → w.Excused l' (reading e)) l

section

variable {w : Surroundings} {ε ε' α β : Type} {reading : ε → HandlerError} {l : Ledger}

theorem excused_transient (reason : String) : w.Excused l (.transient reason) := nofun

theorem passes_ok (value : α) : w.Passes reading l (.done (.ok value)) := nofun

theorem passes_error {e : ε} (h : w.Excused l (reading e)) :
    w.Passes reading l (.done (.error e) : Program (Except ε α)) := by
  intro other hother
  obtain rfl := Except.error.inj hother
  exact h

theorem passes_ask {request : Request} {next : request.Answer → Program (Except ε α)}
    (h : ∀ answer l', w.Answers request l answer l' → w.Passes reading l' (next answer)) :
    w.Passes reading l (.ask request next) := ⟨trivial, h⟩

theorem passes_bind {reading' : ε' → HandlerError} {t : Program (Except ε' β)}
    {f : Except ε' β → Program (Except ε α)} (h : w.Passes reading' l t)
    (hok : ∀ value l', w.Passes reading l' (f (.ok value)))
    (herror : ∀ e l', w.Excused l' (reading' e) → w.Passes reading l' (f (.error e))) :
    w.Passes reading l (t.bind f) := by
  refine Task.obeys_bind.mpr (h.imp ?_)
  intro result l' hresult
  cases result with
  | error e => exact herror e l' (hresult e rfl)
  | ok value => exact hok value l'

/-- An attempt that is refused as a conflict and then not found has lost a race that nobody won: had
there been another attempt in its place, the look-up would have found that. -/
theorem lostRace_of_none {a : Attempt} {e : StoreError} {l₁ l₂ : Ledger}
    (hinsert : w.Answers (.attempt (.insert a)) l (.error e) l₁) (hconflict : e.isConflict = true)
    (hget : w.Answers (.attempt (.get a.payment a.number)) l₁ (.ok none) l₂) :
    w.LostRace l₂ (RetryError.attemptNotFound a.payment a.number).message := by
  have hnone := hget.get_ok
  refine ⟨a, e, l.past, ?_, ?_, hconflict, ?_, rfl⟩
  · rw [hget.past, hinsert.past]
  · rcases hinsert.insert with
      ⟨-, hanswer, -⟩ | ⟨stored, _, hstored, -, -, -⟩ | ⟨_, hfails, hanswer, -⟩
    · cases hanswer
    · rw [hinsert.insert_error, hstored] at hnone
      cases hnone
    · obtain rfl := Except.error.inj hanswer
      exact hfails
  · rw [(hget.look trivial).attempts]
    exact hnone

end

/-- Surroundings whose stores may be out of reach or break a transaction off. -/
def contended : Surroundings where
  fails _ e := e.isTransient = true
  gives _ _ := True

end Surroundings

namespace RetryController

variable {w : Surroundings} {l : Ledger} {a : Attempt}

open Surroundings (passes_ok passes_error passes_ask passes_bind excused_transient)

/-- What the handler says of a failed follow-up. -/
abbrev readCause (cause : RetryError) : HandlerError := cause.toHandlerError

/-- What the handler says of a failed delivery. -/
abbrev readFault (fault : DeliveryFault) : HandlerError := fault.toHandlerError

/-! ## Following up -/

theorem finish_passes (outcome : AttemptOutcome) (now : Instant) :
    w.Passes readCause l (finish a outcome now) := by
  unfold finish
  by_cases hsame : a.outcome = outcome
  · rw [if_pos hsame]
    exact passes_ok _
  · rw [if_neg hsame]
    refine passes_ask fun answer l' _ => ?_
    cases answer with
    | error e => exact passes_error (excused_transient _)
    | ok u => exact passes_ok _

/-- The next attempt is recorded or found, or its race is lost. -/
theorem recordNext_passes (id : Uuid) (due : Instant) (adjusted : Option UInt64) (now : Instant) :
    w.Passes readCause l (recordNext a (a.next id due adjusted now)) := by
  refine passes_ask fun answer l₁ h₁ => ?_
  cases answer with
  | ok u => exact passes_ok _
  | error e =>
      simp only [Task.bind_done]
      by_cases hconflict : e.isConflict = true
      · rw [if_pos hconflict]
        refine passes_ask fun answer l₂ h₂ => ?_
        rcases answer with cause | _ | stored
        · exact passes_error (excused_transient _)
        · refine passes_error ?_
          intro reason hreason
          obtain rfl := HandlerError.permanent.inj hreason
          exact Surroundings.lostRace_of_none h₁ hconflict h₂
        · exact passes_ok _
      · rw [if_neg hconflict]
        exact passes_error (excused_transient _)

theorem ensureItem_passes : w.Passes readCause l (ensureItem a) := by
  refine passes_ask fun answer l₁ _ => ?_
  cases answer with
  | error e => exact passes_error (excused_transient _)
  | ok items =>
      simp only [Task.bind_done]
      by_cases hitem : items.any (isItemOf a) = true
      · rw [if_pos hitem]
        exact passes_ok _
      · rw [if_neg hitem]
        refine passes_ask fun answer l₂ _ => ?_
        cases answer with
        | error e => exact passes_error (excused_transient _)
        | ok id => exact passes_ok _

theorem schedule_passes (due : Instant) (adjusted : Option UInt64) (now : Instant) :
    w.Passes readCause l (schedule a due adjusted now) := by
  refine passes_ask fun id l₁ _ => ?_
  refine passes_bind (recordNext_passes id due adjusted now) ?_ ?_
  · intro next l₂
    by_cases hpending : next.outcome = .pending
    · simp only [hpending, if_true]
      exact ensureItem_passes
    · simp only [hpending, if_false]
      exact passes_ok _
  · exact fun e l₂ h => passes_error h

theorem followUp_passes (c : RetryController) (failedAt : Instant) :
    w.Passes readCause l (c.followUp a failedAt) := by
  unfold followUp
  cases c.policy.decide (failedAttempt a failedAt) with
  | none => exact passes_ask fun answer => nomatch answer
  | some decision =>
      simp only [applyDecision_eq]
      refine passes_bind (finish_passes _ failedAt) ?_ ?_
      · intro u l₁
        simp only [goOn]
        by_cases hceiling : c.maxAttempts ≤ a.number
        · rw [if_pos hceiling]
          exact passes_ok _
        · rw [if_neg hceiling]
          cases decision with
          | abort reason => exact passes_ok _
          | retryAt due adjusted => exact schedule_passes due adjusted failedAt
      · exact fun e l₁ h => passes_error h

/-! ## Deliveries -/

theorem resume_passes (c : RetryController) : w.Passes readFault l (c.resume a) :=
  passes_bind (c.followUp_passes a.updatedAt) (fun _ _ => passes_ok _) fun _ _ h => passes_error h

theorem giveUpAttempt_passes (reason : String) (now : Instant) :
    w.Passes readFault l (giveUpAttempt a reason now) := by
  have habort : w.Passes readCause l (abort a reason now) :=
    passes_bind (finish_passes _ now) (fun _ _ => passes_ok _) fun _ _ h => passes_error h
  exact passes_bind habort (fun _ _ => passes_ok _) fun _ _ h => passes_error h

theorem restriction_passes (account : AccountId) (context : HandlerContext) :
    w.Passes readFault l (restriction account context) := by
  unfold restriction
  by_cases hclosed : context.ownerCancelled = true
  · rw [if_pos hclosed]
    exact passes_ok _
  · rw [if_neg hclosed]
    refine passes_ask fun record l₁ _ => ?_
    cases record with
    | error e => exact passes_error (excused_transient _)
    | ok record =>
        refine passes_ask fun set l₂ _ => passes_ask fun looks l₃ _ => ?_
        cases looks with
        | error e => exact passes_error (excused_transient _)
        | ok looks => exact passes_ok _

theorem unlessRestricted_passes {account : AccountId} {context : HandlerContext}
    {goOn : DeliveryProgram} (hgoOn : ∀ l', w.Passes readFault l' goOn) :
    w.Passes readFault l (unlessRestricted a account context goOn) := by
  refine passes_bind (restriction_passes account context) ?_ fun _ _ h => passes_error h
  intro reason l'
  cases reason with
  | none => exact hgoOn l'
  | some reason => exact giveUpAttempt_passes reason context.now

theorem recordFirst_passes : w.Passes readFault l (recordFirst a) := by
  refine passes_ask fun answer l₁ _ => ?_
  cases answer with
  | ok u => exact passes_ok _
  | error e =>
      simp only [Task.bind_done]
      by_cases hconflict : e.isConflict = true
      · rw [if_pos hconflict]
        refine passes_ask fun answer l₂ _ => ?_
        rcases answer with cause | _ | stored
        · exact passes_error (excused_transient _)
        · exact passes_error (excused_transient _)
        · exact passes_ok _
      · rw [if_neg hconflict]
        exact passes_error (excused_transient _)

theorem firstFailure_passes (c : RetryController) (payment : PaymentId) (account : AccountId)
    (amount : UInt64) (failure : PaymentFailure) (failedAt : Instant) (context : HandlerContext) :
    w.Passes readFault l
      (c.firstFailure payment account amount failure failedAt context) := by
  refine passes_ask fun id l₁ _ => ?_
  refine passes_bind recordFirst_passes ?_ fun _ _ h => passes_error h
  intro a l₂
  simp only
  by_cases hterminal : a.isTerminal = true
  · rw [if_pos hterminal]
    exact passes_ok _
  · rw [if_neg hterminal]
    exact unlessRestricted_passes fun _ => c.resume_passes

theorem collect_passes (now : Instant) : w.Passes readFault l (collect a now) := by
  refine passes_bind (finish_passes _ now) ?_ fun _ _ h => passes_error h
  exact fun _ _ => passes_ask fun look _ _ => passes_ok _

theorem charge_passes (c : RetryController) (payment : PaymentId) (number : UInt32)
    (now : Instant) : w.Passes readFault l (c.charge a payment number now) := by
  simp only [charge, Program.charge, Task.bind_eq, Task.pure_eq, Task.bind_ask, Task.bind_done]
  refine passes_ask fun answer l₁ _ => ?_
  rcases answer with e | _ | failure
  · exact passes_error (excused_transient _)
  · exact collect_passes now
  · have hfollowed : w.Passes readCause l₁
        (c.handleFailure { a with failure := some failure } now) := c.followUp_passes now
    exact passes_bind hfollowed (fun _ _ => passes_ok _) fun _ _ h => passes_error h

/-- The attempt of an item is stored, so it is found unless the look-up fails. -/
theorem scheduledAttempt_passes (c : RetryController) {payment : PaymentId} {number : UInt32}
    (context : HandlerContext) (hstored : l.attempts.get? payment number = some a) :
    w.Passes readFault l (c.scheduledAttempt payment number context) := by
  refine passes_ask fun answer l₁ h => ?_
  rcases answer with e | _ | found
  · exact passes_error (excused_transient _)
  · rw [h.get_ok] at hstored
    cases hstored
  · simp only [Task.bind_done]
    cases found.outcome with
    | pending => exact unlessRestricted_passes fun _ => c.charge_passes payment number context.now
    | failed => exact c.resume_passes
    | aborted => exact passes_ok _
    | success => exact passes_ok _

/-- A delivery of a well-formed item fails for good only after a lost race. -/
theorem handleRetry_passes (c : RetryController) {item : Item} (context : HandlerContext)
    {payload : RetryPayload} (hpayload : RetryPayload.decode? item.payload.toNode = some payload)
    (hstored : payload.HasAttempt l) : w.Passes id l (c.handleRetry item context) := by
  have hdeliver : w.Passes readFault l (c.deliver item context) := by
    rw [deliver, hpayload]
    cases payload with
    | initialFailure payment account amount failure failedAt =>
        exact c.firstFailure_passes payment account amount failure failedAt context
    | scheduledRetry payment account number amount =>
        obtain ⟨a, hget⟩ := hstored
        exact c.scheduledAttempt_passes context hget
  exact passes_bind hdeliver (fun _ _ => passes_ok _) fun _ _ h => passes_error h

/-- **Storage trouble passes, unless a race is lost that nobody won.** A well-formed item is
delivered, its attempt being stored if it names one, while any call to the stores may fail without
effect. If the handler then says that the failure is for good, the last two calls were a next
attempt that the store refused as a conflict although none was in its place, and the look-up that
found none. While attempts are refused as conflicts only when there is one in their place, no
failure is for good. -/
theorem permanent_only_after_lost_race {w : Surroundings} {c : RetryController} {item : Item}
    {context : HandlerContext} {payload : RetryPayload} {l l' : Ledger}
    {result : Except HandlerError HandlerOutcome}
    (hpayload : RetryPayload.decode? item.payload.toNode = some payload)
    (hstored : payload.HasAttempt l)
    (run : (c.handleRetry item context).Runs w.Answers l result l') :
    (∀ reason, result = .error (.permanent reason) → w.LostRace l' reason) ∧
      ((∀ a e, w.fails (.attempt (.insert a)) e → e.isConflict = false) →
        ∀ reason, result ≠ .error (.permanent reason)) := by
  have hlost (reason : String) (h : result = .error (.permanent reason)) : w.LostRace l' reason :=
    (c.handleRetry_passes context hpayload hstored).of_runs run _ h reason rfl
  refine ⟨hlost, ?_⟩
  intro hfair reason h
  obtain ⟨a, e, -, -, hfails, hconflict, -, -⟩ := hlost reason h
  rw [hfair a e hfails] at hconflict
  cases hconflict

/-! ### A second attempt that loses its race -/

/-- The refusal of a transaction that was broken off. -/
def brokenOff : StoreError := ⟨.conflict, "could not serialize access"⟩

/-- Answer a request at once, but break off the record of a second attempt. -/
def replyContended : (request : Request) → Ledger → Except Stop request.Answer × Ledger
  | .attempt (.insert a), l =>
    if a.number = 2 then
      (.ok (.error brokenOff), l.noting (.answered (.attempt (.insert a)) (.error brokenOff)))
    else l.reply (Surroundings.unrestricted .succeeded) (.attempt (.insert a))
  | request, l => l.reply (Surroundings.unrestricted .succeeded) request

theorem answers_of_replyContended (request : Request) (l : Ledger) (answer : request.Answer)
    (l' : Ledger) (h : replyContended request l = (.ok answer, l')) :
    Surroundings.contended.Answers request l answer l' := by
  have hreply := Surroundings.answers_of_reply (w := .contended)
    (Surroundings.unrestricted .succeeded) fun _ _ _ => trivial
  unfold replyContended at h
  split at h
  · split at h
    · obtain ⟨hanswer, rfl⟩ := Prod.mk.inj h
      obtain rfl := Except.ok.inj hanswer
      exact .inr ⟨brokenOff, rfl, rfl, rfl⟩
    · exact hreply _ _ _ _ h
  · exact hreply _ _ _ _ h

/-- The delivery of the failed first charge. -/
def noonFollowUp : HandlerProgram := noonController.handleRetry noonFailure { now := Instant.noon }

/-- What comes of it when the record of the second attempt is broken off. -/
def brokenChain : Ledger := (noonFollowUp.run replyContended {}).2

theorem noonFollowUp_runs :
    brokenChain.attempts.records.map Attempt.outcome = [.failed] ∧
      noonFollowUp.Runs Surroundings.contended.Answers {}
        (.error (.permanent (RetryError.attemptNotFound noonPayment 2).message)) brokenChain := by
  have hrun : (brokenChain.attempts.records.map Attempt.outcome,
      (noonFollowUp.run replyContended {}).1) = ([.failed],
        .ok (.error (.permanent (RetryError.attemptNotFound noonPayment 2).message))) := by cbv
  obtain ⟨hrecords, hvalue⟩ := Prod.mk.inj hrun
  exact ⟨hrecords, Task.runs_of_run answers_of_replyContended (Prod.ext hvalue rfl)⟩

theorem decode?_noonFailure : RetryPayload.decode? noonFailure.payload.toNode =
    some (.initialFailure noonPayment noonAccount 500 .declined Instant.noon) := by
  rw [noonFailure, noonItem, Item.payload_ofNew]
  exact RetryPayload.decode?_initialFailure ..

/-- **A lost race is final.** Calls to the stores fail only in ways that pass with time. The record
of the second attempt is broken off once, and the item that was to schedule it is given up. -/
theorem lost_race_is_permanent :
    (∀ request e, Surroundings.contended.fails request e → e.isTransient = true) ∧
      RetryPayload.decode? noonFailure.payload.toNode =
        some (.initialFailure noonPayment noonAccount 500 .declined Instant.noon) ∧
      noonFollowUp.Runs Surroundings.contended.Answers {}
        (.error (.permanent (RetryError.attemptNotFound noonPayment 2).message)) brokenChain :=
  ⟨fun _ _ h => h, decode?_noonFailure, noonFollowUp_runs.2⟩

/-- There the second attempt was refused as a conflict with nothing in its place. -/
theorem permanent_only_after_lost_race_broken_off :
    noonFollowUp.Runs Surroundings.contended.Answers {}
        (.error (.permanent (RetryError.attemptNotFound noonPayment 2).message)) brokenChain ∧
      Surroundings.contended.LostRace brokenChain
        (RetryError.attemptNotFound noonPayment 2).message := by
  obtain ⟨-, hrun⟩ := noonFollowUp_runs
  have hstored : (RetryPayload.initialFailure noonPayment noonAccount 500 .declined
      Instant.noon).HasAttempt {} := trivial
  exact ⟨hrun, (permanent_only_after_lost_race decode?_noonFailure hstored hrun).1 _ rfl⟩

end RetryController

end Dunning
