import Dunning.Proofs.Payment.Chains
import Dunning.Proofs.Task.Interleaving

/-!
# Deliveries side by side

A lease can end while its delivery is still running, and then the same item is delivered again. Both
deliveries may have read the attempt while it was pending, and each writes what it read back with
the outcome that it came to. So the one that ends last decides: a payment that the first one
collected is recorded as failed when the charge of the second one is declined, and the next attempt
is scheduled.

What remains true is that only such a delivery can undo it. One that begins when the payment is
collected finds that and ends; one that had begun before undoes it only after it was told something
that speaks against the charge. Otherwise a payment that is collected stays collected.

## Main definitions

* `RetryController.overlapping` — deliveries of one item that take turns.
* `Exchange.isAdverse` — what speaks against a charge.
* `RetryController.Conducts` — what a delivery may ask after what it was told.

## Main results

* `RetryController.collected_payment_can_be_lost` — a collected payment is charged again.
* `RetryController.collected_stays_collected` — what it takes to lose it.
-/

namespace Dunning

/-- Whether an exchange tells a delivery something that speaks against the charge: that the attempt
failed before, that automatic payments of the account are suspended, or that the charge failed. -/
def Exchange.isAdverse : Exchange Request Request.Answer → Bool
  | ⟨.attempt (.get ..), .ok (some a)⟩ => a.outcome == .failed
  | ⟨.state (.get _), .ok (some record)⟩ => record.blocked.disableAutoPay
  | ⟨.charge _, .ok (.failed _)⟩ => true
  | _ => false

/-- Surroundings whose stores do not fail. -/
def Surroundings.sound : Surroundings where
  fails _ _ := False
  gives _ _ := True

namespace RetryController

/-- Deliveries of one item to open accounts, each with a controller and at a time of its own. -/
def overlapping (w : Surroundings) (item : Item) :
    Interleaving.Rules Request Request.Answer Ledger (Except HandlerError HandlerOutcome) where
  starts t := ∃ (c : RetryController) (context : HandlerContext),
    context.ownerCancelled = false ∧ t = c.handleRetry item context
  answers := w.Answers

/-! ## The conduct of a delivery -/

/-- What a delivery asks that executes an attempt as long as nothing speaks against the charge. -/
inductive Collects (a : Attempt) : Request → Prop
  | record {account : AccountId} : Collects a (.state (.get account))
  | activeSet : Collects a .activeSet
  | looks {queue owner : String} : Collects a (.work (.pendingForOwner queue owner))
  | charge {request : PaymentRequest} : Collects a (.charge request)
  | collect {now : Instant} : Collects a (.attempt (.update (finished a .success now)))
  | recheck {owner reason : String} {due : Instant} :
      Collects a (.work (.enqueue (refreshItem owner due reason)))

/-- What a delivery may ask after what it was told: it looks for its attempt first, goes on when
that is pending, and does no more than to collect unless something speaks against it. -/
inductive Conducts (payment : PaymentId) (number : UInt32)
    (past : List (Exchange Request Request.Answer)) : Request → Prop
  | find : past = [] → Conducts payment number past (.attempt (.get payment number))
  | collect {a : Attempt} {request : Request} :
      ⟨.attempt (.get payment number), .ok (some a)⟩ ∈ past → a.outcome = .pending →
      Collects a request → Conducts payment number past request
  | adverse {request : Request} : (∃ exchange ∈ past, exchange.isAdverse = true) →
      Conducts payment number past request

variable {payment : PaymentId} {number : UInt32} {past : List (Exchange Request Request.Answer)}
  {α : Type}

/-- Whoever was told something that speaks against the charge may do anything. -/
theorem conducts_of_adverse {t : Program α} (h : ∃ exchange ∈ past, exchange.isAdverse = true) :
    t.Obeys Task.Told (Conducts payment number) (fun _ _ => True) past := by
  induction t generalizing past with
  | done => trivial
  | ask request next ih =>
      refine Task.obeys_told.mpr ⟨.adverse h, fun answer => ih answer ?_⟩
      obtain ⟨exchange, hmem, hadverse⟩ := h
      exact ⟨exchange, List.mem_cons_of_mem _ hmem, hadverse⟩

theorem conducts_ask {request : Request} {next : request.Answer → Program α}
    (hask : Conducts payment number past request)
    (hnext : ∀ answer, Exchange.isAdverse ⟨request, answer⟩ = false →
      (next answer).Obeys Task.Told (Conducts payment number) (fun _ _ => True)
        (⟨request, answer⟩ :: past)) :
    Task.Obeys Task.Told (Conducts payment number) (fun _ _ => True) (.ask request next) past := by
  refine Task.obeys_told.mpr ⟨hask, fun answer => ?_⟩
  cases hadverse : Exchange.isAdverse ⟨request, answer⟩ with
  | true => exact conducts_of_adverse ⟨_, List.mem_cons_self, hadverse⟩
  | false => exact hnext answer hadverse

/-- A delivery that found its attempt pending collects. -/
theorem conducts_collect {a : Attempt} {request : Request} {next : request.Answer → Program α}
    (hfound : ⟨.attempt (.get payment number), .ok (some a)⟩ ∈ past)
    (hpending : a.outcome = .pending) (hask : Collects a request)
    (hnext : ∀ answer, Exchange.isAdverse ⟨request, answer⟩ = false →
      ⟨.attempt (.get payment number), .ok (some a)⟩ ∈
        (⟨request, answer⟩ :: past : List (Exchange Request Request.Answer)) →
      (next answer).Obeys Task.Told (Conducts payment number) (fun _ _ => True)
        (⟨request, answer⟩ :: past)) :
    Task.Obeys Task.Told (Conducts payment number) (fun _ _ => True) (.ask request next) past :=
  conducts_ask (.collect hfound hpending hask) fun answer hadverse =>
    hnext answer hadverse (List.mem_cons_of_mem _ hfound)

/-- Executing a pending attempt. -/
theorem conducts_charge (c : RetryController) {a : Attempt} (now : Instant)
    (hfound : ⟨.attempt (.get payment number), .ok (some a)⟩ ∈ past)
    (hpending : a.outcome = .pending) :
    (c.charge a payment number now).Obeys Task.Told (Conducts payment number) (fun _ _ => True)
      past := by
  simp only [charge, collect, recordSuccess, finish, Program.charge, Program.updateAttempt,
    Program.enqueue, Task.bind_eq, Task.pure_eq, Task.bind_ask, Task.bind_done, hpending,
    reduceCtorEq, if_false]
  refine conducts_collect hfound hpending .charge fun answer hadverse hfound => ?_
  rcases answer with e | _ | failure
  · trivial
  · refine conducts_collect hfound hpending .collect fun answer _ hfound => ?_
    rcases answer with e | u
    · trivial
    · exact conducts_collect hfound hpending .recheck fun _ _ _ => trivial
  · cases hadverse

/-- Whether the account is restricted is looked up first. -/
theorem conducts_unlessRestricted {a : Attempt} {account : AccountId} {context : HandlerContext}
    {goOn : DeliveryProgram} (hopen : context.ownerCancelled = false)
    (hfound : ⟨.attempt (.get payment number), .ok (some a)⟩ ∈ past)
    (hpending : a.outcome = .pending)
    (hgoOn : ∀ later : List (Exchange Request Request.Answer),
      ⟨.attempt (.get payment number), .ok (some a)⟩ ∈ later →
      goOn.Obeys Task.Told (Conducts payment number) (fun _ _ => True) later) :
    (unlessRestricted a account context goOn).Obeys Task.Told (Conducts payment number)
      (fun _ _ => True) past := by
  simp only [unlessRestricted, restriction, hopen, Bool.false_eq_true, if_false,
    OverdueEngine.status, OverdueEngine.pendingLooks, Program.getState, Program.activeSet,
    Program.pendingForOwner, Task.bind_eq, Task.pure_eq, Task.bind_ask, Task.bind_done]
  refine conducts_collect hfound hpending .record fun record hadverse hfound => ?_
  rcases record with e | record
  · trivial
  · refine conducts_collect hfound hpending .activeSet fun set _ hfound => ?_
    refine conducts_collect hfound hpending .looks fun looks _ hfound => ?_
    rcases looks with e | looks
    · trivial
    · have hfree : (record.getD (.clear account)).blocked.disableAutoPay = false := by
        cases record with
        | none => rfl
        | some record => exact hadverse
      simp only [Task.bind_done, hfree, Bool.false_eq_true, if_false]
      exact hgoOn _ hfound

theorem conducts_scheduledAttempt (c : RetryController) {context : HandlerContext}
    (hopen : context.ownerCancelled = false) :
    (c.scheduledAttempt payment number context).Obeys Task.Told (Conducts payment number)
      (fun _ _ => True) [] := by
  simp only [scheduledAttempt, Program.getAttempt, Task.bind_eq, Task.pure_eq, Task.bind_ask,
    Task.bind_done]
  refine conducts_ask (.find rfl) fun answer hadverse => ?_
  rcases answer with e | _ | a
  · trivial
  · trivial
  · cases houtcome : a.outcome with
    | aborted | success =>
        simp only [houtcome]
        trivial
    | failed =>
        rw [Exchange.isAdverse, houtcome] at hadverse
        cases hadverse
    | pending =>
        simp only [houtcome]
        refine conducts_unlessRestricted hopen List.mem_cons_self houtcome fun later hlater => ?_
        exact conducts_charge c context.now hlater houtcome

theorem conducts_handleRetry (c : RetryController) {item : Item} {context : HandlerContext}
    {account : AccountId} {amount : UInt64} (hopen : context.ownerCancelled = false)
    (hitem : RetryPayload.decode? item.payload.toNode =
      some (.scheduledRetry payment account number amount)) :
    (c.handleRetry item context).Obeys Task.Told (Conducts payment number) (fun _ _ => True)
      [] := by
  unfold handleRetry
  rw [Task.obeys_bind, deliver, hitem]
  exact conducts_scheduledAttempt c hopen

/-- What a delivery was told that began when its attempt was collected: at most that it is. -/
def CameLate (payment : PaymentId) (number : UInt32)
    (past : List (Exchange Request Request.Answer)) : Prop :=
  ∀ exchange ∈ past, ∃ answer, exchange = ⟨.attempt (.get payment number), answer⟩ ∧
    ∀ a, answer = .ok (some a) → a.outcome = .success

/-- A delivery that came late looks for its attempt and does nothing else. -/
theorem CameLate.eq_find {request : Request} (late : CameLate payment number past)
    (conducts : Conducts payment number past request) :
    request = .attempt (.get payment number) := by
  cases conducts with
  | find => rfl
  | collect hfound hpending =>
      obtain ⟨_, heq, hsuccess⟩ := late _ hfound
      cases heq
      cases hpending.symm.trans (hsuccess _ rfl)
  | adverse h =>
      obtain ⟨_, hmem, hadverse⟩ := h
      obtain ⟨answer, rfl, hsuccess⟩ := late _ hmem
      rcases answer with e | _ | a
      · cases hadverse
      · cases hadverse
      · rw [Exchange.isAdverse, hsuccess a rfl] at hadverse
        cases hadverse

end RetryController

/-! ## What a request keeps -/

/-- The items of the queue of attempts, ended ones included. -/
def WorkStore.retryItems (s : WorkStore) : List Item :=
  s.items.filter fun i => i.queue == retryQueue

namespace Ledger

/-- Whether an attempt is recorded as successful. -/
def Collected (payment : PaymentId) (number : UInt32) (l : Ledger) : Prop :=
  ∃ a, l.attempts.get? payment number = some a ∧ a.outcome = .success

/-- Ledgers with the same attempts and items of attempts, of which the later one has recorded what
the earlier one has collected. -/
structure Keeps (payment : PaymentId) (number : UInt32) (l l' : Ledger) : Prop where
  numbers : ∀ p, l'.attempts.numbersOf p = l.attempts.numbersOf p
  items : l'.work.retryItems = l.work.retryItems
  collected : l.Collected payment number → l'.Collected payment number

namespace Keeps

variable {payment : PaymentId} {number : UInt32} {l l' : Ledger} {w : Surroundings}

theorem refl (l : Ledger) : l.Keeps payment number l := ⟨fun _ => rfl, rfl, id⟩

theorem trans {m : Ledger} (h : l.Keeps payment number l') (g : l'.Keeps payment number m) :
    l.Keeps payment number m :=
  ⟨fun p => (g.numbers p).trans (h.numbers p), g.items.trans h.items,
    fun hcollected => g.collected (h.collected hcollected)⟩

theorem of_eq (hattempts : l'.attempts = l.attempts)
    (hitems : l'.work.retryItems = l.work.retryItems) : l.Keeps payment number l' := by
  refine ⟨fun p => by rw [hattempts], hitems, ?_⟩
  rintro ⟨a, hget, hsuccess⟩
  exact ⟨a, hattempts ▸ hget, hsuccess⟩

theorem of_find {answer : Except StoreError (Option Attempt)}
    (h : w.Answers (.attempt (.get payment number)) l answer l') : l.Keeps payment number l' :=
  .of_eq (h.look trivial).attempts (congrArg _ (h.look trivial).work)

/-- Whoever collects an attempt keeps it. -/
theorem of_collects {a : Attempt} {request : Request} {answer : request.Answer}
    (collects : RetryController.Collects a request) (h : w.Answers request l answer l') :
    l.Keeps a.payment a.number l' := by
  cases collects with
  | record | charge =>
      exact .of_eq (h.attempts_eq (by simp)) (congrArg _ (h.work_eq (by simp)))
  | activeSet | looks => exact .of_eq (h.look trivial).attempts (congrArg _ (h.look trivial).work)
  | @collect now =>
      have hitems := congrArg WorkStore.retryItems (h.work_eq (by simp))
      cases answer with
      | error e => exact .of_eq h.update_error hitems
      | ok =>
          obtain ⟨⟨stored, hstored, -⟩, hreplace⟩ := h.update_ok
          have hget : l'.attempts.get? a.payment a.number =
              some (RetryController.finished a .success now) := by
            rw [hreplace]
            exact AttemptStore.get?_replace_self (s := l.attempts)
              (a := RetryController.finished a .success now) hstored
          -- Whatever outcome was stored, a success takes its place.
          refine ⟨?_, hitems, fun _ => ⟨_, hget, rfl⟩⟩
          intro p
          rw [hreplace, AttemptStore.numbersOf_replace]
  | recheck =>
      refine .of_eq (h.attempts_eq (by simp)) ?_
      rcases h.enqueue with ⟨id, clock, -, hwork⟩ | ⟨_, _, -, hwork⟩
      · rw [hwork, WorkStore.retryItems, WorkStore.enqueue, List.filter_append]
        exact List.append_nil _
      · rw [hwork]

end Keeps

variable {payment : PaymentId} {number : UInt32} {l₀ l l' : Ledger}
  {before log : List (Nat × Exchange Request Request.Answer)} {place : Nat}

/-- Every attempt that a delivery found is the one that it looked for. -/
def Found (payment : PaymentId) (number : UInt32)
    (log : List (Nat × Exchange Request Request.Answer)) : Prop :=
  ∀ place a, (place, ⟨.attempt (.get payment number), .ok (some a)⟩) ∈ log →
    a.payment = payment ∧ a.number = number

variable {w : Surroundings} {request : Request} {answer : request.Answer}

theorem Found.step (found : Found payment number log) (h : w.Answers request l answer l') :
    Found payment number ((place, ⟨request, answer⟩) :: log) := by
  intro other a hmem
  rcases List.mem_cons.mp hmem with heq | hmem
  · cases heq
    exact AttemptStore.key_of_get? h.get_ok
  · exact found other a hmem

/-- What has become of a ledger since an attempt was collected, where `before` was told until then:
it is kept, and whoever has begun since was told at most that. -/
structure Undisturbed (payment : PaymentId) (number : UInt32)
    (before : List (Nat × Exchange Request Request.Answer)) (l₀ l : Ledger)
    (log : List (Nat × Exchange Request Request.Answer)) : Prop where
  found : Found payment number log
  keeps : l₀.Keeps payment number l
  late : ∀ place, Interleaving.told place before = [] →
    RetryController.CameLate payment number (Interleaving.told place log)

/-- **A request of a delivery keeps what is collected**, unless the delivery had begun before and
was told something that speaks against the charge. -/
theorem Undisturbed.step (undisturbed : Undisturbed payment number before l₀ l log)
    (hcollected : l₀.Collected payment number)
    (hcalm : Interleaving.told place before ≠ [] →
      ∀ exchange ∈ Interleaving.told place log, exchange.isAdverse = false)
    (conducts : RetryController.Conducts payment number (Interleaving.told place log) request)
    (h : w.Answers request l answer l') :
    Undisturbed payment number before l₀ l' ((place, ⟨request, answer⟩) :: log) := by
  obtain ⟨found, keeps, late⟩ := undisturbed
  by_cases hbefore : Interleaving.told place before = []
  · obtain rfl := (late place hbefore).eq_find conducts
    refine ⟨found.step h, keeps.trans (.of_find h), ?_⟩
    intro other hother
    by_cases hsame : place = other
    · subst hsame
      rw [Interleaving.told_cons_self]
      intro exchange hmem
      rcases List.mem_cons.mp hmem with rfl | hmem
      · refine ⟨answer, rfl, ?_⟩
        rintro a rfl
        -- The attempt is still recorded as successful, and that is what is found.
        obtain ⟨stored, hget, hsuccess⟩ := keeps.collected hcollected
        obtain rfl := Option.some.inj (hget.symm.trans h.get_ok)
        exact hsuccess
      · exact late place hbefore exchange hmem
    · rw [Interleaving.told_cons_of_ne hsame]
      exact late other hother
  · have hkeeps : l.Keeps payment number l' := by
      cases conducts with
      | find => exact .of_find h
      | collect hfound _ collects =>
          obtain ⟨rfl, rfl⟩ := found _ _ (Interleaving.mem_of_mem_told hfound)
          exact .of_collects collects h
      | adverse hadverse =>
          obtain ⟨exchange, hmem, hadverse⟩ := hadverse
          rw [hcalm hbefore exchange hmem] at hadverse
          cases hadverse
    refine ⟨found.step h, keeps.trans hkeeps, ?_⟩
    intro other hother
    have hne : place ≠ other := by
      rintro rfl
      exact hbefore hother
    rw [Interleaving.told_cons_of_ne hne]
    exact late other hother

end Ledger

namespace RetryController

open Interleaving (told)

/-! ## Interleavings -/

variable {w : Surroundings} {item : Item} {payment : PaymentId} {account : AccountId}
  {number : UInt32} {amount : UInt64} {l : Ledger}
  {q r : Interleaving Request Request.Answer Ledger (Except HandlerError HandlerOutcome)}

theorem overlapping_conduct (w : Surroundings)
    (hitem : RetryPayload.decode? item.payload.toNode =
      some (.scheduledRetry payment account number amount)) :
    Interleaving.Conduct (overlapping w item) (Conducts payment number) (fun _ _ => True) := by
  rintro t ⟨c, context, hopen, rfl⟩
  exact conducts_handleRetry c hopen hitem

theorem found_of_reaches
    (hitem : RetryPayload.decode? item.payload.toNode =
      some (.scheduledRetry payment account number amount))
    (hq : Interleaving.Reaches (overlapping w item) ⟨l, [], []⟩ q) :
    Ledger.Found payment number q.log := by
  let inv (_ : Ledger) (log : List (Nat × Exchange Request Request.Answer)) : Prop :=
    Ledger.Found payment number log
  have hkeeps : inv q.state q.log := by
    refine (Interleaving.Lawful.of_empty l).keeps (overlapping_conduct w hitem) hq ?_ ?_
    · intro l log place request answer l' found _ hanswers
      exact Ledger.Found.step found hanswers
    · intro place a hmem
      cases hmem
  exact hkeeps

/-- **A collected payment stays collected** unless a delivery that had begun before is told
something that speaks against the charge. Deliveries of one item overlap in any way, and their
surroundings answer anything. As long as those that had begun when the payment was collected are
told nothing of the kind, the success stays recorded, no attempt is added and no item joins the
queue of attempts. -/
theorem collected_stays_collected
    (hitem : RetryPayload.decode? item.payload.toNode =
      some (.scheduledRetry payment account number amount))
    (hq : Interleaving.Reaches (overlapping w item) ⟨l, [], []⟩ q)
    (hr : Interleaving.Reaches (overlapping w item) q r)
    (hcollected : q.state.Collected payment number)
    (hcalm : ∀ place, told place q.log ≠ [] →
      ∀ exchange ∈ told place r.log, exchange.isAdverse = false) :
    r.state.Collected payment number ∧
      (∀ p, r.state.attempts.numbersOf p = q.state.attempts.numbersOf p) ∧
      r.state.work.retryItems = q.state.work.retryItems := by
  have hconduct := overlapping_conduct w hitem
  have hempty : Interleaving.Lawful (Conducts payment number) (fun _ _ => True)
      (⟨l, [], []⟩ : Interleaving Request Request.Answer Ledger
        (Except HandlerError HandlerOutcome)) := .of_empty l
  let inv (l : Ledger) (log : List (Nat × Exchange Request Request.Answer)) : Prop :=
    (∀ place, told place q.log ≠ [] → ∀ exchange ∈ told place log, exchange.isAdverse = false) →
      Ledger.Undisturbed payment number q.log q.state l log
  have hafter : inv r.state r.log := by
    refine (hempty.reaches hconduct hq).keeps hconduct hr ?_ ?_
    · intro l log place request answer l' hinv conducts hanswers hcalm
      have hcalm' : ∀ other, told other q.log ≠ [] →
          ∀ exchange ∈ told other log, exchange.isAdverse = false :=
        fun other hother exchange hmem =>
          hcalm other hother exchange ((Interleaving.told_suffix_cons other _ log).subset hmem)
      exact (hinv hcalm').step hcollected (hcalm' place) conducts hanswers
    · intro _
      refine ⟨found_of_reaches hitem hq, .refl _, ?_⟩
      intro place hplace exchange hmem
      rw [hplace] at hmem
      cases hmem
  obtain ⟨-, hkeeps, -⟩ := hafter hcalm
  exact ⟨hkeeps.collected hcollected, hkeeps.numbers, hkeeps.items⟩

/-! ### A second charge that is declined -/

/-- The first charge of the payment failed. -/
def firstFailed : Attempt :=
  Attempt.firstFailure (.ofNat 5) noonPayment noonAccount 500 .declined Instant.noon

/-- The second one is due at noon. -/
def secondPending : Ledger :=
  { attempts := ⟨[firstFailed, firstFailed.next (.ofNat 6) Instant.noon none Instant.noon]⟩ }

/-- Two deliveries of the second attempt. -/
def secondAttempts : List HandlerProgram :=
  [noonController.handleRetry noonRetry { now := Instant.noon },
    noonController.handleRetry noonRetry { now := Instant.noon }]

/-- Both deliveries read the attempt, and the first one collects the payment. -/
def collectedOnce :
    Interleaving Request Request.Answer Ledger (Except HandlerError HandlerOutcome) :=
  Interleaving.schedule (Ledger.reply (Surroundings.unrestricted .succeeded))
    [0, 1, 0, 0, 0, 0, 0, 0] ⟨secondPending, [], secondAttempts⟩

/-- Then the second one goes on, with an answer to its own charge. -/
def chargedAgain (result : ChargeResult) :
    Interleaving Request Request.Answer Ledger (Except HandlerError HandlerOutcome) :=
  collectedOnce.schedule (Ledger.reply (Surroundings.unrestricted result))
    [1, 1, 1, 1, 1, 1, 1, 1, 1]

theorem reaches_collectedOnce {w : Surroundings}
    (hw : ∀ request answer, Surroundings.unrestricted .succeeded request = some answer →
      w.gives request answer) :
    Interleaving.Reaches (overlapping w noonRetry) ⟨secondPending, [], []⟩ collectedOnce := by
  have hstarts : ∀ t ∈ secondAttempts, (overlapping w noonRetry).starts t := by
    intro t hmem
    rcases List.mem_cons.mp hmem with rfl | hmem
    · exact ⟨_, _, rfl, rfl⟩
    · obtain rfl := List.mem_singleton.mp hmem
      exact ⟨_, _, rfl, rfl⟩
  exact (Interleaving.reaches_started hstarts ⟨secondPending, [], []⟩).trans
    (Interleaving.reaches_schedule (Surroundings.answers_of_reply _ hw) _ _)

theorem reaches_chargedAgain {w : Surroundings} {result : ChargeResult}
    (hw : ∀ request answer, Surroundings.unrestricted result request = some answer →
      w.gives request answer) :
    Interleaving.Reaches (overlapping w noonRetry) collectedOnce (chargedAgain result) :=
  Interleaving.reaches_schedule (Surroundings.answers_of_reply _ hw) _ _

theorem collectedOnce_collected : collectedOnce.state.Collected noonPayment 2 := by
  have houtcome : (collectedOnce.state.attempts.get? noonPayment 2).map Attempt.outcome =
      some .success := by cbv
  exact Option.map_eq_some_iff.mp houtcome

/-- **A collected payment can be lost.** Both deliveries read the attempt while it is pending. After
the first one has collected the payment, the charge of the second one is declined. The attempt is
recorded as failed again, and a third attempt is recorded and scheduled. -/
theorem collected_payment_can_be_lost :
    Interleaving.Reaches (overlapping .sound noonRetry) ⟨secondPending, [], []⟩ collectedOnce ∧
      Interleaving.Reaches (overlapping .sound noonRetry) collectedOnce
        (chargedAgain (.failed .declined)) ∧
      (chargedAgain (.failed .declined)).AtRest ∧
      collectedOnce.state.Collected noonPayment 2 ∧
      ((chargedAgain (.failed .declined)).state.attempts.get? noonPayment 2).map Attempt.outcome =
        some .failed ∧
      (chargedAgain (.failed .declined)).state.attempts.numbersOf noonPayment = [1, 2, 3] ∧
      (chargedAgain (.failed .declined)).state.work.retryItems.any (Item.retries noonPayment 3) =
        true := by
  -- One evaluation for all that is read off the end.
  have hend : (fun q : Interleaving Request Request.Answer Ledger
        (Except HandlerError HandlerOutcome) =>
      (q.running.all Task.isDone, (q.state.attempts.get? noonPayment 2).map Attempt.outcome,
        q.state.attempts.numbersOf noonPayment,
        q.state.work.retryItems.any (Item.retries noonPayment 3)))
      (chargedAgain (.failed .declined)) = (true, some .failed, [1, 2, 3], true) := by cbv
  simp only [Prod.mk.injEq] at hend
  exact ⟨reaches_collectedOnce fun _ _ _ => trivial, reaches_chargedAgain fun _ _ _ => trivial,
    hend.1, collectedOnce_collected, hend.2⟩

/-! ### A second charge that succeeds -/

/-- The second attempt is collected by both deliveries and stays collected. -/
theorem collected_stays_collected_twice :
    (chargedAgain .succeeded).running.all Task.isDone = true ∧
      (chargedAgain .succeeded).state.Collected noonPayment 2 ∧
      ∀ p, (chargedAgain .succeeded).state.attempts.numbersOf p =
        collectedOnce.state.attempts.numbersOf p := by
  have hend : ((chargedAgain .succeeded).running.all Task.isDone,
      (chargedAgain .succeeded).log.all fun event => !event.2.isAdverse) = (true, true) := by cbv
  obtain ⟨hrest, hlog⟩ := Prod.mk.inj hend
  have hcalm : ∀ place, told place collectedOnce.log ≠ [] →
      ∀ exchange ∈ told place (chargedAgain .succeeded).log, exchange.isAdverse = false := by
    intro place _ exchange hmem
    simpa using List.all_eq_true.mp hlog _ (Interleaving.mem_of_mem_told hmem)
  have hitem : RetryPayload.decode? noonRetry.payload.toNode =
      some (.scheduledRetry noonPayment noonAccount 2 500) := by
    rw [noonRetry, noonItem, Item.payload_ofNew]
    exact RetryPayload.decode?_scheduledRetry ..
  have hgives (result : ChargeResult) (request : Request) (answer : request.Answer) :
      Surroundings.unrestricted result request = some answer →
        Surroundings.sound.gives request answer := fun _ => trivial
  obtain ⟨hcollected, hnumbers, -⟩ := collected_stays_collected hitem
    (reaches_collectedOnce (hgives _)) (reaches_chargedAgain (hgives _)) collectedOnce_collected
    hcalm
  exact ⟨hrest, hcollected, hnumbers⟩

end RetryController

end Dunning
