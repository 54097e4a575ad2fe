import Dunning.Proofs.Payment.Guard
import Dunning.Proofs.Payment.Overlap

/-!
# Deliveries for a closed owner

When its owner is closed, a delivery gives the attempt up, and starts nothing: it charges nothing, it
records no attempt but the first one, and it creates no item. There is one way past this. The item of an
attempt that is recorded as failed has the failure followed up, and the follow-up asks nobody whether
the owner is closed; so the next attempt may be recorded, with its item.

Stores may fail here in any way, and nothing is known of the surroundings.

## Main definitions

* `Ledger.LeftAlone` — no item is new or changed, and no attempt is new but a first one.
* `RetryController.FindsFailed` — the delivery of an item finds its attempt failed.
* `RetryController.Resumes` — what the follow-up of a failure may start.
* `RetryController.Abstains` — what a delivery for a closed owner may ask for.

## Main results

* `Surroundings.Answers.leftAlone` — a request that starts nothing leaves the ledger alone.
* `RetryController.closed_owner_starts_nothing` — a delivery for a closed owner starts nothing, unless
  it finds its attempt failed.
* `RetryController.closed_owner_can_be_scheduled` — what comes of the delivery of an attempt whose
  follow-up was interrupted before the owner was closed.
-/

namespace Dunning

/-- Whether nothing was started: the items are as they were, and no attempt is new but a first one. -/
structure Ledger.LeftAlone (l l' : Ledger) : Prop where
  work : l'.work = l.work
  attempts : ∀ payment number, number ≠ 1 →
    (l'.attempts.get? payment number).isSome = (l.attempts.get? payment number).isSome

namespace Ledger.LeftAlone

theorem refl (l : Ledger) : l.LeftAlone l := ⟨rfl, fun _ _ _ => rfl⟩

theorem trans {l m n : Ledger} (h : l.LeftAlone m) (g : m.LeftAlone n) : l.LeftAlone n where
  work := g.work.trans h.work
  attempts payment number hnumber :=
    (g.attempts payment number hnumber).trans (h.attempts payment number hnumber)

end Ledger.LeftAlone

/-- What starts nothing leaves the ledger alone. -/
theorem Surroundings.Answers.leftAlone {w : Surroundings} {l l' : Ledger} {request : Request}
    {answer : request.Answer} (h : w.Answers request l answer l') (hstarts : request.StartsNothing) :
    l.LeftAlone l' := by
  by_cases hlook : request.IsLook
  · have hagrees := h.look hlook
    exact ⟨hagrees.work, fun payment number _ => by rw [hagrees.attempts]⟩
  · cases request with
    | attempt request =>
        refine ⟨h.work_eq (by simp), ?_⟩
        intro payment number hnumber
        cases request with
        | insert a =>
            have hfirst : a.number = 1 := hstarts
            rcases h.insert with ⟨-, -, hadd⟩ | ⟨_, _, -, -, -, hsame⟩ | ⟨_, -, -, hsame⟩
            · have hother : ¬(payment = a.payment ∧ number = a.number) := by
                rw [hfirst]
                exact fun hkey => hnumber hkey.2
              rw [hadd, AttemptStore.get?_add_of_ne _ hother]
            · rw [hsame]
            · rw [hsame]
        | update a =>
            rcases h.update with ⟨_, -, -, -, hreplace⟩ | ⟨-, _, -, hsame⟩ | ⟨_, -, -, hsame⟩
            · rw [hreplace, AttemptStore.get?_replace, Option.isSome_map]
            · rw [hsame]
            · rw [hsame]
        | _ => exact absurd hstarts hlook
    | _ => exact absurd hstarts hlook

namespace RetryController

/-! ## Following a failure up -/

/-- Whether the delivery of an item finds its attempt recorded as failed. -/
def FindsFailed (attempts : AttemptStore) (item : Item) (a : Attempt) : Prop :=
  ∃ payment account number amount,
    RetryPayload.decode? item.payload.toNode =
      some (.scheduledRetry payment account number amount) ∧
    attempts.get? payment number = some a ∧ a.outcome = .failed

/-- What the follow-up of a failed attempt may start: the attempt after it and the item of that one. It
breaks off when the policy has no answer. -/
inductive Resumes (c : RetryController) (a : Attempt) : Request → Prop where
  | breakOff : c.policy.decide (failedAttempt a a.updatedAt) = none → Resumes c a .giveUp
  | next {id : Uuid} {due : Instant} {adjusted : Option UInt64} : a.number < c.maxAttempts →
      Resumes c a (.attempt (.insert (a.next id due adjusted a.updatedAt)))
  | item {b : Attempt} : a.number < c.maxAttempts → b.payment = a.payment →
      b.number = a.number + 1 → b.outcome = .pending → Resumes c a (.work (.enqueue (itemOf b)))

/-- What the delivery of an item for a closed owner may ask for: what starts nothing, and what follows an
attempt up that it finds failed. -/
def Abstains (c : RetryController) (attempts : AttemptStore) (item : Item) (request : Request) :
    Prop :=
  request.StartsNothing ∨ ∃ a, FindsFailed attempts item a ∧ c.Resumes a request

section

variable {w : Surroundings} {c : RetryController} {l : Ledger} {a : Attempt}
  {rule : Request → Prop}

/-- An attempt is recorded, or one with its key is found. -/
theorem insertOrFind_asks {ε : Type} {b : Attempt} (refused : StoreError → ε) (vanished : ε)
    (hlooks : ∀ request, request.IsLook → rule request) (hinsert : rule (.attempt (.insert b))) :
    (insertOrFind b b.payment b.number refused vanished).Obeys w.Answers (fun _ => rule)
      (fun result _ => ∀ found, result = .ok found →
        found.payment = b.payment ∧ found.number = b.number) l := by
  simp only [insertOrFind, Program.insertAttempt, Program.getAttempt, Task.bind_eq, Task.pure_eq,
    Task.bind_ask, Task.bind_done]
  refine ⟨hinsert, ?_⟩
  intro answer l₁ _
  rcases answer with e | u
  · by_cases hconflict : e.isConflict = true
    · simp only [hconflict, if_true]
      refine ⟨hlooks _ trivial, ?_⟩
      intro answer l₂ h₂
      rcases answer with cause | _ | stored <;> intro found hresult
      · cases hresult
      · cases hresult
      · obtain rfl := Except.ok.inj hresult
        exact AttemptStore.key_of_get? h₂.get_ok
    · simp only [hconflict, if_false, Bool.false_eq_true]
      intro found hresult
      cases hresult
  · intro found hresult
    obtain rfl := Except.ok.inj hresult
    exact ⟨rfl, rfl⟩

/-- The item of an attempt is created unless there is one. -/
theorem ensureItem_asks (hlooks : ∀ request, request.IsLook → rule request)
    (hitem : rule (.work (.enqueue (itemOf a)))) :
    (ensureItem a).Obeys w.Answers (fun _ => rule) (fun _ _ => True) l := by
  simp only [ensureItem, Program.pendingForOwner, Program.enqueue, Task.bind_eq, Task.pure_eq,
    Task.bind_ask, Task.bind_done]
  refine ⟨hlooks _ trivial, ?_⟩
  intro answer l₁ _
  rcases answer with e | items
  · trivial
  · by_cases hfound : items.any (isItemOf a) = true
    · simp only [hfound, if_true]
      trivial
    · simp only [hfound, if_false, Bool.false_eq_true]
      refine ⟨hitem, ?_⟩
      intro answer l₂ _
      cases answer <;> trivial

/-- The follow-up of a failed attempt starts no more than the attempt after it and its item. -/
theorem followUp_resumes : (c.followUp a a.updatedAt).Obeys w.Answers
    (fun _ request => request.StartsNothing ∨ c.Resumes a request) (fun _ _ => True) l := by
  have hlooks : ∀ request : Request, request.IsLook →
      request.StartsNothing ∨ c.Resumes a request := fun _ hlook => .inl (.of_isLook hlook)
  unfold followUp
  cases hdecision : c.policy.decide (failedAttempt a a.updatedAt) with
  | none => exact ⟨.inr (.breakOff hdecision), fun answer => nomatch answer⟩
  | some decision =>
      simp only
      rw [applyDecision_eq, Task.obeys_bind]
      refine (finish_asks (.inl trivial)).imp ?_
      rintro (e | u) l₁ -
      · trivial
      · show (c.goOn a decision a.updatedAt).Obeys w.Answers _ _ l₁
        unfold goOn
        by_cases hceiling : c.maxAttempts ≤ a.number
        · rw [if_pos hceiling]
          trivial
        · rw [if_neg hceiling]
          have hroom : a.number < c.maxAttempts := UInt32.not_le.mp hceiling
          cases decision with
          | abort reason => trivial
          | retryAt due adjusted =>
              simp only [schedule, Program.freshId, Task.bind_eq, Task.pure_eq, Task.bind_ask,
                Task.bind_done]
              refine ⟨hlooks _ trivial, ?_⟩
              intro id l₂ _
              rw [Task.obeys_bind, recordNext_eq]
              refine (insertOrFind_asks _ _ hlooks (.inr (.next hroom))).imp ?_
              rintro (e | b) l₃ hfound
              · trivial
              · by_cases hpending : b.outcome = .pending
                · simp only [hpending, if_true]
                  obtain ⟨hpayment, hnumber⟩ := hfound b rfl
                  exact ensureItem_asks hlooks (.inr (.item hroom hpayment hnumber hpending))
                · simp only [hpending, if_false]
                  trivial

/-! ## The deliveries -/

variable {account : AccountId} {context : HandlerContext}

/-- The attempt of a closed owner is given up, without a look at the account. -/
theorem unlessRestricted_of_closed (hclosed : context.ownerCancelled = true)
    (goOn : DeliveryProgram) : unlessRestricted a account context goOn =
      giveUpAttempt a "account closed" context.now := by
  unfold unlessRestricted restriction
  rw [if_pos hclosed]
  rfl

/-- The report of a first failure is recorded, and that is all. -/
theorem firstFailure_of_closed (hclosed : context.ownerCancelled = true) (payment : PaymentId)
    (account : AccountId) (amount : UInt64) (failure : PaymentFailure) (failedAt : Instant) :
    (c.firstFailure payment account amount failure failedAt context).Obeys w.Answers
      (fun _ => Request.StartsNothing) (fun _ _ => True) l := by
  simp only [firstFailure, Program.freshId, Task.bind_eq, Task.pure_eq, Task.bind_ask,
    Task.bind_done]
  refine ⟨trivial, ?_⟩
  intro id l₁ _
  rw [Task.obeys_bind, recordFirst_eq]
  have hfirst : Request.StartsNothing
      (.attempt (.insert (.firstFailure id payment account amount failure failedAt))) :=
    rfl (a := (1 : UInt32))
  refine (insertOrFind_asks _ _ (fun _ => .of_isLook) hfirst).imp ?_
  rintro (fault | stored) l₂ -
  · trivial
  · simp only [unlessRestricted_of_closed hclosed]
    split
    · trivial
    · exact giveUpAttempt_asks trivial

/-- The delivery of an attempt that is due gives it up, unless it is recorded as failed. -/
theorem scheduledAttempt_of_closed (hclosed : context.ownerCancelled = true)
    (payment : PaymentId) (number : UInt32) :
    (c.scheduledAttempt payment number context).Obeys w.Answers
      (fun _ request => request.StartsNothing ∨ ∃ a, l.attempts.get? payment number = some a ∧
        a.outcome = .failed ∧ c.Resumes a request) (fun _ _ => True) l := by
  simp only [scheduledAttempt, Program.getAttempt, Task.bind_eq, Task.pure_eq, Task.bind_ask,
    Task.bind_done, unlessRestricted_of_closed hclosed]
  refine ⟨.inl trivial, ?_⟩
  intro answer l₁ h
  rcases answer with e | _ | a
  · trivial
  · trivial
  · have hget := h.get_ok
    cases houtcome : a.outcome with
    | pending =>
        simp only [houtcome]
        exact giveUpAttempt_asks (.inl trivial)
    | failed =>
        simp only [houtcome, resume, resumeFailed, Task.pure_eq]
        rw [Task.obeys_bind]
        refine (followUp_resumes.imp_rule ?_).imp fun _ _ _ => trivial
        intro l' request hasked
        exact hasked.imp_right fun hresumes => ⟨a, hget, houtcome, hresumes⟩
    | aborted =>
        simp only [houtcome]
        trivial
    | success =>
        simp only [houtcome]
        trivial

/-- Every delivery for a closed owner abstains from starting anything else. -/
theorem handleRetry_abstains (c : RetryController) (w : Surroundings) (l : Ledger) (item : Item)
    (hclosed : context.ownerCancelled = true) :
    (c.handleRetry item context).Obeys w.Answers (fun _ => c.Abstains l.attempts item)
      (fun _ _ => True) l := by
  suffices hdeliver : (c.deliver item context).Obeys w.Answers
      (fun _ => c.Abstains l.attempts item) (fun _ _ => True) l from
    Task.obeys_bind.mpr (hdeliver.imp fun _ _ _ => trivial)
  unfold deliver
  cases hpayload : RetryPayload.decode? item.payload.toNode with
  | none => trivial
  | some payload =>
      cases payload with
      | initialFailure payment account amount failure failedAt =>
          exact (firstFailure_of_closed hclosed payment account amount failure failedAt).imp_rule
            fun _ _ hstarts => .inl hstarts
      | scheduledRetry payment account number amount =>
          refine (scheduledAttempt_of_closed hclosed payment number).imp_rule ?_
          intro l' request hasked
          refine hasked.imp_right ?_
          rintro ⟨a, hget, houtcome, hresumes⟩
          exact ⟨a, ⟨payment, account, number, amount, hpayload, hget, houtcome⟩, hresumes⟩

/-- **A delivery for a closed owner starts nothing**, unless it finds its attempt failed; then it starts
no more than the attempt after that and its item. Otherwise the items are left alone, and no attempt is
recorded but a first one. -/
theorem closed_owner_starts_nothing (c : RetryController) (w : Surroundings) (l : Ledger)
    (item : Item) (context : HandlerContext) (hclosed : context.ownerCancelled = true) :
    (c.handleRetry item context).Obeys w.Answers (fun _ => c.Abstains l.attempts item)
        (fun _ _ => True) l ∧
      ((∀ a, ¬ FindsFailed l.attempts item a) → ∀ result l',
        (c.handleRetry item context).Runs w.Answers l result l' → l.LeftAlone l') := by
  have habstains := handleRetry_abstains c w l item hclosed
  refine ⟨habstains, ?_⟩
  intro hother result l' run
  -- Where no attempt is found failed, every request starts nothing.
  have hstep : ∀ (m : Ledger) request answer n, l.LeftAlone m → c.Abstains l.attempts item request →
      w.Answers request m answer n → l.LeftAlone n := by
    rintro m request answer n hbefore (hstarts | ⟨a, hfinds, -⟩) h
    · exact hbefore.trans (h.leftAlone hstarts)
    · exact absurd hfinds (hother a)
  exact ((habstains.and_inv hstep (.refl l)).of_runs run).2

end

/-! ### An attempt that is followed up after its owner was closed -/

/-- The context of a delivery at noon for a closed owner. -/
def closing : HandlerContext := { now := Instant.noon, ownerCancelled := true }

/-- The delivery of the second attempt in it. -/
def closedDelivery : HandlerProgram := noonController.handleRetry noonRetry closing

/-- What comes of it. -/
def afterClosing (l : Ledger) : Ledger :=
  (closedDelivery.run (Ledger.reply (Surroundings.unrestricted .succeeded)) l).2

theorem closedDelivery_runs {l : Ledger}
    (h : (closedDelivery.run (Ledger.reply (Surroundings.unrestricted .succeeded)) l).1 =
      .ok (.ok .done)) :
    closedDelivery.Runs Surroundings.sound.Answers l (.ok .done) (afterClosing l) :=
  Task.runs_of_run (Surroundings.answers_of_reply (w := .sound)
    (Surroundings.unrestricted .succeeded) fun _ _ _ => trivial) (Prod.ext h rfl)

/-- The second attempt is pending: it is given up, and nothing else comes of the delivery. -/
theorem closed_owner_starts_nothing_pending :
    closedDelivery.Runs Surroundings.sound.Answers noonPending (.ok .done)
        (afterClosing noonPending) ∧
      noonPending.LeftAlone (afterClosing noonPending) ∧
      ((afterClosing noonPending).attempts.get? noonPayment 2).map Attempt.outcome =
        some .aborted := by
  have hend : (((afterClosing noonPending).attempts.get? noonPayment 2).map Attempt.outcome,
      (closedDelivery.run (Ledger.reply (Surroundings.unrestricted .succeeded)) noonPending).1) =
        (some .aborted, .ok (.ok .done)) := by cbv
  obtain ⟨houtcome, hvalue⟩ := Prod.mk.inj hend
  have hother : ∀ a, ¬ FindsFailed noonPending.attempts noonRetry a := by
    rintro a ⟨payment, account, number, amount, hpayload, hget, hfailed⟩
    rw [noonRetry, noonItem, Item.payload_ofNew, RetryPayload.decode?_scheduledRetry] at hpayload
    cases hpayload
    obtain rfl : noonAttempt = a := Option.some.inj hget
    cases hfailed
  exact ⟨closedDelivery_runs hvalue, (closed_owner_starts_nothing noonController .sound noonPending
    noonRetry closing rfl).2 hother _ _ (closedDelivery_runs hvalue), houtcome⟩

/-- **The delivery for a closed owner can schedule an attempt.** The charge of the second attempt is
declined, and the third attempt cannot be recorded at that time. When the item is delivered again, the
owner is closed, and still the third attempt is recorded and its item created. -/
theorem closed_owner_can_be_scheduled :
    (∃ e, noonDelivery.Runs (Surroundings.shaky .declined).Answers noonPending (.error e)
        interrupted) ∧
      interrupted.attempts.records.map Attempt.number = [2] ∧ interrupted.work.items = [] ∧
      closing.ownerCancelled = true ∧
      closedDelivery.Runs Surroundings.sound.Answers interrupted (.ok .done)
        (afterClosing interrupted) ∧
      (afterClosing interrupted).attempts.records.map Attempt.number = [2, 3] ∧
      (afterClosing interrupted).work.items.map (Item.retries noonPayment 3) = [true] := by
  obtain ⟨-, -, hinterrupted⟩ := noonDelivery_runs
  have hbefore : (interrupted.attempts.records.map Attempt.number, interrupted.work.items.length) =
      ([2], 0) := by cbv
  have hafter : ((afterClosing interrupted).attempts.records.map Attempt.number,
      (afterClosing interrupted).work.items.map (Item.retries noonPayment 3),
      (closedDelivery.run (Ledger.reply (Surroundings.unrestricted .succeeded)) interrupted).1) =
        ([2, 3], [true], .ok (.ok .done)) := by cbv
  obtain ⟨hnumbers, hitems⟩ := Prod.mk.inj hbefore
  obtain ⟨hnumbers', hrest⟩ := Prod.mk.inj hafter
  obtain ⟨hitems', hvalue⟩ := Prod.mk.inj hrest
  exact ⟨hinterrupted, hnumbers, List.length_eq_zero_iff.mp hitems, rfl,
    closedDelivery_runs hvalue, hnumbers', hitems'⟩

end RetryController

end Dunning
