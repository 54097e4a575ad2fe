import Dunning.Proofs.Overdue.Versions
import Dunning.Proofs.Payment.Chains
import Dunning.Proofs.Service.Running

/-!
# Closed accounts are left alone

Closing an account marks its owner. The mark stays, and a dispatcher looks it up before it runs a
handler. What is looked up is the owner of the item, while what is acted on is an account that the
handler reads out of the owner or out of an attempt. That these are the same is a matter of the whole
run: items are only ever created for the account that they are about, attempts keep their accounts,
and both are found again as they were written.

## Main definitions

* `Item.Fits` — an item is owned by the account that its handling acts on.
* `Shared.Allows`, `Shared.Extends` — what may be asked, and what stays true of the stores.
* `Shared.Confirms` — what an exchange told still holds.
* `Shared.Accounts` — the stores are in order and agree with all that was told.
* `LeftAlone` — what has become of an account since it was closed.

## Main results

* `Shared.Sound.step`, `Shared.Accounts.step` — what a request and its answer keep.
* `Shared.Accounts.says_of_may` — whoever acts on an account was told that it is not closed.
* `closed_accounts_are_left_alone` — the law, for everything that begins after the closing.
-/

namespace Dunning

open Simulation (refuseWork refuseState refuseAttempt)

/-! ## Items -/

/-- The owner of what belongs to an account names that account. -/
theorem ownerAccount?_render (account : AccountId) :
    ownerAccount? account.render = some account := by
  rw [ownerAccount?, AccountId.parse?, AccountId.render, Uuid.parse?_render]
  rfl

/-- An item is owned by an account, and when it asks for an attempt then that is stored for this
account. -/
structure Item.Fits (i : Item) (attempts : AttemptStore) : Prop where
  owner : ∃ account : AccountId, i.owner = account.render
  attempt : i.queue = retryQueue → ∀ payment account number amount,
    RetryPayload.decode? i.payload.toNode = some (.scheduledRetry payment account number amount) →
    ∃ stored, attempts.get? payment number = some stored ∧ i.owner = stored.account.render

namespace Item.Fits

variable {i j : Item} {attempts later : AttemptStore}

theorem of_frame (h : i.Fits attempts)
    (hframe : j.queue = i.queue ∧ j.owner = i.owner ∧ j.payload = i.payload) : j.Fits attempts := by
  obtain ⟨hqueue, howner, hpayload⟩ := hframe
  refine ⟨howner ▸ h.owner, ?_⟩
  rw [hqueue, howner, hpayload]
  exact h.attempt

/-- An item of another queue asks for no attempt. -/
theorem of_queue {account : AccountId} (howner : i.owner = account.render)
    (hqueue : i.queue ≠ retryQueue) : i.Fits attempts :=
  ⟨⟨account, howner⟩, fun hretry => absurd hretry hqueue⟩

theorem of_kept (h : i.Fits attempts)
    (hkept : ∀ payment number stored, attempts.get? payment number = some stored →
      ∃ found, later.get? payment number = some found ∧ found.account = stored.account) :
    i.Fits later := by
  refine ⟨h.owner, ?_⟩
  intro hqueue payment account number amount hpayload
  obtain ⟨stored, hstored, howner⟩ := h.attempt hqueue payment account number amount hpayload
  obtain ⟨found, hfound, haccount⟩ := hkept payment number stored hstored
  exact ⟨found, hfound, by rw [howner, haccount]⟩

end Item.Fits

theorem refreshQueue_ne_retryQueue : refreshQueue ≠ retryQueue := by decide

/-- The item of an event fits. -/
theorem BillingEvent.fits_of_item? {event : BillingEvent} {new : NewItem}
    (h : event.item? = some new) (id : ItemId) (clock : Instant) (attempts : AttemptStore) :
    (Item.ofNew id new clock).Fits attempts := by
  have hbilling : billingDateQueue ≠ retryQueue := by decide
  cases event with
  | paymentFailed account payment amount failure occurredAt =>
      obtain rfl := Option.some.inj h
      refine ⟨⟨account, rfl⟩, ?_⟩
      intro _ p a n m hpayload
      rw [Item.payload_ofNew] at hpayload
      exact absurd hpayload (RetryPayload.decode?_initialFailure_ne _ _ _ _ _ p a n m)
  | billingDateScheduled account =>
      obtain rfl := Option.some.inj h
      exact .of_queue rfl hbilling
  | accountClosed => cases h
  | invoiceCreated account | invoiceDue account | paymentSucceeded account =>
      obtain rfl := Option.some.inj h
      exact .of_queue rfl refreshQueue_ne_retryQueue

/-! ## Stores -/

namespace Shared

/-- Whether an attempt of the same payment and number is stored for the same account. -/
def Holds (s : Shared) (a : Attempt) : Prop :=
  ∃ stored, s.attempts.get? a.payment a.number = some stored ∧ stored.account = a.account

/-- What stays true: attempts keep their accounts, what was handed out stays so, and marks stay. -/
structure Extends (s s' : Shared) : Prop where
  attempts : ∀ payment number stored, s.attempts.get? payment number = some stored →
    ∃ found, s'.attempts.get? payment number = some found ∧ found.account = stored.account
  handedOut : s.handedOut ⊆ s'.handedOut
  marks : ∀ owner, s.work.isOwnerCancelled owner = true → s'.work.isOwnerCancelled owner = true

/-- Every item that is stored or was handed out fits, and no two stored ones have one identifier. -/
structure Sound (s : Shared) : Prop where
  distinct : s.work.Distinct
  items : ∀ i ∈ s.work.items, i.Fits s.attempts
  handedOut : ∀ i ∈ s.handedOut, i.Fits s.attempts

/-- What may be asked: new items fit, marks are those of accounts, and attempts keep theirs. -/
def Allows (s : Shared) : Request → Prop
  | .work (.enqueue new) => ∀ id clock, (Item.ofNew id new clock).Fits s.attempts
  | .work (.markOwnerCancelled owner _) => ∃ account : AccountId, owner = account.render
  | .attempt (.update a) => s.Holds a
  | _ => True

variable {s s' : Shared}

theorem Extends.refl (s : Shared) : s.Extends s where
  attempts _ _ stored hstored := ⟨stored, hstored, rfl⟩
  handedOut := List.Subset.refl _
  marks _ h := h

theorem Extends.holds (h : s.Extends s') {a : Attempt} (hholds : s.Holds a) : s'.Holds a := by
  obtain ⟨stored, hstored, haccount⟩ := hholds
  obtain ⟨found, hfound, hsame⟩ := h.attempts _ _ stored hstored
  exact ⟨found, hfound, hsame.trans haccount⟩

theorem sound_empty : Sound {} where
  distinct := WorkStore.distinct_empty
  items _ h := by cases h
  handedOut _ h := by cases h

/-- A plain request is allowed. -/
theorem allows_of_isPlain {request : Request} (h : request.isPlain = true) : s.Allows request := by
  unfold Allows
  split
  · cases h
  · cases h
  · cases h
  · trivial

/-- A request that acts on an account is allowed. -/
theorem allows_of_actsOn? {request : Request} {account : AccountId}
    (h : request.actsOn? = some account) : s.Allows request := by
  unfold Allows
  split
  · cases h
  · cases h
  · cases h
  · trivial

/-- What is created may be created. -/
theorem fits_of_mem_created {e : WorkEvent} {i : Item} (hallows : s.Allows (.work e.request))
    (h : i ∈ e.created) : i.Fits s.attempts := by
  have hqueue : cancellationQueue ≠ retryQueue := by decide
  obtain ⟨clock, fresh, request, answer⟩ := e
  cases request with
  | enqueue new =>
      obtain rfl := List.mem_singleton.mp h
      exact hallows fresh clock
  | markOwnerCancelled owner now =>
      obtain rfl := List.mem_singleton.mp h
      obtain ⟨account, rfl⟩ := hallows
      exact .of_queue rfl hqueue
  | _ => cases h

/-- An event of the store of work items leaves the items fitting and the marks in place. -/
theorem Sound.work_step (sound : s.Sound) {e : WorkEvent} {work : WorkStore}
    (hallows : s.Allows (.work e.request)) (step : s.work.Step e work) :
    s.Extends { s with work, handedOut := e.handedOut ++ s.handedOut } ∧
      Sound { s with work, handedOut := e.handedOut ++ s.handedOut } := by
  refine ⟨⟨fun _ _ stored hstored => ⟨stored, hstored, rfl⟩, List.subset_append_right _ _, ?_⟩,
    step.distinct sound.distinct, ?_, ?_⟩
  · intro owner hmarked
    obtain ⟨i, hi, hqueue, howner⟩ := WorkStore.isOwnerCancelled_eq_true_iff.mp hmarked
    obtain ⟨j, hj, hchange⟩ := step.exists_of_mem sound.distinct hi
    obtain ⟨hsamequeue, hsameowner, -⟩ := hchange.frame
    exact WorkStore.isOwnerCancelled_eq_true_iff.mpr
      ⟨j, hj, hsamequeue.trans hqueue, hsameowner.trans howner⟩
  · intro j hj
    rcases step.of_mem sound.distinct hj with ⟨i, hi, hchange⟩ | hcreated
    · exact (sound.items i hi).of_frame hchange.frame
    · exact fits_of_mem_created hallows hcreated
  · intro i hi
    rcases List.mem_append.mp hi with hout | hout
    · obtain ⟨queue, now, lease, batch, claimer, hrequest⟩ := WorkStore.Step.claim_of_mem hout
      obtain ⟨leaseEnd, -, j, hj, -, -, rfl⟩ := step.of_mem_handedOut hrequest hout
      exact (sound.items j hj).of_frame ⟨rfl, rfl, rfl⟩
    · exact sound.handedOut i hout

/-- A change of the store of attempts that keeps the accounts. -/
theorem Sound.attempts_step (sound : s.Sound) {attempts : AttemptStore}
    (hkept : ∀ payment number stored, s.attempts.get? payment number = some stored →
      ∃ found, attempts.get? payment number = some found ∧ found.account = stored.account) :
    s.Extends { s with attempts } ∧ Sound { s with attempts } :=
  ⟨⟨hkept, List.Subset.refl _, fun _ h => h⟩, sound.distinct,
    fun i hi => (sound.items i hi).of_kept hkept,
    fun i hi => (sound.handedOut i hi).of_kept hkept⟩

/-- An allowed request to the store of attempts keeps the accounts. -/
theorem accounts_kept {request : AttemptRequest} {answer : request.Answer} {attempts : AttemptStore}
    (hallows : s.Allows (.attempt request)) (h : s.attempts.respond request = (answer, attempts))
    (payment : PaymentId) (number : UInt32) (stored : Attempt)
    (hstored : s.attempts.get? payment number = some stored) :
    ∃ found, attempts.get? payment number = some found ∧ found.account = stored.account := by
  cases request with
  | insert a =>
      change s.attempts.insert a = (answer, attempts) at h
      rcases s.attempts.insert_cases a with ⟨-, hinsert⟩ | ⟨_, _, -, -, hinsert⟩
      · obtain ⟨-, rfl⟩ := Prod.mk.inj (hinsert.symm.trans h)
        exact ⟨stored, AttemptStore.get?_add_of_some hstored a, rfl⟩
      · obtain ⟨-, rfl⟩ := Prod.mk.inj (hinsert.symm.trans h)
        exact ⟨stored, hstored, rfl⟩
  | update a =>
      change s.attempts.update a = (answer, attempts) at h
      rcases s.attempts.update_cases a with ⟨_, -, -, hupdate⟩ | ⟨-, _, hupdate⟩
      · obtain ⟨-, rfl⟩ := Prod.mk.inj (hupdate.symm.trans h)
        by_cases hkey : payment = a.payment ∧ number = a.number
        · obtain ⟨rfl, rfl⟩ := hkey
          obtain ⟨held, hheld, haccount⟩ := hallows
          obtain rfl := Option.some.inj (hheld.symm.trans hstored)
          exact ⟨a, AttemptStore.get?_replace_self hstored, haccount.symm⟩
        · exact ⟨stored, (s.attempts.get?_replace_of_ne hkey).trans hstored, rfl⟩
      · obtain ⟨-, rfl⟩ := Prod.mk.inj (hupdate.symm.trans h)
        exact ⟨stored, hstored, rfl⟩
  | get | ofPayment =>
      obtain ⟨-, rfl⟩ := Prod.mk.inj h
      exact ⟨stored, hstored, rfl⟩

/-- **An allowed request keeps the stores in order.** -/
theorem Sound.step (sound : s.Sound) {request : Request} {answer : request.Answer}
    (hallows : s.Allows request) (h : Answers request s answer s') : s.Extends s' ∧ s'.Sound := by
  cases request with
  | work request =>
      rcases h with ⟨clock, fresh, work, step, rfl⟩ | ⟨-, rfl⟩
      · exact sound.work_step hallows step
      · exact ⟨.refl s', sound⟩
  | attempt request =>
      rcases h with ⟨attempts, hresponds, rfl⟩ | ⟨-, rfl⟩
      · exact sound.attempts_step (accounts_kept hallows hresponds)
      · exact ⟨.refl s', sound⟩
  | state request =>
      rcases h with ⟨states, -, rfl⟩ | ⟨-, rfl⟩
      · exact ⟨⟨(Extends.refl s).attempts, List.Subset.refl _, fun _ h => h⟩, sound.distinct,
          sound.items, sound.handedOut⟩
      · exact ⟨.refl s', sound⟩
  | _ =>
      obtain rfl := h
      exact ⟨.refl s', sound⟩

/-! ## What was told -/

/-- What an exchange told of the stores that still holds. -/
def Confirms (s : Shared) : Exchange Request Request.Answer → Prop
  | ⟨.attempt (.get payment number), .ok (some a)⟩ =>
    (a.payment = payment ∧ a.number = number) ∧ s.Holds a
  | ⟨.attempt (.insert a), .ok ()⟩ => s.Holds a
  | ⟨.work (.claimDue ..), .ok items⟩ => ∀ i ∈ items, i ∈ s.handedOut
  | ⟨.work (.markOwnerCancelled owner _), .ok ()⟩ => s.work.isOwnerCancelled owner = true
  | ⟨.state (.get account), .ok (some record)⟩ => record.account = account
  | _ => True

theorem Confirms.isHonest {x : Exchange Request Request.Answer} (h : s.Confirms x) :
    x.IsHonest := by
  unfold Exchange.IsHonest
  split
  · exact h
  · exact h.1
  · trivial

theorem Extends.confirms (hextends : s.Extends s') {x : Exchange Request Request.Answer}
    (h : s.Confirms x) : s'.Confirms x := by
  revert h
  unfold Confirms
  split
  · exact fun ⟨hkey, hholds⟩ => ⟨hkey, hextends.holds hholds⟩
  · exact hextends.holds
  · exact fun hout i hi => hextends.handedOut (hout i hi)
  · exact hextends.marks _
  · exact id
  · exact id

/-- A lookup of an owner tells whether he is marked. -/
theorem Answers.isOwnerCancelled {owner : String} {closed : Bool}
    (h : Answers (.work (.isOwnerCancelled owner)) s (.ok closed) s') :
    closed = s.work.isOwnerCancelled owner := by
  rcases h with ⟨clock, fresh, work, step, -⟩ | ⟨⟨e, hrefused⟩, -⟩
  · obtain ⟨hanswer, -⟩ := Prod.mk.inj (Option.some.inj step.responds)
    exact (Except.ok.inj hanswer).symm
  · cases hrefused

/-- What the stores answer holds. -/
theorem confirms_of_answers {x : Exchange Request Request.Answer}
    (h : Answers x.request s x.answer s') : s'.Confirms x := by
  unfold Confirms
  split
  · rename_i payment number a
    rcases h with ⟨attempts, hresponds, rfl⟩ | ⟨⟨e, hrefused⟩, -⟩
    · obtain ⟨hget, rfl⟩ := Prod.mk.inj hresponds
      obtain ⟨rfl, rfl⟩ := AttemptStore.key_of_get? (Except.ok.inj hget)
      exact ⟨⟨rfl, rfl⟩, a, Except.ok.inj hget, rfl⟩
    · cases hrefused
  · rename_i a
    rcases h with ⟨attempts, hresponds, rfl⟩ | ⟨⟨e, hrefused⟩, -⟩
    · change s.attempts.insert a = (.ok (), attempts) at hresponds
      rcases s.attempts.insert_cases a with ⟨hnone, hinsert⟩ | ⟨_, _, -, -, hinsert⟩
      · obtain ⟨-, rfl⟩ := Prod.mk.inj (hinsert.symm.trans hresponds)
        exact ⟨a, AttemptStore.get?_add_self hnone, rfl⟩
      · obtain ⟨habsurd, -⟩ := Prod.mk.inj (hinsert.symm.trans hresponds)
        cases habsurd
    · cases hrefused
  · rcases h with ⟨clock, fresh, work, -, rfl⟩ | ⟨⟨e, hrefused⟩, -⟩
    · exact fun i hi => List.mem_append_left _ hi
    · cases hrefused
  · rcases h with ⟨clock, fresh, work, step, rfl⟩ | ⟨⟨e, hrefused⟩, -⟩
    · obtain ⟨-, rfl⟩ := Prod.mk.inj (Option.some.inj step.responds)
      exact WorkStore.isOwnerCancelled_eq_true_iff.mpr
        ⟨_, List.mem_append_right _ List.mem_cons_self, rfl, rfl⟩
    · cases hrefused
  · rcases h with ⟨states, hresponds, -⟩ | ⟨⟨e, hrefused⟩, -⟩
    · exact StateStore.account_of_get? (Except.ok.inj (Prod.mk.inj hresponds).1)
    · cases hrefused
  · trivial

/-- The stores are in order and agree with all that was told. -/
structure Accounts (s : Shared) (past : ServiceHistory) : Prop where
  sound : s.Sound
  confirms : ∀ x ∈ past.answered, s.Confirms x
  taken : ∀ item, ⟨.take, item⟩ ∈ past → item ∈ s.handedOut

namespace Accounts

variable {past later : ServiceHistory}

theorem empty : Accounts {} [] where
  sound := sound_empty
  confirms _ h := by cases h
  taken _ h := by cases h

/-- They agree with a part of it. -/
theorem anti (h : s.Accounts later) (hsubset : past ⊆ later) : s.Accounts past where
  sound := h.sound
  confirms x hx := h.confirms x (ServiceHistory.answered_mono hsubset hx)
  taken item hitem := h.taken item (hsubset hitem)

theorem fits (h : s.Accounts past) {item : Item} (hitem : past.GivesOut item) :
    item.Fits s.attempts := by
  refine h.sound.handedOut item ?_
  rcases hitem with ⟨queue, now, lease, batch, claimer, items, hclaim, hmem⟩ | htake
  · exact h.confirms _ (ServiceHistory.mem_answered.mpr hclaim) item hmem
  · exact h.taken item htake

/-- An attempt that was read or recorded is stored. -/
theorem holds (h : s.Accounts past) {a : Attempt} (hknows : past.answered.Knows a) : s.Holds a := by
  obtain ⟨b, htells, hpayment, hnumber, haccount⟩ := hknows
  have hholds : s.Holds b := by
    rcases htells with ⟨payment, number, hget⟩ | hinsert
    · exact (h.confirms _ hget).2
    · exact h.confirms _ hinsert
  obtain ⟨stored, hstored, hsame⟩ := hholds
  exact ⟨stored, hpayment ▸ hnumber ▸ hstored, hsame.trans haccount⟩

theorem allows_of_handles (h : s.Accounts past) {item : Item} (hitem : past.GivesOut item)
    {closed : Bool} {request : Request} (hhandles : Handles item closed past.answered request) :
    s.Allows request := by
  cases hhandles with
  | plain hplain => exact allows_of_isPlain hplain
  | act _ _ hacts => exact allows_of_actsOn? hacts
  | charge => trivial
  | update hknows => exact h.holds hknows
  | look howner =>
      intro id clock
      rcases howner with rfl | ⟨account, rfl⟩
      · obtain ⟨account, howner⟩ := (h.fits hitem).owner
        exact .of_queue howner refreshQueue_ne_retryQueue
      · exact .of_queue rfl refreshQueue_ne_retryQueue
  | @schedule a hknows =>
      intro id clock
      refine ⟨⟨a.account, rfl⟩, ?_⟩
      intro _ payment account number amount hpayload
      rw [Item.payload_ofNew] at hpayload
      have hdecode := (RetryController.decode?_payloadOf a).symm.trans hpayload
      simp only [Option.some.injEq, RetryPayload.scheduledRetry.injEq] at hdecode
      obtain ⟨rfl, -, rfl, -⟩ := hdecode
      obtain ⟨stored, hstored, haccount⟩ := h.holds hknows
      exact ⟨stored, hstored, congrArg AccountId.render haccount.symm⟩

/-- Whatever may be asked is allowed. -/
theorem allows_of_may (h : s.Accounts past) {request : Request}
    (hmay : Service.May past (.ask request)) : s.Allows request := by
  cases hmay with
  | plain hplain => exact allows_of_isPlain hplain
  | schedule hevent => exact fun id clock => BillingEvent.fits_of_item? hevent id clock _
  | @close account => exact ⟨account, rfl⟩
  | handle hitem _ hhandles =>
      exact h.allows_of_handles hitem (hhandles fun x hx => (h.confirms x hx).isHonest)

/-- **Whoever acts on an account was told that it is not closed.** -/
theorem says_of_may (h : s.Accounts past) {request : Request} {account : AccountId}
    (hmay : Service.May past (.ask request)) (hacts : request.actsOn? = some account) :
    past.Says account.render false := by
  cases hmay with
  | plain hplain => cases (Request.actsOn?_of_isPlain hplain).symm.trans hacts
  | schedule | close => cases hacts
  | @handle item closed _ hitem hsays hhandles =>
      have hfits := h.fits hitem
      suffices hopen : closed = false ∧ item.owner = account.render by
        obtain ⟨rfl, howner⟩ := hopen
        exact howner ▸ hsays
      cases hhandles fun x hx => (h.confirms x hx).isHonest with
      | plain hplain => cases (Request.actsOn?_of_isPlain hplain).symm.trans hacts
      | update | look | schedule => cases hacts
      | act hopen hnames hactsOn =>
          obtain ⟨owner, howner⟩ := hfits.owner
          rw [howner, ownerAccount?_render] at hnames
          cases Option.some.inj (hactsOn.symm.trans hacts)
          exact ⟨hopen, howner.trans (congrArg AccountId.render (Option.some.inj hnames))⟩
      | @charge payment _ number _ a hopen hqueue hpayload hget =>
          cases hacts
          obtain ⟨⟨rfl, rfl⟩, found, hfound, haccount⟩ := h.confirms _ hget
          obtain ⟨stored, hstored, howner⟩ := hfits.attempt hqueue _ _ _ _ hpayload
          cases hfound.symm.trans hstored
          exact ⟨hopen, howner.trans (congrArg AccountId.render haccount)⟩

/-- **Whatever is asked leaves the stores in order.** A request without an answer is no exception. -/
theorem step (h : s.Accounts past) {call : ServiceCall} {reply : call.Answer}
    (hmay : Service.May past call) (hresponds : Responds call s reply s') :
    s.Extends s' ∧ s'.Accounts (⟨call, reply⟩ :: past) := by
  have hstored (hext : s.Extends s') (x : Exchange Request Request.Answer)
      (hx : x ∈ past.answered) : s'.Confirms x := hext.confirms (h.confirms x hx)
  cases call with
  | take =>
      obtain ⟨hout, rfl⟩ := hresponds
      refine ⟨.refl _, h.sound, h.confirms, ?_⟩
      intro item hitem
      rcases List.mem_cons.mp hitem with heq | hitem
      · cases heq
        exact hout
      · exact h.taken item hitem
  | ask request =>
      have htaken (hext : s.Extends s') (item : Item)
          (hitem : ⟨.take, item⟩ ∈ (⟨.ask request, reply⟩ :: past : ServiceHistory)) :
          item ∈ s'.handedOut := by
        rcases List.mem_cons.mp hitem with heq | hitem
        · cases heq
        · exact hext.handedOut (h.taken item hitem)
      have hallows := h.allows_of_may hmay
      rcases reply with stop | answer
      · obtain ⟨hext, sound⟩ : s.Extends s' ∧ s'.Sound := by
          rcases hresponds with rfl | ⟨answer, hanswers⟩
          · exact ⟨.refl _, h.sound⟩
          · exact h.sound.step hallows hanswers
        exact ⟨hext, sound, hstored hext, htaken hext⟩
      · obtain ⟨hext, sound⟩ := h.sound.step hallows hresponds
        refine ⟨hext, sound, ?_, htaken hext⟩
        intro x hx
        rcases List.mem_cons.mp hx with rfl | hx
        · exact confirms_of_answers hresponds
        · exact hstored hext x hx

end Accounts

end Shared

/-! ## Closed accounts -/

open Interleaving (told mem_told_cons)

/-- The account that a call acts on. -/
def ServiceCall.actsOn? : ServiceCall → Option AccountId
  | .ask request => request.actsOn?
  | .take => none

/-- What the tasks of a service asked and were told, each under its place, the latest first. -/
abbrev ServiceLog : Type := List (Nat × Exchange ServiceCall ServiceCall.Answer)

/-- What has become of an account since it was closed, where `before` was logged until then. -/
structure LeftAlone (account : AccountId) (before : ServiceLog) (s : Shared) (log : ServiceLog) :
    Prop where
  accounts : s.Accounts (log.map Prod.snd)
  closed : s.work.isOwnerCancelled account.render = true
  /-- Whoever has begun since was not told that it is open. -/
  unsaid : ∀ place, told place before = [] →
    ¬ ServiceHistory.Says (told place log) account.render false
  untouched : ∀ place, told place before = [] →
    ∀ exchange ∈ told place log, exchange.request.actsOn? ≠ some account

theorem told_subset (place : Nat) (log : ServiceLog) : told place log ⊆ log.map Prod.snd :=
  fun _ hmem => List.mem_map_of_mem (Interleaving.mem_of_mem_told hmem)

/-- **A call leaves a closed account alone**, unless its task had begun before. -/
theorem LeftAlone.step {account : AccountId} {before log : ServiceLog} {s s' : Shared} {place : Nat}
    {call : ServiceCall} {reply : call.Answer} (left : LeftAlone account before s log)
    (hmay : Service.May (told place log) call) (hresponds : Shared.Responds call s reply s') :
    LeftAlone account before s' ((place, ⟨call, reply⟩) :: log) := by
  have hpart := told_subset place log
  obtain ⟨hext, accounts⟩ := left.accounts.step (hmay.mono hpart) hresponds
  refine ⟨accounts, hext.marks _ left.closed, ?_, ?_⟩
  · intro other hother hsays
    rcases mem_told_cons.mp hsays with ⟨rfl, hlast⟩ | hsays
    · cases hlast
      -- The mark is still there, and the store tells what is there.
      cases (Shared.Answers.isOwnerCancelled hresponds).trans left.closed
    · exact left.unsaid other hother hsays
  · intro other hother exchange hmem hacts
    rcases mem_told_cons.mp hmem with ⟨rfl, rfl⟩ | hmem
    · cases call with
      | take => cases hacts
      | ask request =>
          exact left.unsaid place hother ((left.accounts.anti hpart).says_of_may hmay hacts)
    · exact left.untouched other hother exchange hmem hacts

variable {q r : Interleaving ServiceCall ServiceCall.Answer Shared Unit}

/-- The stores of a service at work agree with all that it was told. -/
theorem Shared.Accounts.of_reaches (h : Interleaving.Reaches Service.running ⟨{}, [], []⟩ q) :
    q.state.Accounts (q.log.map Prod.snd) := by
  let inv (s : Shared) (log : ServiceLog) : Prop := s.Accounts (log.map Prod.snd)
  have hkeeps : inv q.state q.log := by
    refine (Interleaving.Lawful.of_empty {}).keeps Service.running_conduct h ?_ .empty
    intro s log place call reply s' accounts hmay hresponds
    exact (accounts.step (hmay.mono (told_subset place log)) hresponds).2
  exact hkeeps

/-- **Closed accounts are left alone.** Events are published and dispatchers poll in any number and in
every order. Once the mark of an account is written, whatever becomes of the rest of the closing,
nothing that begins afterwards charges the account, generates its invoices, runs its hooks or
restricts it. -/
theorem closed_accounts_are_left_alone {account : AccountId} {closer : Nat} {now : Instant}
    (hq : Interleaving.Reaches Service.running ⟨{}, [], []⟩ q)
    (hr : Interleaving.Reaches Service.running q r)
    (hclosed : (closer, ⟨.ask (.work (.markOwnerCancelled account.render now)), .ok (.ok ())⟩) ∈
      q.log) :
    ∀ place, told place q.log = [] →
      ∀ exchange ∈ told place r.log, exchange.request.actsOn? ≠ some account := by
  have hlawful : Interleaving.Lawful Service.May (fun _ _ => True) q :=
    (Interleaving.Lawful.of_empty {}).reaches Service.running_conduct hq
  have accounts := Shared.Accounts.of_reaches hq
  have hmarked : q.state.work.isOwnerCancelled account.render = true :=
    accounts.confirms _ (ServiceHistory.mem_answered.mpr (List.mem_map_of_mem hclosed))
  have left : LeftAlone account q.log q.state q.log := by
    refine ⟨accounts, hmarked, ?_, ?_⟩
    · intro place hplace hsays
      rw [hplace] at hsays
      cases hsays
    · intro place hplace exchange hmem
      rw [hplace] at hmem
      cases hmem
  exact (hlawful.keeps Service.running_conduct hr (fun _ _ _ _ _ _ left => left.step) left).untouched

/-! ### An account that is closed before its billing date -/

open RetryController (noonAccount noonController)

/-- Answer a call at once. The stores do not fail and time stands still; invoices are generated, and
nothing else is answered. -/
def Shared.reply : (call : ServiceCall) → Shared → Except Stop call.Answer × Shared
  | .ask (.work request), s =>
    let fresh : ItemId := ⟨.ofNat s.work.items.length⟩
    if s.work.items.all fun i => i.id ≠ fresh then
      match s.work.respond .noon fresh request with
      | some (answer, work) =>
        (.ok (.ok answer), { s with
          work, handedOut := WorkEvent.handedOut ⟨.noon, fresh, request, answer⟩ ++ s.handedOut })
      | none => (.error .crashed, s)
    else (.error .crashed, s)
  | .ask (.generateInvoices ..), s => (.ok (.ok (.ok 1)), s)
  | _, s => (.error .crashed, s)

theorem Shared.responds_of_reply (call : ServiceCall) (s : Shared) (answer : call.Answer)
    (s' : Shared) (h : reply call s = (.ok answer, s')) : Responds call s answer s' := by
  unfold reply at h
  split at h
  · rename_i request
    simp only at h
    split at h
    · rename_i hunused
      split at h
      · rename_i answer' work hresponds
        obtain ⟨hanswer, rfl⟩ := Prod.mk.inj h
        obtain rfl := Except.ok.inj hanswer
        refine .inl ⟨Instant.noon, _, work, ⟨?_, hresponds⟩, rfl⟩
        intro i hi
        simpa using List.all_eq_true.mp hunused i hi
      · cases (Prod.mk.inj h).1
    · cases (Prod.mk.inj h).1
  · obtain ⟨hanswer, rfl⟩ := Prod.mk.inj h
    obtain rfl := Except.ok.inj hanswer
    rfl
  · cases (Prod.mk.inj h).1

/-- An account that stays open. -/
def openAccount : AccountId := ⟨.ofNat 8⟩

/-- A service with the default settings. -/
def noonService : Service := ⟨{ dispatcherName := "noon" }, {}, noonController⟩

/-- A billing date of both accounts, the closing of one of them, and a poll. -/
def closingTasks : List (ServiceTask Unit) :=
  [(ServiceTask.ofProgram (BillingEvent.billingDateScheduled noonAccount .noon .noon).publish).bind
      fun _ => .done (),
    (ServiceTask.ofProgram (BillingEvent.billingDateScheduled openAccount .noon .noon).publish).bind
      fun _ => .done (),
    (ServiceTask.ofProgram (BillingEvent.accountClosed noonAccount .noon).publish).bind
      fun _ => .done (),
    (noonService.ofPoll (noonService.dispatcher.poll .noon)).bind fun _ => .done ()]

/-- The closing gets as far as the mark. -/
def noonClosed : Interleaving ServiceCall ServiceCall.Answer Shared Unit :=
  Interleaving.schedule Shared.reply [0, 1, 2] ⟨{}, [], closingTasks⟩

/-- Then the poll runs. -/
def noonPolled : Interleaving ServiceCall ServiceCall.Answer Shared Unit :=
  noonClosed.schedule Shared.reply (List.replicate 12 3)

theorem reaches_noonClosed : Interleaving.Reaches Service.running ⟨{}, [], []⟩ noonClosed := by
  have hstarts : ∀ t ∈ closingTasks, Service.running.starts t := by
    simp only [closingTasks, List.forall_mem_cons]
    exact ⟨.publish _, .publish _, .publish _, .poll _ _, List.forall_mem_nil _⟩
  exact (Interleaving.reaches_started hstarts ⟨{}, [], []⟩).trans
    (Interleaving.reaches_schedule Shared.responds_of_reply _ _)

theorem reaches_noonPolled : Interleaving.Reaches Service.running noonClosed noonPolled :=
  Interleaving.reaches_schedule Shared.responds_of_reply _ _

/-- Both billing dates are delivered after the closing, and the open account gets its invoices. -/
theorem closed_accounts_are_left_alone_noon :
    Interleaving.Reaches Service.running ⟨{}, [], []⟩ noonClosed ∧
      Interleaving.Reaches Service.running noonClosed noonPolled ∧
      (noonPolled.state.work.items.filter fun i => i.queue == billingDateQueue).map Item.status =
        [.processed, .processed] ∧
      (told 3 noonPolled.log).filterMap (fun exchange => exchange.request.actsOn?) =
        [openAccount] ∧
      told 3 noonClosed.log = [] ∧
      ∀ exchange ∈ told 3 noonPolled.log, exchange.request.actsOn? ≠ some noonAccount := by
  have hmark : noonClosed.log.head? = some (2,
      ⟨.ask (.work (.markOwnerCancelled noonAccount.render .noon)), .ok (.ok ())⟩) := by cbv
  have hlater : told 3 noonClosed.log = [] := by cbv
  exact ⟨reaches_noonClosed, reaches_noonPolled, by cbv, by cbv, hlater,
    closed_accounts_are_left_alone reaches_noonClosed reaches_noonPolled (List.mem_of_head? hmark) 3
      hlater⟩

end Dunning
