import Dunning.Billing.Ingress
import Dunning.Proofs.Payment.Charges
import Dunning.Proofs.Wire.Payload

/-!
# Chains of attempts

The attempts of a payment are numbered from 1 without a gap, up to a ceiling that no policy can
raise. All of them are charged to one account for one amount, adjustments apart. An attempt that
waits has at most one open item, which is found by reading the payloads of all open items of the
account.

The two stores are written one after the other, and any call may fail or be the last of its delivery.
So the two halves of the invariant are kept apart: the attempts are a chain whatever the items are,
and the items belong to attempts that only change their outcome.

## Main definitions

* `AttemptStore.Chained` — the attempts of each payment are a chain.
* `Ledger.Scheduled` — every item of an attempt was created for it, and one at most is open.
* `RetryController.retrying` — deliveries, events and settlements in any order.

## Main results

* `Ledger.Change.chained` — every move keeps the chains.
* `RetryController.chains_are_bounded` — both halves hold whatever is delivered.
-/

namespace Dunning

/-! ## Attempts -/

namespace AttemptStore

/-- The numbers of the attempts of a payment, in the order in which they were recorded. -/
def numbersOf (s : AttemptStore) (payment : PaymentId) : List Nat :=
  (s.records.filter fun a => a.payment == payment).map fun a => a.number.toNat

/-- The attempts of every payment are a chain of bounded length. -/
structure Chained (limit : UInt32) (s : AttemptStore) : Prop where
  numbers : ∀ payment, ∃ k ≤ limit.toNat, s.numbersOf payment = List.range' 1 k
  first : ∀ a ∈ s.records, ∃ b, s.get? a.payment 1 = some b ∧ a.account = b.account ∧
    a.amount = b.amount

theorem mem_numbersOf {s : AttemptStore} {payment : PaymentId} {number : UInt32} :
    number.toNat ∈ s.numbersOf payment ↔ ∃ a, s.get? payment number = some a := by
  rw [← Option.isSome_iff_exists, get?, List.find?_isSome]
  simp only [numbersOf, List.mem_map, List.mem_filter, isAttempt_iff, beq_iff_eq,
    UInt32.toNat_inj, and_assoc]

theorem numbersOf_add (s : AttemptStore) (a : Attempt) (payment : PaymentId) :
    (s.add a).numbersOf payment =
      s.numbersOf payment ++ if a.payment = payment then [a.number.toNat] else [] := by
  unfold numbersOf add
  rw [List.filter_append, List.map_append]
  by_cases hpayment : a.payment = payment
  · simp [hpayment]
  · simp [hpayment]

theorem numbersOf_replace (s : AttemptStore) (a : Attempt) (payment : PaymentId) :
    (s.replace a).numbersOf payment = s.numbersOf payment := by
  have hpayment (r : Attempt) :
      (if isAttempt a.payment a.number r then a else r).payment = r.payment := by
    by_cases hr : isAttempt a.payment a.number r = true
    · rw [if_pos hr, (isAttempt_iff.mp hr).1]
    · rw [if_neg hr]
  have hnumber (r : Attempt) :
      (if isAttempt a.payment a.number r then a else r).number = r.number := by
    by_cases hr : isAttempt a.payment a.number r = true
    · rw [if_pos hr, (isAttempt_iff.mp hr).2]
    · rw [if_neg hr]
  unfold numbersOf replace
  simp only [List.filter_map, List.map_map, Function.comp_def, hpayment, hnumber]

/-- A chain goes on with the number after its last one. -/
theorem Chained.numbers_add {limit : UInt32} {s : AttemptStore} (chained : s.Chained limit)
    {a : Attempt} (hnumber : a.number.toNat = (s.numbersOf a.payment).length + 1)
    (hlimit : a.number.toNat ≤ limit.toNat) (payment : PaymentId) :
    ∃ k ≤ limit.toNat, (s.add a).numbersOf payment = List.range' 1 k := by
  rw [numbersOf_add]
  obtain ⟨k, hk, hrange⟩ := chained.numbers payment
  by_cases hpayment : a.payment = payment
  · subst hpayment
    rw [hrange, List.length_range'] at hnumber
    refine ⟨k + 1, by omega, ?_⟩
    rw [if_pos rfl, hrange, List.range'_concat, hnumber]
    simp [Nat.add_comm]
  · refine ⟨k, hk, ?_⟩
    rw [if_neg hpayment, List.append_nil, hrange]

end AttemptStore

theorem UInt32.toNat_succ_of_lt {n limit : UInt32} (h : n < limit) :
    (n + 1).toNat = n.toNat + 1 := by
  have hlimit := limit.toNat_lt
  rw [UInt32.lt_iff_toNat_lt] at h
  rw [UInt32.toNat_add, Nat.mod_eq_of_lt]
  · rfl
  · show n.toNat + 1 < 2 ^ 32
    omega

section

open AttemptStore

variable {limit : UInt32} {l : Ledger} {attempts : AttemptStore}

/-- The first attempt of a payment stays, so those that agreed with it still do. -/
private theorem Ledger.Change.agrees_with_first (change : l.Change limit attempts) {a : Attempt}
    (h : ∃ b, l.attempts.get? a.payment 1 = some b ∧ a.account = b.account ∧ a.amount = b.amount) :
    ∃ b, attempts.get? a.payment 1 = some b ∧ a.account = b.account ∧ a.amount = b.amount := by
  obtain ⟨b, hb, haccount, hamount⟩ := h
  obtain ⟨b', hb', halike, -⟩ := change.exists_of_get? hb
  exact ⟨b', hb', haccount.trans halike.account, hamount.trans halike.amount⟩

/-- An attempt that the program knows agrees with the first one. -/
private theorem Ledger.Knows.agrees_with_first {a : Attempt} {outcome : AttemptOutcome}
    (hknows : l.Knows a outcome) (chained : l.attempts.Chained limit) :
    ∃ b, l.attempts.get? a.payment 1 = some b ∧ a.account = b.account ∧ a.amount = b.amount := by
  obtain ⟨stored, hstored, halike, -⟩ := hknows
  obtain ⟨b, hb, haccount, hamount⟩ := chained.first stored (mem_of_get? hstored)
  rw [← halike.payment] at hb
  exact ⟨b, hb, halike.account.trans haccount, halike.amount.trans hamount⟩

private theorem Ledger.Change.chained_of_settled {a : Attempt} {outcome : AttemptOutcome}
    {now : Instant}
    (change : l.Change limit (l.attempts.replace (RetryController.finished a outcome now)))
    (hknows : l.Knows a a.outcome) (chained : l.attempts.Chained limit) :
    (l.attempts.replace (RetryController.finished a outcome now)).Chained limit := by
  refine ⟨?_, ?_⟩
  · intro payment
    rw [numbersOf_replace]
    exact chained.numbers payment
  · intro r hr
    obtain ⟨r', hr', rfl⟩ := List.mem_map.mp hr
    by_cases hkey : isAttempt a.payment a.number r' = true
    · simp only [RetryController.finished, hkey, if_true]
      exact change.agrees_with_first (hknows.agrees_with_first chained)
    · simp only [RetryController.finished, hkey, if_false, Bool.false_eq_true]
      exact change.agrees_with_first (chained.first r' hr')

/-- The first attempt of a payment begins a chain. -/
private theorem Ledger.Change.chained_of_first {a : Attempt} (hlimit : 1 ≤ limit)
    (change : l.Change limit (l.attempts.add a)) (hnone : l.attempts.get? a.payment a.number = .none)
    (hnumber : a.number = 1) (chained : l.attempts.Chained limit) :
    (l.attempts.add a).Chained limit := by
  obtain ⟨k, hk, hrange⟩ := chained.numbers a.payment
  have hempty : k = 0 := by
    have hmem : ¬(1 : UInt32).toNat ∈ l.attempts.numbersOf a.payment := by
      rw [mem_numbersOf, ← hnumber, hnone]
      simp
    rw [hrange, List.mem_range'_1, UInt32.toNat_one] at hmem
    omega
  rw [UInt32.le_iff_toNat_le] at hlimit
  refine ⟨chained.numbers_add ?_ (hnumber ▸ hlimit), ?_⟩
  · rw [hrange, hempty, hnumber]
    rfl
  · intro r hr
    rcases List.mem_append.mp hr with hr | hr
    · exact change.agrees_with_first (chained.first r hr)
    · obtain rfl := List.mem_singleton.mp hr
      exact ⟨r, hnumber ▸ get?_add_self hnone, rfl, rfl⟩

/-- The attempt after one that is recorded is the next of its chain. -/
private theorem Ledger.Change.chained_of_next {a : Attempt} {id : Uuid} {due now : Instant}
    {adjusted : Option UInt64} (change : l.Change limit (l.attempts.add (a.next id due adjusted now)))
    (hknows : l.Knows a .failed) (hnumber : a.number < limit)
    (hnone : l.attempts.get? a.payment (a.number + 1) = .none)
    (chained : l.attempts.Chained limit) :
    (l.attempts.add (a.next id due adjusted now)).Chained limit := by
  have hsucc := UInt32.toNat_succ_of_lt hnumber
  obtain ⟨k, hk, hrange⟩ := chained.numbers a.payment
  have hlast : k = a.number.toNat := by
    obtain ⟨stored, hstored, -, -⟩ := hknows
    have hmem := mem_numbersOf.mpr ⟨stored, hstored⟩
    have hnext : ¬(a.number + 1).toNat ∈ l.attempts.numbersOf a.payment := by
      rw [mem_numbersOf, hnone]
      simp
    rw [hrange, List.mem_range'_1] at hmem hnext
    omega
  rw [UInt32.lt_iff_toNat_lt] at hnumber
  refine ⟨chained.numbers_add ?_ ?_, ?_⟩
  · show (a.number + 1).toNat = (l.attempts.numbersOf a.payment).length + 1
    rw [hrange, List.length_range', hsucc, hlast]
  · show (a.number + 1).toNat ≤ limit.toNat
    omega
  · intro r hr
    rcases List.mem_append.mp hr with hr | hr
    · exact change.agrees_with_first (chained.first r hr)
    · obtain rfl := List.mem_singleton.mp hr
      have hfirst := change.agrees_with_first (hknows.agrees_with_first chained)
      exact hfirst

/-- **Every move keeps the chains.** -/
theorem Ledger.Change.chained (hlimit : 1 ≤ limit) (change : l.Change limit attempts)
    (chained : l.attempts.Chained limit) : attempts.Chained limit := by
  cases hchange : change with
  | none => exact chained
  | settled hknows => exact change.chained_of_settled hknows chained
  | first hnone hnumber => exact change.chained_of_first hlimit hnone hnumber chained
  | next hknows hnumber hnone => exact change.chained_of_next hknows hnumber hnone chained

end

/-! ## Items -/

namespace Item

theorem payload_ofNew (id : ItemId) (new : NewItem) (clock : Instant) :
    (ofNew id new clock).payload = new.payload := rfl

/-- Whether an item asks for an attempt. -/
def retries (payment : PaymentId) (number : UInt32) (i : Item) : Bool :=
  match RetryPayload.decode? i.payload.toNode with
  | some (.scheduledRetry p _ n _) => p == payment && n == number
  | _ => false

/-- Whether an item of the queue of attempts asks for an attempt and has not ended. -/
def isOpenRetryOf (payment : PaymentId) (number : UInt32) (i : Item) : Bool :=
  i.queue == retryQueue && !i.status.isTerminal && i.retries payment number

theorem retries_of_decode {i : Item} {p : PaymentId} {account : AccountId} {n : UInt32}
    {amount : UInt64}
    (h : RetryPayload.decode? i.payload.toNode = some (.scheduledRetry p account n amount))
    (payment : PaymentId) (number : UInt32) :
    i.retries payment number = (p == payment && n == number) := by
  unfold retries
  rw [h]

theorem retries_of_ne {i : Item} (h : ∀ p account n amount,
    RetryPayload.decode? i.payload.toNode ≠ some (.scheduledRetry p account n amount))
    (payment : PaymentId) (number : UInt32) : i.retries payment number = false := by
  unfold retries
  split
  · rename_i hdecode
    exact absurd hdecode (h _ _ _ _)
  · rfl

theorem isOpenRetryOf_iff {payment : PaymentId} {number : UInt32} {i : Item} :
    i.isOpenRetryOf payment number = true ↔ i.queue = retryQueue ∧ i.status.isTerminal = false ∧
      i.retries payment number = true := by
  simp only [isOpenRetryOf, Bool.and_eq_true, beq_iff_eq, Bool.not_eq_true', and_assoc]

end Item

namespace RetryController

/-- The controller recognizes the items of an attempt by what they ask for. -/
theorem isItemOf_eq (a : Attempt) (i : Item) : isItemOf a i = i.retries a.payment a.number := by
  unfold isItemOf Item.retries
  rcases RetryPayload.decode? i.payload.toNode with
    _ | ⟨payment, account, amount, failure, failedAt⟩ | ⟨payment, account, number, amount⟩
  · rfl
  · rfl
  · rfl

theorem decode?_payloadOf (a : Attempt) : RetryPayload.decode? (payloadOf a).toJson.toNode =
    some (.scheduledRetry a.payment a.account a.number a.effectiveAmount) :=
  RetryPayload.decode?_scheduledRetry ..

/-- The item that is created for an attempt asks for it and for no other. -/
theorem retries_itemOf (a : Attempt) (id : ItemId) (clock : Instant) (payment : PaymentId)
    (number : UInt32) : (Item.ofNew id (itemOf a) clock).retries payment number =
      (a.payment == payment && a.number == number) := by
  have hdecode : RetryPayload.decode? (Item.ofNew id (itemOf a) clock).payload.toNode =
      some (.scheduledRetry a.payment a.account a.number a.effectiveAmount) := by
    rw [Item.payload_ofNew]
    exact decode?_payloadOf a
  exact Item.retries_of_decode hdecode _ _

theorem payloadOf_eq_of_alike {a b : Attempt} (h : a.Alike b) : payloadOf a = payloadOf b := by
  rw [payloadOf, payloadOf, h.payment, h.account, h.number, h.effectiveAmount]

theorem itemOf_eq_of_alike {a b : Attempt} (h : a.Alike b) : itemOf a = itemOf b := by
  rw [itemOf, itemOf, payloadOf_eq_of_alike h, h.account, h.scheduledFor]

end RetryController

/-- Whether an item was created for an attempt that is stored. -/
structure Ledger.CreatedFor (l : Ledger) (a : Attempt) (i : Item) : Prop where
  stored : l.attempts.get? a.payment a.number = some a
  owner : i.owner = a.account.render
  payload : i.payload = (RetryController.payloadOf a).toJson
  noted : .answered (.work (.enqueue (RetryController.itemOf a))) (.ok i.id) ∈ l.past

/-- Every item that asks for an attempt was created for it, and at most one of them is open. -/
structure Ledger.Scheduled (l : Ledger) : Prop where
  distinct : l.work.Distinct
  created : ∀ i ∈ l.work.items, i.queue = retryQueue → ∀ payment number,
    i.retries payment number = true →
      ∃ a, a.payment = payment ∧ a.number = number ∧ l.CreatedFor a i
  single : ∀ payment number, l.work.items.countP (Item.isOpenRetryOf payment number) ≤ 1

/-- What a run has come to is not undone: attempts stay, and so does the history. -/
structure Ledger.Extends (l l' : Ledger) : Prop where
  attempts : ∀ payment number a, l.attempts.get? payment number = some a →
    ∃ b, l'.attempts.get? payment number = some b ∧ a.Alike b
  past : ∀ e ∈ l.past, e ∈ l'.past

/-- An item stays created for its attempt. -/
theorem Ledger.CreatedFor.extends {l l' : Ledger} {a : Attempt} {i j : Item}
    (h : l.CreatedFor a i) (hextends : l.Extends l') (hid : j.id = i.id)
    (howner : j.owner = i.owner) (hpayload : j.payload = i.payload) :
    ∃ b, a.Alike b ∧ l'.CreatedFor b j := by
  obtain ⟨b, hb, halike⟩ := hextends.attempts _ _ _ h.stored
  refine ⟨b, halike, ?_, ?_, ?_, ?_⟩
  · rw [← halike.payment, ← halike.number, hb]
  · rw [howner, h.owner, halike.account]
  · rw [hpayload, h.payload, RetryController.payloadOf_eq_of_alike halike]
  · rw [hid, ← RetryController.itemOf_eq_of_alike halike]
    exact hextends.past _ h.noted

namespace Ledger.Scheduled

variable {l l' : Ledger}

/-- Nothing is created. -/
theorem of_same (scheduled : l.Scheduled) (hextends : l.Extends l') (hwork : l'.work = l.work) :
    l'.Scheduled := by
  refine ⟨hwork ▸ scheduled.distinct, ?_, fun p n => hwork ▸ scheduled.single p n⟩
  intro i hi hqueue payment number hretries
  obtain ⟨a, rfl, rfl, hcreated⟩ := scheduled.created i (hwork ▸ hi) hqueue _ _ hretries
  obtain ⟨b, halike, hb⟩ := hcreated.extends hextends rfl rfl rfl
  exact ⟨b, halike.payment.symm, halike.number.symm, hb⟩

/-- What is created for an attempt is the only open item that asks for it. -/
theorem of_step (scheduled : l.Scheduled) (hextends : l.Extends l') {e : WorkEvent}
    (step : l.work.Step e l'.work)
    (hcreated : ∀ i ∈ e.created, i.queue = retryQueue → ∀ payment number,
      i.retries payment number = true →
        (∃ a, a.payment = payment ∧ a.number = number ∧ l'.CreatedFor a i) ∧
          l.work.items.countP (Item.isOpenRetryOf payment number) = 0) : l'.Scheduled := by
  refine ⟨step.distinct scheduled.distinct, ?_, ?_⟩
  · intro j hj hqueue payment number hretries
    rcases step.of_mem scheduled.distinct hj with ⟨i, hi, hchange⟩ | hnew
    · obtain ⟨hqueue', howner, hpayload⟩ := hchange.frame
      have hretries' : i.retries payment number = true := by
        rw [Item.retries, ← hpayload]
        exact hretries
      obtain ⟨a, rfl, rfl, ha⟩ := scheduled.created i hi (hqueue' ▸ hqueue) _ _ hretries'
      obtain ⟨b, halike, hb⟩ := ha.extends hextends hchange.id_eq howner hpayload
      exact ⟨b, halike.payment.symm, halike.number.symm, hb⟩
    · exact (hcreated j hnew hqueue payment number hretries).1
  · intro payment number
    obtain ⟨change, hitems, hchange⟩ := step.items scheduled.distinct
    have hold : (l.work.items.map change).countP (Item.isOpenRetryOf payment number) ≤
        l.work.items.countP (Item.isOpenRetryOf payment number) := by
      rw [List.countP_map]
      refine List.countP_mono_left ?_
      intro i hi hopen
      obtain ⟨hqueue, hstatus, hretries⟩ := Item.isOpenRetryOf_iff.mp hopen
      obtain ⟨hqueue', -, hpayload⟩ := (hchange i hi).frame
      refine Item.isOpenRetryOf_iff.mpr ⟨hqueue' ▸ hqueue, ?_, ?_⟩
      · by_contra hterminal
        rw [(hchange i hi).isTerminal (by simpa using hterminal)] at hstatus
        cases hstatus
      · rw [Item.retries, ← hpayload]
        exact hretries
    rw [hitems, List.countP_append]
    by_cases hnew : e.created.countP (Item.isOpenRetryOf payment number) = 0
    · rw [hnew]
      exact hold.trans (scheduled.single payment number)
    · obtain ⟨i, hi, hopen⟩ := List.countP_pos_iff.mp (Nat.pos_of_ne_zero hnew)
      obtain ⟨hqueue, -, hretries⟩ := Item.isOpenRetryOf_iff.mp hopen
      have hnone := (hcreated i hi hqueue payment number hretries).2
      have hlength := (List.countP_le_length (p := Item.isOpenRetryOf payment number)).trans
        e.length_created_le
      omega

end Ledger.Scheduled

/-! ## Steps -/

/-- What the rest of the system asks of the store of items. It creates no item of an attempt. -/
def Request.IsForeign : Request → Prop
  | .work (.enqueue new) => new.queue = retryQueue → ∀ id clock payment number,
      (Item.ofNew id new clock).retries payment number = false
  | .work _ => True
  | _ => False

section

variable {w : Surroundings} {limit : UInt32} {l l' : Ledger} {request : Request}
  {answer : request.Answer}

theorem Request.IsForeign.attempts_eq (hforeign : request.IsForeign)
    (h : w.Answers request l answer l') : l'.attempts = l.attempts := by
  refine h.attempts_eq ?_
  intro r hcharge
  subst hcharge
  exact hforeign

theorem Ledger.extends_of_answers (hallowed : l.Move limit request ∨ request.IsForeign)
    (h : w.Answers request l answer l') : l.Extends l' := by
  refine ⟨?_, ?_⟩
  · intro payment number a hget
    rcases hallowed with move | hforeign
    · obtain ⟨b, hb, halike, -⟩ := (move.change h).exists_of_get? hget
      exact ⟨b, hb, halike⟩
    · exact ⟨a, by rw [hforeign.attempts_eq h, hget], .refl a⟩
  · intro e he
    rw [h.past]
    exact List.mem_cons_of_mem _ he

/-- The item that is created for an attempt without one is the only one. -/
private theorem Ledger.Scheduled.of_schedule (scheduled : l.Scheduled) {a : Attempt}
    (hstored : l.attempts.get? a.payment a.number = some a)
    (hitem : (l.work.pendingForOwner retryQueue a.account.render).any
      (RetryController.isItemOf a) = false) :
    l.work.items.countP (Item.isOpenRetryOf a.payment a.number) = 0 := by
  rw [List.countP_eq_zero]
  intro i hi hopen
  obtain ⟨hqueue, hstatus, hretries⟩ := Item.isOpenRetryOf_iff.mp hopen
  obtain ⟨b, hpayment, hnumber, hcreated⟩ := scheduled.created i hi hqueue _ _ hretries
  have hsame : b = a := by
    have hget := hcreated.stored
    rw [hpayment, hnumber, hstored] at hget
    exact (Option.some.inj hget).symm
  have hpending := WorkStore.mem_pendingForOwner.mpr ⟨hi, hqueue, hsame ▸ hcreated.owner, hstatus⟩
  have hnone := List.any_eq_false.mp hitem i hpending
  rw [RetryController.isItemOf_eq] at hnone
  exact hnone hretries

/-- Every move and every foreign request keeps the items and their attempts together. -/
theorem Ledger.Scheduled.step (scheduled : l.Scheduled)
    (hallowed : l.Move limit request ∨ request.IsForeign) (h : w.Answers request l answer l') :
    l'.Scheduled := by
  have hextends := Ledger.extends_of_answers hallowed h
  by_cases hrequest : ∃ r, request = .work r
  · obtain ⟨request, rfl⟩ := hrequest
    rcases h with ⟨clock, fresh, work, step, rfl⟩ | ⟨e, _, _, rfl⟩
    · refine scheduled.of_step hextends step ?_
      intro i hi hqueue payment number hretries
      cases request with
      | enqueue new =>
          obtain rfl := List.mem_singleton.mp hi
          rcases hallowed with move | hforeign
          · cases move with
            | look hfree hlook => exact hlook.elim
            | schedule hfree hstored hpending hitem =>
                rename_i a
                rw [RetryController.retries_itemOf, Bool.and_eq_true, beq_iff_eq, beq_iff_eq]
                  at hretries
                obtain ⟨rfl, rfl⟩ := hretries
                obtain rfl : answer = .ok fresh :=
                  (Prod.mk.inj (Option.some.inj step.responds)).1.symm
                exact ⟨⟨a, rfl, rfl, hstored, rfl, rfl, List.mem_cons_self⟩,
                  scheduled.of_schedule hstored hitem⟩
            | recheck =>
                have hne : refreshQueue ≠ retryQueue := by decide
                exact absurd hqueue hne
          · rw [hforeign hqueue] at hretries
            cases hretries
      | markOwnerCancelled owner now =>
          obtain rfl := List.mem_singleton.mp hi
          have hne : cancellationQueue ≠ retryQueue := by decide
          exact absurd hqueue hne
      | _ => exact absurd hi List.not_mem_nil
    · exact scheduled.of_same hextends rfl
  · exact scheduled.of_same hextends (h.work_eq fun r hr => hrequest ⟨r, hr⟩)

end

/-! ## Sequences -/

/-- Surroundings in which every call may fail and any answer be given. -/
def Surroundings.failing : Surroundings where
  fails _ _ := True
  gives _ _ := True

namespace RetryController

/-- Deliveries under one ceiling by any policies, with events and everything else that is asked of
the store of items between them. All of it may be stopped at any time. -/
def retrying (maxAttempts : UInt32) : Sequence.Rules Request Request.Answer Ledger where
  starts t :=
    (∃ policy item context,
        t = (({ policy } : RetryController).withMaxAttempts maxAttempts).delivery item context) ∨
      (∃ event : BillingEvent, t = event.publish.bind fun _ => .done ()) ∨
      ∃ request : WorkRequest, (∀ new, request ≠ .enqueue new) ∧
        t = .ask (.work request) fun _ => .done ()
  answers := Surroundings.failing.Answers
  stops l l' := l' = l.noting .stopped

end RetryController

namespace BillingEvent

/-- No event creates the item of a scheduled attempt. -/
theorem isForeign_of_item? {event : BillingEvent} {new : NewItem} (h : event.item? = some new) :
    (Request.work (.enqueue new)).IsForeign := by
  have hrefresh : refreshQueue ≠ retryQueue := by decide
  have hbilling : billingDateQueue ≠ retryQueue := by decide
  intro hqueue id clock payment number
  cases event with
  | paymentFailed account payment amount failure occurredAt =>
      obtain rfl := Option.some.inj h
      refine Item.retries_of_ne ?_ _ _
      rw [Item.payload_ofNew]
      exact RetryPayload.decode?_initialFailure_ne payment account amount failure occurredAt
  | billingDateScheduled =>
      obtain rfl := Option.some.inj h
      exact absurd hqueue hbilling
  | accountClosed => cases h
  | _ =>
      obtain rfl := Option.some.inj h
      exact absurd hqueue hrefresh

variable {w : Surroundings} {rule : Ledger → Request → Prop} {l : Ledger}

theorem withdraw_obeys (hforeign : ∀ l request, request.IsForeign → rule l request)
    (owner : String) (now : Instant) (queues : List String) (hfree : l.Free) :
    (withdraw owner now queues).Obeys w.Answers rule (fun _ l' => l'.Free) l := by
  induction queues generalizing l with
  | nil => exact hfree
  | cons queue rest ih =>
      refine ⟨hforeign _ _ trivial, ?_⟩
      intro answer l' h
      rcases answer with e | count
      · exact h.free (by simp)
      · exact ih (h.free (by simp))

/-- Publishing an event asks for nothing but foreign items. -/
theorem publish_obeys (hforeign : ∀ l request, request.IsForeign → rule l request)
    (event : BillingEvent) :
    event.publish.Obeys w.Answers rule (fun _ l' => l'.Free) l := by
  unfold publish
  cases hitem : event.item? with
  | some new =>
      refine ⟨hforeign l _ (isForeign_of_item? hitem), ?_⟩
      intro answer l' h
      exact h.free (by simp)
  | none =>
      simp only [Task.bind_eq, Task.pure_eq, close, Program.markOwnerCancelled, Task.bind_ask,
        Task.bind_done]
      refine ⟨hforeign _ _ trivial, ?_⟩
      intro answer l' h
      have hfree' := h.free (by simp)
      rcases answer with e | u
      · exact hfree'
      · rw [Task.obeys_bind]
        exact (withdraw_obeys hforeign _ _ _ hfree').imp fun _ _ hfree => hfree

end BillingEvent

namespace RetryController

theorem one_le_ceiling (maxAttempts : UInt32) : 1 ≤ max maxAttempts 1 := by
  show 1 ≤ if maxAttempts ≤ 1 then 1 else maxAttempts
  split
  · exact UInt32.le_refl 1
  · rename_i h
    rw [UInt32.le_iff_toNat_le] at h ⊢
    omega

/-- All that runs keeps to the moves and to foreign requests, and both keep chains and items. -/
theorem retrying_conduct (maxAttempts : UInt32) : Sequence.Conduct (retrying maxAttempts)
    (fun l request => l.Move (max maxAttempts 1) request ∨ request.IsForeign) Ledger.Free
    (fun l => l.attempts.Chained (max maxAttempts 1) ∧ l.Scheduled) where
  obeys := by
    intro t l hstarts hfree _
    rcases hstarts with ⟨policy, item, context, rfl⟩ | ⟨event, rfl⟩ | ⟨request, hrequest, rfl⟩
    · have hobeys : ((({ policy } : RetryController).withMaxAttempts maxAttempts).handleRetry item
          context).Obeys Surroundings.failing.Answers (Ledger.Move (max maxAttempts 1))
          (fun _ l' => l'.Free) l := handleRetry_obeys item context (UInt32.le_refl _) hfree
      unfold delivery
      rw [Task.obeys_bind]
      exact (hobeys.imp_rule fun _ _ move => .inl move).imp fun _ _ hfree => hfree
    · rw [Task.obeys_bind]
      exact (event.publish_obeys fun _ _ hforeign => .inr hforeign).imp fun _ _ hfree => hfree
    · refine ⟨.inr ?_, ?_⟩
      · cases request with
        | enqueue new => exact absurd rfl (hrequest new)
        | _ => trivial
      · intro answer l' h
        have h : Surroundings.failing.Answers (.work request) l answer l' := h
        exact h.free (by simp)
  keeps := by
    intro l request answer l' hinv hallowed h
    obtain ⟨chained, scheduled⟩ := hinv
    refine ⟨?_, scheduled.step hallowed h⟩
    rcases hallowed with move | hforeign
    · exact (move.change h).chained (one_le_ceiling maxAttempts) chained
    · rw [hforeign.attempts_eq h]
      exact chained
  stops := by
    intro l _ hinv hstop
    obtain ⟨chained, scheduled⟩ := hinv
    subst hstop
    refine ⟨⟨chained, scheduled.of_same ⟨?_, ?_⟩ rfl⟩, rfl⟩
    · exact fun _ _ a hget => ⟨a, hget, .refl a⟩
    · exact fun e he => List.mem_cons_of_mem _ he

private theorem numbers_ofPayment {limit : UInt32} {s : AttemptStore} (chained : s.Chained limit)
    (payment : PaymentId) : ∃ k ≤ limit.toNat,
      (s.ofPayment payment).map (fun a => a.number.toNat) = List.range' 1 k := by
  obtain ⟨k, hk, hrange⟩ := chained.numbers payment
  have hsorted : (s.records.filter fun a => a.payment == payment).Pairwise
      fun a b => decide (a.number ≤ b.number) = true := by
    have hnumbers : (s.numbersOf payment).Pairwise (· ≤ ·) := by
      rw [hrange]
      exact List.pairwise_le_range'
    refine (List.pairwise_map.mp hnumbers).imp ?_
    intro a b hle
    rw [decide_eq_true_iff, UInt32.le_iff_toNat_le]
    exact hle
  refine ⟨k, hk, ?_⟩
  rw [AttemptStore.ofPayment, List.mergeSort_of_pairwise hsorted, ← hrange]
  rfl

/-- **Chains are well formed and bounded.** Whatever is delivered and published, whatever fails and
wherever it stops, the attempts of a payment are numbered from 1 without a gap up to the ceiling at
most, and all belong to the account and the amount of the first. An attempt has at most one open
item; it asks for the amount of the attempt, and it was created to be due when the attempt is. What
an attempt is recorded with never changes. -/
theorem chains_are_bounded (maxAttempts : UInt32) {q : Sequence Request Request.Answer Ledger}
    (h : Sequence.Reaches (retrying maxAttempts) ⟨{}, none⟩ q) :
    (∀ payment,
        (∃ k ≤ (max maxAttempts 1).toNat,
          (q.state.attempts.ofPayment payment).map (fun a => a.number.toNat) = List.range' 1 k) ∧
        ∀ a ∈ q.state.attempts.ofPayment payment, a.payment = payment ∧
          ∃ first, q.state.attempts.get? payment 1 = some first ∧ a.account = first.account ∧
            a.amount = first.amount) ∧
      (∀ payment number,
        (q.state.work.items.filter (Item.isOpenRetryOf payment number)).length ≤ 1 ∧
        ∀ i ∈ q.state.work.items.filter (Item.isOpenRetryOf payment number),
          ∃ a, q.state.attempts.get? payment number = some a ∧
            RetryPayload.decode? i.payload.toNode =
              some (.scheduledRetry payment a.account number a.effectiveAmount) ∧
            .answered (.work (.enqueue ⟨retryQueue, i.owner, a.scheduledFor, i.payload⟩))
              (.ok i.id) ∈ q.state.past) ∧
      ∀ r, Sequence.Reaches (retrying maxAttempts) q r → ∀ payment number a,
        q.state.attempts.get? payment number = some a →
          ∃ b, r.state.attempts.get? payment number = some b ∧ a.Alike b := by
  have hempty : ({} : Ledger).attempts.Chained (max maxAttempts 1) ∧ ({} : Ledger).Scheduled := by
    refine ⟨⟨fun _ => ⟨0, Nat.zero_le _, rfl⟩, ?_⟩, WorkStore.distinct_empty, ?_, ?_⟩
    · exact fun _ hmem => absurd hmem List.not_mem_nil
    · exact fun _ hmem => absurd hmem List.not_mem_nil
    · exact fun _ _ => Nat.zero_le 1
  have hfree : ({} : Ledger).Free := rfl
  have hsound := (Sequence.Sound.of_idle hfree hempty).reaches (retrying_conduct maxAttempts) h
  obtain ⟨chained, scheduled⟩ := hsound.kept
  refine ⟨?_, ?_, ?_⟩
  · intro payment
    refine ⟨numbers_ofPayment chained payment, ?_⟩
    intro a ha
    rw [AttemptStore.ofPayment, List.mem_mergeSort, List.mem_filter, beq_iff_eq] at ha
    obtain ⟨hmem, rfl⟩ := ha
    exact ⟨rfl, chained.first a hmem⟩
  · intro payment number
    rw [← List.countP_eq_length_filter]
    refine ⟨scheduled.single payment number, ?_⟩
    intro i hi
    obtain ⟨hmem, hopen⟩ := List.mem_filter.mp hi
    obtain ⟨hqueue, -, hretries⟩ := Item.isOpenRetryOf_iff.mp hopen
    obtain ⟨a, rfl, rfl, hcreated⟩ := scheduled.created i hmem hqueue _ _ hretries
    refine ⟨a, hcreated.stored, ?_, ?_⟩
    · rw [hcreated.payload, decode?_payloadOf]
    · rw [hcreated.owner, hcreated.payload]
      exact hcreated.noted
  · intro r hreach payment number a hget
    refine hsound.later (retrying_conduct maxAttempts) hreach (fun l =>
      ∃ b, l.attempts.get? payment number = some b ∧ a.Alike b) ?_ ?_ ⟨a, hget, .refl a⟩
    · intro l request answer l' _ hproperty hallowed hanswers
      obtain ⟨b, hb, halike⟩ := hproperty
      obtain ⟨b', hb', halike'⟩ := (Ledger.extends_of_answers hallowed hanswers).attempts _ _ _ hb
      exact ⟨b', hb', halike.trans halike'⟩
    · intro l _ hproperty hstop
      subst hstop
      exact hproperty

/-- The delivery of the failed first charge under a ceiling of four attempts. -/
def noonFailureDelivery : Program Unit :=
  (({ policy := ({} : DaySchedule).policy } : RetryController).withMaxAttempts 4).delivery
    noonFailure { now := Instant.noon }

/-- What has come of it. -/
def firstScheduled : Ledger :=
  (noonFailureDelivery.run (Ledger.reply (Surroundings.unrestricted .succeeded)) {}).2

theorem noonFailureDelivery_runs :
    (firstScheduled.attempts.records.map Attempt.number = [1, 2] ∧
      firstScheduled.work.items.length = 1) ∧
      noonFailureDelivery.Runs Surroundings.failing.Answers {} () firstScheduled := by
  have hrun : ((firstScheduled.attempts.records.map Attempt.number,
      firstScheduled.work.items.length),
      (noonFailureDelivery.run (Ledger.reply (Surroundings.unrestricted .succeeded)) {}).1) =
        (([1, 2], 1), .ok ()) := by cbv
  obtain ⟨hstores, hvalue⟩ := Prod.mk.inj hrun
  have hanswers := Surroundings.answers_of_reply (w := .failing)
    (Surroundings.unrestricted .succeeded) fun _ _ _ => trivial
  exact ⟨Prod.mk.inj hstores, Task.runs_of_run hanswers (Prod.ext hvalue rfl)⟩

/-- The first failure leaves a chain of two attempts and one item. -/
theorem chains_are_bounded_first_scheduled :
    Sequence.Reaches (retrying 4) ⟨{}, none⟩ ⟨firstScheduled, none⟩ ∧
      firstScheduled.attempts.records.map Attempt.number = [1, 2] ∧
      firstScheduled.work.items.length = 1 ∧
      ∀ payment, ∃ k ≤ (max 4 1 : UInt32).toNat,
        (firstScheduled.attempts.ofPayment payment).map (fun a => a.number.toNat) =
          List.range' 1 k := by
  obtain ⟨⟨hnumbers, hitems⟩, hrun⟩ := noonFailureDelivery_runs
  have hstarts : (retrying 4).starts noonFailureDelivery := .inl ⟨_, _, _, rfl⟩
  have hreach : Sequence.Reaches (retrying 4) ⟨{}, none⟩ ⟨firstScheduled, none⟩ :=
    Sequence.reaches_of_runs hstarts hrun
  exact ⟨hreach, hnumbers, hitems, fun payment => ((chains_are_bounded 4 hreach).1 payment).1⟩

end RetryController

end Dunning
