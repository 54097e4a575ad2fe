import Dunning.Proofs.Payment.Moves
import Dunning.Proofs.Task.Sequence
import Mathlib

/-!
# No attempt is charged twice

Items are delivered one after another, in any order and any number of times. Calls may fail without
effect; only an outcome that is to be recorded is recorded. Then the gateway answers the charge of an
attempt at most once. The attempt leaves the pending state before anything else is asked, and nothing
ever brings it back.

A program that gives up, or waits for an answer that never comes, ends the sequence of deliveries.

## Main definitions

* `RetryController.delivery`, `RetryController.deliveries` — deliveries one after another.
* `Surroundings.recording` — surroundings that record every outcome and promise nothing else.
* `Ledger.Recorded` — the invariant: an answered charge is recorded, unless it is owed still.

## Main results

* `RetryController.charged_at_most_once` — one answer for each attempt, whatever is delivered.
-/

namespace Dunning

/-- The delivery of an item, whatever becomes of it. -/
def RetryController.delivery (c : RetryController) (item : Item) (context : HandlerContext) :
    Program Unit :=
  (c.handleRetry item context).bind fun _ => .done ()

/-- Deliveries of any items by any controllers, one after another. -/
def RetryController.deliveries (w : Surroundings) :
    Sequence.Rules Request Request.Answer Ledger where
  starts t := ∃ c item context, t = RetryController.delivery c item context
  answers := w.Answers

/-- Every call may fail or be answered in any way, but outcomes of attempts are recorded. -/
def Surroundings.recording : Surroundings where
  fails request _ := ∀ a, request ≠ .attempt (.update a)
  gives _ _ := True

/-- Every charge was answered at most once, and what was answered is recorded, unless it was answered
just now. -/
structure Ledger.Recorded (l : Ledger) : Prop where
  once : ∀ payment number, l.charges payment number ≤ 1
  settled : ∀ payment number, l.charges payment number ≠ 0 →
    ∃ a, l.attempts.get? payment number = some a ∧
      (a.outcome = .pending → l.owing = some (payment, number))

section

variable {limit : UInt32} {l l' : Ledger} {request : Request} {answer : request.Answer}

/-- When no answer waits to be recorded, every charged attempt is settled. -/
private theorem Ledger.Recorded.settled_of_free (recorded : l.Recorded) (hfree : l.Free)
    {payment : PaymentId} {number : UInt32} (hcharges : l.charges payment number ≠ 0) :
    ∃ a, l.attempts.get? payment number = some a ∧ a.outcome ≠ .pending := by
  obtain ⟨a, hget, howing⟩ := recorded.settled payment number hcharges
  refine ⟨a, hget, ?_⟩
  intro hpending
  have howed := howing hpending
  rw [Ledger.Free, howed] at hfree
  cases hfree

/-- Without a charge, the answers that were recorded stay recorded. -/
private theorem Ledger.Recorded.of_free {w : Surroundings} (recorded : l.Recorded)
    (hfree : l.Free) (move : l.Move limit request) (h : w.Answers request l answer l')
    (hrequest : ∀ r, request ≠ .charge r) : l'.Recorded := by
  have hcharges := h.charges_eq hrequest
  refine ⟨fun p n => hcharges p n ▸ recorded.once p n, ?_⟩
  intro payment number hne
  rw [hcharges] at hne
  obtain ⟨a, hget, houtcome⟩ := recorded.settled_of_free hfree hne
  obtain ⟨b, hget', -, hback⟩ := (move.change h).exists_of_get? hget
  exact ⟨b, hget', fun hpending => absurd (hback hpending) houtcome⟩

/-- A charge is the first of its attempt. -/
private theorem Ledger.Recorded.of_charge {w : Surroundings} (recorded : l.Recorded)
    (hfree : l.Free) {a : Attempt} {payment : PaymentId} {number : UInt32}
    (hget : l.attempts.get? payment number = some a) (hpending : a.outcome = .pending)
    {answer : Except CollaboratorError ChargeResult}
    (h : w.Answers (.charge (RetryController.requestOf a payment number)) l answer l') :
    l'.Recorded := by
  have hattempts := h.attempts_eq (by simp)
  have hpast := h.past
  rcases answer with e | result
  · have hcharges (p : PaymentId) (n : UInt32) : l'.charges p n = l.charges p n := by
      rw [Ledger.charges, hpast, List.countP_cons_of_neg]
      · rfl
      · exact Bool.false_ne_true
    refine ⟨fun p n => hcharges p n ▸ recorded.once p n, ?_⟩
    intro p n hne
    obtain ⟨b, hb, houtcome⟩ := recorded.settled_of_free hfree (hcharges p n ▸ hne)
    exact ⟨b, hattempts ▸ hb, fun hpending => absurd hpending houtcome⟩
  · have hcharges (p : PaymentId) (n : UInt32) :
        l'.charges p n = l.charges p n + if payment = p ∧ number = n then 1 else 0 :=
      h.charges_of_charge p n
    have hfirst : l.charges payment number = 0 := by
      by_contra hne
      obtain ⟨b, hb, houtcome⟩ := recorded.settled_of_free hfree hne
      rw [hget] at hb
      exact houtcome (Option.some.inj hb ▸ hpending)
    refine ⟨?_, ?_⟩
    · intro p n
      rw [hcharges]
      by_cases hkey : payment = p ∧ number = n
      · obtain ⟨rfl, rfl⟩ := hkey
        rw [hfirst]
        simp
      · rw [if_neg hkey]
        exact recorded.once p n
    · intro p n hne
      by_cases hkey : payment = p ∧ number = n
      · obtain ⟨rfl, rfl⟩ := hkey
        refine ⟨a, hattempts ▸ hget, fun _ => ?_⟩
        rw [Ledger.owing, hpast]
        rfl
      · rw [hcharges, if_neg hkey] at hne
        obtain ⟨b, hb, houtcome⟩ := recorded.settled_of_free hfree hne
        exact ⟨b, hattempts ▸ hb, fun hpending => absurd hpending houtcome⟩

/-- Settling the charged attempt records the answer. -/
private theorem Ledger.Recorded.of_settle (recorded : l.Recorded) {a : Attempt}
    {outcome : AttemptOutcome} {now : Instant}
    (howing : ∀ key, l.owing = some key → key = (a.payment, a.number))
    (hknows : l.Knows a a.outcome) (houtcome : outcome ≠ .pending)
    {answer : Except StoreError Unit}
    (h : Surroundings.recording.Answers
      (.attempt (.update (RetryController.finished a outcome now))) l answer l') :
    l'.Recorded := by
  obtain ⟨stored, hstored, halike, -⟩ := hknows
  have hattempts : l'.attempts = l.attempts.replace (RetryController.finished a outcome now) := by
    rcases h.update with ⟨_, _, _, _, hreplace⟩ | ⟨hnone, _⟩ | ⟨_, hfails, _⟩
    · exact hreplace
    · exact absurd ⟨stored, hstored, halike.id.symm⟩ hnone
    · exact absurd rfl (hfails _)
  have hcharges := h.charges_eq (by simp)
  refine ⟨fun p n => hcharges p n ▸ recorded.once p n, ?_⟩
  intro p n hne
  by_cases hkey : p = a.payment ∧ n = a.number
  · obtain ⟨rfl, rfl⟩ := hkey
    refine ⟨RetryController.finished a outcome now, ?_, fun hpending => absurd hpending houtcome⟩
    rw [hattempts]
    exact AttemptStore.get?_replace_self (a := RetryController.finished a outcome now) hstored
  · obtain ⟨b, hb, howed⟩ := recorded.settled p n (hcharges p n ▸ hne)
    refine ⟨b, ?_, ?_⟩
    · rw [hattempts, AttemptStore.get?_replace_of_ne
        (a := RetryController.finished a outcome now) _ hkey, hb]
    · intro hpending
      have hsame := howing _ (howed hpending)
      exact absurd ⟨congrArg Prod.fst hsame, congrArg Prod.snd hsame⟩ hkey

/-- Every move leaves the answered charges recorded. -/
theorem Ledger.Recorded.step (recorded : l.Recorded) (move : l.Move limit request)
    (h : Surroundings.recording.Answers request l answer l') : l'.Recorded := by
  have hfreely (hfree : l.Free) (hrequest : ∀ r, request ≠ .charge r) : l'.Recorded :=
    recorded.of_free hfree move h hrequest
  cases move with
  | look hfree hlook =>
      refine hfreely hfree ?_
      intro r hcharge
      subst hcharge
      exact hlook
  | giveUp => exact nomatch answer
  | charge hfree hget hpending => exact recorded.of_charge hfree hget hpending h
  | settle howing hknows hopen houtcome => exact recorded.of_settle howing hknows houtcome h
  | first hfree => exact hfreely hfree (by simp)
  | next hfree => exact hfreely hfree (by simp)
  | schedule hfree => exact hfreely hfree (by simp)
  | recheck hfree => exact hfreely hfree (by simp)

end

namespace RetryController

/-- Deliveries one after another keep to the moves, and the moves keep the answers recorded. -/
theorem deliveries_conduct : Sequence.Conduct (deliveries .recording)
    (Ledger.Move (.ofNat 4294967295)) Ledger.Free Ledger.Recorded where
  obeys := by
    intro t l hstarts hfree _
    obtain ⟨c, item, context, rfl⟩ := hstarts
    have hlimit : c.maxAttempts ≤ .ofNat 4294967295 := by
      rw [UInt32.le_iff_toNat_le]
      exact Nat.le_of_lt_succ c.maxAttempts.toNat_lt
    unfold delivery
    rw [Task.obeys_bind]
    exact (handleRetry_obeys item context hlimit hfree).imp fun _ _ hfree => hfree
  keeps _ _ _ _ recorded move h := recorded.step move h
  stops _ _ _ h := h.elim

/-- **No attempt is charged twice.** Items are delivered one after another from empty stores. Then
the charge of every attempt was answered at most once, and an attempt that is not pending never
becomes pending again. -/
theorem charged_at_most_once {q : Sequence Request Request.Answer Ledger}
    (h : Sequence.Reaches (deliveries .recording) ⟨{}, none⟩ q) :
    (∀ payment number, q.state.charges payment number ≤ 1) ∧
      ∀ r, Sequence.Reaches (deliveries .recording) q r → ∀ payment number a,
        q.state.attempts.get? payment number = some a → a.outcome ≠ .pending →
          ∃ b, r.state.attempts.get? payment number = some b ∧ b.id = a.id ∧
            b.outcome ≠ .pending := by
  have hempty : ({} : Ledger).Recorded := ⟨fun _ _ => Nat.zero_le 1, fun _ _ hne => absurd rfl hne⟩
  have hfree : ({} : Ledger).Free := rfl
  have hsound := (Sequence.Sound.of_idle hfree hempty).reaches deliveries_conduct h
  refine ⟨hsound.kept.once, ?_⟩
  intro r hreach payment number a hget houtcome
  refine hsound.later deliveries_conduct hreach (fun l =>
    ∃ b, l.attempts.get? payment number = some b ∧ b.id = a.id ∧ b.outcome ≠ .pending) ?_
    (fun _ _ _ hstop => hstop.elim) ⟨a, hget, rfl, houtcome⟩
  intro l request answer l' _ hproperty move hanswers
  obtain ⟨b, hb, hid, hsettled⟩ := hproperty
  obtain ⟨b', hb', halike, hback⟩ := (move.change hanswers).exists_of_get? hb
  exact ⟨b', hb', halike.id.symm.trans hid, fun hpending => hsettled (hback hpending)⟩

/-! ### A payment that its first retry collects -/

/-- The payment of the deliveries below. -/
def noonPayment : PaymentId := ⟨.ofNat 1⟩

/-- The account that it is charged to. -/
def noonAccount : AccountId := ⟨.ofNat 2⟩

/-- The item of some payload, due at noon. -/
def noonItem (payload : RetryPayload) : Item :=
  Item.ofNew ⟨.ofNat 3⟩ ⟨retryQueue, noonAccount.render, Instant.noon, payload.toJson⟩ Instant.noon

/-- The item of the failed first charge. -/
def noonFailure : Item :=
  noonItem (.initialFailure noonPayment noonAccount 500 .declined Instant.noon)

/-- The item of the second attempt. -/
def noonRetry : Item := noonItem (.scheduledRetry noonPayment noonAccount 2 500)

/-- A controller that tries again after eight days. -/
def noonController : RetryController := ⟨({} : DaySchedule).policy, 4⟩

/-- The first failure is delivered, then the second attempt, which collects the payment. -/
def noonCollection : Program Unit :=
  (noonController.delivery noonFailure { now := Instant.noon }).bind fun _ =>
    noonController.delivery noonRetry { now := Instant.noon }

/-- What has come of both deliveries. -/
def collected : Ledger :=
  (noonCollection.run (Ledger.reply (Surroundings.unrestricted .succeeded)) {}).2

theorem noonCollection_runs : collected.charges noonPayment 2 = 1 ∧
    noonCollection.Runs Surroundings.recording.Answers {} () collected := by
  have hrun : (collected.charges noonPayment 2,
      (noonCollection.run (Ledger.reply (Surroundings.unrestricted .succeeded)) {}).1) =
        (1, .ok ()) := by cbv
  obtain ⟨hcharges, hvalue⟩ := Prod.mk.inj hrun
  have hanswers := Surroundings.answers_of_reply (w := .recording)
    (Surroundings.unrestricted .succeeded) fun _ _ _ => trivial
  exact ⟨hcharges, Task.runs_of_run hanswers (Prod.ext hvalue rfl)⟩

/-- The second attempt is charged, and that is answered once. -/
theorem charged_at_most_once_collected :
    Sequence.Reaches (deliveries .recording) ⟨{}, none⟩ ⟨collected, none⟩ ∧
      collected.charges noonPayment 2 = 1 ∧
      ∀ payment number, collected.charges payment number ≤ 1 := by
  obtain ⟨hcharges, hrun⟩ := noonCollection_runs
  obtain ⟨_, l, hfirst, hsecond⟩ := Task.runs_bind.mp hrun
  have hstarts (item : Item) (context : HandlerContext) : (deliveries .recording).starts
      (noonController.delivery item context) := ⟨_, item, context, rfl⟩
  have hreach : Sequence.Reaches (deliveries .recording) ⟨{}, none⟩ ⟨collected, none⟩ :=
    (Sequence.reaches_of_runs (hstarts noonFailure _) hfirst).trans
      (Sequence.reaches_of_runs (hstarts noonRetry _) hsecond)
  exact ⟨hreach, hcharges, (charged_at_most_once hreach).1⟩

end RetryController

end Dunning
