import Dunning.Proofs.Payment.Decisions
import Dunning.Proofs.Payment.Overlap

/-!
# What comes before a later attempt

Deliveries run one after another, with events and everything else that is asked of the store of
items between them, and each may be stopped on its way. The attempts of a payment are a chain, and
in this chain every attempt with a later one behind it failed and was to be tried again. So a
payment that was collected or given up is not charged again. The first attempt makes the one
exception: it can be given up after the second was recorded, and then the second is charged
nevertheless.

## Main definitions

* `RetryController.Continues` — why an attempt has a next one.
* `RetryController.Followed` — what the attempts of a ledger have to do with the policy.
* `RetryController.following` — deliveries of one controller, and what happens between them.

## Main results

* `RetryController.Followed.step` — following the policy keeps the attempts as they should be.
* `RetryController.later_attempts_follow_failures` — what comes before a later attempt.
* `RetryController.aborted_payment_can_be_charged` — the exception.
-/

namespace Dunning

open AttemptStore

/-! ## Numbers -/

namespace AttemptStore.Chained

variable {limit : UInt32} {s : AttemptStore} {payment : PaymentId} {number later : UInt32}

theorem one_le (chained : s.Chained limit) (h : ∃ a, s.get? payment number = some a) :
    1 ≤ number.toNat := by
  obtain ⟨k, -, hrange⟩ := chained.numbers payment
  have hmem := mem_numbersOf.mpr h
  rw [hrange, List.mem_range'_1] at hmem
  omega

/-- There is no gap below a number. -/
theorem exists_of_le (chained : s.Chained limit) (h : ∃ a, s.get? payment later = some a)
    (hone : 1 ≤ number.toNat) (hle : number.toNat ≤ later.toNat) :
    ∃ a, s.get? payment number = some a := by
  obtain ⟨k, -, hrange⟩ := chained.numbers payment
  have hmem := mem_numbersOf.mpr h
  rw [← mem_numbersOf, hrange, List.mem_range'_1]
  rw [hrange, List.mem_range'_1] at hmem
  omega

/-- Nothing is recorded behind a free number. -/
theorem get?_eq_none (chained : s.Chained limit) (h : s.get? payment number = none)
    (hone : 1 ≤ number.toNat) (hlt : number.toNat ≤ later.toNat) :
    s.get? payment later = none := by
  refine Option.eq_none_iff_forall_ne_some.mpr fun a ha => ?_
  obtain ⟨b, hb⟩ := chained.exists_of_le ⟨a, ha⟩ hone hlt
  rw [h] at hb
  cases hb

end AttemptStore.Chained

/-- What is recorded was recorded before, or the record is in the history. -/
theorem Surroundings.Answers.recorded {w : Surroundings} {l l' : Ledger} {request : Request}
    {answer : request.Answer} (h : w.Answers request l answer l') {payment : PaymentId}
    {number : UInt32} {a : Attempt} (hget : l'.attempts.get? payment number = some a) :
    (∃ b, l.attempts.get? payment number = some b) ∨
      ∃ b : Attempt, .answered (.attempt (.insert b)) (.ok ()) ∈ l'.past ∧ b.payment = payment ∧
        b.number = number := by
  have hsame (hattempts : l'.attempts = l.attempts) :
      ∃ b, l.attempts.get? payment number = some b :=
    ⟨a, hattempts ▸ hget⟩
  cases request with
  | attempt request =>
      cases request with
      | insert b =>
          rcases answer with e | u
          · exact .inl (hsame h.insert_error)
          · rw [h.insert_ok.2] at hget
            rcases get?_add_eq_some hget with hbefore | ⟨-, hpayment, hnumber, -⟩
            · exact .inl ⟨a, hbefore⟩
            · refine .inr ⟨b, ?_, hpayment, hnumber⟩
              rw [h.past]
              exact List.mem_cons_self
      | update b =>
          rcases answer with e | u
          · exact .inl (hsame h.update_error)
          · rw [h.update_ok.2, get?_replace] at hget
            obtain ⟨b, hb, -⟩ := Option.map_eq_some_iff.mp hget
            exact .inl ⟨b, hb⟩
      | get p n => exact .inl (hsame (h.look trivial).attempts)
      | ofPayment p =>
          rcases h with ⟨attempts, hresponds, rfl⟩ | ⟨e, -, -, rfl⟩
          · exact .inl (hsame (Prod.mk.inj hresponds).2.symm)
          · exact .inl ⟨a, hget⟩
  | _ => exact .inl (hsame (h.attempts_eq (by simp)))

namespace RetryController

/-- Why an attempt has a next one: the policy tries it again, or it is the exception. -/
def Continues (c : RetryController) (l : Ledger) (payment : PaymentId) (number : UInt32)
    (a : Attempt) : Prop :=
  c.Retries a ∨ (number = 1 ∧ a.outcome = .aborted ∧ l.ReportedAgain payment)

/-- What the attempts of a ledger have to do with its history and the policy. -/
structure Followed (c : RetryController) (l : Ledger) : Prop where
  recorded : ∀ payment number, (∃ a, l.attempts.get? payment number = some a) →
    ∃ a : Attempt, .answered (.attempt (.insert a)) (.ok ()) ∈ l.past ∧ a.payment = payment ∧
      a.number = number
  charged : ∀ payment number, l.charges payment number ≠ 0 →
    ∃ a, l.attempts.get? payment number = some a
  consecutive : ∀ payment number later a, l.attempts.get? payment number = some a →
    (∃ b, l.attempts.get? payment later = some b) → later.toNat = number.toNat + 1 →
    c.Continues l payment number a

section

variable {w : Surroundings} {c : RetryController} {limit : UInt32} {l l' : Ledger}

/-- A report that came again stays in the history. -/
theorem Continues.mono {payment : PaymentId} {number : UInt32} {a : Attempt}
    (h : c.Continues l payment number a) (hpast : l.past <:+ l'.past) :
    c.Continues l' payment number a := by
  refine h.imp id ?_
  rintro ⟨hnumber, haborted, hagain⟩
  exact ⟨hnumber, haborted, hagain.mono hpast⟩

theorem Followed.of_empty (c : RetryController) : c.Followed {} where
  recorded _ _ h := by
    obtain ⟨a, hget⟩ := h
    cases hget
  charged _ _ h := absurd rfl h
  consecutive _ _ _ _ hget := by cases hget

/-- Second attempts are noted as the exception needs it. -/
theorem Followed.secondsNoted (followed : c.Followed l) (chained : l.attempts.Chained limit) :
    l.SecondsNoted := by
  intro payment hsecond
  exact ⟨chained.exists_of_le hsecond (by decide) (by decide), followed.recorded payment 2 hsecond⟩

/-- The attempts stay as they are. -/
theorem Followed.consecutive_of_same (followed : c.Followed l) (h : l.Onward l')
    {payment : PaymentId} {number later : UInt32} {a : Attempt}
    (hget : l'.attempts.get? payment number = some a)
    (hlater : ∃ b, l'.attempts.get? payment later = some b)
    (hnext : later.toNat = number.toNat + 1) :
    c.Continues l' payment number a := by
  rw [h.attempts] at hget hlater
  exact (followed.consecutive payment number later a hget hlater hnext).mono h.past

/-- The outcome of an attempt is recorded. -/
theorem Followed.settle (followed : c.Followed l) {a : Attempt} {outcome : AttemptOutcome}
    {now : Instant} (hknows : l.Knows a a.outcome) (hopen : a.isTerminal = false)
    (hrespects : c.Respects l (.attempt (.update (finished a outcome now))))
    (hattempts : l'.attempts = l.attempts.replace (finished a outcome now))
    (hpast : l.past <:+ l'.past) {payment : PaymentId} {number later : UInt32} {b : Attempt}
    (hget : l'.attempts.get? payment number = some b)
    (hlater : ∃ next, l'.attempts.get? payment later = some next)
    (hnext : later.toNat = number.toNat + 1) :
    c.Continues l' payment number b := by
  have hbehind : ∃ next, l.attempts.get? payment later = some next := by
    obtain ⟨next, hnextget⟩ := hlater
    rw [hattempts, get?_replace] at hnextget
    obtain ⟨before, hbefore, -⟩ := Option.map_eq_some_iff.mp hnextget
    exact ⟨before, hbefore⟩
  by_cases hkey : payment = a.payment ∧ number = a.number
  · obtain ⟨rfl, rfl⟩ := hkey
    obtain ⟨stored, hstored, halike, houtcome⟩ := hknows
    obtain rfl : finished a outcome now = b := by
      have hself := get?_replace_self (a := finished a outcome now) hstored
      rw [hattempts] at hget
      exact Option.some.inj (hself.symm.trans hget)
    -- The stored attempt has not ended, so it is not the exception.
    have hretries : c.Retries stored := by
      refine (followed.consecutive _ _ later stored hstored hbehind hnext).resolve_right ?_
      rintro ⟨-, haborted, -⟩
      rw [Attempt.isTerminal_of_outcome (houtcome.symm.trans haborted)] at hopen
      cases hopen
    refine (hrespects stored hstored hretries).imp id ?_
    rintro ⟨hnumber, haborted, hagain⟩
    refine ⟨hnumber, haborted, (hagain ?_).mono hpast⟩
    obtain rfl : later = 2 := by
      have hnumber : a.number = 1 := hnumber
      rw [hnumber] at hnext
      exact UInt32.toNat_inj.mp hnext
    exact hbehind
  · rw [hattempts, get?_replace_of_ne (a := finished a outcome now) _ hkey] at hget
    exact (followed.consecutive payment number later b hget hbehind hnext).mono hpast

/-- An attempt is recorded at the end of its chain. -/
theorem Followed.add (followed : c.Followed l) (chained : l.attempts.Chained limit) {a : Attempt}
    (hnone : l.attempts.get? a.payment a.number = none) (hone : 1 ≤ a.number.toNat)
    (hbefore : ∀ b, l.attempts.get? a.payment b.number = some b →
      a.number.toNat = b.number.toNat + 1 → c.Retries b)
    (hattempts : l'.attempts = l.attempts.add a) (hpast : l.past <:+ l'.past)
    {payment : PaymentId} {number later : UInt32} {b : Attempt}
    (hget : l'.attempts.get? payment number = some b)
    (hlater : ∃ next, l'.attempts.get? payment later = some next)
    (hnext : later.toNat = number.toNat + 1) :
    c.Continues l' payment number b := by
  obtain ⟨next, hlater⟩ := hlater
  rw [hattempts] at hget hlater
  rcases get?_add_eq_some hget with hget | ⟨-, rfl, rfl, rfl⟩
  · rcases get?_add_eq_some hlater with hlater | ⟨-, rfl, rfl, rfl⟩
    · exact (followed.consecutive payment number later b hget ⟨next, hlater⟩ hnext).mono hpast
    · obtain ⟨-, rfl⟩ := key_of_get? hget
      exact .inl (hbefore b hget hnext)
  · -- Behind the new attempt nothing is recorded.
    rcases get?_add_eq_some hlater with hlater | ⟨-, -, rfl, -⟩
    · rw [chained.get?_eq_none hnone hone (by omega)] at hlater
      cases hlater
    · omega

/-- What a move does to the attempts, one behind the other. -/
private theorem Followed.consecutive_of_move {request : Request} {answer : request.Answer}
    (followed : c.Followed l) (chained : l.attempts.Chained limit) (move : l.Move limit request)
    (hrespects : c.Respects l request) (h : w.Answers request l answer l')
    {payment : PaymentId} {number later : UInt32} {a : Attempt}
    (hget : l'.attempts.get? payment number = some a)
    (hlater : ∃ b, l'.attempts.get? payment later = some b)
    (hnext : later.toNat = number.toNat + 1) :
    c.Continues l' payment number a := by
  have hpast : l.past <:+ l'.past := by
    rw [h.past]
    exact List.suffix_cons _ _
  have hsame (hattempts : l'.attempts = l.attempts) :=
    followed.consecutive_of_same ⟨hattempts, hpast⟩ hget hlater hnext
  cases move with
  | look hfree hlook => exact hsame (h.look hlook).attempts
  | giveUp => exact nomatch answer
  | charge => exact hsame (h.attempts_eq (by simp))
  | settle howing hknows hopen houtcome =>
      rcases answer with e | u
      · exact hsame h.update_error
      · exact followed.settle hknows hopen hrespects h.update_ok.2 hpast hget hlater hnext
  | first hfree =>
      rcases answer with e | u
      · exact hsame h.insert_error
      · refine followed.add chained h.insert_ok.1 (Nat.le_refl 1) ?_ h.insert_ok.2 hpast hget hlater
          hnext
        intro b hb hnumber
        have hone := chained.one_le ⟨b, hb⟩
        have hfirst : (1 : UInt32).toNat = b.number.toNat + 1 := hnumber
        rw [UInt32.toNat_one] at hfirst
        omega
  | @next a id due now adjusted hfree hknows hlimit =>
      rcases answer with e | u
      · exact hsame h.insert_error
      · have hsucc : (a.next id due adjusted now).number.toNat = a.number.toNat + 1 :=
          UInt32.toNat_succ_of_lt hlimit
        refine followed.add chained h.insert_ok.1 (by omega) ?_ h.insert_ok.2 hpast hget hlater
          hnext
        intro b hb hnumber
        rcases hrespects with hfirst | ⟨before, hbefore, hsame, hretries⟩
        · have hone := chained.one_le ⟨b, hb⟩
          rw [hfirst, UInt32.toNat_one] at hnumber
          omega
        · have hnumber : b.number = before.number := by
            have hsame : a.number + 1 = before.number + 1 := hsame
            rw [← UInt32.toNat_inj, ← (UInt32.add_left_inj 1).mp hsame]
            omega
          rw [hnumber, hbefore] at hb
          exact Option.some.inj hb ▸ hretries
  | schedule => exact hsame (h.attempts_eq (by simp))
  | recheck => exact hsame (h.attempts_eq (by simp))

/-- Only stored attempts are charged. -/
private theorem Ledger.Move.charged {request : Request} {answer : request.Answer}
    (move : l.Move limit request) (h : w.Answers request l answer l') {payment : PaymentId}
    {number : UInt32} (hcharged : l'.charges payment number ≠ l.charges payment number) :
    ∃ a, l.attempts.get? payment number = some a := by
  by_cases hrequest : ∃ r, request = .charge r
  · obtain ⟨r, rfl⟩ := hrequest
    cases move with
    | look _ hlook => exact hlook.elim
    | charge hfree hget hpending =>
        rcases answer with e | result
        · refine absurd ?_ hcharged
          rw [Ledger.charges, h.past, List.countP_cons_of_neg Bool.false_ne_true]
          rfl
        · rw [h.charges_of_charge] at hcharged
          obtain ⟨rfl, rfl⟩ := Decidable.of_not_not fun hkey => hcharged (by rw [if_neg hkey]; rfl)
          exact ⟨_, hget⟩
  · exact absurd (h.charges_eq (fun r hr => hrequest ⟨r, hr⟩) payment number) hcharged

/-- **Following the policy keeps the attempts as they should be.** -/
theorem Followed.step {request : Request} {answer : request.Answer} (followed : c.Followed l)
    (chained : l.attempts.Chained limit)
    (hallowed : (l.Move limit request ∧ c.Respects l request) ∨ request.IsForeign)
    (h : w.Answers request l answer l') : c.Followed l' := by
  have hpast : l.past <:+ l'.past := by
    rw [h.past]
    exact List.suffix_cons _ _
  refine ⟨?_, ?_, ?_⟩
  · rintro payment number ⟨a, hget⟩
    rcases h.recorded hget with hbefore | hnew
    · obtain ⟨b, hmem, hkey⟩ := followed.recorded payment number hbefore
      exact ⟨b, hpast.subset hmem, hkey⟩
    · exact hnew
  · intro payment number hcharged
    have hbefore : ∃ a, l.attempts.get? payment number = some a := by
      by_cases hsame : l'.charges payment number = l.charges payment number
      · exact followed.charged payment number (hsame ▸ hcharged)
      · rcases hallowed with ⟨move, -⟩ | hforeign
        · exact Ledger.Move.charged move h hsame
        · refine absurd (h.charges_eq ?_ payment number) hsame
          intro r hr
          subst hr
          exact hforeign
    obtain ⟨a, hget⟩ := hbefore
    have hextends := Ledger.extends_of_answers (hallowed.imp And.left id) h
    obtain ⟨b, hb, -⟩ := hextends.attempts payment number a hget
    exact ⟨b, hb⟩
  · intro payment number later a hget hlater hnext
    rcases hallowed with ⟨move, hrespects⟩ | hforeign
    · exact followed.consecutive_of_move chained move hrespects h hget hlater hnext
    · exact followed.consecutive_of_same ⟨hforeign.attempts_eq h, hpast⟩ hget hlater hnext

/-- Being stopped changes nothing. -/
theorem Followed.stopped (followed : c.Followed l) : c.Followed (l.noting .stopped) where
  recorded payment number hstored := by
    obtain ⟨a, hmem, hkey⟩ := followed.recorded payment number hstored
    exact ⟨a, List.mem_cons_of_mem _ hmem, hkey⟩
  charged payment number hcharged := by
    refine followed.charged payment number ?_
    rwa [Ledger.charges, Ledger.noting, List.countP_cons_of_neg Bool.false_ne_true] at hcharged
  consecutive _ _ _ _ := by
    have honward : l.Onward (l.noting .stopped) := ⟨rfl, List.suffix_cons _ _⟩
    exact followed.consecutive_of_same honward

end

/-! ## Runs -/

/-- Deliveries of one controller, with events and everything else that is asked of the store of
items between them. All of it may be stopped at any time. -/
def following (w : Surroundings) (c : RetryController) :
    Sequence.Rules Request Request.Answer Ledger where
  starts t :=
    (∃ item context, t = c.delivery item context) ∨
      (∃ event : BillingEvent, t = event.publish.bind fun _ => .done ()) ∨
      ∃ request : WorkRequest, (∀ new, request ≠ .enqueue new) ∧
        t = .ask (.work request) fun _ => .done ()
  answers := w.Answers
  stops l l' := l' = l.noting .stopped

theorem le_ceiling (maxAttempts : UInt32) : maxAttempts ≤ max maxAttempts 1 := by
  show maxAttempts ≤ if maxAttempts ≤ 1 then 1 else maxAttempts
  split
  · assumption
  · exact UInt32.le_refl _

theorem following_conduct (w : Surroundings) (c : RetryController) :
    Sequence.Conduct (following w c)
      (fun l request => (l.Move (max c.maxAttempts 1) request ∧ c.Respects l request) ∨
        request.IsForeign) Ledger.Free
      (fun l => l.attempts.Chained (max c.maxAttempts 1) ∧ c.Followed l) where
  obeys := by
    intro t l hstarts hfree hinv
    obtain ⟨chained, followed⟩ := hinv
    rcases hstarts with ⟨item, context, rfl⟩ | ⟨event, rfl⟩ | ⟨request, hrequest, rfl⟩
    · have hmoves : (c.handleRetry item context).Obeys w.Answers
          (Ledger.Move (max c.maxAttempts 1)) (fun _ l' => l'.Free) l :=
        handleRetry_obeys item context (le_ceiling c.maxAttempts) hfree
      have hrespects :
          (c.handleRetry item context).Obeys w.Answers c.Respects (fun _ _ => True) l :=
        handleRetry_respects item context (followed.secondsNoted chained)
      unfold delivery
      rw [Task.obeys_bind]
      exact ((hmoves.and hrespects).imp_rule fun _ _ h => .inl h).imp fun _ _ h => h.1
    · rw [Task.obeys_bind]
      exact (event.publish_obeys fun _ _ hforeign => .inr hforeign).imp fun _ _ hfree => hfree
    · refine ⟨.inr ?_, ?_⟩
      · cases request with
        | enqueue new => exact absurd rfl (hrequest new)
        | _ => trivial
      · intro answer l' h
        have h : w.Answers (.work request) l answer l' := h
        exact h.free (by simp)
  keeps := by
    intro l request answer l' hinv hallowed h
    obtain ⟨chained, followed⟩ := hinv
    refine ⟨?_, followed.step chained hallowed h⟩
    rcases hallowed with ⟨move, -⟩ | hforeign
    · exact (move.change h).chained (one_le_ceiling c.maxAttempts) chained
    · rw [hforeign.attempts_eq h]
      exact chained
  stops := by
    intro l _ hinv hstop
    obtain ⟨chained, followed⟩ := hinv
    subst hstop
    exact ⟨⟨chained, followed.stopped⟩, rfl⟩

/-- **What comes before a later attempt.** Whatever is delivered and published, whatever fails and
wherever it stops: an attempt with a later one behind it failed, or it is the first of its payment,
was given up, and its failure was reported again after the second attempt had been recorded. So
behind an attempt that collected the payment or was given up, that case apart, no later attempt is
recorded and none is charged. -/
theorem later_attempts_follow_failures {w : Surroundings} {c : RetryController}
    {q : Sequence Request Request.Answer Ledger}
    (h : Sequence.Reaches (following w c) ⟨{}, none⟩ q) :
    (∀ payment number later a b, q.state.attempts.get? payment number = some a →
        q.state.attempts.get? payment later = some b → number < later →
        a.outcome = .failed ∨
          (number = 1 ∧ a.outcome = .aborted ∧ q.state.ReportedAgain payment)) ∧
      ∀ payment number a, q.state.attempts.get? payment number = some a →
        (a.outcome = .success ∨
          (a.outcome = .aborted ∧ ¬(number = 1 ∧ q.state.ReportedAgain payment))) →
        ∀ later, number < later →
          q.state.attempts.get? payment later = none ∧ q.state.charges payment later = 0 := by
  have hempty : ({} : Ledger).attempts.Chained (max c.maxAttempts 1) :=
    ⟨fun _ => ⟨0, Nat.zero_le _, rfl⟩, fun _ hmem => absurd hmem List.not_mem_nil⟩
  have hfree : ({} : Ledger).Free := rfl
  have hsound := (Sequence.Sound.of_idle hfree ⟨hempty, .of_empty c⟩).reaches
    (following_conduct w c) h
  obtain ⟨chained, followed⟩ := hsound.kept
  have hbefore : ∀ payment number later a b, q.state.attempts.get? payment number = some a →
      q.state.attempts.get? payment later = some b → number < later →
      a.outcome = .failed ∨
        (number = 1 ∧ a.outcome = .aborted ∧ q.state.ReportedAgain payment) := by
    intro payment number later a b hget hlater hlt
    have hsucc := UInt32.toNat_succ_of_lt hlt
    rw [UInt32.lt_iff_toNat_lt] at hlt
    have hnext : ∃ next, q.state.attempts.get? payment (number + 1) = some next :=
      chained.exists_of_le ⟨b, hlater⟩ (by omega) (by omega)
    exact (followed.consecutive payment number _ a hget hnext hsucc).imp And.left id
  refine ⟨hbefore, ?_⟩
  intro payment number a hget hended later hlt
  have hnone : q.state.attempts.get? payment later = none := by
    refine Option.eq_none_iff_forall_ne_some.mpr fun b hlater => ?_
    rcases hbefore payment number later a b hget hlater hlt with hfailed | ⟨hone, haborted, hagain⟩
    · rcases hended with hsuccess | ⟨haborted, -⟩
      · rw [hfailed] at hsuccess
        cases hsuccess
      · rw [hfailed] at haborted
        cases haborted
    · rcases hended with hsuccess | ⟨-, hother⟩
      · rw [haborted] at hsuccess
        cases hsuccess
      · exact hother ⟨hone, hagain⟩
  refine ⟨hnone, ?_⟩
  by_contra hcharged
  obtain ⟨b, hlater⟩ := followed.charged payment later hcharged
  rw [hnone] at hlater
  cases hlater

/-! ### A payment that is collected after its first attempt was given up -/

/-- What is said of the account while its automatic payments are suspended. -/
def suspended : (request : Request) → Option request.Answer
  | .state (.get account) =>
    some (.ok (some { OverdueState.clear account with blocked := { disableAutoPay := true } }))
  | request => Surroundings.unrestricted .succeeded request

/-- What is left of a ledger by a program that is answered at once. -/
def after (given : (request : Request) → Option request.Answer) (t : Program Unit) (l : Ledger) :
    Ledger :=
  (t.run (Ledger.reply given) l).2

/-- A program that was never left without an answer has brought the ledger along. -/
theorem reaches_after {c : RetryController}
    (given : (request : Request) → Option request.Answer) {t : Program Unit} (l : Ledger)
    (hstarts : (following .sound c).starts t)
    (hok : (t.run (Ledger.reply given) l).1.isOk = true) :
    Sequence.Reaches (following .sound c) ⟨l, none⟩ ⟨after given t l, none⟩ := by
  have hanswers := Surroundings.answers_of_reply (w := .sound) given fun _ _ _ => trivial
  rcases hrun : t.run (Ledger.reply given) l with ⟨_ | value, l'⟩
  · rw [hrun] at hok
    cases hok
  · have hafter : after given t l = l' := congrArg Prod.snd hrun
    rw [hafter]
    exact Sequence.reaches_of_runs hstarts (Task.runs_of_run hanswers hrun)

/-- The first charge has failed, and that is published. -/
def noonEvent : Program Unit :=
  (BillingEvent.paymentFailed noonAccount noonPayment 500 .declined Instant.noon).publish.bind
    fun _ => .done ()

/-- The ledger that holds the item of the event. -/
def noonPublished : Ledger := after (Surroundings.unrestricted .succeeded) noonEvent {}

/-- The item of the event. -/
def noonReport : Item := noonPublished.work.items.headD noonFailure

/-- The report is delivered, and the second attempt is scheduled. -/
def noonScheduled : Ledger :=
  after (Surroundings.unrestricted .succeeded)
    (noonController.delivery noonReport { now := Instant.noon }) noonPublished

/-- The item of the second attempt. -/
def noonSecond : Item := noonScheduled.work.items.getLastD noonRetry

/-- The report is delivered again while the automatic payments of the account are suspended. -/
def noonSuspended : Ledger :=
  after suspended (noonController.delivery noonReport { now := Instant.noon }) noonScheduled

/-- When that is over, the second attempt is delivered. -/
def noonResumed : Ledger :=
  after (Surroundings.unrestricted .succeeded)
    (noonController.delivery noonSecond { now := Instant.noon }) noonSuspended

theorem noonResumed_reached :
    Sequence.Reaches (following .sound noonController) ⟨{}, none⟩ ⟨noonResumed, none⟩ := by
  have hevent : (following .sound noonController).starts noonEvent := .inr (.inl ⟨_, rfl⟩)
  have hdelivery (item : Item) (context : HandlerContext) :
      (following .sound noonController).starts (noonController.delivery item context) :=
    .inl ⟨item, context, rfl⟩
  have hpublished := reaches_after (Surroundings.unrestricted .succeeded) {} hevent
    (by decide +kernel)
  have hscheduled := reaches_after (Surroundings.unrestricted .succeeded) noonPublished
    (hdelivery noonReport { now := Instant.noon }) (by decide +kernel)
  have hsuspended := reaches_after suspended noonScheduled
    (hdelivery noonReport { now := Instant.noon }) (by decide +kernel)
  have hresumed := reaches_after (Surroundings.unrestricted .succeeded) noonSuspended
    (hdelivery noonSecond { now := Instant.noon }) (by decide +kernel)
  exact ((hpublished.trans hscheduled).trans hsuspended).trans hresumed

/-- Both attempts in the end: the first was given up, the second has collected the payment. -/
theorem noonResumed_outcomes :
    (noonResumed.attempts.get? noonPayment 1).map Attempt.outcome = some .aborted ∧
      (noonResumed.attempts.get? noonPayment 2).map Attempt.outcome = some .success := by
  decide +kernel

/-- **An aborted payment can be charged.** The stores never fail and one delivery follows another.
The report of the first failure is delivered again while the automatic payments are suspended: the
first attempt is given up, though the second is recorded, and the second is charged. -/
theorem aborted_payment_can_be_charged :
    Sequence.Reaches (following .sound noonController) ⟨{}, none⟩ ⟨noonResumed, none⟩ ∧
      (noonResumed.attempts.get? noonPayment 1).map Attempt.outcome = some .aborted ∧
      (noonResumed.attempts.get? noonPayment 2).map Attempt.outcome = some .success ∧
      noonResumed.charges noonPayment 2 = 1 := by
  refine ⟨noonResumed_reached, noonResumed_outcomes.1, noonResumed_outcomes.2, ?_⟩
  decide +kernel

/-- There the failure of the first attempt was reported again, and nothing comes after the second.
-/
theorem later_attempts_follow_failures_resumed :
    Sequence.Reaches (following .sound noonController) ⟨{}, none⟩ ⟨noonResumed, none⟩ ∧
      noonResumed.ReportedAgain noonPayment ∧
      ∀ later : UInt32, 2 < later →
        noonResumed.attempts.get? noonPayment later = none ∧
          noonResumed.charges noonPayment later = 0 := by
  obtain ⟨hbefore, hbehind⟩ := later_attempts_follow_failures noonResumed_reached
  obtain ⟨a, ha, haborted⟩ := Option.map_eq_some_iff.mp noonResumed_outcomes.1
  obtain ⟨b, hb, hsuccess⟩ := Option.map_eq_some_iff.mp noonResumed_outcomes.2
  refine ⟨noonResumed_reached, ?_, hbehind noonPayment 2 b hb (.inl hsuccess)⟩
  rcases hbefore noonPayment 1 2 a b ha hb (by decide) with hfailed | ⟨-, -, hagain⟩
  · rw [haborted] at hfailed
    cases hfailed
  · exact hagain

end RetryController

end Dunning
