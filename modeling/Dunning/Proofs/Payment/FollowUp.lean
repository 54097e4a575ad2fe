import Dunning.Proofs.Payment.Outline

/-!
# The follow-up of an attempt, with interruptions

The follow-up asks the stores, and every call may fail. What it comes to is a function of the outline
of the ledger, which each of its requests leaves alone: an interrupted follow-up leads where the whole
one led, and one that is done has got there.

## Main definitions

* `RetryController.Quiet` — requests that charge nothing and make no attempt pending.
* `Ledger.Ends` — how a part of a delivery ends.

## Main results

* `RetryController.followUp_ends` — the follow-up leads where it led before, or is done.
* `RetryController.quiet_keeps` — what a quiet program leaves as it is.
-/

namespace Dunning

/-- Whether no call to a store fails. -/
def Surroundings.Reliable (w : Surroundings) : Prop := ∀ request e, ¬w.fails request e

/-- Whether no call to a store fails as if a race had been lost. -/
def Surroundings.Honest (w : Surroundings) : Prop :=
  ∀ request e, w.fails request e → e.isConflict = false

/-- Requests that charge nothing and make no attempt pending. The program gives up only when the
policy makes no decision. -/
def RetryController.Quiet (c : RetryController) : Ledger → Request → Prop
  | _, .charge _ => False
  | _, .giveUp => ∃ failed, c.policy.decide failed = none
  | _, .attempt (.update a) => a.outcome ≠ .pending
  | _, _ => True

/-- How a part of a delivery ends whose outcome is a function of the outline. -/
structure Ledger.Ends (w : Surroundings) (follow : Outline → Outline) (target : Outline)
    (done : Prop) (l : Ledger) : Prop where
  /-- What follows still comes to the target. -/
  leads : follow l.outline = target
  /-- A part that is done has come to it. -/
  reached : done → l.outline = target
  completes : w.Reliable → done

section

variable {w : Surroundings} {c : RetryController} {l l' : Ledger}

namespace RetryController

/-! ## Writes -/

/-- A write fails only where calls may fail, and then changes nothing. -/
def Fails (w : Surroundings) (l l' : Ledger) : Prop := l.Agrees l' ∧ ¬w.Reliable

theorem Fails.of_fails {request : Request} {e : StoreError} (hagrees : l.Agrees l')
    (h : w.fails request e) : Fails w l l' :=
  ⟨hagrees, fun hreliable => hreliable request e h⟩

theorem finish_ends {a r : Attempt} {outcome : AttemptOutcome} (now : Instant)
    (hstored : l.attempts.get? a.payment a.number = some r) (hid : r.id = a.id)
    (houtcome : outcome ≠ .pending) (hsame : a.outcome = outcome → r = a) :
    (finish a outcome now).Obeys w.Answers c.Quiet (fun result l' =>
      (result = .ok () ∧ l'.outline = l.outline.settle a.unnamed outcome now ∧
        l'.attempts.get? a.payment a.number =
          some (if a.outcome = outcome then a else finished a outcome now)) ∨
      ∃ e, result = .error e ∧ Fails w l l') l := by
  unfold finish Outline.settle
  by_cases heq : a.outcome = outcome
  · have heq' : a.unnamed.outcome = outcome := heq
    rw [if_pos heq, if_pos heq', if_pos heq, ← hsame heq]
    exact .inl ⟨rfl, rfl, hsame heq ▸ hstored⟩
  · have heq' : ¬a.unnamed.outcome = outcome := heq
    rw [if_neg heq, if_neg heq', if_neg heq]
    refine ⟨houtcome, ?_⟩
    intro answer l₁ h
    have hwork := h.work_eq (by simp)
    rcases h.update with ⟨_, _, _, rfl, hreplace⟩ | ⟨hnone, _⟩ | ⟨e, hfails, rfl, hattempts⟩
    · refine .inl ⟨rfl, Ledger.outline_replace hreplace hwork, ?_⟩
      rw [hreplace]
      exact AttemptStore.get?_replace_self (a := finished a outcome now) hstored
    · exact absurd ⟨r, hstored, hid⟩ hnone
    · exact .inr ⟨_, rfl, .of_fails ⟨hattempts, hwork⟩ hfails⟩

theorem insertOrFind_ends {ε : Type} {b : Attempt} {payment : PaymentId} {number : UInt32}
    (refused : StoreError → ε) (vanished : ε) (honest : w.Honest) (hpayment : payment = b.payment)
    (hnumber : number = b.number) :
    (insertOrFind b payment number refused vanished).Obeys w.Answers c.Quiet (fun result l' =>
      (∃ stored, result = .ok stored ∧ l'.outline = l.outline.record b.unnamed ∧
        l'.attempts.get? b.payment b.number = some stored) ∨
      ∃ e, result = .error e ∧ Fails w l l') l := by
  simp only [insertOrFind, Program.insertAttempt, Program.getAttempt, Task.bind_eq, Task.pure_eq,
    Task.bind_ask, Task.bind_done]
  refine ⟨trivial, ?_⟩
  intro answer l₁ h
  have hwork := h.work_eq (by simp)
  have hkey : l.outline.attempts.get? b.unnamed.payment b.unnamed.number =
      (l.attempts.get? b.payment b.number).map Attempt.unnamed := l.get?_outline _ _
  rcases h.insert with ⟨hnone, rfl, hadd⟩ | ⟨stored, e, hstored, hconflict, rfl, hattempts⟩ |
    ⟨e, hfails, rfl, hattempts⟩
  · refine .inl ⟨b, rfl, ?_, ?_⟩
    · rw [hnone] at hkey
      rw [Ledger.outline_add hadd hwork, Outline.record, hkey]
      rfl
    · rw [hadd, AttemptStore.get?_add_self hnone]
  · simp only [hconflict, if_true]
    refine ⟨trivial, ?_⟩
    intro answer l₂ h₂
    have hagrees : l.Agrees l₂ := Ledger.Agrees.trans ⟨hattempts, hwork⟩ (h₂.look trivial)
    rcases h₂.get with rfl | ⟨e, hfails, rfl⟩
    · rw [hattempts, hpayment, hnumber, hstored]
      refine .inl ⟨stored, rfl, ?_, hagrees.attempts ▸ hstored⟩
      rw [hstored] at hkey
      rw [Ledger.outline_eq_of_agrees hagrees, Outline.record_of_some hkey]
    · exact .inr ⟨_, rfl, .of_fails hagrees hfails⟩
  · simp only [honest _ _ hfails, Bool.false_eq_true, if_false]
    exact .inr ⟨_, rfl, .of_fails ⟨hattempts, hwork⟩ hfails⟩

theorem ensureItem_ends {a : Attempt} (hstored : l.attempts.get? a.payment a.number = some a)
    (hpending : a.outcome = .pending) :
    (ensureItem a).Obeys w.Answers c.Quiet (fun result l' =>
      (∃ directive, result = .ok directive ∧
        l'.outline = l.outline.ensure a.payment a.number) ∨
      ∃ e, result = .error e ∧ Fails w l l') l := by
  simp only [ensureItem, Program.pendingForOwner, Program.enqueue, Task.bind_eq, Task.pure_eq,
    Task.bind_ask, Task.bind_done]
  refine ⟨trivial, ?_⟩
  intro answer l₁ h
  have hagrees := h.look trivial
  have hget := Ledger.get?_outline_of_some hstored
  have hany : (l.outline.work.pendingForOwner retryQueue a.unnamed.account.render).any
      (isItemOf a.unnamed) =
      (l.work.pendingForOwner retryQueue a.account.render).any (isItemOf a) :=
    l.any_pendingForOwner_outline _ _ a
  rcases h.pendingForOwner with rfl | ⟨e, hfails, rfl⟩
  · unfold Outline.ensure
    simp only [hget, show a.unnamed.outcome = .pending from hpending, if_true, hany]
    by_cases hitem : (l.work.pendingForOwner retryQueue a.account.render).any (isItemOf a) = true
    · simp only [hitem, if_true]
      exact .inl ⟨_, rfl, Ledger.outline_eq_of_agrees hagrees⟩
    · simp only [hitem, if_false, Bool.false_eq_true]
      refine ⟨trivial, ?_⟩
      intro answer l₂ h₂
      have hattempts := (h₂.attempts_eq (by simp)).trans hagrees.attempts
      rcases h₂.enqueue with ⟨id, clock, rfl, hwork⟩ | ⟨e, hfails, rfl, hwork⟩
      · rw [hagrees.work] at hwork
        exact .inl ⟨_, rfl, Ledger.outline_enqueue hattempts hwork⟩
      · exact .inr ⟨_, rfl, .of_fails ⟨hattempts, hwork.trans hagrees.work⟩ hfails⟩
  · exact .inr ⟨_, rfl, .of_fails hagrees hfails⟩

/-! ## The follow-up -/

theorem next_eq_of_alike {a b : Attempt} (h : a.Alike b) (id : Uuid) (due : Instant)
    (adjusted : Option UInt64) (now : Instant) :
    a.next id due adjusted now = b.next id due adjusted now := by
  rw [Attempt.next, Attempt.next, h.payment, h.account, h.number, h.amount]

/-- A part that failed without effect leads where it led before. -/
theorem Fails.ends {follow : Outline → Outline} {done : Prop} (h : Fails w l l') (hdone : ¬done) :
    l'.Ends w follow (follow l.outline) done := by
  refine ⟨?_, fun hd => absurd hd hdone, fun hreliable => absurd hreliable h.2⟩
  rw [Ledger.outline_eq_of_agrees h.1]

/-- Creating the item of an attempt that is recorded, if it is pending, is the last write. -/
theorem ensureRecorded_ends {b : Attempt} {payment : PaymentId} {number : UInt32}
    {follow : Outline → Outline} {target : Outline}
    (hstored : l.attempts.get? payment number = some b)
    (htarget : l.outline.ensure payment number = target) (hleads : follow l.outline = target)
    (hdone : follow target = target) :
    (if b.outcome = .pending then ensureItem b else .done (.ok (directive b none)) :
        Program (Except RetryError RetryDirective)).Obeys w.Answers c.Quiet (fun result l' =>
      l'.Ends w follow target (result.isOk = true)) l := by
  by_cases hpending : b.outcome = .pending
  · rw [if_pos hpending]
    obtain ⟨rfl, rfl⟩ := AttemptStore.key_of_get? hstored
    refine (ensureItem_ends hstored hpending).imp ?_
    intro result l' hpost
    rcases hpost with ⟨directive, rfl, hensure⟩ | ⟨e, rfl, hfails⟩
    · have hreached : l'.outline = target := hensure.trans htarget
      exact ⟨by rw [hreached, hdone], fun _ => hreached, fun _ => rfl⟩
    · rw [← hleads]
      exact hfails.ends Bool.false_ne_true
  · rw [if_neg hpending]
    have hget := Ledger.get?_outline_of_some hstored
    have hsame : l.outline.ensure payment number = l.outline := by
      simp only [Outline.ensure, hget]
      exact if_neg hpending
    refine ⟨hleads, fun _ => ?_, fun _ => rfl⟩
    rw [← htarget, hsame]

theorem schedule_ends {a r : Attempt} {due : Instant} {adjusted : Option UInt64}
    (honest : w.Honest) (hstored : l.attempts.get? r.payment r.number = some r)
    (halike : a.Alike r) (hfailed : r.outcome = .failed) (hceiling : ¬c.maxAttempts ≤ r.number)
    (hdecide : c.policy.decide (failedAttempt r r.updatedAt) = some (.retryAt due adjusted)) :
    (schedule a due adjusted r.updatedAt).Obeys w.Answers c.Quiet (fun result l' =>
      l'.Ends w (.conclude c r.payment r.number) (l.outline.conclude c r.payment r.number)
        (result.isOk = true)) l := by
  have hget := Ledger.get?_outline_of_some hstored
  have hverdict : r.unnamed.outcome = c.verdict r.unnamed.number (.retryAt due adjusted) := hfailed
  have hconclude := Outline.conclude_of_settled (c := c) hget hverdict hdecide
  have hgoOn : l.outline.goOn c r.unnamed (.retryAt due adjusted) =
      (l.outline.record (r.unnamed.next default due adjusted r.updatedAt)).ensure r.payment
        (r.number + 1) := if_neg hceiling
  simp only [schedule, Program.freshId, Task.bind_eq, Task.pure_eq, Task.bind_ask, Task.bind_done]
  refine ⟨trivial, ?_⟩
  intro id l₁ h₁
  have hagrees := h₁.look trivial
  have houtline := Ledger.outline_eq_of_agrees hagrees
  rw [Task.obeys_bind, next_eq_of_alike halike, recordNext_eq]
  refine (insertOrFind_ends (b := r.next id due adjusted r.updatedAt) _ _ honest halike.payment
    rfl).imp ?_
  intro result l₂ hpost
  rcases hpost with ⟨b, rfl, hrecord, hb⟩ | ⟨e, rfl, hfails⟩
  · have htarget : l₂.outline.ensure r.payment (r.number + 1) =
        l.outline.conclude c r.payment r.number := by
      rw [hrecord, houtline, hconclude, hgoOn]
      rfl
    have hleads : l₂.outline.conclude c r.payment r.number =
        l.outline.conclude c r.payment r.number := by
      rw [hrecord, houtline]
      exact Outline.conclude_record hget hfailed hceiling hdecide
    exact ensureRecorded_ends hb htarget hleads (Outline.conclude_conclude ..)
  · rw [← houtline]
    exact hfails.ends Bool.false_ne_true

theorem goOn_ends {a r : Attempt} {decision : RetryDecision} (honest : w.Honest)
    (hstored : l.attempts.get? r.payment r.number = some r) (halike : a.Alike r)
    (houtcome : r.outcome = c.verdict r.number decision)
    (hdecide : c.policy.decide (failedAttempt r r.updatedAt) = some decision) :
    (c.goOn a decision r.updatedAt).Obeys w.Answers c.Quiet (fun result l' =>
      l'.Ends w (.conclude c r.payment r.number) (l.outline.conclude c r.payment r.number)
        (result.isOk = true)) l := by
  have hget := Ledger.get?_outline_of_some hstored
  have hverdict : r.unnamed.outcome = c.verdict r.unnamed.number decision := houtcome
  have hconclude := Outline.conclude_of_settled (c := c) hget hverdict hdecide
  unfold goOn
  rw [halike.number]
  by_cases hceiling : c.maxAttempts ≤ r.number
  · rw [if_pos hceiling]
    have hsame : l.outline.goOn c r.unnamed decision = l.outline := if_pos hceiling
    exact ⟨rfl, fun _ => by rw [hconclude, hsame], fun _ => rfl⟩
  · rw [if_neg hceiling]
    cases decision with
    | abort reason =>
        have hsame : l.outline.goOn c r.unnamed (.abort reason) = l.outline := if_neg hceiling
        exact ⟨rfl, fun _ => by rw [hconclude, hsame], fun _ => rfl⟩
    | retryAt due adjusted => exact schedule_ends honest hstored halike houtcome hceiling hdecide

/-- **The follow-up leads where it led before, or is done.** -/
theorem followUp_ends {r : Attempt} (honest : w.Honest)
    (hstored : l.attempts.get? r.payment r.number = some r) (hopen : r.isTerminal = false) :
    (c.followUp r r.updatedAt).Obeys w.Answers c.Quiet (fun result l' =>
      l'.Ends w (.conclude c r.payment r.number) (l.outline.conclude c r.payment r.number)
        (result.isOk = true)) l := by
  unfold followUp
  cases hdecide : c.policy.decide (failedAttempt r r.updatedAt) with
  | none => exact ⟨⟨_, hdecide⟩, fun answer => nomatch answer⟩
  | some decision =>
      have hget := Ledger.get?_outline_of_some hstored
      have houtcome := c.verdict_ne_pending r.number decision
      show (c.applyDecision r decision r.updatedAt).Obeys _ _ _ l
      rw [applyDecision_eq, Task.obeys_bind]
      refine (finish_ends r.updatedAt hstored rfl houtcome fun _ => rfl).imp ?_
      intro result l₁ hpost
      rcases hpost with ⟨rfl, hsettle, hrow⟩ | ⟨e, rfl, hfails⟩
      · have hsettled : (if r.outcome = c.verdict r.number decision then r
            else finished r (c.verdict r.number decision) r.updatedAt) =
            finished r (c.verdict r.number decision) r.updatedAt := by
          split
          · rename_i heq
            rw [← heq]
            rfl
          · rfl
        rw [hsettled] at hrow
        have hleads : l₁.outline.conclude c r.payment r.number =
            l.outline.conclude c r.payment r.number := by
          rw [hsettle]
          exact Outline.conclude_settle hget hopen hdecide
        rw [← hleads]
        exact goOn_ends (r := finished r (c.verdict r.number decision) r.updatedAt) honest hrow
          ⟨rfl, rfl, rfl, rfl, rfl, rfl, rfl⟩ rfl hdecide
      · exact hfails.ends Bool.false_ne_true

/-! ## What quiet requests keep -/

theorem Quiet.charges_eq {request : Request} {answer : request.Answer} (quiet : c.Quiet l request)
    (h : w.Answers request l answer l') (payment : PaymentId) (number : UInt32) :
    l'.charges payment number = l.charges payment number := by
  refine h.charges_eq ?_ payment number
  intro r hcharge
  subst hcharge
  exact quiet

/-- Attempts stay, and none becomes pending. -/
theorem Quiet.exists_of_get? {request : Request} {answer : request.Answer}
    (quiet : c.Quiet l request) (h : w.Answers request l answer l') {payment : PaymentId}
    {number : UInt32} {a : Attempt} (hget : l.attempts.get? payment number = some a) :
    ∃ b, l'.attempts.get? payment number = some b ∧
      (b.outcome = .pending → a.outcome = .pending) := by
  have hsame (hattempts : l'.attempts = l.attempts) :
      ∃ b, l'.attempts.get? payment number = some b ∧
        (b.outcome = .pending → a.outcome = .pending) := ⟨a, hattempts ▸ hget, id⟩
  by_cases hrequest : ∃ r, request = .attempt r
  · obtain ⟨request, rfl⟩ := hrequest
    cases request with
    | insert b =>
        rcases answer with e | u
        · exact hsame h.insert_error
        · exact ⟨a, h.insert_ok.2 ▸ AttemptStore.get?_add_of_some hget b, id⟩
    | update b =>
        rcases answer with e | u
        · exact hsame h.update_error
        · rw [h.update_ok.2]
          by_cases hkey : payment = b.payment ∧ number = b.number
          · obtain ⟨rfl, rfl⟩ := hkey
            exact ⟨b, AttemptStore.get?_replace_self hget, fun hpending => absurd hpending quiet⟩
          · exact ⟨a, by rw [AttemptStore.get?_replace_of_ne _ hkey, hget], id⟩
    | get => exact hsame (h.look trivial).attempts
    | ofPayment =>
        rcases h with ⟨attempts, hresponds, rfl⟩ | ⟨_, _, _, rfl⟩
        · exact hsame (congrArg Prod.snd hresponds).symm
        · exact hsame rfl
  · exact hsame (h.attempts_eq fun r hr => hrequest ⟨r, hr⟩)

/-- What a quiet program keeps: how often attempts were charged, and which are there. -/
theorem quiet_keeps {α : Type} {t : Program α} {post : α → Ledger → Prop}
    (h : t.Obeys w.Answers c.Quiet post l) :
    t.Obeys w.Answers c.Quiet (fun value l' => post value l' ∧
      (∀ payment number, l'.charges payment number = l.charges payment number) ∧
      ∀ payment number a, l.attempts.get? payment number = some a →
        ∃ b, l'.attempts.get? payment number = some b ∧
          (b.outcome = .pending → a.outcome = .pending)) l := by
  refine h.and_inv ?_ ⟨fun _ _ => rfl, fun _ _ a hget => ⟨a, hget, id⟩⟩
  intro l₁ request answer l₂ hinv quiet hanswers
  obtain ⟨hcharges, hstays⟩ := hinv
  refine ⟨fun _ _ => (quiet.charges_eq hanswers _ _).trans (hcharges _ _), ?_⟩
  intro payment number a hget
  obtain ⟨b, hb, hback⟩ := hstays payment number a hget
  obtain ⟨b', hb', hback'⟩ := quiet.exists_of_get? hanswers hb
  exact ⟨b', hb', fun h => hback (hback' h)⟩

/-! ## Fresh failures -/

/-- The follow-up of a pending attempt whose charge failed: its outcome is recorded and the rest leads
where it should, or nothing has changed. -/
theorem handleFailure_ends {a r : Attempt} (now : Instant) (honest : w.Honest)
    (hstored : l.attempts.get? a.payment a.number = some r) (hid : r.id = a.id)
    (hpending : a.outcome = .pending) :
    (c.handleFailure a now).Obeys w.Answers c.Quiet (fun result l' =>
      (l'.Ends w (.conclude c a.payment a.number) (l.outline.failing c a.unnamed now)
          (result.isOk = true) ∧
        ∃ b, l'.attempts.get? a.payment a.number = some b ∧ b.outcome ≠ .pending) ∨
      ∃ e, result = .error e ∧ Fails w l l') l := by
  unfold handleFailure followUp
  cases hdecide : c.policy.decide (failedAttempt a now) with
  | none => exact ⟨⟨_, hdecide⟩, fun answer => nomatch answer⟩
  | some decision =>
      have houtcome := c.verdict_ne_pending a.number decision
      have hne : a.outcome ≠ c.verdict a.number decision := fun h => houtcome (h ▸ hpending)
      have hfailing : l.outline.failing c a.unnamed now =
          (l.outline.settle a.unnamed (c.verdict a.number decision) now).conclude c a.payment
            a.number := by
        have hdecide' : c.policy.decide (failedAttempt a.unnamed now) = some decision := hdecide
        rw [Outline.failing, hdecide']
        rfl
      show (c.applyDecision a decision now).Obeys _ _ _ l
      rw [applyDecision_eq, Task.obeys_bind]
      refine (finish_ends now hstored hid houtcome fun h => absurd h hne).imp ?_
      intro result l₁ hpost
      rcases hpost with ⟨rfl, hsettle, hrow⟩ | ⟨e, rfl, hfails⟩
      · rw [if_neg hne] at hrow
        rw [hfailing, ← hsettle]
        have hends := goOn_ends (r := finished a (c.verdict a.number decision) now) honest hrow
          ⟨rfl, rfl, rfl, rfl, rfl, rfl, rfl⟩ rfl hdecide
        refine (quiet_keeps hends).imp ?_
        intro result l₂ hpost
        obtain ⟨hends, -, hstays⟩ := hpost
        obtain ⟨b, hb, hback⟩ := hstays _ _ _ hrow
        exact .inl ⟨hends, b, hb, fun h => houtcome (hback h)⟩
      · exact .inr ⟨_, rfl, hfails⟩

end RetryController

end

end Dunning
