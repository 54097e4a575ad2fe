import Dunning.Proofs.Payment.Chains

/-!
# What the follow-up of an attempt comes to

The outline of a ledger is what its stores say when identifiers and the times at which items were
touched are left out. On outlines the follow-up of an attempt is a function: it gives the attempt its
outcome, records the next one unless it is there, and creates the item of that one unless there is
one. Each of the three writes can be repeated without effect, and none of them changes what the
policy is asked. So the function comes to the same from every state in which the follow-up may have
been interrupted.

## Main definitions

* `Ledger.outline` — the stores without names and clocks.
* `Outline.conclude`, `Outline.failing` — what the follow-up of an attempt comes to, when its failure
  is recorded and when it fails now.

## Main results

* `Outline.conclude_settle`, `Outline.conclude_record` — interruptions do not matter.
* `Outline.conclude_conclude` — concluding twice is concluding once.
-/

namespace Dunning

/-- The attempt without its identifier. -/
def Attempt.unnamed (a : Attempt) : Attempt := { a with id := default }

/-- The item without its identifier and the times of its creation and its last touch. -/
def Item.unnamed (i : Item) : Item :=
  { i with id := default, createdAt := .first, updatedAt := .first }

/-- The stores without what is different each time. -/
structure Outline where
  attempts : AttemptStore
  work : WorkStore

/-- The stores of a ledger without names and clocks. -/
def Ledger.outline (l : Ledger) : Outline where
  attempts := ⟨l.attempts.records.map Attempt.unnamed⟩
  work := ⟨l.work.items.map Item.unnamed⟩

/-! ## Outlines of ledgers -/

namespace Ledger

theorem get?_outline (l : Ledger) (payment : PaymentId) (number : UInt32) :
    l.outline.attempts.get? payment number =
      (l.attempts.get? payment number).map Attempt.unnamed := by
  rw [AttemptStore.get?, outline, List.find?_map]
  rfl

theorem get?_outline_of_some {l : Ledger} {payment : PaymentId} {number : UInt32} {a : Attempt}
    (h : l.attempts.get? payment number = some a) :
    l.outline.attempts.get? payment number = some a.unnamed := by
  rw [get?_outline, h]
  rfl

theorem outline_eq_of_agrees {l l' : Ledger} (h : l.Agrees l') : l'.outline = l.outline := by
  rw [outline, outline, h.attempts, h.work]

theorem outline_add {l l' : Ledger} {a : Attempt} (hattempts : l'.attempts = l.attempts.add a)
    (hwork : l'.work = l.work) :
    l'.outline = { l.outline with attempts := l.outline.attempts.add a.unnamed } := by
  rw [outline, hattempts, hwork, AttemptStore.add, List.map_append]
  rfl

theorem outline_replace {l l' : Ledger} {a : Attempt}
    (hattempts : l'.attempts = l.attempts.replace a) (hwork : l'.work = l.work) :
    l'.outline = { l.outline with attempts := l.outline.attempts.replace a.unnamed } := by
  have hmap (r : Attempt) :
      (if AttemptStore.isAttempt a.payment a.number r then a else r).unnamed =
        if AttemptStore.isAttempt a.payment a.number r.unnamed then a.unnamed else r.unnamed := by
    show _ = if AttemptStore.isAttempt a.payment a.number r then a.unnamed else r.unnamed
    split
    · rfl
    · rfl
  rw [outline, hattempts, hwork, AttemptStore.replace, List.map_map]
  simp only [Function.comp_def, hmap]
  simp only [outline, AttemptStore.replace, List.map_map, Function.comp_def]
  rfl

theorem outline_enqueue {l l' : Ledger} {id : ItemId} {new : NewItem} {clock : Instant}
    (hattempts : l'.attempts = l.attempts) (hwork : l'.work = l.work.enqueue id new clock) :
    l'.outline = { l.outline with work := l.outline.work.enqueue default new .first } := by
  rw [outline, hattempts, hwork, WorkStore.enqueue, List.map_append]
  rfl

/-- Whether an attempt has an open item does not depend on names and clocks. -/
theorem any_pendingForOwner_outline (l : Ledger) (queue owner : String) (a : Attempt) :
    (l.outline.work.pendingForOwner queue owner).any (RetryController.isItemOf a) =
      (l.work.pendingForOwner queue owner).any (RetryController.isItemOf a) := by
  rw [Bool.eq_iff_iff, List.any_eq_true, List.any_eq_true]
  constructor
  · intro h
    obtain ⟨i, hi, hitem⟩ := h
    obtain ⟨hmem, hqueue, howner, hstatus⟩ := WorkStore.mem_pendingForOwner.mp hi
    obtain ⟨j, hj, rfl⟩ := List.mem_map.mp hmem
    exact ⟨j, WorkStore.mem_pendingForOwner.mpr ⟨hj, hqueue, howner, hstatus⟩, hitem⟩
  · intro h
    obtain ⟨i, hi, hitem⟩ := h
    obtain ⟨hmem, hqueue, howner, hstatus⟩ := WorkStore.mem_pendingForOwner.mp hi
    exact ⟨i.unnamed, WorkStore.mem_pendingForOwner.mpr
      ⟨List.mem_map_of_mem hmem, hqueue, howner, hstatus⟩, hitem⟩

end Ledger

/-! ## The follow-up as a function -/

namespace Outline

/-- An attempt is recorded unless its number is taken. -/
def record (o : Outline) (a : Attempt) : Outline :=
  match o.attempts.get? a.payment a.number with
  | some _ => o
  | none => { o with attempts := o.attempts.add a }

/-- A pending attempt gets an item unless it has one. -/
def ensure (o : Outline) (payment : PaymentId) (number : UInt32) : Outline :=
  match o.attempts.get? payment number with
  | none => o
  | some a =>
    if a.outcome = .pending then
      if (o.work.pendingForOwner retryQueue a.account.render).any (RetryController.isItemOf a) then o
      else { o with work := o.work.enqueue default (RetryController.itemOf a) .first }
    else o

/-- What follows the outcome of a failed attempt. -/
def goOn (c : RetryController) (a : Attempt) (decision : RetryDecision) (o : Outline) : Outline :=
  if c.maxAttempts ≤ a.number then o
  else
    match decision with
    | .abort _ => o
    | .retryAt due adjusted =>
      (o.record (a.next default due adjusted a.updatedAt)).ensure a.payment (a.number + 1)

/-- The attempt of a payment and number gets an outcome, unless it has it. -/
def settle (o : Outline) (a : Attempt) (outcome : AttemptOutcome) (now : Instant) : Outline :=
  if a.outcome = outcome then o
  else { o with attempts := o.attempts.replace (RetryController.finished a outcome now) }

/-- What the follow-up of a failed attempt comes to. -/
def followUp (c : RetryController) (a : Attempt) (o : Outline) : Outline :=
  match c.policy.decide (RetryController.failedAttempt a a.updatedAt) with
  | none => o
  | some decision =>
    goOn c a decision (o.settle a (c.verdict a.number decision) a.updatedAt)

/-- What the follow-up of the attempt of a payment and number comes to. A settled attempt has none.
-/
def conclude (c : RetryController) (payment : PaymentId) (number : UInt32) (o : Outline) : Outline :=
  match o.attempts.get? payment number with
  | none => o
  | some a => if a.isTerminal then o else o.followUp c a

/-- What the follow-up of an attempt that fails at a time comes to. The time is recorded with the
outcome, and what follows goes by the record. -/
def failing (c : RetryController) (a : Attempt) (now : Instant) (o : Outline) : Outline :=
  match c.policy.decide (RetryController.failedAttempt a now) with
  | none => o
  | some decision =>
    (o.settle a (c.verdict a.number decision) now).conclude c a.payment a.number

/-- What the report of a failed attempt comes to. The attempt is recorded unless its number is taken,
and what is recorded is followed up. -/
def reported (c : RetryController) (a : Attempt) (o : Outline) : Outline :=
  (o.record a).conclude c a.payment a.number

/-! ### Writes that are repeated -/

variable {c : RetryController} {o : Outline} {a : Attempt} {payment : PaymentId} {number : UInt32}

theorem get?_record (h : o.attempts.get? payment number = some a) (b : Attempt) :
    (o.record b).attempts.get? payment number = some a := by
  unfold record
  split
  · exact h
  · exact AttemptStore.get?_add_of_some h b

theorem record_of_some {b : Attempt} (h : o.attempts.get? a.payment a.number = some b) :
    o.record a = o := by
  rw [record, h]

theorem exists_get?_record (o : Outline) (a : Attempt) :
    ∃ b, (o.record a).attempts.get? a.payment a.number = some b := by
  unfold record
  cases hget : o.attempts.get? a.payment a.number with
  | some b => exact ⟨b, hget⟩
  | none => exact ⟨a, AttemptStore.get?_add_self hget⟩

@[simp] theorem record_record (o : Outline) (a : Attempt) :
    (o.record a).record a = o.record a := by
  obtain ⟨b, hget⟩ := o.exists_get?_record a
  exact record_of_some hget

@[simp] theorem ensure_attempts (o : Outline) (payment : PaymentId) (number : UInt32) :
    (o.ensure payment number).attempts = o.attempts := by
  unfold ensure
  split
  · rfl
  · split
    · split
      · rfl
      · rfl
    · rfl

theorem any_pendingForOwner_enqueue (w : WorkStore) (a : Attempt) (id : ItemId) (clock : Instant) :
    ((w.enqueue id (RetryController.itemOf a) clock).pendingForOwner retryQueue
      a.account.render).any (RetryController.isItemOf a) = true := by
  rw [List.any_eq_true]
  refine ⟨Item.ofNew id (RetryController.itemOf a) clock, ?_, ?_⟩
  · rw [WorkStore.mem_pendingForOwner]
    exact ⟨List.mem_append_right _ (List.mem_singleton_self _), rfl, rfl, rfl⟩
  · rw [RetryController.isItemOf_eq, RetryController.retries_itemOf, beq_self_eq_true,
      beq_self_eq_true]
    rfl

@[simp] theorem ensure_ensure (o : Outline) (payment : PaymentId) (number : UInt32) :
    (o.ensure payment number).ensure payment number = o.ensure payment number := by
  cases hget : o.attempts.get? payment number with
  | none => simp only [ensure, hget]
  | some a =>
      by_cases hpending : a.outcome = .pending
      · by_cases hitem : (o.work.pendingForOwner retryQueue a.account.render).any
            (RetryController.isItemOf a) = true
        · simp only [ensure, hget, hpending, hitem, if_true]
        · have hfound := any_pendingForOwner_enqueue o.work a default .first
          simp only [ensure, hget, hpending, hitem, hfound, if_true, if_false, Bool.false_eq_true]
      · simp only [ensure, hget, hpending, if_false]

theorem get?_ensure (h : o.attempts.get? payment number = some a) (payment' : PaymentId)
    (number' : UInt32) : (o.ensure payment' number').attempts.get? payment number = some a := by
  rw [ensure_attempts, h]

theorem get?_goOn (h : o.attempts.get? payment number = some a) (b : Attempt)
    (decision : RetryDecision) :
    (o.goOn c b decision).attempts.get? payment number = some a := by
  unfold goOn
  split
  · exact h
  · split
    · exact h
    · exact get?_ensure (get?_record h _) _ _

/-- What follows an outcome can follow it again. -/
theorem goOn_goOn (c : RetryController) (a : Attempt) (decision : RetryDecision) (o : Outline) :
    (o.goOn c a decision).goOn c a decision = o.goOn c a decision := by
  unfold goOn
  split
  · rfl
  · split
    · rfl
    · rename_i due adjusted
      obtain ⟨b, hb⟩ := o.exists_get?_record (a.next default due adjusted a.updatedAt)
      rw [record_of_some (get?_ensure hb _ _), ensure_ensure]

/-- What is recorded next is recorded before the item is created. -/
theorem goOn_record {due : Instant} {adjusted : Option UInt64} (c : RetryController) (a : Attempt)
    (o : Outline) : (o.record (a.next default due adjusted a.updatedAt)).goOn c a
      (.retryAt due adjusted) =
      if c.maxAttempts ≤ a.number then o.record (a.next default due adjusted a.updatedAt)
      else o.goOn c a (.retryAt due adjusted) := by
  unfold goOn
  split
  · rfl
  · simp only [record_record]

/-! ### Interruptions -/

/-- The follow-up of an attempt that is not settled: its outcome and what follows that. -/
theorem conclude_of_open {decision : RetryDecision}
    (hget : o.attempts.get? payment number = some a) (hopen : a.isTerminal = false)
    (hdecide : c.policy.decide (RetryController.failedAttempt a a.updatedAt) = some decision) :
    o.conclude c payment number =
      (o.settle a (c.verdict a.number decision) a.updatedAt).goOn c a decision := by
  simp only [conclude, hget, hopen, Bool.false_eq_true, if_false, followUp, hdecide]

/-- The follow-up of an attempt that has its outcome: what follows that. -/
theorem conclude_of_settled {decision : RetryDecision}
    (hget : o.attempts.get? payment number = some a)
    (houtcome : a.outcome = c.verdict a.number decision)
    (hdecide : c.policy.decide (RetryController.failedAttempt a a.updatedAt) = some decision) :
    o.conclude c payment number = o.goOn c a decision := by
  cases hterminal : a.isTerminal with
  | false =>
      rw [conclude_of_open hget hterminal hdecide, settle, if_pos houtcome]
  | true =>
      simp only [conclude, hget, hterminal, if_true]
      cases decision with
      | retryAt =>
          rw [Attempt.isTerminal_of_outcome houtcome] at hterminal
          cases hterminal
      | abort reason =>
          unfold goOn
          split
          · rfl
          · rfl

/-- The policy is asked of a finished attempt what it was asked before. -/
theorem conclude_of_finished {decision : RetryDecision} {now : Instant}
    (hget : o.attempts.get? payment number =
      some (RetryController.finished a (c.verdict a.number decision) now))
    (hdecide : c.policy.decide (RetryController.failedAttempt a now) = some decision) :
    o.conclude c payment number =
      o.goOn c (RetryController.finished a (c.verdict a.number decision) now) decision := by
  have houtcome : (RetryController.finished a (c.verdict a.number decision) now).outcome =
      c.verdict a.number decision := rfl
  exact conclude_of_settled hget houtcome hdecide

theorem get?_settle (hget : o.attempts.get? payment number = some a) (outcome : AttemptOutcome) :
    (o.settle a outcome a.updatedAt).attempts.get? payment number =
      some (RetryController.finished a outcome a.updatedAt) := by
  obtain ⟨rfl, rfl⟩ := AttemptStore.key_of_get? hget
  unfold settle
  split
  · rename_i houtcome
    rw [hget, ← houtcome]
    rfl
  · exact AttemptStore.get?_replace_self
      (a := RetryController.finished a outcome a.updatedAt) hget

/-- **An interruption after the outcome does not matter.** -/
theorem conclude_settle {decision : RetryDecision}
    (hget : o.attempts.get? payment number = some a) (hopen : a.isTerminal = false)
    (hdecide : c.policy.decide (RetryController.failedAttempt a a.updatedAt) = some decision) :
    (o.settle a (c.verdict a.number decision) a.updatedAt).conclude c payment number =
      o.conclude c payment number := by
  have hsettled := get?_settle hget (c.verdict a.number decision)
  rw [conclude_of_open hget hopen hdecide]
  exact conclude_of_finished hsettled hdecide

/-- **An interruption after the next attempt does not matter.** -/
theorem conclude_record {due : Instant} {adjusted : Option UInt64}
    (hget : o.attempts.get? payment number = some a) (houtcome : a.outcome = .failed)
    (hceiling : ¬c.maxAttempts ≤ a.number)
    (hdecide : c.policy.decide (RetryController.failedAttempt a a.updatedAt) =
      some (.retryAt due adjusted)) :
    (o.record (a.next default due adjusted a.updatedAt)).conclude c payment number =
      o.conclude c payment number := by
  have hverdict : a.outcome = c.verdict a.number (.retryAt due adjusted) := houtcome
  rw [conclude_of_settled hget hverdict hdecide,
    conclude_of_settled (get?_record hget _) hverdict hdecide, goOn_record, if_neg hceiling]

/-- **Concluding twice is concluding once.** -/
theorem conclude_conclude (c : RetryController) (payment : PaymentId) (number : UInt32)
    (o : Outline) : (o.conclude c payment number).conclude c payment number =
      o.conclude c payment number := by
  cases hget : o.attempts.get? payment number with
  | none => simp only [conclude, hget]
  | some a =>
      cases hterminal : a.isTerminal with
      | true => simp only [conclude, hget, hterminal, if_true]
      | false =>
          cases hdecide : c.policy.decide (RetryController.failedAttempt a a.updatedAt) with
          | none =>
              have hsame : o.conclude c payment number = o := by
                simp only [conclude, hget, hterminal, followUp, hdecide, Bool.false_eq_true,
                  if_false]
              rw [hsame, hsame]
          | some decision =>
              have hsettled := get?_settle hget (c.verdict a.number decision)
              rw [conclude_of_open hget hterminal hdecide,
                conclude_of_finished (get?_goOn hsettled a decision) hdecide]
              exact goOn_goOn c a decision _

end Outline

end Dunning
