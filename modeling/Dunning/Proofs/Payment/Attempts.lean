import Dunning.Payment.AttemptStore

/-!
# What the store of attempts keeps

The store is read through `AttemptStore.get?`. A write that goes through is one of two: it adds an
attempt under a free number, or it puts an attempt in the place of the one with its payment, number
and identifier. Each has one law for what is read afterwards.

## Main definitions

* `AttemptStore.add`, `AttemptStore.replace` — the two writes.
* `Attempt.Alike` — attempts that differ at most in what became of them.

## Main results

* `AttemptStore.get?_add`, `AttemptStore.get?_replace` — what is read after a write.
* `AttemptStore.insert_cases`, `AttemptStore.update_cases` — every answer with its write.
-/

namespace Dunning

/-- Attempts that agree in all that is fixed when an attempt is recorded. -/
structure Attempt.Alike (a b : Attempt) : Prop where
  id : a.id = b.id
  payment : a.payment = b.payment
  account : a.account = b.account
  number : a.number = b.number
  scheduledFor : a.scheduledFor = b.scheduledFor
  amount : a.amount = b.amount
  adjusted : a.adjusted = b.adjusted

/-- Whether an attempt has ended depends on its outcome alone. -/
theorem Attempt.isTerminal_of_outcome {a : Attempt} {outcome : AttemptOutcome}
    (h : a.outcome = outcome) : a.isTerminal = (outcome == .aborted || outcome == .success) := by
  rw [Attempt.isTerminal, h]

namespace Attempt.Alike

theorem refl (a : Attempt) : a.Alike a := ⟨rfl, rfl, rfl, rfl, rfl, rfl, rfl⟩

theorem trans {a b c : Attempt} (h : a.Alike b) (g : b.Alike c) : a.Alike c :=
  ⟨h.id.trans g.id, h.payment.trans g.payment, h.account.trans g.account, h.number.trans g.number,
    h.scheduledFor.trans g.scheduledFor, h.amount.trans g.amount, h.adjusted.trans g.adjusted⟩

theorem symm {a b : Attempt} (h : a.Alike b) : b.Alike a :=
  ⟨h.id.symm, h.payment.symm, h.account.symm, h.number.symm, h.scheduledFor.symm, h.amount.symm,
    h.adjusted.symm⟩

theorem effectiveAmount {a b : Attempt} (h : a.Alike b) :
    a.effectiveAmount = b.effectiveAmount := by
  rw [Attempt.effectiveAmount, Attempt.effectiveAmount, h.amount, h.adjusted]

end Attempt.Alike

namespace AttemptStore

/-- The store with one more attempt. -/
def add (s : AttemptStore) (a : Attempt) : AttemptStore := ⟨s.records ++ [a]⟩

/-- The store with an attempt in the place of that of the same payment and number. -/
def replace (s : AttemptStore) (a : Attempt) : AttemptStore :=
  ⟨s.records.map fun r => if isAttempt a.payment a.number r then a else r⟩

theorem isAttempt_iff {payment : PaymentId} {number : UInt32} {a : Attempt} :
    isAttempt payment number a = true ↔ a.payment = payment ∧ a.number = number := by
  simp [isAttempt]

theorem isAttempt_self (a : Attempt) : isAttempt a.payment a.number a = true :=
  isAttempt_iff.mpr ⟨rfl, rfl⟩

theorem key_of_get? {s : AttemptStore} {payment : PaymentId} {number : UInt32} {a : Attempt}
    (h : s.get? payment number = some a) : a.payment = payment ∧ a.number = number :=
  isAttempt_iff.mp (List.find?_some h)

/-- What is read is stored under its own key. -/
theorem get?_self_of_get? {s : AttemptStore} {payment : PaymentId} {number : UInt32} {a : Attempt}
    (h : s.get? payment number = some a) : s.get? a.payment a.number = some a := by
  obtain ⟨rfl, rfl⟩ := key_of_get? h
  exact h

theorem mem_of_get? {s : AttemptStore} {payment : PaymentId} {number : UInt32} {a : Attempt}
    (h : s.get? payment number = some a) : a ∈ s.records :=
  List.mem_of_find?_eq_some h

theorem get?_add (s : AttemptStore) (a : Attempt) (payment : PaymentId) (number : UInt32) :
    (s.add a).get? payment number =
      (s.get? payment number).or (if isAttempt payment number a then some a else none) := by
  rw [get?, add, List.find?_append, List.find?_singleton]
  rfl

/-- What was there is still read after an attempt was added. -/
theorem get?_add_of_some {s : AttemptStore} {payment : PaymentId} {number : UInt32} {b : Attempt}
    (h : s.get? payment number = some b) (a : Attempt) :
    (s.add a).get? payment number = some b := by
  rw [get?_add, h, Option.some_or]

/-- What is read after an attempt was added. -/
theorem get?_add_eq_some {s : AttemptStore} {a b : Attempt} {payment : PaymentId}
    {number : UInt32} (h : (s.add a).get? payment number = some b) :
    s.get? payment number = some b ∨
      (s.get? payment number = none ∧ a.payment = payment ∧ a.number = number ∧ a = b) := by
  rw [get?_add] at h
  cases hbefore : s.get? payment number with
  | some stored =>
      rw [hbefore, Option.some_or] at h
      exact .inl h
  | none =>
      rw [hbefore, Option.none_or] at h
      obtain ⟨hkey, hsame⟩ := Option.ite_none_right_eq_some.mp h
      obtain ⟨hpayment, hnumber⟩ := isAttempt_iff.mp hkey
      exact .inr ⟨rfl, hpayment, hnumber, Option.some.inj hsame⟩

theorem get?_add_self {s : AttemptStore} {a : Attempt} (h : s.get? a.payment a.number = none) :
    (s.add a).get? a.payment a.number = some a := by
  rw [get?_add, h, Option.none_or, if_pos (isAttempt_self a)]

theorem get?_add_of_ne (s : AttemptStore) {a : Attempt} {payment : PaymentId} {number : UInt32}
    (h : ¬(payment = a.payment ∧ number = a.number)) :
    (s.add a).get? payment number = s.get? payment number := by
  have hother : ¬isAttempt payment number a = true := by
    rw [isAttempt_iff]
    exact fun hkey => h ⟨hkey.1.symm, hkey.2.symm⟩
  rw [get?_add, if_neg hother, Option.or_none]

theorem get?_replace (s : AttemptStore) (a : Attempt) (payment : PaymentId) (number : UInt32) :
    (s.replace a).get? payment number = (s.get? payment number).map fun r =>
      if isAttempt a.payment a.number r then a else r := by
  have hkeep : (isAttempt payment number ∘ fun r =>
      if isAttempt a.payment a.number r then a else r) = isAttempt payment number := by
    funext r
    by_cases hr : isAttempt a.payment a.number r = true
    · obtain ⟨hpayment, hnumber⟩ := isAttempt_iff.mp hr
      simp only [Function.comp_apply, hr, if_true]
      rw [isAttempt, isAttempt, hpayment, hnumber]
    · simp only [Function.comp_apply, hr, if_false, Bool.false_eq_true]
  rw [get?, replace, List.find?_map, hkeep]
  rfl

theorem get?_replace_self {s : AttemptStore} {a b : Attempt}
    (h : s.get? a.payment a.number = some b) :
    (s.replace a).get? a.payment a.number = some a := by
  rw [get?_replace, h, Option.map_some, if_pos (isAttempt_iff.mpr (key_of_get? h))]

theorem get?_replace_of_ne (s : AttemptStore) {a : Attempt} {payment : PaymentId}
    {number : UInt32} (h : ¬(payment = a.payment ∧ number = a.number)) :
    (s.replace a).get? payment number = s.get? payment number := by
  rw [get?_replace]
  cases hget : s.get? payment number with
  | none => rfl
  | some b =>
      obtain ⟨hpayment, hnumber⟩ := key_of_get? hget
      rw [Option.map_some, if_neg]
      rw [isAttempt_iff, hpayment, hnumber]
      exact h

/-- A record is added under a free number or refused. -/
theorem insert_cases (s : AttemptStore) (a : Attempt) :
    (s.get? a.payment a.number = none ∧ s.insert a = (.ok (), s.add a)) ∨
      ∃ stored e, s.get? a.payment a.number = some stored ∧ e.isConflict = true ∧
        s.insert a = (.error e, s) := by
  unfold insert
  cases hget : s.get? a.payment a.number with
  | none => exact .inl ⟨rfl, rfl⟩
  | some stored => exact .inr ⟨stored, _, rfl, rfl, rfl⟩

/-- A record is replaced by one of its identifier or stays. -/
theorem update_cases (s : AttemptStore) (a : Attempt) :
    (∃ stored, s.get? a.payment a.number = some stored ∧ stored.id = a.id ∧
        s.update a = (.ok (), s.replace a)) ∨
      (¬∃ stored, s.get? a.payment a.number = some stored ∧ stored.id = a.id) ∧
        ∃ e, s.update a = (.error e, s) := by
  unfold update
  cases hget : s.get? a.payment a.number with
  | none => exact .inr ⟨by simp, _, rfl⟩
  | some stored =>
      by_cases hid : stored.id = a.id
      · exact .inl ⟨stored, rfl, hid, if_pos hid⟩
      · exact .inr ⟨by simpa using hid, _, if_neg hid⟩

end AttemptStore

end Dunning
