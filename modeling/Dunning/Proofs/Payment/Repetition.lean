import Dunning.Proofs.Payment.Chains
import Dunning.Proofs.Payment.Recovery
import Mathlib.Logic.Relation

/-!
# Making a decision durable once more

A call that makes a decision about a failed attempt durable may be repeated at any later time, with
the attempt as it was read then and with another decision. The next attempt is recorded since the
first call, and no request takes a recorded attempt away. So the second call finds its number taken,
reads what is there and hands that on; all it can add is the item of an attempt that waits without
one.

## Main definitions

* `Surroundings.Meanwhile`, `Surroundings.AnswersAmid` — what others do, before and during a call.
* `RetryController.LeftBy` — the attempt is recorded as a call leaves it.
* `Ledger.HasOpenItem` — an item waits that asks for an attempt.
* `RetryController.Repeated` — what a repeated call comes to.

## Main results

* `Surroundings.Meanwhile.exists_of_get?` — recorded attempts stay.
* `RetryController.repeated_decision_adds_nothing` — a repeated call changes no attempt, and creates
  an item exactly where one is missing.
-/

namespace Dunning

/-! ## What others do -/

namespace Surroundings

variable {w : Surroundings} {l l' : Ledger} {payment : PaymentId} {number : UInt32} {a : Attempt}

/-- Somebody is answered, or somebody's program is stopped. -/
def Goes (w : Surroundings) (l l' : Ledger) : Prop :=
  (∃ request answer, w.Answers request l answer l') ∨ l' = l.noting .stopped

/-- What others may do meanwhile: anything that can be asked. -/
def Meanwhile (w : Surroundings) : Ledger → Ledger → Prop := Relation.ReflTransGen w.Goes

/-- How a request may be answered after whatever others did. -/
def AnswersAmid (w : Surroundings) (request : Request) (l : Ledger) (answer : request.Answer)
    (l' : Ledger) : Prop :=
  ∃ m, w.Meanwhile l m ∧ w.Answers request m answer l'

/-- No request takes a recorded attempt away. -/
theorem Answers.exists_of_get? {request : Request} {answer : request.Answer}
    (h : w.Answers request l answer l') (hget : l.attempts.get? payment number = some a) :
    ∃ b, l'.attempts.get? payment number = some b := by
  by_cases hrequest : ∃ r, request = .attempt r
  · obtain ⟨request, rfl⟩ := hrequest
    cases request with
    | insert b =>
        rcases answer with e | u
        · exact ⟨a, h.insert_error ▸ hget⟩
        · exact ⟨a, h.insert_ok.2 ▸ AttemptStore.get?_add_of_some hget b⟩
    | update b =>
        rcases answer with e | u
        · exact ⟨a, h.update_error ▸ hget⟩
        · rw [h.update_ok.2, AttemptStore.get?_replace, hget]
          exact ⟨_, rfl⟩
    | get => exact ⟨a, (h.look trivial).attempts ▸ hget⟩
    | ofPayment =>
        rcases h with ⟨attempts, hresponds, rfl⟩ | ⟨_, _, _, rfl⟩
        · obtain rfl : l.attempts = attempts := congrArg Prod.snd hresponds
          exact ⟨a, hget⟩
        · exact ⟨a, hget⟩
  · exact ⟨a, (h.attempts_eq fun r hr => hrequest ⟨r, hr⟩) ▸ hget⟩

theorem Meanwhile.exists_of_get? (h : w.Meanwhile l l')
    (hget : l.attempts.get? payment number = some a) :
    ∃ b, l'.attempts.get? payment number = some b := by
  induction h with
  | refl => exact ⟨a, hget⟩
  | tail _ hgoes ih =>
      obtain ⟨b, hb⟩ := ih
      rcases hgoes with ⟨request, answer, hanswers⟩ | rfl
      · exact hanswers.exists_of_get? hb
      · exact ⟨b, hb⟩

theorem AnswersAmid.exists_of_get? {request : Request} {answer : request.Answer}
    (h : w.AnswersAmid request l answer l') (hget : l.attempts.get? payment number = some a) :
    ∃ b, l'.attempts.get? payment number = some b := by
  obtain ⟨m, hmeanwhile, hanswers⟩ := h
  obtain ⟨b, hb⟩ := hmeanwhile.exists_of_get? hget
  exact hanswers.exists_of_get? hb

end Surroundings

/-! ## What stays and what is missing -/

/-- Whether an item of its account waits in the queue of attempts that asks for an attempt. -/
def Ledger.HasOpenItem (l : Ledger) (a : Attempt) : Prop :=
  ∃ i ∈ l.work.items, i.owner = a.account.render ∧ i.isOpenRetryOf a.payment a.number = true

/-- Where every item is created for an attempt, the ones of the account are all that ask for it. -/
theorem Ledger.Scheduled.hasOpenItem_iff {l : Ledger} (scheduled : l.Scheduled) {a : Attempt}
    (hstored : l.attempts.get? a.payment a.number = some a) :
    l.HasOpenItem a ↔ ∃ i ∈ l.work.items, i.isOpenRetryOf a.payment a.number = true := by
  constructor
  · rintro ⟨i, hi, -, hopen⟩
    exact ⟨i, hi, hopen⟩
  · rintro ⟨i, hi, hopen⟩
    obtain ⟨hqueue, -, hretries⟩ := Item.isOpenRetryOf_iff.mp hopen
    obtain ⟨b, hpayment, hnumber, hcreated⟩ := scheduled.created i hi hqueue _ _ hretries
    have hsame := hcreated.stored
    rw [hpayment, hnumber, hstored] at hsame
    obtain rfl := Option.some.inj hsame
    exact ⟨i, hi, hcreated.owner, hopen⟩

/-- Whether identifiers can be given out: for an attempt, and for an item one that is unused. -/
def Surroundings.Supplies (w : Surroundings) (l : Ledger) : Prop :=
  (∃ id, w.gives .freshId id) ∧ ∃ id : ItemId, ∀ i ∈ l.work.items, i.id ≠ id

/-- Ledgers with the same attempts under every number, and the same items. -/
structure Ledger.Unchanged (l l' : Ledger) : Prop where
  rows : ∀ payment number, l'.attempts.get? payment number = l.attempts.get? payment number
  work : l'.work = l.work

namespace Ledger.Unchanged

variable {l m n : Ledger}

theorem refl (l : Ledger) : l.Unchanged l := ⟨fun _ _ => rfl, rfl⟩

theorem of_agrees (h : l.Unchanged m) (hagrees : m.Agrees n) : l.Unchanged n :=
  ⟨fun payment number => hagrees.attempts ▸ h.rows payment number, hagrees.work.trans h.work⟩

end Ledger.Unchanged

namespace RetryController

variable {c : RetryController} {w : Surroundings} {l l' : Ledger} {a next : Attempt} {now : Instant}

/-! ## The first call -/

/-- Whether an attempt is recorded. -/
def Records (l : Ledger) (payment : PaymentId) (number : UInt32) : Prop :=
  ∃ a, l.attempts.get? payment number = some a

/-- What is recorded stays so to the end of a program, whatever others do. -/
theorem obeys_of_records {α : Type} (t : Program α) {payment : PaymentId} {number : UInt32}
    (h : Records l payment number) :
    t.Obeys w.AnswersAmid (fun _ _ => True) (fun _ l' => Records l' payment number) l := by
  have hany : t.Obeys w.AnswersAmid (fun _ _ => True) (fun _ _ => True) l :=
    Task.obeys_of_forall (fun _ _ => trivial) t l
  refine (hany.and_inv ?_ h).imp fun _ _ hpost => hpost.2
  intro s request answer u hrecords _ hanswers
  obtain ⟨b, hb⟩ := hrecords
  exact hanswers.exists_of_get? hb

/-- When the next attempt was recorded or found, it is recorded. -/
theorem recordNext_records (candidate : Attempt) (hpayment : candidate.payment = a.payment) :
    (recordNext a candidate).Obeys w.AnswersAmid (fun _ _ => True)
      (fun result l' => result.isOk = true → Records l' a.payment candidate.number) l := by
  simp only [recordNext_eq, insertOrFind, Program.insertAttempt, Program.getAttempt, Task.bind_eq,
    Task.pure_eq, Task.bind_ask, Task.bind_done]
  refine ⟨trivial, ?_⟩
  intro answer l₁ hamid
  obtain ⟨m, -, h⟩ := hamid
  rcases answer with e | u
  · by_cases hconflict : e.isConflict = true
    · simp only [hconflict, if_true]
      refine ⟨trivial, ?_⟩
      intro answer l₂ hamid₂
      obtain ⟨m₂, -, h₂⟩ := hamid₂
      rcases answer with e | found
      · exact fun h => absurd h Bool.false_ne_true
      · rcases found with _ | stored
        · exact fun h => absurd h Bool.false_ne_true
        · exact fun _ => ⟨stored, (h₂.look trivial).attempts ▸ h₂.get_ok⟩
    · simp only [hconflict, if_false, Bool.false_eq_true]
      exact fun h => absurd h Bool.false_ne_true
  · obtain ⟨hnone, hadd⟩ := h.insert_ok
    exact fun _ => ⟨candidate, hadd ▸ hpayment ▸ AttemptStore.get?_add_self hnone⟩

/-- When the next attempt was scheduled, it is recorded. -/
theorem schedule_records (due : Instant) (adjusted : Option UInt64) :
    (schedule a due adjusted now).Obeys w.AnswersAmid (fun _ _ => True)
      (fun result l' => result.isOk = true → Records l' a.payment (a.number + 1)) l := by
  simp only [schedule, Program.freshId, Task.bind_eq, Task.pure_eq, Task.bind_ask, Task.bind_done]
  refine ⟨trivial, ?_⟩
  intro id l₁ _
  rw [Task.obeys_bind]
  refine (recordNext_records (a.next id due adjusted now) rfl).imp ?_
  intro result l₂ hpost
  rcases result with e | next
  · exact fun h => absurd h Bool.false_ne_true
  · have hrecords : Records l₂ a.payment (a.number + 1) := hpost rfl
    exact (obeys_of_records _ hrecords).imp fun _ _ h _ => h

/-- Below the ceiling a decision to go on schedules the next attempt. -/
theorem goOn_of_lt (hceiling : a.number < c.maxAttempts) (due : Instant)
    (adjusted : Option UInt64) :
    c.goOn a (.retryAt due adjusted) now = schedule a due adjusted now :=
  if_neg (UInt32.not_le.mpr hceiling)

/-- When a decision to go on was made durable, the next attempt is recorded. -/
theorem applyDecision_records (hceiling : a.number < c.maxAttempts) (due : Instant)
    (adjusted : Option UInt64) :
    (c.applyDecision a (.retryAt due adjusted) now).Obeys w.AnswersAmid (fun _ _ => True)
      (fun result l' => result.isOk = true → Records l' a.payment (a.number + 1)) l := by
  rw [applyDecision_eq, goOn_of_lt hceiling, Task.obeys_bind]
  refine Task.obeys_of_forall ?_ _ _
  intro result l₁
  rcases result with e | u
  · exact fun h => absurd h Bool.false_ne_true
  · exact schedule_records due adjusted

/-! ## The second call -/

/-- The attempt is recorded as a call leaves it, which writes the outcome unless it was there. -/
def LeftBy (a : Attempt) (now : Instant) (l : Ledger) : Prop :=
  a.outcome ≠ .failed → l.attempts.get? a.payment a.number = some (finished a .failed now)

/-- What a repeated call asks: an identifier, attempts, and items, as long as there are as many as
before. -/
inductive Repeats (l : Ledger) (m : Ledger) : Request → Prop where
  | freshId : Repeats l m .freshId
  | attempt (request : AttemptRequest) : Repeats l m (.attempt request)
  | list (queue owner : String) : m.work = l.work →
      Repeats l m (.work (.pendingForOwner queue owner))
  | enqueue (new : NewItem) : m.work = l.work → Repeats l m (.work (.enqueue new))

/-- Surroundings that supply identifiers answer what a repeated call asks. -/
theorem Repeats.answered {m : Ledger} {request : Request} (h : Repeats l m request)
    (hsupplies : w.Supplies l) : ∃ answer m', w.Answers request m answer m' := by
  obtain ⟨⟨id, hid⟩, fresh, hfresh⟩ := hsupplies
  cases h with
  | freshId => exact ⟨id, _, hid, rfl⟩
  | attempt request => exact ⟨_, _, .inl ⟨_, rfl, rfl⟩⟩
  | list queue owner hwork =>
      exact ⟨.ok (m.work.pendingForOwner queue owner), _,
        .inl ⟨.noon, fresh, m.work, ⟨hwork ▸ hfresh, rfl⟩, rfl⟩⟩
  | enqueue new hwork =>
      exact ⟨.ok fresh, _,
        .inl ⟨.noon, fresh, m.work.enqueue fresh new .noon, ⟨hwork ▸ hfresh, rfl⟩, rfl⟩⟩

/-- What a repeated call comes to when the next attempt is recorded as `next`. -/
inductive Repeated (w : Surroundings) (next : Attempt) (l l' : Ledger) :
    Except RetryError RetryDirective → Prop where
  /-- The attempt waits without an item, and gets one. -/
  | enqueued (id : ItemId) (clock : Instant) : next.outcome = .pending → ¬l.HasOpenItem next →
      l'.work = l.work.enqueue id (itemOf next) clock →
      Repeated w next l l'
        (.ok (.scheduled next.number next.scheduledFor next.effectiveAmount (some id)))
  /-- The attempt has ended, or an item waits for it. -/
  | found : (next.outcome = .pending → l.HasOpenItem next) → l'.work = l.work →
      Repeated w next l l'
        (.ok (.scheduled next.number next.scheduledFor next.effectiveAmount none))
  /-- A call to a store failed. -/
  | failed (error : RetryError) : ¬w.Reliable → l'.work = l.work →
      Repeated w next l l' (.error error)

/-- Writing what is recorded changes nothing. -/
theorem finish_again (h : LeftBy a now l) :
    (finish a .failed now).Obeys w.Answers (Repeats l)
      (fun result l' => l.Unchanged l' ∧ (result.isOk = false → ¬w.Reliable)) l := by
  unfold finish
  by_cases heq : a.outcome = .failed
  · rw [if_pos heq]
    exact ⟨.refl l, nofun⟩
  · rw [if_neg heq]
    refine ⟨.attempt _, ?_⟩
    intro answer l₁ hanswers
    have hstored := h heq
    have hwork := hanswers.work_eq (by simp)
    rcases hanswers.update with ⟨_, _, _, rfl, hreplace⟩ | ⟨hnone, _⟩ | ⟨e, hfails, rfl, hattempts⟩
    · refine ⟨⟨fun payment number => ?_, hwork⟩, nofun⟩
      rw [hreplace]
      by_cases hkey : payment = a.payment ∧ number = a.number
      · obtain ⟨rfl, rfl⟩ := hkey
        rw [hstored]
        exact AttemptStore.get?_replace_self (a := finished a .failed now) hstored
      · exact AttemptStore.get?_replace_of_ne (a := finished a .failed now) _ hkey
    · exact absurd ⟨_, hstored, rfl⟩ hnone
    · refine ⟨⟨fun _ _ => by rw [hattempts], hwork⟩, fun _ hreliable => hreliable _ _ hfails⟩

/-- Under a number that is taken the recorded attempt is found. -/
theorem recordNext_again {m : Ledger} {candidate : Attempt} (hsame : l.Unchanged m)
    (hpayment : candidate.payment = a.payment)
    (hnext : l.attempts.get? a.payment candidate.number = some next) :
    (recordNext a candidate).Obeys w.Answers (Repeats l)
      (fun result m' => l.Unchanged m' ∧
        (result = .ok next ∨ ∃ error, result = .error error ∧ ¬w.Reliable)) m := by
  have htaken : m.attempts.get? a.payment candidate.number = some next :=
    (hsame.rows _ _).trans hnext
  simp only [recordNext_eq, insertOrFind, Program.insertAttempt, Program.getAttempt, Task.bind_eq,
    Task.pure_eq, Task.bind_ask, Task.bind_done]
  refine ⟨.attempt _, ?_⟩
  intro answer m₁ h
  -- A store that works refuses with a conflict; any other refusal is a failure of the store.
  have hrefused : ∃ e, answer = .error e ∧ m.Agrees m₁ ∧ (e.isConflict = false → ¬w.Reliable) := by
    have hwork := h.work_eq (by simp)
    rcases h.insert with ⟨hnone, -, -⟩ | ⟨_, e, _, hconflict, rfl, hattempts⟩ |
      ⟨e, hfails, rfl, hattempts⟩
    · rw [hpayment, htaken] at hnone
      cases hnone
    · refine ⟨e, rfl, ⟨hattempts, hwork⟩, fun hother => ?_⟩
      rw [hconflict] at hother
      cases hother
    · exact ⟨e, rfl, ⟨hattempts, hwork⟩, fun _ hreliable => hreliable _ _ hfails⟩
  obtain ⟨e, rfl, hagrees, hother⟩ := hrefused
  have hsame₁ := hsame.of_agrees hagrees
  by_cases hconflict : e.isConflict = true
  · simp only [hconflict, if_true]
    refine ⟨.attempt _, ?_⟩
    intro answer m₂ h₂
    have hsame₂ := hsame₁.of_agrees (h₂.look trivial)
    rcases h₂.get with rfl | ⟨e, hfails, rfl⟩
    · rw [hagrees.attempts, htaken]
      exact ⟨hsame₂, .inl rfl⟩
    · exact ⟨hsame₂, .inr ⟨_, rfl, fun hreliable => hreliable _ _ hfails⟩⟩
  · simp only [hconflict, if_false, Bool.false_eq_true]
    exact ⟨hsame₁, .inr ⟨_, rfl, hother (Bool.eq_false_iff.mpr hconflict)⟩⟩

/-- The list of waiting items tells whether one asks for an attempt. -/
theorem any_isItemOf_iff :
    (l.work.pendingForOwner retryQueue a.account.render).any (isItemOf a) = true ↔
      l.HasOpenItem a := by
  simp only [List.any_eq_true, WorkStore.mem_pendingForOwner, isItemOf_eq, Ledger.HasOpenItem,
    Item.isOpenRetryOf_iff]
  constructor
  · rintro ⟨i, ⟨hi, hqueue, howner, hopen⟩, hretries⟩
    exact ⟨i, hi, howner, hqueue, hopen, hretries⟩
  · rintro ⟨i, hi, howner, hqueue, hopen, hretries⟩
    exact ⟨i, ⟨hi, hqueue, howner, hopen⟩, hretries⟩

/-- The item of a waiting attempt is created where there is none. -/
theorem ensureItem_again {m : Ledger} (hsame : l.Unchanged m) (hpending : next.outcome = .pending) :
    (ensureItem next).Obeys w.Answers (Repeats l) (fun result m' =>
      (∀ payment number, m'.attempts.get? payment number = l.attempts.get? payment number) ∧
        Repeated w next l m' result) m := by
  simp only [ensureItem, Program.pendingForOwner, Program.enqueue, Task.bind_eq, Task.pure_eq,
    Task.bind_ask, Task.bind_done]
  refine ⟨.list _ _ hsame.work, ?_⟩
  intro answer m₁ h
  have hsame₁ := hsame.of_agrees (h.look trivial)
  rcases h.pendingForOwner with rfl | ⟨e, hfails, rfl⟩
  · rw [hsame.work]
    by_cases hitem :
        (l.work.pendingForOwner retryQueue next.account.render).any (isItemOf next) = true
    · simp only [hitem, if_true]
      exact ⟨hsame₁.rows, .found (fun _ => any_isItemOf_iff.mp hitem) hsame₁.work⟩
    · simp only [hitem, if_false, Bool.false_eq_true]
      refine ⟨.enqueue _ hsame₁.work, ?_⟩
      intro answer m₂ h₂
      have hrows : ∀ payment number,
          m₂.attempts.get? payment number = l.attempts.get? payment number := by
        intro payment number
        rw [h₂.attempts_eq (by simp), hsame₁.rows]
      rcases h₂.enqueue with ⟨id, clock, rfl, hwork⟩ | ⟨e, hfails, rfl, hwork⟩
      · rw [hsame₁.work] at hwork
        exact ⟨hrows, .enqueued id clock hpending (mt any_isItemOf_iff.mpr hitem) hwork⟩
      · exact ⟨hrows, .failed _ (fun hreliable => hreliable _ _ hfails) (hwork.trans hsame₁.work)⟩
  · exact ⟨hsame₁.rows, .failed _ (fun hreliable => hreliable _ _ hfails) hsame₁.work⟩

/-- The next attempt is scheduled once more while it is recorded. -/
theorem schedule_again {m : Ledger} (hsame : l.Unchanged m)
    (hnext : l.attempts.get? a.payment (a.number + 1) = some next) (due : Instant)
    (adjusted : Option UInt64) :
    (schedule a due adjusted now).Obeys w.Answers (Repeats l) (fun result m' =>
      (∀ payment number, m'.attempts.get? payment number = l.attempts.get? payment number) ∧
        Repeated w next l m' result) m := by
  simp only [schedule, Program.freshId, Task.bind_eq, Task.pure_eq, Task.bind_ask, Task.bind_done]
  refine ⟨.freshId, ?_⟩
  intro id m₁ h
  rw [Task.obeys_bind]
  refine (recordNext_again (hsame.of_agrees (h.look trivial)) rfl hnext).imp ?_
  rintro result m₂ ⟨hsame₂, rfl | ⟨error, rfl, hunreliable⟩⟩
  · by_cases hpending : next.outcome = .pending
    · simp only [hpending, if_true]
      exact ensureItem_again hsame₂ hpending
    · simp only [hpending, if_false]
      exact ⟨hsame₂.rows, .found (fun h => absurd h hpending) hsame₂.work⟩
  · exact ⟨hsame₂.rows, .failed _ hunreliable hsame₂.work⟩

/-- A call that is repeated while the next attempt is recorded. -/
theorem applyDecision_again (hceiling : a.number < c.maxAttempts) (hleft : LeftBy a now l)
    (hnext : l.attempts.get? a.payment (a.number + 1) = some next) (due : Instant)
    (adjusted : Option UInt64) :
    (c.applyDecision a (.retryAt due adjusted) now).Obeys w.Answers (Repeats l) (fun result l' =>
      (∀ payment number, l'.attempts.get? payment number = l.attempts.get? payment number) ∧
        Repeated w next l l' result) l := by
  rw [applyDecision_eq, goOn_of_lt hceiling, Task.obeys_bind]
  refine (finish_again hleft).imp ?_
  rintro result l₁ ⟨hsame, hfailed⟩
  rcases result with e | u
  · exact ⟨hsame.rows, .failed _ (hfailed rfl) hsame.work⟩
  · exact schedule_again hsame hnext due adjusted

/-- **Applying an outcome again.** After a call that went through, whatever others do then, a call
with the same attempt and time and any decision to go on finds the next attempt recorded. It leaves
every attempt as it is, hands on when the recorded one is due and what it charges, and creates an
item exactly when that attempt waits and none of its account's items does; nothing else happens
unless a store fails. Among the items that deliveries create, those of the account are all there
are. -/
theorem repeated_decision_adds_nothing {l₁ l₂ : Ledger} {due : Instant} {adjusted : Option UInt64}
    {directive : RetryDirective} (hceiling : a.number < c.maxAttempts)
    (hfirst : (c.applyDecision a (.retryAt due adjusted) now).Runs w.AnswersAmid l
      (.ok directive) l₁)
    (hlater : w.Meanwhile l₁ l₂) (hleft : LeftBy a now l₂) :
    ∃ next, l₂.attempts.get? a.payment (a.number + 1) = some next ∧
      (l₂.Scheduled → (l₂.HasOpenItem next ↔
        ∃ i ∈ l₂.work.items, i.isOpenRetryOf a.payment (a.number + 1) = true)) ∧
      ∀ (w' : Surroundings) (due' : Instant) (adjusted' : Option UInt64),
        (∀ result l₃,
          (c.applyDecision a (.retryAt due' adjusted') now).Runs w'.Answers l₂ result l₃ →
          (∀ payment number, l₃.attempts.get? payment number = l₂.attempts.get? payment number) ∧
            Repeated w' next l₂ l₃ result) ∧
        (w'.Supplies l₂ → ∃ result l₃,
          (c.applyDecision a (.retryAt due' adjusted') now).Runs w'.Answers l₂ result l₃) := by
  have hrecords : Records l₁ a.payment (a.number + 1) :=
    (applyDecision_records hceiling due adjusted).of_runs hfirst rfl
  obtain ⟨b, hb⟩ := hrecords
  obtain ⟨next, hnext⟩ := hlater.exists_of_get? hb
  refine ⟨next, hnext, ?_, ?_⟩
  · intro scheduled
    obtain ⟨hpayment, hnumber⟩ := AttemptStore.key_of_get? hnext
    rw [← hpayment, ← hnumber] at hnext ⊢
    exact scheduled.hasOpenItem_iff hnext
  · intro w' due' adjusted'
    have hobeys := applyDecision_again (w := w') hceiling hleft hnext due' adjusted'
    refine ⟨fun result l₃ hrun => hobeys.of_runs hrun, fun hsupplies => ?_⟩
    exact hobeys.exists_runs fun m request hrule => hrule.answered hsupplies

/-- The third attempt, as the first call records it. -/
def thirdAttempt : Attempt := noonAttempt.next (.ofNat 7) Instant.last none .noon

/-- What is left by a call that schedules the third attempt. -/
def thirdScheduled : Ledger :=
  ((noonController.applyDecision noonAttempt (.retryAt Instant.last none) .noon).run
    (Ledger.reply (Surroundings.unrestricted .succeeded)) noonPending).2

/-- Then the third attempt collects the payment. -/
def thirdCollected : Ledger :=
  (Ledger.reply (Surroundings.unrestricted .succeeded)
    (.attempt (.update (finished thirdAttempt .success .noon))) thirdScheduled).2

/-- After the third attempt has collected the payment, a repeated call with another time and amount
hands on what is recorded, and nothing changes. -/
theorem repeated_decision_adds_nothing_collected :
    thirdCollected.attempts.get? noonPayment 3 = some (finished thirdAttempt .success .noon) ∧
      ∀ result l, (noonController.applyDecision noonAttempt (.retryAt Instant.first (some 1))
          .noon).Runs (Surroundings.steady .declined).Answers thirdCollected result l →
        result = .ok (.scheduled 3 Instant.last 500 none) ∧ l.work = thirdCollected.work ∧
          ∀ payment number,
            l.attempts.get? payment number = thirdCollected.attempts.get? payment number := by
  have hanswers := Surroundings.answers_of_reply (w := .failing)
    (Surroundings.unrestricted .succeeded) fun _ _ _ => trivial
  have hvalue : ((noonController.applyDecision noonAttempt (.retryAt Instant.last none) .noon).run
      (Ledger.reply (Surroundings.unrestricted .succeeded)) noonPending).1 =
        .ok (.ok (.scheduled 3 Instant.last 500 (some ⟨.ofNat 4⟩))) := by cbv
  have hfirst : (noonController.applyDecision noonAttempt (.retryAt Instant.last none) .noon).Runs
      Surroundings.failing.AnswersAmid noonPending
      (.ok (.scheduled 3 Instant.last 500 (some ⟨.ofNat 4⟩))) thirdScheduled :=
    Task.runs_of_run (fun request l answer l' h => ⟨l, .refl, hanswers request l answer l' h⟩)
      (Prod.ext hvalue rfl)
  have hupdate : (Ledger.reply (Surroundings.unrestricted .succeeded)
      (.attempt (.update (finished thirdAttempt .success .noon))) thirdScheduled).1 =
        .ok (.ok ()) := by cbv
  have hlater : Surroundings.failing.Meanwhile thirdScheduled thirdCollected :=
    .single (.inl ⟨_, _, hanswers _ _ _ _ (Prod.ext hupdate rfl)⟩)
  have hsecond : thirdCollected.attempts.get? noonPayment 2 =
      some (finished noonAttempt .failed .noon) := by cbv
  have hthird : thirdCollected.attempts.get? noonPayment 3 =
      some (finished thirdAttempt .success .noon) := by cbv
  obtain ⟨next, hnext, -, hagain⟩ :=
    repeated_decision_adds_nothing (by decide) hfirst hlater fun _ => hsecond
  obtain rfl := Option.some.inj (hnext.symm.trans hthird)
  refine ⟨hthird, fun result l hrun => ?_⟩
  obtain ⟨hrows, hrepeated⟩ := (hagain _ _ _).1 result l hrun
  cases hrepeated with
  | enqueued id clock hpending => cases hpending
  | found _ hwork => exact ⟨rfl, hwork, hrows⟩
  | failed error hunreliable => exact absurd (Surroundings.steady_reliable .declined) hunreliable

end RetryController

end Dunning
