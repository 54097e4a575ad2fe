import Dunning.Proofs.Payment.Attempts
import Dunning.Proofs.Work.Trace
import Dunning.Request
import Dunning.Simulation.World

/-!
# The surroundings of a delivery

A ledger holds the two stores that a delivery writes to, and the history of what was asked. Beside
the stores there are systems of which nothing is known but what they may answer. A call to a store
may fail without effect where the surroundings say so.

## Main definitions

* `Ledger`, `LedgerEvent` — the stores and the history.
* `Surroundings`, `Surroundings.Answers` — how a request may be answered.
* `Ledger.owing` — the charge whose answer has not been followed by anything.
* `Ledger.charges` — how often the charge of an attempt was answered.

## Main results

* `Surroundings.Answers.insert`, `.update`, `.enqueue`, `.get`, `.pendingForOwner` — the answers of
  the stores one request at a time.
* `Surroundings.Answers.look` — a look changes no store.
-/

namespace Dunning

open Simulation (refuseWork refuseAttempt)

/-- One event of a history. -/
inductive LedgerEvent where
  | answered (request : Request) (answer : request.Answer)
  /-- The program that was under way was stopped. -/
  | stopped

/-- The stores that a delivery writes to, and what was asked so far. -/
structure Ledger where
  attempts : AttemptStore := {}
  work : WorkStore := {}
  /-- The latest event first. -/
  past : List LedgerEvent := []

/-- What is known of the surroundings. -/
structure Surroundings where
  /-- Which calls to the stores may fail without effect, and how. -/
  fails : Request → StoreError → Prop
  /-- What the other systems may answer. -/
  gives : (request : Request) → request.Answer → Prop

namespace LedgerEvent

/-- Whether an event is the answered charge of an attempt. -/
def isCharge (payment : PaymentId) (number : UInt32) : LedgerEvent → Bool
  | .answered (.charge request) (.ok _) => request.payment == payment && request.number == number
  | _ => false

/-- The attempt that an event charged. -/
def charged? : LedgerEvent → Option (PaymentId × UInt32)
  | .answered (.charge request) (.ok _) => some (request.payment, request.number)
  | _ => none

end LedgerEvent

namespace Ledger

/-- The ledger with one more event. -/
def noting (l : Ledger) (e : LedgerEvent) : Ledger := { l with past := e :: l.past }

/-- The attempt whose charge was answered last, when nothing was asked since. -/
def owing (l : Ledger) : Option (PaymentId × UInt32) := l.past.head?.bind LedgerEvent.charged?

/-- Whether no answer to a charge waits to be recorded. -/
def Free (l : Ledger) : Prop := l.owing = none

/-- How often the charge of an attempt was answered. -/
def charges (l : Ledger) (payment : PaymentId) (number : UInt32) : Nat :=
  l.past.countP (LedgerEvent.isCharge payment number)

end Ledger

/-! ## Answers -/

namespace Surroundings

variable {w : Surroundings} {l l' : Ledger}

/-- How a request may be answered, and the ledger afterwards. -/
def Answers (w : Surroundings) : (request : Request) → Ledger → request.Answer → Ledger → Prop
  | .work request, l, answer, l' =>
    (∃ clock fresh work, l.work.Step ⟨clock, fresh, request, answer⟩ work ∧
        l' = { l.noting (.answered (.work request) answer) with work }) ∨
      ∃ e, w.fails (.work request) e ∧ answer = refuseWork e request ∧
        l' = l.noting (.answered (.work request) answer)
  | .attempt request, l, answer, l' =>
    (∃ attempts, l.attempts.respond request = (answer, attempts) ∧
        l' = { l.noting (.answered (.attempt request) answer) with attempts }) ∨
      ∃ e, w.fails (.attempt request) e ∧ answer = refuseAttempt e request ∧
        l' = l.noting (.answered (.attempt request) answer)
  | request, l, answer, l' => w.gives request answer ∧ l' = l.noting (.answered request answer)

theorem Answers.past {request : Request} {answer : request.Answer}
    (h : w.Answers request l answer l') : l'.past = .answered request answer :: l.past := by
  cases request with
  | work request =>
      rcases h with ⟨_, _, _, _, rfl⟩ | ⟨_, _, _, rfl⟩
      · rfl
      · rfl
  | attempt request =>
      rcases h with ⟨_, _, rfl⟩ | ⟨_, _, _, rfl⟩
      · rfl
      · rfl
  | _ =>
      obtain ⟨-, rfl⟩ := h
      rfl

/-- Only requests to the store of work items change it. -/
theorem Answers.work_eq {request : Request} {answer : request.Answer}
    (h : w.Answers request l answer l') (hrequest : ∀ r, request ≠ .work r) :
    l'.work = l.work := by
  cases request with
  | work request => exact absurd rfl (hrequest request)
  | attempt request =>
      rcases h with ⟨_, _, rfl⟩ | ⟨_, _, _, rfl⟩
      · rfl
      · rfl
  | _ =>
      obtain ⟨-, rfl⟩ := h
      rfl

/-- Only requests to the store of attempts change it. -/
theorem Answers.attempts_eq {request : Request} {answer : request.Answer}
    (h : w.Answers request l answer l') (hrequest : ∀ r, request ≠ .attempt r) :
    l'.attempts = l.attempts := by
  cases request with
  | attempt request => exact absurd rfl (hrequest request)
  | work request =>
      rcases h with ⟨_, _, _, _, rfl⟩ | ⟨_, _, _, rfl⟩
      · rfl
      · rfl
  | _ =>
      obtain ⟨-, rfl⟩ := h
      rfl

/-- No answer but that of a charge leaves something to be recorded. -/
theorem Answers.free {request : Request} {answer : request.Answer}
    (h : w.Answers request l answer l') (hrequest : ∀ r, request ≠ .charge r) : l'.Free := by
  unfold Ledger.Free Ledger.owing
  rw [h.past]
  cases request with
  | charge r => exact absurd rfl (hrequest r)
  | _ => rfl

/-- No answer but that of a charge counts as one. -/
theorem Answers.charges_eq {request : Request} {answer : request.Answer}
    (h : w.Answers request l answer l') (hrequest : ∀ r, request ≠ .charge r)
    (payment : PaymentId) (number : UInt32) :
    l'.charges payment number = l.charges payment number := by
  unfold Ledger.charges
  rw [h.past, List.countP_cons_of_neg]
  cases request with
  | charge r => exact absurd rfl (hrequest r)
  | _ => exact Bool.false_ne_true

theorem Answers.charges_of_charge {request : PaymentRequest} {result : ChargeResult}
    (h : w.Answers (.charge request) l (.ok result) l') (payment : PaymentId) (number : UInt32) :
    l'.charges payment number =
      l.charges payment number +
        if request.payment = payment ∧ request.number = number then 1 else 0 := by
  rw [Ledger.charges, h.past, List.countP_cons]
  simp [Ledger.charges, LedgerEvent.isCharge]

/-! ## The stores -/

/-- An attempt is looked up, or the look-up fails. -/
theorem Answers.get {payment : PaymentId} {number : UInt32}
    {answer : Except StoreError (Option Attempt)}
    (h : w.Answers (.attempt (.get payment number)) l answer l') :
    answer = .ok (l.attempts.get? payment number) ∨
      ∃ e, w.fails (.attempt (.get payment number)) e ∧ answer = .error e := by
  rcases h with ⟨attempts, hresponds, -⟩ | ⟨e, hfails, hanswer, -⟩
  · exact .inl (congrArg Prod.fst hresponds).symm
  · exact .inr ⟨e, hfails, hanswer⟩

/-- An attempt is added under a free number, refused, or not recorded. -/
theorem Answers.insert {a : Attempt} {answer : Except StoreError Unit}
    (h : w.Answers (.attempt (.insert a)) l answer l') :
    (l.attempts.get? a.payment a.number = none ∧ answer = .ok () ∧
        l'.attempts = l.attempts.add a) ∨
      (∃ stored e, l.attempts.get? a.payment a.number = some stored ∧ e.isConflict = true ∧
        answer = .error e ∧ l'.attempts = l.attempts) ∨
      ∃ e, w.fails (.attempt (.insert a)) e ∧ answer = .error e ∧ l'.attempts = l.attempts := by
  rcases h with ⟨attempts, hresponds, rfl⟩ | ⟨e, hfails, hanswer, rfl⟩
  · change l.attempts.insert a = (answer, attempts) at hresponds
    rcases l.attempts.insert_cases a with ⟨hnone, hinsert⟩ | ⟨stored, e, hstored, he, hinsert⟩
    · obtain ⟨rfl, rfl⟩ := Prod.mk.inj (hinsert.symm.trans hresponds)
      exact .inl ⟨hnone, rfl, rfl⟩
    · obtain ⟨rfl, rfl⟩ := Prod.mk.inj (hinsert.symm.trans hresponds)
      exact .inr (.inl ⟨stored, e, hstored, he, rfl, rfl⟩)
  · exact .inr (.inr ⟨e, hfails, hanswer, rfl⟩)

/-- An attempt is replaced, was not there, or is not replaced. -/
theorem Answers.update {a : Attempt} {answer : Except StoreError Unit}
    (h : w.Answers (.attempt (.update a)) l answer l') :
    (∃ stored, l.attempts.get? a.payment a.number = some stored ∧ stored.id = a.id ∧
        answer = .ok () ∧ l'.attempts = l.attempts.replace a) ∨
      ((¬∃ stored, l.attempts.get? a.payment a.number = some stored ∧ stored.id = a.id) ∧
        ∃ e, answer = .error e ∧ l'.attempts = l.attempts) ∨
      ∃ e, w.fails (.attempt (.update a)) e ∧ answer = .error e ∧ l'.attempts = l.attempts := by
  rcases h with ⟨attempts, hresponds, rfl⟩ | ⟨e, hfails, hanswer, rfl⟩
  · change l.attempts.update a = (answer, attempts) at hresponds
    rcases l.attempts.update_cases a with ⟨stored, hstored, hid, hupdate⟩ | ⟨hnone, e, hupdate⟩
    · obtain ⟨rfl, rfl⟩ := Prod.mk.inj (hupdate.symm.trans hresponds)
      exact .inl ⟨stored, hstored, hid, rfl, rfl⟩
    · obtain ⟨rfl, rfl⟩ := Prod.mk.inj (hupdate.symm.trans hresponds)
      exact .inr (.inl ⟨hnone, e, rfl, rfl⟩)
  · exact .inr (.inr ⟨e, hfails, hanswer, rfl⟩)

/-- An item is recorded under an identifier that no other has, or not recorded. -/
theorem Answers.enqueue {new : NewItem} {answer : Except StoreError ItemId}
    (h : w.Answers (.work (.enqueue new)) l answer l') :
    (∃ id clock, answer = .ok id ∧ l'.work = l.work.enqueue id new clock) ∨
      ∃ e, w.fails (.work (.enqueue new)) e ∧ answer = .error e ∧ l'.work = l.work := by
  rcases h with ⟨clock, fresh, work, step, rfl⟩ | ⟨e, hfails, hanswer, rfl⟩
  · obtain ⟨hanswer, hwork⟩ := Prod.mk.inj (Option.some.inj step.responds)
    exact .inl ⟨fresh, clock, hanswer.symm, hwork.symm⟩
  · exact .inr ⟨e, hfails, hanswer, rfl⟩

/-- The items of an owner are listed, or the listing fails. -/
theorem Answers.pendingForOwner {queue owner : String} {answer : Except StoreError (List Item)}
    (h : w.Answers (.work (.pendingForOwner queue owner)) l answer l') :
    answer = .ok (l.work.pendingForOwner queue owner) ∨
      ∃ e, w.fails (.work (.pendingForOwner queue owner)) e ∧ answer = .error e := by
  rcases h with ⟨clock, fresh, work, step, -⟩ | ⟨e, hfails, hanswer, -⟩
  · exact .inl (Prod.mk.inj (Option.some.inj step.responds)).1.symm
  · exact .inr ⟨e, hfails, hanswer⟩

theorem Answers.get_ok {payment : PaymentId} {number : UInt32} {found : Option Attempt}
    (h : w.Answers (.attempt (.get payment number)) l (.ok found) l') :
    l.attempts.get? payment number = found := by
  rcases h.get with hanswer | ⟨e, _, hanswer⟩
  · exact (Except.ok.inj hanswer).symm
  · cases hanswer

theorem Answers.insert_ok {a : Attempt} {u : Unit}
    (h : w.Answers (.attempt (.insert a)) l (.ok u) l') :
    l.attempts.get? a.payment a.number = none ∧ l'.attempts = l.attempts.add a := by
  rcases h.insert with ⟨hnone, _, hadd⟩ | ⟨_, _, _, _, hanswer, _⟩ | ⟨_, _, hanswer, _⟩
  · exact ⟨hnone, hadd⟩
  · cases hanswer
  · cases hanswer

theorem Answers.update_ok {a : Attempt} {u : Unit}
    (h : w.Answers (.attempt (.update a)) l (.ok u) l') :
    (∃ stored, l.attempts.get? a.payment a.number = some stored ∧ stored.id = a.id) ∧
      l'.attempts = l.attempts.replace a := by
  rcases h.update with ⟨stored, hstored, hid, _, hreplace⟩ | ⟨_, _, hanswer, _⟩ | ⟨_, _, hanswer, _⟩
  · exact ⟨⟨stored, hstored, hid⟩, hreplace⟩
  · cases hanswer
  · cases hanswer

theorem Answers.insert_error {a : Attempt} {e : StoreError}
    (h : w.Answers (.attempt (.insert a)) l (.error e) l') : l'.attempts = l.attempts := by
  rcases h.insert with ⟨_, hanswer, _⟩ | ⟨_, _, _, _, _, hsame⟩ | ⟨_, _, _, hsame⟩
  · cases hanswer
  · exact hsame
  · exact hsame

theorem Answers.update_error {a : Attempt} {e : StoreError}
    (h : w.Answers (.attempt (.update a)) l (.error e) l') : l'.attempts = l.attempts := by
  rcases h.update with ⟨_, _, _, hanswer, _⟩ | ⟨_, _, _, hsame⟩ | ⟨_, _, _, hsame⟩
  · cases hanswer
  · exact hsame
  · exact hsame

theorem Answers.pendingForOwner_ok {queue owner : String} {items : List Item}
    (h : w.Answers (.work (.pendingForOwner queue owner)) l (.ok items) l') :
    l.work.pendingForOwner queue owner = items := by
  rcases h.pendingForOwner with hanswer | ⟨e, _, hanswer⟩
  · exact (Except.ok.inj hanswer).symm
  · cases hanswer

end Surroundings

/-! ## Surroundings that answer at once -/

/-- Answer a request at once. The stores do not fail and time stands still; what other systems say is
given. -/
def Ledger.reply (given : (request : Request) → Option request.Answer) :
    (request : Request) → Ledger → Except Stop request.Answer × Ledger
  | .work request, l =>
    let fresh : ItemId := ⟨.ofNat l.past.length⟩
    if l.work.items.all fun i => i.id ≠ fresh then
      match l.work.respond .noon fresh request with
      | some (answer, work) =>
        (.ok answer, { l.noting (.answered (.work request) answer) with work })
      | none => (.error .crashed, l)
    else (.error .crashed, l)
  | .attempt request, l =>
    let (answer, attempts) := l.attempts.respond request
    (.ok answer, { l.noting (.answered (.attempt request) answer) with attempts })
  | request, l =>
    match given request with
    | some answer => (.ok answer, l.noting (.answered request answer))
    | none => (.error .crashed, l)

/-- What other systems say of an account that nobody restricted, given the answer to its charges. -/
def Surroundings.unrestricted (result : ChargeResult) :
    (request : Request) → Option request.Answer
  | .charge _ => some (.ok result)
  | .state (.get _) => some (.ok none)
  | .activeSet => some none
  | .freshId => some (.ofNat 7)
  | _ => none

/-- Surroundings that answer at once answer as any surroundings may that say the same. -/
theorem Surroundings.answers_of_reply {w : Surroundings}
    (given : (request : Request) → Option request.Answer)
    (hgiven : ∀ request answer, given request = some answer → w.gives request answer)
    (request : Request) (l : Ledger) (answer : request.Answer) (l' : Ledger)
    (h : l.reply given request = (.ok answer, l')) : w.Answers request l answer l' := by
  cases request with
  | work request =>
      unfold Ledger.reply at h
      simp only at h
      split at h
      · rename_i hunused
        split at h
        · rename_i answer' work hresponds
          obtain ⟨hanswer, rfl⟩ := Prod.mk.inj h
          obtain rfl := Except.ok.inj hanswer
          refine .inl ⟨Instant.noon, _, work, ⟨?_, hresponds⟩, rfl⟩
          intro i hi
          simpa using List.all_eq_true.mp hunused i hi
        · cases (Prod.mk.inj h).1
      · cases (Prod.mk.inj h).1
  | attempt request =>
      obtain ⟨hanswer, rfl⟩ := Prod.mk.inj h
      obtain rfl := Except.ok.inj hanswer
      exact .inl ⟨_, rfl, rfl⟩
  | _ =>
      unfold Ledger.reply at h
      simp only at h
      split at h
      · rename_i answer' hgives
        obtain ⟨hanswer, rfl⟩ := Prod.mk.inj h
        obtain rfl := Except.ok.inj hanswer
        exact ⟨hgiven _ _ hgives, rfl⟩
      · cases (Prod.mk.inj h).1

/-! ## Looks -/

/-- Whether a request only looks something up, or fetches something new. -/
def Request.IsLook : Request → Prop
  | .work (.pendingForOwner ..) => True
  | .attempt (.get ..) => True
  | .state (.get _) => True
  | .activeSet => True
  | .freshId => True
  | _ => False

/-- Ledgers with the same stores. -/
structure Ledger.Agrees (l l' : Ledger) : Prop where
  attempts : l'.attempts = l.attempts
  work : l'.work = l.work

namespace Ledger.Agrees

theorem refl (l : Ledger) : l.Agrees l := ⟨rfl, rfl⟩

theorem trans {l m n : Ledger} (h : l.Agrees m) (g : m.Agrees n) : l.Agrees n :=
  ⟨g.attempts.trans h.attempts, g.work.trans h.work⟩

end Ledger.Agrees

namespace Surroundings

variable {w : Surroundings} {l l' : Ledger}

theorem Answers.look {request : Request} {answer : request.Answer}
    (h : w.Answers request l answer l') (hlook : request.IsLook) : l.Agrees l' := by
  cases request with
  | work request =>
      refine ⟨h.attempts_eq (by simp), ?_⟩
      cases request with
      | pendingForOwner queue owner =>
          rcases h with ⟨clock, fresh, work, step, rfl⟩ | ⟨_, _, _, rfl⟩
          · exact (Prod.mk.inj (Option.some.inj step.responds)).2.symm
          · rfl
      | _ => exact hlook.elim
  | attempt request =>
      refine ⟨?_, h.work_eq (by simp)⟩
      cases request with
      | get payment number =>
          rcases h with ⟨attempts, hresponds, rfl⟩ | ⟨_, _, _, rfl⟩
          · exact (congrArg Prod.snd hresponds).symm
          · rfl
      | _ => exact hlook.elim
  | _ => exact ⟨h.attempts_eq (by simp), h.work_eq (by simp)⟩

/-- After a look nothing waits to be recorded. -/
theorem Answers.free_of_look {request : Request} {answer : request.Answer}
    (h : w.Answers request l answer l') (hlook : request.IsLook) : l'.Free := by
  refine h.free ?_
  intro r hcharge
  subst hcharge
  exact hlook

end Surroundings

end Dunning
