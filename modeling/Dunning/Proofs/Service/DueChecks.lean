import Dunning.Proofs.Overdue.Versions
import Dunning.Proofs.Service.Closing
import Dunning.Proofs.Service.Depot
import Dunning.Proofs.Work.Lifecycle

/-!
# Checks for invoices that fall due

With every new invoice a look at its account is scheduled for the day on which the invoice falls due.
The look shares its queue and its owner with the looks that belong to the state of the account, and a
refresh that moves the account to another state withdraws them all. So the look can get lost: the
account changes its state before the invoice falls due, the new state asks for no look of its own, and
nobody looks at the account when the invoice is due.

Short of that the look is kept. As long as its account is open it waits for its time, whatever is
published, refreshed and polled, until it is handed to its handler; only a refresh that has just moved
the account to another state withdraws it.

## Main definitions

* `DeliveryLog.Closes` — an account was closed.
* `DeliveryLog.HandsOver` — a look was handed to its handler at some time or later.
* `DeliveryLog.Leaves` — a refresh left a state of an account and withdrew the looks at it.

## Main results

* `Depot.DueCheck.step` — what a call does to the look.
* `due_checks_wait` — the look waits unless the account leaves its state before.
* `due_check_can_be_dropped` — a run in which it does.
-/

namespace Dunning

open Interleaving (told)

/-! ## What a log says -/

/-- A refresh with side effects to run has written the record of their transition. -/
theorem History.saved_of_write? {account : AccountId} {past : History} {w : StateWrite}
    (h : (past.stage account).write? = some w) :
    ∃ expected, ⟨.state (.save w.record expected), .ok ()⟩ ∈ past := by
  induction past with
  | nil => cases h
  | cons exchange past ih =>
      by_cases hbefore : (stage account past).write? = some w
      · obtain ⟨expected, hmem⟩ := ih hbefore
        exact ⟨expected, List.mem_cons_of_mem _ hmem⟩
      · -- The stage has changed, and it is a write that makes a refresh owe its effects.
        simp only [stage, Stage.next] at h
        split at h
        · rename_i record expected hlooking
          rw [Stage.write?_written] at h
          obtain rfl := Option.some.inj h
          exact ⟨expected, List.mem_cons_self⟩
        · cases h
        · cases h
        · rename_i howing
          rw [howing] at hbefore
          exact absurd h hbefore
        · rename_i howing
          rw [howing] at hbefore
          exact absurd h hbefore
        · exact absurd h hbefore

/-- A refresh withdraws looks for the account of a transition that it wrote, which changes the state, and
at the time of that transition. -/
theorem OverdueEngine.May.of_cancelPending {account : AccountId} {past : History}
    {queue owner : String} {now : Instant}
    (h : May account past (.work (.cancelPending queue owner now))) :
    ∃ (t : Transition) (expected : Expected), t.Planned ∧ t.changesState = true ∧
      t.after.account.render = owner ∧ t.after.lastTransitionAt = some now ∧
      ⟨.state (.save t.after expected), .ok ()⟩ ∈ past := by
  generalize hrequest : Request.work (.cancelPending queue owner now) = request at h
  cases h with
  | effect hplanned hwrite heffect =>
      obtain ⟨expected, hsaved⟩ := History.saved_of_write? hwrite
      cases heffect with
      | drop hnow hchanges =>
          cases hrequest
          exact ⟨_, expected, hplanned, hchanges, rfl, hnow, hsaved⟩
      | _ => cases hrequest
  | _ => cases hrequest

namespace DeliveryLog

/-- Whether an account was closed. -/
def Closes (log : DeliveryLog) (account : AccountId) : Prop :=
  ∃ place since,
    (place, ⟨.ask (.work (.markOwnerCancelled account.render since)), .ok (.ok ())⟩) ∈ log

/-- Whether a look was handed to its handler at a moment or later. -/
def HandsOver (log : DeliveryLog) (id : ItemId) (moment : Instant) : Prop :=
  ∃ place item context, (place, ⟨.hand item context, ()⟩) ∈ log ∧ item.id = id ∧
    item.queue = refreshQueue ∧ moment ≤ context.now

/-- Whether a refresh moved an account from one state to another at a time, and then withdrew the
looks at it. -/
def Leaves (log : DeliveryLog) (account : AccountId) (now : Instant) : Prop :=
  ∃ place reply earlier,
    (place, ⟨.ask (.work (.cancelPending refreshQueue account.render now)), reply⟩) :: earlier <:+
      log ∧
    ∃ (t : Transition) (expected : Expected), t.Planned ∧ t.changesState = true ∧
      t.after.account = account ∧ t.after.lastTransitionAt = some now ∧
      (place, ⟨.ask (.state (.save t.after expected)), .ok (.ok ())⟩) ∈ earlier

variable {log : DeliveryLog} {account : AccountId} {id : ItemId} {moment now : Instant}

theorem HandsOver.cons (h : HandsOver log id moment)
    (event : Nat × Exchange DeliveryCall DeliveryCall.Answer) :
    HandsOver (event :: log) id moment := by
  obtain ⟨place, item, context, hmem, hitem⟩ := h
  exact ⟨place, item, context, List.mem_cons_of_mem _ hmem, hitem⟩

theorem Leaves.cons (h : Leaves log account now)
    (event : Nat × Exchange DeliveryCall DeliveryCall.Answer) :
    Leaves (event :: log) account now := by
  obtain ⟨place, reply, earlier, hsuffix, hleft⟩ := h
  exact ⟨place, reply, earlier, hsuffix.trans (List.suffix_cons _ _), hleft⟩

/-- Looks at an open account are withdrawn only by a refresh that has left a state. -/
theorem leaves_of_orders {place : Nat}
    (reply : DeliveryCall.Answer (.ask (.work (.cancelPending refreshQueue account.render now))))
    (horders : Service.Orders (told place log)
      (.ask (.work (.cancelPending refreshQueue account.render now))))
    (hopen : ¬ Closes log account) :
    Leaves ((place, ⟨.ask (.work (.cancelPending refreshQueue account.render now)), reply⟩) :: log)
      account now := by
  rcases horders.of_cancelPending with ⟨since, hmark⟩ | ⟨recent, earlier, other, hpast, hmay⟩
  · exact absurd ⟨place, since, Interleaving.mem_of_mem_told hmark⟩ hopen
  · obtain ⟨t, expected, hplanned, hchanges, howner, hnow, hsaved⟩ := hmay.of_cancelPending
    have htold : ⟨.state (.save t.after expected), .ok ()⟩ ∈
        DeliveryHistory.answered (told place log) := by
      rw [hpast]
      exact List.mem_append_left _ hsaved
    exact ⟨place, reply, log, List.suffix_refl _, t, expected, hplanned, hchanges,
      AccountId.render_injective howner, hnow,
      Interleaving.mem_of_mem_told (DeliveryHistory.mem_answered.mp htold)⟩

end DeliveryLog

/-! ## One call -/

/-- No settlement withdraws an item. -/
theorem Settlement.status_ne_cancelled (settlement : Settlement) {i : Item} {claimer : String}
    (h : i.accepts claimer = true) : (settlement.apply i).status ≠ .cancelled := by
  have hlive : i.status ≠ .cancelled := by
    intro hcancelled
    rw [Item.accepts, hcancelled] at h
    cases h
  cases settlement with
  | complete => exact fun h => by cases h
  | deadLetter => exact fun h => by cases h
  | _ => exact hlive

open DeliveryLog (HandsOver Leaves Closes)

/-- A look at an account as it was scheduled, after a log: it waits for its time unless it was handed
over, it is handed out at its time or later, and it is withdrawn only when the account leaves a
state. -/
structure Depot.DueCheck (s : Depot) (log : DeliveryLog) (account : AccountId) (due : Instant)
    (i : Item) : Prop where
  queue_eq : i.queue = refreshQueue
  owner_eq : i.owner = account.render
  left : i.status = .cancelled → ∃ now, Leaves log account now
  waits : ¬ HandsOver log i.id due → i.dueAt = due ∧
    (i.status = .available ∨ i.status = .cancelled ∧ ∃ now, now < due ∧ Leaves log account now) ∧
    ∀ now item, (now, item) ∈ s.claims → item.id = i.id → due ≤ now

namespace Depot.DueCheck

variable {s s' : Depot} {log : DeliveryLog} {account : AccountId} {due : Instant} {i j : Item}
  {event : Nat × Exchange DeliveryCall DeliveryCall.Answer}

/-- An event that leaves the due time and the status of the look alone. -/
theorem keep (check : s.DueCheck log account due i) (hid : j.id = i.id)
    (hframe : j.queue = i.queue ∧ j.owner = i.owner ∧ j.payload = i.payload)
    (hdue : j.dueAt = i.dueAt) (hstatus : j.status = i.status)
    (hclaims : ∀ now item, (now, item) ∈ s'.claims → item.id = i.id → due = i.dueAt →
      (now, item) ∈ s.claims ∨ due ≤ now) : s'.DueCheck (event :: log) account due j where
  queue_eq := hframe.1.trans check.queue_eq
  owner_eq := hframe.2.1.trans check.owner_eq
  left hcancelled := by
    obtain ⟨now, hleaves⟩ := check.left (hstatus ▸ hcancelled)
    exact ⟨now, hleaves.cons event⟩
  waits hnot := by
    rw [hid] at hnot
    obtain ⟨hwaits, hlive, hout⟩ := check.waits fun hhanded => hnot (hhanded.cons event)
    refine ⟨hdue.trans hwaits, ?_, ?_⟩
    · rw [hstatus]
      refine hlive.imp_right ?_
      rintro ⟨hcancelled, now, hbefore, hleaves⟩
      exact ⟨hcancelled, now, hbefore, hleaves.cons event⟩
    · intro now item hmem hitem
      rw [hid] at hitem
      rcases hclaims now item hmem hitem hwaits.symm with hbefore | hlate
      · exact hout now item hbefore hitem
      · exact hlate

/-- A look that is settled was handed to its handler, at its time or later. -/
theorem handsOver_of_settle {place : Nat} {claimer : String} {settlement : Settlement}
    (check : s.DueCheck log account due i) (tracks : s.Tracks (log.map Prod.snd))
    (hi : i ∈ s.shared.work.items)
    (horders : Service.Orders (told place log) (.ask (.work (.settle i.id claimer settlement)))) :
    HandsOver log i.id due := by
  have hqueue (now : Instant) (item : Item) (hid : item.id = i.id)
      (hout : DeliveryHistory.GivesOut (told place log) now item) : item.queue = refreshQueue :=
    (tracks.alike (DeliveryHistory.GivesOut.of_told hout) hi hid).1.trans check.queue_eq
  rcases horders.of_settle with ⟨_, item, context, _, hid, hout, hhand, -, -⟩ |
    ⟨service, item, now, hid, hout, hunhandled, -⟩
  · by_contra hnot
    have hlate : due ≤ context.now := (check.waits hnot).2.2 context.now item
      (tracks.out _ _ (DeliveryHistory.GivesOut.of_told hout)) hid
    exact hnot ⟨place, item, context, Interleaving.mem_of_mem_told hhand, hid,
      hqueue _ _ hid hout, hlate⟩
  · rw [hqueue now item hid hout, Service.handled_dispatcher] at hunhandled
    exact absurd (by decide) hunhandled

/-- **A call.** The look stays, is leased, is settled after its handler had it, or is withdrawn by a
refresh that left a state. -/
theorem step {call : DeliveryCall} {reply : call.Answer} {place : Nat}
    (check : s.DueCheck log account due i) (tracks : s.Tracks (log.map Prod.snd))
    (hi : i ∈ s.shared.work.items) (hopen : ¬ Closes log account)
    (horders : Service.Orders (told place log) call) (h : Responds call s reply s') :
    ∃ j ∈ s'.shared.work.items, j.id = i.id ∧
      s'.DueCheck ((place, ⟨call, reply⟩) :: log) account due j := by
  rcases h.cases with ⟨hwork, hsame⟩ | ⟨e, rfl, step, -, hclaims⟩
  · refine ⟨i, hwork ▸ hi, rfl, check.keep rfl ⟨rfl, rfl, rfl⟩ rfl rfl ?_⟩
    intro now item hmem _ _
    exact .inl (hsame ▸ hmem)
  · obtain ⟨j, hj, hchange⟩ := step.exists_of_mem tracks.distinct hi
    have hid := hchange.id_eq
    have hframe := hchange.frame
    refine ⟨j, hj, hid, ?_⟩
    have hkeep (hdue : j.dueAt = i.dueAt) (hstatus : j.status = i.status) :
        s'.DueCheck ((place, ⟨.ask (.work e.request), reply⟩) :: log) account due j := by
      refine check.keep hid hframe hdue hstatus ?_
      intro now item hmem hsame hwaits
      refine (hclaims now item hmem).imp_right ?_
      rintro ⟨hout, queue, lease, batch, claimer, hrequest⟩
      obtain ⟨leaseEnd, -, k, hk, -, heligible, rfl⟩ := step.of_mem_handedOut hrequest hout
      obtain rfl : k = i := tracks.distinct.eq hk hi hsame
      simp only [Item.isEligible, Bool.and_eq_true, decide_eq_true_eq] at heligible
      rw [hwaits]
      exact heligible.1.2
    cases hchange with
    | kept => exact hkeep rfl rfl
    | refused => exact hkeep rfl rfl
    | leased => exact hkeep rfl rfl
    | cancelled hrequest =>
        rw [hrequest] at horders
        exact absurd horders Service.Orders.not_cancel
    | @settled claimer settlement hrequest hverdict haccepts =>
        rw [hrequest] at horders
        have hhanded := check.handsOver_of_settle tracks hi horders
        refine ⟨hframe.1.trans check.queue_eq, hframe.2.1.trans check.owner_eq, ?_, ?_⟩
        · intro hcancelled
          exact absurd hcancelled (settlement.status_ne_cancelled haccepts)
        · intro hnot
          rw [hid] at hnot
          exact absurd (hhanded.cons _) hnot
    | @withdrawn queue owner now hrequest hwaits =>
        obtain ⟨clock, fresh, request, answer⟩ := e
        obtain rfl : request = _ := hrequest
        simp only [WorkStore.waits, Bool.and_eq_true, beq_iff_eq, decide_eq_true_eq] at hwaits
        obtain ⟨⟨⟨⟨hqueue, howner⟩, -⟩, hlater⟩, -⟩ := hwaits
        obtain rfl := hqueue.symm.trans check.queue_eq
        obtain rfl := howner.symm.trans check.owner_eq
        have hleaves := DeliveryLog.leaves_of_orders reply horders hopen
        refine ⟨check.queue_eq, check.owner_eq, fun _ => ⟨now, hleaves⟩, fun hnot => ?_⟩
        obtain ⟨hdue, -, hout⟩ := check.waits fun hhanded => hnot (hhanded.cons _)
        refine ⟨hdue, .inr ⟨rfl, now, hdue ▸ hlater, hleaves⟩, ?_⟩
        intro moment item hmem hid
        rcases hclaims moment item hmem with hmem | ⟨-, queue, lease, batch, claimer, hclaim⟩
        · exact hout moment item hmem hid
        · cases hclaim

/-- A look that was just scheduled waits. -/
theorem recorded {new : NewItem} {id : ItemId} {clock : Instant}
    (hqueue : new.queue = refreshQueue) (howner : new.owner = account.render)
    (hdue : new.dueAt = due) (hunused : ∀ now item, (now, item) ∈ s.claims → item.id ≠ id) :
    s.DueCheck log account due (Item.ofNew id new clock) where
  queue_eq := hqueue
  owner_eq := howner
  left hcancelled := by cases hcancelled
  waits _ := ⟨hdue, .inl rfl, fun now item hmem hid => absurd hid (hunused now item hmem)⟩

end Depot.DueCheck

/-! ## Runs -/

/-- In every run the item of a look is as its log says, once it is recorded and as long as its account
is open. -/
theorem Depot.dueCheck_of_reaches (new : NewItem) {account : AccountId} (id : ItemId)
    {q : Interleaving DeliveryCall DeliveryCall.Answer Depot Unit}
    (h : Interleaving.Reaches Service.delivering ⟨{}, [], []⟩ q)
    (hqueue : new.queue = refreshQueue) (howner : new.owner = account.render) :
    q.state.shared.work.Distinct ∧
      (¬ Closes q.log account →
        ⟨.ask (.work (.enqueue new)), .ok (.ok id)⟩ ∈ q.log.map Prod.snd →
        ∃ i ∈ q.state.shared.work.items, i.id = id ∧
          q.state.DueCheck q.log account new.dueAt i) := by
  let inv (s : Depot) (log : DeliveryLog) : Prop :=
    s.Tracks (log.map Prod.snd) ∧ (¬ Closes log account →
      ⟨.ask (.work (.enqueue new)), .ok (.ok id)⟩ ∈ log.map Prod.snd →
      ∃ i ∈ s.shared.work.items, i.id = id ∧ s.DueCheck log account new.dueAt i)
  have hkeeps : inv q.state q.log := by
    refine (Interleaving.Lawful.of_empty {}).keeps Service.delivering_conduct h ?_
      ⟨Depot.tracks_empty, fun _ hmem => by cases hmem⟩
    rintro s log place call reply s' ⟨tracks, hcheck⟩ horders hresponds
    refine ⟨tracks.step hresponds, ?_⟩
    intro hopen hmem
    have hbefore : ¬ Closes log account := by
      rintro ⟨closer, since, hclosed⟩
      exact hopen ⟨closer, since, List.mem_cons_of_mem _ hclosed⟩
    rcases List.mem_cons.mp hmem with heq | hmem
    · cases heq
      obtain ⟨⟨clock, hnew⟩, hunused, hclaims⟩ := hresponds.recorded
      refine ⟨_, hnew, rfl, .recorded hqueue howner rfl ?_⟩
      intro now item hout hid
      rw [hclaims] at hout
      obtain ⟨i, hi, hsame, -⟩ := tracks.claims now item hout
      exact hunused i hi (hsame.trans hid)
    · obtain ⟨i, hi, rfl, check⟩ := hcheck hbefore hmem
      exact check.step tracks hi hbefore horders hresponds
  exact ⟨hkeeps.1.distinct, hkeeps.2⟩

/-- **A check for an invoice that falls due waits, unless its account leaves a state.** Take any run of
publications, refreshes and polls in which an invoice is reported and its account is not closed. The
item that was recorded for the invoice is there, on the queue of looks and of its account. If it is
withdrawn, then a refresh had just moved the account to another state. Until it is handed to the
handler of looks, at the due time or later, it is due when the invoice is, and either it has not ended
or it was withdrawn so before its time. -/
theorem due_checks_wait {account : AccountId} {invoice : InvoiceId} {amount : UInt64}
    {due occurredAt : Instant} {new : NewItem} {place : Nat} {id : ItemId}
    {q : Interleaving DeliveryCall DeliveryCall.Answer Depot Unit}
    (h : Interleaving.Reaches Service.delivering ⟨{}, [], []⟩ q)
    (hnew : (BillingEvent.invoiceCreated account invoice amount due occurredAt).item? = some new)
    (hpublished : (place, ⟨.ask (.work (.enqueue new)), .ok (.ok id)⟩) ∈ q.log)
    (hopen : ¬ Closes q.log account) :
    ∃ i, q.state.shared.work.get? id = some i ∧ i.queue = refreshQueue ∧
      i.owner = account.render ∧
      (i.status = .cancelled → ∃ now, Leaves q.log account now) ∧
      (¬ HandsOver q.log id due → i.dueAt = due ∧
        (i.status = .available ∨
          i.status = .cancelled ∧ ∃ now, now < due ∧ Leaves q.log account now)) := by
  obtain rfl : refreshItem account.render due "invoice due" = new := Option.some.inj hnew
  obtain ⟨distinct, hcheck⟩ :=
    Depot.dueCheck_of_reaches (refreshItem account.render due "invoice due") id h rfl rfl
  obtain ⟨i, hi, rfl, check⟩ := hcheck hopen (List.mem_map_of_mem hpublished)
  refine ⟨i, WorkStore.Distinct.get?_eq distinct hi, check.queue_eq, check.owner_eq, check.left,
    fun hnot => ?_⟩
  obtain ⟨hdue, hlive, -⟩ := check.waits hnot
  exact ⟨hdue, hlive⟩

/-! ### A check that is dropped -/

open OverdueEngine (strictSet)
open RetryController (noonAccount)

/-- An invoice that is due at the end of the calendar. -/
def lateInvoice : BillingEvent := .invoiceCreated noonAccount ⟨.ofNat 5⟩ 500 .last .noon

/-- The item for the invoice. -/
def lateCheck : NewItem := refreshItem noonAccount.render .last "invoice due"

/-- A refresh that finds an older debt. -/
def debtFound : Program (Except OverdueError Refreshed) :=
  ({} : OverdueEngine).refreshWithFacts noonAccount (.overdue 31 500) .noon

/-- The invoice is reported, and then a refresh finds an older debt. -/
def checkDropped : Interleaving DeliveryCall DeliveryCall.Answer Depot Unit :=
  Interleaving.schedule (Depot.reply (some strictSet) {}) (0 :: List.replicate 5 1)
    ⟨{}, [],
      [(DeliveryTask.ofProgram lateInvoice.publish).bind fun _ => .done (),
       (DeliveryTask.ofProgram debtFound).bind fun _ => .done ()]⟩

theorem reaches_checkDropped :
    Interleaving.Reaches Service.delivering ⟨{}, [], []⟩ checkDropped := by
  have hrefresh : OverdueEngine.Refreshes noonAccount (.overdue 31 500) debtFound := .withFacts _ _
  have hstarts : ∀ t ∈ [(DeliveryTask.ofProgram lateInvoice.publish).bind fun _ => .done (),
      (DeliveryTask.ofProgram debtFound).bind fun _ => .done ()], Service.delivering.starts t := by
    simp only [List.forall_mem_cons]
    exact ⟨.publish _, .refresh hrefresh, List.forall_mem_nil _⟩
  exact (Interleaving.reaches_started hstarts ⟨{}, [], []⟩).trans
    (Interleaving.reaches_schedule Depot.responds_of_reply _ _)

theorem lateCheck_published :
    (0, ⟨.ask (.work (.enqueue lateCheck)), .ok (.ok ⟨.ofNat 0⟩)⟩) ∈ checkDropped.log := by
  have hfirst : checkDropped.log.getLast? =
      some (0, ⟨.ask (.work (.enqueue lateCheck)), .ok (.ok ⟨.ofNat 0⟩)⟩) := by cbv
  exact List.mem_of_getLast? hfirst

/-- Whether a call closes an account or hands an item to a handler. -/
def DeliveryCall.isDecisive : DeliveryCall → Bool
  | .ask (.work (.markOwnerCancelled ..)) => true
  | .hand .. => true
  | _ => false

theorem isDecisive_checkDropped :
    ∀ event ∈ checkDropped.log, event.2.request.isDecisive = false := by
  have hnone : (checkDropped.log.all fun event => !event.2.request.isDecisive) = true := by cbv
  intro event hmem
  simpa using List.all_eq_true.mp hnone event hmem

theorem checkDropped_open : ¬ Closes checkDropped.log noonAccount := by
  rintro ⟨place, since, hclosed⟩
  cases isDecisive_checkDropped _ hclosed

theorem checkDropped_unhanded (id : ItemId) (moment : Instant) :
    ¬ HandsOver checkDropped.log id moment := by
  rintro ⟨place, item, context, hhanded, -⟩
  cases isDecisive_checkDropped _ hhanded

/-- **A check can be dropped.** The account is never closed, but the refresh withdraws the check, which
nobody was handed. -/
theorem due_check_can_be_dropped :
    Interleaving.Reaches Service.delivering ⟨{}, [], []⟩ checkDropped ∧
      lateInvoice.item? = some lateCheck ∧
      (0, ⟨.ask (.work (.enqueue lateCheck)), .ok (.ok ⟨.ofNat 0⟩)⟩) ∈ checkDropped.log ∧
      ¬ Closes checkDropped.log noonAccount ∧
      (∀ moment, ¬ HandsOver checkDropped.log ⟨.ofNat 0⟩ moment) ∧
      (checkDropped.state.shared.work.get? ⟨.ofNat 0⟩).map Item.status = some .cancelled := by
  exact ⟨reaches_checkDropped, rfl, lateCheck_published, checkDropped_open,
    checkDropped_unhanded _, by cbv⟩

/-- What withdrew the check is a refresh that left a state of the account before the invoice was due. -/
theorem due_checks_wait_left :
    Interleaving.Reaches Service.delivering ⟨{}, [], []⟩ checkDropped ∧
      lateInvoice.item? = some lateCheck ∧
      (0, ⟨.ask (.work (.enqueue lateCheck)), .ok (.ok ⟨.ofNat 0⟩)⟩) ∈ checkDropped.log ∧
      ¬ Closes checkDropped.log noonAccount ∧
      ∃ now, now < Instant.last ∧ Leaves checkDropped.log noonAccount now := by
  have hitem : lateInvoice.item? = some lateCheck := rfl
  refine ⟨reaches_checkDropped, hitem, lateCheck_published, checkDropped_open, ?_⟩
  obtain ⟨i, hget, -, -, -, hwaits⟩ :=
    due_checks_wait reaches_checkDropped hitem lateCheck_published checkDropped_open
  obtain ⟨-, havailable | ⟨-, hleft⟩⟩ := hwaits (checkDropped_unhanded _ _)
  · have hstatus : (checkDropped.state.shared.work.get? ⟨.ofNat 0⟩).map Item.status =
        some .cancelled := by cbv
    rw [hget] at hstatus
    have hcancelled : i.status = .cancelled := Option.some.inj hstatus
    rw [havailable] at hcancelled
    cases hcancelled
  · exact hleft

end Dunning
