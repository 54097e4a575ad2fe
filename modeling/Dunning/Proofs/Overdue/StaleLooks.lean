import Dunning.Proofs.Overdue.Convergence
import Dunning.Proofs.Work.Trace

/-!
# A change of state leaves no look of the old state

When an account moves to a state of another name, the looks that are scheduled for it belong to the
state that it left. They are withdrawn, and one is scheduled if the new state has an interval. Between
the two come the gate and the hooks of the new state, and before them the hooks of the old one, which
leave the work alone.

The stores of states and the gate are free here: a write may lose its races, and the flags may be
refused and taken back. Whatever they answer, a history has at most two requests to the store of work
items, and what they make of the items follows from the store alone.

## Main definitions

* `History.Moves` — the account went from a state of one name to a state of another.
* `Agenda`, `Agenda.Answers` — the work items while a refresh is the only one to touch them.
* `WorkStore.withdrawn` — an item after the looks of an account were withdrawn.

## Main results

* `OverdueEngine.work_of_effects` — what the side effects of a transition ask of the work store.
* `OverdueEngine.change_of_state_leaves_no_stale_look` — the items after a refresh that changed the
  name.
-/

namespace Dunning

/-! ## The work of a history -/

/-- What a request asks of the store of work items. -/
def Request.work? : Request → Option WorkRequest
  | .work asked => some asked
  | _ => none

/-- Whether an account went from a state of one name to a state of another while a set was active: the
first write that succeeded has the new name, and it was worked out from a record with the old one. -/
def History.Moves (account : AccountId) (set : Option StateSet) (old new : String)
    (past : History) : Prop :=
  ∃ record expected, ∃ before : History,
    ⟨.state (.save record expected), .ok ()⟩ :: before <:+ past ∧
      (∀ x ∈ before, x.written? = none) ∧ before.set? = some set ∧
      (before.basis account).stateName = old ∧ record.stateName = new

/-- The work items and everything that was asked so far. -/
structure Agenda where
  work : WorkStore := {}
  past : History := []

/-- How the store of work items answers when nobody else touches it and it does not fail. The facts
are those that are given, and a record that is read is one of the account that was asked for;
everything else may be answered in any way. -/
def WorkStore.Serves (facts : AccountFacts) :
    (request : Request) → WorkStore → request.Answer → WorkStore → Prop
  | .work asked, s, answer, u => ∃ clock fresh, s.Step ⟨clock, fresh, asked, answer⟩ u
  | .facts _, s, answer, u => (∀ told, answer = .ok told → told = facts) ∧ u = s
  | .state (.get account), s, answer, u =>
    (∀ record, answer = .ok (some record) → record.account = account) ∧ u = s
  | _, s, _, u => u = s

/-- How requests are answered during a refresh that is the only one to touch the work items. -/
def Agenda.Answers (facts : AccountFacts) (request : Request) (a : Agenda) (answer : request.Answer)
    (a' : Agenda) : Prop :=
  WorkStore.Serves facts request a.work answer a'.work ∧ a'.past = ⟨request, answer⟩ :: a.past

namespace WorkStore

/-- An item after the waiting items of an owner were withdrawn. -/
def withdrawn (queue owner : String) (now : Instant) (i : Item) : Item :=
  if waits queue owner now i then { i with status := .cancelled, updatedAt := now } else i

theorem waits_iff {queue owner : String} {now : Instant} {i : Item} :
    waits queue owner now i = true ↔ i.queue = queue ∧ i.owner = owner ∧ i.status = .available ∧
      now < i.dueAt ∧ i.isClaimed now = false := by
  simp only [waits, Bool.and_eq_true, beq_iff_eq, decide_eq_true_eq, Bool.not_eq_true', and_assoc]

/-- Only waiting items are withdrawn. -/
theorem withdrawn_of_not_waits {queue owner : String} {now : Instant} {i : Item}
    (h : ¬ waits queue owner now i = true) : withdrawn queue owner now i = i := if_neg h

/-- What has not ended after the withdrawal did not wait. -/
theorem not_waits_of_withdrawn {queue owner : String} {now : Instant} {i : Item}
    (h : (withdrawn queue owner now i).status.isTerminal = false) :
    ¬ waits queue owner now i = true := by
  intro hwaits
  rw [withdrawn, if_pos hwaits] at h
  cases h

/-- The requests of a history led from one store to another. -/
def Performed (s : WorkStore) (past : History) (u : WorkStore) : Prop :=
  ∃ events, s.Trace events u ∧ events.map WorkEvent.request = past.asked.filterMap Request.work?

theorem Performed.nil (s : WorkStore) : s.Performed [] s := ⟨[], .nil, rfl⟩

theorem Performed.cons {s u v : WorkStore} {past : History} {facts : AccountFacts}
    {request : Request} {answer : request.Answer} (performed : s.Performed past u)
    (h : Serves facts request u answer v) : s.Performed (⟨request, answer⟩ :: past) v := by
  obtain ⟨events, run, hevents⟩ := performed
  have hother (hnone : request.work? = none) (hsame : v = u) :
      s.Performed (⟨request, answer⟩ :: past) v := by
    refine ⟨events, hsame ▸ run, ?_⟩
    rw [hevents, History.asked_cons, List.filterMap_append]
    simp [hnone]
  cases request with
  | work asked =>
      obtain ⟨clock, fresh, step⟩ := h
      refine ⟨events ++ [⟨clock, fresh, asked, answer⟩],
        Trace.append_iff.mpr ⟨u, run, .cons step .nil⟩, ?_⟩
      rw [History.asked_cons, List.filterMap_append, List.map_append, hevents]
      rfl
  | state asked =>
      cases asked with
      | get => exact hother rfl h.2
      | save => exact hother rfl h
  | facts => exact hother rfl h.2
  | _ => exact hother rfl h

/-- What a withdrawal of the waiting items of an owner, and then perhaps a new item, make of a store.
-/
theorem Trace.of_withdrawal {s u : WorkStore} {events : List WorkEvent} {queue owner : String}
    {now : Instant} {new : Option NewItem} (run : s.Trace events u)
    (h : events.map WorkEvent.request =
      .cancelPending queue owner now :: new.toList.map WorkRequest.enqueue) :
    ∃ id clock, u.items =
      s.items.map (withdrawn queue owner now) ++ (new.map (Item.ofNew id · clock)).toList := by
  cases run with
  | nil => cases h
  | @cons _ t _ e rest step run =>
      obtain ⟨hfirst, hrest⟩ := List.cons.inj h
      have ht : t.items = s.items.map (withdrawn queue owner now) := by
        obtain ⟨clock, fresh, request, answer⟩ := e
        obtain rfl : request = _ := hfirst
        obtain ⟨-, rfl⟩ := Prod.mk.inj (Option.some.inj step.responds)
        rfl
      rw [← ht]
      cases new with
      | none =>
          obtain rfl := List.map_eq_nil_iff.mp hrest
          cases run
          exact ⟨e.fresh, now, by simp⟩
      | some new =>
          cases run with
          | nil => cases hrest
          | @cons _ v _ e' rest' step' run' =>
              obtain ⟨hsecond, hnil⟩ := List.cons.inj hrest
              obtain rfl := List.map_eq_nil_iff.mp hnil
              cases run'
              obtain ⟨clock, fresh, request, answer⟩ := e'
              obtain rfl : request = _ := hsecond
              obtain ⟨-, rfl⟩ := Prod.mk.inj (Option.some.inj step'.responds)
              exact ⟨fresh, clock, rfl⟩

end WorkStore

namespace OverdueEngine

/-! ## What a refresh asks of the work store -/

variable {account : AccountId} {past : History} {t : Transition} {now : Instant}

theorem work_of_hookRuns (e : OverdueEngine) (t : Transition) (phase : HookPhase) (now : Instant)
    (hooks : List String) : (e.hookRuns t phase now hooks).filterMap Request.work? = [] := by
  rw [hookRuns, List.filterMap_map]
  exact List.filterMap_eq_nil_iff.mpr fun _ _ => rfl

/-- **The work of a transition.** The looks are withdrawn when the name changes, and then the next one
is scheduled when there is to be one. -/
theorem work_of_effects (e : OverdueEngine) (t : Transition) (now : Instant) :
    (e.effects t now).filterMap Request.work? =
      (if t.before.stateName ≠ t.after.stateName then
        [.cancelPending refreshQueue t.after.account.render now] else []) ++
      (t.reevaluateAt.map (refreshItem t.after.account.render · "reevaluation")).toList.map
        WorkRequest.enqueue := by
  simp only [effects, List.filterMap_append, work_of_hookRuns, List.nil_append, List.append_nil]
  have hflags : (if t.before.blocked ≠ t.after.blocked then
      [Request.setBlocked t.after.account t.after.blocked] else []).filterMap Request.work? = [] := by
    split <;> rfl
  rw [hflags, List.append_nil]
  congr 1
  · split <;> rfl
  · cases t.reevaluateAt <;> rfl

theorem work_of_followUp (e : OverdueEngine) (t : Transition) (setVersion : UInt64) (now : Instant)
    (refusal : Option CollaboratorError) :
    (e.followUp t setVersion now refusal).filterMap Request.work? =
      (e.effects t now).filterMap Request.work? := by
  rw [followUp, List.filterMap_append]
  split <;> exact List.append_nil _

/-- Looks ask nothing of the work store. -/
theorem Looked.work_eq (looked : Looked account past) :
    past.asked.filterMap Request.work? = [] := by
  refine List.filterMap_eq_nil_iff.mpr ?_
  intro request hrequest
  obtain ⟨x, hx, rfl⟩ := List.mem_map.mp (List.mem_reverse.mp hrequest)
  rcases looked.looks x hx with hset | hget | hsave
  · rw [hset]
    rfl
  · rw [hget]
    rfl
  · unfold Exchange.isSave at hsave
    split at hsave
    · rfl
    · cases hsave

/-! ## Refreshes that change the name -/

/-- The refreshes of an account at an instant, with facts that are given or asked for. -/
inductive RefreshesAt (account : AccountId) (facts : AccountFacts) (now : Instant) :
    Program (Except OverdueError Refreshed) → Prop where
  | withFacts (e : OverdueEngine) :
      RefreshesAt account facts now (e.refreshWithFacts account facts now)
  | asking (e : OverdueEngine) : RefreshesAt account facts now (e.refresh account now)

/-- The first write of a history that succeeded, with what came before it. -/
theorem first_write_unique {x y : Exchange Request Request.Answer} {before before' : History}
    (hx : x :: before <:+ past) (hy : y :: before' <:+ past) (hbefore : ∀ z ∈ before, z.written? = none)
    (hbefore' : ∀ z ∈ before', z.written? = none) (hxw : x.written?.isSome = true)
    (hyw : y.written?.isSome = true) : x = y ∧ before = before' := by
  have hinside {x y : Exchange Request Request.Answer} {before before' : History}
      (h : x :: before <:+ y :: before') (hbefore' : ∀ z ∈ before', z.written? = none)
      (hxw : x.written?.isSome = true) : x = y ∧ before = before' := by
    rcases List.suffix_cons_iff.mp h with heq | hsuffix
    · exact List.cons.inj heq
    · rw [hbefore' x (hsuffix.subset List.mem_cons_self)] at hxw
      cases hxw
  rcases List.suffix_or_suffix_of_suffix hx hy with h | h
  · exact hinside h hbefore' hxw
  · obtain ⟨hhead, htail⟩ := hinside h hbefore hyw
    exact ⟨hhead.symm, htail.symm⟩

/-- A history without a write moves no account. -/
theorem not_moves {set : Option StateSet} {old new : String} (h : ∀ x ∈ past, x.written? = none) :
    ¬ past.Moves account set old new := by
  rintro ⟨record, expected, before, hsuffix, -⟩
  cases h _ (hsuffix.subset List.mem_cons_self)

/-- What a history of looks knows of the record it was told by a look at the account. -/
theorem Looked.mem_of_known {record : Option OverdueState} (looked : Looked account past)
    (h : past.known? = some record) : ⟨.state (.get account), .ok record⟩ ∈ past := by
  obtain ⟨x, hx, hknown⟩ := List.exists_of_findSome?_eq_some h
  have hlook := looked.looks x hx
  have hunwritten := looked.unwritten x hx
  unfold Exchange.known? at hknown
  split at hknown
  · obtain rfl := Option.some.inj hknown
    rcases hlook with hset | hget | hsave
    · cases hset
    · cases hget
      exact hx
    · cases hsave
  · cases hunwritten
  · cases hknown

/-- What a refresh knows of its history and of the work items while it is the only one to touch them.
-/
structure Attends (account : AccountId) (a : Agenda) (b : Agenda) (own : History) : Prop where
  past_eq : b.past = own ++ a.past
  performed : a.work.Performed own b.work
  read : ∀ record, ⟨.state (.get account), .ok (some record)⟩ ∈ own → record.account = account

theorem Attends.start (account : AccountId) (a : Agenda) : Attends account a a [] where
  past_eq := rfl
  performed := .nil _
  read := by
    intro record hrecord
    cases hrecord

theorem Attends.step {facts : AccountFacts} {a b c : Agenda} {own : History} {request : Request}
    {answer : request.Answer} (attends : Attends account a b own)
    (h : Agenda.Answers facts request b answer c) :
    Attends account a c (⟨request, answer⟩ :: own) where
  past_eq := by
    rw [h.2, attends.past_eq]
    rfl
  performed := attends.performed.cons h.1
  read := by
    intro record hrecord
    rcases List.mem_cons.mp hrecord with heq | hmem
    · cases heq
      exact h.1.1 record rfl
    · exact attends.read record hmem

/-- A history moves an account by the transition that was carried out in it, since that is its first
write that succeeded. -/
private theorem moves_of_carried {t : Transition} {record : Option OverdueState}
    {set told : Option StateSet} {facts : AccountFacts} {looks after earlier : History}
    {old new : String} (looked : Looked account looks) (hearlier : ∀ x ∈ earlier, x.written? = none)
    (hknown : looks.known? = some record) (hset : looks.set? = some told)
    (hplan : planTransition (record.getD (.clear account)) told facts now = some t)
    (hmoves : History.Moves account set old new
      (after ++ ⟨.state (.save t.after (.ofRead t.before.version)), .ok ()⟩ :: (looks ++ earlier))) :
    set = told ∧ t.before.stateName = old ∧ t.after.stateName = new := by
  obtain ⟨written, expected, before, hsuffix, hbefore, hbeforeset, rfl, rfl⟩ := hmoves
  obtain ⟨hsame, rfl⟩ := first_write_unique hsuffix (List.suffix_append _ _) hbefore
    (List.forall_mem_append.mpr ⟨looked.unwritten, hearlier⟩) rfl rfl
  cases hsame
  have hbasis : History.basis account (looks ++ earlier) = t.before := by
    rw [(planTransition_eq_some hplan).1]
    refine History.basis_of_known ?_
    rw [History.known?, List.findSome?_append, ← History.known?, hknown]
    rfl
  rw [History.set?, List.findSome?_append, ← History.set?, hset] at hbeforeset
  exact ⟨(Option.some.inj hbeforeset).symm, congrArg OverdueState.stateName hbasis.symm, rfl⟩

/-- A transition that was planned for what was read is one of the account. -/
private theorem Attends.account_eq {t : Transition} {record : Option OverdueState}
    {set : Option StateSet} {facts : AccountFacts} {a b : Agenda} {own looks : History}
    (attends : Attends account a b own) (looked : Looked account looks) (hlooks : looks ⊆ own)
    (hknown : looks.known? = some record)
    (hplan : planTransition (record.getD (.clear account)) set facts now = some t) :
    t.after.account = account := by
  rw [planTransition_account hplan]
  cases record with
  | none => rfl
  | some record => exact attends.read record (hlooks (looked.mem_of_known hknown))

/-- What a refresh that starts after a history without a write makes of the work items when it changes
the name. -/
theorem withFacts_leads {e : OverdueEngine} {facts : AccountFacts} {a a' : Agenda}
    {result : Except OverdueError Refreshed} {set : Option StateSet} {old new : String}
    (run : (e.refreshWithFacts account facts now).Runs (Agenda.Answers facts) a result a')
    (hpast : ∀ x ∈ a.past, x.written? = none) (hmoves : a'.past.Moves account set old new)
    (hname : old ≠ new) :
    ∃ target, FirstMatch facts set target ∧ resolvedName target = new ∧ ∃ next : Option Instant,
      (∀ due, next = some due ↔ ∃ d interval, target = some d ∧ d.interval = some interval ∧
        interval.after? now = some due) ∧
      ∃ id clock, a'.work.items =
        a.work.items.map (WorkStore.withdrawn refreshQueue account.render now) ++
          (next.map fun due =>
            Item.ofNew id (refreshItem account.render due "reevaluation") clock).toList := by
  have hconcludes : (e.refreshWithFacts account facts now).Obeys Task.Told AnyRequest
      (Concludes e account facts now _) [] := e.refreshWithin_concludes _ (.nil account)
  obtain ⟨own, hends, attends⟩ := hconcludes.along run
    (fun _ _ _ _ _ attends _ h => Attends.step attends h) (Attends.start account a)
  cases hends with
  | quiet _ looked _ =>
      refine absurd hmoves (not_moves ?_)
      rw [attends.past_eq]
      exact List.forall_mem_append.mpr ⟨looked.unwritten, hpast⟩
  | @carried t record told looks after looked _ hknown hset hplan hown hasked _ =>
      rw [attends.past_eq, hown, List.append_assoc, List.cons_append] at hmoves
      obtain ⟨rfl, rfl, rfl⟩ := moves_of_carried looked hpast hknown hset hplan hmoves
      have hlooks : looks ⊆ own := by
        rw [hown]
        exact fun x hx => List.mem_append_right _ (List.mem_cons_of_mem _ hx)
      have haccount := attends.account_eq looked hlooks hknown hplan
      have hmatch : FirstMatch facts set (set.bind (·.resolve facts)) := firstMatch_iff.mpr rfl
      obtain ⟨-, hcarries⟩ := planTransition_parts hmatch hplan
      have hnew : t.after.stateName = resolvedName (set.bind (·.resolve facts)) := by
        rw [hcarries.after_eq]
        rfl
      refine ⟨_, hmatch, hnew.symm, t.reevaluateAt, ?_, ?_⟩
      · intro due
        rw [hcarries.look_iff, ← hnew]
        exact and_iff_right hname
      · obtain ⟨events, run, hevents⟩ := attends.performed
        have hwork : (History.asked own).filterMap Request.work? =
            .cancelPending refreshQueue account.render now ::
              (t.reevaluateAt.map (refreshItem account.render · "reevaluation")).toList.map
                WorkRequest.enqueue := by
          rw [hown, History.asked_append, History.asked_cons, hasked, List.filterMap_append,
            List.filterMap_append, looked.work_eq, work_of_followUp, work_of_effects, if_pos hname,
            haccount]
          rfl
        obtain ⟨id, clock, hitems⟩ := run.of_withdrawal (hevents.trans hwork)
        refine ⟨id, clock, ?_⟩
        rw [hitems, Option.map_map]
        rfl

theorem refresh_leads {r : Program (Except OverdueError Refreshed)} {facts : AccountFacts}
    (hr : RefreshesAt account facts now r) {s u : WorkStore} {past : History}
    {result : Except OverdueError Refreshed} {set : Option StateSet} {old new : String}
    (run : r.Runs (Agenda.Answers facts) ⟨s, []⟩ result ⟨u, past⟩)
    (hmoves : past.Moves account set old new) (hname : old ≠ new) :
    ∃ target, FirstMatch facts set target ∧ resolvedName target = new ∧ ∃ next : Option Instant,
      (∀ due, next = some due ↔ ∃ d interval, target = some d ∧ d.interval = some interval ∧
        interval.after? now = some due) ∧
      ∃ id clock, u.items =
        s.items.map (WorkStore.withdrawn refreshQueue account.render now) ++
          (next.map fun due =>
            Item.ofNew id (refreshItem account.render due "reevaluation") clock).toList := by
  cases hr with
  | withFacts e => exact withFacts_leads run (List.forall_mem_nil _) hmoves hname
  | asking e =>
      cases run with
      | @ask _ _ answer _ _ a _ hanswer hrest =>
          obtain ⟨⟨htold, hwork⟩, hpast⟩ := hanswer
          have hunwritten : ∀ x ∈ a.past, x.written? = none := by
            rw [hpast]
            exact List.forall_mem_singleton.mpr rfl
          cases answer with
          | error cause =>
              cases hrest
              exact absurd hmoves (not_moves hunwritten)
          | ok told =>
              obtain rfl := htold told rfl
              have hleads := withFacts_leads hrest hunwritten hmoves hname
              rwa [show a.work = s from hwork] at hleads

/-- **A change of state leaves no look of the old state.** A refresh changes the name of an account's
state, alone with the work items; the hooks, the gate and the store of states may answer anything, and
the refresh may succeed or not. Afterwards there is one new item or none: there is one exactly when the
new state has an interval that ends within the calendar, it is a look at the account, available and
under no lease, and it is due when the interval ends. Every look at the account that has not ended, is
under no lease and is due after the refresh, whatever its reason, is that one. All that is due already
or leased, and all that belongs to other queues or owners, is as it was. -/
theorem change_of_state_leaves_no_stale_look {r : Program (Except OverdueError Refreshed)}
    {facts : AccountFacts} (hr : RefreshesAt account facts now r) {s u : WorkStore} {past : History}
    {result : Except OverdueError Refreshed} {set : Option StateSet} {old new : String}
    (run : r.Runs (Agenda.Answers facts) ⟨s, []⟩ result ⟨u, past⟩)
    (hmoves : past.Moves account set old new) (hname : old ≠ new) :
    ∃ target, FirstMatch facts set target ∧ resolvedName target = new ∧ ∃ next : Option Item,
      u.items = s.items.map (WorkStore.withdrawn refreshQueue account.render now) ++ next.toList ∧
      (∀ due, next.map Item.dueAt = some due ↔ ∃ d interval, target = some d ∧
        d.interval = some interval ∧ interval.after? now = some due) ∧
      (∀ look ∈ next, look.queue = refreshQueue ∧ look.owner = account.render ∧
        look.payload = (⟨"reevaluation"⟩ : RefreshPayload).toJson ∧ look.status = .available ∧
        look.claimedBy = none ∧ look.leaseEnd = none) ∧
      (∀ i ∈ u.items, i.queue = refreshQueue → i.owner = account.render →
        i.status.isTerminal = false → i.isClaimed now = false → now < i.dueAt → next = some i) ∧
      ∀ (k : Nat) (i : Item), s.items[k]? = some i →
        (i.dueAt ≤ now ∨ i.isClaimed now = true ∨ i.owner ≠ account.render ∨
          i.queue ≠ refreshQueue) → u.items[k]? = some i := by
  obtain ⟨target, hmatch, hnew, due?, hdue, id, clock, hitems⟩ := refresh_leads hr run hmoves hname
  refine ⟨target, hmatch, hnew, _, hitems, ?_, ?_, ?_, ?_⟩
  · intro due
    rw [← hdue, Option.map_map]
    cases due? <;> exact Iff.rfl
  · intro look hlook
    obtain ⟨due, -, rfl⟩ := Option.map_eq_some_iff.mp hlook
    exact ⟨rfl, rfl, rfl, rfl, rfl, rfl⟩
  · intro i hi hqueue howner hlive hfree hlater
    rw [hitems] at hi
    rcases List.mem_append.mp hi with hold | hnext
    · obtain ⟨j, hj, rfl⟩ := List.mem_map.mp hold
      have hwaits := WorkStore.not_waits_of_withdrawn hlive
      rw [WorkStore.withdrawn_of_not_waits hwaits] at hqueue howner hlive hfree hlater
      refine absurd (WorkStore.waits_iff.mpr ⟨hqueue, howner, ?_, hlater, hfree⟩) hwaits
      simpa [ItemStatus.isTerminal] using hlive
    · exact Option.mem_toList.mp hnext
  · intro k i hk hspared
    have hwaits : ¬ WorkStore.waits refreshQueue account.render now i = true := by
      intro hwaits
      obtain ⟨hqueue, howner, -, hlater, hfree⟩ := WorkStore.waits_iff.mp hwaits
      rcases hspared with hdue | hclaimed | hother | hother
      · rw [Instant.le_def] at hdue
        rw [Instant.lt_def] at hlater
        omega
      · rw [hfree] at hclaimed
        cases hclaimed
      · exact hother howner
      · exact hother hqueue
    rw [hitems, List.getElem?_append_left, List.getElem?_map, hk]
    · rw [Option.map_some, WorkStore.withdrawn_of_not_waits hwaits]
    · rw [List.length_map]
      exact (List.getElem?_eq_some_iff.mp hk).1

/-! ### Four looks, of which one is stale -/

/-- A set that looks at overdue accounts every week. -/
def watchfulSet : StateSet :=
  ⟨1, [{ name := "overdue", condition := .daysOverdue 30, interval := some (.ofDays 7) }]⟩

/-- A scheduled look. -/
def lookOf (id : Nat) (account : AccountId) (due : Instant) : Item :=
  Item.ofNew ⟨.ofNat id⟩ (refreshItem account.render due "reevaluation") default

/-- A look that is far off, one that is due, one that is leased, and an item of another queue. -/
def crowded : WorkStore :=
  ⟨[lookOf 0 debtor .last, lookOf 1 debtor default,
    { lookOf 2 debtor .last with claimedBy := some "other", leaseEnd := some .noon },
    { lookOf 3 debtor .last with queue := "other" }]⟩

/-- Answer a request at once and take it down. What all but the store of work items say is given. -/
def attend (given : (request : Request) → Option request.Answer) :
    (request : Request) → Agenda → Except Stop request.Answer × Agenda
  | .work asked, a =>
    match a.work.respondAtNoon asked with
    | some (answer, s) => (.ok answer, ⟨s, ⟨.work asked, answer⟩ :: a.past⟩)
    | none => (.error .crashed, a)
  | request, a =>
    match given request with
    | some answer => (.ok answer, ⟨a.work, ⟨request, answer⟩ :: a.past⟩)
    | none => (.error .crashed, a)

/-- The debtor has no record, and every write is let through. -/
def clerk : (request : Request) → Option request.Answer
  | .activeSet => some (some watchfulSet)
  | .state (.get _) => some (.ok none)
  | .state (.save ..) => some (.ok ())
  | _ => none

theorem answers_of_attend (request : Request) (a : Agenda) (answer : request.Answer) (a' : Agenda)
    (h : attend clerk request a = (.ok answer, a')) :
    Agenda.Answers (.overdue 31 500) request a answer a' := by
  cases request with
  | work asked =>
      simp only [attend] at h
      split at h
      · rename_i told s hresponds
        obtain ⟨hanswer, rfl⟩ := Prod.mk.inj h
        obtain rfl := Except.ok.inj hanswer
        exact ⟨⟨_, _, WorkStore.step_of_respondAtNoon hresponds⟩, rfl⟩
      · cases (Prod.mk.inj h).1
  | state asked =>
      cases asked with
      | get =>
          obtain ⟨hanswer, rfl⟩ := Prod.mk.inj h
          obtain rfl : Except.ok none = answer := Except.ok.inj hanswer
          refine ⟨⟨?_, rfl⟩, rfl⟩
          intro record htold
          cases htold
      | save =>
          obtain ⟨hanswer, rfl⟩ := Prod.mk.inj h
          obtain rfl := Except.ok.inj hanswer
          exact ⟨rfl, rfl⟩
  | activeSet =>
      obtain ⟨hanswer, rfl⟩ := Prod.mk.inj h
      obtain rfl := Except.ok.inj hanswer
      exact ⟨rfl, rfl⟩
  | _ => cases (Prod.mk.inj h).1

/-- A refresh of the debtor that finds a debt. -/
def tidied : Except Stop (Except OverdueError Refreshed) × Agenda :=
  (refreshOf (.overdue 31 500)).run (attend clerk) ⟨crowded, []⟩

theorem tidied_result :
    tidied.1 = .ok (.ok ⟨⟨debtor, "overdue", 1, {}, some default, 1⟩, true⟩) := rfl

theorem tidied_moves : tidied.2.past.Moves debtor (some watchfulSet) "clear" "overdue" := by
  refine ⟨⟨debtor, "overdue", 1, {}, some default, 1⟩, .absent,
    [⟨.state (.get debtor), .ok none⟩, ⟨.activeSet, some watchfulSet⟩],
    ⟨tidied.2.past.take 2, ?_⟩, ?_, rfl, rfl, rfl⟩
  · rfl
  · exact List.forall_mem_cons.mpr ⟨rfl, List.forall_mem_singleton.mpr rfl⟩

/-- The stale look is withdrawn, the other items stay, and there is a look in a week. -/
theorem change_of_state_leaves_no_stale_look_crowded :
    tidied.2.past.Moves debtor (some watchfulSet) "clear" "overdue" ∧ "clear" ≠ "overdue" ∧
      ∃ next : Item,
        tidied.2.work.items =
          crowded.items.map (WorkStore.withdrawn refreshQueue debtor.render default) ++ [next] ∧
        (Interval.ofDays 7).after? default = some next.dueAt ∧
        (∀ i ∈ tidied.2.work.items, i.queue = refreshQueue → i.owner = debtor.render →
          i.status.isTerminal = false → i.isClaimed default = false → default < i.dueAt →
          i = next) ∧
        tidied.2.work.items.map Item.status =
          [.cancelled, .available, .available, .available, .available] := by
  have run : (refreshOf (.overdue 31 500)).Runs (Agenda.Answers (.overdue 31 500)) ⟨crowded, []⟩
      _ ⟨tidied.2.work, tidied.2.past⟩ := Task.runs_of_run answers_of_attend (Prod.ext tidied_result rfl)
  have hname : "clear" ≠ "overdue" := by decide
  obtain ⟨target, hmatch, -, next, hitems, hdue, -, honly, -⟩ :=
    change_of_state_leaves_no_stale_look (.withFacts {}) run tidied_moves hname
  have htarget : target = watchfulSet.states.head? := (firstMatch_iff.mp hmatch).symm.trans rfl
  have hsome : ((Interval.ofDays 7).after? default).isSome = true := by decide
  obtain ⟨due, hafter⟩ := Option.isSome_iff_exists.mp hsome
  have hnext := (hdue due).mpr ⟨_, _, htarget, rfl, hafter⟩
  obtain ⟨look, rfl, rfl⟩ := Option.map_eq_some_iff.mp hnext
  refine ⟨tidied_moves, hname, look, hitems, hafter, ?_, rfl⟩
  intro i hi hqueue howner hlive hfree hlater
  exact (Option.some.inj (honly i hi hqueue howner hlive hfree hlater)).symm

end OverdueEngine

end Dunning
