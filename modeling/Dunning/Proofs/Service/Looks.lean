import Dunning.Proofs.Overdue.StateSets
import Dunning.Proofs.Service.Closing
import Dunning.Proofs.Service.Sparing
import Dunning.Proofs.Work.Lifecycle

/-!
# Looks go on

An account in a state with an interval is looked at again and again. Whoever comes last sees to the
next look: a refresh that moves the account to another state schedules one, and a look that finds
nothing to change is moved to the next time itself, unless another is pending. A look that changes
only flags falls between the two. It counts as a transition, so the look is done; and it is none to
another state, so no look is scheduled.

What is stated is one delivery, from any stores. Others may do what they like meanwhile, as long as
they end no look at the account and leave its record to the delivery.

## Main definitions

* `Item.Awaits` — a look at an account that has not ended.
* `Shared.Meanwhile`, `Shared.Attends` — what others do meanwhile, and how a request is answered.
* `Service.Delivers` — a delivery for an open account that succeeds and is settled.
* `Shared.LooksOn` — who sees to the next look.

## Main results

* `OverdueEngine.handleLook_looksOn` — a look that succeeds sees to the next, or changes only flags.
* `looks_go_on` — a look at the account is pending after every delivery that does not change only
  flags.
* `looks_can_end` — a delivery that changes only flags, after which none is.
-/

namespace Dunning

variable {α β : Type}

/-! ## Surroundings -/

/-- Whether an item is a look at an account that has not ended. -/
structure Item.Awaits (i : Item) (account : AccountId) : Prop where
  queue_eq : i.queue = refreshQueue
  owner_eq : ownerAccount? i.owner = some account
  live : i.status.isTerminal = false

namespace Shared

/-- The record of an account, which is clear without one. -/
def recorded (s : Shared) (account : AccountId) : OverdueState :=
  (s.states.get? account).getD (.clear account)

/-- Whether another look at the account of an item is awaited. -/
def AwaitsAnother (s : Shared) (item : Item) (account : AccountId) : Prop :=
  ∃ i ∈ s.work.items, i.id ≠ item.id ∧ i.Awaits account

/-- The item is stored, and no two items have one identifier. -/
structure Stores (s : Shared) (item : Item) : Prop where
  distinct : s.work.Distinct
  stored : ∃ i ∈ s.work.items, i.id = item.id ∧ i.queue = item.queue ∧ i.owner = item.owner

/-- What others may do while a look at an account is delivered: anything, but they end no look at the
account and leave its record alone. -/
structure Meanwhile (account : AccountId) (s u : Shared) : Prop where
  run : ∃ events, s.work.Trace events u.work
  looks : ∀ i ∈ s.work.items, i.Awaits account →
    ∃ j ∈ u.work.items, j.id = i.id ∧ j.status.isTerminal = false
  record : u.states.get? account = s.states.get? account

/-- How a request is answered when the stores do not fail. What other systems say is open. -/
def Meets (set : Option StateSet) : (request : Request) → Shared → request.Answer → Shared → Prop
  | .work request, s, answer, s' =>
    ∃ clock fresh work, s.work.Step ⟨clock, fresh, request, answer⟩ work ∧ s' = { s with work }
  | .attempt request, s, answer, s' =>
    ∃ attempts, s.attempts.respond request = (answer, attempts) ∧ s' = { s with attempts }
  | .state request, s, answer, s' =>
    ∃ states, s.states.respond request = (answer, states) ∧ s' = { s with states }
  | .activeSet, s, answer, s' => answer = set ∧ s' = s
  | _, s, _, s' => s' = s

/-- How a request of a delivery is answered: others act, and then it is carried out. -/
def Attends (account : AccountId) (set : Option StateSet) (request : Request) (s : Shared)
    (answer : request.Answer) (s' : Shared) : Prop :=
  ∃ u, s.Meanwhile account u ∧ Meets set request u answer s'

end Shared

/-- The answer to a request of a delivery for an open account that still holds its claim. -/
def WorkRequest.Welcome : (request : WorkRequest) → request.Answer → Prop
  | .isOwnerCancelled _, answer => answer = .ok false
  | .settle .., answer => answer = .ok true
  | _, _ => True

/-- A delivery for an open account: the handler succeeds, and the item is settled. -/
def Service.Delivers (service : Service) (account : AccountId) (set : Option StateSet) :
    (request : PollRequest) → Shared → request.Answer → Shared → Prop
  | .work request, s, answer, s' =>
    Shared.Attends account set (.work request) s answer s' ∧ request.Welcome answer
  | .invoke item context, s, run, s' =>
    ∃ outcome, run = .returned (.ok outcome) ∧
      (service.handle item context).Runs (Shared.Attends account set) s (.ok outcome) s'
  | .count .., s, _, s' => s' = s
  | .reportDead .., s, _, s' => s' = s

/-! ## What a request keeps -/

namespace Shared

variable {account : AccountId} {set : Option StateSet} {item : Item} {s u s' : Shared}

theorem Meanwhile.refl (account : AccountId) (s : Shared) : s.Meanwhile account s where
  run := ⟨[], .nil⟩
  looks i hi hawaits := ⟨i, hi, rfl, hawaits.live⟩
  record := rfl

theorem Stores.of_trace {events : List WorkEvent} (h : s.Stores item)
    (run : s.work.Trace events u.work) : u.Stores item where
  distinct := run.distinct h.distinct
  stored := by
    obtain ⟨i, hi, hid, hqueue, howner⟩ := h.stored
    obtain ⟨j, hj, hsame, hsamequeue, hsameowner⟩ := run.exists_of_mem h.distinct hi
    exact ⟨j, hj, hsame.trans hid, hsamequeue.trans hqueue, hsameowner.trans howner⟩

theorem Meanwhile.stores (h : s.Meanwhile account u) (hitem : s.Stores item) : u.Stores item := by
  obtain ⟨events, run⟩ := h.run
  exact hitem.of_trace run

theorem Meets.stores {request : Request} {answer : request.Answer}
    (h : Meets set request s answer s') (hitem : s.Stores item) : s'.Stores item := by
  cases request with
  | work request =>
      obtain ⟨clock, fresh, work, step, rfl⟩ := h
      have run : s.work.Trace [⟨clock, fresh, request, answer⟩] work := .cons step .nil
      exact hitem.of_trace run
  | attempt request =>
      obtain ⟨attempts, -, rfl⟩ := h
      exact ⟨hitem.distinct, hitem.stored⟩
  | state request =>
      obtain ⟨states, -, rfl⟩ := h
      exact ⟨hitem.distinct, hitem.stored⟩
  | activeSet =>
      obtain ⟨-, rfl⟩ := h
      exact hitem
  | _ =>
      obtain rfl : s' = s := h
      exact hitem

/-- Another look that is awaited stays so while others act. -/
theorem Meanwhile.awaitsAnother (h : s.Meanwhile account u) (hitem : s.Stores item)
    (hanother : s.AwaitsAnother item account) : u.AwaitsAnother item account := by
  obtain ⟨i, hi, hne, hawaits⟩ := hanother
  obtain ⟨j, hj, hid, hlive⟩ := h.looks i hi hawaits
  obtain ⟨events, run⟩ := h.run
  obtain ⟨k, hk, hsame, hqueue, howner⟩ := run.exists_of_mem hitem.distinct hi
  obtain rfl : k = j := (run.distinct hitem.distinct).eq hk hj (hsame.trans hid.symm)
  exact ⟨k, hk, hsame ▸ hne, hqueue.trans hawaits.queue_eq,
    (congrArg ownerAccount? howner).trans hawaits.owner_eq, hlive⟩

/-! ## Programs -/

/-- How a program ends that runs among these surroundings from some stores on. -/
abbrev Yields (account : AccountId) (set : Option StateSet) (item : Item) (s : Shared)
    (t : Program α) (post : α → Shared → Prop) : Prop :=
  t.Obeys (Attends account set) (fun _ _ => True) (fun value u => u.Stores item ∧ post value u) s

variable {post : α → Shared → Prop}

theorem yields_done {value : α} (hitem : s.Stores item) (h : post value s) :
    Yields account set item s (.done value) post := ⟨hitem, h⟩

theorem yields_ask {request : Request} {next : request.Answer → Program α} (hitem : s.Stores item)
    (hnext : ∀ answer u s', s.Meanwhile account u → u.Stores item → Meets set request u answer s' →
      s'.Stores item → Yields account set item s' (next answer) post) :
    Yields account set item s (.ask request next) post := by
  refine Task.obeys_ask.mpr ⟨trivial, ?_⟩
  rintro answer s' ⟨u, hmeanwhile, hmeets⟩
  have hu := hmeanwhile.stores hitem
  exact hnext answer u s' hmeanwhile hu hmeets (hmeets.stores hu)

theorem yields_bind {middle : α → Shared → Prop} {t : Program α} {f : α → Program β}
    {post : β → Shared → Prop} (h : Yields account set item s t middle)
    (hf : ∀ value u, u.Stores item → middle value u → Yields account set item u (f value) post) :
    Yields account set item s (t.bind f) post := by
  refine Task.obeys_bind.mpr (h.imp ?_)
  rintro value u ⟨hu, hmiddle⟩
  exact hf value u hu hmiddle

/-- Whether the record of an account is as it was. -/
def SameRecord (account : AccountId) (s s' : Shared) : Prop :=
  s'.states.get? account = s.states.get? account

/-- A request that is no write of a state leaves the record of the account alone. -/
theorem Meets.sameRecord {request : Request} {answer : request.Answer}
    (h : Meets set request s answer s')
    (hsave : ∀ record expected, request ≠ .state (.save record expected)) :
    SameRecord account s s' := by
  cases request with
  | work request =>
      obtain ⟨clock, fresh, work, -, rfl⟩ := h
      rfl
  | attempt request =>
      obtain ⟨attempts, -, rfl⟩ := h
      rfl
  | state request =>
      cases request with
      | get other =>
          obtain ⟨states, hresponds, rfl⟩ := h
          obtain ⟨-, rfl⟩ := Prod.mk.inj hresponds
          rfl
      | save record expected => exact absurd rfl (hsave record expected)
  | activeSet =>
      obtain ⟨-, rfl⟩ := h
      rfl
  | _ =>
      obtain rfl : s' = s := h
      rfl

/-- A request that is no write of a state, with what follows it. -/
theorem yields_call {request : Request} {next : request.Answer → Program α} (hitem : s.Stores item)
    (hsave : ∀ record expected, request ≠ .state (.save record expected))
    (hnext : ∀ answer s', s'.Stores item → SameRecord account s s' →
      Yields account set item s' (next answer) post) :
    Yields account set item s (.ask request next) post := by
  refine yields_ask hitem fun answer u s' hmeanwhile _ hmeets hs' => hnext answer s' hs' ?_
  exact (hmeets.sameRecord hsave).trans hmeanwhile.record

end Shared

/-! ## The engine -/

namespace OverdueEngine

open Shared

variable {account : AccountId} {set : Option StateSet} {item : Item} {s : Shared} {t : Transition}
  {now : Instant}

theorem runHooks_yields (e : OverdueEngine) (phase : HookPhase) (hooks : List String)
    (hitem : s.Stores item) :
    Yields account set item s (e.runHooks t phase now hooks) fun _ s' =>
      SameRecord account s s' := by
  induction hooks generalizing s with
  | nil => exact yields_done hitem rfl
  | cons hook rest ih =>
      unfold runHooks
      split
      · refine yields_call hitem (fun _ _ h => by cases h) fun _ s' hs' hsame => ?_
        refine (ih hs').imp ?_
        rintro _ u ⟨hu, hlater⟩
        exact ⟨hu, hlater.trans hsame⟩
      · exact ih hitem

theorem dropLooks_yields (hitem : s.Stores item) :
    Yields account set item s (dropLooks t now) fun _ s' => SameRecord account s s' := by
  unfold dropLooks
  split
  · exact yields_call hitem (fun _ _ h => by cases h) fun _ s' hs' hsame => yields_done hs' hsame
  · exact yields_done hitem rfl

theorem restrict_yields (hitem : s.Stores item) :
    Yields account set item s (restrict t) fun _ s' => SameRecord account s s' := by
  unfold restrict
  split
  · exact yields_call hitem (fun _ _ h => by cases h) fun _ s' hs' hsame => yields_done hs' hsame
  · exact yields_done hitem rfl

/-- A look that is scheduled is awaited. -/
theorem scheduleLook_yields (haccount : t.after.account = account) (hitem : s.Stores item) :
    Yields account set item s (scheduleLook t) fun _ s' => SameRecord account s s' ∧
      (t.reevaluateAt ≠ none → s'.AwaitsAnother item account) := by
  unfold scheduleLook
  split
  · rename_i due hdue
    refine yields_ask hitem fun answer u s' hmeanwhile hu hmeets hs' => yields_done hs' ⟨?_, ?_⟩
    · exact (hmeets.sameRecord fun _ _ h => by cases h).trans hmeanwhile.record
    · intro _
      obtain ⟨clock, fresh, work, step, rfl⟩ := hmeets
      obtain ⟨-, rfl⟩ := Prod.mk.inj (Option.some.inj step.responds)
      -- The identifier is new, and the item is stored already.
      obtain ⟨i, hi, hid, -⟩ := hu.stored
      refine ⟨Item.ofNew fresh _ clock, List.mem_append_right _ List.mem_cons_self, ?_, rfl, ?_, rfl⟩
      · intro hsame
        exact step.unused i hi (hid.trans hsame.symm)
      · exact haccount ▸ ownerAccount?_render t.after.account
  · rename_i hnone
    exact yields_done hitem ⟨rfl, fun hdue => absurd hnone hdue⟩

/-- The side effects leave the record alone unless the gate refuses, and a look that is to be
scheduled is awaited. -/
theorem apply_yields (e : OverdueEngine) (setVersion : UInt64) (haccount : t.after.account = account)
    (hitem : s.Stores item) :
    Yields account set item s (e.apply t setVersion now) fun result s' => result = .ok () →
      SameRecord account s s' ∧ (t.reevaluateAt ≠ none → s'.AwaitsAnother item account) := by
  simp only [apply, Task.bind_eq, Task.pure_eq]
  refine yields_bind (e.runHooks_yields _ _ hitem) fun _ left hleft hsameleft => ?_
  refine yields_bind (dropLooks_yields hleft) fun _ dropped hdropped hsamedropped => ?_
  refine yields_bind (restrict_yields hdropped) fun restricted asked hasked hsameasked => ?_
  refine yields_bind (e.runHooks_yields _ _ hasked) fun _ entered hentered hsameentered => ?_
  refine yields_bind (scheduleLook_yields haccount hentered) ?_
  rintro _ scheduled hscheduled ⟨hsame, hanother⟩
  cases restricted with
  | ok =>
      refine yields_done hscheduled fun _ => ⟨?_, hanother⟩
      exact hsame.trans (hsameentered.trans (hsameasked.trans (hsamedropped.trans hsameleft)))
  | error cause =>
      refine yields_ask hscheduled fun _ _ _ _ _ _ hs' => yields_done hs' fun h => ?_
      cases h

/-- What a refresh that succeeds brought about, by the record that it found. -/
inductive Brings (account : AccountId) (set : Option StateSet) (item : Item) (now : Instant)
    (before : OverdueState) (refreshed : Refreshed) (s' : Shared) : Prop where
  | stays : refreshed = ⟨before, false⟩ → s'.recorded account = before →
      Brings account set item now before refreshed s'
  | moves {facts : AccountFacts} {t : Transition} : refreshed = ⟨t.after, true⟩ →
      planTransition before set facts now = some t → s'.recorded account = t.after →
      (t.reevaluateAt ≠ none → s'.AwaitsAnother item account) →
      Brings account set item now before refreshed s'

/-- How an attempt at a refresh ends: without a result the record is as it was. -/
def Attempted (account : AccountId) (set : Option StateSet) (item : Item) (now : Instant)
    (s : Shared) (result : Option (Except OverdueError Refreshed)) (s' : Shared) : Prop :=
  (result = none → SameRecord account s s') ∧
    ∀ refreshed, result = some (.ok refreshed) →
      Brings account set item now (s.recorded account) refreshed s'

theorem Attempted.of_error {s' : Shared} (error : OverdueError) :
    Attempted account set item now s (some (.error error)) s' :=
  ⟨fun h => (by cases h), fun _ h => by cases h⟩

theorem account_recorded (s : Shared) (account : AccountId) :
    (s.recorded account).account = account := by
  unfold Shared.recorded
  cases hrecord : s.states.get? account with
  | none => rfl
  | some record => exact StateStore.account_of_get? hrecord

theorem recorded_of_same {s' : Shared} (h : SameRecord account s s') :
    s'.recorded account = s.recorded account := by
  unfold Shared.recorded
  rw [show s'.states.get? account = s.states.get? account from h]

theorem carryOut_yields (e : OverdueEngine) {facts : AccountFacts} (setVersion : UInt64)
    {before : Shared} (hplan : planTransition (before.recorded account) set facts now = some t)
    (hsame : SameRecord account before s) (hitem : s.Stores item) :
    Yields account set item s (e.carryOut t setVersion now)
      (Attempted account set item now before) := by
  have haccount : t.after.account = account := by
    rw [planTransition_account hplan]
    exact account_recorded before account
  refine yields_ask hitem fun answer u s' hmeanwhile hu hmeets hs' => ?_
  obtain ⟨states, hsave, rfl⟩ := hmeets
  cases answer with
  | error error =>
      obtain ⟨-, rfl⟩ := StateStore.save_eq_error hsave
      simp only [Task.bind_done]
      split
      · refine yields_done hs' ⟨fun _ => ?_, fun _ h => by cases h⟩
        exact hmeanwhile.record.trans hsame
      · exact yields_done hs' (.of_error _)
  | ok =>
      obtain ⟨-, rfl⟩ := StateStore.save_eq_ok hsave
      simp only [Task.bind_done, Task.bind_eq]
      refine yields_bind (e.apply_yields setVersion haccount hs') fun result u' hu' happlied => ?_
      cases result with
      | error error => exact yields_done hu' (.of_error error)
      | ok =>
          obtain ⟨hlater, hanother⟩ := happlied rfl
          refine yields_done hu' ⟨fun h => (by cases h), fun refreshed hrefreshed => ?_⟩
          obtain rfl := Except.ok.inj (Option.some.inj hrefreshed)
          refine .moves rfl hplan ?_ hanother
          rw [recorded_of_same hlater, Shared.recorded, ← haccount]
          exact congrArg (fun record => Option.getD record _) (StateStore.get?_put_self _ _)

theorem tryRefresh_yields (e : OverdueEngine) {facts : AccountFacts} (hitem : s.Stores item) :
    Yields account set item s (e.tryRefresh account facts now)
      (Attempted account set item now s) := by
  refine yields_ask hitem fun told u s₁ hmeanwhile _ hmeets hs₁ => ?_
  have hsame₁ : SameRecord account s s₁ :=
    (hmeets.sameRecord fun _ _ h => by cases h).trans hmeanwhile.record
  obtain ⟨rfl, -⟩ := hmeets
  refine yields_ask hs₁ fun answer v s₂ hmeanwhile₂ _ hmeets₂ hs₂ => ?_
  have hsame₂ : SameRecord account s s₂ :=
    ((hmeets₂.sameRecord fun _ _ h => by cases h).trans hmeanwhile₂.record).trans hsame₁
  obtain ⟨states, hread, -⟩ := hmeets₂
  obtain ⟨rfl, -⟩ := Prod.mk.inj hread
  have hcurrent : (v.states.get? account).getD (.clear account) = s.recorded account := by
    rw [Shared.recorded, hmeanwhile₂.record, show s₁.states.get? account = _ from hsame₁]
  simp only [Task.bind_done]
  rw [hcurrent]
  split
  · refine yields_done hs₂ ⟨fun h => (by cases h), fun refreshed hrefreshed => ?_⟩
    obtain rfl := Except.ok.inj (Option.some.inj hrefreshed)
    exact .stays rfl (recorded_of_same hsame₂)
  · rename_i hplan
    exact e.carryOut_yields _ hplan hsame₂ hs₂

theorem refreshWithin_yields (e : OverdueEngine) {facts : AccountFacts} (attempts : Nat)
    (hitem : s.Stores item) :
    Yields account set item s (e.refreshWithin account facts now attempts) fun result s' =>
      ∀ refreshed, result = .ok refreshed →
        Brings account set item now (s.recorded account) refreshed s' := by
  induction attempts generalizing s with
  | zero => exact yields_done hitem fun _ h => by cases h
  | succ attempts ih =>
      unfold refreshWithin
      refine yields_bind (e.tryRefresh_yields hitem) ?_
      rintro result s' hs' ⟨hlost, hbrings⟩
      cases result with
      | none => exact recorded_of_same (hlost rfl) ▸ ih hs'
      | some result =>
          refine yields_done hs' fun refreshed hrefreshed => hbrings refreshed ?_
          exact congrArg some hrefreshed

theorem refresh_yields (e : OverdueEngine) (hitem : s.Stores item) :
    Yields account set item s (e.refresh account now) fun result s' =>
      ∀ refreshed, result = .ok refreshed →
        Brings account set item now (s.recorded account) refreshed s' := by
  refine yields_call hitem (fun _ _ h => by cases h) fun answer s' hs' hsame => ?_
  cases answer with
  | error cause => exact yields_done hs' fun _ h => by cases h
  | ok facts => exact recorded_of_same hsame ▸ e.refreshWithin_yields _ hs'

end OverdueEngine

/-! ## The handler -/

/-- Who sees to the next look at an account after a look that succeeded: another look that is awaited,
or this one, which is to run again. Nobody has to when the record asks for none; and nobody does when
only the flags of the record changed. -/
inductive Shared.LooksOn (account : AccountId) (set : Option StateSet) (item : Item) (now : Instant)
    (before : OverdueState) (outcome : HandlerOutcome) (s' : Shared) : Prop where
  | another : s'.AwaitsAnother item account → LooksOn account set item now before outcome s'
  | again {next : Instant} : outcome = .rescheduleAt next →
      LooksOn account set item now before outcome s'
  | idle : OverdueEngine.nextLook? set (s'.recorded account).stateName now = none →
      LooksOn account set item now before outcome s'
  | flagsOnly : (s'.recorded account).stateName = before.stateName →
      (s'.recorded account).blocked ≠ before.blocked →
      LooksOn account set item now before outcome s'

namespace OverdueEngine

open Shared

variable {account : AccountId} {set : Option StateSet} {item : Item} {s : Shared} {now : Instant}
  {before : OverdueState}

/-- A look is moved to the next time unless another is awaited. -/
theorem repeatLook_yields {next : Instant} (howner : ownerAccount? item.owner = some account)
    (hitem : s.Stores item) :
    Yields account set item s (repeatLook item next) fun result s' =>
      ∀ outcome, result = .ok outcome → LooksOn account set item now before outcome s' := by
  refine yields_ask hitem fun answer u s' _ _ hmeets hs' => ?_
  obtain ⟨clock, fresh, work, step, rfl⟩ := hmeets
  obtain ⟨rfl, rfl⟩ := Prod.mk.inj (Option.some.inj step.responds)
  simp only [Task.bind_done]
  split
  · rename_i hany
    refine yields_done hs' fun outcome _ => .another ?_
    obtain ⟨other, hother, hne⟩ := List.any_eq_true.mp hany
    obtain ⟨hmem, hqueue, hsame, hlive⟩ := WorkStore.mem_pendingForOwner.mp hother
    exact ⟨other, hmem, by simpa using hne, hqueue, hsame ▸ howner, hlive⟩
  · exact yields_done hs' fun outcome houtcome => .again (Except.ok.inj houtcome).symm

/-- A look that succeeds sees to the next one, or it changes only flags. -/
theorem look_yields (e : OverdueEngine) (hset : ∀ checked ∈ set, checked.Checked)
    (howner : ownerAccount? item.owner = some account) (hitem : s.Stores item) :
    Yields account set item s (e.look account item now) fun result s' =>
      ∀ outcome, result = .ok outcome →
        LooksOn account set item now (s.recorded account) outcome s' := by
  refine yields_bind (e.refresh_yields hitem) fun result s₁ hs₁ hrefreshed => ?_
  cases result with
  | error cause => exact yields_done hs₁ fun _ h => by cases h
  | ok refreshed =>
      cases hrefreshed refreshed rfl with
      | @moves facts t hresult hplan hrecord hanother =>
          subst hresult
          refine yields_done hs₁ fun outcome _ => ?_
          have hbefore : t.before = s.recorded account := (planTransition_eq_some hplan).1
          have hdue := Transition.reevaluateAt_eq hset hplan
          cases hrenamed : t.changesState with
          | true =>
              rw [hrenamed, if_pos rfl] at hdue
              by_cases hnone : t.reevaluateAt = none
              · exact .idle (hrecord ▸ hdue.symm.trans hnone)
              · exact .another (hanother hnone)
          | false =>
              obtain ⟨hname, hflags⟩ := planTransition_changes hplan hrenamed
              rw [hbefore] at hname hflags
              exact .flagsOnly (hrecord ▸ hname.symm) (hrecord ▸ hflags.symm)
      | stays hresult hrecord =>
          subst hresult
          refine yields_ask hs₁ fun told u s₂ hmeanwhile _ hmeets hs₂ => ?_
          obtain ⟨rfl, rfl⟩ := hmeets
          simp only [Task.bind_done]
          split
          · rename_i hnone
            refine yields_done hs₂ fun outcome _ => .idle ?_
            rw [recorded_of_same hmeanwhile.record, hrecord]
            exact hnone
          · exact repeatLook_yields howner hs₂

/-- **Looks.** A look at an open account that succeeds sees to the next one, or it changes only flags. -/
theorem handleLook_looksOn (e : OverdueEngine) (hset : ∀ checked ∈ set, checked.Checked)
    (howner : ownerAccount? item.owner = some account) {context : HandlerContext}
    (hopen : context.ownerCancelled = false) (hitem : s.Stores item) :
    Yields account set item s (e.handleLook item context) fun result s' =>
      ∀ outcome, result = .ok outcome →
        LooksOn account set item context.now (s.recorded account) outcome s' := by
  have hlook : e.lookAt item context = e.look account item context.now := by
    rw [lookAt, hopen, howner]
    rfl
  rw [handleLook, hlook]
  refine yields_bind (e.look_yields hset howner hitem) fun result s' hs' hlooks => ?_
  refine yields_done hs' fun outcome houtcome => ?_
  cases result with
  | error fault => cases houtcome
  | ok other =>
      obtain rfl := Except.ok.inj houtcome
      exact hlooks other rfl

end OverdueEngine

/-! ## Deliveries -/

/-- Settling an item does not end another one. -/
theorem WorkEvent.Change.status_eq_of_settle {e : WorkEvent} {i j : Item} (h : e.Change i j)
    {id : ItemId} {claimer : String} {settlement : Settlement}
    (hrequest : e.request = .settle id claimer settlement) (hne : i.id ≠ id) :
    j.status = i.status := by
  cases h with
  | settled hsettle =>
      rw [hrequest] at hsettle
      cases hsettle
      exact absurd rfl hne
  | cancelled hcancel =>
      rw [hrequest] at hcancel
      cases hcancel
  | withdrawn hwithdraw =>
      rw [hrequest] at hwithdraw
      cases hwithdraw
  | _ => rfl

namespace Shared

variable {account : AccountId} {set : Option StateSet} {item : Item} {s s' : Shared}
  {claimer : String} {settlement : Settlement}

/-- Another look that is awaited stays so when an item is settled. -/
theorem AwaitsAnother.settled (hanother : s.AwaitsAnother item account) (hitem : s.Stores item)
    (h : Attends account set (.work (.settle item.id claimer settlement)) s (.ok true) s') :
    s'.AwaitsAnother item account := by
  obtain ⟨u, hmeanwhile, clock, fresh, work, step, rfl⟩ := h
  obtain ⟨i, hi, hne, hawaits⟩ := hmeanwhile.awaitsAnother hitem hanother
  obtain ⟨j, hj, hchange⟩ := step.exists_of_mem (hmeanwhile.stores hitem).distinct hi
  obtain ⟨hqueue, howner, -⟩ := hchange.frame
  refine ⟨j, hj, hchange.id_eq ▸ hne, hqueue.trans hawaits.queue_eq,
    (congrArg ownerAccount? howner).trans hawaits.owner_eq, ?_⟩
  rw [hchange.status_eq_of_settle rfl hne]
  exact hawaits.live

/-- A look that is moved to another time is awaited. -/
theorem awaits_of_reschedule {due : Instant} (hitem : s.Stores item)
    (hqueue : item.queue = refreshQueue) (howner : ownerAccount? item.owner = some account)
    (h : Attends account set (.work (.settle item.id claimer (.reschedule due))) s (.ok true) s') :
    ∃ i ∈ s'.work.items, i.Awaits account := by
  obtain ⟨u, hmeanwhile, clock, fresh, work, step, rfl⟩ := h
  obtain ⟨distinct, i, hi, hid, hsamequeue, hsameowner⟩ := hmeanwhile.stores hitem
  obtain ⟨haccepts, hmem⟩ := step.settled distinct hi hid
  simp only [Item.accepts, Bool.and_eq_true, Bool.not_eq_true'] at haccepts
  exact ⟨_, hmem, hsamequeue.trans hqueue, (congrArg ownerAccount? hsameowner).trans howner,
    haccepts.1⟩

end Shared

namespace Service

variable {service : Service} {account : AccountId} {set : Option StateSet} {item : Item}
  {s s' : Shared} {now : Instant}

theorem countAll_runs {counters : List Counter}
    (run : (Dispatcher.countAll counters).Runs (service.Delivers account set) s () s') : s' = s := by
  induction counters generalizing s with
  | nil =>
      cases run
      rfl
  | cons counter rest ih =>
      cases run with
      | ask hcounted hrest =>
          obtain rfl := hcounted
          exact ih hrest

/-- A settlement is written at the first try. -/
theorem settle_runs {d : Dispatcher} {settlement : Settlement}
    (run : (d.settle item settlement).Runs (service.Delivers account set) s () s') :
    Shared.Attends account set (.work (.settle item.id d.config.name settlement)) s (.ok true) s' := by
  cases run with
  | ask hsettled hrest =>
      obtain ⟨hattends, hwelcome⟩ := hsettled
      obtain rfl : _ = Except.ok true := hwelcome
      simp only at hrest
      split at hrest
      · cases hrest with
        | ask hreported hdone =>
            cases hdone
            obtain rfl := hreported
            exact hattends
      · cases hrest
        exact hattends

/-- The handler of looks. -/
theorem handle_refresh (service : Service) (hqueue : item.queue = refreshQueue)
    (context : HandlerContext) :
    service.handle item context = service.engine.handleLook item context := by
  have htable : service.handlers.get? item.queue =
      [(billingDateQueue, BillingDate.handle), (refreshQueue, service.engine.handleLook),
       (retryQueue, service.controller.handleRetry)].lookup item.queue := rfl
  rw [handle, htable, hqueue]
  rfl

/-- What becomes of an item whose handler succeeds. -/
def settlementOf : HandlerOutcome → Settlement
  | .done => .complete
  | .rescheduleAt due => .reschedule due
  | .release => .release

/-- A delivery is a run of the handler and a settlement. -/
theorem process_runs (hqueue : item.queue = refreshQueue)
    (run : (service.dispatcher.process item now).Runs (service.Delivers account set) s () s') :
    ∃ u v outcome, Shared.Attends account set (.work (.isOwnerCancelled item.owner)) s (.ok false) u ∧
      (service.engine.handleLook item (service.dispatcher.context item now false)).Runs
        (Shared.Attends account set) u (.ok outcome) v ∧
      Shared.Attends account set (.work (.settle item.id service.dispatcher.config.name
        (settlementOf outcome))) v (.ok true) s' := by
  have hhandled : service.dispatcher.handled.contains item.queue = true := by
    rw [hqueue, service.handled_dispatcher]
    decide
  unfold Dispatcher.process at run
  rw [if_pos hhandled] at run
  cases run with
  | ask hlooked hrest =>
      obtain ⟨hattends, hwelcome⟩ := hlooked
      obtain rfl : _ = Except.ok false := hwelcome
      cases hrest with
      | ask hinvoked hsettles =>
          obtain ⟨outcome, rfl, hrun⟩ := hinvoked
          rw [service.handle_refresh hqueue] at hrun
          obtain ⟨_, counted, hcounts, hsettled⟩ := Task.runs_bind.mp hsettles
          obtain rfl := countAll_runs hcounts
          refine ⟨_, _, outcome, hattends, hrun, ?_⟩
          cases outcome <;> exact settle_runs hsettled

end Service

/-- **Looks go on.** Take any delivery of a look at an open account, from any stores and with any
checked state set: others act in between, but end no look at the account and leave its record alone;
the handler succeeds, and its dispatcher still holds the claim when it settles the item. If the record
then has a state with an interval that ends within the calendar, a look at the account is pending,
unless the delivery changed the flags of the record and not its state. -/
theorem looks_go_on (service : Service) {account : AccountId} {set : Option StateSet} {item : Item}
    {now next : Instant} {s s' : Shared} (hset : ∀ checked ∈ set, checked.Checked)
    (hitem : s.Stores item) (hqueue : item.queue = refreshQueue)
    (howner : ownerAccount? item.owner = some account)
    (run : (service.dispatcher.process item now).Runs (service.Delivers account set) s () s')
    (hnext : OverdueEngine.nextLook? set (s'.recorded account).stateName now = some next) :
    (∃ i ∈ s'.work.items, i.Awaits account) ∨
      (s'.recorded account).stateName = (s.recorded account).stateName ∧
        (s'.recorded account).blocked ≠ (s.recorded account).blocked := by
  obtain ⟨u, v, outcome, hlooked, hrun, hsettled⟩ := Service.process_runs hqueue run
  obtain ⟨_, hmeanwhile, hmeets⟩ := hlooked
  have hu : u.Stores item := hmeets.stores (hmeanwhile.stores hitem)
  have hbefore : u.recorded account = s.recorded account :=
    OverdueEngine.recorded_of_same
      ((hmeets.sameRecord fun _ _ h => by cases h).trans hmeanwhile.record)
  have hopen : (service.dispatcher.context item now false).ownerCancelled = false := rfl
  have hlook := service.engine.handleLook_looksOn hset howner hopen hu
  obtain ⟨hv, hlooksOn⟩ := hlook.of_runs hrun
  have hafter : s'.recorded account = v.recorded account := by
    obtain ⟨_, hlast, hmeets'⟩ := hsettled
    exact OverdueEngine.recorded_of_same
      ((hmeets'.sameRecord fun _ _ h => by cases h).trans hlast.record)
  cases hlooksOn outcome rfl with
  | another hanother =>
      obtain ⟨i, hi, -, hawaits⟩ := hanother.settled hv hsettled
      exact .inl ⟨i, hi, hawaits⟩
  | again houtcome =>
      subst houtcome
      exact .inl (Shared.awaits_of_reschedule hv hqueue howner hsettled)
  | idle hnone =>
      rw [hafter] at hnext
      exact absurd (hnext.symm.trans hnone) (by simp)
  | flagsOnly hname hflags =>
      rw [hafter, ← hbefore]
      exact .inr ⟨hname, hflags⟩

/-! ### A look that finds new flags, and one that finds nothing new -/

open RetryController (noonAccount)

/-- Answer a request at once. Time stands still and nothing fails; every account has the same facts,
and the gate accepts all flags. -/
def Shared.attend (set : Option StateSet) (facts : AccountFacts) :
    (request : Request) → Shared → Except Stop request.Answer × Shared
  | .work request, s =>
    match s.work.respondAtNoon request with
    | some (answer, work) => (.ok answer, { s with work })
    | none => (.error .crashed, s)
  | .state request, s =>
    let (answer, states) := s.states.respond request
    (.ok answer, { s with states })
  | .activeSet, s => (.ok set, s)
  | .facts _, s => (.ok (.ok facts), s)
  | .setBlocked .., s => (.ok (.ok ()), s)
  | _, s => (.error .crashed, s)

theorem Shared.attends_of_attend {account : AccountId} {set : Option StateSet}
    {facts : AccountFacts} (request : Request) (s : Shared) (answer : request.Answer) (s' : Shared)
    (h : attend set facts request s = (.ok answer, s')) : Attends account set request s answer s' := by
  refine ⟨s, .refl account s, ?_⟩
  unfold attend at h
  split at h
  · split at h
    · rename_i work hresponds
      obtain ⟨hanswer, rfl⟩ := Prod.mk.inj h
      obtain rfl := Except.ok.inj hanswer
      exact ⟨_, _, work, WorkStore.step_of_respondAtNoon hresponds, rfl⟩
    · cases (Prod.mk.inj h).1
  · obtain ⟨hanswer, rfl⟩ := Prod.mk.inj h
    obtain rfl := Except.ok.inj hanswer
    exact ⟨_, rfl, rfl⟩
  · obtain ⟨hanswer, rfl⟩ := Prod.mk.inj h
    obtain rfl := Except.ok.inj hanswer
    exact ⟨rfl, rfl⟩
  · obtain ⟨-, rfl⟩ := Prod.mk.inj h
    rfl
  · obtain ⟨-, rfl⟩ := Prod.mk.inj h
    rfl
  · cases (Prod.mk.inj h).1

/-- Answer a request of a dispatcher at once, as long as all goes well. -/
def Service.attend (service : Service) (set : Option StateSet) (facts : AccountFacts) :
    (request : PollRequest) → Shared → Except Stop request.Answer × Shared
  | .work (.isOwnerCancelled owner), s =>
    match Shared.attend set facts (.work (.isOwnerCancelled owner)) s with
    | (.ok (.ok false), s') => (.ok (.ok false), s')
    | _ => (.error .crashed, s)
  | .work (.settle id claimer settlement), s =>
    match Shared.attend set facts (.work (.settle id claimer settlement)) s with
    | (.ok (.ok true), s') => (.ok (.ok true), s')
    | _ => (.error .crashed, s)
  | .work _, s => (.error .crashed, s)
  | .invoke item context, s =>
    match (service.handle item context).run (Shared.attend set facts) s with
    | (.ok (.ok outcome), s') => (.ok (.returned (.ok outcome)), s')
    | _ => (.error .crashed, s)
  | .count .., s => (.ok (), s)
  | .reportDead .., s => (.ok (), s)

theorem Service.delivers_of_attend {service : Service} {account : AccountId}
    {set : Option StateSet} {facts : AccountFacts} (request : PollRequest) (s : Shared)
    (answer : request.Answer) (s' : Shared)
    (h : service.attend set facts request s = (.ok answer, s')) :
    service.Delivers account set request s answer s' := by
  unfold attend at h
  split at h
  · split at h
    · rename_i hanswered
      obtain ⟨hanswer, rfl⟩ := Prod.mk.inj h
      obtain rfl := Except.ok.inj hanswer
      exact ⟨Shared.attends_of_attend _ _ _ _ hanswered, rfl⟩
    · cases (Prod.mk.inj h).1
  · split at h
    · rename_i hanswered
      obtain ⟨hanswer, rfl⟩ := Prod.mk.inj h
      obtain rfl := Except.ok.inj hanswer
      exact ⟨Shared.attends_of_attend _ _ _ _ hanswered, rfl⟩
    · cases (Prod.mk.inj h).1
  · cases (Prod.mk.inj h).1
  · split at h
    · rename_i outcome _ hran
      obtain ⟨hanswer, rfl⟩ := Prod.mk.inj h
      obtain rfl := Except.ok.inj hanswer
      exact ⟨outcome, rfl, Task.runs_of_run Shared.attends_of_attend hran⟩
    · cases (Prod.mk.inj h).1
  · obtain ⟨-, rfl⟩ := Prod.mk.inj h
    rfl
  · obtain ⟨-, rfl⟩ := Prod.mk.inj h
    rfl

/-- A set that restricts accounts after a month and has them looked at every five days. -/
def reviewedSet : StateSet :=
  ⟨1, [{ name := "overdue", condition := .daysOverdue 30, actions := { blockChanges := true },
         interval := some (.ofDays 5) }]⟩

theorem reviewedSet_checked : ∀ checked ∈ some reviewedSet, checked.Checked := by
  rintro _ ⟨⟩
  show reviewedSet.Checked
  rfl

/-- A look that the dispatcher of the service has claimed. -/
def claimedLook : Item :=
  { Item.ofNew ⟨.ofNat 0⟩ (refreshItem noonAccount.render .noon "reevaluation") .noon with
    claimedBy := some "noon", leaseEnd := some .last }

/-- The look is the only item, and the account is recorded as overdue with some flags. -/
def flagged (flags : BlockFlags) : Shared where
  work := ⟨[claimedLook]⟩
  states := ⟨[⟨noonAccount, "overdue", 1, flags, some .first, 1⟩]⟩

theorem flagged_stores (flags : BlockFlags) : (flagged flags).Stores claimedLook where
  distinct := List.nodup_singleton _
  stored := ⟨_, List.mem_singleton_self _, rfl, rfl, rfl⟩

theorem owner_claimedLook : ownerAccount? claimedLook.owner = some noonAccount :=
  ownerAccount?_render noonAccount

/-- The delivery of the look, when the account is a month overdue. -/
def lookedAt (flags : BlockFlags) : Except Stop Unit × Shared :=
  (noonService.dispatcher.process claimedLook .noon).run
    (noonService.attend (some reviewedSet) (.overdue 31 500)) (flagged flags)

theorem lookedAt_runs {flags : BlockFlags} (h : (lookedAt flags).1 = .ok ()) :
    (noonService.dispatcher.process claimedLook .noon).Runs
      (noonService.Delivers noonAccount (some reviewedSet)) (flagged flags) () (lookedAt flags).2 :=
  Task.runs_of_run Service.delivers_of_attend (Prod.ext h rfl)

/-- **Looks can end.** The account stays in a state with an interval; the look only brings its flags up
to date, and after it no look at the account is pending. -/
theorem looks_can_end :
    (∀ checked ∈ some reviewedSet, checked.Checked) ∧ (flagged {}).Stores claimedLook ∧
      claimedLook.queue = refreshQueue ∧ ownerAccount? claimedLook.owner = some noonAccount ∧
      (noonService.dispatcher.process claimedLook .noon).Runs
        (noonService.Delivers noonAccount (some reviewedSet)) (flagged {}) () (lookedAt {}).2 ∧
      (OverdueEngine.nextLook? (some reviewedSet)
        ((lookedAt {}).2.recorded noonAccount).stateName .noon).isSome = true ∧
      ∀ i ∈ (lookedAt {}).2.work.items, ¬ i.Awaits noonAccount := by
  refine ⟨reviewedSet_checked, flagged_stores {}, rfl, owner_claimedLook,
    lookedAt_runs (by cbv), by cbv, ?_⟩
  have hended : ((lookedAt {}).2.work.items.all fun i => i.status.isTerminal) = true := by cbv
  intro i hi hawaits
  have hterminal := List.all_eq_true.mp hended i hi
  rw [hawaits.live] at hterminal
  cases hterminal

/-- A look that finds the flags as they should be is moved to its next time. -/
theorem looks_go_on_unchanged :
    (flagged { blockChanges := true }).Stores claimedLook ∧
      (noonService.dispatcher.process claimedLook .noon).Runs
        (noonService.Delivers noonAccount (some reviewedSet)) (flagged { blockChanges := true }) ()
        (lookedAt { blockChanges := true }).2 ∧
      ∃ i ∈ (lookedAt { blockChanges := true }).2.work.items, i.Awaits noonAccount := by
  have hdone : (lookedAt { blockChanges := true }).1 = .ok () := by cbv
  have run := lookedAt_runs hdone
  have hnext : (OverdueEngine.nextLook? (some reviewedSet)
      ((lookedAt { blockChanges := true }).2.recorded noonAccount).stateName .noon).isSome =
        true := by cbv
  obtain ⟨next, hnext⟩ := Option.isSome_iff_exists.mp hnext
  refine ⟨flagged_stores _, run, ?_⟩
  rcases looks_go_on noonService reviewedSet_checked (flagged_stores _) rfl owner_claimedLook run
    hnext with hawaits | ⟨-, hflags⟩
  · exact hawaits
  · exact absurd (by cbv) hflags

end Dunning
