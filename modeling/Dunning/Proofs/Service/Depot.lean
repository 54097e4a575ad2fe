import Dunning.Proofs.Service.Delivery

/-!
# What a depot keeps

Whatever publications, refreshes and polls ask, the stores of work items stay in order: what was
recorded is stored under its own identifier, what is out is a stored item, and neither ever changes
its queue, its owner or its payload. So an item that comes back from a handler can be told from the
item that was recorded.

## Main definitions

* `Depot.Tracks` — the stores agree with all that was told of items.

## Main results

* `Depot.Responds.cases` — a call is an event of the store of work items, or it changes nothing there.
* `Depot.Tracks.step` — what a call keeps.
-/

namespace Dunning

/-! ## What is out -/

/-- Whether an event is a claim at a time. -/
def WorkEvent.ClaimsAt (e : WorkEvent) (now : Instant) : Prop :=
  ∃ queue lease batch claimer, e.request = .claimDue queue now lease batch claimer

namespace Depot

variable {s s' : Depot} {past : DeliveryHistory}

/-- What an event of the store of work items hands out is out then. -/
theorem mem_claimed {clock : Instant} {fresh : ItemId} {request : WorkRequest}
    {answer : request.Answer} {now : Instant} {item : Item} :
    (now, item) ∈ claimed (.work request) answer ↔
      item ∈ WorkEvent.handedOut ⟨clock, fresh, request, answer⟩ ∧
        WorkEvent.ClaimsAt ⟨clock, fresh, request, answer⟩ now := by
  constructor
  · intro h
    cases request with
    | claimDue queue moment lease batch claimer =>
        rcases answer with e | items
        · cases h
        · obtain ⟨other, hother, heq⟩ := List.mem_map.mp h
          obtain ⟨rfl, rfl⟩ := Prod.mk.inj heq
          exact ⟨hother, _, _, _, _, rfl⟩
    | _ => cases h
  · rintro ⟨hout, queue, lease, batch, claimer, hclaim⟩
    obtain rfl : request = _ := hclaim
    rcases answer with e | items
    · cases hout
    · exact List.mem_map_of_mem hout

/-- A failed answer hands nothing out. -/
theorem claimed_refuse (e : StoreError) (request : WorkRequest) :
    claimed (.work request) (Simulation.refuseWork e request) = [] := by
  cases request <;> rfl

/-- A request is an event of the store of work items, or it changes nothing there. -/
theorem Performs.cases {request : Request} {answer : request.Answer}
    (h : s.Performs request answer s') :
    (s'.shared.work = s.shared.work ∧ claimed request answer = [] ∧ s'.claims = s.claims) ∨
      ∃ e : WorkEvent, request = .work e.request ∧ s.shared.work.Step e s'.shared.work ∧
        s.claims ⊆ s'.claims ∧ ∀ now item, (now, item) ∈ s'.claims →
          (now, item) ∈ s.claims ∨ item ∈ e.handedOut ∧ e.ClaimsAt now := by
  obtain ⟨hanswers, hclaims⟩ := h
  cases request with
  | work request =>
      rcases hanswers with ⟨clock, fresh, work, step, hshared⟩ | ⟨⟨e, rfl⟩, hshared⟩
      · refine .inr ⟨⟨clock, fresh, request, answer⟩, rfl, ?_, ?_, ?_⟩
        · rw [hshared]
          exact step
        · rw [hclaims]
          exact List.subset_append_right _ _
        · intro now item hmem
          rw [hclaims] at hmem
          exact (List.mem_append.mp hmem).symm.imp_right mem_claimed.mp
      · rw [claimed_refuse] at hclaims ⊢
        exact .inl ⟨congrArg Shared.work hshared, rfl, hclaims⟩
  | attempt request =>
      refine .inl ⟨?_, rfl, hclaims⟩
      rcases hanswers with ⟨attempts, -, hshared⟩ | ⟨-, hshared⟩ <;> rw [hshared]
  | state request =>
      refine .inl ⟨?_, rfl, hclaims⟩
      rcases hanswers with ⟨states, -, hshared⟩ | ⟨-, hshared⟩ <;> rw [hshared]
  | _ => exact .inl ⟨congrArg Shared.work hanswers, rfl, hclaims⟩

/-- A call is an event of the store of work items, with or without an answer, or it changes nothing
there. -/
theorem Responds.cases {call : DeliveryCall} {reply : call.Answer} (h : Responds call s reply s') :
    (s'.shared.work = s.shared.work ∧ s'.claims = s.claims) ∨
      ∃ e : WorkEvent, call = .ask (.work e.request) ∧ s.shared.work.Step e s'.shared.work ∧
        s.claims ⊆ s'.claims ∧ ∀ now item, (now, item) ∈ s'.claims →
          (now, item) ∈ s.claims ∨ item ∈ e.handedOut ∧ e.ClaimsAt now := by
  have hperforms {request : Request} {answer : request.Answer} (h : s.Performs request answer s') :
      (s'.shared.work = s.shared.work ∧ s'.claims = s.claims) ∨
        ∃ e : WorkEvent, DeliveryCall.ask request = .ask (.work e.request) ∧
          s.shared.work.Step e s'.shared.work ∧ s.claims ⊆ s'.claims ∧
          ∀ now item, (now, item) ∈ s'.claims →
            (now, item) ∈ s.claims ∨ item ∈ e.handedOut ∧ e.ClaimsAt now := by
    rcases h.cases with ⟨hwork, -, hclaims⟩ | ⟨e, rfl, hstep⟩
    · exact .inl ⟨hwork, hclaims⟩
    · exact .inr ⟨e, rfl, hstep⟩
  cases call with
  | ask request =>
      rcases reply with stop | answer
      · rcases h with rfl | ⟨answer, h⟩
        · exact .inl ⟨rfl, rfl⟩
        · exact hperforms h
      · exact hperforms h
  | take =>
      obtain ⟨-, rfl⟩ := h
      exact .inl ⟨rfl, rfl⟩
  | hand =>
      obtain rfl := h
      exact .inl ⟨rfl, rfl⟩

/-- What is given out is out. -/
theorem Responds.out {call : DeliveryCall} {reply : call.Answer} (h : Responds call s reply s')
    {now : Instant} {item : Item} (hout : DeliveryHistory.GivesOut [⟨call, reply⟩] now item) :
    (now, item) ∈ s'.claims := by
  rcases hout with ⟨queue, lease, batch, claimer, items, hmem, hitem⟩ | hmem
  · cases List.mem_singleton.mp hmem
    obtain ⟨-, hclaims⟩ := h
    rw [hclaims]
    exact List.mem_append_left _ (List.mem_map_of_mem hitem)
  · cases List.mem_singleton.mp hmem
    obtain ⟨htaken, rfl⟩ := h
    exact htaken

/-- What is recorded is stored under an identifier that was unused, and nothing is handed out. -/
theorem Responds.recorded {new : NewItem} {id : ItemId}
    (h : Responds (.ask (.work (.enqueue new))) s (.ok (.ok id)) s') :
    (∃ clock, Item.ofNew id new clock ∈ s'.shared.work.items) ∧
      (∀ i ∈ s.shared.work.items, i.id ≠ id) ∧ s'.claims = s.claims := by
  obtain ⟨⟨clock, fresh, work, step, hshared⟩ | ⟨⟨e, hrefused⟩, -⟩, hclaims⟩ := h
  · obtain ⟨hid, hwork⟩ := Prod.mk.inj (Option.some.inj step.responds)
    obtain rfl : fresh = id := Except.ok.inj hid
    refine ⟨⟨clock, ?_⟩, step.unused, hclaims⟩
    rw [hshared, ← hwork]
    exact List.mem_append_right _ List.mem_cons_self
  · cases hrefused

/-- No two items have one identifier, what was recorded is stored, what is out is a stored item, and
what was given out is out. -/
structure Tracks (s : Depot) (past : DeliveryHistory) : Prop where
  distinct : s.shared.work.Distinct
  recorded : ∀ new id, ⟨.ask (.work (.enqueue new)), .ok (.ok id)⟩ ∈ past →
    ∃ i ∈ s.shared.work.items, i.id = id ∧ i.queue = new.queue ∧ i.owner = new.owner ∧
      i.payload = new.payload
  claims : ∀ now item, (now, item) ∈ s.claims → ∃ i ∈ s.shared.work.items, i.id = item.id ∧
    item.queue = i.queue ∧ item.owner = i.owner ∧ item.payload = i.payload
  out : ∀ now item, past.GivesOut now item → (now, item) ∈ s.claims

theorem tracks_empty : Tracks {} [] where
  distinct := WorkStore.distinct_empty
  recorded _ _ h := nomatch h
  claims _ _ h := nomatch h
  out _ _ h := by
    rcases h with ⟨_, _, _, _, _, h, _⟩ | h
    · cases h
    · cases h

/-- **A call leaves it so.** -/
theorem Tracks.step {call : DeliveryCall} {reply : call.Answer} (tracks : s.Tracks past)
    (h : Responds call s reply s') : s'.Tracks (⟨call, reply⟩ :: past) := by
  have hout (hkept : s.claims ⊆ s'.claims) (now : Instant) (item : Item)
      (hgiven : DeliveryHistory.GivesOut (⟨call, reply⟩ :: past) now item) :
      (now, item) ∈ s'.claims := by
    by_cases hlast : DeliveryHistory.GivesOut [⟨call, reply⟩] now item
    · exact h.out hlast
    · refine hkept (tracks.out now item ?_)
      rcases hgiven with ⟨queue, lease, batch, claimer, items, hmem, hitem⟩ | hmem
      · refine .inl ⟨queue, lease, batch, claimer, items, ?_, hitem⟩
        rcases List.mem_cons.mp hmem with heq | hmem
        · exact absurd (.inl ⟨queue, lease, batch, claimer, items,
            List.mem_singleton.mpr heq, hitem⟩) hlast
        · exact hmem
      · refine .inr ?_
        rcases List.mem_cons.mp hmem with heq | hmem
        · exact absurd (.inr (List.mem_singleton.mpr heq)) hlast
        · exact hmem
  have hrecorded
      (hkept : ∀ i ∈ s.shared.work.items, ∃ j ∈ s'.shared.work.items, j.id = i.id ∧
        j.queue = i.queue ∧ j.owner = i.owner ∧ j.payload = i.payload)
      (new : NewItem) (id : ItemId) (hmem : ⟨.ask (.work (.enqueue new)), .ok (.ok id)⟩ ∈
        (⟨call, reply⟩ :: past : DeliveryHistory)) :
      ∃ i ∈ s'.shared.work.items, i.id = id ∧ i.queue = new.queue ∧ i.owner = new.owner ∧
        i.payload = new.payload := by
    rcases List.mem_cons.mp hmem with heq | hmem
    · cases heq
      obtain ⟨⟨clock, hnew⟩, -⟩ := h.recorded
      exact ⟨_, hnew, rfl, rfl, rfl, rfl⟩
    · obtain ⟨i, hi, rfl, hqueue, howner, hpayload⟩ := tracks.recorded new id hmem
      obtain ⟨j, hj, hid, hsamequeue, hsameowner, hsamepayload⟩ := hkept i hi
      exact ⟨j, hj, hid, hsamequeue.trans hqueue, hsameowner.trans howner,
        hsamepayload.trans hpayload⟩
  rcases h.cases with ⟨hwork, hclaims⟩ | ⟨e, -, step, hkept, hclaims⟩
  · refine ⟨hwork ▸ tracks.distinct, hrecorded ?_, ?_, hout (hclaims ▸ List.Subset.refl _)⟩
    · intro i hi
      exact ⟨i, hwork ▸ hi, rfl, rfl, rfl, rfl⟩
    · rw [hwork, hclaims]
      exact tracks.claims
  · refine ⟨step.distinct tracks.distinct, hrecorded ?_, ?_, hout hkept⟩
    · intro i hi
      obtain ⟨j, hj, hchange⟩ := step.exists_of_mem tracks.distinct hi
      exact ⟨j, hj, hchange.id_eq, hchange.frame⟩
    · intro now item hmem
      rcases hclaims now item hmem with hmem | ⟨hmem, queue, lease, batch, claimer, hrequest⟩
      · obtain ⟨i, hi, hid, hqueue, howner, hpayload⟩ := tracks.claims now item hmem
        obtain ⟨j, hj, hchange⟩ := step.exists_of_mem tracks.distinct hi
        obtain ⟨hsamequeue, hsameowner, hsamepayload⟩ := hchange.frame
        exact ⟨j, hj, hchange.id_eq.trans hid, hqueue.trans hsamequeue.symm,
          howner.trans hsameowner.symm, hpayload.trans hsamepayload.symm⟩
      · obtain ⟨leaseEnd, -, i, hi, -, -, rfl⟩ := step.of_mem_handedOut hrequest hmem
        obtain ⟨j, hj, hchange⟩ := step.exists_of_mem tracks.distinct hi
        obtain ⟨hsamequeue, hsameowner, hsamepayload⟩ := hchange.frame
        exact ⟨j, hj, hchange.id_eq, hsamequeue.symm, hsameowner.symm, hsamepayload.symm⟩

/-- A stored item and one that was given out under the same identifier are alike. -/
theorem Tracks.alike (tracks : s.Tracks past) {now : Instant} {item i : Item}
    (hout : past.GivesOut now item) (hi : i ∈ s.shared.work.items) (hid : item.id = i.id) :
    item.queue = i.queue ∧ item.owner = i.owner ∧ item.payload = i.payload := by
  obtain ⟨j, hj, hsame, hframe⟩ := tracks.claims now item (tracks.out now item hout)
  obtain rfl : j = i := tracks.distinct.eq hj hi (hsame.trans hid)
  exact hframe

end Depot

/-! ## Logs -/

/-- What the tasks of a service asked and were told, each under its place, the latest first. -/
abbrev DeliveryLog : Type := List (Nat × Exchange DeliveryCall DeliveryCall.Answer)

theorem DeliveryHistory.GivesOut.of_told {log : DeliveryLog} {place : Nat} {now : Instant}
    {item : Item} (h : GivesOut (Interleaving.told place log) now item) :
    GivesOut (log.map Prod.snd) now item :=
  h.mono fun _ hmem => List.mem_map_of_mem (Interleaving.mem_of_mem_told hmem)

/-! ## A depot that answers at once -/

namespace Depot

/-- Answer a call at once. Time stands still and the stores do not fail; every account has the same
facts, the gate accepts all flags, and nothing else is answered. -/
def reply (set : Option StateSet) (facts : AccountFacts) :
    (call : DeliveryCall) → Depot → Except Stop call.Answer × Depot
  | .ask (.work request), s =>
    match s.shared.work.respondAtNoon request with
    | some (answer, work) =>
      let event : WorkEvent := ⟨.noon, s.shared.work.nextId, request, answer⟩
      (.ok (.ok answer),
        ⟨{ s.shared with work, handedOut := event.handedOut ++ s.shared.handedOut },
          claimed (.work request) answer ++ s.claims⟩)
    | none => (.error .crashed, s)
  | .ask (.state request), s =>
    let (answer, states) := s.shared.states.respond request
    (.ok (.ok answer), { s with shared := { s.shared with states } })
  | .ask .activeSet, s => (.ok (.ok set), s)
  | .ask (.facts _), s => (.ok (.ok (.ok facts)), s)
  | .ask (.setBlocked ..), s => (.ok (.ok (.ok ())), s)
  | .ask _, s => (.ok (.error .crashed), s)
  | .hand .., s => (.ok (), s)
  | .take, s => (.error .crashed, s)

theorem responds_of_reply {set : Option StateSet} {facts : AccountFacts} (call : DeliveryCall)
    (s : Depot) (answer : call.Answer) (s' : Depot) (h : reply set facts call s = (.ok answer, s')) :
    Responds call s answer s' := by
  unfold reply at h
  split at h
  · split at h
    · rename_i work hresponds
      obtain ⟨hanswer, rfl⟩ := Prod.mk.inj h
      obtain rfl := Except.ok.inj hanswer
      exact ⟨.inl ⟨_, _, work, WorkStore.step_of_respondAtNoon hresponds, rfl⟩, rfl⟩
    · cases (Prod.mk.inj h).1
  · obtain ⟨hanswer, rfl⟩ := Prod.mk.inj h
    obtain rfl := Except.ok.inj hanswer
    exact ⟨.inl ⟨_, rfl, rfl⟩, rfl⟩
  · obtain ⟨hanswer, rfl⟩ := Prod.mk.inj h
    obtain rfl := Except.ok.inj hanswer
    exact ⟨rfl, rfl⟩
  · obtain ⟨hanswer, rfl⟩ := Prod.mk.inj h
    obtain rfl := Except.ok.inj hanswer
    exact ⟨rfl, rfl⟩
  · obtain ⟨hanswer, rfl⟩ := Prod.mk.inj h
    obtain rfl := Except.ok.inj hanswer
    exact ⟨rfl, rfl⟩
  · obtain ⟨hanswer, rfl⟩ := Prod.mk.inj h
    obtain rfl := Except.ok.inj hanswer
    exact .inl rfl
  · obtain ⟨-, rfl⟩ := Prod.mk.inj h
    rfl
  · cases (Prod.mk.inj h).1

end Depot

end Dunning
