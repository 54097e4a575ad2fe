import Dunning.Proofs.Work.Lifecycle

/-!
# Items that are given up

A dead letter gives an item up. Which items a store has given up, and why, is read off their fields;
what one event does to that list is read off the event. How far an item is from being given up is its
number of failed invocations, which only its holder can raise.

## Main definitions

* `WorkStore.givenUp` — the items that were given up, with their last errors.
* `WorkEvent.givesUp` — the item that an event gives up.
* `WorkStore.Within` — no item has failed too often.

## Main results

* `WorkStore.Step.givenUp_perm` — an event adds what it gives up, and nothing else.
* `WorkStore.Step.of_claimedBy` — whom an event leaves as a holder held the item, or claimed it.
* `WorkStore.Step.within` — what keeps failed invocations within a bound.
-/

namespace Dunning

/-- The name and the last error of an item that was given up. -/
def Item.givenUp? (i : Item) : Option (ItemId × Option String) :=
  if i.status = .deadLettered then some (i.id, i.lastError) else none

theorem Item.accepts_iff {i : Item} {claimer : String} : i.accepts claimer = true ↔
    i.status.isTerminal = false ∧ i.claimedBy = some claimer := by
  simp only [Item.accepts, Bool.and_eq_true, Bool.not_eq_true', beq_iff_eq]

theorem Item.givenUp?_of_live {i : Item} (h : i.status.isTerminal = false) : i.givenUp? = none := by
  refine if_neg ?_
  intro hstatus
  rw [hstatus] at h
  cases h

namespace WorkEvent

/-- The item that an event gives up, with the reason. -/
def givesUp : WorkEvent → List (ItemId × Option String)
  | ⟨_, _, .settle id _ (.deadLetter reason), .ok true⟩ => [(id, some reason)]
  | _ => []

/-- Only a dead letter that counts gives an item up. -/
theorem givesUp_cases (e : WorkEvent) :
    e.givesUp = [] ∨ ∃ clock fresh id claimer reason,
      e = ⟨clock, fresh, .settle id claimer (.deadLetter reason), .ok true⟩ := by
  unfold givesUp
  split
  · exact .inr ⟨_, _, _, _, _, rfl⟩
  · exact .inl rfl

/-- An event that does not give an item up leaves it given up or not, as it was. -/
theorem Change.givenUp?_eq {e : WorkEvent} {i j : Item} (h : e.Change i j)
    (hkept : ∀ entry ∈ e.givesUp, entry.1 ≠ i.id) : j.givenUp? = i.givenUp? := by
  cases h with
  | kept => rfl
  | refused => rfl
  | leased => rfl
  | settled hrequest hverdict haccepts =>
      rename_i claimer settlement
      obtain ⟨clock, fresh, request, answer⟩ := e
      obtain rfl : request = _ := hrequest
      have hlive := (Item.accepts_iff.mp haccepts).1
      rw [Item.givenUp?_of_live hlive]
      cases settlement with
      | complete => rfl
      | deadLetter reason =>
          obtain rfl : answer = .ok true := by
            cases answer with
            | error => cases hverdict
            | ok => exact congrArg _ (Option.some.inj hverdict)
          exact absurd rfl (hkept _ List.mem_cons_self)
      | _ => exact Item.givenUp?_of_live hlive
  | cancelled _ _ hlive =>
      rw [Item.givenUp?_of_live hlive]
      rfl
  | withdrawn _ hwaits =>
      simp only [WorkStore.waits, Bool.and_eq_true, beq_iff_eq] at hwaits
      have hlive : i.status.isTerminal = false := by
        rw [hwaits.1.1.2]
        rfl
      rw [Item.givenUp?_of_live hlive]
      rfl

theorem givenUp?_of_mem_created {e : WorkEvent} {i : Item} (h : i ∈ e.created) :
    i.givenUp? = none := by
  obtain ⟨clock, fresh, request, answer⟩ := e
  cases request with
  | enqueue =>
      obtain rfl := List.mem_singleton.mp h
      rfl
  | markOwnerCancelled =>
      obtain rfl := List.mem_singleton.mp h
      rfl
  | _ => cases h

end WorkEvent

namespace WorkStore

variable {s t : WorkStore} {e : WorkEvent}

/-- The items that were given up, with their last errors. -/
def givenUp (s : WorkStore) : List (ItemId × Option String) := s.items.filterMap Item.givenUp?

theorem mem_givenUp {id : ItemId} {reason : Option String} : (id, reason) ∈ s.givenUp ↔
    ∃ i ∈ s.items, i.status = .deadLettered ∧ i.id = id ∧ i.lastError = reason := by
  simp only [givenUp, List.mem_filterMap, Item.givenUp?, Option.ite_none_right_eq_some,
    Option.some.injEq, Prod.mk.injEq]

/-- No item is given up twice. -/
theorem Distinct.nodup_givenUp (distinct : s.Distinct) : (s.givenUp.map Prod.fst).Nodup := by
  refine distinct.sublist ?_
  unfold givenUp
  induction s.items with
  | nil => exact .slnil
  | cons i rest ih =>
      rw [List.filterMap_cons, List.map_cons]
      split
      · exact ih.cons _
      · rename_i entry hentry
        obtain ⟨-, hsome⟩ := Option.ite_none_right_eq_some.mp hentry
        obtain rfl := Option.some.inj hsome
        exact ih.cons_cons _

private theorem filterMap_perm_cons {α β : Type} {f g : α → Option β} {before after : List α} {a : α}
    {b : β} (hf : f a = some b) (hg : g a = none) (hsame : ∀ x ∈ before ++ after, f x = g x) :
    ((before ++ a :: after).filterMap f).Perm (b :: (before ++ a :: after).filterMap g) := by
  have hrest : (before ++ after).filterMap f = (before ++ after).filterMap g :=
    List.filterMap_congr hsame
  have hmiddle : (before ++ a :: after).Perm (a :: (before ++ after)) := List.perm_middle
  have hfirst := hmiddle.filterMap f
  have hlast := hmiddle.filterMap g
  rw [List.filterMap_cons_some hf, hrest] at hfirst
  rw [List.filterMap_cons_none hg] at hlast
  exact hfirst.trans (hlast.symm.cons b)

/-- A settlement that counts found its item. -/
theorem Step.exists_of_settled {clock : Instant} {fresh id : ItemId} {claimer : String}
    {settlement : Settlement}
    (step : s.Step ⟨clock, fresh, .settle id claimer settlement, .ok true⟩ t) :
    ∃ i ∈ s.items, i.id = id := by
  by_contra hunknown
  push Not at hunknown
  exact (step.untouched hunknown).2 ⟨.inl ⟨claimer, settlement, rfl⟩, rfl⟩

/-- **An event adds what it gives up, and nothing else.** -/
theorem Step.givenUp_perm (step : s.Step e t) (distinct : s.Distinct) :
    t.givenUp.Perm (e.givesUp ++ s.givenUp) := by
  obtain ⟨change, hitems, hchange⟩ := step.items distinct
  have hcreated : e.created.filterMap Item.givenUp? = [] :=
    List.filterMap_eq_nil_iff.mpr fun i hi => WorkEvent.givenUp?_of_mem_created hi
  have hgivenUp : t.givenUp = s.items.filterMap fun i => (change i).givenUp? := by
    rw [givenUp, hitems, List.filterMap_append, hcreated, List.append_nil, List.filterMap_map]
    rfl
  rw [hgivenUp]
  rcases e.givesUp_cases with hnone | ⟨clock, fresh, id, claimer, reason, rfl⟩
  · rw [hnone]
    refine .of_eq (List.filterMap_congr ?_)
    intro i hi
    refine (hchange i hi).givenUp?_eq ?_
    rw [hnone]
    exact List.forall_mem_nil _
  · obtain ⟨i, hi, rfl⟩ := step.exists_of_settled
    obtain ⟨haccepts, hsettled⟩ := step.settled distinct hi rfl
    have hlive := (Item.accepts_iff.mp haccepts).1
    have hchanged : change i =
        { (Settlement.deadLetter reason).apply i with updatedAt := clock } := by
      refine (step.distinct distinct).eq ?_ hsettled (hchange i hi).id_eq
      rw [hitems]
      exact List.mem_append_left _ (List.mem_map_of_mem hi)
    obtain ⟨before, after, hsplit⟩ := List.append_of_mem hi
    have hother : ∀ k ∈ before ++ after, k ∈ s.items ∧ k.id ≠ i.id := by
      have hperm : s.items.Perm (i :: (before ++ after)) := hsplit ▸ List.perm_middle
      have hnodup := (hperm.map Item.id).nodup_iff.mp distinct
      intro k hk
      refine ⟨hperm.symm.subset (List.mem_cons_of_mem _ hk), ?_⟩
      intro hsame
      exact (List.nodup_cons.mp hnodup).1 (hsame ▸ List.mem_map_of_mem hk)
    rw [givenUp, hsplit]
    refine filterMap_perm_cons (by rw [hchanged]; rfl) (Item.givenUp?_of_live hlive) ?_
    intro k hk
    obtain ⟨hmem, hne⟩ := hother k hk
    refine (hchange k hmem).givenUp?_eq ?_
    intro entry hentry
    obtain rfl := List.mem_singleton.mp hentry
    exact hne.symm

/-! ## Holders -/

/-- **Whom an event leaves as a holder held the item before, with the same number of failed
invocations, or claimed it just now.** -/
theorem Step.of_claimedBy (step : s.Step e t) (distinct : s.Distinct) {j : Item} (hj : j ∈ t.items)
    (hlive : j.status.isTerminal = false) {claimer : String} (hclaimer : j.claimedBy = some claimer) :
    (∃ i ∈ s.items, i.id = j.id ∧ i.status.isTerminal = false ∧ i.claimedBy = some claimer ∧
        i.attempts = j.attempts) ∨
      j ∈ e.handedOut ∧ ∃ now lease batch, e.request = .claimDue j.queue now lease batch claimer := by
  rcases step.of_mem distinct hj with ⟨i, hi, hchange⟩ | hcreated
  · cases hchange with
    | kept => exact .inl ⟨j, hi, rfl, hlive, hclaimer, rfl⟩
    | refused => exact .inl ⟨i, hi, rfl, hlive, hclaimer, rfl⟩
    | leased hrequest _ hqueue _ hout =>
        obtain rfl := Option.some.inj hclaimer
        subst hqueue
        exact .inr ⟨hout, _, _, _, hrequest⟩
    | settled => cases hclaimer
    | cancelled => cases hlive
    | withdrawn => cases hlive
  · rw [(WorkEvent.fields_of_mem_created hcreated).1] at hclaimer
    cases hclaimer

/-- What a claim hands out is stored with the same queue and failed invocations. -/
theorem Step.stored_of_handedOut (step : s.Step e t) (distinct : s.Distinct) {item : Item}
    (hout : item ∈ e.handedOut) :
    ∃ j ∈ t.items, j.id = item.id ∧ j.queue = item.queue ∧ j.attempts = item.attempts := by
  obtain ⟨queue, now, lease, batch, claimer, hrequest⟩ := claim_of_mem hout
  obtain ⟨leaseEnd, -, i, hi, -, -, rfl⟩ := step.of_mem_handedOut hrequest hout
  obtain ⟨j, hj, hchange⟩ := step.exists_of_mem distinct hi
  refine ⟨j, hj, hchange.id_eq, hchange.frame.1, hchange.attempts_eq ?_⟩
  rintro ⟨⟨_, _, hsettle⟩ | hcancel, -⟩
  · rw [hrequest] at hsettle
    cases hsettle
  · rw [hrequest] at hcancel
    cases hcancel

/-! ## Failed invocations -/

/-- Whether no item has failed more often than a bound, and those that have not ended have not
reached it. -/
def Within (s : WorkStore) (bound : Nat) : Prop :=
  ∀ i ∈ s.items, i.attempts.toNat ≤ bound ∧
    (i.status.isTerminal = false → i.attempts.toNat < bound)

theorem within_empty (bound : Nat) : Within {} bound := fun _ h => nomatch h

/-- A number of failures below a bound can be counted up. -/
theorem toNat_succ {attempts : UInt32} {bound : Nat} (h : attempts.toNat < bound)
    (hbound : bound < UInt32.size) : (attempts + 1).toNat = attempts.toNat + 1 := by
  rw [UInt32.toNat_add]
  refine Nat.mod_eq_of_lt ?_
  show attempts.toNat + 1 < UInt32.size
  omega

/-- **Failed invocations stay within a bound** if a failure is recorded only for items that do not
reach the bound with it. Others may be given up. -/
theorem Step.within (step : s.Step e t) (distinct : s.Distinct) {bound : Nat} (hpos : 0 < bound)
    (hbound : bound < UInt32.size) (within : s.Within bound)
    (hrecords : ∀ id claimer error retryAt,
      e.request = .settle id claimer (.recordFailure error retryAt) →
      ∀ i ∈ s.items, i.id = id → i.accepts claimer = true → i.attempts.toNat + 1 < bound) :
    t.Within bound := by
  intro j hj
  rcases step.of_mem distinct hj with ⟨i, hi, hchange⟩ | hcreated
  · obtain ⟨hle, hlt⟩ := within i hi
    cases hchange with
    | settled hrequest hverdict haccepts =>
        rename_i claimer settlement
        have hlive := hlt (Item.accepts_iff.mp haccepts).1
        have hadd := toNat_succ hlive hbound
        cases settlement with
        | recordFailure error retryAt =>
            have hnext := hrecords _ _ _ _ hrequest i hi rfl haccepts
            rw [← hadd] at hnext
            exact ⟨Nat.le_of_lt hnext, fun _ => hnext⟩
        | deadLetter reason =>
            refine ⟨?_, fun h => by cases h⟩
            show (i.attempts + 1).toNat ≤ bound
            omega
        | _ => exact ⟨hle, fun _ => hlive⟩
    | cancelled => exact ⟨hle, fun h => by cases h⟩
    | withdrawn => exact ⟨hle, fun h => by cases h⟩
    | _ => exact ⟨hle, hlt⟩
  · rw [(WorkEvent.fields_of_mem_created hcreated).2]
    exact ⟨Nat.zero_le _, fun _ => hpos⟩

end WorkStore

end Dunning
