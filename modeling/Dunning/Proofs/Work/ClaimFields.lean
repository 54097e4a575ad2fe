import Dunning.Proofs.Work.Leases

/-!
# The claim fields of an item

A claim is written in two fields, who holds it and when its lease ends. Pending items are withdrawn
without looking at either, and settlements look at the holder alone. Both are right because the two
fields go together, because an item that has ended has neither, and because no lease ends before its
item is due: an item that waits for a later time while no lease is running has no lease at all.

## Main definitions

* `Item.ClaimSound` — what the claim fields of an item keep to.

## Main results

* `WorkEvent.Change.claimSound` — no event breaks it.
* `WorkStore.claim_fields_agree` — the claim fields in every run, and what rests on them.
-/

namespace Dunning

/-- The claim fields go together, are empty once the item has ended, and name no lease that ends
before the item is due. -/
structure Item.ClaimSound (i : Item) : Prop where
  together : i.claimedBy.isSome ↔ i.leaseEnd.isSome
  ended : i.status.isTerminal = true → i.claimedBy = none
  due : ∀ leaseEnd, i.leaseEnd = some leaseEnd → i.dueAt ≤ leaseEnd

namespace Item

theorem ClaimSound.leaseEnd_eq_none {i : Item} (sound : i.ClaimSound) :
    i.leaseEnd = none ↔ i.claimedBy = none := by
  rw [← Option.not_isSome_iff_eq_none, ← Option.not_isSome_iff_eq_none, sound.together]

theorem ClaimSound.of_none {i : Item} (hclaimed : i.claimedBy = none) (hlease : i.leaseEnd = none) :
    i.ClaimSound where
  together := by simp [hclaimed, hlease]
  ended _ := hclaimed
  due leaseEnd h := by
    rw [hlease] at h
    cases h

/-- Whoever holds the claim may settle the item: it has not ended. -/
theorem ClaimSound.accepts_eq {i : Item} (sound : i.ClaimSound) (claimer : String) :
    i.accepts claimer = (i.claimedBy == some claimer) := by
  unfold accepts
  cases hterminal : i.status.isTerminal with
  | false => rfl
  | true =>
      rw [sound.ended hterminal]
      rfl

/-- An item that waits for a later time is under no claim, not even under one that has lapsed. -/
theorem ClaimSound.unclaimed_of_waits {i : Item} (sound : i.ClaimSound) {queue owner : String}
    {now : Instant} (h : WorkStore.waits queue owner now i = true) :
    i.claimedBy = none ∧ i.leaseEnd = none := by
  simp only [WorkStore.waits, Bool.and_eq_true, beq_iff_eq, decide_eq_true_eq, Bool.not_eq_true',
    isClaimed] at h
  obtain ⟨⟨-, hlater⟩, hfree⟩ := h
  have hlease : i.leaseEnd = none := by
    cases hend : i.leaseEnd with
    | none => rfl
    | some leaseEnd =>
        -- A lease ends when the item is due or later, hence after the time of the request.
        have hdue := sound.due leaseEnd hend
        rw [hend, Option.any_some, decide_eq_false_iff_not] at hfree
        rw [Instant.le_def] at hdue hfree
        rw [Instant.lt_def] at hlater
        omega
  exact ⟨sound.leaseEnd_eq_none.mp hlease, hlease⟩

end Item

/-- No event breaks the claim fields of an item. -/
theorem WorkEvent.Change.claimSound {e : WorkEvent} {i j : Item} (h : e.Change i j)
    (sound : i.ClaimSound) : j.ClaimSound := by
  cases h with
  | kept => exact sound
  | refused => exact ⟨sound.together, sound.ended, sound.due⟩
  | @leased queue now leaseEnd lease batch claimer hrequest hend hqueue heligible =>
      simp only [Item.isEligible, Bool.and_eq_true, beq_iff_eq, decide_eq_true_eq] at heligible
      obtain ⟨⟨havailable, hdue⟩, -⟩ := heligible
      refine ⟨Iff.rfl, ?_, ?_⟩
      · intro hterminal
        simp [WorkStore.leased, havailable, ItemStatus.isTerminal] at hterminal
      · intro moment hmoment
        obtain rfl : leaseEnd = moment := Option.some.inj hmoment
        have hnow : now ≤ leaseEnd := Instant.le_of_plus? (Int.natCast_nonneg _) hend
        rw [Instant.le_def] at hdue hnow ⊢
        exact hdue.trans hnow
  | settled => exact .of_none rfl rfl
  | cancelled => exact .of_none rfl rfl
  | withdrawn _ hwaits =>
      obtain ⟨hclaimed, hlease⟩ := sound.unclaimed_of_waits hwaits
      exact .of_none hclaimed hlease

theorem WorkEvent.claimSound_of_mem_created {e : WorkEvent} {i : Item} (h : i ∈ e.created) :
    i.ClaimSound := by
  obtain ⟨clock, fresh, request, answer⟩ := e
  cases request with
  | enqueue =>
      obtain rfl := List.mem_singleton.mp h
      exact .of_none rfl rfl
  | markOwnerCancelled =>
      obtain rfl := List.mem_singleton.mp h
      exact .of_none rfl rfl
  | _ => cases h

namespace WorkStore

/-- The claim fields of every item are sound after every run from an empty store. -/
theorem Trace.claimSound {events : List WorkEvent} {s : WorkStore}
    (run : ({} : WorkStore).Trace events s) : ∀ i ∈ s.items, i.ClaimSound := by
  refine run.keeps (fun _ s => ∀ i ∈ s.items, i.ClaimSound) distinct_empty ?_ ?_
  · intro before s e t distinct sound step j hj
    rcases step.of_mem distinct hj with ⟨i, hi, hchange⟩ | hcreated
    · exact hchange.claimSound (sound i hi)
    · exact WorkEvent.claimSound_of_mem_created hcreated
  · intro i hi
    cases hi

/-- **The claim fields.** After every run from an empty store, whatever the times, the claimers and
the order of the requests: an item has a holder exactly when it has an end of its lease, an item that
has ended has neither, and no lease ends before its item is due. Therefore withdrawing what is
pending, at whatever time, leaves every item as it is or ends one that has no claim; and the holder
alone tells who may settle an item. -/
theorem claim_fields_agree {events : List WorkEvent} {s : WorkStore}
    (run : ({} : WorkStore).Trace events s) :
    (∀ i ∈ s.items,
      (i.claimedBy.isSome ↔ i.leaseEnd.isSome) ∧
        (i.status.isTerminal = true → i.claimedBy = none ∧ i.leaseEnd = none) ∧
        ∀ leaseEnd, i.leaseEnd = some leaseEnd → i.dueAt ≤ leaseEnd) ∧
      (∀ queue owner now, ∀ j ∈ (s.cancelPending queue owner now).2.items, ∃ i ∈ s.items,
        j = i ∨
          (i.claimedBy = none ∧ i.leaseEnd = none ∧ i.status = .available ∧
            j = { i with status := .cancelled, updatedAt := now })) ∧
      ∀ i ∈ s.items, ∀ claimer, i.accepts claimer = (i.claimedBy == some claimer) := by
  have sound := run.claimSound
  refine ⟨?_, ?_, fun i hi => (sound i hi).accepts_eq⟩
  · intro i hi
    have hi := sound i hi
    refine ⟨hi.together, ?_, hi.due⟩
    intro hterminal
    have hclaimed := hi.ended hterminal
    exact ⟨hclaimed, hi.leaseEnd_eq_none.mpr hclaimed⟩
  · intro queue owner now j hj
    obtain ⟨i, hi, rfl⟩ := List.mem_map.mp hj
    refine ⟨i, hi, ?_⟩
    split
    · rename_i hwaits
      obtain ⟨hclaimed, hlease⟩ := (sound i hi).unclaimed_of_waits hwaits
      simp only [waits, Bool.and_eq_true, beq_iff_eq] at hwaits
      exact .inr ⟨hclaimed, hlease, hwaits.1.1.2, rfl⟩
    · exact .inl rfl

/-- An item leased at noon for a minute: it has a holder and an end of its lease, and that is not
before it is due. -/
theorem claim_fields_agree_noon :
    ({} : WorkStore).Trace [noonCreation, noonClaim "north", noonReturn, noonClaim "south"]
        ⟨[noonItemOf "south"]⟩ ∧
      ((noonItemOf "south").claimedBy.isSome ↔ (noonItemOf "south").leaseEnd.isSome) ∧
      ∀ leaseEnd, (noonItemOf "south").leaseEnd = some leaseEnd →
        (noonItemOf "south").dueAt ≤ leaseEnd := by
  obtain ⟨hfields, -, -⟩ := claim_fields_agree trace_noon
  obtain ⟨htogether, -, hdue⟩ := hfields _ (List.mem_singleton_self _)
  exact ⟨trace_noon, htogether, hdue⟩

end WorkStore

end Dunning
