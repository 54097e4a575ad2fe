import Dunning.Proofs.Work.Trace
import Mathlib

/-!
# Leases exclude one another

Two optional fields of an item make up its lease: who holds it and until when. Ten requests read,
set or clear them. The law that they keep together is about runs: between two claims that hand out
one item, either the first lease has ended or its holder gave the item back.

The invariant is `Held`: since its last claim an item has either ended or still shows that claim. It
survives every event but the two that the law names.

## Main results

* `Held.step` — one event keeps the lease, or it is a later claim or the holder's own settlement.
* `claims_exclude_each_other` — the law, over all runs.
-/

namespace Dunning

/-- Whether an event hands an item out, at a time and for a lease, to a claimer. -/
def WorkEvent.HandsOut (e : WorkEvent) (id : ItemId) (now : Instant) (lease : Span)
    (claimer : String) : Prop :=
  id ∈ e.handedOut.map Item.id ∧
    ∃ queue batch, e.request = .claimDue queue now lease batch claimer

/-- Whether a settlement leaves an item to be claimed again. -/
def Settlement.isReturn : Settlement → Bool
  | .release => true
  | .reschedule _ => true
  | .recordFailure .. => true
  | .complete => false
  | .deadLetter _ => false

/-- Whether an event gives an item back on behalf of a claimer, and counts. -/
def WorkEvent.GivesBack (e : WorkEvent) (id : ItemId) (claimer : String) : Prop :=
  e.verdict? = some true ∧
    ∃ settlement : Settlement, settlement.isReturn = true ∧
      e.request = .settle id claimer settlement

/-- An item that has ended or is under the lease of a claimer until a moment. -/
def Item.EndedOrHeld (i : Item) (claimer : String) (leaseEnd : Instant) : Prop :=
  i.status.isTerminal = true ∨ i.claimedBy = some claimer ∧ i.leaseEnd = some leaseEnd

/-- A settlement without a return ends the item. -/
theorem Settlement.isTerminal_apply {settlement : Settlement} (h : settlement.isReturn = false)
    (i : Item) : (settlement.apply i).status.isTerminal = true := by
  cases settlement with
  | complete => rfl
  | deadLetter => rfl
  | release => simp [isReturn] at h
  | reschedule => simp [isReturn] at h
  | recordFailure => simp [isReturn] at h

namespace WorkStore

/-- The item of an identifier is there, and has ended or is under a lease. -/
structure Held (s : WorkStore) (id : ItemId) (claimer : String) (leaseEnd : Instant) : Prop where
  present : ∃ i ∈ s.items, i.id = id
  held : ∀ i ∈ s.items, i.id = id → i.EndedOrHeld claimer leaseEnd

/-- An item that is under a lease is not eligible before the lease has ended. -/
theorem lt_of_isEligible {i : Item} {claimer : String} {leaseEnd now : Instant}
    (held : i.EndedOrHeld claimer leaseEnd) (heligible : i.isEligible now = true) :
    leaseEnd < now := by
  simp only [Item.isEligible, Bool.and_eq_true, beq_iff_eq, Item.isClaimed] at heligible
  obtain ⟨⟨havailable, -⟩, hfree⟩ := heligible
  rcases held with hended | ⟨-, hlease⟩
  · rw [havailable] at hended
    simp [ItemStatus.isTerminal] at hended
  · rw [hlease] at hfree
    simp only [Option.any_some, Bool.not_eq_true', decide_eq_false_iff_not] at hfree
    rw [Instant.le_def] at hfree
    rw [Instant.lt_def]
    omega

/-- A claim puts an item that it hands out under its lease. -/
theorem Step.held {s t : WorkStore} {e : WorkEvent} (step : s.Step e t) {id : ItemId}
    {now : Instant} {lease : Span} {claimer : String} (h : e.HandsOut id now lease claimer) :
    ∃ leaseEnd, now.plus? lease.asDelay = some leaseEnd ∧ t.Held id claimer leaseEnd := by
  obtain ⟨hid, queue, batch, hrequest⟩ := h
  obtain ⟨leaseEnd, hend, hout, rfl⟩ := step.handedOut_eq hrequest
  have htaken : (((s.claimable queue now).take batch).any fun j => j.id == id) = true := by
    rw [hout, List.map_map] at hid
    obtain ⟨j, hj, hjid⟩ := List.mem_map.mp hid
    exact List.any_eq_true.mpr ⟨j, hj, beq_iff_eq.mpr hjid⟩
  refine ⟨leaseEnd, hend, ?_, ?_⟩
  · obtain ⟨j, hj, hjid⟩ := List.any_eq_true.mp htaken
    have hmem := (mem_claimable.mp (List.mem_of_mem_take hj)).1
    refine ⟨_, List.mem_map_of_mem hmem, ?_⟩
    split <;> exact beq_iff_eq.mp hjid
  · intro j hj hjid
    obtain ⟨i, -, rfl⟩ := List.mem_map.mp hj
    split at hjid
    · rw [if_pos ‹_›]
      exact .inr ⟨rfl, rfl⟩
    · rename_i hnot
      subst hjid
      exact absurd htaken hnot

/-- **One event and a lease.** A later claim hands the item out, or the holder gives it back, or the
lease stays as it is and the item is not handed out. -/
theorem Held.step {s t : WorkStore} {e : WorkEvent} {id : ItemId} {claimer : String}
    {leaseEnd : Instant} (held : s.Held id claimer leaseEnd) (step : s.Step e t)
    (distinct : s.Distinct) :
    (∃ now lease other, e.HandsOut id now lease other ∧ leaseEnd < now) ∨
      e.GivesBack id claimer ∨
      (id ∉ e.handedOut.map Item.id ∧ t.Held id claimer leaseEnd) := by
  by_cases hout : id ∈ e.handedOut.map Item.id
  · left
    obtain ⟨j, hj, hjid⟩ := List.mem_map.mp hout
    obtain ⟨queue, now, lease, batch, other, hrequest⟩ := Step.claim_of_mem hj
    obtain ⟨_, -, i, hi, -, heligible, rfl⟩ := step.of_mem_handedOut hrequest hj
    exact ⟨now, lease, other, ⟨hout, queue, batch, hrequest⟩,
      lt_of_isEligible (held.held i hi hjid) heligible⟩
  · right
    by_cases hback : e.GivesBack id claimer
    · exact .inl hback
    · refine .inr ⟨hout, ?_, ?_⟩
      · obtain ⟨i, hi, hiid⟩ := held.present
        obtain ⟨j, hj, hchange⟩ := step.exists_of_mem distinct hi
        exact ⟨j, hj, hchange.id_eq.trans hiid⟩
      · intro j hj hjid
        rcases step.of_mem distinct hj with ⟨i, hi, hchange⟩ | hcreated
        · have hiid : i.id = id := hchange.id_eq.symm.trans hjid
          have hbefore := held.held i hi hiid
          cases hchange with
          | kept => exact hbefore
          | refused => exact hbefore
          | leased _ _ _ _ hmem =>
              exact absurd (List.mem_map.mpr ⟨_, hmem, hiid⟩) hout
          | @settled other settlement hrequest hverdict haccepts =>
              -- Only the holder can settle, and without a return the item has ended.
              have hholder : other = claimer := by
                rcases hbefore with hended | ⟨hclaimed, -⟩
                · simp [Item.accepts, hended] at haccepts
                · simp only [Item.accepts, hclaimed, Bool.and_eq_true, beq_iff_eq,
                    Option.some.injEq] at haccepts
                  exact haccepts.2.symm
              cases hreturn : settlement.isReturn with
              | true =>
                  rw [hholder, hiid] at hrequest
                  exact absurd ⟨hverdict, settlement, hreturn, hrequest⟩ hback
              | false => exact .inl (Settlement.isTerminal_apply hreturn i)
          | cancelled => exact .inl rfl
          | withdrawn => exact .inl rfl
        · obtain ⟨i, hi, hiid⟩ := held.present
          have hfresh := WorkEvent.fresh_of_mem_created hcreated
          exact absurd (hiid.trans (hjid.symm.trans hfresh)) (step.unused i hi)

/-- A lease over a run: when the item is handed out again, the lease has ended or its holder gave the
item back on the way. -/
theorem Held.run {s t : WorkStore} {between : List WorkEvent} {id : ItemId} {claimer : String}
    {leaseEnd : Instant} (run : s.Trace between t) (held : s.Held id claimer leaseEnd)
    (distinct : s.Distinct) (hbetween : ∀ e ∈ between, id ∉ e.handedOut.map Item.id) :
    t.Held id claimer leaseEnd ∨ ∃ e ∈ between, e.GivesBack id claimer := by
  induction run with
  | nil => exact .inl held
  | cons step run ih =>
      rcases held.step step distinct with ⟨_, _, _, hout, -⟩ | hback | ⟨-, hheld⟩
      · exact absurd hout.1 (hbetween _ List.mem_cons_self)
      · exact .inr ⟨_, List.mem_cons_self, hback⟩
      · have hrest := ih hheld (step.distinct distinct) fun e he =>
          hbetween e (List.mem_cons_of_mem _ he)
        rcases hrest with hlast | ⟨e, he, hback⟩
        · exact .inl hlast
        · exact .inr ⟨e, List.mem_cons_of_mem _ he, hback⟩

/-- **Leases exclude one another.** In every run from an empty store, whatever the order, the
claimers and the times: no claim hands an item out twice; and when an item is handed out by two
claims and by none between them, then the second comes after the first lease has ended, or the
holder of the first released, rescheduled or failed the item on the way, and that counted. Leases
are those of at most `2 ^ 63 - 1` milliseconds; a longer one counts as none. -/
theorem claims_exclude_each_other {events : List WorkEvent} {s : WorkStore}
    (run : ({} : WorkStore).Trace events s) :
    (∀ e ∈ events, (e.handedOut.map Item.id).Nodup) ∧
      ∀ (before between after : List WorkEvent) (first second : WorkEvent) (id : ItemId)
        (now₁ now₂ : Instant) (lease₁ lease₂ : Span) (holder claimer : String),
        events = before ++ first :: (between ++ second :: after) →
        first.HandsOut id now₁ lease₁ holder → second.HandsOut id now₂ lease₂ claimer →
        (∀ e ∈ between, id ∉ e.handedOut.map Item.id) →
        lease₁.nanos ≤ 9223372036854775807 * nanosPerMilli →
        (∃ leaseEnd, now₁.plus? lease₁.nanos = some leaseEnd ∧ leaseEnd < now₂) ∨
          ∃ e ∈ between, e.GivesBack id holder := by
  constructor
  · intro e he
    obtain ⟨before, after, rfl⟩ := List.append_of_mem he
    obtain ⟨t, hbefore, hafter⟩ := Trace.append_iff.mp run
    obtain ⟨u, step, -⟩ := Trace.cons_iff.mp hafter
    exact step.nodup_handedOut (hbefore.distinct distinct_empty)
  · intro before between after first second id now₁ now₂ lease₁ lease₂ holder claimer hevents
      hfirst hsecond hbetween hlease
    subst hevents
    obtain ⟨s₁, hbefore, hrest⟩ := Trace.append_iff.mp run
    obtain ⟨s₂, step₁, hrest⟩ := Trace.cons_iff.mp hrest
    obtain ⟨s₃, run₂, hrest⟩ := Trace.append_iff.mp hrest
    obtain ⟨s₄, step₂, -⟩ := Trace.cons_iff.mp hrest
    have distinct₁ : s₁.Distinct := hbefore.distinct distinct_empty
    have distinct₂ : s₂.Distinct := step₁.distinct distinct₁
    obtain ⟨leaseEnd, hend, hheld⟩ := step₁.held hfirst
    have hdelay : lease₁.asDelay = lease₁.nanos := if_pos hlease
    rw [hdelay] at hend
    rcases Held.run run₂ hheld distinct₂ hbetween with hheld₃ | hback
    · obtain ⟨hid, queue, batch, hrequest⟩ := hsecond
      obtain ⟨j, hj, hjid⟩ := List.mem_map.mp hid
      obtain ⟨_, -, i, hi, -, heligible, rfl⟩ := step₂.of_mem_handedOut hrequest hj
      exact .inl ⟨leaseEnd, hend, lt_of_isEligible (hheld₃.held i hi hjid) heligible⟩
    · exact .inr hback

/-! ### An item that is given back before its lease has ended -/

/-- The item of the run below, as it is created. -/
def noonItem : Item := Item.ofNew ⟨Uuid.ofNat 1⟩ ⟨"queue", "owner", .noon, .null⟩ .noon

/-- The item under a lease of a minute. -/
def noonItemOf (claimer : String) : Item :=
  leased claimer ((Instant.noon.plus? (Span.ofSecs 60).asDelay).getD .noon) .noon noonItem

/-- A claim of a minute that hands the item out. -/
def noonClaim (claimer : String) : WorkEvent :=
  ⟨.noon, ⟨Uuid.ofNat 2⟩, .claimDue "queue" .noon (Span.ofSecs 60) 1 claimer,
    .ok [noonItemOf claimer]⟩

/-- The item is given back by its first holder. -/
def noonReturn : WorkEvent :=
  ⟨.noon, ⟨Uuid.ofNat 2⟩, .settle noonItem.id "north" .release, .ok true⟩

/-- The item is created. -/
def noonCreation : WorkEvent :=
  ⟨.noon, noonItem.id, .enqueue ⟨"queue", "owner", .noon, .null⟩, .ok noonItem.id⟩

/-- The item is leased, given back and leased again at once. -/
theorem trace_noon : ({} : WorkStore).Trace
    [noonCreation, noonClaim "north", noonReturn, noonClaim "south"] ⟨[noonItemOf "south"]⟩ := by
  refine .cons (t := ⟨[noonItem]⟩) ⟨by simp, rfl⟩ ?_
  refine .cons (t := ⟨[noonItemOf "north"]⟩) ⟨by simp; decide, by cbv⟩ ?_
  refine .cons (t := ⟨[noonItem]⟩) ⟨by simp; decide, by cbv⟩ ?_
  exact .cons ⟨by simp; decide, by cbv⟩ .nil

/-- In that run the first holder gave the item back between the two claims. -/
theorem claims_exclude_each_other_noon :
    ({} : WorkStore).Trace [noonCreation, noonClaim "north", noonReturn, noonClaim "south"]
        ⟨[noonItemOf "south"]⟩ ∧
      ((∃ leaseEnd, Instant.noon.plus? (Span.ofSecs 60).nanos = some leaseEnd ∧
          leaseEnd < .noon) ∨
        ∃ e ∈ [noonReturn], e.GivesBack noonItem.id "north") := by
  refine ⟨trace_noon, ?_⟩
  have hclaim (claimer : String) :
      (noonClaim claimer).HandsOut noonItem.id .noon (Span.ofSecs 60) claimer :=
    ⟨List.mem_singleton_self _, "queue", 1, rfl⟩
  refine (claims_exclude_each_other trace_noon).2 [noonCreation] [noonReturn] [] _ _ _ _ _ _ _ _ _
    rfl (hclaim "north") (hclaim "south") ?_ (by decide)
  intro e he
  obtain rfl := List.mem_singleton.mp he
  exact List.not_mem_nil

end WorkStore

end Dunning
