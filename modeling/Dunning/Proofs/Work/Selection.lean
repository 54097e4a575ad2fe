import Dunning.Proofs.Work.Lifecycle

/-!
# What a claim selects

A claim goes through all the items of the store, keeps those of its queue that may be handed out, and
takes the first of them in an order on three keys: when they are due, when they were created and, so
that no two items are equal in it, their identifiers. What it takes it also writes back. The law says
all of this at once: the selection is the beginning of one ordered list of exactly the items that may
be handed out, the copies handed out are the items as they are stored afterwards, and nothing else is
touched.

## Main definitions

* `Item.ClaimableAt` — when an item may be handed out.
* `Item.Precedes` — the order in which items are handed out.

## Main results

* `WorkStore.claimable_pairwise` — the candidates of a claim are in that order.
* `WorkStore.get?_claimUntil` — how a claim leaves every item of the store.
* `WorkStore.claim_selects_first` — the law of the selection.
-/

namespace Dunning

namespace Item

/-- Whether an item may be handed out by a claim of a queue at a time. -/
structure ClaimableAt (i : Item) (queue : String) (now : Instant) : Prop where
  queue_eq : i.queue = queue
  available : i.status = .available
  due : i.dueAt ≤ now
  /-- A lease is over only after its last moment. -/
  free : ∀ leaseEnd, i.leaseEnd = some leaseEnd → leaseEnd < now

/-- Whether an item is handed out before another: it is due earlier, or due at the same time and created
earlier, or both at the same time and of smaller identifier. -/
def Precedes (a b : Item) : Prop :=
  a.dueAt < b.dueAt ∨ a.dueAt = b.dueAt ∧
    (a.createdAt < b.createdAt ∨ a.createdAt = b.createdAt ∧ a.id.uuid.toNat < b.id.uuid.toNat)

theorem isEligible_iff {i : Item} {now : Instant} :
    i.isEligible now = true ↔ i.ClaimableAt i.queue now := by
  have hfree : (!i.isClaimed now) = true ↔
      ∀ leaseEnd, i.leaseEnd = some leaseEnd → leaseEnd < now := by
    cases hlease : i.leaseEnd with
    | none => simp [isClaimed, hlease]
    | some leaseEnd =>
        simp only [isClaimed, hlease, Option.any_some, Bool.not_eq_true', decide_eq_false_iff_not,
          Option.some.injEq, forall_eq']
        rw [Instant.le_def, Instant.lt_def, Int.not_le]
  unfold isEligible
  rw [Bool.and_eq_true, Bool.and_eq_true, beq_iff_eq, decide_eq_true_eq, hfree]
  constructor
  · rintro ⟨⟨havailable, hdue⟩, hover⟩
    exact ⟨rfl, havailable, hdue, hover⟩
  · intro h
    exact ⟨⟨h.available, h.due⟩, h.free⟩

end Item

namespace WorkStore

/-! ## The order of the candidates -/

/-- The order of claims, as a statement about the positions of the times and the numbers of the
identifiers. -/
theorem claimedBefore_iff {a b : Item} : claimedBefore a b = true ↔
    a.dueAt.rank < b.dueAt.rank ∨ a.dueAt.rank = b.dueAt.rank ∧
      (a.createdAt.rank < b.createdAt.rank ∨ a.createdAt.rank = b.createdAt.rank ∧
        a.id.uuid.toNat ≤ b.id.uuid.toNat) := by
  simp only [claimedBefore, Bool.or_eq_true, Bool.and_eq_true, decide_eq_true_eq, Instant.lt_def,
    Instant.eq_iff_rank]

theorem claimedBefore_trans (a b c : Item) (hab : claimedBefore a b = true)
    (hbc : claimedBefore b c = true) : claimedBefore a c = true := by
  rw [claimedBefore_iff] at hab hbc ⊢
  omega

theorem claimedBefore_total (a b : Item) : (claimedBefore a b || claimedBefore b a) = true := by
  rw [Bool.or_eq_true, claimedBefore_iff, claimedBefore_iff]
  omega

/-- Different items are never equal in the order of claims. -/
theorem precedes_of_claimedBefore {a b : Item} (h : claimedBefore a b = true) (hne : a.id ≠ b.id) :
    a.Precedes b := by
  have hnumber : a.id.uuid.toNat ≠ b.id.uuid.toNat := by
    intro heq
    exact hne (ItemId.ext_toNat heq)
  rw [claimedBefore_iff] at h
  simp only [Item.Precedes, Instant.lt_def, Instant.eq_iff_rank]
  omega

/-- The candidates of a claim stand in the order in which they are handed out. -/
theorem claimable_pairwise {s : WorkStore} (distinct : s.Distinct) (queue : String) (now : Instant) :
    (s.claimable queue now).Pairwise Item.Precedes := by
  have hsorted : (s.claimable queue now).Pairwise fun a b => claimedBefore a b = true :=
    List.pairwise_mergeSort claimedBefore_trans claimedBefore_total _
  have hdifferent : (s.claimable queue now).Pairwise fun a b => a.id ≠ b.id :=
    List.pairwise_map.mp (distinct.claimable queue now)
  exact (hsorted.and hdifferent).imp fun h => precedes_of_claimedBefore h.1 h.2

/-- The candidates of a claim are the items that may be handed out. -/
theorem mem_claimable_iff_claimableAt {s : WorkStore} {queue : String} {now : Instant} {i : Item} :
    i ∈ s.claimable queue now ↔ i ∈ s.items ∧ i.ClaimableAt queue now := by
  rw [mem_claimable, Item.isEligible_iff]
  constructor
  · rintro ⟨hmem, rfl, hclaimable⟩
    exact ⟨hmem, hclaimable⟩
  · rintro ⟨hmem, hclaimable⟩
    obtain rfl := hclaimable.queue_eq
    exact ⟨hmem, rfl, hclaimable⟩

/-! ## The store after a claim -/

/-- A claim leases the items whose identifiers it took, and leaves the others as they are. -/
theorem get?_claimUntil (s : WorkStore) (queue : String) (now leaseEnd : Instant) (batch : Nat)
    (claimer : String) (id : ItemId) :
    (s.claimUntil queue now leaseEnd batch claimer).2.get? id =
      if id ∈ ((s.claimable queue now).take batch).map Item.id then
        (s.get? id).map (leased claimer leaseEnd now)
      else s.get? id := by
  have hnames : ∀ i, (if ((s.claimable queue now).take batch).any fun t => t.id == i.id then
      leased claimer leaseEnd now i else i).id = i.id := by
    intro i
    split <;> rfl
  rw [claimUntil, get?_map s hnames]
  cases hfound : s.get? id with
  | none => rw [Option.map_none, Option.map_none, ite_self]
  | some i =>
      obtain rfl : i.id = id := by simpa using List.find?_some hfound
      simp only [Option.map_some, List.any_eq_true, List.mem_map, beq_iff_eq]
      split <;> rfl

/-- A claim adds and removes nothing. -/
theorem ids_claimUntil (s : WorkStore) (queue : String) (now leaseEnd : Instant) (batch : Nat)
    (claimer : String) :
    (s.claimUntil queue now leaseEnd batch claimer).2.items.map Item.id = s.items.map Item.id := by
  rw [claimUntil, List.map_map]
  refine List.map_congr_left ?_
  intro i _
  simp only [Function.comp_apply, apply_ite Item.id, leased, ite_self]

/-- **What a claim selects.** In every store, and whenever the lease has an end in the calendar, there is
one list of exactly the items that may be handed out, each before the next in the order of due time,
creation time and identifier. The claim hands out the beginning of that list, as many items as the batch
allows, each changed in nothing but its holder, the end of its lease and the time of its last touch. The
store afterwards has just these copies under their identifiers, has under every other identifier what it
had before, and has no item more or less. -/
theorem claim_selects_first {s : WorkStore} (distinct : s.Distinct) {now leaseEnd : Instant}
    {lease : Span} (hend : now.plus? lease.nanos = some leaseEnd) (clock : Instant) (fresh : ItemId)
    (queue : String) (batch : Nat) (claimer : String) :
    ∃ (order : List Item) (t : WorkStore),
      order.Pairwise Item.Precedes ∧
      (∀ i, i ∈ order ↔ i ∈ s.items ∧ i.ClaimableAt queue now) ∧
      s.respond clock fresh (.claimDue queue now lease batch claimer) =
        some (.ok ((order.take batch).map fun i =>
          { i with claimedBy := some claimer, leaseEnd := some leaseEnd, updatedAt := now }), t) ∧
      (∀ i ∈ order.take batch, t.get? i.id =
        some { i with claimedBy := some claimer, leaseEnd := some leaseEnd, updatedAt := now }) ∧
      (∀ id, id ∉ (order.take batch).map Item.id → t.get? id = s.get? id) ∧
      t.items.map Item.id = s.items.map Item.id := by
  have hresponds : s.respond clock fresh (.claimDue queue now lease batch claimer) =
      some (.ok (s.claimUntil queue now leaseEnd batch claimer).1,
        (s.claimUntil queue now leaseEnd batch claimer).2) := by
    simp only [respond, claim, Span.asDelay_eq_of_plus? hend, hend, Option.map_some]
  refine ⟨s.claimable queue now, (s.claimUntil queue now leaseEnd batch claimer).2,
    claimable_pairwise distinct queue now, fun i => mem_claimable_iff_claimableAt, hresponds, ?_, ?_,
    s.ids_claimUntil queue now leaseEnd batch claimer⟩
  · intro i hi
    have hmem : i ∈ s.items := (mem_claimable.mp (List.mem_of_mem_take hi)).1
    rw [get?_claimUntil, if_pos (List.mem_map_of_mem hi), distinct.get?_eq hmem]
    rfl
  · intro id hid
    rw [get?_claimUntil, if_neg hid]

/-! ### Two items of the same moment -/

/-- Another item due and created at the same moment, of smaller identifier. -/
def noonTwin : Item := { noonItem with id := ⟨Uuid.ofNat 0⟩ }

/-- A minute after noon. -/
def noonLeaseEnd : Instant := (Instant.noon.plus? (Span.ofSecs 60).nanos).getD .noon

/-- A claim of one item of the two. -/
theorem claim_selects_first_twins :
    (⟨[noonItem, noonTwin]⟩ : WorkStore).Distinct ∧
      Instant.noon.plus? (Span.ofSecs 60).nanos = some noonLeaseEnd ∧
      ∃ (order : List Item) (t : WorkStore),
        order.Pairwise Item.Precedes ∧
        (∀ i, i ∈ order ↔ i ∈ [noonItem, noonTwin] ∧ i.ClaimableAt "queue" .noon) ∧
        (⟨[noonItem, noonTwin]⟩ : WorkStore).respond .noon ⟨Uuid.ofNat 2⟩
            (.claimDue "queue" .noon (Span.ofSecs 60) 1 "north") =
          some (.ok ((order.take 1).map fun i =>
            { i with
              claimedBy := some "north", leaseEnd := some noonLeaseEnd, updatedAt := .noon }), t) ∧
        t.items.map Item.id = [⟨Uuid.ofNat 1⟩, ⟨Uuid.ofNat 0⟩] := by
  have hdistinct : (⟨[noonItem, noonTwin]⟩ : WorkStore).Distinct := by
    show [(⟨Uuid.ofNat 1⟩ : ItemId), ⟨Uuid.ofNat 0⟩].Nodup
    decide
  have hend : Instant.noon.plus? (Span.ofSecs 60).nanos = some noonLeaseEnd := by decide
  obtain ⟨order, t, hordered, hmem, hresponds, -, -, hids⟩ :=
    claim_selects_first hdistinct hend .noon ⟨Uuid.ofNat 2⟩ "queue" 1 "north"
  exact ⟨hdistinct, hend, order, t, hordered, hmem, hresponds, hids⟩

/-- The smaller identifier goes first, whatever the order of creation. -/
example : (⟨[noonItem, noonTwin]⟩ : WorkStore).claimable "queue" .noon = [noonTwin, noonItem] := by
  cbv

end WorkStore

end Dunning
