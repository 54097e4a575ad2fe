import Dunning.Proofs.Overdue.Offences

/-!
# Accounts that a state leaves out

A state whose condition holds of every account takes all of them in, and no account is clear any
more. The check refuses a condition without criteria for that reason. A threshold of zero is a
criterion as well, and every account reaches it.

Three kinds of accounts decide the question: the one with nothing owed, no tag and no payment method
fails every other criterion except two, and one with a payment method or with a single tag fails
those.

## Main definitions

* `Condition.OnlyZeroThresholds` — nothing is asked of an account beyond thresholds of zero.

## Main results

* `Condition.exists_not_holds_iff` — which conditions leave an account out.
* `StateSet.states_leave_accounts_out` — which states of a checked set leave an account out.
* `StateSet.zero_threshold_takes_every_account` — a set is accepted with a state that leaves none
  out.
-/

namespace Dunning

namespace Condition

/-- Nothing is asked of an account beyond thresholds, and those are zero. -/
structure OnlyZeroThresholds (c : Condition) : Prop where
  days : ∀ n ∈ c.daysOverdueAtLeast, n = 0
  invoices : ∀ n ∈ c.unpaidInvoicesAtLeast, n = 0
  balance : ∀ n ∈ c.unpaidBalanceAtLeast, n = 0
  noTagAsked : c.tagsInclude = []
  noTagBarred : c.tagsExclude = []
  noMethodAsked : c.paymentMethodMissing = none
  noFailureAsked : c.lastFailureIn = []

/-- Every account reaches thresholds of zero. -/
theorem OnlyZeroThresholds.holds {c : Condition} (h : c.OnlyZeroThresholds) (f : AccountFacts) :
    c.holds f = true := by
  have hmethod : ∀ missing ∈ c.paymentMethodMissing, missing = !f.paymentMethodPresent := by
    simp [h.noMethodAsked]
  refine (c.holds_iff f).mpr ⟨?_, ?_, ?_, by simp [h.noTagAsked], by simp [h.noTagBarred], hmethod,
    .inl h.noFailureAsked⟩
  · intro n hn
    exact h.days n hn ▸ UInt32.zero_le
  · intro n hn
    exact h.invoices n hn ▸ UInt32.zero_le
  · intro n hn
    exact h.balance n hn ▸ UInt64.zero_le

/-- A condition that holds of the account with nothing at all, of the one that only has a payment
method, and of those with a single tag, asks for nothing but thresholds of zero. -/
theorem OnlyZeroThresholds.of_holds {c : Condition} (hnothing : c.holds {} = true)
    (hmethod : c.holds { paymentMethodPresent := true } = true)
    (htag : ∀ tag, c.holds { tags := [tag] } = true) : c.OnlyZeroThresholds := by
  -- The first account settles all but barred tags, and half of the payment method.
  rw [holds_iff] at hnothing hmethod
  obtain ⟨hdays, hinvoices, hbalance, hinclude, -, hmissing, hfailure⟩ := hnothing
  obtain ⟨-, -, -, -, -, hpresent, -⟩ := hmethod
  refine ⟨fun n hn => UInt32.le_zero_iff.mp (hdays n hn),
    fun n hn => UInt32.le_zero_iff.mp (hinvoices n hn),
    fun n hn => UInt64.le_zero_iff.mp (hbalance n hn), ?_, ?_, ?_, ?_⟩
  · refine List.eq_nil_iff_forall_not_mem.mpr ?_
    intro tag hmem
    exact List.not_mem_nil (hinclude tag hmem)
  · refine List.eq_nil_iff_forall_not_mem.mpr ?_
    intro tag hmem
    obtain ⟨-, -, -, -, hexclude, -⟩ := (c.holds_iff _).mp (htag tag)
    exact hexclude tag hmem List.mem_cons_self
  · refine Option.eq_none_iff_forall_not_mem.mpr ?_
    intro missing hmem
    cases (hmissing missing hmem).symm.trans (hpresent missing hmem)
  · rcases hfailure with hnone | ⟨failure, -, hlast⟩
    · exact hnone
    · cases hlast

/-- Which conditions leave out an account: all that ask for more than thresholds of zero. -/
theorem exists_not_holds_iff (c : Condition) :
    (∃ f : AccountFacts, AccountFacts.tagSet f.tags = f.tags ∧ c.holds f = false) ↔
      ¬ c.OnlyZeroThresholds := by
  constructor
  · rintro ⟨f, -, hfalse⟩ hzero
    rw [hzero.holds f] at hfalse
    cases hfalse
  · intro hmore
    by_contra hnone
    have hall : ∀ f : AccountFacts, AccountFacts.tagSet f.tags = f.tags → c.holds f = true := by
      intro f htags
      by_contra hfalse
      exact hnone ⟨f, htags, Bool.eq_false_iff.mpr hfalse⟩
    exact hmore (.of_holds (hall {} rfl) (hall { paymentMethodPresent := true } rfl)
      fun tag => hall { tags := [tag] } rfl)

/-- Of thresholds of zero one at least is set, unless there is no criterion. -/
theorem OnlyZeroThresholds.exists_zero {c : Condition} (h : c.OnlyZeroThresholds) (hset : c ≠ {}) :
    c.daysOverdueAtLeast = some 0 ∨ c.unpaidInvoicesAtLeast = some 0 ∨
      c.unpaidBalanceAtLeast = some 0 := by
  obtain ⟨days, invoices, balance, tagsAsked, tagsBarred, method, failures⟩ := c
  obtain ⟨hdays, hinvoices, hbalance, rfl, rfl, rfl, rfl⟩ := h
  cases days with
  | some n => exact .inl (congrArg some (hdays n rfl))
  | none =>
      cases invoices with
      | some n => exact .inr (.inl (congrArg some (hinvoices n rfl)))
      | none =>
          cases balance with
          | some n => exact .inr (.inr (congrArg some (hbalance n rfl)))
          | none => exact absurd rfl hset

end Condition

namespace StateSet

/-- What a text is read as was built from states. -/
theorem exists_build?_of_ofText? {version : UInt64} {text : String} {set : StateSet}
    (h : ofText? version text = .ok set) : ∃ states, build? version states = .ok set := by
  unfold ofText? at h
  split at h
  · exact ⟨_, h⟩
  · cases h

/-- A state that every account reaches takes all of them in or comes behind one that does. -/
theorem resolve_ne_none {set : StateSet} {d : StateDef} (hd : d ∈ set.states)
    (h : ∀ facts, d.condition.holds facts = true) (facts : AccountFacts) :
    set.resolve facts ≠ none := by
  intro hnone
  exact List.find?_eq_none.mp hnone d hd (h facts)

/-- **No state takes every account**, as far as the check goes. A state of a set that was built, or
read from a text, leaves out an account exactly when it asks for more than thresholds of zero. One
that does not has such a threshold, and then no account is clear. -/
theorem states_leave_accounts_out {version : UInt64} {set : StateSet} {d : StateDef}
    (hset : (∃ states, build? version states = .ok set) ∨ ∃ text, ofText? version text = .ok set)
    (hd : d ∈ set.states) :
    ((∃ facts : AccountFacts,
        AccountFacts.tagSet facts.tags = facts.tags ∧ d.condition.holds facts = false) ↔
      ¬ d.condition.OnlyZeroThresholds) ∧
    (d.condition.OnlyZeroThresholds →
      (d.condition.daysOverdueAtLeast = some 0 ∨ d.condition.unpaidInvoicesAtLeast = some 0 ∨
        d.condition.unpaidBalanceAtLeast = some 0) ∧
      ∀ facts, set.resolve facts ≠ none) := by
  have hbuilt : ∃ states, build? version states = .ok set := by
    rcases hset with hbuilt | ⟨text, htext⟩
    · exact hbuilt
    · exact exists_build?_of_ofText? htext
  obtain ⟨states, hbuilt⟩ := hbuilt
  obtain ⟨hacceptable, rfl⟩ := build?_eq_ok_iff.mp hbuilt
  refine ⟨d.condition.exists_not_holds_iff, fun hzero => ⟨?_, resolve_ne_none hd hzero.holds⟩⟩
  exact hzero.exists_zero (hacceptable.conditional d hd)

/-- The second tier asks for a threshold above zero, and so it leaves out an account. -/
theorem states_leave_accounts_out_tiers :
    build? 7 tiers = .ok ⟨7, tiers⟩ ∧ ∃ d ∈ tiers, d.name = "OD2" ∧
      ∃ facts : AccountFacts,
        AccountFacts.tagSet facts.tags = facts.tags ∧ d.condition.holds facts = false := by
  have hbuilt : build? 7 tiers = .ok ⟨7, tiers⟩ := rfl
  have hd : tiers[1] ∈ (⟨7, tiers⟩ : StateSet).states := List.getElem_mem (by decide)
  refine ⟨hbuilt, tiers[1], hd, rfl, ?_⟩
  refine (states_leave_accounts_out (.inl ⟨tiers, hbuilt⟩) hd).1.mpr ?_
  intro hzero
  exact absurd (hzero.days 30 rfl) (by decide)

/-- A document with a threshold of zero days. -/
def gracelessDocument : String :=
  "\x7b\"states\":[\x7b\"name\":\"OD1\",\"condition\":\x7b\"days_overdue_at_least\":0\x7d\x7d]\x7d"

/-- The state of that document. -/
def gracelessState : StateDef := { name := "OD1", condition := .daysOverdue 0 }

/-- The check accepts a threshold of zero as a criterion, so a state that every account reaches is
configured and no account is clear. -/
theorem zero_threshold_takes_every_account :
    ofText? 1 gracelessDocument = .ok ⟨1, [gracelessState]⟩ ∧
      build? 1 [gracelessState] = .ok ⟨1, [gracelessState]⟩ ∧
      ∀ facts, gracelessState.condition.holds facts = true ∧
        resolve ⟨1, [gracelessState]⟩ facts = some gracelessState := by
  have hread : (Node.parse? gracelessDocument).bind decodeStates? = some [gracelessState] := by
    decide +kernel
  have hzero : gracelessState.condition.OnlyZeroThresholds := by
    constructor <;> simp [gracelessState, Condition.daysOverdue]
  refine ⟨?_, rfl, fun facts => ⟨hzero.holds facts, ?_⟩⟩
  · rw [ofText?, hread]
    rfl
  · exact List.find?_cons_of_pos (hzero.holds facts)

end StateSet

end Dunning
