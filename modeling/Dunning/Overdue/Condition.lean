import Dunning.Overdue.Facts

/-!
# Conditions on accounts

A condition is a list of optional criteria. Each criterion that is set has to hold; one that is not
set says nothing. A condition without any criterion holds of every account.

## Main definitions

* `Condition` — the criteria.
* `Condition.holds` — whether an account meets them.
* `Condition.isEmpty` — whether no criterion is set.
-/

namespace Dunning

/-- Criteria over account facts. -/
structure Condition where
  daysOverdueAtLeast : Option UInt32 := none
  unpaidInvoicesAtLeast : Option UInt32 := none
  unpaidBalanceAtLeast : Option UInt64 := none
  /-- Tags that must all be present. -/
  tagsInclude : List String := []
  /-- Tags that must all be missing. -/
  tagsExclude : List String := []
  paymentMethodMissing : Option Bool := none
  /-- Reasons of which the last failed payment must have had one. -/
  lastFailureIn : List PaymentFailure := []
  deriving Repr, DecidableEq, Inhabited

namespace Condition

/-- The condition on the days overdue alone. -/
def daysOverdue (days : UInt32) : Condition := { daysOverdueAtLeast := some days }

/-- Whether no criterion is set. -/
def isEmpty (c : Condition) : Bool :=
  c.daysOverdueAtLeast.isNone && c.unpaidInvoicesAtLeast.isNone && c.unpaidBalanceAtLeast.isNone &&
    c.tagsInclude.isEmpty && c.tagsExclude.isEmpty && c.paymentMethodMissing.isNone &&
    c.lastFailureIn.isEmpty

/-- Whether an account meets every criterion that is set. -/
def holds (c : Condition) (f : AccountFacts) : Bool :=
  c.daysOverdueAtLeast.all (· ≤ f.daysOverdue) &&
    c.unpaidInvoicesAtLeast.all (· ≤ f.unpaidInvoices) &&
    c.unpaidBalanceAtLeast.all (· ≤ f.unpaidBalance) &&
    c.tagsInclude.all f.hasTag &&
    !c.tagsExclude.any f.hasTag &&
    c.paymentMethodMissing.all (· != f.paymentMethodPresent) &&
    (c.lastFailureIn.isEmpty || f.lastFailure.any c.lastFailureIn.contains)

/-- The criteria as fields of a document; those that are not set are left out. -/
def fields (c : Condition) : List (String × Json) :=
  Json.fieldOf "days_overdue_at_least" (fun n : UInt32 => .nat n.toNat) c.daysOverdueAtLeast ++
    Json.fieldOf "unpaid_invoice_count_at_least" (fun n : UInt32 => .nat n.toNat)
      c.unpaidInvoicesAtLeast ++
    Json.fieldOf "unpaid_balance_at_least" (fun n : UInt64 => .nat n.toNat)
      c.unpaidBalanceAtLeast ++
    Json.listField "tags_include" .string c.tagsInclude ++
    Json.listField "tags_exclude" .string c.tagsExclude ++
    Json.fieldOf "payment_method_missing" .bool c.paymentMethodMissing ++
    Json.listField "last_payment_failure_in" PaymentFailure.toJson c.lastFailureIn

/-- A condition as a document. -/
def toJson (c : Condition) : Json := .object c.fields

/-- The fields of a condition, all of which may be left out and no others given. -/
def shape : Shape :=
  ⟨[defaulted "days_overdue_at_least", defaulted "unpaid_invoice_count_at_least",
    defaulted "unpaid_balance_at_least", defaulted "tags_include", defaulted "tags_exclude",
    defaulted "payment_method_missing", defaulted "last_payment_failure_in"], true⟩

/-- The condition of a document. -/
def decode? (n : Node) : Option Condition := do
  let entries ← shape.entries? n
  let daysOverdueAtLeast ← entries.optional "days_overdue_at_least" Node.uint32?
  let unpaidInvoicesAtLeast ← entries.optional "unpaid_invoice_count_at_least" Node.uint32?
  let unpaidBalanceAtLeast ← entries.optional "unpaid_balance_at_least" Node.uint64?
  let tagsInclude ← entries.withDefault "tags_include" [] (Node.list? Node.string?)
  let tagsExclude ← entries.withDefault "tags_exclude" [] (Node.list? Node.string?)
  let paymentMethodMissing ← entries.optional "payment_method_missing" Node.bool?
  let lastFailureIn ←
    entries.withDefault "last_payment_failure_in" [] (Node.list? PaymentFailure.decode?)
  pure { daysOverdueAtLeast, unpaidInvoicesAtLeast, unpaidBalanceAtLeast, tagsInclude, tagsExclude,
         paymentMethodMissing, lastFailureIn }

/-- Only the condition without criteria is empty. -/
theorem isEmpty_iff (c : Condition) : c.isEmpty = true ↔ c = {} := by
  cases c
  simp [isEmpty, Condition.mk.injEq, and_assoc]

/-- A condition holds of an account that meets every criterion. -/
theorem holds_iff (c : Condition) (f : AccountFacts) :
    c.holds f = true ↔
      (∀ n ∈ c.daysOverdueAtLeast, n ≤ f.daysOverdue) ∧
      (∀ n ∈ c.unpaidInvoicesAtLeast, n ≤ f.unpaidInvoices) ∧
      (∀ n ∈ c.unpaidBalanceAtLeast, n ≤ f.unpaidBalance) ∧
      (∀ tag ∈ c.tagsInclude, tag ∈ f.tags) ∧ (∀ tag ∈ c.tagsExclude, tag ∉ f.tags) ∧
      (∀ missing ∈ c.paymentMethodMissing, missing = !f.paymentMethodPresent) ∧
      (c.lastFailureIn = [] ∨ ∃ failure ∈ c.lastFailureIn, f.lastFailure = some failure) := by
  have hfailure : f.lastFailure.any c.lastFailureIn.contains = true ↔
      ∃ failure ∈ c.lastFailureIn, f.lastFailure = some failure := by
    cases f.lastFailure <;> simp [eq_comm]
  have hmethod (missing : Bool) :
      (missing != f.paymentMethodPresent) = true ↔ missing = !f.paymentMethodPresent := by
    cases missing <;> cases f.paymentMethodPresent <;> decide
  simp only [holds, Bool.and_eq_true, Bool.or_eq_true, hfailure, Option.all_eq_true, hmethod,
    decide_eq_true_eq, List.all_eq_true, Bool.not_eq_true', List.any_eq_false,
    AccountFacts.hasTag, List.contains_iff_mem, List.isEmpty_iff, Option.mem_def, and_assoc]

end Condition

end Dunning
