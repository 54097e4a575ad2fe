import Dunning.Overdue.State
import Dunning.StoreError
import Dunning.Version

/-!
# The store of overdue states

One record for each account. A write names the version it expects to replace and is refused when the
record is at another.

## Main definitions

* `StateRequest` — the interface of every store of states, in memory or in a database.
* `StateStore` — the records in memory, viewed through `StateStore.get?`.
* `StateStore.save` — the guarded write.
* `StateStore.respond` — every request of the interface.
-/

namespace Dunning

/-- A request to a store of states. -/
inductive StateRequest where
  | get (account : AccountId)
  /-- Write a record if the stored version meets the expectation. -/
  | save (record : OverdueState) (expected : Expected)

/-- The answer of a store to a request. -/
@[reducible] def StateRequest.Answer : StateRequest → Type
  | .get _ => Except StoreError (Option OverdueState)
  | .save .. => Except StoreError Unit

/-- Recorded states, at most one for each account. -/
structure StateStore where
  records : List OverdueState := []

namespace StateStore

/-- The record of an account. -/
def get? (s : StateStore) (account : AccountId) : Option OverdueState :=
  s.records.find? fun r => r.account == account

/-- The store with a record, which replaces that of the same account. -/
def put (s : StateStore) (record : OverdueState) : StateStore :=
  ⟨record :: s.records.filter fun r => r.account != record.account⟩

/-- Write a record if the stored version meets the expectation. -/
def save (s : StateStore) (record : OverdueState) (expected : Expected) :
    Except StoreError Unit × StateStore :=
  match expected.check ((s.get? record.account).map OverdueState.version) with
  | .ok () => (.ok (), s.put record)
  | .error e => (.error ⟨.conflict, e.message⟩, s)

/-- Answer a request. -/
def respond (s : StateStore) : (request : StateRequest) → request.Answer × StateStore
  | .get account => (.ok (s.get? account), s)
  | .save record expected => s.save record expected

@[simp] theorem get?_put_self (s : StateStore) (record : OverdueState) :
    (s.put record).get? record.account = some record := by
  simp [get?, put]

theorem get?_put_of_ne (s : StateStore) {record : OverdueState} {account : AccountId}
    (h : record.account ≠ account) : (s.put record).get? account = s.get? account := by
  unfold get? put
  rw [List.find?_cons_of_neg (by simpa using h), List.find?_filter]
  congr 1
  funext r
  by_cases hr : r.account = account
  · subst hr
    simp [Ne.symm h]
  · simp [hr]

end StateStore

end Dunning
