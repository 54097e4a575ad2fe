import Dunning.Work.Item

/-!
# Settlements

When a handler is through with an item, the dispatcher that holds the claim writes what becomes of
the item. Whatever is written, the claim ends with it.

## Main definitions

* `Settlement` — the five endings of an invocation.
* `Settlement.apply` — the item afterwards.
* `Item.accepts` — whether a claimer may still settle the item.
-/

namespace Dunning

/-- What becomes of a handled item. -/
inductive Settlement where
  /-- The item is processed. -/
  | complete
  /-- The claim ends; the item can be claimed again at once. -/
  | release
  /-- The item is due at another time. -/
  | reschedule (due : Instant)
  /-- The invocation failed; the item is due again later. -/
  | recordFailure (error : String) (retryAt : Instant)
  /-- The invocation failed and the item is given up. -/
  | deadLetter (reason : String)
  deriving DecidableEq

/-- What a settlement writes, its end of the claim apart. -/
def Settlement.write : Settlement → Item → Item
  | .complete, i => { i with status := .processed }
  | .release, i => i
  | .reschedule due, i => { i with dueAt := due }
  | .recordFailure error retryAt, i =>
    { i with attempts := i.attempts + 1, lastError := some error, dueAt := retryAt }
  | .deadLetter reason, i =>
    { i with attempts := i.attempts + 1, status := .deadLettered, lastError := some reason }

/-- The item after a settlement. -/
def Settlement.apply (s : Settlement) (i : Item) : Item := (s.write i).unclaimed

/-- Whether a claimer may settle the item: the item has not ended and the claim is still his. -/
def Item.accepts (i : Item) (claimer : String) : Bool :=
  !i.status.isTerminal && i.claimedBy == some claimer

end Dunning
