import Dunning.Scenario.Reading
import Dunning.Scenario.Report
import Dunning.Work.Request

/-!
# Steps on a store of work items

The steps of a scenario that are requests to a store of work items, whatever the store.
-/

namespace Dunning.Scenario

/-- The request of a step. -/
def workRequest? (readId : Node → ItemId) (step : Node) : Option WorkRequest :=
  let queue := textOf step "queue"
  let owner := textOf step "owner"
  let now := time (get step "now")
  let due := time (get step "at")
  let settle (s : Settlement) : WorkRequest :=
    .settle (readId (get step "id")) (textOf step "by") s
  match textOf step "do" with
  | "enqueue" => some (.enqueue (newItemOf step))
  | "claim" =>
    some (.claimDue queue now (spanOr (Span.ofMillis 60000) (get step "lease"))
      (natOr 10 (get step "batch")) (textOf step "by"))
  | "complete" => some (settle .complete)
  | "release" => some (settle .release)
  | "reschedule" => some (settle (.reschedule due))
  | "record_failure" => some (settle (.recordFailure (textOf step "error") due))
  | "dead_letter" => some (settle (.deadLetter (textOf step "reason")))
  | "cancel" => some (.cancel (readId (get step "id")))
  | "cancel_pending" => some (.cancelPending queue owner now)
  | "pending" => some (.pendingForOwner queue owner)
  | "dead_letters" => some (.deadLetters queue (nat (get step "limit")))
  | "item" => some (.get (readId (get step "id")))
  | "queue_stats" => some (.stats queue now)
  | "mark_cancelled" => some (.markOwnerCancelled owner now)
  | "is_cancelled" => some (.isOwnerCancelled owner)
  | _ => none

/-- The answer to a request. -/
def workAnswer (writeId : ItemId → Json) (writeItem : Item → Json) :
    (request : WorkRequest) → request.Answer → Json
  | .enqueue _ => stored writeId
  | .claimDue .. => stored (Json.ofList writeItem)
  | .settle .. => stored .bool
  | .cancel _ => stored .bool
  | .cancelPending .. => stored Json.nat
  | .pendingForOwner .. => stored (Json.ofList writeItem)
  | .get _ => stored (Json.ofOption writeItem)
  | .deadLetters .. => stored (Json.ofList writeItem)
  | .stats .. => stored QueueStats.toJson
  | .markOwnerCancelled .. => stored fun _ => .null
  | .isOwnerCancelled _ => stored .bool

end Dunning.Scenario
