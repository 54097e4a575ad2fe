import Dunning.Scenario.WorkStep
import Dunning.Simulation.Process

/-!
# Steps in the simulated world

Work items of the simulated world are named by the order of their creation, `i0`, `i1` and so on.
With every answer goes what the surrounding systems were asked since the step before.

## Main definitions

* `itemIdOf`, `worldItemJson` — items by label.
* `faultStep`, `dump` — setting faults and writing the whole store.
* `worldStep?` — the steps on the stores.
* `withCalls` — an answer with the calls that were noted.
-/

namespace Dunning.Scenario

open Dunning.Simulation

/-! ## Items by label -/

/-- The number of some decimal digits. -/
def digits? (cs : List Char) : Option Nat :=
  if cs.isEmpty || !cs.all Char.isDigit then none
  else some (cs.foldl (fun n c => 10 * n + (c.toNat - '0'.toNat)) 0)

/-- The item of a label or of a plain identifier. -/
def itemIdOf (n : Node) : ItemId :=
  match (str n).toList with
  | 'i' :: rest =>
    match digits? rest with
    | some k => World.itemId k
    | none => ⟨uuid n⟩
  | _ => ⟨uuid n⟩

/-- The label of an item. -/
def labelJson (w : World) (id : ItemId) : Json :=
  match w.itemNumber? id with
  | some n => .string ("i" ++ toString n)
  | none => if w.isMark id then .string "marker" else id.toJson

/-- An item by label. -/
def worldItemJson (w : World) (i : Item) : Json :=
  obj
    [("id", labelJson w i.id), ("queue", .string i.queue), ("owner", .string i.owner),
     ("effective_at", clockJson i.dueAt), ("payload", i.payload),
     ("updated_at", clockJson i.updatedAt), ("claim_owner", Json.ofOption .string i.claimedBy),
     ("claim_expires_at", Json.ofOption clockJson i.leaseEnd), ("attempts", .nat i.attempts.toNat),
     ("status", i.status.toJson), ("last_error", Json.ofOption .string i.lastError)]

/-! ## Noted calls -/

/-- A noted call. -/
def noteJson (w : World) : Note → Json
  | .handler item context =>
    obj
      [("call", .string "handler"), ("queue", .string item.queue), ("item", labelJson w item.id),
       ("now", clockJson context.now), ("attempt", .nat context.attempt.toNat),
       ("owner_cancelled", .bool context.ownerCancelled),
       ("dispatcher", .string context.dispatcher)]
  | .deadLetter item reason =>
    obj
      [("call", .string "dead_letter"), ("item", labelJson w item.id),
       ("attempts", .nat item.attempts.toNat), ("reason", .string reason)]
  | .gate account flags refused =>
    obj
      [("call", .string "gate"), ("account", account.toJson), ("flags", flags.toJson),
       ("failed", .bool refused)]
  | .charge request => obj [("call", .string "charge"), ("request", request.toJson)]
  | .invoices account targetDate =>
    obj
      [("call", .string "invoices"), ("account", account.toJson),
       ("target_date", clockJson targetDate)]
  | .hook run =>
    obj
      [("call", .string "hook"), ("name", .string run.hook), ("account", run.account.toJson),
       ("phase", .string run.phase.name), ("from", .string run.oldState),
       ("to", .string run.newState), ("at", clockJson run.now)]

/-- An answer with the calls noted since the step before. -/
def withCalls (answer : Json) (w : World) : Json × World :=
  match answer, w.notes with
  | .object fields, note :: notes =>
    (.object (fields ++ [("calls", .array ((note :: notes).reverse.map (noteJson w)))]),
      { w with notes := [] })
  | answer, _ => (answer, w)

/-! ## Asking the world -/

/-- The answer to a program that is run in the world. -/
def answerProgram {α : Type} (w : World) (program : Program α) (write : World → α → Json) :
    Json × World :=
  match (Process.ofProgram program).run w with
  | (some a, w) => (write w a, w)
  | (none, w) => (broken, w)

/-- The answer to a request. -/
def answerRequest (w : World) (request : WorkRequest) : Json × World :=
  answerProgram w (Task.call (.work request)) fun w answer =>
    workAnswer (labelJson w) (worldItemJson w) request answer

/-! ## Steps -/

/-- The point of a name. -/
def faultPoint? : String → Option FaultPoint
  | "work.enqueue" => some .enqueue
  | "work.claim_due" => some .claimDue
  | "work.complete" => some .complete
  | "work.release" => some .release
  | "work.reschedule" => some .reschedule
  | "work.record_failure" => some .recordFailure
  | "work.dead_letter" => some .deadLetter
  | "work.cancel_pending" => some .cancelPending
  | "work.pending_for_owner" => some .pendingForOwner
  | "work.mark_owner_cancelled" => some .markOwnerCancelled
  | "work.is_owner_cancelled" => some .isOwnerCancelled
  | "states.get" => some .getState
  | "states.save" => some .saveState
  | "attempts.insert" => some .insertAttempt
  | "attempts.update" => some .updateAttempt
  | "attempts.get" => some .getAttempt
  | _ => none

/-- Set faults: some calls go through, then some fail. -/
def faultStep (w : World) (step : Node) : World :=
  match faultPoint? (textOf step "target") with
  | none => w
  | some point =>
    let kind := textOf step "kind"
    let fault : Fault :=
      if kind = "vanish" then .vanish
      else .fail ⟨storeFaultOf kind, (str? (get step "message")).getD "down"⟩
    let script :=
      List.replicate (natOr 0 (get step "after")) (point, Fault.pass) ++
        List.replicate (natOr 1 (get step "times")) (point, fault)
    { w with faults := w.faults ++ script }

/-- Marks by time and owner. -/
def markBefore (a b : Item) : Bool :=
  decide (a.dueAt < b.dueAt) || (decide (a.dueAt = b.dueAt) && decide (a.owner ≤ b.owner))

/-- A field for some named records, left out when none is asked for. -/
def namedRecords (name : String) (asked : List Node) (write : Node → Json) :
    List (String × Json) :=
  if asked.isEmpty then [] else [(name, obj (asked.map fun n => (str n, write n)))]

/-- All items, all marks, and the states and attempts that are asked for. -/
def dump (w : World) (step : Node) : Json :=
  let labelled := w.work.items.filter fun i => (w.itemNumber? i.id).isSome
  let marks := (w.work.items.filter fun i => w.isMark i.id).mergeSort markBefore
  obj
    ([("items", Json.ofList (worldItemJson w) labelled),
      ("markers", Json.ofList (worldItemJson w) marks)] ++
      namedRecords "states" (items (get step "accounts")) (fun n =>
        Json.ofOption stateJson (w.states.get? (account n))) ++
      namedRecords "attempts" (items (get step "payments")) (fun n =>
        Json.ofList (fun a => without "id" (attemptJson a)) (w.attempts.ofPayment (payment n))))

/-- A step on the stores. -/
def worldStep? (w : World) (step : Node) : Option (Json × World) :=
  match textOf step "do" with
  | "items" =>
    some (ok (Json.ofList (worldItemJson w) (w.work.ofQueue (textOf step "queue"))), w)
  | "dump" => some (ok (dump w step), w)
  | "fault" => some (ok .null, faultStep w step)
  | _ => (workRequest? itemIdOf step).map fun request => answerRequest w request

/-- A scenario on the stores alone. -/
def storeScenario (n : Node) : Json :=
  .array (answers (fun w step =>
    let (answer, w) := (worldStep? w step).getD (ok .null, w)
    withCalls answer w) {} (items (get n "steps")))

end Dunning.Scenario
