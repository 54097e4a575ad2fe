import Dunning.Scenario.WorldStep
import Dunning.Simulation.Polling

/-!
# Scenarios of a dispatcher

A dispatcher with scripted handlers polls the stores of the simulated world, by hand or in its loop.

## Main definitions

* `actionOf` — what a scripted handler does.
* `pollStep?` — the steps on a dispatcher.
* `dispatcherScenario` — a scenario with its report.
-/

namespace Dunning.Scenario

open Dunning.Simulation

/-- What a scripted handler finally does. -/
def endingOf (n : Node) : Action :=
  match n with
  | .string (some "release") => .finish (.ok .release)
  | .string (some "panic") => .panic
  | .string (some "hang") => .hang
  | n =>
    if given n "reschedule_at" then .finish (.ok (.rescheduleAt (time (get n "reschedule_at"))))
    else if given n "transient" then .finish (.error (.transient (textOf n "transient")))
    else if given n "permanent" then .finish (.error (.permanent (textOf n "permanent")))
    else .finish (.ok .done)

/-- What a scripted handler does, read to a depth: it may have another dispatcher claim items, then
enqueue an item, then rest, and then do something else. -/
def actionWithin : Nat → Node → Action
  | 0, n => endingOf n
  | depth + 1, n =>
    let last := if given n "then" then actionWithin depth (get n "then") else endingOf n
    let last := if given n "sleep_ms" then .rest (nat (get n "sleep_ms")) last else last
    let last := if given n "enqueue" then .enqueue (newItemOf (get n "enqueue")) last else last
    let steal := get n "steal"
    if isNull steal then last
    else
      .claim (textOf steal "queue") (time (get steal "now"))
        (spanOr (Span.ofMillis 60000) (get steal "lease")) (natOr 1 (get steal "batch"))
        (textOf steal "owner") last

/-- What a scripted handler does. -/
def actionOf (n : Node) : Action := actionWithin (n.depth + 1) n

/-- The script of a queue's handler. -/
def scriptOf (n : Node) : HandlerScript :=
  ⟨textOf n "queue", (items (get n "script")).map actionOf, actionOf (get n "default")⟩

/-- The answer of a poll. -/
def pollAnswer : Option (Except StoreError Nat) → Json
  | some result => stored Json.nat result
  | none => broken

/-- A step on a dispatcher. -/
def pollStep? (p : Poller) (w : World) (step : Node) : Option (Json × World) :=
  match textOf step "do" with
  | "poll" =>
    let (result, w) := p.poll (time (get step "now")) w
    some (pollAnswer result, w)
  | "poll_once" =>
    let (now, w) := w.readClock
    let (result, w) := p.poll now w
    some (pollAnswer result, w)
  | "stats" => some (ok w.counters.toJson, w)
  | _ => none

/-- Run the polling loop for some time and stop it. The counters are those of the moment before. -/
def runStep (p : Poller) (w : World) (step : Node) : Json × World :=
  let start := w.clock
  let w := { w with claims := [] }
  let (loop, w) := Loop.advance p (start + nat (get step "ms")) (.resting start none) w
  let counters := w.counters
  let w := loop.stop w
  let claims := w.claims.reverse.map fun (queue, clock) =>
    Json.array [.string queue, .nat (clock - start)]
  (ok (obj [("claims", .array claims), ("stats", counters.toJson)]), w)

/-- The poller of a scenario. -/
def pollerOf (n : Node) (scripts : List HandlerScript) : Poller where
  dispatcher :=
    { config := { dispatcherConfigOf "d1" (get n "config") with maxConcurrent := 1 }
      handled :=
        (scripts.foldl (fun t s => t.register s.queue ()) ({} : QueueTable Unit)).queues }
  handlers := Process.scripted

/-- A scenario of a dispatcher with scripted handlers. Of two scripts for a queue the later counts.
-/
def dispatcherScenario (n : Node) : Json :=
  let scripts := (items (get n "handlers")).map scriptOf
  let p := pollerOf n scripts
  let start : World :=
    { scripts := scripts.reverse, notesDeadLetters := !bool (get n "logging_sink") }
  .array (answers (fun w step =>
    let (answer, w) :=
      ((worldStep? w step).or (pollStep? p w step)).getD (runStep p w step)
    withCalls answer w) start (items (get n "steps")))

end Dunning.Scenario
