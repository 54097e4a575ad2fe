import Dunning.Simulation.Process

/-!
# The polling loop in the simulated world

The loop polls, rests and polls again until it is told to stop. It can be carried on up to a moment,
in the middle of a poll if need be, and stopped: then the poll that is under way is brought to its
end.

## Main definitions

* `Poller` — a dispatcher with its handlers.
* `Poller.poll` — one poll at a time.
* `Loop` — where the polling loop stands.
* `Loop.advance`, `Loop.stop` — carrying the loop on and stopping it.
-/

namespace Dunning.Simulation

/-- A dispatcher with its handlers. -/
structure Poller where
  dispatcher : Dispatcher
  handlers : Process.Handlers

namespace Poller

/-- A poll at a time as a process. -/
def process (p : Poller) (now : Instant) : Process (Except StoreError Nat) :=
  Process.ofPoll p.handlers p.dispatcher.config.handlerTimeout (p.dispatcher.poll now)

/-- A poll at a time; none when it breaks. -/
def poll (p : Poller) (now : Instant) (w : World) : Option (Except StoreError Nat) × World :=
  (p.process now).run w

end Poller

/-- Where a polling loop stands. -/
inductive Loop where
  /-- The next poll is at a moment. -/
  | resting (next : Nat) (backoff : Option Span)
  | polling (remainder : Process (Except StoreError Nat)) (backoff : Option Span)
  /-- A poll broke the loop. -/
  | broken

namespace Loop

/-- What follows a poll that was carried on. -/
def afterPoll (config : DispatcherConfig) (backoff : Option Span) (clock : Nat) :
    Process.Progress (Except StoreError Nat) → Loop
  | .finished result =>
    let (rest, backoff) := Dispatcher.restAfter config backoff result.isOk
    .resting (clock + Process.wholeMillis rest) backoff
  | .crashed => .broken
  | .waiting remainder => .polling remainder backoff

/-- Carry a loop on up to a moment, with a bound on the number of polls. -/
def advanceWithin (p : Poller) (moment : Nat) : Nat → Loop → World → Loop × World
  | 0, loop, w => (loop, w)
  | _ + 1, .broken, w => (.broken, { w with clock := max w.clock moment })
  | polls + 1, .polling remainder backoff, w =>
    let (progress, w) := Process.advance (some moment) remainder w
    advanceWithin p moment polls (afterPoll p.dispatcher.config backoff w.clock progress) w
  | polls + 1, .resting next backoff, w =>
    if moment ≤ max next w.clock then
      (.resting next backoff, { w with clock := max w.clock moment })
    else
      let (now, w) := { w with clock := max next w.clock }.readClock
      let (progress, w) := Process.advance (some moment) (p.process now) w
      match progress with
      | .waiting remainder => (.polling remainder backoff, w)
      | progress =>
        advanceWithin p moment polls (afterPoll p.dispatcher.config backoff w.clock progress) w

/-- Carry a loop on up to a moment. Between two polls at least a millisecond passes, unless a call
to a store failed. -/
def advance (p : Poller) (moment : Nat) (loop : Loop) (w : World) : Loop × World :=
  advanceWithin p moment (moment - w.clock + w.faults.length + 2) loop w

/-- Stop a loop: a poll that is under way is brought to its end. -/
def stop : Loop → World → World
  | .polling remainder _, w => (Process.run remainder w).2
  | _, w => w

end Loop

end Dunning.Simulation
