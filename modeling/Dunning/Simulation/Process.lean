import Dunning.Simulation.World
import Dunning.Work.Dispatcher

/-!
# Processes in the simulated world

A process is a task whose steps are carried out by the simulated world. Only rests take time. A
process can be given a limited time, its breaking can be caught, and it can be carried on up to a
moment and resumed later.

## Main definitions

* `Step`, `Process` — steps and tasks over them.
* `Process.within`, `Process.caught` — a time limit and a fence.
* `Process.ofProgram`, `Process.ofAction`, `Process.ofPoll` — programs, scripted handlers and polls
  as processes.
* `Process.advance` — carry a process on.
-/

namespace Dunning.Simulation

/-- A step of a process. -/
inductive Step where
  | ask (request : Request)
  /-- The action of a scripted handler. -/
  | invoke (item : Item) (context : HandlerContext)
  | count (counter : Counter) (n : Nat)
  | reportDead (item : Item) (reason : String)
  | rest (millis : Nat)
  /-- The process breaks. -/
  | crash

/-- What a step gives back. -/
@[reducible] def Step.Answer : Step → Type
  | .ask request => Reply request.Answer
  | .invoke .. => Action
  | .count .. => Unit
  | .reportDead .. => Unit
  | .rest _ => Unit
  | .crash => Empty

/-- A task carried out by the simulated world. -/
abbrev Process (α : Type) : Type := Task Step Step.Answer α

namespace Process

variable {α : Type}

/-- Break. -/
def crash : Process α := .ask .crash fun answer => nomatch answer

/-- Rest for some milliseconds. -/
def rest (millis : Nat) : Process Unit := .ask (.rest millis) .done

/-- Ask the world and wait for the answer. -/
def perform (request : Request) : Process request.Answer :=
  .ask (.ask request) fun (reply : Reply request.Answer) =>
    match reply with
    | .now answer => .done answer
    | .after millis answer => .ask (.rest millis) fun _ => .done answer
    | .never => crash

/-- A process that may take a number of milliseconds; none when they do not suffice. -/
def within (limit : Nat) : Process α → Process (Option α)
  | .done value => .done (some value)
  | .ask (.rest millis) next =>
    if millis ≤ limit then .ask (.rest millis) fun answer => within (limit - millis) (next answer)
    else .ask (.rest limit) fun _ => .done none
  | .ask (.ask request) next => .ask (.ask request) fun answer => within limit (next answer)
  | .ask (.invoke item context) next =>
    .ask (.invoke item context) fun answer => within limit (next answer)
  | .ask (.count counter n) next => .ask (.count counter n) fun answer => within limit (next answer)
  | .ask (.reportDead item reason) next =>
    .ask (.reportDead item reason) fun answer => within limit (next answer)
  | .ask .crash _ => crash

/-- A process whose breaking is caught: none when it breaks. -/
def caught : Process α → Process (Option α)
  | .done value => .done (some value)
  | .ask .crash _ => .done none
  | .ask (.rest millis) next => .ask (.rest millis) fun answer => caught (next answer)
  | .ask (.ask request) next => .ask (.ask request) fun answer => caught (next answer)
  | .ask (.invoke item context) next =>
    .ask (.invoke item context) fun answer => caught (next answer)
  | .ask (.count counter n) next => .ask (.count counter n) fun answer => caught (next answer)
  | .ask (.reportDead item reason) next =>
    .ask (.reportDead item reason) fun answer => caught (next answer)

/-! ## Programs, scripted handlers and polls -/

/-- A program as a process. -/
def ofProgram (program : Program α) : Process α := program.through perform

/-- A scripted handler as a process. -/
def ofAction : Action → Process (Except HandlerError HandlerOutcome)
  | .finish result => .done result
  | .panic => crash
  | .rest millis next => (rest millis).bind fun _ => ofAction next
  | .claim queue now lease batch claimer next =>
    (perform (.work (.claimDue queue now lease batch claimer))).bind fun _ => ofAction next
  | .enqueue new next => (perform (.work (.enqueue new))).bind fun _ => ofAction next

/-- The handler of every queue, given by what it does. -/
abbrev Handlers : Type := Item → HandlerContext → Process (Except HandlerError HandlerOutcome)

/-- Scripted handlers. -/
def scripted : Handlers := fun item context =>
  .ask (.invoke item context) fun (action : Action) => ofAction action

/-- The whole milliseconds that cover a duration. -/
def wholeMillis (d : Span) : Nat := (d.nanos + 999999) / 1000000

/-- Run a handler within the allowed time. -/
def runHandler (handlers : Handlers) (timeout : Span) (item : Item) (context : HandlerContext) :
    Process HandlerRun :=
  (caught (within (wholeMillis timeout) (handlers item context))).bind fun
    | none => .done .panicked
    | some none => .done .timedOut
    | some (some result) => .done (.returned result)

/-- A request of a poll as a process. -/
def ofPollRequest (handlers : Handlers) (timeout : Span) :
    (request : PollRequest) → Process request.Answer
  | .work request => perform (.work request)
  | .invoke item context => runHandler handlers timeout item context
  | .count counter n => .ask (.count counter n) .done
  | .reportDead item reason => .ask (.reportDead item reason) .done

/-- A task of a dispatcher as a process. -/
def ofPoll (handlers : Handlers) (timeout : Span) (task : PollTask α) : Process α :=
  task.through (ofPollRequest handlers timeout)

/-! ## Carrying a process on -/

/-- How far a process has come. -/
inductive Progress (α : Type) where
  | finished (value : α)
  | crashed
  /-- It rests until after the moment it was carried on to. -/
  | waiting (remainder : Process α)

/-- Carry a process on, to its end or up to a moment. -/
def advance (upTo : Option Nat) : Process α → World → Progress α × World
  | .done value, w => (.finished value, w)
  | .ask (.rest millis) next, w =>
    match upTo with
    | none => advance upTo (next ()) { w with clock := w.clock + millis }
    | some moment =>
      if w.clock + millis < moment then
        advance upTo (next ()) { w with clock := w.clock + millis }
      else
        (.waiting (.ask (.rest (w.clock + millis - moment)) next), { w with clock := moment })
  | .ask (.ask request) next, w =>
    let (reply, w) := w.respond request
    advance upTo (next reply) w
  | .ask (.invoke item context) next, w =>
    let (action, w) := w.invoke item context
    advance upTo (next action) w
  | .ask (.count counter n) next, w => advance upTo (next ()) (w.count counter n)
  | .ask (.reportDead item reason) next, w => advance upTo (next ()) (w.reportDead item reason)
  | .ask .crash _, w => (.crashed, w)

/-- Carry a process on to its end; none when it breaks. -/
def run (process : Process α) (w : World) : Option α × World :=
  match advance none process w with
  | (.finished value, w) => (some value, w)
  | (_, w) => (none, w)

end Process

end Dunning.Simulation
