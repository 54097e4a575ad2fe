/-!
# Tasks

The rules of this library decide; stores, gateways and clocks answer. A task is a decision tree: it
is done with a value, or it asks its surroundings one thing and goes on with the answer. What a task
means depends on the surroundings alone, so the same task runs over stores in memory and over a
database, and its requests can be interleaved with those of other tasks.

A surrounding may also never answer: what runs the task ends it, because its time is up or because
something underneath broke.

## Main definitions

* `Task` — a value, or a request and what follows each answer.
* `Task.call` — a request by itself.
* `Task.run` — a task among surroundings that keep a state.
* `Task.through` — a task whose requests are carried out by other tasks.
* `Task.attempt` — the same with tasks that may break off.
-/

namespace Dunning

/-- A computation that asks its surroundings. -/
inductive Task (Request : Type) (Answer : Request → Type) (α : Type) where
  | done (value : α)
  | ask (request : Request) (next : Answer request → Task Request Answer α)

/-- Why a task got no answer. -/
inductive Stop where
  /-- Its time was up. -/
  | expired
  /-- Something underneath broke. -/
  | crashed
  deriving Repr, DecidableEq

namespace Task

variable {Request : Type} {Answer : Request → Type} {α β σ : Type}

/-- Go on with the value of a task. -/
def bind : Task Request Answer α → (α → Task Request Answer β) → Task Request Answer β
  | done value, f => f value
  | ask request next, f => ask request fun answer => (next answer).bind f

instance : Monad (Task Request Answer) where
  pure := done
  bind := bind

/-- A request by itself. -/
def call (request : Request) : Task Request Answer (Answer request) := ask request done

/-- Run a task. The surroundings answer or stop it, and may change their state either way. -/
def run (respond : (request : Request) → σ → Except Stop (Answer request) × σ) :
    Task Request Answer α → σ → Except Stop α × σ
  | done value, state => (.ok value, state)
  | ask request next, state =>
    match respond request state with
    | (.ok answer, state) => (next answer).run respond state
    | (.error stop, state) => (.error stop, state)

/-- Carry out every request by a task of its own. -/
def through {Inner : Type} {InnerAnswer : Inner → Type}
    (carry : (request : Request) → Task Inner InnerAnswer (Answer request)) :
    Task Request Answer α → Task Inner InnerAnswer α
  | done value => done value
  | ask request next => (carry request).bind fun answer => (next answer).through carry

/-- Carry out every request by a task that may break off without an answer. Then the whole breaks
off. -/
def attempt {Inner : Type} {InnerAnswer : Inner → Type}
    (carry : (request : Request) → Task Inner InnerAnswer (Option (Answer request))) :
    Task Request Answer α → Task Inner InnerAnswer (Option α)
  | done value => done (some value)
  | ask request next =>
    (carry request).bind fun
      | some answer => (next answer).attempt carry
      | none => done none

@[simp] theorem bind_done (value : α) (f : α → Task Request Answer β) :
    (done value).bind f = f value := rfl

@[simp] theorem bind_ask (request : Request) (next : Answer request → Task Request Answer α)
    (f : α → Task Request Answer β) :
    (ask request next).bind f = ask request fun answer => (next answer).bind f := rfl

theorem bind_assoc {γ : Type} (t : Task Request Answer α) (f : α → Task Request Answer β)
    (g : β → Task Request Answer γ) :
    (t.bind f).bind g = t.bind fun a => (f a).bind g := by
  induction t with
  | done => rfl
  | ask request next ih => simp [ih]

end Task

end Dunning
