import Dunning.Proofs.Dispatch.Handling
import Dunning.Proofs.Task.Interleaving
import Mathlib.Tactic.Choose

/-!
# Dispatchers at work

A dispatcher polls again and again, one poll at a time. In a poll it claims from each of its queues
once, in order, and it handles what it claims; the next poll starts when all of that is done. Within a
poll the handlings run side by side, and between them the queues that follow are claimed.

What a dispatcher asks in its life is a task. Which tasks are lives is said by what goes on in the
dispatcher: any order of claims and of the requests of its handlings will do, and the handlers that it
runs may ask the store for anything but claims and settlements. Polls one after another, each handling
one item after another, are such a life.

## Main definitions

* `Job`, `Shift` — a handling that is under way, and a poll with its handlings.
* `Shift.Moves` — one request of a dispatcher at work.
* `Shift.Runs`, `Dispatcher.Works` — the lives of a dispatcher.
* `Dispatcher.polls` — polls one after another.

## Main results

* `Dispatcher.works_polls` — polls one after another are a life.
-/

namespace Dunning

/-- Whether a request can be asked beside the work of dispatchers: it neither claims nor settles an
item, and it reports none. -/
def PollRequest.isAside : PollRequest → Bool
  | .work (.claimDue ..) => false
  | .work (.settle ..) => false
  | .work _ => true
  | .invoke .. => false
  | .count .. => true
  | .reportDead .. => false

/-- The handling of an item. -/
structure Job where
  item : Item
  /-- What is to be reported next. -/
  dues : Dues := []
  /-- What is left of the handling. -/
  rest : PollTask Unit

/-- A dispatcher in the middle of a poll, or between two polls. -/
structure Shift where
  dispatcher : Dispatcher
  /-- The clock of the poll. -/
  now : Instant := .first
  /-- The queues that are still to be claimed from. -/
  ahead : List String := []
  /-- The handlings of the items that were claimed. -/
  jobs : List Job := []

namespace Dispatcher

/-- The handling of an item before its first request. -/
def job (d : Dispatcher) (now : Instant) (item : Item) : Job := ⟨item, [], d.process item now⟩

/-- A poll before its first claim. -/
def shift (d : Dispatcher) (now : Instant) : Shift := ⟨d, now, d.queues, []⟩

/-- The request for the items of a queue. -/
def claim (d : Dispatcher) (now : Instant) (queue : String) : WorkRequest :=
  .claimDue queue now d.config.lease d.config.batchSize d.config.name

end Dispatcher

namespace Shift

/-- The name in the claims. -/
def name (s : Shift) : String := s.dispatcher.config.name

/-- Whether the poll is over: there is nothing left to claim, and all that was claimed is handled. -/
def IsOver (s : Shift) : Prop := s.ahead = [] ∧ ∀ job ∈ s.jobs, job.rest.isDone = true

/-- The items that a claim handed out. -/
def claimed : Except StoreError (List Item) → List Item
  | .ok items => items
  | .error _ => []

/-- One request of a dispatcher at work: an aside, the claim of the queue that is next, or a request
of one of the handlings. -/
inductive Moves (s : Shift) : (request : PollRequest) → request.Answer → Shift → Prop
  | aside {request : PollRequest} {answer : request.Answer} : request.isAside = true →
      Moves s request answer s
  | claim {queue : String} {rest : List String} {answer : Except StoreError (List Item)} :
      s.ahead = queue :: rest →
      Moves s (.work (s.dispatcher.claim s.now queue)) answer
        { s with ahead := rest, jobs := s.jobs ++ (claimed answer).map (s.dispatcher.job s.now) }
  | ask {job : Job} {others : List Job} {request : PollRequest}
      {next : request.Answer → PollTask Unit} {answer : request.Answer} :
      s.jobs.Perm (job :: others) → job.rest = .ask request next →
      Moves s request answer
        { s with jobs := ⟨job.item, request.due answer, next answer⟩ :: others }

/-- What a dispatcher may ask from some point of its life on. -/
inductive Runs : Shift → PollTask Unit → Prop
  | rest {s : Shift} : s.IsOver → Runs s (.done ())
  | poll {s : Shift} {task : PollTask Unit} (now : Instant) : s.IsOver →
      Runs (s.dispatcher.shift now) task → Runs s task
  | ask {s : Shift} {request : PollRequest} {next : request.Answer → PollTask Unit}
      (after : request.Answer → Shift) : (∀ answer, s.Moves request answer (after answer)) →
      (∀ answer, Runs (after answer) (next answer)) → Runs s (.ask request next)

end Shift

namespace Dispatcher

/-- Whether a task is a life of the dispatcher. -/
def Works (d : Dispatcher) (task : PollTask Unit) : Prop := Shift.Runs { dispatcher := d } task

/-- Polls one after another. -/
def polls (d : Dispatcher) : List Instant → PollTask Unit
  | [] => .done ()
  | now :: rest => (d.poll now).bind fun _ => d.polls rest

end Dispatcher

/-! ## Polls one after another -/

namespace Shift

variable {s : Shift} {task : PollTask Unit}

theorem IsOver.perm (h : s.IsOver) {jobs : List Job} (hperm : jobs.Perm s.jobs) :
    IsOver { s with jobs } :=
  ⟨h.1, fun job hjob => h.2 job (hperm.subset hjob)⟩

theorem Moves.perm {request : PollRequest} {answer : request.Answer} {t : Shift}
    (h : s.Moves request answer t) {jobs : List Job} (hperm : jobs.Perm s.jobs) :
    ∃ later : List Job, later.Perm t.jobs ∧
      Moves { s with jobs } request answer { t with jobs := later } := by
  cases h with
  | aside haside => exact ⟨jobs, hperm, .aside haside⟩
  | claim hahead => exact ⟨_, hperm.append_right _, .claim hahead⟩
  | ask hjobs hrest => exact ⟨_, .refl _, .ask (hperm.trans hjobs) hrest⟩

/-- The order of the handlings does not matter. -/
theorem Runs.perm (h : s.Runs task) {jobs : List Job} (hperm : jobs.Perm s.jobs) :
    Runs { s with jobs } task := by
  induction h generalizing jobs with
  | rest hover => exact .rest (hover.perm hperm)
  | poll now hover hrest => exact .poll now (hover.perm hperm) hrest
  | ask after hmoves _ ih =>
      choose later hlater hmoves using fun answer => (hmoves answer).perm hperm
      exact .ask _ hmoves fun answer => ih answer (hlater answer)

theorem Runs.count {counter : Counter} {n : Nat} {next : Unit → PollTask Unit}
    (h : s.Runs (next ())) : s.Runs (.ask (.count counter n) next) :=
  .ask (fun _ => s) (fun _ => .aside rfl) fun _ => h

/-- A handling runs to its end. -/
theorem Runs.job {item : Item} {dues : Dues} {others : List Job} {t : PollTask Unit}
    (hdone : ∀ dues, Runs { s with jobs := ⟨item, dues, .done ()⟩ :: others } task) :
    Runs { s with jobs := ⟨item, dues, t⟩ :: others } (t.bind fun _ => task) := by
  induction t generalizing dues with
  | done => exact hdone dues
  | ask request next ih => exact .ask _ (fun _ => .ask (.refl _) rfl) fun answer => ih answer

end Shift

namespace Dispatcher

open Shift (Runs)

variable {d : Dispatcher} {now : Instant} {ahead : List String} {finished : List Job}

/-- The handling of the item started last. -/
private def pending (d : Dispatcher) (now : Instant) (started : Option Item) : List Job :=
  started.toList.map (d.job now)

private def AllDone (jobs : List Job) : Prop := ∀ job ∈ jobs, job.rest.isDone = true

/-- The item started last runs to its end. -/
private theorem finish_runs {started : Option Item} {jobs : List Job} {task : PollTask Unit}
    (h : ∀ finished, AllDone finished → Runs ⟨d, now, ahead, jobs ++ finished⟩ task)
    (hfinished : AllDone finished) :
    Runs ⟨d, now, ahead, d.pending now started ++ (jobs ++ finished)⟩
      ((d.finish now started).bind fun _ => task) := by
  cases started with
  | none => exact h finished hfinished
  | some item =>
      refine Runs.job (s := ⟨d, now, ahead, []⟩) fun dues => ?_
      have hdone : AllDone (⟨item, dues, .done ()⟩ :: finished) :=
        List.forall_mem_cons.mpr ⟨rfl, hfinished⟩
      have hperm : (⟨item, dues, .done ()⟩ :: (jobs ++ finished) : List Job).Perm
          (jobs ++ ⟨item, dues, .done ()⟩ :: finished) := List.perm_middle.symm
      exact (h _ hdone).perm hperm

/-- Items are started one after another; the last one is left. -/
private theorem startAll_runs {f : Option Item → PollTask Unit}
    (hf : ∀ started finished, AllDone finished →
      Runs ⟨d, now, ahead, d.pending now started ++ finished⟩ (f started))
    (items : List Item) (started : Option Item) (hfinished : AllDone finished) :
    Runs ⟨d, now, ahead, d.pending now started ++ (items.map (d.job now) ++ finished)⟩
      ((d.startAll now started items).bind f) := by
  induction items generalizing started finished with
  | nil => exact hf started finished hfinished
  | cons item rest ih =>
      rw [startAll, Task.bind_assoc]
      exact finish_runs (fun finished hfinished => ih (some item) hfinished) hfinished

private theorem pollQueue_runs {queue : String} {progress : Progress} {f : Progress → PollTask Unit}
    (hf : ∀ (progress : Progress) finished, AllDone finished →
      Runs ⟨d, now, ahead, d.pending now progress.started ++ finished⟩ (f progress))
    (hfinished : AllDone finished) :
    Runs ⟨d, now, queue :: ahead, d.pending now progress.started ++ finished⟩
      ((d.pollQueue now queue progress).bind f) := by
  refine .ask _ (fun answer => .claim rfl) fun answer => ?_
  cases answer with
  | error e =>
      refine .count ?_
      rw [Shift.claimed, List.map_nil, List.append_nil]
      exact hf { progress with error := progress.error.or (some e) } finished hfinished
  | ok items =>
      refine .count ?_
      simp only [Task.bind_done, Task.bind_assoc]
      have hperm : (d.pending now progress.started ++ finished ++ items.map (d.job now)).Perm
          (d.pending now progress.started ++ (items.map (d.job now) ++ finished)) := by
        rw [List.append_assoc]
        exact List.perm_append_comm.append_left _
      refine Runs.perm (startAll_runs ?_ items progress.started hfinished) hperm
      intro started finished hfinished
      exact hf { progress with started, claimed := progress.claimed + items.length } finished
        hfinished

private theorem pollQueues_runs {queues : List String} {progress : Progress}
    {f : Progress → PollTask Unit}
    (hf : ∀ (progress : Progress) finished, AllDone finished →
      Runs ⟨d, now, [], d.pending now progress.started ++ finished⟩ (f progress))
    (hfinished : AllDone finished) :
    Runs ⟨d, now, queues, d.pending now progress.started ++ finished⟩
      ((d.pollQueues now queues progress).bind f) := by
  induction queues generalizing progress finished with
  | nil => exact hf progress finished hfinished
  | cons queue rest ih =>
      rw [pollQueues, Task.bind_assoc]
      exact pollQueue_runs (fun progress finished hfinished => ih hfinished) hfinished

/-- A poll leads from one rest to the next. -/
private theorem poll_runs {s : Shift} {task : PollTask Unit} (hover : s.IsOver)
    (h : ∀ finished, AllDone finished → Runs ⟨s.dispatcher, now, [], finished⟩ task) :
    Runs s ((s.dispatcher.poll now).bind fun _ => task) := by
  refine .poll now hover (.count ?_)
  simp only [Task.bind_done, Task.bind_assoc]
  have hlast : ∀ finished, AllDone finished →
      Runs ⟨s.dispatcher, now, [], [] ++ finished⟩ task := h
  show Runs ⟨s.dispatcher, now, _, s.dispatcher.pending now ({} : Progress).started ++ []⟩ _
  refine pollQueues_runs ?_ (List.forall_mem_nil _)
  intro progress finished hfinished
  exact finish_runs hlast hfinished

/-- **Polls one after another are a life of the dispatcher.** -/
theorem works_polls (d : Dispatcher) (times : List Instant) : d.Works (d.polls times) := by
  have hruns (now : Instant) (finished : List Job) (hfinished : AllDone finished) :
      Runs ⟨d, now, [], finished⟩ (d.polls times) := by
    induction times generalizing now finished with
    | nil => exact .rest ⟨rfl, hfinished⟩
    | cons next rest ih => exact poll_runs ⟨rfl, hfinished⟩ fun _ => ih next _
  exact hruns .first [] (List.forall_mem_nil _)

end Dispatcher

end Dunning
