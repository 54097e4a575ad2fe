import Dunning.Proofs.Task.Conduct
import Mathlib.Logic.Relation

/-!
# Tasks one after another

A sequence runs tasks one at a time over surroundings that they share. A new task starts only when
none is under way. Whether a task may also be stopped before its end, because its time is up or
because something broke, and what of that is noted, is up to the rules of the sequence.

## Main definitions

* `Sequence` — the state of the surroundings and the rest of the task that is under way.
* `Sequence.Rules` — what may start, how requests are answered, and whether tasks are stopped.
* `Sequence.Step`, `Sequence.Reaches` — one step and any number of them.

## Main results

* `Sequence.Sound.reaches` — what the requests of the tasks keep holds in every state that a
  sequence comes to, in the middle of tasks too.
-/

namespace Dunning

/-- What a sequence of tasks has come to. -/
structure Sequence (Request : Type) (Answer : Request → Type) (σ : Type) where
  /-- The state of the surroundings. -/
  state : σ
  /-- The rest of the task that is under way. -/
  running : Option (Task Request Answer Unit) := none

namespace Sequence

variable {Request : Type} {Answer : Request → Type} {σ : Type}

/-- The rules of a sequence. -/
structure Rules (Request : Type) (Answer : Request → Type) (σ : Type) where
  /-- Which tasks may start. -/
  starts : Task Request Answer Unit → Prop
  /-- How requests may be answered. -/
  answers : (request : Request) → σ → Answer request → σ → Prop
  /-- How the state changes when a task is stopped before its end. -/
  stops : σ → σ → Prop := fun _ _ => False

/-- One step of a sequence. -/
inductive Step (rules : Rules Request Answer σ) :
    Sequence Request Answer σ → Sequence Request Answer σ → Prop where
  | start {s : σ} {t : Task Request Answer Unit} : rules.starts t → Step rules ⟨s, none⟩ ⟨s, some t⟩
  | answer {s u : σ} {request : Request} {next : Answer request → Task Request Answer Unit}
      {answer : Answer request} : rules.answers request s answer u →
      Step rules ⟨s, some (.ask request next)⟩ ⟨u, some (next answer)⟩
  | finish {s : σ} : Step rules ⟨s, some (.done ())⟩ ⟨s, none⟩
  | stop {s u : σ} {t : Task Request Answer Unit} : rules.stops s u →
      Step rules ⟨s, some t⟩ ⟨u, none⟩

/-- Any number of steps. -/
def Reaches (rules : Rules Request Answer σ) :
    Sequence Request Answer σ → Sequence Request Answer σ → Prop :=
  Relation.ReflTransGen (Step rules)

variable {rules : Rules Request Answer σ} {rule : σ → Request → Prop} {idle inv : σ → Prop}

/-- A sequence whose surroundings are as they should be and whose task will obey the rule. -/
structure Sound (rules : Rules Request Answer σ) (rule : σ → Request → Prop) (idle inv : σ → Prop)
    (q : Sequence Request Answer σ) : Prop where
  kept : inv q.state
  resting : q.running = none → idle q.state
  obeys : ∀ t, q.running = some t → t.Obeys rules.answers rule (fun _ s => idle s) q.state

/-- How the tasks of a sequence conduct themselves: each obeys the rule from every state in which it
may start, and what the rule allows keeps the surroundings as they should be. -/
structure Conduct (rules : Rules Request Answer σ) (rule : σ → Request → Prop)
    (idle inv : σ → Prop) : Prop where
  obeys : ∀ t s, rules.starts t → idle s → inv s →
    t.Obeys rules.answers rule (fun _ s => idle s) s
  keeps : ∀ s request answer u, inv s → rule s request → rules.answers request s answer u → inv u
  stops : ∀ s u, inv s → rules.stops s u → inv u ∧ idle u

/-- One step of a sequence leaves it sound. -/
theorem Sound.step {q r : Sequence Request Answer σ} (conduct : Conduct rules rule idle inv)
    (sound : Sound rules rule idle inv q) (step : Step rules q r) :
    Sound rules rule idle inv r := by
  obtain ⟨kept, resting, obeys⟩ := sound
  cases step with
  | start hstarts =>
      refine ⟨kept, nofun, ?_⟩
      intro t hrunning
      obtain ⟨rfl⟩ := hrunning
      exact conduct.obeys _ _ hstarts (resting rfl) kept
  | answer hanswers =>
      have hask := obeys _ rfl
      refine ⟨conduct.keeps _ _ _ _ kept hask.1 hanswers, nofun, ?_⟩
      intro t hrunning
      obtain ⟨rfl⟩ := hrunning
      exact hask.2 _ _ hanswers
  | finish => exact ⟨kept, fun _ => obeys _ rfl, nofun⟩
  | stop hstops =>
      obtain ⟨hinv, hidle⟩ := conduct.stops _ _ kept hstops
      exact ⟨hinv, fun _ => hidle, nofun⟩

/-- **A sequence stays sound.** -/
theorem Sound.reaches {q r : Sequence Request Answer σ} (conduct : Conduct rules rule idle inv)
    (sound : Sound rules rule idle inv q) (h : Reaches rules q r) : Sound rules rule idle inv r := by
  induction h with
  | refl => exact sound
  | tail _ step ih => exact ih.step conduct step

theorem Sound.of_idle {s : σ} (hidle : idle s) (hinv : inv s) :
    Sound rules rule idle inv ⟨s, none⟩ :=
  ⟨hinv, fun _ => hidle, nofun⟩

/-- What the rule keeps, all later states keep. -/
theorem Sound.later {q r : Sequence Request Answer σ} (conduct : Conduct rules rule idle inv)
    (sound : Sound rules rule idle inv q) (h : Reaches rules q r) (property : σ → Prop)
    (hkeeps : ∀ s request answer u, inv s → property s → rule s request →
      rules.answers request s answer u → property u)
    (hstops : ∀ s u, property s → rules.stops s u → property u) (hq : property q.state) :
    property r.state := by
  induction h with
  | refl => exact hq
  | tail hreach step ih =>
      have hsound := sound.reaches conduct hreach
      cases step with
      | start => exact ih
      | answer hanswers =>
          exact hkeeps _ _ _ _ hsound.kept ih (hsound.obeys _ rfl).1 hanswers
      | finish => exact ih
      | stop hstop => exact hstops _ _ ih hstop

private theorem reaches_end {s u : σ} {t : Task Request Answer Unit} {value : Unit}
    (run : t.Runs rules.answers s value u) : Reaches rules ⟨s, some t⟩ ⟨u, none⟩ := by
  induction run with
  | done => exact Relation.ReflTransGen.single .finish
  | ask hanswer _ ih => exact Relation.ReflTransGen.head (.answer hanswer) ih

theorem reaches_of_runs {s u : σ} {t : Task Request Answer Unit} {value : Unit}
    (hstarts : rules.starts t) (run : t.Runs rules.answers s value u) :
    Reaches rules ⟨s, none⟩ ⟨u, none⟩ :=
  Relation.ReflTransGen.head (.start hstarts) (reaches_end run)

end Sequence

end Dunning
