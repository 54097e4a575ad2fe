import Dunning.Task

/-!
# How a task conducts itself

What a task does depends on the answers that it gets. Here the surroundings are a relation: they may
give one of several answers to a request, and take one of several states with it. A statement about a
task then covers all of them at once.

The rule of a task says which requests it may make in which state. It is proved along the tree of the
task, one function of the library at a time; what the states have in common follows from the rule,
without another look at the task.

## Main definitions

* `Task.Obeys` — a task asks only what a rule allows, and ends as it should.
* `Task.Runs` — a run of a task from its beginning to its end.

## Main results

* `Task.obeys_bind` — a rule is obeyed part by part.
* `Task.Obeys.of_runs` — what holds at the end of every run that obeys a rule.
* `Task.runs_of_run` — running a task among given surroundings is one of its runs.
-/

namespace Dunning

namespace Task

variable {Request : Type} {Answer : Request → Type} {α β σ : Type}

theorem pure_eq (value : α) : (pure value : Task Request Answer α) = done value := rfl

theorem bind_eq (t : Task Request Answer α) (f : α → Task Request Answer β) :
    t >>= f = t.bind f := rfl

section

variable (answers : (request : Request) → σ → Answer request → σ → Prop)

/-- The task asks only what `rule` allows in the state in which it asks, and when it ends, `post`
holds of its value and of the last state. -/
def Obeys (rule : σ → Request → Prop) (post : α → σ → Prop) : Task Request Answer α → σ → Prop
  | done value, s => post value s
  | ask request next, s =>
    rule s request ∧ ∀ answer t, answers request s answer t → (next answer).Obeys rule post t

/-- A run of a task: the answers that it got led from the first state to the value and the last
state. -/
inductive Runs : Task Request Answer α → σ → α → σ → Prop where
  | done {value : α} {s : σ} : Runs (.done value) s value s
  | ask {request : Request} {next : Answer request → Task Request Answer α}
      {answer : Answer request} {value : α} {s t u : σ} :
      answers request s answer t → Runs (next answer) t value u → Runs (.ask request next) s value u

end

variable {answers : (request : Request) → σ → Answer request → σ → Prop}
  {rule : σ → Request → Prop}

@[simp] theorem obeys_ask {post : α → σ → Prop} {request : Request}
    {next : Answer request → Task Request Answer α} {s : σ} :
    (ask request next).Obeys answers rule post s ↔ rule s request ∧
      ∀ answer t, answers request s answer t → (next answer).Obeys answers rule post t := Iff.rfl

/-- A task and what follows it obey a rule when the first part does, up to a state in which the
second part does. -/
theorem obeys_bind {post : β → σ → Prop} {t : Task Request Answer α}
    {f : α → Task Request Answer β} {s : σ} :
    (t.bind f).Obeys answers rule post s ↔
      t.Obeys answers rule (fun value u => (f value).Obeys answers rule post u) s := by
  induction t generalizing s with
  | done value => exact Iff.rfl
  | ask request next ih =>
      simp only [bind_ask, obeys_ask]
      exact and_congr_right fun _ =>
        forall_congr' fun answer => forall_congr' fun u => imp_congr_right fun _ => ih answer

theorem Obeys.imp {post post' : α → σ → Prop} {t : Task Request Answer α} {s : σ}
    (h : t.Obeys answers rule post s) (himp : ∀ value u, post value u → post' value u) :
    t.Obeys answers rule post' s := by
  induction t generalizing s with
  | done value => exact himp value s h
  | ask request next ih =>
      exact ⟨h.1, fun answer u hanswer => ih answer (h.2 answer u hanswer)⟩

theorem Obeys.imp_rule {rule' : σ → Request → Prop} {post : α → σ → Prop}
    {t : Task Request Answer α} {s : σ} (h : t.Obeys answers rule post s)
    (himp : ∀ u request, rule u request → rule' u request) : t.Obeys answers rule' post s := by
  induction t generalizing s with
  | done value => exact h
  | ask request next ih =>
      exact ⟨himp s request h.1, fun answer u hanswer => ih answer (h.2 answer u hanswer)⟩

/-- What holds of every value and state holds at the end. -/
theorem obeys_of_forall {post : α → σ → Prop} (hpost : ∀ value s, post value s)
    (t : Task Request Answer α) (s : σ) : t.Obeys answers (fun _ _ => True) post s := by
  induction t generalizing s with
  | done value => exact hpost value s
  | ask request next ih => exact ⟨trivial, fun answer u _ => ih answer u⟩

/-- A task that obeys two rules obeys both at once. -/
theorem Obeys.and {rule' : σ → Request → Prop} {post post' : α → σ → Prop}
    {t : Task Request Answer α} {s : σ} (h : t.Obeys answers rule post s)
    (h' : t.Obeys answers rule' post' s) :
    t.Obeys answers (fun u request => rule u request ∧ rule' u request)
      (fun value u => post value u ∧ post' value u) s := by
  induction t generalizing s with
  | done value => exact ⟨h, h'⟩
  | ask request next ih =>
      exact ⟨⟨h.1, h'.1⟩, fun answer u hanswer => ih answer (h.2 answer u hanswer)
        (h'.2 answer u hanswer)⟩

/-- What every allowed request keeps holds at the end as well. -/
theorem Obeys.and_inv {post : α → σ → Prop} {inv : σ → Prop} {t : Task Request Answer α} {s : σ}
    (h : t.Obeys answers rule post s)
    (hstep : ∀ s request answer u, inv s → rule s request → answers request s answer u → inv u)
    (hinv : inv s) : t.Obeys answers rule (fun value u => post value u ∧ inv u) s := by
  induction t generalizing s with
  | done value => exact ⟨h, hinv⟩
  | ask request next ih =>
      exact ⟨h.1, fun answer u hanswer =>
        ih answer (h.2 answer u hanswer) (hstep _ _ _ _ hinv h.1 hanswer)⟩

theorem Obeys.of_runs {post : α → σ → Prop} {t : Task Request Answer α} {s u : σ} {value : α}
    (h : t.Obeys answers rule post s) (run : t.Runs answers s value u) : post value u := by
  induction run with
  | done => exact h
  | ask hanswer _ ih => exact ih (h.2 _ _ hanswer)

/-- A task that asks only what will be answered has a run. -/
theorem Obeys.exists_runs {post : α → σ → Prop} {t : Task Request Answer α} {s : σ}
    (h : t.Obeys answers rule post s)
    (hanswered : ∀ s request, rule s request → ∃ answer u, answers request s answer u) :
    ∃ value u, t.Runs answers s value u := by
  induction t generalizing s with
  | done value => exact ⟨value, s, .done⟩
  | ask request next ih =>
      obtain ⟨answer, u, hanswer⟩ := hanswered s request h.1
      obtain ⟨value, v, hrest⟩ := ih answer (h.2 answer u hanswer)
      exact ⟨value, v, .ask hanswer hrest⟩

theorem runs_bind {t : Task Request Answer α} {f : α → Task Request Answer β} {s u : σ}
    {value : β} : (t.bind f).Runs answers s value u ↔
      ∃ middle v, t.Runs answers s middle v ∧ (f middle).Runs answers v value u := by
  constructor
  · intro run
    induction t generalizing s with
    | done middle => exact ⟨middle, s, .done, run⟩
    | ask request next ih =>
        cases run with
        | ask hanswer hrest =>
            obtain ⟨middle, v, hfirst, hsecond⟩ := ih _ hrest
            exact ⟨middle, v, .ask hanswer hfirst, hsecond⟩
  · intro h
    obtain ⟨middle, v, hfirst, hsecond⟩ := h
    induction hfirst with
    | done => exact hsecond
    | ask hanswer _ ih => exact .ask hanswer (ih hsecond)

/-- A task that runs to its end among surroundings that keep to `answers` is a run. -/
theorem runs_of_run {respond : (request : Request) → σ → Except Stop (Answer request) × σ}
    (hrespond : ∀ request s answer u, respond request s = (.ok answer, u) →
      answers request s answer u)
    {t : Task Request Answer α} {s u : σ} {value : α} (h : t.run respond s = (.ok value, u)) :
    t.Runs answers s value u := by
  induction t generalizing s with
  | done =>
      obtain ⟨hvalue, rfl⟩ := Prod.mk.inj h
      obtain rfl := Except.ok.inj hvalue
      exact .done
  | ask request next ih =>
      rw [run] at h
      split at h
      · rename_i answer v hanswer
        exact .ask (hrespond _ _ _ _ hanswer) (ih _ h)
      · cases (Prod.mk.inj h).1

end Task

end Dunning
