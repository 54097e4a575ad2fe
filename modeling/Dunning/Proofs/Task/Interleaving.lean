import Dunning.Proofs.Task.Conduct
import Mathlib.Logic.Relation

/-!
# Tasks side by side

Any number of tasks share their surroundings and take turns: each step answers one request of one of
them. The log of the requests, each with the place of the task that made it, is the history of an
interleaving.

A task knows only what it was told itself. Its conduct is therefore stated in its own view, where
the requests and answers of its past are all there is, and proved once along its tree. What the
tasks do to the surroundings together is an invariant of state and log, in which each task is
represented by its own part of the log.

## Main definitions

* `Exchange` — a request with its answer.
* `Task.Told`, `Task.Hears` — the surroundings in the view of a single task, with any answers or with
  some.
* `Interleaving` — the state, the log and what is left of each task.
* `Interleaving.Step`, `Interleaving.Reaches` — one step and any number of them.
* `Interleaving.told` — the part of a log that belongs to one task.
* `Interleaving.schedule` — the interleaving in which the tasks take turns in a given order.

## Main results

* `Interleaving.Lawful.reaches` — every task keeps to its rule in its own view.
* `Interleaving.Lawful.keeps` — what every allowed request keeps of state and log holds throughout.
* `Task.Obeys.along` — the same for a task that runs undisturbed.
* `Interleaving.reaches_schedule` — a schedule is an interleaving.
-/

namespace Dunning

/-- A request with the answer that it got. -/
structure Exchange (Request : Type) (Answer : Request → Type) where
  request : Request
  answer : Answer request

namespace Task

variable {Request : Type} {Answer : Request → Type} {α σ : Type}

/-- Whether a task has ended. -/
def isDone : Task Request Answer α → Bool
  | done _ => true
  | ask _ _ => false

/-- The surroundings in the view of a single task: all that changes is what it was told, the latest
first. -/
def Told (request : Request) (past : List (Exchange Request Answer)) (answer : Answer request)
    (later : List (Exchange Request Answer)) : Prop :=
  later = ⟨request, answer⟩ :: past

variable {rule : List (Exchange Request Answer) → Request → Prop}
  {post : α → List (Exchange Request Answer) → Prop}

theorem obeys_told {request : Request} {next : Answer request → Task Request Answer α}
    {past : List (Exchange Request Answer)} :
    (ask request next).Obeys Told rule post past ↔ rule past request ∧
      ∀ answer, (next answer).Obeys Told rule post (⟨request, answer⟩ :: past) := by
  rw [obeys_ask]
  refine and_congr_right fun _ => ⟨fun h answer => h answer _ rfl, ?_⟩
  intro h answer later hlater
  subst hlater
  exact h answer

theorem runs_told {request : Request} {next : Answer request → Task Request Answer α}
    {past later : List (Exchange Request Answer)} {value : α} :
    (ask request next).Runs Told past value later ↔
      ∃ answer, (next answer).Runs Told (⟨request, answer⟩ :: past) value later := by
  constructor
  · intro run
    cases run with
    | @ask _ _ answer _ _ middle _ hanswer hrest =>
        subst hanswer
        exact ⟨answer, hrest⟩
  · rintro ⟨answer, hrest⟩
    exact .ask rfl hrest

/-- What a task was told stays told. -/
theorem Obeys.told_suffix {t : Task Request Answer α} {past : List (Exchange Request Answer)}
    (h : t.Obeys Told rule post past) :
    t.Obeys Told rule (fun value later => post value later ∧ past <:+ later) past := by
  refine h.and_inv ?_ (List.suffix_refl past)
  intro middle request answer later hmiddle _ hlater
  rw [show later = _ from hlater]
  exact hmiddle.trans (List.suffix_cons _ _)

/-- The surroundings in the view of a single task when only some answers are possible. -/
def Hears (fair : Exchange Request Answer → Prop) (request : Request)
    (past : List (Exchange Request Answer)) (answer : Answer request)
    (later : List (Exchange Request Answer)) : Prop :=
  fair ⟨request, answer⟩ ∧ later = ⟨request, answer⟩ :: past

variable {fair : Exchange Request Answer → Prop}

theorem obeys_hears {request : Request} {next : Answer request → Task Request Answer α}
    {past : List (Exchange Request Answer)} :
    (ask request next).Obeys (Hears fair) rule post past ↔ rule past request ∧
      ∀ answer, fair ⟨request, answer⟩ →
        (next answer).Obeys (Hears fair) rule post (⟨request, answer⟩ :: past) := by
  rw [obeys_ask]
  refine and_congr_right fun _ => ⟨fun h answer hfair => h answer _ ⟨hfair, rfl⟩, ?_⟩
  rintro h answer later ⟨hfair, rfl⟩
  exact h answer hfair

theorem Obeys.hears_suffix {t : Task Request Answer α} {past : List (Exchange Request Answer)}
    (h : t.Obeys (Hears fair) rule post past) :
    t.Obeys (Hears fair) rule (fun value later => post value later ∧ past <:+ later) past := by
  refine h.and_inv ?_ (List.suffix_refl past)
  rintro middle request answer later hmiddle - ⟨-, rfl⟩
  exact hmiddle.trans (List.suffix_cons _ _)

private theorem obeys_of_unfair {t : Task Request Answer α} {past : List (Exchange Request Answer)}
    (h : ∃ x ∈ past, ¬ fair x) :
    t.Obeys Told (fun past request => (∀ x ∈ past, fair x) → rule past request)
      (fun value past => (∀ x ∈ past, fair x) → post value past) past := by
  induction t generalizing past with
  | done value =>
      obtain ⟨x, hx, hunfair⟩ := h
      exact fun hfair => absurd (hfair x hx) hunfair
  | ask request next ih =>
      obtain ⟨x, hx, hunfair⟩ := h
      refine obeys_told.mpr ⟨fun hfair => absurd (hfair x hx) hunfair, fun answer => ih answer ?_⟩
      exact ⟨x, List.mem_cons_of_mem _ hx, hunfair⟩

/-- A task keeps to its rule as long as it gets none but possible answers. -/
theorem Obeys.of_hears {t : Task Request Answer α} {past : List (Exchange Request Answer)}
    (h : t.Obeys (Hears fair) rule post past) :
    t.Obeys Told (fun past request => (∀ x ∈ past, fair x) → rule past request)
      (fun value past => (∀ x ∈ past, fair x) → post value past) past := by
  induction t generalizing past with
  | done value => exact fun _ => h
  | ask request next ih =>
      refine obeys_told.mpr ⟨fun _ => h.1, fun answer => ?_⟩
      by_cases hfair : fair ⟨request, answer⟩
      · exact ih answer (h.2 answer _ ⟨hfair, rfl⟩)
      · exact obeys_of_unfair ⟨_, List.mem_cons_self, hfair⟩

/-- Whether a task keeps to a rule after a history, however it ends. -/
def Keeps (fair : Exchange Request Answer → Prop)
    (rule : List (Exchange Request Answer) → Request → Prop)
    (past : List (Exchange Request Answer)) (t : Task Request Answer α) : Prop :=
  t.Obeys (Hears fair) rule (fun _ _ => True) past

namespace Keeps

variable {β : Type} {past : List (Exchange Request Answer)}

theorem done (value : α) : (Task.done value : Task Request Answer α).Keeps fair rule past := trivial

theorem ask {request : Request} {next : Answer request → Task Request Answer α}
    (h : rule past request) (hnext : ∀ answer, fair ⟨request, answer⟩ →
      (next answer).Keeps fair rule (⟨request, answer⟩ :: past)) :
    (Task.ask request next).Keeps fair rule past := obeys_hears.mpr ⟨h, hnext⟩

/-- A request whatever is answered. -/
theorem call {request : Request} {next : Answer request → Task Request Answer α}
    (h : rule past request) (hnext : ∀ answer later, (next answer).Keeps fair rule later) :
    (Task.ask request next).Keeps fair rule past := ask h fun answer _ => hnext answer _

theorem bind {t : Task Request Answer α} {f : α → Task Request Answer β}
    (h : t.Keeps fair rule past)
    (hf : ∀ value later, past ⊆ later → (f value).Keeps fair rule later) :
    (t.bind f).Keeps fair rule past := by
  refine obeys_bind.mpr (h.hears_suffix.imp ?_)
  rintro value later ⟨-, hsuffix⟩
  exact hf value later hsuffix.subset

end Keeps

/-- A task that runs undisturbed: what each allowed request keeps between the surroundings and what
the task was told holds at its end. -/
theorem Obeys.along {answers : (request : Request) → σ → Answer request → σ → Prop}
    {relation : σ → List (Exchange Request Answer) → Prop} {t : Task Request Answer α}
    {past : List (Exchange Request Answer)} {s u : σ} {value : α}
    (h : t.Obeys Told rule post past) (run : t.Runs answers s value u)
    (hstep : ∀ s past request answer u, relation s past → rule past request →
      answers request s answer u → relation u (⟨request, answer⟩ :: past))
    (hs : relation s past) : ∃ later, post value later ∧ relation u later := by
  induction run generalizing past with
  | done => exact ⟨past, h, hs⟩
  | ask hanswer _ ih =>
      obtain ⟨hrule, hnext⟩ := obeys_told.mp h
      exact ih (hnext _) (hstep _ _ _ _ _ hs hrule hanswer)

end Task

/-- What some tasks have come to that take turns. -/
structure Interleaving (Request : Type) (Answer : Request → Type) (σ α : Type) where
  /-- The state of the surroundings. -/
  state : σ
  /-- What was asked and answered, the latest first, with the place of the task that asked. -/
  log : List (Nat × Exchange Request Answer) := []
  /-- What is left of each task. -/
  running : List (Task Request Answer α) := []

namespace Interleaving

variable {Request : Type} {Answer : Request → Type} {σ α : Type}

/-- The rules of an interleaving. -/
structure Rules (Request : Type) (Answer : Request → Type) (σ α : Type) where
  /-- Which tasks may join. -/
  starts : Task Request Answer α → Prop
  /-- How requests may be answered. -/
  answers : (request : Request) → σ → Answer request → σ → Prop

/-- One step: a task joins, or one request of one task is answered. -/
inductive Step (rules : Rules Request Answer σ α) :
    Interleaving Request Answer σ α → Interleaving Request Answer σ α → Prop where
  | start {s : σ} {log : List (Nat × Exchange Request Answer)}
      {running : List (Task Request Answer α)} {t : Task Request Answer α} :
      rules.starts t → Step rules ⟨s, log, running⟩ ⟨s, log, running ++ [t]⟩
  | answer {s u : σ} {log : List (Nat × Exchange Request Answer)}
      {running : List (Task Request Answer α)} {place : Nat} {request : Request}
      {next : Answer request → Task Request Answer α} {answer : Answer request} :
      running[place]? = some (.ask request next) → rules.answers request s answer u →
      Step rules ⟨s, log, running⟩
        ⟨u, (place, ⟨request, answer⟩) :: log, running.set place (next answer)⟩

/-- Any number of steps. -/
def Reaches (rules : Rules Request Answer σ α) :
    Interleaving Request Answer σ α → Interleaving Request Answer σ α → Prop :=
  Relation.ReflTransGen (Step rules)

/-- Whether every task has ended. -/
def AtRest (q : Interleaving Request Answer σ α) : Prop :=
  q.running.all Task.isDone = true

/-- The part of a log that belongs to the task of a place. -/
def told (place : Nat) : List (Nat × Exchange Request Answer) → List (Exchange Request Answer)
  | [] => []
  | (other, exchange) :: log => if other = place then exchange :: told place log else told place log

@[simp] theorem told_cons_self (place : Nat) (exchange : Exchange Request Answer)
    (log : List (Nat × Exchange Request Answer)) :
    told place ((place, exchange) :: log) = exchange :: told place log := if_pos rfl

theorem told_cons_of_ne {place other : Nat} (h : other ≠ place)
    (exchange : Exchange Request Answer) (log : List (Nat × Exchange Request Answer)) :
    told place ((other, exchange) :: log) = told place log := if_neg h

theorem told_suffix_cons (place : Nat) (event : Nat × Exchange Request Answer)
    (log : List (Nat × Exchange Request Answer)) :
    told place log <:+ told place (event :: log) := by
  obtain ⟨other, exchange⟩ := event
  by_cases hsame : other = place
  · subst hsame
    exact ⟨[exchange], (told_cons_self other exchange log).symm⟩
  · exact ⟨[], (told_cons_of_ne hsame exchange log).symm⟩

/-- What a task was told is the exchange that came last, when that is its own, or was told before. -/
theorem mem_told_cons {place other : Nat} {exchange last : Exchange Request Answer}
    {log : List (Nat × Exchange Request Answer)} :
    exchange ∈ told place ((other, last) :: log) ↔
      (other = place ∧ exchange = last) ∨ exchange ∈ told place log := by
  by_cases hsame : other = place
  · subst hsame
    rw [told_cons_self, List.mem_cons]
    simp only [true_and]
  · rw [told_cons_of_ne hsame]
    simp only [hsame, false_and, false_or]

theorem mem_of_mem_told {place : Nat} {exchange : Exchange Request Answer}
    {log : List (Nat × Exchange Request Answer)} (h : exchange ∈ told place log) :
    (place, exchange) ∈ log := by
  induction log with
  | nil => cases h
  | cons event log ih =>
      rcases mem_told_cons.mp h with ⟨rfl, rfl⟩ | hmem
      · exact List.mem_cons_self
      · exact List.mem_cons_of_mem _ (ih hmem)

/-! ## Conduct -/

variable {rules : Rules Request Answer σ α}
  {rule : List (Exchange Request Answer) → Request → Prop}
  {post : α → List (Exchange Request Answer) → Prop}

/-- How the tasks of an interleaving conduct themselves: each keeps to the rule in its own view. -/
def Conduct (rules : Rules Request Answer σ α)
    (rule : List (Exchange Request Answer) → Request → Prop)
    (post : α → List (Exchange Request Answer) → Prop) : Prop :=
  ∀ t : Task Request Answer α, rules.starts t → t.Obeys Task.Told rule post []

/-- Each task will keep to the rule, given its part of the log. -/
structure Lawful (rule : List (Exchange Request Answer) → Request → Prop)
    (post : α → List (Exchange Request Answer) → Prop) (q : Interleaving Request Answer σ α) :
    Prop where
  obeys : ∀ (place : Nat) (t : Task Request Answer α), q.running[place]? = some t →
    t.Obeys Task.Told rule post (told place q.log)
  /-- Nothing is logged for a task that has not joined. -/
  fresh : ∀ place, q.running.length ≤ place → told place q.log = []

theorem Lawful.of_empty (s : σ) :
    Lawful rule post (⟨s, [], []⟩ : Interleaving Request Answer σ α) :=
  ⟨nofun, fun _ _ => rfl⟩

theorem Lawful.step {q r : Interleaving Request Answer σ α}
    (conduct : Conduct rules rule post) (lawful : Lawful rule post q)
    (step : Step rules q r) : Lawful rule post r := by
  obtain ⟨obeys, fresh⟩ := lawful
  cases step with
  | @start s log running t hstarts =>
      refine ⟨?_, ?_⟩
      · intro place u hplace
        rcases Nat.lt_trichotomy place running.length with hlt | rfl | hgt
        · rw [List.getElem?_append_left hlt] at hplace
          exact obeys place u hplace
        · rw [List.getElem?_concat_length, Option.some.injEq] at hplace
          subst hplace
          rw [show told running.length log = [] from fresh _ (Nat.le_refl _)]
          exact conduct _ hstarts
        · rw [List.getElem?_eq_none (by simp; omega)] at hplace
          cases hplace
      · intro place hlength
        exact fresh place (Nat.le_trans (by simp) hlength)
  | @answer s u log running place request next answer hask hanswers =>
      have hplace : place < running.length := (List.getElem?_eq_some_iff.mp hask).1
      refine ⟨?_, ?_⟩
      · intro other t hother
        -- The exchange belongs to the part of one task only; the others stay as they are.
        by_cases hsame : place = other
        · subst hsame
          rw [List.getElem?_set_self hplace, Option.some.injEq] at hother
          subst hother
          rw [told_cons_self]
          exact (Task.obeys_told.mp (obeys place _ hask)).2 _
        · rw [List.getElem?_set_ne hsame] at hother
          rw [told_cons_of_ne hsame]
          exact obeys other t hother
      · intro other hlength
        rw [List.length_set] at hlength
        rw [told_cons_of_ne (by omega)]
        exact fresh other hlength

/-- **Every task keeps to its rule.** -/
theorem Lawful.reaches {q r : Interleaving Request Answer σ α}
    (conduct : Conduct rules rule post) (lawful : Lawful rule post q)
    (h : Reaches rules q r) : Lawful rule post r := by
  induction h with
  | refl => exact lawful
  | tail _ step ih => exact ih.step conduct step

/-- **What every allowed request keeps of state and log holds throughout.** -/
theorem Lawful.keeps {inv : σ → List (Nat × Exchange Request Answer) → Prop}
    {q r : Interleaving Request Answer σ α} (conduct : Conduct rules rule post)
    (lawful : Lawful rule post q) (h : Reaches rules q r)
    (hstep : ∀ s log place request answer u, inv s log → rule (told place log) request →
      rules.answers request s answer u → inv u ((place, ⟨request, answer⟩) :: log))
    (hq : inv q.state q.log) : inv r.state r.log := by
  induction h with
  | refl => exact hq
  | tail hreach step ih =>
      have hlawful := lawful.reaches conduct hreach
      cases step with
      | start => exact ih
      | answer hask hanswers =>
          exact hstep _ _ _ _ _ _ ih (Task.obeys_told.mp (hlawful.obeys _ _ hask)).1 hanswers

/-- When every task has ended, each that asked anything has ended as it should. -/
theorem Lawful.ended {q : Interleaving Request Answer σ α} (lawful : Lawful rule post q)
    (hrest : q.AtRest) (place : Nat) :
    told place q.log = [] ∨ ∃ value, post value (told place q.log) := by
  rcases Nat.lt_or_ge place q.running.length with hlt | hge
  · have hobeys := lawful.obeys place _ (List.getElem?_eq_getElem hlt)
    have hdone := List.all_eq_true.mp hrest _ (List.getElem_mem hlt)
    cases hplace : q.running[place] with
    | done value =>
        rw [hplace] at hobeys
        exact .inr ⟨value, hobeys⟩
    | ask request next =>
        rw [hplace] at hdone
        cases hdone
  · exact .inl (lawful.fresh place hge)

/-! ## Schedules -/

/-- Answer the next request of the task of a place, if there is one. -/
def advance (respond : (request : Request) → σ → Except Stop (Answer request) × σ)
    (q : Interleaving Request Answer σ α) (place : Nat) : Interleaving Request Answer σ α :=
  match q.running[place]? with
  | some (.ask request next) =>
    match respond request q.state with
    | (.ok answer, u) =>
      ⟨u, (place, ⟨request, answer⟩) :: q.log, q.running.set place (next answer)⟩
    | (.error _, _) => q
  | _ => q

/-- Let the tasks take turns in the order of some places. -/
def schedule (respond : (request : Request) → σ → Except Stop (Answer request) × σ)
    (places : List Nat) (q : Interleaving Request Answer σ α) : Interleaving Request Answer σ α :=
  places.foldl (advance respond) q

theorem reaches_advance {respond : (request : Request) → σ → Except Stop (Answer request) × σ}
    (hrespond : ∀ request s answer u, respond request s = (.ok answer, u) →
      rules.answers request s answer u)
    (q : Interleaving Request Answer σ α) (place : Nat) :
    Reaches rules q (q.advance respond place) := by
  obtain ⟨s, log, running⟩ := q
  unfold advance
  split
  · rename_i request next hask
    split
    · rename_i answer u hanswer
      exact Relation.ReflTransGen.single (.answer hask (hrespond _ _ _ _ hanswer))
    · exact Relation.ReflTransGen.refl
  · exact Relation.ReflTransGen.refl

/-- A schedule is an interleaving. -/
theorem reaches_schedule {respond : (request : Request) → σ → Except Stop (Answer request) × σ}
    (hrespond : ∀ request s answer u, respond request s = (.ok answer, u) →
      rules.answers request s answer u)
    (places : List Nat) (q : Interleaving Request Answer σ α) :
    Reaches rules q (q.schedule respond places) := by
  induction places generalizing q with
  | nil => exact Relation.ReflTransGen.refl
  | cons place rest ih => exact (reaches_advance hrespond q place).trans (ih _)

/-- Some tasks join one after another. -/
theorem reaches_started {tasks : List (Task Request Answer α)}
    (hstarts : ∀ t ∈ tasks, rules.starts t) (q : Interleaving Request Answer σ α) :
    Reaches rules q { q with running := q.running ++ tasks } := by
  induction tasks generalizing q with
  | nil =>
      rw [List.append_nil]
      exact Relation.ReflTransGen.refl
  | cons t rest ih =>
      have hfirst : Step rules q { q with running := q.running ++ [t] } :=
        .start (hstarts t List.mem_cons_self)
      have hrest := ih (fun u hu => hstarts u (List.mem_cons_of_mem t hu))
        { q with running := q.running ++ [t] }
      rw [List.append_assoc] at hrest
      exact Relation.ReflTransGen.head hfirst hrest

end Interleaving

end Dunning
