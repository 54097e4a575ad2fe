import Dunning.Proofs.Dispatch.Shifts
import Dunning.Proofs.Work.GivenUp
import Dunning.Simulation.World

/-!
# Reports of items that were given up

Any number of dispatchers work side by side over one store and report to one place what they give up.
Others use the store as well. Calls to the store go through or fail without effect, and what handlers
say is open.

An item that was given up is reported, or it is among the dues of one handling, and it is that only
once. This is an equation up to order between the reports and the dues on one side and the items that
the store has given up on the other, and every request keeps it: a dead letter that counts adds the
same item on both sides, and a report moves it from the dues to the reports.

## Main definitions

* `Desk`, `Desk.Answers` — the store and the reports, and how requests are answered.
* `Desk.rules` — dispatchers side by side, and others.
* `Desk.Sound` — the handlings keep to their rule, and the reports agree with the store.
* `Desk.Kept` — what all requests keep of the desk and the dispatchers.

## Main results

* `Desk.Answers.accounts` — what a request does to the items that were given up.
* `Desk.Kept.reaches` — what all requests keep holds in every state that is come to.
* `Desk.sound_kept` — all requests keep the reports in agreement.
-/

namespace Dunning

open Simulation (refuseWork)

/-- What dispatchers share. -/
structure Desk where
  store : WorkStore := {}
  /-- The items that were reported, with the reasons, the latest first. -/
  reports : Dues := []

/-- Whether a task neither claims, settles nor reports items. -/
def PollTask.StandsAside (t : PollTask Unit) : Prop :=
  t.Obeys (fun _ (_ : Unit) _ _ => True) (fun _ request => request.isAside = true)
    (fun _ _ => True) ()

namespace Desk

/-- How a request may be answered, and what is stored afterwards. A call to the store goes through or
fails without effect. -/
def Stores : (request : PollRequest) → WorkStore → request.Answer → WorkStore → Prop
  | .work request, store, answer, later =>
    (∃ clock fresh, store.Step ⟨clock, fresh, request, answer⟩ later) ∨
      (∃ e, answer = refuseWork e request) ∧ later = store
  | _, store, _, later => later = store

/-- How a request may be answered, and what is shared afterwards. -/
def Answers (request : PollRequest) (desk : Desk) (answer : request.Answer) (later : Desk) : Prop :=
  Stores request desk.store answer later.store ∧ later.reports = request.report ++ desk.reports

/-- The rules of dispatchers side by side. Any other user of the store may join. -/
def rules : Interleaving.Rules PollRequest PollRequest.Answer Desk Unit where
  starts := PollTask.StandsAside
  answers := Answers

end Desk

/-! ## Requests -/

namespace PollRequest

/-- What is to be reported after an event of the store is what it gave up. -/
theorem due_work (clock : Instant) (fresh : ItemId) (request : WorkRequest)
    (answer : request.Answer) :
    (work request).due answer = WorkEvent.givesUp ⟨clock, fresh, request, answer⟩ := by
  cases request with
  | settle id claimer settlement =>
      cases settlement with
      | deadLetter reason => rcases answer with e | _ | _ <;> rfl
      | _ => rfl
  | _ => rfl

theorem due_refuseWork (e : StoreError) (request : WorkRequest) :
    (work request).due (refuseWork e request) = [] := by
  cases request with
  | settle => exact due_settle (by rintro ⟨⟩)
  | _ => rfl

theorem dues_of_isAside {request : PollRequest} (h : request.isAside = true) :
    request.report = [] ∧ ∀ answer, request.due answer = [] := by
  cases request with
  | work request =>
      refine ⟨rfl, fun answer => ?_⟩
      cases request with
      | settle => cases h
      | _ => rfl
  | count => exact ⟨rfl, fun _ => rfl⟩
  | invoke => cases h
  | reportDead => cases h

end PollRequest

namespace Desk

variable {desk later : Desk} {request : PollRequest} {answer : request.Answer}

/-- A request is an event of the store, or it changes nothing there. -/
theorem Answers.cases (h : Answers request desk answer later) :
    (later.store = desk.store ∧ request.due answer = []) ∨
      ∃ e : WorkEvent, request = .work e.request ∧ request.due answer = e.givesUp ∧
        desk.store.Step e later.store := by
  obtain ⟨hstores, -⟩ := h
  cases request with
  | work request =>
      rcases hstores with ⟨clock, fresh, step⟩ | ⟨⟨e, rfl⟩, hstore⟩
      · exact .inr ⟨_, rfl, PollRequest.due_work clock fresh request answer, step⟩
      · exact .inl ⟨hstore, PollRequest.due_refuseWork e request⟩
  | _ => exact .inl ⟨hstores, rfl⟩

/-- **What a request does to the items that were given up.** -/
theorem Answers.accounts (h : Answers request desk answer later) (distinct : desk.store.Distinct) :
    later.store.Distinct ∧ later.store.givenUp.Perm (request.due answer ++ desk.store.givenUp) := by
  rcases h.cases with ⟨hstore, hdue⟩ | ⟨e, -, hdue, step⟩
  · rw [hstore, hdue]
    exact ⟨distinct, .refl _⟩
  · rw [hdue]
    exact ⟨step.distinct distinct, step.givenUp_perm distinct⟩

end Desk

/-! ## One dispatcher -/

namespace Shift

/-- What the handlings are to report. -/
def dues (s : Shift) : Dues := s.jobs.flatMap Job.dues

/-- Whether the handlings keep to their rule. -/
def Minds (s : Shift) : Prop :=
  ∀ job ∈ s.jobs, s.dispatcher.MindsIn job.item job.dues job.rest

variable {s t : Shift} {request : PollRequest} {answer : request.Answer}

/-- Nothing is left to report when a poll is over. -/
theorem IsOver.dues_eq (h : s.IsOver) (minds : s.Minds) : s.dues = [] := by
  refine List.flatMap_eq_nil_iff.mpr ?_
  intro job hjob
  have hminds := minds job hjob
  have hdone := h.2 job hjob
  cases hrest : job.rest with
  | done value =>
      rw [hrest] at hminds
      exact hminds
  | ask request next =>
      rw [hrest] at hdone
      cases hdone

/-- A handling that makes a request makes one that it may make. -/
theorem Minds.ask (minds : s.Minds) {job : Job} {others : List Job}
    {next : request.Answer → PollTask Unit} (hjobs : s.jobs.Perm (job :: others))
    (hrest : job.rest = .ask request next) :
    s.dispatcher.Minds job.item job.dues request ∧
      ∀ answer, s.dispatcher.MindsIn job.item (request.due answer) (next answer) := by
  have hminds := minds job (hjobs.symm.subset List.mem_cons_self)
  rw [hrest] at hminds
  obtain ⟨hrule, hnext⟩ := Task.obeys_ask.mp hminds
  exact ⟨hrule, fun answer => hnext answer _ rfl⟩

/-- **One request of a dispatcher.** The handlings go on as they may; what a report takes from their
dues it adds to the reports, and what is given up is due. -/
theorem Moves.minds (h : s.Moves request answer t) (minds : s.Minds) :
    t.Minds ∧ (request.report ++ t.dues).Perm (request.due answer ++ s.dues) := by
  cases h with
  | aside haside =>
      obtain ⟨hreport, hdue⟩ := PollRequest.dues_of_isAside haside
      rw [hreport, hdue]
      exact ⟨minds, .refl _⟩
  | @claim queue rest answer hahead =>
      refine ⟨?_, ?_⟩
      · intro job hjob
        rcases List.mem_append.mp hjob with hold | hnew
        · exact minds job hold
        · obtain ⟨item, -, rfl⟩ := List.mem_map.mp hnew
          exact s.dispatcher.process_minds item s.now
      · have hnew : ((claimed answer).map (s.dispatcher.job s.now)).flatMap Job.dues = [] := by
          refine List.flatMap_eq_nil_iff.mpr ?_
          intro job hjob
          obtain ⟨item, -, rfl⟩ := List.mem_map.mp hjob
          rfl
        refine .of_eq ?_
        show (s.jobs ++ _).flatMap Job.dues = s.jobs.flatMap Job.dues
        rw [List.flatMap_append, hnew, List.append_nil]
  | ask hjobs hrest =>
      obtain ⟨hrule, hnext⟩ := minds.ask hjobs hrest
      refine ⟨?_, ?_⟩
      · refine List.forall_mem_cons.mpr ⟨hnext answer, ?_⟩
        intro job hjob
        exact minds job (hjobs.symm.subset (List.mem_cons_of_mem _ hjob))
      · have hdues := hjobs.flatMap_right Job.dues
        rw [List.flatMap_cons, hrule.eq_report] at hdues
        show (request.report ++ (request.due answer ++ _)).Perm _
        exact List.perm_append_comm_assoc _ _ _ |>.trans (hdues.symm.append_left _)

end Shift

/-! ## Dispatchers side by side -/

namespace Desk

variable {desk later : Desk} {crew : List Shift} {request : PollRequest} {answer : request.Answer}

/-- No two items have one identifier, the handlings keep to their rule, and what was given up was
reported or is due. -/
structure Sound (desk : Desk) (crew : List Shift) : Prop where
  distinct : desk.store.Distinct
  minds : ∀ s ∈ crew, s.Minds
  reported : (desk.reports ++ crew.flatMap Shift.dues).Perm desk.store.givenUp

/-- What polls that begin, requests of dispatchers and asides keep. -/
structure Kept (inv : Desk → List Shift → Prop) : Prop where
  perm : ∀ {desk crew crew'}, inv desk crew → crew'.Perm crew → inv desk crew'
  poll : ∀ {desk s others}, inv desk (s :: others) → s.IsOver →
    ∀ now, inv desk (s.dispatcher.shift now :: others)
  moves : ∀ {desk s t others request answer later}, inv desk (s :: others) →
    s.Moves request answer t → Answers request desk answer later → inv later (t :: others)
  aside : ∀ {desk crew request answer later}, inv desk crew → request.isAside = true →
    Answers request desk answer later → inv later crew

theorem Sound.perm {crew' : List Shift} (sound : desk.Sound crew) (hperm : crew'.Perm crew) :
    desk.Sound crew' where
  distinct := sound.distinct
  minds s hs := sound.minds s (hperm.subset hs)
  reported := ((hperm.flatMap_right _).append_left _).trans sound.reported

/-- A poll begins with nothing to handle or to report. -/
theorem Sound.poll {s : Shift} {others : List Shift} (sound : desk.Sound (s :: others))
    (hover : s.IsOver) (now : Instant) : desk.Sound (s.dispatcher.shift now :: others) := by
  obtain ⟨hminds, hothers⟩ := List.forall_mem_cons.mp sound.minds
  have hreported := sound.reported
  rw [List.flatMap_cons, hover.dues_eq hminds] at hreported
  exact ⟨sound.distinct, List.forall_mem_cons.mpr ⟨List.forall_mem_nil _, hothers⟩, hreported⟩

/-- **A request of a dispatcher keeps reports and store in agreement.** -/
theorem Sound.moves {s t : Shift} {others : List Shift} (sound : desk.Sound (s :: others))
    (hmoves : s.Moves request answer t) (hanswers : Answers request desk answer later) :
    later.Sound (t :: others) := by
  obtain ⟨hdistinct, hgivenUp⟩ := hanswers.accounts sound.distinct
  obtain ⟨hminds, hothers⟩ := List.forall_mem_cons.mp sound.minds
  obtain ⟨hnext, hdues⟩ := hmoves.minds hminds
  refine ⟨hdistinct, List.forall_mem_cons.mpr ⟨hnext, hothers⟩, .trans ?_ hgivenUp.symm⟩
  have hreported := sound.reported
  rw [List.flatMap_cons] at hreported
  rw [hanswers.2, List.flatMap_cons]
  -- Both sides are sums of the same lists, so they are compared entry by entry.
  rw [List.perm_iff_count] at hdues hreported ⊢
  intro entry
  have hmoved := hdues entry
  have hbefore := hreported entry
  simp only [List.count_append] at hmoved hbefore ⊢
  omega

theorem Sound.aside (sound : desk.Sound crew) (haside : request.isAside = true)
    (hanswers : Answers request desk answer later) : later.Sound crew := by
  obtain ⟨hdistinct, hgivenUp⟩ := hanswers.accounts sound.distinct
  obtain ⟨hreport, hdue⟩ := PollRequest.dues_of_isAside haside
  rw [hdue] at hgivenUp
  refine ⟨hdistinct, sound.minds, ?_⟩
  rw [hanswers.2, hreport]
  exact sound.reported.trans hgivenUp.symm

theorem sound_kept : Kept Sound where
  perm := Sound.perm
  poll := Sound.poll
  moves := Sound.moves
  aside := Sound.aside

/-! ### Every state that is come to -/

/-- What an interleaving has come to: some tasks are what is left of the lives of dispatchers, the
others stand aside. -/
structure Staffed (inv : Desk → List Shift → Prop)
    (q : Interleaving PollRequest PollRequest.Answer Desk Unit) (pool : List (Shift × PollTask Unit))
    (others : List (PollTask Unit)) : Prop where
  running : q.running = pool.map Prod.snd ++ others
  lives : ∀ p ∈ pool, p.1.Runs p.2
  aside : ∀ t ∈ others, PollTask.StandsAside t
  kept : inv q.state (pool.map Prod.fst)

private theorem perm_cons_of_set {α : Type} {l : List α} {n : Nat} {a : α} (h : l[n]? = some a) :
    ∃ rest, l.Perm (a :: rest) ∧ ∀ b, (l.set n b).Perm (b :: rest) := by
  obtain ⟨hn, rfl⟩ := List.getElem?_eq_some_iff.mp h
  refine ⟨l.eraseIdx n, (List.getElem_cons_eraseIdx_perm hn).symm, ?_⟩
  intro b
  have hset : n < (l.set n b).length := by rwa [List.length_set]
  have hperm := List.getElem_cons_eraseIdx_perm hset
  rw [List.getElem_set_self, List.eraseIdx_set_eq] at hperm
  exact hperm.symm

/-- A request of a dispatcher, perhaps the first one of a poll. -/
private theorem Kept.runs {inv : Desk → List Shift → Prop} (kept : Kept inv) {s : Shift}
    {others : List Shift} {next : request.Answer → PollTask Unit}
    (hruns : s.Runs (.ask request next)) (h : inv desk (s :: others))
    (hanswers : Answers request desk answer later) :
    ∃ t : Shift, t.Runs (next answer) ∧ inv later (t :: others) := by
  generalize htask : Task.ask request next = task at hruns
  induction hruns with
  | rest => cases htask
  | poll now hover _ ih => exact ih (kept.poll h hover now) htask
  | ask after hmoves hruns =>
      cases htask
      exact ⟨after answer, hruns answer, kept.moves h (hmoves answer) hanswers⟩

private theorem Kept.step {inv : Desk → List Shift → Prop} (kept : Kept inv)
    {q r : Interleaving PollRequest PollRequest.Answer Desk Unit} {pool : List (Shift × PollTask Unit)}
    {others : List (PollTask Unit)} (staffed : Staffed inv q pool others)
    (step : Interleaving.Step rules q r) : ∃ pool others, Staffed inv r pool others := by
  obtain ⟨hrunning, hlives, haside, hinv⟩ := staffed
  cases step with
  | @start state log running t hstarts =>
      obtain rfl : running = _ := hrunning
      refine ⟨pool, others ++ [t], List.append_assoc _ _ _, hlives, ?_, hinv⟩
      exact List.forall_mem_append.mpr ⟨haside, List.forall_mem_singleton.mpr hstarts⟩
  | @answer state later log running place request next answer hask hanswers =>
      obtain rfl : running = _ := hrunning
      rcases Nat.lt_or_ge place (pool.map Prod.snd).length with hlt | hge
      · rw [List.getElem?_append_left hlt, List.getElem?_map, Option.map_eq_some_iff] at hask
        obtain ⟨⟨s, task⟩, hplace, htask⟩ := hask
        obtain rfl : task = _ := htask
        obtain ⟨rest, hperm, hset⟩ := perm_cons_of_set hplace
        have hruns := hlives _ (List.mem_of_getElem? hplace)
        obtain ⟨t, hnext, hlater⟩ :=
          kept.runs hruns (kept.perm hinv (hperm.map Prod.fst).symm) hanswers
        have hpool := hset (t, next answer)
        refine ⟨pool.set place (t, next answer), others, ?_, ?_, haside, ?_⟩
        · rw [List.map_set]
          exact List.set_append_left _ _ hlt
        · intro p hp
          rcases List.mem_cons.mp (hpool.subset hp) with rfl | hrest
          · exact hnext
          · exact hlives p (hperm.symm.subset (List.mem_cons_of_mem _ hrest))
        · exact kept.perm hlater (hpool.map Prod.fst)
      · rw [List.getElem?_append_right hge] at hask
        obtain ⟨hrule, hnext⟩ := Task.obeys_ask.mp (haside _ (List.mem_of_getElem? hask))
        refine ⟨pool, others.set (place - (pool.map Prod.snd).length) (next answer), ?_, hlives, ?_,
          kept.aside hinv hrule hanswers⟩
        · exact List.set_append_right _ _ hge
        · intro t ht
          rcases List.mem_or_eq_of_mem_set ht with hold | rfl
          · exact haside t hold
          · exact hnext answer () trivial

/-- **What all requests keep holds in every state that is come to.** -/
theorem Kept.reaches {inv : Desk → List Shift → Prop} (kept : Kept inv)
    {q r : Interleaving PollRequest PollRequest.Answer Desk Unit} {pool : List (Shift × PollTask Unit)}
    {others : List (PollTask Unit)} (staffed : Staffed inv q pool others)
    (h : Interleaving.Reaches rules q r) : ∃ pool others, Staffed inv r pool others := by
  induction h with
  | refl => exact ⟨pool, others, staffed⟩
  | tail _ step ih =>
      obtain ⟨pool, others, staffed⟩ := ih
      exact kept.step staffed step

/-! ### From the first request on -/

/-- Some dispatchers before their lives begin. -/
def opening (crew : List (Dispatcher × PollTask Unit)) : List (Shift × PollTask Unit) :=
  crew.map fun p => ({ dispatcher := p.1 }, p.2)

variable {staff : List (Dispatcher × PollTask Unit)}

theorem of_mem_opening {s : Shift} (hs : s ∈ (opening staff).map Prod.fst) :
    ∃ p ∈ staff, s = { dispatcher := p.1 } := by
  obtain ⟨_, hstart, rfl⟩ := List.mem_map.mp hs
  obtain ⟨p, hp, rfl⟩ := List.mem_map.mp hstart
  exact ⟨p, hp, rfl⟩

theorem staffed_opening {inv : Desk → List Shift → Prop}
    (hlives : ∀ p ∈ staff, p.1.Works p.2) (hinv : inv {} ((opening staff).map Prod.fst)) :
    Staffed inv ⟨{}, [], staff.map Prod.snd⟩ (opening staff) [] where
  running := by
    rw [opening, List.map_map, List.append_nil]
    rfl
  lives p hp := by
    obtain ⟨life, hlife, rfl⟩ := List.mem_map.mp hp
    exact hlives life hlife
  aside := List.forall_mem_nil _
  kept := hinv

theorem sound_opening : Sound {} ((opening staff).map Prod.fst) where
  distinct := WorkStore.distinct_empty
  minds s hs := by
    obtain ⟨p, -, rfl⟩ := of_mem_opening hs
    exact List.forall_mem_nil _
  reported := by
    have hnone : ((opening staff).map Prod.fst).flatMap Shift.dues = [] := by
      refine List.flatMap_eq_nil_iff.mpr fun s hs => ?_
      obtain ⟨p, -, rfl⟩ := of_mem_opening hs
      rfl
    rw [hnone]
    exact .refl _

/-- When every task has ended, nothing is left to report. -/
theorem Staffed.reported {q : Interleaving PollRequest PollRequest.Answer Desk Unit}
    {pool : List (Shift × PollTask Unit)} {others : List (PollTask Unit)}
    (staffed : Staffed Sound q pool others) (hrest : q.AtRest) :
    q.state.reports.Perm q.state.store.givenUp := by
  have hnone : (pool.map Prod.fst).flatMap Shift.dues = [] := by
    refine List.flatMap_eq_nil_iff.mpr fun s hs => ?_
    obtain ⟨⟨s, task⟩, hp, rfl⟩ := List.mem_map.mp hs
    have hended : task ∈ q.running := by
      rw [staffed.running]
      exact List.mem_append_left _ (List.mem_map_of_mem hp)
    have hdone := List.all_eq_true.mp hrest task hended
    cases task with
    | done =>
        have hover : s.IsOver := by
          cases staffed.lives _ hp with
          | rest hover => exact hover
          | poll _ hover => exact hover
        exact hover.dues_eq (staffed.kept.minds s hs)
    | ask => cases hdone
  have hreported := staffed.kept.reported
  rwa [hnone, List.append_nil] at hreported

end Desk

end Dunning
