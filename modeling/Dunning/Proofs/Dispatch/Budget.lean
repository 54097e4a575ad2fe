import Dunning.Proofs.Dispatch.Reports

/-!
# The retry budget

A dispatcher decides by the number of failed invocations that an item had when it was claimed whether
the next failure is the last. The store checks the name in the claim, and nothing else. So the decision
is right as long as the dispatcher does not hold an item by a later claim than the one that the
handling knows of. Between two polls that cannot be, and within a poll it cannot be if every queue is
looked at once. Then no item fails more often than the policy allows.

A dispatcher that has the same queue twice in its list can claim an item again while it is still
handling it, when another dispatcher had the item in between. Then the older handling records a
failure that should have been the last.

## Main definitions

* `BackoffPolicy.budget` — the failed invocations after which an item is given up.
* `Job.Fits` — the handling knows the item as it is, or does not hold it.

## Main results

* `Dispatcher.budget_is_kept` — failed invocations, items that are given up, and their reports.
* `Dispatcher.budget_can_be_exceeded` — a dispatcher that looks at a queue twice.
-/

namespace Dunning

/-- The failed invocations after which an item is given up. -/
def BackoffPolicy.budget (p : BackoffPolicy) : Nat := max 1 p.maxAttempts.toNat

theorem BackoffPolicy.budget_pos (p : BackoffPolicy) : 0 < p.budget := by
  unfold budget
  omega

theorem BackoffPolicy.budget_lt (p : BackoffPolicy) : p.budget < UInt32.size := by
  have hlt : p.maxAttempts.toNat < UInt32.size := p.maxAttempts.toNat_lt
  have hsize : 1 < UInt32.size := by decide
  unfold budget
  omega

/-- An item that has not used up the budget, and whose next failure is not the last. -/
theorem BackoffPolicy.lt_of_allows {p : BackoffPolicy} {attempts : UInt32}
    (hlt : attempts.toNat < p.budget) (h : p.allows (attempts + 1) = true) :
    attempts.toNat + 1 < p.budget := by
  have hallows : attempts + 1 < p.maxAttempts := by simpa [allows] using h
  have hnext := UInt32.lt_iff_toNat_lt.mp hallows
  rw [WorkStore.toNat_succ hlt p.budget_lt] at hnext
  unfold budget
  omega

/-- Whether the handling of an item still knows it as it is, as far as the dispatcher of a name holds
it, given the queues that it has not yet looked at. -/
structure Job.Fits (job : Job) (store : WorkStore) (bound : Nat) (name : String)
    (ahead : List String) : Prop where
  passed : job.item.queue ∉ ahead
  stored : ∃ i ∈ store.items, i.id = job.item.id ∧ i.queue = job.item.queue
  below : job.item.attempts.toNat < bound
  current : ∀ i ∈ store.items, i.id = job.item.id → i.status.isTerminal = false →
    i.claimedBy = some name → i.attempts = job.item.attempts

namespace Job

variable {job : Job} {store later : WorkStore} {bound : Nat} {name : String} {ahead : List String}

theorem Fits.mono (fits : job.Fits store bound name ahead) {rest : List String}
    (h : rest ⊆ ahead) : job.Fits store bound name rest where
  passed hmem := fits.passed (h hmem)
  stored := fits.stored
  below := fits.below
  current := fits.current

/-- An event leaves it so, unless it is a claim of the same dispatcher for another queue than those
that it has not yet looked at. -/
theorem Fits.step {e : WorkEvent} (fits : job.Fits store bound name ahead)
    (step : store.Step e later) (distinct : store.Distinct)
    (hclaims : ∀ queue now lease batch,
      e.request = .claimDue queue now lease batch name → queue ∈ ahead) :
    job.Fits later bound name ahead := by
  obtain ⟨i, hi, hid, hqueue⟩ := fits.stored
  obtain ⟨j, hj, hchange⟩ := step.exists_of_mem distinct hi
  have hframe : j.id = job.item.id ∧ j.queue = job.item.queue :=
    ⟨hchange.id_eq.trans hid, hchange.frame.1.trans hqueue⟩
  refine ⟨fits.passed, ⟨j, hj, hframe⟩, fits.below, ?_⟩
  intro k hk hsame hlive hheld
  rcases step.of_claimedBy distinct hk hlive hheld with
    ⟨before, hbefore, hbeforeid, hbeforelive, hbeforeheld, hattempts⟩ | ⟨-, now, lease, batch, hclaim⟩
  · rw [← hattempts]
    exact fits.current before hbefore (hbeforeid.trans hsame) hbeforelive hbeforeheld
  · obtain rfl : k = j := (step.distinct distinct).eq hk hj (hsame.trans hframe.1.symm)
    have hahead := hclaims _ _ _ _ hclaim
    rw [hframe.2] at hahead
    exact absurd hahead fits.passed

end Job

namespace Desk

open Shift (claimed)

variable {desk later : Desk} {request : PollRequest} {answer : request.Answer} {bound : Nat}
  {name : String} {ahead : List String}

theorem Answers.fits {job : Job} (h : Answers request desk answer later)
    (distinct : desk.store.Distinct) (fits : job.Fits desk.store bound name ahead)
    (hclaims : ∀ queue now lease batch,
      request = .work (.claimDue queue now lease batch name) → queue ∈ ahead) :
    job.Fits later.store bound name ahead := by
  rcases h.cases with ⟨hstore, -⟩ | ⟨e, rfl, -, step⟩
  · rw [hstore]
    exact fits
  · exact fits.step step distinct fun queue now lease batch hrequest =>
      hclaims queue now lease batch (congrArg PollRequest.work hrequest)

theorem Answers.within (h : Answers request desk answer later) (distinct : desk.store.Distinct)
    (hpos : 0 < bound) (hbound : bound < UInt32.size) (within : desk.store.Within bound)
    (hrecords : ∀ id claimer error retryAt,
      request = .work (.settle id claimer (.recordFailure error retryAt)) →
      ∀ i ∈ desk.store.items, i.id = id → i.accepts claimer = true →
        i.attempts.toNat + 1 < bound) : later.store.Within bound := by
  rcases h.cases with ⟨hstore, -⟩ | ⟨e, rfl, -, step⟩
  · rw [hstore]
    exact within
  · exact step.within distinct hpos hbound within fun id claimer error retryAt hrequest =>
      hrecords id claimer error retryAt (congrArg PollRequest.work hrequest)

/-- What a dispatcher claims it knows as it is. -/
theorem Answers.fits_claimed {d : Dispatcher} {now : Instant} {queue : String}
    {answer : Except StoreError (List Item)}
    (h : Answers (.work (d.claim now queue)) desk answer later) (distinct : desk.store.Distinct)
    (within : desk.store.Within bound) (hqueue : queue ∉ ahead) {item : Item}
    (hitem : item ∈ claimed answer) : (d.job now item).Fits later.store bound name ahead := by
  obtain ⟨⟨clock, fresh, step⟩ | ⟨⟨e, rfl⟩, -⟩, -⟩ := h
  · have hout : item ∈ WorkEvent.handedOut ⟨clock, fresh, d.claim now queue, answer⟩ := by
      rcases answer with e | items
      · cases hitem
      · exact hitem
    obtain ⟨leaseEnd, -, i, hi, hsame, heligible, hleased⟩ := step.of_mem_handedOut rfl hout
    obtain ⟨j, hj, hid, hjqueue, hattempts⟩ := step.stored_of_handedOut distinct hout
    refine ⟨?_, ⟨j, hj, hid, hjqueue⟩, ?_, ?_⟩
    · rw [show (d.job now item).item.queue = queue by rw [← hsame, hleased]; rfl]
      exact hqueue
    · simp only [Item.isEligible, Bool.and_eq_true, beq_iff_eq] at heligible
      have hlive : i.status.isTerminal = false := by
        rw [heligible.1.1]
        rfl
      have hlt := (within i hi).2 hlive
      rw [show (d.job now item).item.attempts = i.attempts by rw [hleased]; rfl]
      exact hlt
    · intro k hk hkid _ _
      obtain rfl : k = j := (step.distinct distinct).eq hk hj (hkid.trans hid.symm)
      exact hattempts
  · cases hitem

/-- The dispatchers have names of their own, one policy, and look at every queue once; the items and
the handlings are within the budget of the policy. -/
structure Thrifty (policy : BackoffPolicy) (desk : Desk) (crew : List Shift) : Prop where
  sound : desk.Sound crew
  names : (crew.map Shift.name).Nodup
  policies : ∀ s ∈ crew, s.dispatcher.config.backoff = policy
  queues : ∀ s ∈ crew, s.dispatcher.queues.Nodup ∧ s.ahead.Nodup
  within : desk.store.Within policy.budget
  fits : ∀ s ∈ crew, ∀ job ∈ s.jobs, job.Fits desk.store policy.budget s.name s.ahead

variable {policy : BackoffPolicy} {crew others : List Shift} {s t : Shift}

theorem Thrifty.perm {crew' : List Shift} (thrifty : desk.Thrifty policy crew)
    (hperm : crew'.Perm crew) : desk.Thrifty policy crew' where
  sound := thrifty.sound.perm hperm
  names := (hperm.map Shift.name).nodup_iff.mpr thrifty.names
  policies s hs := thrifty.policies s (hperm.subset hs)
  queues s hs := thrifty.queues s (hperm.subset hs)
  within := thrifty.within
  fits s hs := thrifty.fits s (hperm.subset hs)

theorem Thrifty.poll (thrifty : desk.Thrifty policy (s :: others)) (hover : s.IsOver)
    (now : Instant) : desk.Thrifty policy (s.dispatcher.shift now :: others) := by
  obtain ⟨hpolicy, hpolicies⟩ := List.forall_mem_cons.mp thrifty.policies
  obtain ⟨⟨hqueues, -⟩, hothers⟩ := List.forall_mem_cons.mp thrifty.queues
  exact {
    sound := thrifty.sound.poll hover now
    names := thrifty.names
    policies := List.forall_mem_cons.mpr ⟨hpolicy, hpolicies⟩
    queues := List.forall_mem_cons.mpr ⟨⟨hqueues, hqueues⟩, hothers⟩
    within := thrifty.within
    fits := List.forall_mem_cons.mpr
      ⟨List.forall_mem_nil _, (List.forall_mem_cons.mp thrifty.fits).2⟩ }

theorem Thrifty.aside (thrifty : desk.Thrifty policy crew) (haside : request.isAside = true)
    (hanswers : Answers request desk answer later) : later.Thrifty policy crew where
  sound := thrifty.sound.aside haside hanswers
  names := thrifty.names
  policies := thrifty.policies
  queues := thrifty.queues
  within := by
    refine hanswers.within thrifty.sound.distinct policy.budget_pos policy.budget_lt thrifty.within ?_
    rintro _ _ _ _ rfl
    cases haside
  fits s hs job hjob := by
    refine hanswers.fits thrifty.sound.distinct (thrifty.fits s hs job hjob) ?_
    rintro _ _ _ _ rfl
    cases haside

/-- A dispatcher claims from the queue that is next. -/
private theorem Thrifty.claim {queue : String} {rest : List String}
    {answer : Except StoreError (List Item)} (thrifty : desk.Thrifty policy (s :: others))
    (hahead : s.ahead = queue :: rest)
    (hanswers : Answers (.work (s.dispatcher.claim s.now queue)) desk answer later) :
    later.Thrifty policy
      ({ s with ahead := rest, jobs := s.jobs ++ (claimed answer).map (s.dispatcher.job s.now) } ::
        others) := by
  have distinct := thrifty.sound.distinct
  obtain ⟨hpolicy, hpolicies⟩ := List.forall_mem_cons.mp thrifty.policies
  obtain ⟨⟨hqueues, hnodup⟩, hothersqueues⟩ := List.forall_mem_cons.mp thrifty.queues
  obtain ⟨hfits, hothers⟩ := List.forall_mem_cons.mp thrifty.fits
  rw [hahead] at hnodup hfits
  obtain ⟨hqueue, hrest⟩ := List.nodup_cons.mp hnodup
  refine ⟨thrifty.sound.moves (.claim hahead) hanswers, thrifty.names,
    List.forall_mem_cons.mpr ⟨hpolicy, hpolicies⟩,
    List.forall_mem_cons.mpr ⟨⟨hqueues, hrest⟩, hothersqueues⟩, ?_,
    List.forall_mem_cons.mpr ⟨?_, ?_⟩⟩
  · refine hanswers.within distinct policy.budget_pos policy.budget_lt thrifty.within ?_
    rintro _ _ _ _ ⟨⟩
  · intro job hjob
    rcases List.mem_append.mp hjob with hold | hnew
    · refine (hanswers.fits distinct (hfits job hold) ?_).mono (List.subset_cons_self queue rest)
      rintro _ _ _ _ ⟨⟩
      exact List.mem_cons_self
    · obtain ⟨item, hitem, rfl⟩ := List.mem_map.mp hnew
      exact hanswers.fits_claimed distinct thrifty.within hqueue hitem
  · intro u hu job hjob
    refine hanswers.fits distinct (hothers u hu job hjob) ?_
    intro _ _ _ _ hclaim
    have hname : s.name = u.name :=
      (WorkRequest.claimDue.inj (PollRequest.work.inj hclaim)).2.2.2.2
    exact absurd (hname ▸ List.mem_map_of_mem hu) (List.nodup_cons.mp thrifty.names).1

/-- A handling makes a request. -/
private theorem Thrifty.ask {job : Job} {jobs : List Job} {next : request.Answer → PollTask Unit}
    (thrifty : desk.Thrifty policy (s :: others)) (hjobs : s.jobs.Perm (job :: jobs))
    (hrest : job.rest = .ask request next) (hanswers : Answers request desk answer later) :
    later.Thrifty policy
      ({ s with jobs := ⟨job.item, request.due answer, next answer⟩ :: jobs } :: others) := by
  have distinct := thrifty.sound.distinct
  obtain ⟨hminds, -⟩ := List.forall_mem_cons.mp thrifty.sound.minds
  obtain ⟨hrule, -⟩ := hminds.ask hjobs hrest
  obtain ⟨hpolicy, hpolicies⟩ := List.forall_mem_cons.mp thrifty.policies
  obtain ⟨hfits, hothers⟩ := List.forall_mem_cons.mp thrifty.fits
  have hmem : job ∈ s.jobs := hjobs.symm.subset List.mem_cons_self
  have hkept (u : Shift) (other : Job)
      (h : other.Fits desk.store policy.budget u.name u.ahead) :
      other.Fits later.store policy.budget u.name u.ahead := by
    refine hanswers.fits distinct h ?_
    rintro _ _ _ _ rfl
    exact absurd hrule Dispatcher.Minds.not_claim
  refine ⟨thrifty.sound.moves (.ask hjobs hrest) hanswers, thrifty.names,
    List.forall_mem_cons.mpr ⟨hpolicy, hpolicies⟩,
    List.forall_mem_cons.mpr (List.forall_mem_cons.mp thrifty.queues), ?_,
    List.forall_mem_cons.mpr ⟨?_, fun u hu other hother => hkept u other (hothers u hu other hother)⟩⟩
  · refine hanswers.within distinct policy.budget_pos policy.budget_lt thrifty.within ?_
    rintro _ _ error retryAt rfl i hi hid haccepts
    obtain ⟨rfl, rfl, haffords⟩ := hrule.of_settle
    obtain ⟨hlive, hheld⟩ := Item.accepts_iff.mp haccepts
    have hallows := haffords error retryAt rfl
    rw [hpolicy] at hallows
    -- The item is held by this dispatcher, so it has failed as often as the handling knows.
    rw [(hfits job hmem).current i hi hid hlive hheld]
    exact policy.lt_of_allows (hfits job hmem).below hallows
  · refine List.forall_mem_cons.mpr ⟨?_, fun other hother => ?_⟩
    · have h := hkept s job (hfits job hmem)
      exact ⟨h.passed, h.stored, h.below, h.current⟩
    · exact hkept s other (hfits other (hjobs.symm.subset (List.mem_cons_of_mem _ hother)))

/-- **Every request keeps the dispatchers within the budget.** -/
theorem thrifty_kept (policy : BackoffPolicy) : Kept (Thrifty policy) where
  perm := Thrifty.perm
  poll := Thrifty.poll
  moves thrifty hmoves hanswers := by
    cases hmoves with
    | aside haside => exact thrifty.aside haside hanswers
    | claim hahead => exact thrifty.claim hahead hanswers
    | ask hjobs hrest => exact thrifty.ask hjobs hrest hanswers
  aside := Thrifty.aside

/-! ## Lives side by side -/

variable {staff : List (Dispatcher × PollTask Unit)}

private theorem thrifty_opening (hnames : (staff.map fun p => p.1.config.name).Nodup)
    (hpolicy : ∀ p ∈ staff, p.1.config.backoff = policy)
    (hqueues : ∀ p ∈ staff, p.1.queues.Nodup) :
    Thrifty policy {} ((opening staff).map Prod.fst) where
  sound := sound_opening
  names := by
    rw [opening, List.map_map, List.map_map]
    exact hnames
  policies s hs := by
    obtain ⟨p, hp, rfl⟩ := of_mem_opening hs
    exact hpolicy p hp
  queues s hs := by
    obtain ⟨p, hp, rfl⟩ := of_mem_opening hs
    exact ⟨hqueues p hp, List.nodup_nil⟩
  within := WorkStore.within_empty _
  fits s hs := by
    obtain ⟨p, -, rfl⟩ := of_mem_opening hs
    exact List.forall_mem_nil _

end Desk

/-- **The retry budget and the reports of what is given up.** Take any run of dispatchers with names of
their own and one policy, side by side over a store that was empty and that others use as well. If no
dispatcher looks at a queue twice in a poll, then no item has failed more often than the budget allows,
and one that has not ended has failed less often, so that its next failure can be counted. Reports are
about different items, each of which was given up for the reason that is reported. And when all
dispatchers have come to an end, every item that was given up has been reported. -/
theorem Dispatcher.budget_is_kept (policy : BackoffPolicy) (staff : List (Dispatcher × PollTask Unit))
    (hlives : ∀ p ∈ staff, p.1.Works p.2)
    (hnames : (staff.map fun p => p.1.config.name).Nodup)
    (hpolicy : ∀ p ∈ staff, p.1.config.backoff = policy)
    {q : Interleaving PollRequest PollRequest.Answer Desk Unit}
    (h : Interleaving.Reaches Desk.rules ⟨{}, [], staff.map Prod.snd⟩ q) :
    ((∀ p ∈ staff, p.1.queues.Nodup) → ∀ i ∈ q.state.store.items,
        i.attempts.toNat ≤ max 1 policy.maxAttempts.toNat ∧
          (i.status.isTerminal = false → i.attempts.toNat < max 1 policy.maxAttempts.toNat ∧
            (i.attempts + 1).toNat = i.attempts.toNat + 1)) ∧
      (q.state.reports.map Prod.fst).Nodup ∧
      (∀ id reason, (id, reason) ∈ q.state.reports →
        ∃ i ∈ q.state.store.items, i.status = .deadLettered ∧ i.id = id ∧ i.lastError = reason) ∧
      (q.AtRest → ∀ i ∈ q.state.store.items, i.status = .deadLettered →
        (i.id, i.lastError) ∈ q.state.reports) := by
  obtain ⟨pool, others, staffed⟩ :=
    Desk.sound_kept.reaches (Desk.staffed_opening hlives Desk.sound_opening) h
  have hreported := staffed.kept.reported
  refine ⟨?_, ?_, ?_, ?_⟩
  · intro hqueues i hi
    obtain ⟨pool, others, ⟨-, -, -, thrifty⟩⟩ := (Desk.thrifty_kept policy).reaches
      (Desk.staffed_opening hlives (Desk.thrifty_opening hnames hpolicy hqueues)) h
    obtain ⟨hle, hlt⟩ := thrifty.within i hi
    exact ⟨hle, fun hlive => ⟨hlt hlive, WorkStore.toNat_succ (hlt hlive) policy.budget_lt⟩⟩
  · have hnodup := ((hreported.map Prod.fst).nodup_iff.mpr staffed.kept.distinct.nodup_givenUp)
    rw [List.map_append] at hnodup
    exact hnodup.of_append_left
  · intro id reason hmem
    exact WorkStore.mem_givenUp.mp (hreported.subset (List.mem_append_left _ hmem))
  · intro hrest i hi hstatus
    exact (staffed.reported hrest).symm.subset
      (WorkStore.mem_givenUp.mpr ⟨i, hi, hstatus, rfl, rfl⟩)

/-! ## Looking at a queue twice -/

/-- Answer a request at once. Time stands still, the store does not fail, and the runs of handlers are
given. -/
def Desk.reply (run : Item → HandlerContext → HandlerRun) :
    (request : PollRequest) → Desk → Except Stop request.Answer × Desk
  | .work request, desk =>
    match desk.store.respondAtNoon request with
    | some (answer, store) => (.ok answer, { desk with store })
    | none => (.error .crashed, desk)
  | .invoke item context, desk => (.ok (run item context), desk)
  | .count .., desk => (.ok (), desk)
  | .reportDead item reason, desk =>
    (.ok (), { desk with reports := (item.id, some reason) :: desk.reports })

theorem Desk.answers_of_reply {run : Item → HandlerContext → HandlerRun} (request : PollRequest)
    (desk : Desk) (answer : request.Answer) (later : Desk)
    (h : reply run request desk = (.ok answer, later)) : Answers request desk answer later := by
  unfold reply at h
  split at h
  · split at h
    · rename_i hresponds
      obtain ⟨hanswer, rfl⟩ := Prod.mk.inj h
      obtain rfl := Except.ok.inj hanswer
      exact ⟨.inl ⟨_, _, WorkStore.step_of_respondAtNoon hresponds⟩, rfl⟩
    · cases (Prod.mk.inj h).1
  · obtain ⟨-, rfl⟩ := Prod.mk.inj h
    exact ⟨rfl, rfl⟩
  · obtain ⟨-, rfl⟩ := Prod.mk.inj h
    exact ⟨rfl, rfl⟩
  · obtain ⟨-, rfl⟩ := Prod.mk.inj h
    exact ⟨rfl, rfl⟩

namespace Dispatcher

/-- Two invocations at most, without a rest in between. -/
def patience : BackoffPolicy := .fixed 2 (Span.ofMillis 0)

/-- A dispatcher that handles one queue. -/
def named (name : String) (queues : List String) : Dispatcher :=
  ⟨{ name, backoff := patience, queues }, ["queue"]⟩

/-- 1970-01-01T18:00:00Z. -/
def evening : Instant := (Instant.ofNanos? 64800000000000).getD .first

/-- An item that is recorded for noon. -/
def newcomer : PollTask Unit :=
  .ask (.work (.enqueue ⟨"queue", "owner", .noon, .null⟩)) fun _ => .done ()

theorem reaches_of_lives {lives : List (PollTask Unit)} {run : Item → HandlerContext → HandlerRun}
    (places : List Nat) :
    Interleaving.Reaches Desk.rules ⟨{}, [], lives⟩
      (Interleaving.schedule (Desk.reply run) places ⟨{}, [], lives ++ [newcomer]⟩) := by
  have hstarts : ∀ t ∈ [newcomer], Desk.rules.starts t :=
    List.forall_mem_singleton.mpr ⟨rfl, fun _ _ _ => trivial⟩
  exact (Interleaving.reaches_started hstarts ⟨{}, [], lives⟩).trans
    (Interleaving.reaches_schedule Desk.answers_of_reply _ _)

/-- A dispatcher that looks at the queue twice at noon, and one that looks twice in the evening. -/
def eager : List (Dispatcher × PollTask Unit) :=
  [(named "north" ["queue", "queue"], (named "north" ["queue", "queue"]).polls [.noon]),
   (named "south" ["queue"], (named "south" ["queue"]).polls [evening, evening])]

/-- Every run fails, but in the south the second one only asks for the item to be due at noon again. -/
def failing (item : Item) (context : HandlerContext) : HandlerRun :=
  if context.dispatcher = "south" ∧ item.attempts = 1 then .returned (.ok (.rescheduleAt .noon))
  else .returned (.error (.transient "down"))

/-- The north claims the item, the south has it twice in between, and the north claims it again before
it handles what it claimed first. -/
def overdrawn : Interleaving PollRequest PollRequest.Answer Desk Unit :=
  Interleaving.schedule (Desk.reply failing)
    (2 :: List.replicate 3 0 ++ List.replicate 14 1 ++ List.replicate 12 0)
    ⟨{}, [], eager.map Prod.snd ++ [newcomer]⟩

theorem works_eager : ∀ p ∈ eager, p.1.Works p.2 :=
  List.forall_mem_cons.mpr ⟨works_polls _ _, List.forall_mem_singleton.mpr (works_polls _ _)⟩

/-- **The budget can be exceeded.** All failures that the policy allows were recorded, and the item has
not ended. -/
theorem budget_can_be_exceeded :
    (∀ p ∈ eager, p.1.Works p.2) ∧ (eager.map fun p => p.1.config.name).Nodup ∧
      (∀ p ∈ eager, p.1.config.backoff = patience) ∧
      Interleaving.Reaches Desk.rules ⟨{}, [], eager.map Prod.snd⟩ overdrawn ∧ overdrawn.AtRest ∧
      overdrawn.state.store.items.map (fun i => (i.status, i.attempts)) = [(.available, 2)] ∧
      max 1 patience.maxAttempts.toNat = 2 := by
  refine ⟨works_eager, by decide, ?_, reaches_of_lives _, by cbv, by cbv, rfl⟩
  exact List.forall_mem_cons.mpr ⟨rfl, List.forall_mem_singleton.mpr rfl⟩

/-- A dispatcher that looks twice in the evening. -/
def steady : List (Dispatcher × PollTask Unit) :=
  [(named "south" ["queue"], (named "south" ["queue"]).polls [evening, evening])]

/-- The handler of the item breaks twice. -/
def broken : Interleaving PollRequest PollRequest.Answer Desk Unit :=
  Interleaving.schedule (Desk.reply fun _ _ => .panicked) (1 :: List.replicate 18 0)
    ⟨{}, [], steady.map Prod.snd ++ [newcomer]⟩

/-- An item that failed twice was given up within the budget, and that was reported. -/
theorem budget_is_kept_broken :
    (∀ p ∈ steady, p.1.Works p.2) ∧ (steady.map fun p => p.1.config.name).Nodup ∧
      (∀ p ∈ steady, p.1.config.backoff = patience) ∧ (∀ p ∈ steady, p.1.queues.Nodup) ∧
      Interleaving.Reaches Desk.rules ⟨{}, [], steady.map Prod.snd⟩ broken ∧ broken.AtRest ∧
      ∃ i ∈ broken.state.store.items, i.status = .deadLettered ∧ i.attempts.toNat ≤ 2 ∧
        (i.id, i.lastError) ∈ broken.state.reports := by
  have hworks : ∀ p ∈ steady, p.1.Works p.2 := List.forall_mem_singleton.mpr (works_polls _ _)
  have hnames : (steady.map fun p => p.1.config.name).Nodup := by decide
  have hpolicy : ∀ p ∈ steady, p.1.config.backoff = patience := List.forall_mem_singleton.mpr rfl
  have hqueues : ∀ p ∈ steady, p.1.queues.Nodup :=
    List.forall_mem_singleton.mpr (List.nodup_singleton "queue")
  have hreaches : Interleaving.Reaches Desk.rules ⟨{}, [], steady.map Prod.snd⟩ broken :=
    reaches_of_lives _
  have hrest : broken.AtRest := by cbv
  refine ⟨hworks, hnames, hpolicy, hqueues, hreaches, hrest, ?_⟩
  obtain ⟨hbudget, -, -, hreports⟩ := budget_is_kept patience steady hworks hnames hpolicy hreaches
  have hstatus : broken.state.store.items.map Item.status = [.deadLettered] := by cbv
  obtain ⟨i, hitems, hgivenUp⟩ := List.map_eq_singleton_iff.mp hstatus
  have hi : i ∈ broken.state.store.items := by
    rw [hitems]
    exact List.mem_singleton_self i
  exact ⟨i, hi, hgivenUp, (hbudget hqueues i hi).1, hreports hrest i hi hgivenUp⟩

end Dispatcher

end Dunning
