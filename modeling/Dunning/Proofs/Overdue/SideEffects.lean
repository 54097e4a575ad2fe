import Dunning.Proofs.Overdue.Versions

/-!
# The side effects of a refresh

A refresh tries to write until a write succeeds or it gives up, and only a successful write has side
effects. Whatever the store of states, the gate, the hooks and the store of work items answer, what a
refresh asks is therefore determined: looks and at most so many writes, of which only the last can
have succeeded, and then the side effects of that one transition, each once and in a fixed order.

The answers are free. What is stated is the list of requests of a history, in the order in which they
were made.

## Main definitions

* `History.asked`, `History.refusal?` — the requests of a history, and what the gate said last when
  it refused.
* `OverdueEngine.effects` — the side effects of a transition, in order.
* `OverdueEngine.Looked` — a history of looks and writes that failed.
* `OverdueEngine.Carried` — how a refresh ends that carried a transition out.

## Main results

* `OverdueEngine.apply_asks` — what carrying the side effects out asks.
* `OverdueEngine.refreshWithin_concludes` — how a refresh ends, by the number of attempts.
* `OverdueEngine.effects_follow_one_write` — the law, for every refresh and all answers.
-/

namespace Dunning

/-! ## Requests in order -/

/-- The refusal that an exchange with the gate tells of. -/
def Exchange.refusal? : Exchange Request Request.Answer → Option CollaboratorError
  | ⟨.setBlocked _ _, .error cause⟩ => some cause
  | _ => none

/-- Whether an exchange is a write of a state, be it that it failed. -/
def Exchange.isSave : Exchange Request Request.Answer → Bool
  | ⟨.state (.save _ _), _⟩ => true
  | _ => false

namespace History

/-- The requests of a history in the order in which they were made. -/
def asked (past : History) : List Request := (past.map Exchange.request).reverse

/-- The refusal that a history last told of. -/
def refusal? (past : History) : Option CollaboratorError := past.findSome? Exchange.refusal?

@[simp] theorem asked_cons (exchange : Exchange Request Request.Answer) (past : History) :
    asked (exchange :: past) = past.asked ++ [exchange.request] := by
  simp [asked]

theorem asked_append (later past : History) : asked (later ++ past) = past.asked ++ later.asked := by
  simp [asked]

theorem refusal?_cons_of_none {exchange : Exchange Request Request.Answer}
    (h : exchange.refusal? = none) (past : History) :
    refusal? (exchange :: past) = past.refusal? := by
  rw [refusal?, List.findSome?_cons, h]
  rfl

end History

namespace OverdueEngine

/-! ## Side effects -/

/-- The runs of those of some hooks that there are. -/
def hookRuns (e : OverdueEngine) (t : Transition) (phase : HookPhase) (now : Instant)
    (hooks : List String) : List Request :=
  (hooks.filter fun hook => e.hooks.contains hook).map fun hook =>
    .runHook (t.hookRun phase now hook)

/-- The side effects of a transition: the hooks of the state that is left, the withdrawal of its looks
when the name changes, the restrictions when the flags change, the hooks of the state that is
entered, and the next look when there is to be one. -/
def effects (e : OverdueEngine) (t : Transition) (now : Instant) : List Request :=
  e.hookRuns t .leaving now t.exitHooks ++
    (if t.before.stateName ≠ t.after.stateName then
      [.work (.cancelPending refreshQueue t.after.account.render now)] else []) ++
    (if t.before.blocked ≠ t.after.blocked then
      [.setBlocked t.after.account t.after.blocked] else []) ++
    e.hookRuns t .entering now t.entryHooks ++
    t.reevaluateAt.toList.map fun due =>
      .work (.enqueue (refreshItem t.after.account.render due "reevaluation"))

/-- What a refresh asks after its write, when the gate refused or not: the side effects, and after a
refusal a write that takes the flags back. -/
def followUp (e : OverdueEngine) (t : Transition) (setVersion : UInt64) (now : Instant)
    (refusal : Option CollaboratorError) : List Request :=
  e.effects t now ++
    if refusal.isSome then
      [.state (.save (reverted t setVersion now) (.exact t.after.version))] else []

/-- The result of a refresh that wrote a transition. -/
def outcome (t : Transition) : Option CollaboratorError → Except OverdueError Refreshed
  | none => .ok ⟨t.after, true⟩
  | some cause => .error (.entitlement cause)

variable {past : History} {t : Transition} {now : Instant} {account : AccountId}
  {facts : AccountFacts}

/-- Any request is allowed: only the ends of histories matter here. -/
abbrev AnyRequest : History → Request → Prop := fun _ _ => True

theorem runHooks_asks (e : OverdueEngine) (t : Transition) (phase : HookPhase) (now : Instant)
    (hooks : List String) :
    (e.runHooks t phase now hooks).Obeys Task.Told AnyRequest
      (fun _ (later : History) => later.asked = past.asked ++ e.hookRuns t phase now hooks ∧
        later.refusal? = past.refusal?) past := by
  induction hooks generalizing past with
  | nil => exact ⟨by simp [hookRuns], rfl⟩
  | cons hook rest ih =>
      unfold runHooks
      split
      · rename_i hknown
        refine Task.obeys_told.mpr ⟨trivial, fun answer => ih.imp ?_⟩
        rintro _ later ⟨hasked, hrefusal⟩
        refine ⟨?_, hrefusal.trans (History.refusal?_cons_of_none rfl past)⟩
        rw [hasked]
        simp [hookRuns, hknown, Transition.hookRun]
      · rename_i hunknown
        refine ih.imp ?_
        rintro _ later ⟨hasked, hrefusal⟩
        exact ⟨by simpa [hookRuns, hunknown] using hasked, hrefusal⟩

theorem dropLooks_asks (t : Transition) (now : Instant) :
    (dropLooks t now).Obeys Task.Told AnyRequest
      (fun _ (later : History) => later.asked = past.asked ++
          (if t.before.stateName ≠ t.after.stateName then
            [.work (.cancelPending refreshQueue t.after.account.render now)] else []) ∧
        later.refusal? = past.refusal?) past := by
  by_cases hname : t.before.stateName ≠ t.after.stateName
  · have hchanges : t.changesState = true := bne_iff_ne.mpr hname
    rw [dropLooks, if_pos hchanges]
    refine Task.obeys_told.mpr ⟨trivial, fun answer => ⟨?_, History.refusal?_cons_of_none rfl past⟩⟩
    rw [if_pos hname, History.asked_cons]
  · have hsame : ¬ t.changesState = true := fun hchanges => hname (bne_iff_ne.mp hchanges)
    rw [dropLooks, if_neg hsame]
    refine ⟨?_, rfl⟩
    rw [if_neg hname, List.append_nil]

theorem scheduleLook_asks (t : Transition) :
    (scheduleLook t).Obeys Task.Told AnyRequest
      (fun _ (later : History) => later.asked = past.asked ++ (t.reevaluateAt.toList.map fun due =>
          .work (.enqueue (refreshItem t.after.account.render due "reevaluation"))) ∧
        later.refusal? = past.refusal?) past := by
  unfold scheduleLook
  split
  · rename_i due hdue
    refine Task.obeys_told.mpr ⟨trivial, fun answer => ⟨?_, History.refusal?_cons_of_none rfl past⟩⟩
    rw [hdue, History.asked_cons]
    rfl
  · rename_i hnone
    refine ⟨?_, rfl⟩
    rw [hnone]
    exact (List.append_nil _).symm

/-- The gate is asked when the flags change, and its refusal is kept. -/
theorem restrict_asks (hplanned : t.Planned) (hrefusal : past.refusal? = none) :
    (restrict t).Obeys Task.Told AnyRequest
      (fun result (later : History) => later.asked = past.asked ++
          (if t.before.blocked ≠ t.after.blocked then
            [.setBlocked t.after.account t.after.blocked] else []) ∧
        (result = .ok () ∧ later.refusal? = none ∨
          ∃ cause, result = .error cause ∧ later.refusal? = some cause)) past := by
  have hflags := hplanned.flagsChange_eq
  unfold restrict
  by_cases hsame : t.before.blocked = t.after.blocked
  · rw [if_pos hsame] at hflags
    simp only [hflags]
    refine ⟨?_, .inl ⟨rfl, hrefusal⟩⟩
    rw [if_neg (not_not.mpr hsame), List.append_nil]
  · rw [if_neg hsame] at hflags
    simp only [hflags]
    refine Task.obeys_told.mpr ⟨trivial, fun answer => ⟨?_, ?_⟩⟩
    · rw [if_pos hsame, History.asked_cons]
    · cases answer with
      | ok => exact .inl ⟨rfl, (History.refusal?_cons_of_none rfl past).trans hrefusal⟩
      | error cause => exact .inr ⟨cause, rfl, rfl⟩

/-- **The side effects of a write.** All of them are asked for, each once and in order, whatever the
answers are; a refusal of the gate is only acted upon at the end. -/
theorem apply_asks (e : OverdueEngine) (hplanned : t.Planned) (setVersion : UInt64) (now : Instant)
    (hrefusal : past.refusal? = none) :
    (e.apply t setVersion now).Obeys Task.Told AnyRequest
      (fun result (later : History) =>
        later.asked = past.asked ++ e.followUp t setVersion now later.refusal? ∧
          (result = .ok () ∧ later.refusal? = none ∨
            ∃ cause, result = .error (.entitlement cause) ∧ later.refusal? = some cause)) past := by
  simp only [apply, Task.bind_eq, Task.pure_eq]
  rw [Task.obeys_bind]
  refine (e.runHooks_asks t .leaving now t.exitHooks).imp ?_
  rintro _ left ⟨hleft, hleft'⟩
  rw [Task.obeys_bind]
  refine (dropLooks_asks t now).imp ?_
  rintro _ dropped ⟨hdropped, hdropped'⟩
  rw [Task.obeys_bind]
  refine (restrict_asks hplanned (hdropped'.trans (hleft'.trans hrefusal))).imp ?_
  rintro restricted gated ⟨hgated, hanswer⟩
  rw [Task.obeys_bind]
  refine (e.runHooks_asks t .entering now t.entryHooks).imp ?_
  rintro _ entered ⟨hentered, hentered'⟩
  rw [Task.obeys_bind]
  refine (scheduleLook_asks t).imp ?_
  rintro _ scheduled ⟨hscheduled, hscheduled'⟩
  have hasked : History.asked scheduled = past.asked ++ e.effects t now := by
    rw [hscheduled, hentered, hgated, hdropped, hleft]
    simp only [effects, List.append_assoc]
  have hsaid : History.refusal? scheduled = History.refusal? gated := hscheduled'.trans hentered'
  rcases hanswer with ⟨rfl, hnone⟩ | ⟨cause, rfl, hsome⟩
  · have hlast := hsaid.trans hnone
    refine ⟨?_, .inl ⟨rfl, hlast⟩⟩
    rw [hlast, hasked, followUp]
    exact congrArg _ (List.append_nil _).symm
  · have hlast := hsaid.trans hsome
    refine Task.obeys_told.mpr ⟨trivial, fun answer => ?_⟩
    have hlast' : History.refusal? (⟨.state (.save (reverted t setVersion now)
        (.exact t.after.version)), answer⟩ :: scheduled) = some cause :=
      (History.refusal?_cons_of_none rfl scheduled).trans hlast
    refine ⟨?_, .inr ⟨cause, rfl, hlast'⟩⟩
    rw [hlast', History.asked_cons, hasked, followUp, List.append_assoc]
    rfl

/-! ## Refreshes -/

/-- A history of looks, and of writes that failed. -/
structure Looked (account : AccountId) (past : History) : Prop where
  looks : ∀ x ∈ past,
    x.request = .activeSet ∨ x.request = .state (.get account) ∨ x.isSave = true
  unwritten : ∀ x ∈ past, x.written? = none

/-- Whether a result says that nothing was written. -/
def isQuiet : Except OverdueError Refreshed → Bool
  | .ok refreshed => !refreshed.transitioned
  | .error (.store _) => true
  | .error (.conflictRetriesExhausted ..) => true
  | .error (.entitlement _) => false
  | .error (.facts _) => false

theorem Looked.nil (account : AccountId) : Looked account [] where
  looks := List.forall_mem_nil _
  unwritten := List.forall_mem_nil _

theorem Looked.cons {exchange : Exchange Request Request.Answer} (looked : Looked account past)
    (hlook : exchange.request = .activeSet ∨ exchange.request = .state (.get account) ∨
      exchange.isSave = true) (hunwritten : exchange.written? = none) :
    Looked account (exchange :: past) where
  looks := List.forall_mem_cons.mpr ⟨hlook, looked.looks⟩
  unwritten := List.forall_mem_cons.mpr ⟨hunwritten, looked.unwritten⟩

theorem Looked.refusal?_eq (looked : Looked account past) : past.refusal? = none := by
  refine List.findSome?_eq_none_iff.mpr ?_
  intro x hx
  have hlook := looked.looks x hx
  obtain ⟨request, answer⟩ := x
  rcases hlook with h | h | h
  · obtain rfl : request = _ := h
    rfl
  · obtain rfl : request = _ := h
    rfl
  · unfold Exchange.isSave at h
    split at h
    · rename_i hsave
      rw [hsave]
      rfl
    · cases h

/-- How a refresh ends: after no more writes than it has attempts, either all of them failed and it
says so, or the last one succeeded and what followed is what its transition calls for. -/
inductive Concludes (e : OverdueEngine) (account : AccountId) (facts : AccountFacts) (now : Instant)
    (writes : Nat) (result : Except OverdueError Refreshed) (past : History) : Prop where
  | quiet : isQuiet result = true → Looked account past → past.countP Exchange.isSave ≤ writes →
      Concludes e account facts now writes result past
  | carried {t : Transition} {record : Option OverdueState} {set : Option StateSet}
      {looks after : History} :
      Looked account looks → looks.countP Exchange.isSave < writes → looks.known? = some record →
      looks.set? = some set → planTransition (record.getD (.clear account)) set facts now = some t →
      past = after ++ ⟨.state (.save t.after (.ofRead t.before.version)), .ok ()⟩ :: looks →
      after.asked = e.followUp t ((set.map StateSet.version).getD 0) now past.refusal? →
      result = outcome t past.refusal? → Concludes e account facts now writes result past

theorem Concludes.mono {e : OverdueEngine} {writes more : Nat}
    {result : Except OverdueError Refreshed} (h : Concludes e account facts now writes result past)
    (hle : writes ≤ more) : Concludes e account facts now more result past := by
  cases h with
  | quiet hquiet looked hcount => exact .quiet hquiet looked (hcount.trans hle)
  | carried looked hcount hknown hset hplan hpast hasked hresult =>
      exact .carried looked (hcount.trans_le hle) hknown hset hplan hpast hasked hresult

/-- How one attempt ends: without a result it made one more write that failed. -/
def Tried (e : OverdueEngine) (account : AccountId) (facts : AccountFacts) (now : Instant)
    (writes : Nat) : Option (Except OverdueError Refreshed) → History → Prop
  | none, past => Looked account past ∧ past.countP Exchange.isSave = writes + 1
  | some result, past => Concludes e account facts now (writes + 1) result past

theorem carryOut_concludes (e : OverdueEngine) {record : Option OverdueState}
    {set : Option StateSet} (looked : Looked account past) (hknown : past.known? = some record)
    (hset : past.set? = some set)
    (hplan : planTransition (record.getD (.clear account)) set facts now = some t) :
    (e.carryOut t ((set.map StateSet.version).getD 0) now).Obeys Task.Told AnyRequest
      (Tried e account facts now (past.countP Exchange.isSave)) past := by
  have hplanned : t.Planned :=
    ⟨set, facts, now, by rw [(planTransition_eq_some hplan).1]; exact hplan⟩
  refine Task.obeys_told.mpr ⟨trivial, fun answer => ?_⟩
  cases answer with
  | error error =>
      have hlooked : Looked account
          (⟨.state (.save t.after (.ofRead t.before.version)), .error error⟩ :: past) :=
        looked.cons (.inr (.inr rfl)) rfl
      simp only [Task.bind_done]
      split
      · exact ⟨hlooked, List.countP_cons_of_pos rfl⟩
      · exact .quiet rfl hlooked (Nat.le_of_eq (List.countP_cons_of_pos rfl))
  | ok =>
      simp only [Task.bind_done, Task.bind_eq]
      rw [Task.obeys_bind]
      have hrefusal : History.refusal?
          (⟨.state (.save t.after (.ofRead t.before.version)), .ok ()⟩ :: past) = none :=
        (History.refusal?_cons_of_none rfl past).trans looked.refusal?_eq
      refine (e.apply_asks hplanned _ now hrefusal).told_suffix.imp ?_
      rintro result later ⟨⟨hasked, hanswer⟩, after, rfl⟩
      rw [History.asked_append, List.append_cancel_left_eq] at hasked
      rcases hanswer with ⟨rfl, hnone⟩ | ⟨cause, rfl, hsome⟩
      · refine .carried looked (Nat.lt_succ_self _) hknown hset hplan rfl hasked ?_
        rw [hnone]
        rfl
      · refine .carried looked (Nat.lt_succ_self _) hknown hset hplan rfl hasked ?_
        rw [hsome]
        rfl

theorem tryRefresh_concludes (e : OverdueEngine) (looked : Looked account past) :
    (e.tryRefresh account facts now).Obeys Task.Told AnyRequest
      (Tried e account facts now (past.countP Exchange.isSave)) past := by
  refine Task.obeys_told.mpr ⟨trivial, fun set => ?_⟩
  refine Task.obeys_told.mpr ⟨trivial, fun answer => ?_⟩
  have hlooked : Looked account (⟨.state (.get account), answer⟩ :: ⟨.activeSet, set⟩ :: past) :=
    (looked.cons (.inl rfl) rfl).cons (.inr (.inl rfl)) (by cases answer <;> rfl)
  have hcount : List.countP Exchange.isSave
      (⟨.state (.get account), answer⟩ :: ⟨.activeSet, set⟩ :: past) =
        past.countP Exchange.isSave := rfl
  cases answer with
  | error error => exact .quiet rfl hlooked (Nat.le_succ _)
  | ok record =>
      simp only [Task.bind_done]
      split
      · exact .quiet rfl hlooked (Nat.le_succ _)
      · rename_i hplan
        rw [← hcount]
        exact e.carryOut_concludes hlooked rfl rfl hplan

theorem refreshWithin_concludes (e : OverdueEngine) (attempts : Nat)
    (looked : Looked account past) :
    (e.refreshWithin account facts now attempts).Obeys Task.Told AnyRequest
      (Concludes e account facts now (past.countP Exchange.isSave + attempts)) past := by
  induction attempts generalizing past with
  | zero => exact .quiet rfl looked (Nat.le_refl _)
  | succ attempts ih =>
      unfold refreshWithin
      rw [Task.obeys_bind]
      refine (e.tryRefresh_concludes looked).imp ?_
      intro result later htried
      cases result with
      | none =>
          obtain ⟨hlooked, hcount⟩ := htried
          have hrest := ih hlooked
          rwa [hcount, Nat.add_assoc, Nat.add_comm 1] at hrest
      | some result => exact htried.mono (by omega)

/-- **Side effects follow one write, and each runs once.** For every refresh and whatever the stores,
the gate and the hooks answer: before any side effect there are only looks and at most one write more
than there are repetitions, and only the last of them can have succeeded. If the refresh says that
nothing changed, that a store failed or that it lost every race, then all writes failed and nothing
was asked after them. Otherwise the last write succeeded, its transition is the one planned for the
record and the state set that were read last, and what was asked after it are the side effects of
that transition, each once and in order; after a refusal of the gate there follows one write that
takes the flags back. The refresh fails with an error of the gate exactly when the gate refused. -/
theorem effects_follow_one_write (e : OverdueEngine) {past : History}
    {result : Except OverdueError Refreshed}
    (run : (e.refreshWithFacts account facts now).Runs Task.Told [] result past) :
    ((∃ cause, result = .error (.entitlement cause)) ↔ past.refusal?.isSome) ∧
      ∃ after before : History, past = after ++ before ∧
        (∀ x ∈ before,
          x.request = .activeSet ∨ x.request = .state (.get account) ∨ x.isSave = true) ∧
        before.countP Exchange.isSave ≤ e.maxConflictRetries + 1 ∧
        (∀ x ∈ before.tail, x.written? = none) ∧
        (isQuiet result = true → after = [] ∧ ∀ x ∈ before, x.written? = none) ∧
        (isQuiet result = false → ∃ (t : Transition) (record : Option OverdueState)
            (set : Option StateSet) (looks : History),
          before = ⟨.state (.save t.after (.ofRead t.before.version)), .ok ()⟩ :: looks ∧
            looks.known? = some record ∧ looks.set? = some set ∧
            planTransition (record.getD (.clear account)) set facts now = some t ∧
            after.asked = e.effects t now ++
              (if past.refusal?.isSome then
                [.state (.save (reverted t ((set.map StateSet.version).getD 0) now)
                  (.exact t.after.version))] else []) ∧
            result = outcome t past.refusal?) := by
  have hends := (e.refreshWithin_concludes (e.maxConflictRetries + 1) (.nil account)).of_runs run
  rw [List.countP_nil, Nat.zero_add] at hends
  cases hends with
  | quiet hquiet looked hcount =>
      refine ⟨?_, [], past, rfl, looked.looks, hcount, ?_, fun _ => ⟨rfl, looked.unwritten⟩, ?_⟩
      · rw [looked.refusal?_eq]
        constructor
        · rintro ⟨cause, rfl⟩
          cases hquiet
        · intro h
          cases h
      · intro x hx
        exact looked.unwritten x (List.mem_of_mem_tail hx)
      · intro hloud
        rw [hquiet] at hloud
        cases hloud
  | @carried t record set looks after looked hcount hknown hset hplan hpast hasked hresult =>
      refine ⟨?_, after, _, hpast, List.forall_mem_cons.mpr ⟨.inr (.inr rfl), looked.looks⟩, ?_,
        looked.unwritten, ?_, ?_⟩
      · rw [hresult]
        cases past.refusal? <;> simp [outcome]
      · rw [List.countP_cons_of_pos rfl]
        exact hcount
      · intro hquiet
        rw [hresult] at hquiet
        cases hrefusal : past.refusal? <;> rw [hrefusal] at hquiet <;> cases hquiet
      · intro _
        exact ⟨t, record, set, looks, rfl, hknown, hset, hplan, hasked, hresult⟩

/-! ### A race that is lost and a gate that refuses -/

/-- The first write of a history loses the race and later ones succeed; the gate refuses. -/
def rumour (past : History) : (request : Request) → Option request.Answer
  | .activeSet => some (some strictSet)
  | .state (.get _) => some (.ok none)
  | .state (.save ..) =>
    some (if past.any Exchange.isSave then .ok () else .error ⟨.conflict, "version"⟩)
  | .setBlocked .. => some (.error (.unavailable "maintenance"))
  | .work (.cancelPending ..) => some (.ok 0)
  | _ => none

/-- Answer a request out of the history and add it. -/
def hear (request : Request) (past : History) : Except Stop request.Answer × History :=
  match rumour past request with
  | some answer => (.ok answer, ⟨request, answer⟩ :: past)
  | none => (.error .crashed, past)

theorem told_of_hear (request : Request) (past : History) (answer : request.Answer)
    (later : History) (h : hear request past = (.ok answer, later)) :
    Task.Told request past answer later := by
  unfold hear at h
  split at h
  · obtain ⟨hanswer, rfl⟩ := Prod.mk.inj h
    obtain rfl := Except.ok.inj hanswer
    rfl
  · cases (Prod.mk.inj h).1

/-- A refresh that finds a debt, loses a race and is refused by the gate. -/
def disappointed : Except Stop (Except OverdueError Refreshed) × History :=
  (refreshOf (.overdue 31 500)).run hear []

theorem disappointed_result :
    disappointed.1 = .ok (.error (.entitlement (.unavailable "maintenance"))) := by cbv

/-- It made two writes before its side effects; the gate refused, so the flags were taken back. -/
theorem effects_follow_one_write_refused :
    disappointed.2.refusal?.isSome = true ∧
      ∃ after before : History, disappointed.2 = after ++ before ∧
        before.countP Exchange.isSave ≤ 6 ∧ (∀ x ∈ before.tail, x.written? = none) ∧
        ∃ t setVersion, after.asked = ({} : OverdueEngine).effects t default ++
          [.state (.save (reverted t setVersion default) (.exact t.after.version))] := by
  have run : (refreshOf (.overdue 31 500)).Runs Task.Told []
      (.error (.entitlement (.unavailable "maintenance"))) disappointed.2 :=
    Task.runs_of_run told_of_hear (Prod.ext disappointed_result rfl)
  obtain ⟨hgate, after, before, hpast, -, hcount, hfailed, -, hcarried⟩ :=
    effects_follow_one_write {} run
  have hrefused := hgate.mp ⟨_, rfl⟩
  obtain ⟨t, record, set, looks, -, -, -, -, hasked, -⟩ := hcarried rfl
  rw [if_pos hrefused] at hasked
  exact ⟨hrefused, after, before, hpast, hcount, hfailed, t, _, hasked⟩

end OverdueEngine

end Dunning
