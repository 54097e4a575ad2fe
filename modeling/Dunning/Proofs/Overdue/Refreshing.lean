import Dunning.Overdue.Engine
import Dunning.Proofs.Task.Interleaving

/-!
# The conduct of a refresh

What a refresh does depends on what it was told: the facts, the active set and the record it read.
In its own view a refresh goes through stages. It looks until a write of its own succeeds; then it
has the side effects of that write to run. While the write changes flags it owes the gate a call,
and when the gate refuses it owes the record its old flags.

This module states the conduct of a refresh in terms of its history alone and proves it along the
engine, one lemma for each function. Nothing here depends on who else works on the account.

## Main definitions

* `Transition.SideEffect` — the requests that a written transition brings about.
* `History.known?`, `History.set?` — the record and the state set that a history last told.
* `StateWrite` — a record with the one that it was worked out from.
* `Stage`, `History.stage` — how far a refresh has come.
* `OverdueEngine.May`, `OverdueEngine.Ends` — what a refresh may ask, and how it ends.
* `OverdueEngine.Refreshes` — the refreshes of an account.

## Main results

* `planTransition_eq_some`, `planTransition_eq_none` — what is planned.
* `OverdueEngine.Refreshes.obeys` — the conduct of a refresh.
-/

namespace Dunning

/-! ## Planned transitions -/

/-- A planned transition starts from the record it was planned for, is one version up, carries the
restrictions of the resolved state, and changes flags exactly when they differ. -/
theorem planTransition_eq_some {current : OverdueState} {set : Option StateSet}
    {facts : AccountFacts} {now : Instant} {t : Transition}
    (h : planTransition current set facts now = some t) :
    t.before = current ∧
      t.after = current.advance (resolvedName (set.bind (·.resolve facts)))
        (resolvedActions (set.bind (·.resolve facts))) ((set.map StateSet.version).getD 0) now ∧
      t.flagsChange =
        if t.before.blocked = t.after.blocked then none else some t.after.blocked := by
  unfold planTransition at h
  simp only at h
  split at h
  · cases h
  · rw [Option.some.injEq] at h
    subst h
    exact ⟨rfl, rfl, ite_congr (propext beq_iff_eq) (fun _ => rfl) fun _ => rfl⟩

/-- What is planned is about the account of the record. -/
theorem planTransition_account {current : OverdueState} {set : Option StateSet}
    {facts : AccountFacts} {now : Instant} {t : Transition}
    (h : planTransition current set facts now = some t) : t.after.account = current.account := by
  rw [(planTransition_eq_some h).2.1]
  rfl

/-- Nothing is planned when the record has the restrictions that the facts call for. -/
theorem planTransition_eq_none {current : OverdueState} {set : Option StateSet}
    {facts : AccountFacts} {now : Instant} (h : planTransition current set facts now = none) :
    current.blocked = resolvedActions (set.bind (·.resolve facts)) := by
  unfold planTransition at h
  simp only at h
  split at h
  · rename_i hsame
    simp only [Bool.and_eq_true, beq_iff_eq] at hsame
    exact hsame.2
  · cases h

namespace Transition

/-- A transition that the engine plans. -/
def Planned (t : Transition) : Prop :=
  ∃ set facts now, planTransition t.before set facts now = some t

/-- The hooks of a phase. -/
def hooksOf (t : Transition) : HookPhase → List String
  | .leaving => t.exitHooks
  | .entering => t.entryHooks

/-- The run of a hook at an instant. -/
def hookRun (t : Transition) (phase : HookPhase) (now : Instant) (hook : String) : HookRun :=
  ⟨hook, t.after.account, phase, t.before.stateName, t.after.stateName, now⟩

/-- What a transition brings about besides its record. -/
inductive SideEffect (t : Transition) : Request → Prop where
  | hook {hook : String} {phase : HookPhase} {now : Instant} :
      t.after.lastTransitionAt = some now → hook ∈ t.hooksOf phase →
      SideEffect t (.runHook (t.hookRun phase now hook))
  | drop {now : Instant} : t.after.lastTransitionAt = some now → t.changesState = true →
      SideEffect t (.work (.cancelPending refreshQueue t.after.account.render now))
  | restrict {flags : BlockFlags} : t.flagsChange = some flags →
      SideEffect t (.setBlocked t.after.account flags)
  | schedule {due : Instant} : t.reevaluateAt = some due →
      SideEffect t (.work (.enqueue (refreshItem t.after.account.render due "reevaluation")))

theorem Planned.flagsChange_eq {t : Transition} (h : t.Planned) :
    t.flagsChange = if t.before.blocked = t.after.blocked then none else some t.after.blocked := by
  obtain ⟨_, _, _, hplan⟩ := h
  exact (planTransition_eq_some hplan).2.2

/-- Flags are changed to those that are written, and only when those differ from the old ones. -/
theorem Planned.of_flagsChange {t : Transition} {flags : BlockFlags} (h : t.Planned)
    (hflags : t.flagsChange = some flags) :
    flags = t.after.blocked ∧ t.before.blocked ≠ t.after.blocked := by
  rw [h.flagsChange_eq] at hflags
  split at hflags
  · cases hflags
  · rename_i hne
    exact ⟨(Option.some.inj hflags).symm, hne⟩

theorem Planned.version_eq {t : Transition} (h : t.Planned) :
    t.after.version = t.before.version + 1 := by
  obtain ⟨_, _, _, hplan⟩ := h
  rw [(planTransition_eq_some hplan).2.1]
  rfl

end Transition

/-! ## Histories -/

/-- What a program asked and was told, the latest first. -/
abbrev History : Type := List (Exchange Request Request.Answer)

namespace Exchange

/-- The record that an exchange tells of: the one that was read, or the one that was written. -/
def known? : Exchange Request Request.Answer → Option (Option OverdueState)
  | ⟨.state (.get _), .ok record⟩ => some record
  | ⟨.state (.save record _), .ok ()⟩ => some (some record)
  | _ => none

/-- The record that an exchange wrote. -/
def written? : Exchange Request Request.Answer → Option OverdueState
  | ⟨.state (.save record _), .ok ()⟩ => some record
  | _ => none

/-- The state set that an exchange tells of. -/
def set? : Exchange Request Request.Answer → Option (Option StateSet)
  | ⟨.activeSet, set⟩ => some set
  | _ => none

end Exchange

/-- A record with the one that it was worked out from. -/
structure StateWrite where
  basis : OverdueState
  record : OverdueState
  deriving DecidableEq

/-- The write of a transition. -/
def Transition.write (t : Transition) : StateWrite := ⟨t.before, t.after⟩

/-- How far a refresh has come. -/
inductive Stage where
  /-- Nothing is written yet. -/
  | looking
  /-- A change of flags is written and the gate has not answered yet. -/
  | owing (w : StateWrite)
  /-- The gate refused the flags. -/
  | refused (w : StateWrite)
  /-- The flags that are written are in force. -/
  | settled (w : StateWrite)
  /-- The old flags are recorded again. -/
  | reverted (w : StateWrite)
  /-- The old flags could not be recorded again. -/
  | unreverted (w : StateWrite)
  deriving DecidableEq

namespace Stage

/-- The write whose side effects are under way. -/
def write? : Stage → Option StateWrite
  | owing w | refused w | settled w => some w
  | looking | reverted _ | unreverted _ => none

/-- Whether neither the gate nor the record is owed anything. -/
def isOver : Stage → Bool
  | owing _ | refused _ => false
  | looking | settled _ | reverted _ | unreverted _ => true

/-- The stage right after a write. -/
def written (w : StateWrite) : Stage :=
  if w.basis.blocked = w.record.blocked then settled w else owing w

theorem written_of_eq {t : Transition} (h : t.before.blocked = t.after.blocked) :
    written t.write = settled t.write := if_pos h

theorem written_of_ne {t : Transition} (h : t.before.blocked ≠ t.after.blocked) :
    written t.write = owing t.write := if_neg h

theorem write?_written (w : StateWrite) : (written w).write? = some w := by
  unfold written
  split <;> rfl

/-- The stage after an exchange, given the record that was known before. -/
def next (basis : OverdueState) : Stage → Exchange Request Request.Answer → Stage
  | looking, ⟨.state (.save record _), .ok ()⟩ => written ⟨basis, record⟩
  | refused w, ⟨.state (.save _ _), .ok ()⟩ => reverted w
  | refused w, ⟨.state (.save _ _), .error _⟩ => unreverted w
  | owing w, ⟨.setBlocked _ _, .ok ()⟩ => settled w
  | owing w, ⟨.setBlocked _ _, .error _⟩ => refused w
  | stage, _ => stage

end Stage

namespace History

/-- The record that a history last told of; none inside stands for an account without one. -/
def known? (past : History) : Option (Option OverdueState) := past.findSome? Exchange.known?

/-- The state set that a history last told of. -/
def set? (past : History) : Option (Option StateSet) := past.findSome? Exchange.set?

/-- What a record of an account is worked out from after a history. -/
def basis (account : AccountId) (past : History) : OverdueState :=
  past.known?.join.getD (.clear account)

/-- How far the refresh of an account with a history has come. -/
def stage (account : AccountId) : History → Stage
  | [] => .looking
  | exchange :: past => (stage account past).next (basis account past) exchange

/-- Two histories that make no difference for a refresh. -/
structure Alike (account : AccountId) (past later : History) : Prop where
  stage_eq : later.stage account = past.stage account
  known_eq : later.known? = past.known?
  set_eq : later.set? = past.set?

variable {account : AccountId} {past later : History}

theorem Alike.refl (account : AccountId) (past : History) : Alike account past past :=
  ⟨rfl, rfl, rfl⟩

theorem Alike.trans {last : History} (h : Alike account past later)
    (h' : Alike account later last) : Alike account past last :=
  ⟨h'.stage_eq.trans h.stage_eq, h'.known_eq.trans h.known_eq, h'.set_eq.trans h.set_eq⟩

theorem basis_of_known {record : Option OverdueState} (h : past.known? = some record) :
    past.basis account = record.getD (.clear account) := by
  rw [basis, h]
  rfl

theorem known?_cons_of_none {exchange : Exchange Request Request.Answer}
    (h : exchange.known? = none) (past : History) :
    known? (exchange :: past) = past.known? := by
  rw [known?, List.findSome?_cons, h]
  rfl

theorem known?_cons_of_some {exchange : Exchange Request Request.Answer}
    {record : Option OverdueState} (h : exchange.known? = some record) (past : History) :
    known? (exchange :: past) = some record := by
  rw [known?, List.findSome?_cons, h]

/-- A refresh goes on looking until a write of its own succeeds. -/
theorem stage_of_looking {exchange : Exchange Request Request.Answer}
    (hstage : past.stage account = .looking) (hwritten : exchange.written? = none) :
    stage account (exchange :: past) = .looking := by
  rw [stage, hstage]
  unfold Stage.next
  split
  · cases hwritten
  all_goals first | rfl | contradiction

theorem stage_of_write {record : OverdueState} {expected : Expected}
    (hstage : past.stage account = .looking) :
    stage account (⟨.state (.save record expected), .ok ()⟩ :: past) =
      .written ⟨past.basis account, record⟩ := by
  rw [stage, hstage]
  rfl

end History

/-- Whether a request makes no difference for the stage of a refresh or for what it knows. -/
def Request.isQuiet : Request → Bool
  | .state _ | .setBlocked .. | .activeSet => false
  | _ => true

theorem History.alike_of_isQuiet {account : AccountId} {request : Request}
    (h : request.isQuiet = true) (past : History) (answer : request.Answer) :
    Alike account past (⟨request, answer⟩ :: past) := by
  cases request with
  | state | setBlocked | activeSet => cases h
  | work | attempt | facts | runHook | charge | generateInvoices | freshId | giveUp =>
      refine ⟨?_, rfl, rfl⟩
      simp only [stage]
      cases stage account past <;> rfl

/-! ## What a refresh may ask -/

namespace OverdueEngine

/-- What a refresh of an account may ask after a history: it looks, it writes what it planned for
the record and the set that it was told, it runs the side effects of its write, and it takes back
flags that were refused. -/
inductive May (account : AccountId) (past : History) : Request → Prop where
  | facts : past.stage account = .looking → May account past (.facts account)
  | activeSet : past.stage account = .looking → May account past .activeSet
  | get : past.stage account = .looking → May account past (.state (.get account))
  | write {record : Option OverdueState} {set : Option StateSet} {facts : AccountFacts}
      {now : Instant} {t : Transition} :
      past.stage account = .looking → past.known? = some record → past.set? = some set →
      planTransition (record.getD (.clear account)) set facts now = some t →
      May account past (.state (.save t.after (.ofRead t.before.version)))
  | effect {t : Transition} {request : Request} :
      t.Planned → (past.stage account).write? = some t.write → t.SideEffect request →
      (∀ flags, request = .setBlocked t.after.account flags →
        past.stage account = .owing t.write) →
      May account past request
  | revert {t : Transition} {setVersion : UInt64} {now : Instant} :
      t.Planned → past.stage account = .refused t.write →
      May account past (.state (.save (reverted t setVersion now) (.exact t.after.version)))

/-- How a refresh with some facts ends: it owes nothing, and when it succeeds it returns the record
that it knows last, with the restrictions that the facts call for. -/
structure Ends (account : AccountId) (facts : AccountFacts)
    (result : Except OverdueError Refreshed) (past : History) : Prop where
  isOver : (past.stage account).isOver = true
  agrees : ∀ refreshed, result = .ok refreshed → ∃ record set, past.known? = some record ∧
    past.set? = some set ∧ record.getD (.clear account) = refreshed.state ∧
    refreshed.state.blocked = resolvedActions (set.bind (·.resolve facts))

theorem Ends.of_error {account : AccountId} {facts : AccountFacts} {error : OverdueError}
    {past : History} (h : (past.stage account).isOver = true) :
    Ends account facts (.error error) past where
  isOver := h
  agrees := by
    intro refreshed hresult
    cases hresult

/-! ## Side effects -/

variable {account : AccountId} {past : History} {t : Transition} {now : Instant}

theorem May.of_isQuiet {request : Request} (hplanned : t.Planned)
    (hwrite : (past.stage account).write? = some t.write) (heffect : t.SideEffect request)
    (hquiet : request.isQuiet = true) : May account past request := by
  refine .effect hplanned hwrite heffect ?_
  rintro flags rfl
  cases hquiet

theorem runHooks_obeys (e : OverdueEngine) {phase : HookPhase} {hooks : List String}
    (hplanned : t.Planned) (hnow : t.after.lastTransitionAt = some now)
    (hwrite : (past.stage account).write? = some t.write) (hhooks : hooks ⊆ t.hooksOf phase) :
    (e.runHooks t phase now hooks).Obeys Task.Told (May account)
      (fun _ later => past.Alike account later) past := by
  induction hooks generalizing past with
  | nil => exact History.Alike.refl account past
  | cons hook rest ih =>
      obtain ⟨hhook, hrest⟩ := List.cons_subset.mp hhooks
      unfold runHooks
      split
      · refine Task.obeys_told.mpr
          ⟨.of_isQuiet hplanned hwrite (.hook hnow hhook) rfl, fun answer => ?_⟩
        have halike : past.Alike account (⟨.runHook (t.hookRun phase now hook), answer⟩ :: past) :=
          History.alike_of_isQuiet rfl past answer
        refine (ih ((congrArg Stage.write? halike.stage_eq).trans hwrite) hrest).imp ?_
        intro value later hlater
        exact halike.trans hlater
      · exact ih hwrite hrest

theorem dropLooks_obeys (hplanned : t.Planned) (hnow : t.after.lastTransitionAt = some now)
    (hwrite : (past.stage account).write? = some t.write) :
    (dropLooks t now).Obeys Task.Told (May account) (fun _ later => past.Alike account later)
      past := by
  unfold dropLooks
  split
  · rename_i hchanges
    refine Task.obeys_told.mpr ⟨.of_isQuiet hplanned hwrite (.drop hnow hchanges) rfl, ?_⟩
    intro answer
    exact History.alike_of_isQuiet rfl past answer
  · exact History.Alike.refl account past

theorem scheduleLook_obeys (hplanned : t.Planned)
    (hwrite : (past.stage account).write? = some t.write) :
    (scheduleLook t).Obeys Task.Told (May account) (fun _ later => past.Alike account later)
      past := by
  unfold scheduleLook
  split
  · rename_i due hdue
    refine Task.obeys_told.mpr ⟨.of_isQuiet hplanned hwrite (.schedule hdue) rfl, ?_⟩
    intro answer
    exact History.alike_of_isQuiet rfl past answer
  · exact History.Alike.refl account past

/-- Right after a write the gate is asked for the new flags, if they changed. -/
theorem restrict_obeys (hplanned : t.Planned) (hstage : past.stage account = .written t.write) :
    (restrict t).Obeys Task.Told (May account)
      (fun result (later : History) => later.known? = past.known? ∧ later.set? = past.set? ∧
        (result = .ok () ∧ later.stage account = .settled t.write ∨
          ∃ cause, result = .error cause ∧ later.stage account = .refused t.write)) past := by
  have hflags := hplanned.flagsChange_eq
  unfold restrict
  by_cases hsame : t.before.blocked = t.after.blocked
  · rw [if_pos hsame] at hflags
    simp only [hflags]
    refine ⟨rfl, rfl, .inl ⟨rfl, ?_⟩⟩
    exact hstage.trans (Stage.written_of_eq hsame)
  · rw [if_neg hsame] at hflags
    simp only [hflags]
    have howing : past.stage account = .owing t.write :=
      hstage.trans (Stage.written_of_ne hsame)
    refine Task.obeys_told.mpr ⟨.effect hplanned ?_ (.restrict hflags) ?_, ?_⟩
    · rw [howing]
      rfl
    · intro flags _
      exact howing
    · intro answer
      refine ⟨rfl, rfl, ?_⟩
      cases answer with
      | ok => exact .inl ⟨rfl, by simp only [History.stage, howing]; rfl⟩
      | error cause => exact .inr ⟨cause, rfl, by simp only [History.stage, howing]; rfl⟩

/-- Flags that were refused are taken back. -/
theorem revertFlags_obeys {setVersion : UInt64} (hplanned : t.Planned)
    (hstage : past.stage account = .refused t.write) :
    (revertFlags t setVersion now).Obeys Task.Told (May account)
      (fun _ (later : History) => (later.stage account).isOver = true) past := by
  refine Task.obeys_told.mpr ⟨.revert hplanned hstage, fun answer => ?_⟩
  show ((Stage.next _ (past.stage account) _).isOver) = true
  rw [hstage]
  cases answer <;> rfl

/-- The side effects of a write: either the gate has the flags that are written, or the refresh
fails and has taken them back as far as it could. -/
theorem apply_obeys (e : OverdueEngine) {setVersion : UInt64} (hplanned : t.Planned)
    (hnow : t.after.lastTransitionAt = some now) (hstage : past.stage account = .written t.write) :
    (e.apply t setVersion now).Obeys Task.Told (May account)
      (fun result (later : History) =>
        result = .ok () ∧ later.known? = past.known? ∧ later.set? = past.set? ∧
            later.stage account = .settled t.write ∨
          ∃ error, result = .error error ∧ (later.stage account).isOver = true) past := by
  have hwrite : (past.stage account).write? = some t.write := by
    rw [hstage, Stage.write?_written]
  simp only [apply, Task.bind_eq, Task.pure_eq]
  rw [Task.obeys_bind]
  refine (e.runHooks_obeys hplanned hnow hwrite (List.Subset.refl _)).imp fun _ left hleft => ?_
  rw [Task.obeys_bind]
  have hwrite := (congrArg Stage.write? hleft.stage_eq).trans hwrite
  refine (dropLooks_obeys hplanned hnow hwrite).imp fun _ dropped hdropped => ?_
  rw [Task.obeys_bind]
  have hbefore := hleft.trans hdropped
  refine (restrict_obeys hplanned (hbefore.stage_eq.trans hstage)).imp ?_
  rintro restricted asked ⟨hknown, hset, hasked⟩
  rw [Task.obeys_bind]
  have hwrite : (History.stage account asked).write? = some t.write := by
    rcases hasked with ⟨-, h⟩ | ⟨_, -, h⟩ <;> rw [h] <;> rfl
  refine (e.runHooks_obeys hplanned hnow hwrite (List.Subset.refl _)).imp
    fun _ entered hentered => ?_
  rw [Task.obeys_bind]
  have hwrite := (congrArg Stage.write? hentered.stage_eq).trans hwrite
  refine (scheduleLook_obeys hplanned hwrite).imp fun _ scheduled hscheduled => ?_
  have hafter := hentered.trans hscheduled
  -- The hooks and the look that follow leave the stage as the gate's answer made it.
  rcases hasked with ⟨rfl, hsettled⟩ | ⟨cause, rfl, hrefused⟩
  · refine .inl ⟨rfl, ?_, ?_, hafter.stage_eq.trans hsettled⟩
    · rw [hafter.known_eq, hknown, hbefore.known_eq]
    · rw [hafter.set_eq, hset, hbefore.set_eq]
  · simp only []
    rw [Task.obeys_bind]
    refine (revertFlags_obeys hplanned (hafter.stage_eq.trans hrefused)).imp ?_
    intro _ later hover
    exact .inr ⟨_, rfl, hover⟩

/-! ## Refreshes -/

variable {facts : AccountFacts}

/-- How one attempt ends: without a result nothing is written. -/
def Tries (account : AccountId) (facts : AccountFacts) :
    Option (Except OverdueError Refreshed) → History → Prop
  | none, past => past.stage account = .looking
  | some result, past => Ends account facts result past

theorem carryOut_obeys (e : OverdueEngine) {record : Option OverdueState} {set : Option StateSet}
    {setVersion : UInt64} (hstage : past.stage account = .looking)
    (hknown : past.known? = some record) (hset : past.set? = some set)
    (hplan : planTransition (record.getD (.clear account)) set facts now = some t) :
    (e.carryOut t setVersion now).Obeys Task.Told (May account) (Tries account facts) past := by
  obtain ⟨hbefore, hafter, -⟩ := planTransition_eq_some hplan
  have hplanned : t.Planned := ⟨set, facts, now, by rw [hbefore]; exact hplan⟩
  have hnow : t.after.lastTransitionAt = some now := by rw [hafter]; rfl
  refine Task.obeys_told.mpr ⟨.write hstage hknown hset hplan, fun answer => ?_⟩
  cases answer with
  | error error =>
      have hlooking : History.stage account
          (⟨.state (.save t.after (.ofRead t.before.version)), .error error⟩ :: past) =
            .looking := History.stage_of_looking hstage rfl
      simp only [Task.bind_done]
      split
      · exact hlooking
      · exact Ends.of_error (by rw [hlooking]; rfl)
  | ok =>
      have hwritten : History.stage account
          (⟨.state (.save t.after (.ofRead t.before.version)), .ok ()⟩ :: past) =
            .written t.write := by
        rw [History.stage_of_write hstage, History.basis_of_known hknown, ← hbefore]
        rfl
      simp only [Task.bind_done, Task.bind_eq]
      rw [Task.obeys_bind]
      refine (e.apply_obeys hplanned hnow hwritten).imp ?_
      rintro result later (⟨rfl, hknown', hset', hsettled⟩ | ⟨error, rfl, hover⟩)
      · refine ⟨by rw [hsettled]; rfl, ?_⟩
        intro refreshed hrefreshed
        obtain rfl := Except.ok.inj hrefreshed
        refine ⟨some t.after, set, hknown', hset'.trans hset, rfl, ?_⟩
        rw [hafter]
        rfl
      · exact Ends.of_error hover

theorem tryRefresh_obeys (e : OverdueEngine) (hstage : past.stage account = .looking) :
    (e.tryRefresh account facts now).Obeys Task.Told (May account) (Tries account facts) past := by
  refine Task.obeys_told.mpr ⟨.activeSet hstage, fun set => ?_⟩
  have hstage : History.stage account (⟨.activeSet, set⟩ :: past) = .looking :=
    History.stage_of_looking hstage rfl
  refine Task.obeys_told.mpr ⟨.get hstage, fun answer => ?_⟩
  have hstage : History.stage account
      (⟨.state (.get account), answer⟩ :: ⟨.activeSet, set⟩ :: past) = .looking :=
    History.stage_of_looking hstage rfl
  cases answer with
  | error error => exact Ends.of_error (by rw [hstage]; rfl)
  | ok record =>
      simp only [Task.bind_done]
      split
      · rename_i hplan
        refine ⟨by rw [hstage]; rfl, ?_⟩
        intro refreshed hrefreshed
        obtain rfl := Except.ok.inj hrefreshed
        exact ⟨record, set, rfl, rfl, rfl, planTransition_eq_none hplan⟩
      · rename_i hplan
        exact e.carryOut_obeys hstage rfl rfl hplan

theorem refreshWithin_obeys (e : OverdueEngine) (attempts : Nat)
    (hstage : past.stage account = .looking) :
    (e.refreshWithin account facts now attempts).Obeys Task.Told (May account)
      (Ends account facts) past := by
  induction attempts generalizing past with
  | zero => exact Ends.of_error (by rw [hstage]; rfl)
  | succ attempts ih =>
      unfold refreshWithin
      rw [Task.obeys_bind]
      refine (e.tryRefresh_obeys hstage).imp ?_
      intro result later htries
      cases result with
      | none => exact ih htries
      | some result => exact htries

/-- The refreshes of an account with some facts, which are given or asked for. -/
inductive Refreshes (account : AccountId) (facts : AccountFacts) :
    Program (Except OverdueError Refreshed) → Prop where
  | withFacts (e : OverdueEngine) (now : Instant) :
      Refreshes account facts (e.refreshWithFacts account facts now)
  | asking (e : OverdueEngine) (now : Instant) : Refreshes account facts (e.refresh account now)

/-- **The conduct of a refresh.** It ends with the facts that it was given or told. -/
theorem Refreshes.obeys {r : Program (Except OverdueError Refreshed)}
    (h : Refreshes account facts r) :
    r.Obeys Task.Told (May account)
      (fun result past => ∃ told, (told = facts ∨ ⟨.facts account, .ok told⟩ ∈ past) ∧
        Ends account told result past) [] := by
  cases h with
  | withFacts e now =>
      refine (e.refreshWithin_obeys _ rfl).imp ?_
      intro result past hends
      exact ⟨facts, .inl rfl, hends⟩
  | asking e now =>
      refine Task.obeys_told.mpr ⟨.facts rfl, fun answer => ?_⟩
      cases answer with
      | error cause => exact ⟨facts, .inl rfl, Ends.of_error rfl⟩
      | ok told =>
          have hrefresh : (e.refreshWithFacts account told now).Obeys Task.Told (May account)
              (Ends account told) [⟨.facts account, .ok told⟩] := e.refreshWithin_obeys _ rfl
          refine hrefresh.told_suffix.imp ?_
          rintro result past ⟨hends, hsuffix⟩
          exact ⟨told, .inr (hsuffix.subset List.mem_cons_self), hends⟩

end OverdueEngine

end Dunning
