import Dunning.Proofs.Overdue.SideEffects
import Dunning.Proofs.Overdue.Agreement

/-!
# Refreshes converge

A refresh that nobody disturbs finds the state that the facts call for and records it. What it
compares is the name and the flags, and both of them are what it writes, so the refresh that follows
finds nothing to do, whatever the clock says by then: it looks at the active set and at the record and
asks nothing else.

## Main definitions

* `FirstMatch` — the state that a set and some facts call for, in terms of the list of states.
* `OverdueState.Says` — a record has the name and the flags of a target.
* `OverdueEngine.Undisturbed` — surroundings without another writer and without failures of the store
  of states or of the gate.
* `OverdueEngine.Settles` — how a refresh ends among them.

## Main results

* `firstMatch_iff` — resolving finds the first match.
* `planTransition_eq_none_iff`, `planTransition_parts` — when there is a transition, and what it
  carries.
* `OverdueEngine.refreshWithFacts_settles` — how a refresh ends.
* `OverdueEngine.refreshes_converge` — one refresh is enough.
-/

namespace Dunning

/-! ## What the facts call for -/

/-- The state that a set and some facts call for: the first in order of priority whose condition
holds. There is none when no condition holds, or without a set. -/
inductive FirstMatch (facts : AccountFacts) : Option StateSet → Option StateDef → Prop where
  | found {version : UInt64} {before after : List StateDef} {d : StateDef} :
      (∀ earlier ∈ before, earlier.condition.holds facts = false) →
      d.condition.holds facts = true →
      FirstMatch facts (some ⟨version, before ++ d :: after⟩) (some d)
  | clear {set : Option StateSet} :
      (∀ s ∈ set, ∀ d ∈ s.states, d.condition.holds facts = false) → FirstMatch facts set none

/-- Resolving finds the first match. -/
theorem firstMatch_iff {facts : AccountFacts} {set : Option StateSet} {target : Option StateDef} :
    FirstMatch facts set target ↔ set.bind (·.resolve facts) = target := by
  constructor
  · intro h
    cases h with
    | found hbefore hholds =>
        refine List.find?_eq_some_iff_append.mpr ⟨hholds, _, _, rfl, ?_⟩
        intro earlier hearlier
        simp [hbefore earlier hearlier]
    | clear hnone =>
        cases set with
        | none => rfl
        | some s => exact List.find?_eq_none.mpr fun d hd => by simp [hnone s rfl d hd]
  · rintro rfl
    cases set with
    | none => exact .clear nofun
    | some s =>
        rw [Option.bind_some]
        cases hfound : s.resolve facts with
        | some d =>
            obtain ⟨hholds, before, after, hstates, hbefore⟩ :=
              List.find?_eq_some_iff_append.mp hfound
            have hset : s = ⟨s.version, before ++ d :: after⟩ := by rw [← hstates]
            rw [hset]
            exact .found (fun earlier hearlier => by simpa using hbefore earlier hearlier) hholds
        | none =>
            refine .clear ?_
            rintro other ⟨⟩ d hd
            simpa using List.find?_eq_none.mp hfound d hd

/-- Whether a record has the name and the flags of a target. -/
def OverdueState.Says (r : OverdueState) (target : Option StateDef) : Prop :=
  r.stateName = resolvedName target ∧ r.blocked = resolvedActions target

/-- The record after a change to a target, one version up. -/
def OverdueState.moved (r : OverdueState) (target : Option StateDef) (set : Option StateSet)
    (now : Instant) : OverdueState :=
  r.advance (resolvedName target) (resolvedActions target) ((set.map StateSet.version).getD 0) now

theorem OverdueState.says_moved (r : OverdueState) (target : Option StateDef)
    (set : Option StateSet) (now : Instant) : (r.moved target set now).Says target := ⟨rfl, rfl⟩

/-! ## What is planned -/

section Planning

variable {current : OverdueState} {set : Option StateSet} {facts : AccountFacts} {now : Instant}
  {target : Option StateDef} {t : Transition}

/-- There is no transition exactly when name and flags agree already. -/
theorem planTransition_eq_none_iff (h : FirstMatch facts set target) :
    planTransition current set facts now = none ↔ current.Says target := by
  obtain rfl := firstMatch_iff.mp h
  unfold planTransition OverdueState.Says
  simp only
  split
  · rename_i hsame
    simpa using hsame
  · rename_i hdiffers
    simpa using hdiffers

/-- What a transition carries: the flags when they change, the hooks when the name changes, and a
next look when the name changes to that of a state with an interval that ends within the calendar. -/
structure Transition.Carries (t : Transition) (set : Option StateSet) (target : Option StateDef)
    (now : Instant) : Prop where
  after_eq : t.after = t.before.moved target set now
  flags_eq : t.flagsChange =
    if t.before.blocked = resolvedActions target then none else some (resolvedActions target)
  exit_eq : t.exitHooks = if t.before.stateName = resolvedName target then [] else
    ((set.bind (·.state? t.before.stateName)).map StateDef.onExit).getD []
  entry_eq : t.entryHooks = if t.before.stateName = resolvedName target then [] else
    (target.map StateDef.onEntry).getD []
  look_iff : ∀ due, t.reevaluateAt = some due ↔ t.before.stateName ≠ resolvedName target ∧
    ∃ d interval, target = some d ∧ d.interval = some interval ∧ interval.after? now = some due

theorem planTransition_parts (h : FirstMatch facts set target)
    (hplan : planTransition current set facts now = some t) :
    t.before = current ∧ t.Carries set target now := by
  unfold planTransition at hplan
  simp only [firstMatch_iff.mp h] at hplan
  split at hplan
  · cases hplan
  · obtain rfl := Option.some.inj hplan
    refine ⟨rfl, rfl, ite_congr (propext beq_iff_eq) (fun _ => rfl) fun _ => rfl, ?_, ?_, ?_⟩
    · by_cases hname : current.stateName = resolvedName target <;> simp [hname]
    · by_cases hname : current.stateName = resolvedName target <;> simp [hname]
    · intro due
      by_cases hname : current.stateName = resolvedName target
      · simp [hname]
      · cases target <;> simp [hname, Option.bind_eq_some_iff]

end Planning

/-- The record of an account, that of a clear account when there is none. -/
def StateStore.standing (s : StateStore) (account : AccountId) : OverdueState :=
  (s.get? account).getD (.clear account)

theorem StateStore.standing_account (s : StateStore) (account : AccountId) :
    (s.standing account).account = account := by
  unfold standing
  cases hrecord : s.get? account with
  | none => rfl
  | some record => exact account_of_get? hrecord

theorem StateStore.standing_of_get? {s u : StateStore} {account : AccountId}
    (h : u.get? account = s.get? account) : u.standing account = s.standing account := by
  rw [standing, h, standing]

namespace OverdueEngine

/-! ## Among surroundings that do not fail -/

/-- What is said of the active set and of the flags. Everything else may be answered in any way. -/
def Welcomes (set : Option StateSet) : (request : Request) → request.Answer → Prop
  | .activeSet, answer => answer = set
  | .setBlocked .., answer => answer = .ok ()
  | _, _ => True

/-- How requests are answered during a refresh that nobody disturbs: the store of states does what it
is asked, nobody else writes to it, and the gate accepts all flags. -/
def Undisturbed (set : Option StateSet) (request : Request) (b : Books) (answer : request.Answer)
    (b' : Books) : Prop :=
  StateStore.Answers (Welcomes set) request b.states answer b'.states ∧
    b'.past = ⟨request, answer⟩ :: b.past

/-- Whether a request has an answer. -/
abbrev Answered (set : Option StateSet) (b : Books) (request : Request) : Prop :=
  ∃ answer b', Undisturbed set request b answer b'

/-- How a refresh ends that nobody disturbs. When the record says what the facts call for it has only
looked; otherwise the record is moved. -/
inductive Settles (account : AccountId) (set : Option StateSet) (target : Option StateDef)
    (now : Instant) (b : Books) : Except OverdueError Refreshed → Books → Prop where
  | kept : (b.states.standing account).Says target →
      Settles account set target now b (.ok ⟨b.states.standing account, false⟩)
        ⟨b.states, ⟨.state (.get account), .ok (b.states.get? account)⟩ :: ⟨.activeSet, set⟩ ::
          b.past⟩
  | moved {b' : Books} : ¬ (b.states.standing account).Says target →
      b'.states = b.states.put ((b.states.standing account).moved target set now) →
      Settles account set target now b
        (.ok ⟨(b.states.standing account).moved target set now, true⟩) b'

variable {account : AccountId} {set : Option StateSet} {facts : AccountFacts}
  {target : Option StateDef} {now : Instant} {b : Books}

theorem answered_state (asked : StateRequest) : Answered set b (.state asked) :=
  ⟨(b.states.respond asked).1, ⟨(b.states.respond asked).2, _⟩, rfl, rfl⟩

theorem answered {request : Request} (answer : request.Answer) (h : Welcomes set request answer) :
    Answered set b request := by
  cases request with
  | state asked => exact answered_state asked
  | _ => exact ⟨answer, ⟨b.states, ⟨_, answer⟩ :: b.past⟩, ⟨h, rfl⟩, rfl⟩

theorem runHooks_settles (e : OverdueEngine) (t : Transition) (phase : HookPhase) (now : Instant)
    (hooks : List String) :
    (e.runHooks t phase now hooks).Obeys (Undisturbed set) (Answered set)
      (fun _ b' => b'.states = b.states) b := by
  induction hooks generalizing b with
  | nil => exact rfl
  | cons hook rest ih =>
      unfold runHooks
      split
      · refine ⟨answered (.ok ()) trivial, fun _ b' h => ?_⟩
        exact ih.imp fun _ _ hlater => hlater.trans h.1.2
      · exact ih

theorem dropLooks_settles (t : Transition) (now : Instant) :
    (dropLooks t now).Obeys (Undisturbed set) (Answered set) (fun _ b' => b'.states = b.states)
      b := by
  unfold dropLooks
  split
  · exact ⟨answered (.ok 0) trivial, fun _ _ h => h.1.2⟩
  · exact rfl

/-- The gate accepts the flags when it is asked. -/
theorem restrict_settles (t : Transition) :
    (restrict t).Obeys (Undisturbed set) (Answered set)
      (fun result b' => result = .ok () ∧ b'.states = b.states) b := by
  unfold restrict
  split
  · exact ⟨answered (.ok ()) rfl, fun _ _ h => h.1⟩
  · exact ⟨rfl, rfl⟩

theorem scheduleLook_settles (t : Transition) :
    (scheduleLook t).Obeys (Undisturbed set) (Answered set) (fun _ b' => b'.states = b.states)
      b := by
  unfold scheduleLook
  split
  · exact ⟨answered (.error ⟨.unavailable, ""⟩) trivial, fun _ _ h => h.1.2⟩
  · exact rfl

/-- The side effects leave the record alone, and they succeed. -/
theorem apply_settles (e : OverdueEngine) (t : Transition) (setVersion : UInt64) (now : Instant) :
    (e.apply t setVersion now).Obeys (Undisturbed set) (Answered set)
      (fun result b' => result = .ok () ∧ b'.states = b.states) b := by
  simp only [apply, Task.bind_eq, Task.pure_eq, Task.obeys_bind]
  refine (e.runHooks_settles t .leaving now t.exitHooks).imp fun _ left hleft => ?_
  refine (dropLooks_settles t now).imp fun _ dropped hdropped => ?_
  refine (restrict_settles t).imp fun result gated hgated => ?_
  obtain ⟨rfl, hgated⟩ := hgated
  refine (e.runHooks_settles t .entering now t.entryHooks).imp fun _ entered hentered => ?_
  refine (scheduleLook_settles t).imp fun _ scheduled hscheduled => ?_
  exact ⟨rfl, by rw [hscheduled, hentered, hgated, hdropped, hleft]⟩

/-- The write of a transition is let through: the record is at the version that was read. -/
theorem allows_standing {s : StateStore}
    (hversion : ∀ record, s.get? account = some record → record.version ≠ 0) :
    (Expected.ofRead (s.standing account).version).allows
      ((s.get? account).map OverdueState.version) = true := by
  unfold StateStore.standing
  cases hrecord : s.get? account with
  | none => rfl
  | some record => exact (Expected.allows_ofRead (hversion record hrecord) _).mpr rfl

/-- A transition that nobody disturbs is carried out. -/
theorem carryOut_settles (e : OverdueEngine) (hmatch : FirstMatch facts set target) {t : Transition}
    (hplan : planTransition (b.states.standing account) set facts now = some t)
    (hversion : ∀ record, b.states.get? account = some record → record.version ≠ 0) {b₁ : Books}
    (hstates : b₁.states = b.states) :
    (e.carryOut t ((set.map StateSet.version).getD 0) now).Obeys (Undisturbed set) (Answered set)
      (fun result b' => ∃ settled, result = some settled ∧
        Settles account set target now b settled b') b₁ := by
  obtain ⟨hbefore, hcarries⟩ := planTransition_parts hmatch hplan
  have hdiffers : ¬ (b.states.standing account).Says target := by
    intro htells
    rw [(planTransition_eq_none_iff hmatch).mpr htells] at hplan
    cases hplan
  have hafter : t.after = (b.states.standing account).moved target set now := by
    rw [hcarries.after_eq, hbefore]
  have haccount : t.after.account = account := by
    rw [planTransition_account hplan]
    exact b.states.standing_account account
  refine ⟨answered_state _, ?_⟩
  rintro answer written ⟨hwritten, -⟩
  cases answer with
  | error error =>
      have hrefused := (StateStore.save_eq_error hwritten).1
      rw [haccount, hbefore, hstates, allows_standing hversion] at hrefused
      cases hrefused
  | ok =>
      simp only [Task.bind_done, Task.bind_eq, Task.obeys_bind]
      refine (e.apply_settles t _ now).imp ?_
      rintro _ b' ⟨rfl, hb'⟩
      refine ⟨_, rfl, ?_⟩
      rw [hafter]
      refine .moved hdiffers ?_
      rw [hb', (StateStore.save_eq_ok hwritten).2, hstates, hafter]

theorem tryRefresh_settles (e : OverdueEngine) (hmatch : FirstMatch facts set target)
    (hversion : ∀ record, b.states.get? account = some record → record.version ≠ 0) :
    (e.tryRefresh account facts now).Obeys (Undisturbed set) (Answered set)
      (fun result b' => ∃ settled, result = some settled ∧
        Settles account set target now b settled b') b := by
  refine ⟨answered set rfl, ?_⟩
  rintro told b₁ ⟨⟨rfl, hb₁⟩, hpast₁⟩
  refine ⟨answered_state _, ?_⟩
  rintro answer b₂ ⟨hanswer, hpast₂⟩
  obtain ⟨rfl, hb₂⟩ := Prod.mk.inj hanswer
  rw [hb₁] at hb₂ hpast₂ ⊢
  simp only [Task.bind_done]
  rw [show (b.states.get? account).getD (.clear account) = b.states.standing account from rfl]
  cases hplan : planTransition (b.states.standing account) told facts now with
  | none =>
      have hlater : b₂ = ⟨b.states, ⟨.state (.get account), .ok (b.states.get? account)⟩ ::
          ⟨.activeSet, told⟩ :: b.past⟩ := by
        cases b₂
        simp only [hpast₁] at hb₂ hpast₂
        rw [← hb₂, hpast₂]
      subst hlater
      exact ⟨_, rfl, .kept ((planTransition_eq_none_iff hmatch).mp hplan)⟩
  | some t => exact e.carryOut_settles hmatch hplan hversion hb₂.symm

/-- **How a refresh ends that nobody disturbs.** It always finds an answer, and it settles at its
first attempt. -/
theorem refreshWithFacts_settles (e : OverdueEngine) (now : Instant)
    (hmatch : FirstMatch facts set target)
    (hversion : ∀ record, b.states.get? account = some record → record.version ≠ 0) :
    (e.refreshWithFacts account facts now).Obeys (Undisturbed set) (Answered set)
      (Settles account set target now b) b := by
  unfold refreshWithFacts refreshWithin
  rw [Task.obeys_bind]
  refine (e.tryRefresh_settles hmatch hversion).imp ?_
  rintro _ b' ⟨settled, rfl, hsettled⟩
  exact hsettled

/-! ## One refresh is enough -/

section Settles

variable {result : Except OverdueError Refreshed} {b' : Books}

/-- What is recorded after a refresh that moved the account. -/
theorem get?_of_moved
    (hput : b'.states = b.states.put ((b.states.standing account).moved target set now)) :
    b'.states.get? account = some ((b.states.standing account).moved target set now) := by
  have hget := StateStore.get?_put_self b.states ((b.states.standing account).moved target set now)
  rw [show ((b.states.standing account).moved target set now).account = account from
    b.states.standing_account account] at hget
  rw [hput, hget]

theorem standing_of_moved
    (hput : b'.states = b.states.put ((b.states.standing account).moved target set now)) :
    b'.states.standing account = (b.states.standing account).moved target set now := by
  rw [StateStore.standing, get?_of_moved hput]
  rfl

theorem Settles.result_eq (h : Settles account set target now b result b') :
    ∃ transitioned, result = .ok ⟨b'.states.standing account, transitioned⟩ ∧
      (transitioned = true ↔ ¬ (b.states.standing account).Says target) := by
  cases h with
  | kept htells => exact ⟨false, rfl, by simpa using htells⟩
  | moved hdiffers hput =>
      rw [standing_of_moved hput]
      exact ⟨true, rfl, by simpa using hdiffers⟩

theorem Settles.tells_target (h : Settles account set target now b result b') :
    (b'.states.standing account).Says target := by
  cases h with
  | kept htells => exact htells
  | moved _ hput =>
      rw [standing_of_moved hput]
      exact OverdueState.says_moved _ _ _ _

theorem Settles.states_eq (h : Settles account set target now b result b')
    (htells : (b.states.standing account).Says target) : b'.states = b.states := by
  cases h with
  | kept => rfl
  | moved hdiffers => exact absurd htells hdiffers

theorem Settles.others (h : Settles account set target now b result b') {other : AccountId}
    (hother : other ≠ account) : b'.states.get? other = b.states.get? other := by
  cases h with
  | kept => rfl
  | moved _ hput =>
      rw [hput]
      apply StateStore.get?_put_of_ne
      intro hsame
      exact hother (hsame.symm.trans (b.states.standing_account account))

/-- A move counts the version up, as long as there is a next one. -/
theorem version_moved {r : OverdueState} (h : r.version.toNat < UInt64.size - 1) :
    (r.moved target set now).version.toNat = r.version.toNat + 1 := by
  show (r.version + 1).toNat = r.version.toNat + 1
  rw [UInt64.toNat_add]
  exact Nat.mod_eq_of_lt (by simp at h ⊢; omega)

theorem Settles.version_iff (h : Settles account set target now b result b')
    (hversion : (b.states.standing account).version.toNat < UInt64.size - 1) :
    (b'.states.standing account).version.toNat = (b.states.standing account).version.toNat + 1 ↔
      ¬ (b.states.standing account).Says target := by
  cases h with
  | kept htells => simp [htells]
  | moved hdiffers hput =>
      rw [standing_of_moved hput, version_moved hversion]
      simp [hdiffers]

/-- What is recorded after a refresh has been counted. -/
theorem Settles.version_ne_zero (h : Settles account set target now b result b')
    (hbefore : ∀ record, b.states.get? account = some record → record.version ≠ 0)
    (hversion : (b.states.standing account).version.toNat < UInt64.size - 1)
    {record : OverdueState} (hrecord : b'.states.get? account = some record) :
    record.version ≠ 0 := by
  cases h with
  | kept => exact hbefore record hrecord
  | moved _ hput =>
      rw [get?_of_moved hput, Option.some.injEq] at hrecord
      intro hzero
      have hcount : ((b.states.standing account).moved target set now).version.toNat = _ :=
        version_moved hversion
      rw [hrecord, hzero] at hcount
      cases hcount

/-- A refresh that finds what the facts call for has only looked. -/
theorem Settles.of_said (h : Settles account set target now b result b')
    (htells : (b.states.standing account).Says target) :
    result = .ok ⟨b.states.standing account, false⟩ ∧ b'.states = b.states ∧
      b'.past = ⟨.state (.get account), .ok (b.states.get? account)⟩ :: ⟨.activeSet, set⟩ ::
        b.past := by
  cases h with
  | kept => exact ⟨rfl, rfl, rfl⟩
  | moved hdiffers => exact absurd htells hdiffers

end Settles

/-- **Refreshes converge.** Whatever is recorded for an account, whatever the active set, the facts and
the clock: a refresh that nobody disturbs succeeds, and then the record has the name and the flags of
the first state in order of priority whose condition holds. Its version went up by one exactly when
the record had another name or other flags before, and no other account is touched. From then on a
refresh with the same facts and set, at whatever time and with whatever hooks, returns the same record
and says that nothing changed; all it asks for are the active set and the record. A transition is
planned exactly when name or flags differ, and carries just what that calls for. -/
theorem refreshes_converge (e : OverdueEngine) (account : AccountId) (set : Option StateSet)
    (facts : AccountFacts) (now : Instant) (b : Books)
    (hversion : ∀ record, b.states.get? account = some record →
      1 ≤ record.version.toNat ∧ record.version.toNat < UInt64.size - 1) :
    ∃ target, FirstMatch facts set target ∧
      (∃ result b', (e.refreshWithFacts account facts now).Runs (Undisturbed set) b result b') ∧
      (∀ result b', (e.refreshWithFacts account facts now).Runs (Undisturbed set) b result b' →
        (∃ transitioned, result = .ok ⟨b'.states.standing account, transitioned⟩ ∧
          (transitioned = true ↔ ¬ (b.states.standing account).Says target)) ∧
        (b'.states.standing account).Says target ∧
        ((b'.states.standing account).version.toNat =
            (b.states.standing account).version.toNat + 1 ↔
          ¬ (b.states.standing account).Says target) ∧
        ((b.states.standing account).Says target → b'.states = b.states) ∧
        (∀ other, other ≠ account → b'.states.get? other = b.states.get? other) ∧
        ∀ (e' : OverdueEngine) (later : Instant) (c : Books),
          c.states.get? account = b'.states.get? account →
          (∃ again c', (e'.refreshWithFacts account facts later).Runs (Undisturbed set) c again
            c') ∧
          ∀ again c', (e'.refreshWithFacts account facts later).Runs (Undisturbed set) c again c' →
            again = .ok ⟨b'.states.standing account, false⟩ ∧ c'.states = c.states ∧
            c'.past = ⟨.state (.get account), .ok (c.states.get? account)⟩ :: ⟨.activeSet, set⟩ ::
              c.past) ∧
      ∀ current at',
        (planTransition current set facts at' = none ↔ current.Says target) ∧
        ∀ t, planTransition current set facts at' = some t →
          t.before = current ∧ t.Carries set target at' := by
  have hmatch : FirstMatch facts set (set.bind (·.resolve facts)) := firstMatch_iff.mpr rfl
  have hstored : ∀ record, b.states.get? account = some record → record.version ≠ 0 := by
    intro record hrecord hzero
    have hpositive := (hversion record hrecord).1
    rw [hzero] at hpositive
    cases hpositive
  have hroom : (b.states.standing account).version.toNat < UInt64.size - 1 := by
    unfold StateStore.standing
    cases hrecord : b.states.get? account with
    | none => exact (by decide : (0 : UInt64).toNat < UInt64.size - 1)
    | some record => exact (hversion record hrecord).2
  have hobeys := e.refreshWithFacts_settles now hmatch hstored
  refine ⟨_, hmatch, hobeys.exists_runs fun _ _ hanswered => hanswered, ?_, ?_⟩
  · intro result b' run
    have hsettles := hobeys.of_runs run
    refine ⟨hsettles.result_eq, hsettles.tells_target, hsettles.version_iff hroom, hsettles.states_eq,
      fun other hother => hsettles.others hother, ?_⟩
    intro e' later c hc
    have hstanding := StateStore.standing_of_get? hc
    have hobeys' := e'.refreshWithFacts_settles later (b := c) hmatch fun record hrecord =>
      hsettles.version_ne_zero hstored hroom (hc.symm.trans hrecord)
    refine ⟨hobeys'.exists_runs fun _ _ hanswered => hanswered, ?_⟩
    intro again c' run'
    rw [← hstanding]
    exact (hobeys'.of_runs run').of_said (hstanding ▸ hsettles.tells_target)
  · intro current at'
    exact ⟨planTransition_eq_none_iff hmatch, fun t hplan => planTransition_parts hmatch hplan⟩

/-! ### A record that another configuration left -/

/-- The debtor has a state that the active set does not know, with flags of its own. -/
def leftover : Books :=
  ⟨⟨[⟨debtor, "legacy", 9, { blockEntitlement := true }, none, 4⟩]⟩, []⟩

/-- A refresh of the debtor with a gate in order. -/
def caughtUp : Except Stop (Except OverdueError Refreshed) × Books :=
  (refreshOf (.overdue 31 500)).run (reply (office (.ok ()))) leftover

/-- The same at the end of the calendar, by an engine that makes one attempt only. -/
def relook : Except Stop (Except OverdueError Refreshed) × Books :=
  (({ maxConflictRetries := 0 } : OverdueEngine).refreshWithFacts debtor (.overdue 31 500)
    Instant.last).run (reply (office (.ok ()))) caughtUp.2

theorem welcomes_of_office (request : Request) (answer : request.Answer)
    (h : office (.ok ()) request = some answer) : Welcomes (some strictSet) request answer := by
  cases request with
  | activeSet => exact (Option.some.inj h).symm
  | setBlocked => exact (Option.some.inj h).symm
  | _ => trivial

theorem caughtUp_result :
    caughtUp.1 = .ok (.ok ⟨⟨debtor, "overdue", 1, { blockChanges := true }, some default, 5⟩,
      true⟩) := by cbv

theorem relook_result :
    relook.1 = .ok (.ok ⟨⟨debtor, "overdue", 1, { blockChanges := true }, some default, 5⟩,
      false⟩) := by cbv

/-- The leftover record is moved once, and then it stays. -/
theorem refreshes_converge_leftover :
    (leftover.states.standing debtor).version.toNat = 4 ∧
      (caughtUp.2.states.standing debtor).version.toNat = 5 ∧
      relook.1 = .ok (.ok ⟨caughtUp.2.states.standing debtor, false⟩) ∧
      relook.2.states = caughtUp.2.states := by
  have hreply := entered_of_reply welcomes_of_office
  have hversion : ∀ record, leftover.states.get? debtor = some record →
      1 ≤ record.version.toNat ∧ record.version.toNat < UInt64.size - 1 := by
    intro record hrecord
    obtain rfl : _ = record := Option.some.inj hrecord
    decide
  obtain ⟨target, -, -, hsettles, -⟩ := refreshes_converge {} debtor (some strictSet)
    (.overdue 31 500) default leftover hversion
  have run : (refreshOf (.overdue 31 500)).Runs (Undisturbed (some strictSet)) leftover _
      caughtUp.2 := Task.runs_of_run hreply (Prod.ext caughtUp_result rfl)
  obtain ⟨⟨transitioned, hresult, htransitioned⟩, -, hcount, -, -, hagain⟩ := hsettles _ _ run
  have hmoved : transitioned = true := congrArg Refreshed.transitioned (Except.ok.inj hresult).symm
  obtain ⟨hsame, hstates, -⟩ := (hagain { maxConflictRetries := 0 } Instant.last caughtUp.2 rfl).2 _
    _ (Task.runs_of_run hreply (Prod.ext relook_result rfl))
  refine ⟨rfl, hcount.mpr (htransitioned.mp hmoved), ?_, hstates⟩
  rw [relook_result, hsame]

end OverdueEngine

end Dunning
