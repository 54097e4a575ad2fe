import Dunning.Proofs.Overdue.Versions

/-!
# Refreshes one after another keep gate and record in agreement

The record of an account is written before the gate is asked for the new flags. When the gate
refuses, the old flags are recorded again by a second write. As long as refreshes of an account do
not overlap, nobody comes between these steps: whatever is refused, and however the active set
changes between the refreshes, each refresh leaves the flags recorded that the gate accepted last.

## Main definitions

* `Books` — the store of states and everything that was asked so far.
* `OverdueEngine.accepted`, `OverdueEngine.recordedFlags` — what gate and record say.
* `OverdueEngine.Successive` — what refreshes one after another lead to.

## Main results

* `OverdueEngine.InStep.step` — a request of a refresh keeps gate and record in step.
* `OverdueEngine.gate_agrees_with_record` — gate and record agree after each refresh.
-/

namespace Dunning

/-- The flags that the gate accepted for an account in an exchange. -/
def Exchange.accepted? (account : AccountId) : Exchange Request Request.Answer → Option BlockFlags
  | ⟨.setBlocked asked flags, .ok ()⟩ => if asked = account then some flags else none
  | _ => none

/-- A store of states and everything that was asked so far, the latest first. -/
structure Books where
  states : StateStore := {}
  past : History := []

namespace OverdueEngine

/-- The flags that the gate accepted last, none when it accepted nothing. -/
def accepted (account : AccountId) (past : History) : BlockFlags :=
  (past.findSome? (Exchange.accepted? account)).getD .none

/-- The flags that are recorded, none without a record. -/
def recordedFlags (account : AccountId) (s : StateStore) : BlockFlags :=
  ((s.get? account).map OverdueState.blocked).getD .none

/-- What is said of the active set and of the facts. Facts may be out of reach, and everything else
may be answered in any way. -/
def Tells (set : Option StateSet) (facts : AccountFacts) :
    (request : Request) → request.Answer → Prop
  | .activeSet, answer => answer = set
  | .facts _, answer => ∀ told, answer = .ok told → told = facts
  | _, _ => True

/-- How requests are answered during a refresh. The store of states does not fail. -/
def Answers (set : Option StateSet) (facts : AccountFacts) (request : Request) (b : Books)
    (answer : request.Answer) (b' : Books) : Prop :=
  StateStore.Answers (Tells set facts) request b.states answer b'.states ∧
    b'.past = ⟨request, answer⟩ :: b.past

/-- What refreshes of an account one after another lead to from a store without a record, each with
a state set and facts of its own. -/
inductive Successive (account : AccountId) : Books → Prop where
  | start {s : StateStore} : s.get? account = none → Successive account ⟨s, []⟩
  | refresh {b b' : Books} {set : Option StateSet} {facts : AccountFacts}
      {r : Program (Except OverdueError Refreshed)} {result : Except OverdueError Refreshed} :
      Successive account b → Refreshes account facts r → r.Runs (Answers set facts) b result b' →
      Successive account b'

/-! ## What a request keeps -/

/-- Gate and record in the view of a refresh at a stage. Until the gate has accepted new flags, or
the old ones are recorded again, the gate has the flags from before the write. -/
def StageAgrees (account : AccountId) (b : Books) : Stage → Prop
  | .owing w | .refused w =>
    accepted account b.past = w.basis.blocked ∧ b.states.get? account = some w.record
  | .unreverted _ => False
  | .looking | .settled _ | .reverted _ => recordedFlags account b.states = accepted account b.past

/-- A refresh that nobody disturbs: what it knows is so, and gate and record are as its stage
says. -/
structure InStep (account : AccountId) (set : Option StateSet) (facts : AccountFacts) (b : Books)
    (own : History) : Prop where
  known : ∀ record, own.known? = some record → b.states.get? account = record
  set_eq : ∀ told, own.set? = some told → told = set
  facts_eq : ∀ told, ⟨.facts account, .ok told⟩ ∈ own → told = facts
  agrees : StageAgrees account b (own.stage account)

variable {account : AccountId} {set : Option StateSet} {facts : AccountFacts} {b b' : Books}
  {own : History}

theorem accepted_cons_of_none {exchange : Exchange Request Request.Answer}
    (h : exchange.accepted? account = none) (past : History) :
    accepted account (exchange :: past) = accepted account past := by
  rw [accepted, List.findSome?_cons, h]
  rfl

theorem accepted_cons_of_some {exchange : Exchange Request Request.Answer} {flags : BlockFlags}
    (h : exchange.accepted? account = some flags) (past : History) :
    accepted account (exchange :: past) = flags := by
  rw [accepted, List.findSome?_cons, h]
  rfl

theorem recordedFlags_of_get? {s : StateStore} {record : Option OverdueState}
    (h : s.get? account = record) :
    recordedFlags account s = (record.getD (.clear account)).blocked := by
  rw [recordedFlags, h]
  cases record <;> rfl

theorem InStep.extend {exchange : Exchange Request Request.Answer}
    (inStep : InStep account set facts b own)
    (hknown : ∀ record, History.known? (exchange :: own) = some record →
      b'.states.get? account = record)
    (hset : exchange.set? = none ∨ exchange.set? = some set)
    (hfacts : ∀ told, exchange = ⟨.facts account, .ok told⟩ → told = facts)
    (hagrees : StageAgrees account b' (History.stage account (exchange :: own))) :
    InStep account set facts b' (exchange :: own) := by
  refine ⟨hknown, ?_, ?_, hagrees⟩
  · intro told htold
    rw [History.set?, List.findSome?_cons] at htold
    rcases hset with hexchange | hexchange
    · exact inStep.set_eq told (by rwa [hexchange] at htold)
    · rw [hexchange, Option.some.injEq] at htold
      exact htold.symm
  · intro told hmem
    rcases List.mem_cons.mp hmem with heq | hmem
    · exact hfacts told heq.symm
    · exact inStep.facts_eq told hmem

/-- A request that leaves record and gate alone. -/
theorem InStep.extend_same {exchange : Exchange Request Request.Answer}
    (inStep : InStep account set facts b own) (hstates : b'.states = b.states)
    (hpast : b'.past = exchange :: b.past) (haccepted : exchange.accepted? account = none)
    (hstage : History.stage account (exchange :: own) = History.stage account own)
    (hknown : exchange.known? = none ∨ exchange.known? = some (b.states.get? account))
    (hset : exchange.set? = none ∨ exchange.set? = some set)
    (hfacts : ∀ told, exchange = ⟨.facts account, .ok told⟩ → told = facts) :
    InStep account set facts b' (exchange :: own) := by
  refine inStep.extend ?_ hset hfacts ?_
  · intro record hrecord
    rw [hstates]
    rcases hknown with hexchange | hexchange
    · exact inStep.known record (by rwa [History.known?_cons_of_none hexchange] at hrecord)
    · rw [History.known?_cons_of_some hexchange, Option.some.injEq] at hrecord
      exact hrecord
  · have hagrees := inStep.agrees
    rw [hstage]
    unfold StageAgrees at hagrees ⊢
    rw [hstates, hpast, accepted_cons_of_none haccepted]
    exact hagrees

/-- A write of the record. -/
theorem InStep.extend_write {record : OverdueState} {expected : Expected}
    (inStep : InStep account set facts b own) (haccount : record.account = account)
    (hstates : b'.states = b.states.put record)
    (hagrees : StageAgrees account b'
      (History.stage account (⟨.state (.save record expected), .ok ()⟩ :: own))) :
    InStep account set facts b' (⟨.state (.save record expected), .ok ()⟩ :: own) := by
  refine inStep.extend ?_ (.inl rfl) (fun told htold => by cases htold) hagrees
  intro other hother
  rw [History.known?_cons_of_some rfl, Option.some.injEq] at hother
  rw [hstates, ← hother, ← haccount, StateStore.get?_put_self]

/-- A request that makes no difference for the stage or for what the refresh knows. -/
private theorem InStep.quiet {request : Request} {answer : request.Answer}
    (inStep : InStep account set facts b own) (hquiet : request.isQuiet = true)
    (h : Answers set facts request b answer b') :
    InStep account set facts b' (⟨request, answer⟩ :: own) := by
  have hstage : History.stage account (⟨request, answer⟩ :: own) = own.stage account :=
    (History.alike_of_isQuiet hquiet own answer).stage_eq
  obtain ⟨hanswer, hpast⟩ := h
  cases request with
  | state | setBlocked | activeSet => cases hquiet
  | facts asked =>
      obtain ⟨htells, hstates⟩ := hanswer
      refine inStep.extend_same hstates hpast rfl hstage (.inl rfl) (.inl rfl) ?_
      intro told htold
      cases htold
      exact htells told rfl
  | _ =>
      exact inStep.extend_same hanswer.2 hpast rfl hstage (.inl rfl) (.inl rfl)
        fun told htold => by cases htold

/-- A planned write that is let through: the gate still has the flags that the record had before. -/
private theorem InStep.write_planned {t : Transition} {record : Option OverdueState}
    {told : Option StateSet} {seen : AccountFacts} {now : Instant}
    (inStep : InStep account set facts b own) (hstage : own.stage account = .looking)
    (hknown : own.known? = some record)
    (hplan : planTransition (record.getD (.clear account)) told seen now = some t)
    (hstates : b'.states = b.states.put t.after)
    (hpast : b'.past = ⟨.state (.save t.after (.ofRead t.before.version)), .ok ()⟩ :: b.past) :
    InStep account set facts b'
      (⟨.state (.save t.after (.ofRead t.before.version)), .ok ()⟩ :: own) := by
  obtain ⟨hbefore, -, -⟩ := planTransition_eq_some hplan
  have hrecord := inStep.known record hknown
  have hagrees := inStep.agrees
  rw [hstage] at hagrees
  have haccount : t.after.account = account := by
    rw [planTransition_account hplan]
    cases record with
    | none => rfl
    | some record => exact StateStore.account_of_get? hrecord
  have hget : b'.states.get? account = some t.after := by
    rw [hstates, ← haccount, StateStore.get?_put_self]
  have haccepted : accepted account b'.past = t.before.blocked := by
    rw [hpast, accepted_cons_of_none rfl, ← hagrees, recordedFlags_of_get? hrecord, hbefore]
  have hwritten : History.stage account
      (⟨.state (.save t.after (.ofRead t.before.version)), .ok ()⟩ :: own) = .written t.write := by
    rw [History.stage_of_write hstage, History.basis_of_known hknown, ← hbefore]
    rfl
  refine inStep.extend_write haccount hstates ?_
  rw [hwritten]
  -- Without a change of flags the gate is not asked and the refresh is settled at once.
  by_cases hsame : t.before.blocked = t.after.blocked
  · rw [Stage.written_of_eq hsame]
    show recordedFlags account b'.states = accepted account b'.past
    rw [recordedFlags_of_get? hget, haccepted, hsame]
    rfl
  · rw [Stage.written_of_ne hsame]
    exact ⟨haccepted, hget⟩

/-- The gate is asked for the flags of the write. It has them when it accepts, and the old ones when
it refuses. -/
private theorem InStep.restrict {t : Transition} {answer : Except CollaboratorError Unit}
    (inStep : InStep account set facts b own) (hstage : own.stage account = .owing t.write)
    (hstates : b'.states = b.states)
    (hpast : b'.past = ⟨.setBlocked t.after.account t.after.blocked, answer⟩ :: b.past) :
    InStep account set facts b' (⟨.setBlocked t.after.account t.after.blocked, answer⟩ :: own) := by
  have hagrees := inStep.agrees
  rw [hstage] at hagrees
  obtain ⟨haccepted, hget⟩ := hagrees
  have haccount : t.after.account = account := StateStore.account_of_get? hget
  refine inStep.extend ?_ (.inl rfl) (fun told htold => by cases htold) ?_
  · intro record hrecord
    rw [hstates]
    exact inStep.known record hrecord
  · simp only [History.stage, hstage]
    cases answer with
    | error cause =>
        refine ⟨?_, by rw [hstates]; exact hget⟩
        rw [hpast, accepted_cons_of_none rfl]
        exact haccepted
    | ok =>
        have hnow : Exchange.accepted? account
            ⟨.setBlocked t.after.account t.after.blocked, .ok ()⟩ = some t.after.blocked :=
          if_pos haccount
        show recordedFlags account b'.states = accepted account b'.past
        rw [hpast, accepted_cons_of_some hnow, hstates, recordedFlags_of_get? hget]
        rfl

/-- Refused flags are taken back. Nobody has written since, so the stored version is still the
expected one and the write is let through. -/
private theorem InStep.revert {t : Transition} {setVersion : UInt64} {now : Instant}
    {answer : Except StoreError Unit} (inStep : InStep account set facts b own)
    (hstage : own.stage account = .refused t.write)
    (h : Answers set facts (.state (.save (reverted t setVersion now) (.exact t.after.version))) b
      answer b') :
    InStep account set facts b'
      (⟨.state (.save (reverted t setVersion now) (.exact t.after.version)), answer⟩ :: own) := by
  obtain ⟨hanswer, hpast⟩ := h
  have hagrees := inStep.agrees
  rw [hstage] at hagrees
  obtain ⟨haccepted, hget⟩ := hagrees
  have haccount : t.after.account = account := StateStore.account_of_get? hget
  cases answer with
  | error error =>
      have hrefuses := (StateStore.save_eq_error hanswer).1
      rw [show (reverted t setVersion now).account = account from haccount, hget] at hrefuses
      simp [Expected.allows, Transition.write] at hrefuses
  | ok =>
      have hstates := (StateStore.save_eq_ok hanswer).2
      have hget' : b'.states.get? account = some (reverted t setVersion now) := by
        rw [hstates, show account = (reverted t setVersion now).account from haccount.symm,
          StateStore.get?_put_self]
      refine inStep.extend_write haccount hstates ?_
      simp only [History.stage, hstage]
      show recordedFlags account b'.states = accepted account b'.past
      rw [hpast, accepted_cons_of_none rfl, haccepted, recordedFlags_of_get? hget']
      rfl

/-- **A request of a refresh keeps gate and record in step.** -/
theorem InStep.step {request : Request} {answer : request.Answer}
    (inStep : InStep account set facts b own) (may : May account own request)
    (h : Answers set facts request b answer b') :
    InStep account set facts b' (⟨request, answer⟩ :: own) := by
  obtain ⟨hanswer, hpast⟩ := id h
  cases may with
  | facts hstage => exact inStep.quiet rfl h
  | activeSet hstage =>
      obtain ⟨htells, hstates⟩ := hanswer
      exact inStep.extend_same hstates hpast rfl
        ((History.stage_of_looking hstage rfl).trans hstage.symm) (.inl rfl)
        (.inr (congrArg some htells)) (fun told htold => by cases htold)
  | get hstage =>
      obtain ⟨rfl, hstates⟩ := Prod.mk.inj hanswer
      exact inStep.extend_same hstates.symm hpast rfl
        ((History.stage_of_looking hstage rfl).trans hstage.symm) (.inr rfl) (.inl rfl)
        (fun told htold => by cases htold)
  | write hstage hknown hset hplan =>
      cases answer with
      | error error =>
          exact inStep.extend_same (StateStore.save_eq_error hanswer).2 hpast rfl
            ((History.stage_of_looking hstage rfl).trans hstage.symm) (.inl rfl) (.inl rfl)
            (fun told htold => by cases htold)
      | ok =>
          exact inStep.write_planned hstage hknown hplan (StateStore.save_eq_ok hanswer).2 hpast
  | effect hplanned hwrite heffect howing =>
      cases heffect with
      | hook | drop | schedule => exact inStep.quiet rfl h
      | restrict hflags =>
          obtain ⟨rfl, -⟩ := hplanned.of_flagsChange hflags
          exact inStep.restrict (howing _ rfl) hanswer.2 hpast
  | revert hplanned hstage => exact inStep.revert hstage h

/-! ## Refreshes one after another -/

/-- How a refresh ends that starts with gate and record in agreement. -/
theorem runs_inStep {r : Program (Except OverdueError Refreshed)}
    {result : Except OverdueError Refreshed} (hr : Refreshes account facts r)
    (run : r.Runs (Answers set facts) b result b')
    (hb : recordedFlags account b.states = accepted account b.past) :
    ∃ own, Ends account facts result own ∧ InStep account set facts b' own := by
  have hstart : InStep account set facts b [] := by
    refine ⟨?_, ?_, nofun, hb⟩
    · intro record hrecord
      cases (show (none : Option (Option OverdueState)) = _ from hrecord)
    · intro told htold
      cases (show (none : Option (Option StateSet)) = _ from htold)
  obtain ⟨own, ⟨told, htold, hends⟩, hown⟩ := hr.obeys.along run
    (fun _ _ _ _ _ inStep may h => inStep.step may h) hstart
  have htold : told = facts := htold.elim id fun hmem => hown.facts_eq told hmem
  exact ⟨own, htold ▸ hends, hown⟩

/-- When a refresh is over, gate and record agree. -/
theorem InStep.agrees_of_isOver (inStep : InStep account set facts b own)
    (hover : (own.stage account).isOver = true) :
    recordedFlags account b.states = accepted account b.past := by
  have hagrees := inStep.agrees
  cases hstage : own.stage account with
  | looking | settled | reverted =>
      rw [hstage] at hagrees
      exact hagrees
  | unreverted =>
      rw [hstage] at hagrees
      exact hagrees.elim
  | owing | refused =>
      rw [hstage] at hover
      cases hover

theorem Successive.agrees (h : Successive account b) :
    recordedFlags account b.states = accepted account b.past := by
  induction h with
  | start hempty =>
      rw [recordedFlags, hempty]
      rfl
  | refresh _ hr run ih =>
      obtain ⟨own, hends, hown⟩ := runs_inStep hr run ih
      exact hown.agrees_of_isOver hends.isOver

/-- **Gate and record agree after each refresh**, whatever the gate refuses and whatever else fails,
as long as refreshes do not overlap and the store of states does not fail. A refresh that succeeds
leaves the restrictions recorded that its facts call for. -/
theorem gate_agrees_with_record {r : Program (Except OverdueError Refreshed)}
    {result : Except OverdueError Refreshed} (hb : Successive account b)
    (hr : Refreshes account facts r) (run : r.Runs (Answers set facts) b result b') :
    recordedFlags account b'.states = accepted account b'.past ∧
      ∀ refreshed, result = .ok refreshed →
        recordedFlags account b'.states = resolvedActions (set.bind (·.resolve facts)) := by
  obtain ⟨own, hends, hown⟩ := runs_inStep hr run hb.agrees
  refine ⟨hown.agrees_of_isOver hends.isOver, ?_⟩
  intro refreshed hresult
  obtain ⟨record, told, hknown, hset, hstate, hblocked⟩ := hends.agrees refreshed hresult
  rw [recordedFlags_of_get? (hown.known record hknown), hstate, hblocked,
    hown.set_eq told hset]

/-! ### A refusal that the next refresh makes good -/

/-- Answer a request at once and take it down. -/
def reply (given : (request : Request) → Option request.Answer) (request : Request) (b : Books) :
    Except Stop request.Answer × Books :=
  match b.states.reply given request with
  | (.ok answer, states) => (.ok answer, ⟨states, ⟨request, answer⟩ :: b.past⟩)
  | (.error stop, _) => (.error stop, b)

theorem entered_of_reply {given : (request : Request) → Option request.Answer}
    {gives : (request : Request) → request.Answer → Prop}
    (hgiven : ∀ request answer, given request = some answer → gives request answer)
    (request : Request) (b : Books) (answer : request.Answer) (b' : Books)
    (h : reply given request b = (.ok answer, b')) :
    StateStore.Answers gives request b.states answer b'.states ∧
      b'.past = ⟨request, answer⟩ :: b.past := by
  unfold reply at h
  split at h
  · rename_i answer' states hreply
    obtain ⟨hanswer, rfl⟩ := Prod.mk.inj h
    obtain rfl := Except.ok.inj hanswer
    exact ⟨StateStore.answers_of_reply hgiven request b.states answer' states hreply, rfl⟩
  · cases (Prod.mk.inj h).1

theorem answers_of_reply {given : (request : Request) → Option request.Answer}
    (hgiven : ∀ request answer, given request = some answer → Tells set facts request answer)
    (request : Request) (b : Books) (answer : request.Answer) (b' : Books)
    (h : reply given request b = (.ok answer, b')) : Answers set facts request b answer b' :=
  entered_of_reply hgiven request b answer b' h

theorem tells_of_office (gate : Except CollaboratorError Unit) (facts : AccountFacts)
    (request : Request) (answer : request.Answer) (h : office gate request = some answer) :
    Tells (some strictSet) facts request answer := by
  cases request with
  | activeSet => exact (Option.some.inj h).symm
  | facts => cases h
  | _ => trivial

/-- The gate refuses the flags of a debt. -/
def refusal : Except Stop (Except OverdueError Refreshed) × Books :=
  (refreshOf (.overdue 31 500)).run (reply (office (.error (.unavailable "maintenance")))) {}

/-- The same refresh again, with the gate in order. -/
def retrial : Except Stop (Except OverdueError Refreshed) × Books :=
  (refreshOf (.overdue 31 500)).run (reply (office (.ok ()))) refusal.2

/-- The record of the third write: the first one was taken back by the second. -/
def restricted : OverdueState :=
  ⟨debtor, "overdue", 1, { blockChanges := true }, some default, 3⟩

theorem refusal_result :
    refusal.1 = .ok (.error (.entitlement (.unavailable "maintenance"))) ∧
      recordedFlags debtor refusal.2.states = .none := by
  refine ⟨?_, ?_⟩ <;> cbv

theorem retrial_result : retrial.1 = .ok (.ok ⟨restricted, true⟩) := by cbv

/-- The refused flags are not recorded; once the gate accepts them they are. -/
theorem gate_agrees_with_record_retried :
    recordedFlags debtor refusal.2.states = .none ∧
      recordedFlags debtor retrial.2.states = accepted debtor retrial.2.past ∧
      recordedFlags debtor retrial.2.states = { blockChanges := true } := by
  have hrefreshes : Refreshes debtor (.overdue 31 500) (refreshOf (.overdue 31 500)) :=
    .withFacts _ _
  have hruns (gate : Except CollaboratorError Unit) {b b' : Books}
      {result : Except OverdueError Refreshed}
      (h : (refreshOf (.overdue 31 500)).run (reply (office gate)) b = (.ok result, b')) :
      (refreshOf (.overdue 31 500)).Runs (Answers (some strictSet) (.overdue 31 500)) b result b' :=
    Task.runs_of_run (answers_of_reply (tells_of_office gate _)) h
  have hfirst : Successive debtor refusal.2 :=
    .refresh (.start rfl) hrefreshes (hruns _ (Prod.ext refusal_result.1 rfl))
  obtain ⟨hagrees, hresult⟩ := gate_agrees_with_record hfirst hrefreshes
    (hruns (.ok ()) (Prod.ext retrial_result rfl))
  exact ⟨refusal_result.2, hagrees, (hresult _ rfl).trans (by cbv)⟩

end OverdueEngine

end Dunning
