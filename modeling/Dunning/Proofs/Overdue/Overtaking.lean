import Dunning.Proofs.Overdue.Agreement

/-!
# Refreshes side by side can overtake each other at the gate

The version check puts the writes of overlapping refreshes in order, but each of them asks the gate
only after its write. A refresh that is held up between the two is overtaken by a later one, and its
old flags are what the gate hears last. This module shows such a run, and what remains true of all
of them: every change of the recorded flags reaches the gate exactly once, so the gate has the
recorded flags whenever it was asked in the order of the writes.

## Main definitions

* `OverdueEngine.changes`, `OverdueEngine.calls` — the changes of the record and of the gate.

## Main results

* `OverdueEngine.gate_can_fall_behind` — all refreshes are over and gate and record disagree.
* `OverdueEngine.gate_hears_every_change` — what the gate hears.
-/

namespace Dunning

namespace OverdueEngine

open Interleaving (told)

/-- The changes of the recorded flags that some writes make, the latest first, each with the place
of its refresh. -/
def changes (ws : List (Nat × StateWrite)) : List (Nat × BlockFlags) :=
  ws.filterMap fun entry =>
    if entry.2.basis.blocked = entry.2.record.blocked then none
    else some (entry.1, entry.2.record.blocked)

/-- The flags that the gate accepted, the latest first, each with the place of the refresh. -/
def calls (account : AccountId) (log : SharedLog) : List (Nat × BlockFlags) :=
  log.filterMap fun event => (event.2.accepted? account).map fun flags => (event.1, flags)

/-- The flags that some changes end with. -/
def lastFlags (flags : List (Nat × BlockFlags)) : BlockFlags :=
  (flags.head?.map Prod.snd).getD .none

/-! ### A refresh that is overtaken -/

/-- One refresh finds a debt and records it. Before it asks the gate, another one finds the debt
paid, records that and lifts the restrictions. Then the first one goes on. -/
def overtaken : Interleaving Request Request.Answer StateStore (Except OverdueError Refreshed) :=
  Interleaving.schedule (StateStore.reply (office (.ok ()))) [0, 0, 0, 1, 1, 1, 1, 1, 0, 0]
    ⟨{}, [], [refreshOf (.overdue 31 500), refreshOf .settled]⟩

/-- **The gate can fall behind the record.** Nothing fails and both refreshes are over; the account
is recorded as clear and is blocked. -/
theorem gate_can_fall_behind :
    Interleaving.Reaches (refreshingAt (.ok ())) ⟨{}, [], []⟩ overtaken ∧ overtaken.AtRest ∧
      recordedFlags debtor overtaken.state = .none ∧
      lastFlags (calls debtor overtaken.log) = { blockChanges := true } := by
  have hrest : overtaken.running.all Task.isDone = true := by cbv
  have hrecorded : recordedFlags debtor overtaken.state = .none := by cbv
  have hcalled : lastFlags (calls debtor overtaken.log) = { blockChanges := true } := by cbv
  exact ⟨reaches_office _ _ [.overdue 31 500, .settled], hrest, hrecorded, hcalled⟩

/-! ## What the gate hears -/

variable {account : AccountId} {log : SharedLog} {place : Nat}
  {exchange : Exchange Request Request.Answer}

/-- The changes that a refresh has yet to bring to the gate. -/
def owed (place : Nat) : Stage → List (Nat × BlockFlags)
  | .owing w => [(place, w.record.blocked)]
  | _ => []

/-- Whether a change was made by the refresh of a place. -/
def isOf (place : Nat) (change : Nat × BlockFlags) : Bool := change.1 == place

/-- While the gate accepts everything, the changes of a refresh are those that it brought to the
gate and the one that it owes. -/
structure Balanced (account : AccountId) (log : SharedLog) : Prop where
  unrefused : ∀ place w, History.stage account (told place log) ≠ .refused w
  balance : ∀ place, (changes (writes account log)).filter (isOf place) =
    owed place (History.stage account (told place log)) ++ (calls account log).filter (isOf place)

theorem Balanced.of_empty (account : AccountId) : Balanced account [] where
  unrefused place w h := by cases (show Stage.looking = _ from h)
  balance _ := rfl

theorem calls_cons (place : Nat) (exchange : Exchange Request Request.Answer) (log : SharedLog) :
    calls account ((place, exchange) :: log) =
      ((exchange.accepted? account).map fun flags => (place, flags)).toList ++
        calls account log := by
  rw [calls, List.filterMap_cons]
  cases exchange.accepted? account <;> rfl

theorem filter_isOf_self {made : List (Nat × BlockFlags)} (h : ∀ change ∈ made, change.1 = place) :
    made.filter (isOf place) = made :=
  List.filter_eq_self.mpr fun change hmem => beq_iff_eq.mpr (h change hmem)

theorem filter_isOf_of_ne {made : List (Nat × BlockFlags)} {other : Nat} (hne : place ≠ other)
    (h : ∀ change ∈ made, change.1 = place) : made.filter (isOf other) = [] := by
  refine List.filter_eq_nil_iff.mpr fun change hmem hother => hne ?_
  exact (h change hmem).symm.trans (beq_iff_eq.mp hother)

/-- An exchange keeps the balance if it adds to both sides of its own refresh alike. -/
theorem Balanced.extend (balanced : Balanced account log) {made heard : List (Nat × BlockFlags)}
    (hmade : changes (writes account ((place, exchange) :: log)) =
      made ++ changes (writes account log))
    (hheard : calls account ((place, exchange) :: log) = heard ++ calls account log)
    (hownMade : ∀ change ∈ made, change.1 = place)
    (hownHeard : ∀ change ∈ heard, change.1 = place)
    (hstage : ∀ w, History.stage account (exchange :: told place log) ≠ .refused w)
    (hbalance : made ++ owed place (History.stage account (told place log)) =
      owed place (History.stage account (exchange :: told place log)) ++ heard) :
    Balanced account ((place, exchange) :: log) := by
  refine ⟨?_, ?_⟩
  · intro other w
    by_cases hsame : place = other
    · subst hsame
      rw [Interleaving.told_cons_self]
      exact hstage w
    · rw [Interleaving.told_cons_of_ne hsame]
      exact balanced.unrefused other w
  · intro other
    -- What one refresh adds does not show in the balance of another.
    rw [hmade, hheard, List.filter_append, List.filter_append, balanced.balance]
    by_cases hsame : place = other
    · subst hsame
      rw [filter_isOf_self hownMade, filter_isOf_self hownHeard, Interleaving.told_cons_self,
        ← List.append_assoc, ← List.append_assoc, hbalance]
    · rw [filter_isOf_of_ne hsame hownMade, filter_isOf_of_ne hsame hownHeard,
        Interleaving.told_cons_of_ne hsame]
      rfl

/-- An exchange that neither changes the record nor reaches the gate. -/
theorem Balanced.extend_same (balanced : Balanced account log)
    (hwritten : exchange.written? = none) (haccepted : exchange.accepted? account = none)
    (hstage : History.stage account (exchange :: told place log) =
      History.stage account (told place log)) : Balanced account ((place, exchange) :: log) := by
  have hmade : changes (writes account ((place, exchange) :: log)) =
      [] ++ changes (writes account log) := by
    rw [writes_cons, hwritten]
    rfl
  have hheard : calls account ((place, exchange) :: log) = [] ++ calls account log := by
    rw [calls_cons, haccepted]
    rfl
  refine balanced.extend hmade hheard (List.forall_mem_nil _) (List.forall_mem_nil _) ?_ ?_
  · rw [hstage]
    exact balanced.unrefused place
  · rw [hstage, List.append_nil, List.nil_append]

theorem changes_cons (place : Nat) (w : StateWrite) (ws : List (Nat × StateWrite)) :
    changes ((place, w) :: ws) = owed place (.written w) ++ changes ws := by
  unfold changes Stage.written
  rw [List.filterMap_cons]
  by_cases hsame : w.basis.blocked = w.record.blocked
  · simp only [if_pos hsame]
    rfl
  · simp only [if_neg hsame]
    rfl

/-- The recorded flags are those of the last change. -/
theorem Chained.lastFlags_changes {ws : List (Nat × StateWrite)} (chained : Chained account ws) :
    lastFlags (changes ws) = (recorded account ws).blocked := by
  induction ws with
  | nil => rfl
  | cons entry earlier ih =>
      obtain ⟨place, w⟩ := entry
      have hearlier := ih fun place' w' ws hsuffix =>
        chained place' w' ws (hsuffix.trans (List.suffix_cons _ _))
      rw [← chained.follows.basis_eq] at hearlier
      rw [changes_cons]
      unfold Stage.written
      split
      · rename_i hsame
        exact hearlier.trans hsame
      · rfl

variable {gives : (request : Request) → request.Answer → Prop} {s u : StateStore}
  {request : Request} {answer : request.Answer}

/-- A planned write that is let through makes a change and owes it to the gate. -/
private theorem Balanced.write_planned {t : Transition} (balanced : Balanced account log)
    (hstage : History.stage account (told place log) = .looking) :
    Balanced account
      ((place, ⟨.state (.save t.after (.ofRead t.before.version)), .ok ()⟩) :: log) := by
  have hwritten : History.stage account
      (⟨.state (.save t.after (.ofRead t.before.version)), .ok ()⟩ :: told place log) =
        .written ⟨History.basis account (told place log), t.after⟩ :=
    History.stage_of_write hstage
  have hheard : calls account ((place, ⟨.state (.save t.after (.ofRead t.before.version)),
      .ok ()⟩) :: log) = [] ++ calls account log := rfl
  refine balanced.extend (changes_cons place _ _) hheard ?_ (List.forall_mem_nil _) ?_ ?_
  · intro change hchange
    unfold Stage.written at hchange
    split at hchange
    · cases hchange
    · rw [List.mem_singleton.mp hchange]
  · intro w
    rw [hwritten]
    unfold Stage.written
    intro hrefused
    split at hrefused
    · cases hrefused
    · cases hrefused
  · rw [hwritten, hstage]
    rfl

/-- The gate hears the change that was owed. -/
private theorem Balanced.restrict {t : Transition} (balanced : Balanced account log)
    (hstage : History.stage account (told place log) = .owing t.write)
    (haccount : t.after.account = account) :
    Balanced account
      ((place, ⟨.setBlocked t.after.account t.after.blocked, .ok ()⟩) :: log) := by
  have hmade : changes (writes account ((place,
      ⟨.setBlocked t.after.account t.after.blocked, .ok ()⟩) :: log)) =
        [] ++ changes (writes account log) := rfl
  have hheard : calls account ((place, ⟨.setBlocked t.after.account t.after.blocked,
      .ok ()⟩) :: log) = [(place, t.after.blocked)] ++ calls account log := by
    rw [calls_cons, Exchange.accepted?, if_pos haccount]
    rfl
  have hsettled : History.stage account
      (⟨.setBlocked t.after.account t.after.blocked, .ok ()⟩ :: told place log) =
        .settled t.write := by
    simp only [History.stage, hstage]
    rfl
  refine balanced.extend hmade hheard (List.forall_mem_nil _) ?_ ?_ ?_
  · intro change hchange
    rw [List.mem_singleton.mp hchange]
  · intro w
    rw [hsettled]
    intro hrefused
    cases hrefused
  · rw [hsettled, hstage]
    rfl

/-- A request of a refresh keeps the balance while the gate accepts everything. -/
theorem Balanced.step (balanced : Balanced account log) (orderly : Orderly account s log)
    (hgate : ∀ asked flags answer, gives (.setBlocked asked flags) answer → answer = .ok ())
    (may : May account (told place log) request)
    (h : StateStore.Answers gives request s answer u) :
    Balanced account ((place, ⟨request, answer⟩) :: log) := by
  cases may with
  | facts => exact balanced.extend_same rfl rfl (History.alike_of_isQuiet rfl _ answer).stage_eq
  | activeSet hstage | get hstage =>
      exact balanced.extend_same rfl rfl
        ((History.stage_of_looking hstage rfl).trans hstage.symm)
  | write hstage hknown hset hplan =>
      cases answer with
      | error error =>
          exact balanced.extend_same rfl rfl
            ((History.stage_of_looking hstage rfl).trans hstage.symm)
      | ok => exact balanced.write_planned hstage
  | effect hplanned hwrite heffect howing =>
      cases heffect with
      | hook | drop | schedule =>
          exact balanced.extend_same rfl rfl (History.alike_of_isQuiet rfl _ answer).stage_eq
      | restrict hflags =>
          obtain rfl := hgate _ _ _ h.1
          obtain ⟨rfl, -⟩ := hplanned.of_flagsChange hflags
          exact balanced.restrict (howing _ rfl)
            (orderly.account_of_known (orderly.staged place _ hwrite).2)
  | revert _ hstage => exact absurd hstage (balanced.unrefused place _)

variable {q : Interleaving Request Request.Answer StateStore (Except OverdueError Refreshed)}

theorem Balanced.reaches
    (hgate : ∀ asked flags answer, gives (.setBlocked asked flags) answer → answer = .ok ())
    (hstart : s.get? account = none)
    (h : Interleaving.Reaches (refreshing account gives) ⟨s, [], []⟩ q)
    (hcount : (writes account q.log).length < UInt64.size) : Balanced account q.log := by
  let inv (s : StateStore) (log : SharedLog) : Prop :=
    (writes account log).length < UInt64.size → Orderly account s log ∧ Balanced account log
  have hkeeps : inv q.state q.log := by
    refine (Interleaving.Lawful.of_empty s).keeps (refreshing_conduct account gives) h ?_
      fun _ => ⟨Orderly.of_empty hstart, Balanced.of_empty account⟩
    intro s log place request answer u hinv may hanswers hcount
    obtain ⟨orderly, balanced⟩ :=
      hinv (Nat.lt_of_le_of_lt (length_writes_le account place _ log) hcount)
    exact ⟨orderly.step may hanswers hcount, balanced.step orderly hgate may hanswers⟩
  exact (hkeeps hcount).2

/-- **The gate hears every change.** Refreshes of an account without a record overlap in any way,
and the gate accepts everything. When all are over, each has brought its own changes of the recorded
flags to the gate and nothing else, and the recorded flags are those of the last change. So the gate
agrees with the record whenever it was called in the order of the writes. -/
theorem gate_hears_every_change
    (hgate : ∀ asked flags answer, gives (.setBlocked asked flags) answer → answer = .ok ())
    (hstart : s.get? account = none)
    (h : Interleaving.Reaches (refreshing account gives) ⟨s, [], []⟩ q) (hrest : q.AtRest)
    (hcount : (writes account q.log).length < UInt64.size) :
    (∀ place, (calls account q.log).filter (isOf place) =
        (changes (writes account q.log)).filter (isOf place)) ∧
      recordedFlags account q.state = lastFlags (changes (writes account q.log)) ∧
      (calls account q.log = changes (writes account q.log) →
        lastFlags (calls account q.log) = recordedFlags account q.state) := by
  have orderly := Orderly.reaches hstart h hcount
  have balanced := Balanced.reaches hgate hstart h hcount
  have hrecorded : recordedFlags account q.state = lastFlags (changes (writes account q.log)) := by
    rw [orderly.chained.lastFlags_changes, recordedFlags, orderly.stored]
    cases writes account q.log <;> rfl
  refine ⟨?_, hrecorded, ?_⟩
  · intro place
    have hlawful := (Interleaving.Lawful.of_empty s).reaches (refreshing_conduct account gives) h
    have howed : owed place (History.stage account (told place q.log)) = [] := by
      rcases hlawful.ended hrest place with hempty | ⟨_, hover⟩
      · rw [hempty]
        rfl
      · cases hstage : History.stage account (told place q.log) with
        | owing w =>
            rw [hstage] at hover
            cases hover
        | looking | refused | settled | reverted | unreverted => rfl
    rw [balanced.balance, howed, List.nil_append]
  · intro hsame
    rw [hsame, hrecorded]

/-- The refresh that is overtaken and the one that overtakes it both bring their flags to the gate,
though not in the order in which they wrote them. -/
theorem gate_hears_every_change_overtaken :
    calls debtor overtaken.log = [(0, { blockChanges := true }), (1, .none)] ∧
      changes (writes debtor overtaken.log) = [(1, .none), (0, { blockChanges := true })] ∧
      ∀ place, (calls debtor overtaken.log).filter (isOf place) =
        (changes (writes debtor overtaken.log)).filter (isOf place) := by
  have hcalls : calls debtor overtaken.log = [(0, { blockChanges := true }), (1, .none)] := by cbv
  have hchanges : changes (writes debtor overtaken.log) =
      [(1, .none), (0, { blockChanges := true })] := by cbv
  have hrest : overtaken.running.all Task.isDone = true := by cbv
  have hcount : (writes debtor overtaken.log).length < UInt64.size := by
    have hlength : (writes debtor overtaken.log).length = 2 := by cbv
    rw [hlength]
    decide
  have hgate : ∀ asked flags answer,
      office (.ok ()) (.setBlocked asked flags) = some answer → answer = .ok () :=
    fun _ _ _ hanswer => (Option.some.inj hanswer).symm
  exact ⟨hcalls, hchanges, (gate_hears_every_change hgate rfl
    (reaches_office _ _ [.overdue 31 500, .settled]) hrest hcount).1⟩

end OverdueEngine

end Dunning
