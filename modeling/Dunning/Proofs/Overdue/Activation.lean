import Dunning.Overdue.ActiveSet
import Dunning.Proofs.Task.Interleaving

/-!
# Activations side by side

Loading a document takes two moments: the next version is handed out, and after the checks the set
is installed under it. Any number of loads and of installs of other sets may come between the two.
Whoever comes late with an older version is refused, so the active sets follow one another in the
order of their versions, and the versions handed out stay ahead of the active one.

Versions are counted in 64 bits. The count is ahead of the active version for as long as it has not
been used up.

## Main definitions

* `ActiveSet.Access` — what is done to the active set at one moment.
* `ActiveSet.installing`, `ActiveSet.loading` — the two ways of activating a set.
* `ActiveSet.activations` — the sets that a history made active, the latest first.

## Main results

* `ActiveSet.run_loading` — a load between whose moments nothing comes.
* `ActiveSet.activations_are_ordered` — activations are atomic and strictly ordered.
-/

namespace Dunning

/-- A check finds the same under every version. -/
theorem StateSet.ofText?_version {version : UInt64} {text : String} {set : StateSet}
    (h : StateSet.ofText? version text = .ok set) (other : UInt64) :
    StateSet.ofText? other text = .ok ⟨other, set.states⟩ := by
  unfold StateSet.ofText? at h ⊢
  split at h
  · unfold StateSet.build? at h ⊢
    split at h
    · cases h
    · cases h
      rfl
  · cases h

theorem StateSet.checkHooks_of_known {set : StateSet} {known : String → Bool}
    (h : ∀ d ∈ set.states, ∀ hook ∈ d.onEntry ++ d.onExit, known hook = true) :
    set.checkHooks known = .ok () := by
  have hnone : (set.states.flatMap fun d => (d.onEntry ++ d.onExit).map fun hook =>
      (d.name, hook)).find? (fun (_, hook) => !known hook) = none := by
    refine List.find?_eq_none.mpr fun reference hmem => ?_
    obtain ⟨d, hd, hreference⟩ := List.mem_flatMap.mp hmem
    obtain ⟨hook, hhook, rfl⟩ := List.mem_map.mp hreference
    simp [h d hd hook hhook]
  simp only [StateSet.checkHooks, hnone]

namespace ActiveSet

/-! ## Accesses -/

/-- What is done to the active set at one moment. -/
inductive Access where
  | reserve
  | install (set : StateSet)

/-- What an access answers. -/
@[reducible] def Access.Answer : Access → Type
  | reserve => UInt64
  | install _ => Except StateSetError Unit

/-- How the active set answers an access. -/
def reply (request : Access) (a : ActiveSet) : Except Stop request.Answer × ActiveSet :=
  match request with
  | .reserve => (.ok a.reserve.1, a.reserve.2)
  | .install set => (.ok (a.install set).1, (a.install set).2)

/-- A way of activating a set: the active set in the end, or why there is a refusal. -/
abbrev Activation := Task Access Access.Answer (Except StateSetError StateSet)

/-- Activate a checked set under its own version. -/
def installing (set : StateSet) : Activation :=
  .ask (.install set) fun answer => .done (answer.map fun _ => set)

/-- Activate the set of a document under the next version. -/
def loading (text : String) (hooks : HookNames) : Activation :=
  .ask .reserve fun version =>
    match check version text hooks with
    | .error e => .done (.error e)
    | .ok set => installing set

/-- A load between whose moments nothing comes. -/
theorem run_loading (a : ActiveSet) (text : String) (hooks : HookNames) :
    (loading text hooks).run reply a = (.ok (a.load text hooks).1, (a.load text hooks).2) := by
  simp only [loading, load, activate, Task.run, reply]
  cases check a.reserve.1 text hooks with
  | error e => rfl
  | ok set =>
      simp only [installing, Task.run, reply]
      rcases a.reserve.2.install set with ⟨_ | _, b⟩ <;> rfl

/-- What some loads and installs have come to. -/
abbrev Calls := Interleaving Access Access.Answer ActiveSet (Except StateSetError StateSet)

/-- Any number of loads and installs. -/
def activating :
    Interleaving.Rules Access Access.Answer ActiveSet (Except StateSetError StateSet) where
  starts t := (∃ text hooks, t = loading text hooks) ∨ ∃ set, t = installing set
  answers request a answer b := a.reply request = (.ok answer, b)

/-! ## What a history made active -/

/-- The set that an access made active. -/
def activated? : Exchange Access Access.Answer → Option StateSet
  | ⟨.install set, .ok ()⟩ => some set
  | _ => none

/-- The sets that a history made active, the latest first. -/
def activations (past : List (Exchange Access Access.Answer)) : List StateSet :=
  past.filterMap activated?

/-- The version that an access was about. -/
def versionOf : Exchange Access Access.Answer → UInt64
  | ⟨.reserve, version⟩ => version
  | ⟨.install set, _⟩ => set.version

/-- Whether the last of all versions was neither handed out nor offered. -/
def Unexhausted (past : List (Exchange Access Access.Answer)) : Prop :=
  ∀ exchange ∈ past, (versionOf exchange).toNat + 1 < UInt64.size

theorem Unexhausted.of_cons {exchange : Exchange Access Access.Answer}
    {past : List (Exchange Access Access.Answer)} (h : Unexhausted (exchange :: past)) :
    Unexhausted past := fun other hmem => h other (List.mem_cons_of_mem _ hmem)

/-- What the active set has to do with its history. -/
structure Ordered (a : ActiveSet) (past : List (Exchange Access Access.Answer)) : Prop where
  active : a.current = (activations past).head?
  ordered : (activations past).Pairwise fun later earlier => earlier.version < later.version
  /-- The version last handed out comes from the history. -/
  granted : a.lastVersion = 0 ∨ ∃ exchange ∈ past, versionOf exchange = a.lastVersion
  covered : Unexhausted past → ∀ active ∈ a.current, active.version ≤ a.lastVersion

variable {a : ActiveSet} {past : List (Exchange Access Access.Answer)}

theorem Ordered.of_empty : Ordered {} [] where
  active := rfl
  ordered := List.Pairwise.nil
  granted := .inl rfl
  covered _ := nofun

/-- There is a next version as long as versions are not used up. -/
theorem Ordered.toNat_next (ordered : Ordered a past) (h : Unexhausted past) :
    (a.lastVersion + 1).toNat = a.lastVersion.toNat + 1 := by
  have hlast : a.lastVersion.toNat + 1 < UInt64.size := by
    rcases ordered.granted with hzero | ⟨exchange, hmem, hversion⟩
    · rw [hzero]
      decide
    · rw [← hversion]
      exact h exchange hmem
  rw [UInt64.toNat_add, UInt64.toNat_one]
  exact Nat.mod_eq_of_lt hlast

/-- The greater of two versions. -/
theorem max_cases (a b : UInt64) : (a ≤ b ∧ max a b = b) ∨ (b ≤ a ∧ max a b = a) := by
  by_cases hle : a ≤ b
  · exact .inl ⟨hle, if_pos hle⟩
  · exact .inr ⟨UInt64.le_of_lt (UInt64.not_le.mp hle), if_neg hle⟩

/-- A set is installed exactly if it is newer than the active one. -/
theorem install_cases (a : ActiveSet) (set : StateSet) :
    ((∀ active ∈ a.current, active.version < set.version) ∧
      a.install set = (.ok (), ⟨some set, max a.lastVersion set.version⟩)) ∨
    ∃ active, a.current = some active ∧ set.version ≤ active.version ∧
      a.install set = (.error (.staleVersion set.version active.version), a) := by
  unfold install
  cases hcurrent : a.current with
  | none => exact .inl ⟨nofun, rfl⟩
  | some active =>
      by_cases hold : set.version ≤ active.version
      · exact .inr ⟨active, rfl, hold, if_pos hold⟩
      · refine .inl ⟨?_, if_neg hold⟩
        intro other hother
        obtain rfl := Option.some.inj hother
        exact UInt64.not_le.mp hold

/-- Nothing that was active is newer than the active set. -/
theorem Ordered.exists_active (ordered : Ordered a past) {earlier : StateSet}
    (h : earlier ∈ activations past) : ∃ active ∈ a.current, earlier.version ≤ active.version := by
  obtain ⟨hactive, hordered, -, -⟩ := ordered
  cases hactivations : activations past with
  | nil =>
      rw [hactivations] at h
      cases h
  | cons latest rest =>
      rw [hactivations] at h hactive hordered
      refine ⟨latest, hactive, ?_⟩
      rcases List.mem_cons.mp h with rfl | hrest
      · exact UInt64.le_refl _
      · exact UInt64.le_of_lt ((List.pairwise_cons.mp hordered).1 earlier hrest)

/-- Handing out a version keeps the order. -/
theorem Ordered.reserve (ordered : Ordered a past) :
    Ordered a.reserve.2 (⟨.reserve, a.reserve.1⟩ :: past) where
  active := ordered.active
  ordered := ordered.ordered
  granted := .inr ⟨_, List.mem_cons_self, rfl⟩
  covered h active hactive := by
    have hpast := h.of_cons
    have hle : active.version.toNat ≤ a.lastVersion.toNat := ordered.covered hpast active hactive
    have hnext : a.reserve.2.lastVersion.toNat = a.lastVersion.toNat + 1 :=
      ordered.toNat_next hpast
    rw [UInt64.le_iff_toNat_le]
    omega

theorem Ordered.granted_cons (ordered : Ordered a past)
    (exchange : Exchange Access Access.Answer) :
    a.lastVersion = 0 ∨ ∃ other ∈ exchange :: past, versionOf other = a.lastVersion := by
  rcases ordered.granted with hzero | ⟨other, hmem, hversion⟩
  · exact .inl hzero
  · exact .inr ⟨other, List.mem_cons_of_mem _ hmem, hversion⟩

/-- Installing a set keeps the order, whether it is refused or not. -/
theorem Ordered.install (ordered : Ordered a past) (set : StateSet) :
    Ordered (a.install set).2 (⟨.install set, (a.install set).1⟩ :: past) := by
  rcases install_cases a set with ⟨hnewer, hinstall⟩ | ⟨active, hcurrent, hold, hinstall⟩
  · rw [hinstall]
    refine ⟨rfl, List.Pairwise.cons ?_ ordered.ordered, ?_, ?_⟩
    · intro earlier hearlier
      obtain ⟨active, hactive, hle⟩ := ordered.exists_active hearlier
      exact UInt64.lt_of_le_of_lt hle (hnewer active hactive)
    · rcases max_cases a.lastVersion set.version with ⟨-, hmax⟩ | ⟨-, hmax⟩
      · exact .inr ⟨_, List.mem_cons_self, hmax.symm⟩
      · rw [hmax]
        exact ordered.granted_cons _
    · intro _ active hactive
      obtain rfl := Option.some.inj hactive
      rcases max_cases a.lastVersion set.version with ⟨-, hmax⟩ | ⟨hle, hmax⟩
      · exact UInt64.le_of_eq hmax.symm
      · rw [hmax]
        exact hle
  · rw [hinstall]
    exact ⟨ordered.active, ordered.ordered, ordered.granted_cons _,
      fun h => ordered.covered h.of_cons⟩

/-! ## Interleavings -/

/-- What a call activates: its set if it succeeds, and nothing if it fails. -/
def Activates (result : Except StateSetError StateSet)
    (past : List (Exchange Access Access.Answer)) : Prop :=
  activations past = result.toOption.toList

theorem installing_activates (set : StateSet) (h : activations past = []) :
    (installing set).Obeys Task.Told (fun _ _ => True) Activates past := by
  refine Task.obeys_told.mpr ⟨trivial, fun answer => ?_⟩
  rcases answer with e | u
  · exact h
  · exact congrArg (List.cons set) h

theorem loading_activates (text : String) (hooks : HookNames) :
    (loading text hooks).Obeys Task.Told (fun _ _ => True) Activates [] := by
  refine Task.obeys_told.mpr ⟨trivial, fun version => ?_⟩
  cases check version text hooks with
  | error e => exact rfl
  | ok set => exact installing_activates set rfl

theorem activating_conduct : Interleaving.Conduct activating (fun _ _ => True) Activates := by
  rintro t (⟨text, hooks, rfl⟩ | ⟨set, rfl⟩)
  · exact loading_activates text hooks
  · exact installing_activates set rfl

theorem Ordered.reply {request : Access} {answer : request.Answer} {b : ActiveSet}
    (ordered : Ordered a past) (h : a.reply request = (.ok answer, b)) :
    Ordered b (⟨request, answer⟩ :: past) := by
  cases request with
  | reserve =>
      cases h
      exact ordered.reserve
  | install set =>
      cases h
      exact ordered.install set

/-- The version that was just handed out is newer than the active one. -/
theorem Ordered.install_reserved (ordered : Ordered a past) (h : Unexhausted past)
    (states : List StateDef) :
    a.reserve.2.install ⟨a.reserve.1, states⟩ =
      (.ok (), ⟨some ⟨a.reserve.1, states⟩, a.reserve.1⟩) := by
  have hnext : a.reserve.1.toNat = a.lastVersion.toNat + 1 := ordered.toNat_next h
  rcases install_cases a.reserve.2 ⟨a.reserve.1, states⟩ with
    ⟨-, hinstall⟩ | ⟨active, hcurrent, hold, -⟩
  · rw [hinstall]
    rcases max_cases a.reserve.2.lastVersion a.reserve.1 with ⟨-, hmax⟩ | ⟨-, hmax⟩
    · rw [hmax]
    · rw [hmax]
      rfl
  · have hcovered : active.version.toNat ≤ a.lastVersion.toNat := ordered.covered h active hcurrent
    have hold : a.reserve.1.toNat ≤ active.version.toNat := hold
    omega

/-- A document that passes its checks, with hooks that are known, is active after a load between
whose moments nothing comes. -/
theorem Ordered.load (ordered : Ordered a past) (h : Unexhausted past) {text : String}
    {version : UInt64} {set : StateSet} {hooks : HookNames}
    (htext : StateSet.ofText? version text = .ok set)
    (hhooks : ∀ d ∈ set.states, ∀ hook ∈ d.onEntry ++ d.onExit, hooks.contains hook = true) :
    a.load text hooks = (.ok ⟨a.reserve.1, set.states⟩,
      ⟨some ⟨a.reserve.1, set.states⟩, a.reserve.1⟩) := by
  have hknown : StateSet.checkHooks ⟨a.reserve.1, set.states⟩ hooks.contains = .ok () :=
    StateSet.checkHooks_of_known hhooks
  have hcheck : check a.reserve.1 text hooks = .ok ⟨a.reserve.1, set.states⟩ := by
    rw [check, StateSet.ofText?_version htext]
    simp only [hknown]
  simp only [ActiveSet.load, activate, hcheck, ordered.install_reserved h]

/-- Every interleaving keeps the order. -/
theorem Ordered.reaches {q : Calls} (h : Interleaving.Reaches activating ⟨{}, [], []⟩ q) :
    Ordered q.state (q.log.map Prod.snd) := by
  induction h with
  | refl => exact .of_empty
  | tail _ step ih =>
      cases step with
      | start => exact ih
      | answer _ hanswers => exact ih.reply hanswers

/-- One step changes the active set only by making a newer one active. -/
theorem step_current {q r : Calls} (step : Interleaving.Step activating q r) :
    r.state.current = q.state.current ∨ ∃ place set,
      r.log = (place, ⟨.install set, .ok ()⟩) :: q.log ∧ r.state.current = some set ∧
        ∀ active ∈ q.state.current, active.version < set.version := by
  cases step with
  | start => exact .inl rfl
  | @answer a b log running place request next answer hask hanswers =>
      cases request with
      | reserve =>
          cases hanswers
          exact .inl rfl
      | install set =>
          rcases install_cases a set with ⟨hnewer, hinstall⟩ | ⟨active, -, -, hinstall⟩
          · cases hanswers
            exact .inr ⟨place, set, by rw [hinstall], by rw [hinstall], hnewer⟩
          · cases hanswers
            exact .inl (by rw [hinstall])

/-- **Activations are atomic and strictly ordered.** However loads and installs are interleaved,
each step leaves the active set or makes a newer one active; the sets made active have increasing
versions, and the last of them is active. A call that succeeded made exactly its set active, and one
that failed nothing. As long as versions are not used up, the last one handed out is never below the
active one, and loading a document that passes its checks with hooks that are known succeeds when
nothing comes between its two moments. -/
theorem activations_are_ordered {q : Calls}
    (h : Interleaving.Reaches activating ⟨{}, [], []⟩ q)
    (hunexhausted : Unexhausted (q.log.map Prod.snd)) :
    (∀ r, Interleaving.Step activating q r → r.state.current = q.state.current ∨ ∃ place set,
      r.log = (place, ⟨.install set, .ok ()⟩) :: q.log ∧ r.state.current = some set ∧
        ∀ active ∈ q.state.current, active.version < set.version) ∧
    (activations (q.log.map Prod.snd)).Pairwise (fun later earlier =>
      earlier.version < later.version) ∧
    q.state.current = (activations (q.log.map Prod.snd)).head? ∧
    (∀ place result, q.running[place]? = some (.done result) →
      activations (Interleaving.told place q.log) = result.toOption.toList) ∧
    (∀ active ∈ q.state.current, active.version ≤ q.state.lastVersion) ∧
    ∀ text version set (hooks : HookNames), StateSet.ofText? version text = .ok set →
      (∀ d ∈ set.states, ∀ hook ∈ d.onEntry ++ d.onExit, hooks.contains hook = true) →
      ∃ active : StateSet, active.version = q.state.lastVersion + 1 ∧ active.states = set.states ∧
        (loading text hooks).run reply q.state =
          (.ok (.ok active), ⟨some active, active.version⟩) := by
  have hlawful := (Interleaving.Lawful.of_empty {}).reaches activating_conduct h
  have hordered := Ordered.reaches h
  refine ⟨fun r step => step_current step, hordered.ordered, hordered.active, ?_,
    hordered.covered hunexhausted, ?_⟩
  · intro place result hdone
    exact hlawful.obeys place _ hdone
  · intro text version set hooks htext hhooks
    refine ⟨⟨q.state.reserve.1, set.states⟩, rfl, rfl, ?_⟩
    rw [run_loading, hordered.load hunexhausted htext hhooks]

/-! ### Two loads that cross -/

/-- A document of one state whose hook is the built-in one. -/
def lateDocument : String :=
  "\x7b\"states\": [\x7b\"name\": \"LATE\", " ++
    "\"condition\": \x7b\"days_overdue_at_least\": 30\x7d, \"on_entry\": [\"log\"]\x7d]\x7d"

/-- The set of that document under a version. -/
def lateSet (version : UInt64) : StateSet :=
  ⟨version, [{ name := "LATE", condition := .daysOverdue 30, onEntry := [logHook] }]⟩

/-- Two loads get their versions one after the other and install in the opposite order. -/
def crossed : Calls :=
  Interleaving.schedule reply [0, 1, 1, 0]
    ⟨{}, [], [loading lateDocument {}, loading lateDocument {}]⟩

theorem reaches_crossed : Interleaving.Reaches activating ⟨{}, [], []⟩ crossed := by
  have hstarts : ∀ t ∈ List.replicate 2 (loading lateDocument {}), activating.starts t :=
    fun t ht => .inl ⟨lateDocument, {}, List.eq_of_mem_replicate ht⟩
  exact (Interleaving.reaches_started hstarts ⟨{}, [], []⟩).trans
    (Interleaving.reaches_schedule (fun _ _ _ _ hreply => hreply) [0, 1, 1, 0] _)

/-- The load that was first to get its version comes too late and activates nothing. The next load
succeeds. -/
theorem activations_are_ordered_crossed :
    Unexhausted (crossed.log.map Prod.snd) ∧ crossed.state = ⟨some (lateSet 2), 2⟩ ∧
      activations (Interleaving.told 0 crossed.log) = [] ∧
      activations (crossed.log.map Prod.snd) = [lateSet 2] ∧
      ∃ active : StateSet, active.version = 3 ∧ active.states = (lateSet 1).states ∧
        (loading lateDocument {}).run reply crossed.state =
          (.ok (.ok active), ⟨some active, active.version⟩) := by
  have hunexhausted : Unexhausted (crossed.log.map Prod.snd) := by
    unfold Unexhausted
    decide +kernel
  have hstate : crossed.state = ⟨some (lateSet 2), 2⟩ := by decide +kernel
  have hlate : activations (Interleaving.told 0 crossed.log) = [] := by decide +kernel
  have hmade : activations (crossed.log.map Prod.snd) = [lateSet 2] := by decide +kernel
  have hparsed : (StateSet.ofText? 1 lateDocument).toOption = some (lateSet 1) := by
    decide +kernel
  have htext : StateSet.ofText? 1 lateDocument = .ok (lateSet 1) := by
    cases hresult : StateSet.ofText? 1 lateDocument with
    | error e =>
        rw [hresult] at hparsed
        cases hparsed
    | ok set =>
        rw [hresult] at hparsed
        exact congrArg _ (Option.some.inj hparsed)
  have hhooks : ∀ d ∈ (lateSet 1).states, ∀ hook ∈ d.onEntry ++ d.onExit,
      HookNames.contains {} hook = true := by decide +kernel
  obtain ⟨-, -, -, -, -, hload⟩ := activations_are_ordered reaches_crossed hunexhausted
  obtain ⟨active, hversion, hstates, hrun⟩ := hload lateDocument 1 (lateSet 1) {} htext hhooks
  rw [hstate] at hversion
  exact ⟨hunexhausted, hstate, hlate, hmade, active, hversion, hstates, hrun⟩

end ActiveSet

end Dunning
