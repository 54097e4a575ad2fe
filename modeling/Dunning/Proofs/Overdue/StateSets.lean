import Dunning.Overdue.RefreshHandler
import Dunning.Proofs.Overdue.Refreshing
import Mathlib.Data.List.Nodup

/-!
# Checked state sets

A set that passes its checks has a name for every state, no two states share one, and none is called
like the state of clear accounts. So the name in a record tells the state that it was resolved to, and
what a transition schedules is what a look at the record would schedule.

## Main definitions

* `StateSet.Checked` — the set was built from its states.

## Main results

* `StateSet.Checked.state?_resolvedName` — a resolved state is found under its name.
* `Transition.reevaluateAt_eq` — a transition to another state schedules the next look at it.
-/

namespace Dunning

namespace StateSet

/-- Whether a set passes its checks. -/
def Checked (set : StateSet) : Prop := build? set.version set.states = .ok set

/-- What passes its check has a name that is neither that of clear accounts nor taken. -/
theorem name_of_stateFault? {earlier : List String} {position : Nat} {d : StateDef}
    (h : stateFault? earlier position d = none) : d.name ≠ clearName ∧ d.name ∉ earlier := by
  unfold stateFault? at h
  split at h
  · cases h
  · split at h
    · cases h
    · rename_i hreserved
      split at h
      · cases h
      · rename_i hfree
        refine ⟨?_, by simpa using hfree⟩
        intro hname
        rw [hname] at hreserved
        exact hreserved (by decide)

/-- The names of states that pass their checks. -/
theorem names_of_fault? {states : List StateDef} {earlier : List String} {position : Nat}
    (h : fault? earlier position states = none) :
    (states.map StateDef.name).Nodup ∧ ∀ d ∈ states, d.name ≠ clearName ∧ d.name ∉ earlier := by
  induction states generalizing earlier position with
  | nil => exact ⟨List.nodup_nil, List.forall_mem_nil _⟩
  | cons d rest ih =>
      rw [fault?] at h
      split at h
      · cases h
      · rename_i hfirst
        obtain ⟨hnodup, hrest⟩ := ih h
        refine ⟨?_, List.forall_mem_cons.mpr ⟨name_of_stateFault? hfirst, ?_⟩⟩
        · rw [List.map_cons, List.nodup_cons]
          refine ⟨?_, hnodup⟩
          intro hmem
          obtain ⟨other, hother, hname⟩ := List.mem_map.mp hmem
          exact (hrest other hother).2 (hname ▸ List.mem_cons_self)
        · intro other hother
          obtain ⟨hclear, hfree⟩ := hrest other hother
          exact ⟨hclear, fun hmem => hfree (List.mem_cons_of_mem _ hmem)⟩

theorem Checked.names {set : StateSet} (h : set.Checked) :
    (set.states.map StateDef.name).Nodup ∧ ∀ d ∈ set.states, d.name ≠ clearName := by
  unfold Checked build? at h
  split at h
  · cases h
  · rename_i hnone
    obtain ⟨hnodup, hnames⟩ := names_of_fault? hnone
    exact ⟨hnodup, fun d hd => (hnames d hd).1⟩

/-- A state of a checked set is found under its name. -/
theorem Checked.state?_name {set : StateSet} (h : set.Checked) {d : StateDef}
    (hd : d ∈ set.states) : set.state? d.name = some d := by
  unfold state?
  cases hfound : set.states.find? fun other => other.name == d.name with
  | none =>
      have hnot := List.find?_eq_none.mp hfound d hd
      simp at hnot
  | some other =>
      have hname : other.name = d.name := by simpa using List.find?_some hfound
      rw [List.inj_on_of_nodup_map h.names.1 (List.mem_of_find?_eq_some hfound) hd hname]

/-- **Names.** What an account resolves to is found under the name that is recorded for it; a clear
account has no state. -/
theorem Checked.state?_resolvedName {set : StateSet} (h : set.Checked) (facts : AccountFacts) :
    set.state? (resolvedName (set.resolve facts)) = set.resolve facts := by
  cases hresolved : set.resolve facts with
  | some d => exact h.state?_name (List.mem_of_find?_eq_some hresolved)
  | none =>
      refine List.find?_eq_none.mpr ?_
      intro d hd
      simpa [resolvedName] using h.names.2 d hd

end StateSet

/-- **The next look.** A transition to another state schedules the next look at that state, as it would
be worked out from the record; one that only changes flags schedules nothing. -/
theorem Transition.reevaluateAt_eq {current : OverdueState} {set : Option StateSet}
    (hset : ∀ checked ∈ set, checked.Checked) {facts : AccountFacts} {now : Instant}
    {t : Transition} (h : planTransition current set facts now = some t) :
    t.reevaluateAt =
      if t.changesState then OverdueEngine.nextLook? set t.after.stateName now else none := by
  unfold planTransition at h
  simp only at h
  split at h
  · cases h
  · obtain rfl := Option.some.inj h
    have hnext : ((set.bind fun checked => checked.resolve facts).bind StateDef.interval).bind
          (fun interval => interval.after? now) =
        OverdueEngine.nextLook? set
          (resolvedName (set.bind fun checked => checked.resolve facts)) now := by
      cases set with
      | none => rfl
      | some checked =>
          have hfound := (hset checked rfl).state?_resolvedName facts
          simp only [OverdueEngine.nextLook?, Option.bind_some, Option.bind_eq_bind, hfound]
          cases checked.resolve facts <;> rfl
    exact if_congr Iff.rfl hnext rfl

/-- A planned transition changes the name or the flags. -/
theorem planTransition_changes {current : OverdueState} {set : Option StateSet}
    {facts : AccountFacts} {now : Instant} {t : Transition}
    (h : planTransition current set facts now = some t) (hname : t.changesState = false) :
    t.before.stateName = t.after.stateName ∧ t.before.blocked ≠ t.after.blocked := by
  have hsame : t.before.stateName = t.after.stateName := by
    simpa [Transition.changesState] using hname
  refine ⟨hsame, ?_⟩
  unfold planTransition at h
  simp only at h
  split at h
  · cases h
  · rename_i hdiffers
    obtain rfl := Option.some.inj h
    simp only [OverdueState.advance] at hsame ⊢
    intro hflags
    simp [hsame, hflags] at hdiffers

end Dunning
