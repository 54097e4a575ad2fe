import Dunning.Proofs.Overdue.StateSets

/-!
# What a configuration may offend against

A set is built from the states that are fit to be configured, all of them and no others, and is
refused for the first state that offends. Fitness is said here without the check: of the characters
of a name, of the names before it, of the criteria and of the length of the interval in minutes.

The check takes the names that it has gone past from the last to the first. What carries the
induction is therefore that the states before a position are acceptable and that the check was
handed their names.

## Main definitions

* `ReservedName` — a name that reads as the one of clear accounts.
* `StateDef.Fits` — a state that may follow some others.
* `StateDef.Offence` — what a state is refused for.
* `StateSet.Acceptable` — a list of states that may be configured.

## Main results

* `StateSet.fault?_eq_none_iff`, `StateSet.fault?_eq_some_iff` — the check finds the first offence.
* `StateSet.acceptable_states_are_built` — which lists are built, what the others are refused for,
  and what a built set keeps.
-/

namespace Dunning

/-! ## Names that are taken by clear accounts -/

namespace Text

/-- Letters are no blanks, so a blank has no lower case of its own. -/
theorem toLower_of_isBlank {c : Char} (h : isBlank c = true) : c.toLower = c := by
  refine dif_neg ?_
  rintro ⟨hlow, hhigh⟩
  rw [ge_iff_le, UInt32.le_iff_toNat_le] at hlow
  rw [UInt32.le_iff_toNat_le] at hhigh
  simp only [isBlank, blankRanges, List.any_cons, List.any_nil, Bool.or_false, Bool.or_eq_true,
    Bool.and_eq_true, decide_eq_true_eq, Char.toNat] at h
  change 65 ≤ c.val.toNat at hlow
  change c.val.toNat ≤ 90 at hhigh
  omega

/-- Trimming takes blanks only. -/
theorem exists_append_trimChars (cs : List Char) :
    ∃ before after, cs = before ++ trimChars cs ++ after ∧
      (∀ c ∈ before, isBlank c = true) ∧ ∀ c ∈ after, isBlank c = true := by
  have hfront := List.takeWhile_append_dropWhile (p := isBlank) (l := cs)
  have hback := List.takeWhile_append_dropWhile (p := isBlank) (l := (cs.dropWhile isBlank).reverse)
  refine ⟨cs.takeWhile isBlank, ((cs.dropWhile isBlank).reverse.takeWhile isBlank).reverse, ?_,
    List.all_eq_true.mp List.all_takeWhile, ?_⟩
  · rw [trimChars, List.append_assoc, ← List.reverse_append, hback, List.reverse_reverse, hfront]
  · intro c hc
    exact List.all_eq_true.mp List.all_takeWhile c (List.mem_reverse.mp hc)

/-- Trimming stops at characters that are no blanks. -/
theorem trimChars_append {before core after : List Char} (hbefore : ∀ c ∈ before, isBlank c = true)
    (hcore : ∀ c ∈ core, isBlank c = false) (hafter : ∀ c ∈ after, isBlank c = true) :
    trimChars (before ++ core ++ after) = core := by
  cases core with
  | nil =>
      refine (trimChars_eq_nil_iff _).mpr ?_
      intro c hc
      rw [List.append_nil] at hc
      exact (List.mem_append.mp hc).elim (hbefore c) (hafter c)
  | cons first rest =>
      have hfirst := hcore first List.mem_cons_self
      have hreverse : ∀ c ∈ after.reverse, isBlank c = true :=
        fun c hc => hafter c (List.mem_reverse.mp hc)
      rw [trimChars, List.append_assoc, List.dropWhile_append_of_pos hbefore, List.cons_append,
        List.dropWhile_cons_of_neg (by simp [hfirst]), ← List.cons_append, List.reverse_append,
        List.dropWhile_append_of_pos hreverse]
      cases hlast : (first :: rest).reverse with
      | nil => simp at hlast
      | cons last others =>
          have hmem : last ∈ first :: rest := by
            rw [← List.mem_reverse, hlast]
            exact List.mem_cons_self
          rw [List.dropWhile_cons_of_neg (by simp [hcore last hmem]), ← hlast, List.reverse_reverse]

end Text

/-- A name that reads as the one of clear accounts, with blanks around it and in letters of either
case. -/
def ReservedName (name : String) : Prop :=
  ∃ before core after : List Char, name.toList = before ++ core ++ after ∧
    (∀ c ∈ before, Text.isBlank c = true) ∧ core.map Char.toLower = clearName.toList ∧
    ∀ c ∈ after, Text.isBlank c = true

/-- Trimming and lowering find the names that are reserved. -/
theorem reservedName_iff (name : String) :
    ReservedName name ↔ Text.asciiLower (Text.trim name) = clearName := by
  rw [Text.asciiLower, Text.trim, String.toList_ofList]
  constructor
  · rintro ⟨before, core, after, hname, hbefore, hcore, hafter⟩
    have hsolid : ∀ c ∈ core, Text.isBlank c = false := by
      intro c hc
      have hlower : c.toLower ∈ clearName.toList := hcore ▸ List.mem_map_of_mem hc
      have hletters : clearName.toList.any Text.isBlank = false := by decide
      rw [Bool.eq_false_iff]
      intro hblank
      rw [Text.toLower_of_isBlank hblank] at hlower
      exact List.any_eq_false.mp hletters c hlower hblank
    rw [hname, Text.trimChars_append hbefore hsolid hafter, hcore, String.ofList_toList]
  · intro h
    obtain ⟨before, after, hname, hbefore, hafter⟩ := Text.exists_append_trimChars name.toList
    refine ⟨before, _, after, hname, hbefore, ?_, hafter⟩
    rw [← h, String.toList_ofList]

/-! ## Fitness of one state -/

/-- A name of blanks only, the empty name included. -/
def StateDef.Unnamed (d : StateDef) : Prop := ∀ c ∈ d.name.toList, Text.isBlank c = true

/-- A state whose name is its own beside some others and clear accounts. -/
structure StateDef.Named (earlier : List StateDef) (d : StateDef) : Prop where
  named : ¬ d.Unnamed
  unreserved : ¬ ReservedName d.name
  fresh : ∀ other ∈ earlier, other.name ≠ d.name

/-- A state that may follow some others. -/
structure StateDef.Fits (earlier : List StateDef) (d : StateDef) : Prop
    extends d.Named earlier where
  conditional : d.condition ≠ {}
  timely : ∀ i ∈ d.interval, 0 < i.totalMinutes ∧ i.totalMinutes ≤ maxIntervalDays * 24 * 60

/-- What a state after some others is refused for: the name comes before the condition, and the
condition before the interval. -/
inductive StateDef.Offence (earlier : List StateDef) (d : StateDef) : StateSetError → Prop where
  | unnamed : d.Unnamed → Offence earlier d (.emptyName earlier.length)
  | reserved : ¬ d.Unnamed → ReservedName d.name → Offence earlier d (.reservedName d.name)
  | taken (other : StateDef) : ¬ d.Unnamed → ¬ ReservedName d.name → other ∈ earlier →
      other.name = d.name → Offence earlier d (.duplicateName d.name)
  | unconditional : d.Named earlier → d.condition = {} →
      Offence earlier d (.emptyCondition d.name)
  | zero (i : Interval) : d.Named earlier → d.condition ≠ {} → d.interval = some i →
      i.totalMinutes = 0 → Offence earlier d (.zeroInterval d.name)
  | overlong (i : Interval) : d.Named earlier → d.condition ≠ {} → d.interval = some i →
      maxIntervalDays * 24 * 60 < i.totalMinutes → Offence earlier d (.intervalTooLong d.name)

namespace StateSet

theorem intervalFault?_eq_none_iff {name : String} {interval : Option Interval} :
    intervalFault? name interval = none ↔
      ∀ i ∈ interval, 0 < i.totalMinutes ∧ i.totalMinutes ≤ maxIntervalDays * 24 * 60 := by
  cases interval with
  | none => simp [intervalFault?]
  | some i =>
      have hzero := i.isZero_iff
      rw [intervalFault?]
      split
      · rename_i h
        simp [hzero.mp h]
      · rename_i h
        rw [hzero] at h
        split <;> simp <;> omega

theorem intervalFault?_zero {name : String} {i : Interval} (h : i.totalMinutes = 0) :
    intervalFault? name (some i) = some (.zeroInterval name) :=
  if_pos (i.isZero_iff.mpr h)

theorem intervalFault?_overlong {name : String} {i : Interval}
    (h : maxIntervalDays * 24 * 60 < i.totalMinutes) :
    intervalFault? name (some i) = some (.intervalTooLong name) := by
  have hpositive : ¬ i.isZero = true := by
    rw [i.isZero_iff]
    omega
  rw [intervalFault?, if_neg hpositive, if_pos h]

/-- The names that the check has gone past. -/
def namesPast (earlier : List StateDef) : List String := (earlier.map StateDef.name).reverse

theorem contains_namesPast {earlier : List StateDef} {name : String} :
    (namesPast earlier).contains name = true ↔ ∃ other ∈ earlier, other.name = name := by
  simp [namesPast]

theorem unnamed_iff {d : StateDef} : d.Unnamed ↔ Text.isBlankText d.name = true :=
  List.all_eq_true.symm

/-- Of a state with a name of its own the condition and the interval are left to check. -/
theorem stateFault?_of_named {earlier : List StateDef} {d : StateDef} (h : d.Named earlier) :
    stateFault? (namesPast earlier) earlier.length d =
      if d.condition.isEmpty then some (.emptyCondition d.name)
      else intervalFault? d.name d.interval := by
  have hfresh : ¬ (namesPast earlier).contains d.name = true := by
    rw [contains_namesPast]
    rintro ⟨other, hother, hname⟩
    exact h.fresh other hother hname
  rw [stateFault?, if_neg (mt unnamed_iff.mpr h.named),
    if_neg (mt (reservedName_iff _).mpr h.unreserved), if_neg hfresh]

/-- A state fits or it offends. -/
theorem fits_or_offence (earlier : List StateDef) (d : StateDef) :
    d.Fits earlier ∨ ∃ error, d.Offence earlier error := by
  by_cases hnamed : d.Unnamed
  · exact .inr ⟨_, .unnamed hnamed⟩
  by_cases hreserved : ReservedName d.name
  · exact .inr ⟨_, .reserved hnamed hreserved⟩
  by_cases hfresh : ∀ other ∈ earlier, other.name ≠ d.name
  · have named : d.Named earlier := ⟨hnamed, hreserved, hfresh⟩
    by_cases hcondition : d.condition = {}
    · exact .inr ⟨_, .unconditional named hcondition⟩
    cases hinterval : d.interval with
    | none => exact .inl ⟨named, hcondition, by simp [hinterval]⟩
    | some i =>
        rcases Nat.eq_zero_or_pos i.totalMinutes with hzero | hpositive
        · exact .inr ⟨_, .zero i named hcondition hinterval hzero⟩
        rcases Nat.lt_or_ge (maxIntervalDays * 24 * 60) i.totalMinutes with hlong | hshort
        · exact .inr ⟨_, .overlong i named hcondition hinterval hlong⟩
        · refine .inl ⟨named, hcondition, ?_⟩
          rintro _ hi
          obtain rfl := Option.some.inj (hinterval.symm.trans hi)
          exact ⟨hpositive, hshort⟩
  · push Not at hfresh
    obtain ⟨other, hother, hname⟩ := hfresh
    exact .inr ⟨_, .taken other hnamed hreserved hother hname⟩

/-- The check passes a state that fits. -/
theorem stateFault?_of_fits {earlier : List StateDef} {d : StateDef} (h : d.Fits earlier) :
    stateFault? (namesPast earlier) earlier.length d = none := by
  rw [stateFault?_of_named h.toNamed, if_neg (mt (Condition.isEmpty_iff _).mp h.conditional)]
  exact intervalFault?_eq_none_iff.mpr h.timely

/-- The check reports the offence of a state. -/
theorem stateFault?_of_offence {earlier : List StateDef} {d : StateDef} {error : StateSetError}
    (h : d.Offence earlier error) :
    stateFault? (namesPast earlier) earlier.length d = some error := by
  cases h with
  | unnamed h => exact if_pos (unnamed_iff.mp h)
  | reserved hnamed h =>
      rw [stateFault?, if_neg (mt unnamed_iff.mpr hnamed), if_pos ((reservedName_iff _).mp h)]
  | taken other hnamed hreserved hother hname =>
      rw [stateFault?, if_neg (mt unnamed_iff.mpr hnamed),
        if_neg (mt (reservedName_iff _).mpr hreserved),
        if_pos (contains_namesPast.mpr ⟨other, hother, hname⟩)]
  | unconditional named h =>
      rw [stateFault?_of_named named, if_pos ((Condition.isEmpty_iff _).mpr h)]
  | zero i named hcondition hinterval h =>
      rw [stateFault?_of_named named, if_neg (mt (Condition.isEmpty_iff _).mp hcondition),
        hinterval, intervalFault?_zero h]
  | overlong i named hcondition hinterval h =>
      rw [stateFault?_of_named named, if_neg (mt (Condition.isEmpty_iff _).mp hcondition),
        hinterval, intervalFault?_overlong h]

theorem stateFault?_eq_none_iff {earlier : List StateDef} {d : StateDef} :
    stateFault? (namesPast earlier) earlier.length d = none ↔ d.Fits earlier := by
  refine ⟨fun hnone => ?_, stateFault?_of_fits⟩
  rcases fits_or_offence earlier d with hfits | ⟨error, hoffence⟩
  · exact hfits
  · cases hnone.symm.trans (stateFault?_of_offence hoffence)

theorem stateFault?_eq_some_iff {earlier : List StateDef} {d : StateDef} {error : StateSetError} :
    stateFault? (namesPast earlier) earlier.length d = some error ↔ d.Offence earlier error := by
  refine ⟨fun hsome => ?_, stateFault?_of_offence⟩
  rcases fits_or_offence earlier d with hfits | ⟨found, hoffence⟩
  · cases hsome.symm.trans (stateFault?_of_fits hfits)
  · obtain rfl := Option.some.inj (hsome.symm.trans (stateFault?_of_offence hoffence))
    exact hoffence

/-! ## Lists of states -/

/-- A list of states that may be configured. -/
structure Acceptable (states : List StateDef) : Prop where
  named : ∀ d ∈ states, ∃ c ∈ d.name.toList, Text.isBlank c = false
  unreserved : ∀ d ∈ states, ¬ ReservedName d.name
  distinct : (states.map StateDef.name).Nodup
  conditional : ∀ d ∈ states, d.condition ≠ {}
  timely : ∀ d ∈ states, ∀ i ∈ d.interval,
    0 < i.totalMinutes ∧ i.totalMinutes ≤ maxIntervalDays * 24 * 60

theorem acceptable_nil : Acceptable [] where
  named := List.forall_mem_nil _
  unreserved := List.forall_mem_nil _
  distinct := List.nodup_nil
  conditional := List.forall_mem_nil _
  timely := List.forall_mem_nil _

/-- Every part of an acceptable list from its start is acceptable. -/
theorem Acceptable.of_append {before after : List StateDef} (h : Acceptable (before ++ after)) :
    Acceptable before := by
  obtain ⟨hnamed, hunreserved, hdistinct, hconditional, htimely⟩ := h
  rw [List.map_append] at hdistinct
  exact ⟨(List.forall_mem_append.mp hnamed).1, (List.forall_mem_append.mp hunreserved).1,
    hdistinct.of_append_left, (List.forall_mem_append.mp hconditional).1,
    (List.forall_mem_append.mp htimely).1⟩

theorem not_unnamed_iff {d : StateDef} :
    ¬ d.Unnamed ↔ ∃ c ∈ d.name.toList, Text.isBlank c = false := by
  simp [StateDef.Unnamed]

/-- A list is acceptable when the last state fits behind the others. -/
theorem acceptable_concat {before : List StateDef} {d : StateDef} :
    Acceptable (before ++ [d]) ↔ Acceptable before ∧ d.Fits before := by
  have hlast : d ∈ before ++ [d] := List.mem_concat_self
  have hsplit : (List.map StateDef.name (before ++ [d])).Nodup ↔
      (before.map StateDef.name).Nodup ∧ ∀ other ∈ before, other.name ≠ d.name := by
    simp [List.nodup_append]
  constructor
  · intro h
    exact ⟨h.of_append, ⟨not_unnamed_iff.mpr (h.named d hlast), h.unreserved d hlast,
      (hsplit.mp h.distinct).2⟩, h.conditional d hlast, h.timely d hlast⟩
  · rintro ⟨hbefore, hfits⟩
    have hall {P : StateDef → Prop} (hP : ∀ other ∈ before, P other) (hd : P d) :
        ∀ other ∈ before ++ [d], P other :=
      List.forall_mem_append.mpr ⟨hP, List.forall_mem_singleton.mpr hd⟩
    exact ⟨hall hbefore.named (not_unnamed_iff.mp hfits.named),
      hall hbefore.unreserved hfits.unreserved, hsplit.mpr ⟨hbefore.distinct, hfits.fresh⟩,
      hall hbefore.conditional hfits.conditional, hall hbefore.timely hfits.timely⟩

theorem namesPast_concat (before : List StateDef) (d : StateDef) :
    namesPast (before ++ [d]) = d.name :: namesPast before := by
  simp [namesPast]

/-- Past some states the check goes on with one more of them. -/
theorem fault?_cons (before : List StateDef) (d : StateDef) (rest : List StateDef) :
    fault? (namesPast before) before.length (d :: rest) =
      (stateFault? (namesPast before) before.length d).or
        (fault? (namesPast (before ++ [d])) (before ++ [d]).length rest) := by
  rw [fault?, namesPast_concat, List.length_append, List.length_singleton]
  cases stateFault? (namesPast before) before.length d <;> rfl

/-- Behind acceptable states the check finds nothing exactly when all of them are acceptable. -/
theorem fault?_eq_none_iff {before after : List StateDef} (hbefore : Acceptable before) :
    fault? (namesPast before) before.length after = none ↔ Acceptable (before ++ after) := by
  -- A state that fits goes over to the ones before, so these change from step to step.
  induction after generalizing before with
  | nil => simpa [fault?] using hbefore
  | cons d rest ih =>
      have hcut : before ++ d :: rest = before ++ [d] ++ rest := by simp
      rw [fault?_cons, Option.or_eq_none_iff, stateFault?_eq_none_iff, hcut]
      constructor
      · rintro ⟨hfits, hrest⟩
        exact (ih (acceptable_concat.mpr ⟨hbefore, hfits⟩)).mp hrest
      · intro h
        exact ⟨(acceptable_concat.mp h.of_append).2, (ih h.of_append).mpr h⟩

/-- Behind acceptable states the check finds the first that offends. -/
theorem fault?_eq_some_iff {before after : List StateDef} {error : StateSetError}
    (hbefore : Acceptable before) :
    fault? (namesPast before) before.length after = some error ↔
      ∃ passed d rest, after = passed ++ d :: rest ∧ Acceptable (before ++ passed) ∧
        d.Offence (before ++ passed) error := by
  induction after generalizing before with
  | nil => simp [fault?]
  | cons d rest ih =>
      rw [fault?_cons, Option.or_eq_some_iff, stateFault?_eq_some_iff, stateFault?_eq_none_iff]
      constructor
      · rintro (hoffence | ⟨hfits, hrest⟩)
        · exact ⟨[], d, rest, rfl, by rwa [List.append_nil], by rwa [List.append_nil]⟩
        · obtain ⟨passed, offender, after, rfl, hpassed, hoffence⟩ :=
            (ih (acceptable_concat.mpr ⟨hbefore, hfits⟩)).mp hrest
          rw [List.append_assoc, List.singleton_append] at hpassed hoffence
          exact ⟨d :: passed, offender, after, rfl, hpassed, hoffence⟩
      · rintro ⟨passed, offender, after, hsplit, hpassed, hoffence⟩
        cases passed with
        | nil =>
            obtain ⟨rfl, rfl⟩ := List.cons.inj hsplit
            rw [List.append_nil] at hoffence
            exact .inl hoffence
        | cons first passed =>
            obtain ⟨rfl, rfl⟩ := List.cons.inj hsplit
            have hcut : before ++ d :: passed = before ++ [d] ++ passed := by simp
            rw [hcut] at hpassed hoffence
            have hfirst := hpassed.of_append
            exact .inr ⟨(acceptable_concat.mp hfirst).2,
              (ih hfirst).mpr ⟨passed, offender, after, rfl, hpassed, hoffence⟩⟩

theorem build?_eq_ok_iff {version : UInt64} {states : List StateDef} {set : StateSet} :
    build? version states = .ok set ↔ Acceptable states ∧ set = ⟨version, states⟩ := by
  have hnone : fault? [] 0 states = none ↔ Acceptable states := fault?_eq_none_iff acceptable_nil
  rw [build?]
  rw [← hnone]
  cases fault? [] 0 states with
  | some error => simp
  | none => simp [eq_comm]

theorem build?_eq_error_iff {version : UInt64} {states : List StateDef} {error : StateSetError} :
    build? version states = .error error ↔ ∃ passed d rest, states = passed ++ d :: rest ∧
      Acceptable passed ∧ d.Offence passed error := by
  have hsome : fault? [] 0 states = some error ↔ ∃ passed d rest, states = passed ++ d :: rest ∧
      Acceptable ([] ++ passed) ∧ d.Offence ([] ++ passed) error :=
    fault?_eq_some_iff acceptable_nil
  simp only [List.nil_append] at hsome
  rw [← hsome, build?]
  cases fault? [] 0 states <;> simp

end StateSet

/-! ## Intervals -/

namespace Interval

/-- The largest parts make fewer minutes than a word of 64 bits can hold. -/
theorem totalMinutes_lt (i : Interval) : i.totalMinutes < 10000000000000 := by
  have hdays := i.days.toNat_lt
  have hhours := i.hours.toNat_lt
  have hminutes := i.minutes.toNat_lt
  rw [totalMinutes]
  omega

/-- Minutes that are worked out in words of 64 bits do not wrap. -/
theorem toNat_minutes (i : Interval) :
    (i.days.toUInt64 * 24 * 60 + i.hours.toUInt64 * 60 + i.minutes.toUInt64).toNat =
      i.totalMinutes := by
  have hlt := i.totalMinutes_lt
  rw [totalMinutes] at hlt ⊢
  simp only [UInt64.toNat_add, UInt64.toNat_mul, UInt32.toNat_toUInt64, UInt64.reduceToNat]
  omega

/-- Every interval can be expressed as an offset. -/
theorem isSome_offset (i : Interval) : (Offset.ofNanos? i.nanos).isSome = true := by
  have hlt := i.totalMinutes_lt
  have hnanos : i.nanos = i.totalMinutes * 60000000000 := rfl
  rw [Offset.ofNanos?, dif_pos (by omega), Option.isSome_some]

/-- An interval with a minute in it leads forward. -/
theorem lt_of_after? {i : Interval} {t u : Instant} (hpositive : 0 < i.totalMinutes)
    (h : i.after? t = some u) : t < u := by
  have hnanos : i.nanos = i.totalMinutes * 60000000000 := rfl
  exact Instant.lt_of_plus? (by omega) h

end Interval

namespace StateSet

/-- What an account resolves to is missing exactly when no condition holds of it, and its name is
that of clear accounts exactly then. -/
theorem resolve_eq_none_iff {set : StateSet} (h : set.Checked) (facts : AccountFacts) :
    (set.resolve facts = none ↔ ∀ d ∈ set.states, d.condition.holds facts = false) ∧
      (set.resolve facts = none ↔ resolvedName (set.resolve facts) = clearName) := by
  refine ⟨by simp [resolve], fun hnone => by rw [hnone]; rfl, fun hname => ?_⟩
  cases hresolved : set.resolve facts with
  | none => rfl
  | some d =>
      rw [hresolved] at hname
      exact absurd hname (h.names.2 d (List.mem_of_find?_eq_some hresolved))

/-- **Checked configuration.** A list of states is built exactly when it is acceptable, and is
refused exactly for the offence of the first state that does not fit behind the ones before it. The
check of intervals is exact: no interval is too long for the words it is worked out in. In a built
set the name of what an account resolves to leads back to it, and every interval leads forward or
out of the calendar. -/
theorem acceptable_states_are_built (version : UInt64) (states : List StateDef) :
    (∀ set, build? version states = .ok set ↔ Acceptable states ∧ set = ⟨version, states⟩) ∧
      (∀ error, build? version states = .error error ↔ ∃ passed d rest,
        states = passed ++ d :: rest ∧ Acceptable passed ∧ d.Offence passed error) ∧
      (∀ i : Interval, (Offset.ofNanos? i.nanos).isSome = true ∧
        (i.days.toUInt64 * 24 * 60 + i.hours.toUInt64 * 60 + i.minutes.toUInt64).toNat =
          i.totalMinutes) ∧
      ∀ set, build? version states = .ok set →
        (∀ facts, set.state? (resolvedName (set.resolve facts)) = set.resolve facts ∧
          (set.resolve facts = none ↔ ∀ d ∈ set.states, d.condition.holds facts = false) ∧
          (set.resolve facts = none ↔ resolvedName (set.resolve facts) = clearName)) ∧
        ∀ d ∈ set.states, ∀ i ∈ d.interval, ∀ t,
          (∀ u, i.after? t = some u → t < u) ∧
          (t.inLeap = false → ∀ u, i.after? t = some u ↔
            u.inLeap = false ∧ u.nanos = t.nanos + i.totalMinutes * 60000000000) := by
  refine ⟨fun set => build?_eq_ok_iff, fun error => build?_eq_error_iff,
    fun i => ⟨i.isSome_offset, i.toNat_minutes⟩, fun set hset => ?_⟩
  obtain ⟨hacceptable, rfl⟩ := build?_eq_ok_iff.mp hset
  have checked : Checked ⟨version, states⟩ := hset
  refine ⟨fun facts => ⟨checked.state?_resolvedName facts, resolve_eq_none_iff checked facts⟩, ?_⟩
  intro d hd i hi t
  have hpositive := (hacceptable.timely d hd i hi).1
  refine ⟨fun u hu => Interval.lt_of_after? hpositive hu, fun hleap u => ?_⟩
  exact Instant.plus?_eq_some_iff hleap

/-- Two tiers, the second of which is looked at after the longest interval. -/
def tiers : List StateDef :=
  [{ name := "OD1", condition := .daysOverdue 1, interval := some (.ofDays 3) },
   { name := "OD2", condition := .daysOverdue 30, interval := some (.ofDays 3650) }]

/-- Behind the tiers come a state whose name is reserved and one whose name is blank. -/
def faultyTiers : List StateDef :=
  tiers ++ [{ name := " Clear\t", condition := {} }, { name := "", condition := {} }]

/-- The tiers are built. Of the states that offend behind them the first is reported, and of that
one the name, although it has no criterion either. -/
theorem acceptable_states_are_built_tiers :
    Acceptable tiers ∧ build? 7 tiers = .ok ⟨7, tiers⟩ ∧
      (∀ facts, state? ⟨7, tiers⟩ (resolvedName (resolve ⟨7, tiers⟩ facts)) =
        resolve ⟨7, tiers⟩ facts) ∧
      build? 7 faultyTiers = .error (.reservedName " Clear\t") := by
  obtain ⟨hok, -, -, hset⟩ := acceptable_states_are_built 7 tiers
  have hbuilt : build? 7 tiers = .ok ⟨7, tiers⟩ := rfl
  have hacceptable := ((hok _).mp hbuilt).1
  refine ⟨hacceptable, hbuilt, fun facts => ((hset _ hbuilt).1 facts).1, ?_⟩
  have hreserved : ReservedName " Clear\t" :=
    ⟨[' '], "Clear".toList, ['\t'], rfl, List.forall_mem_singleton.mpr rfl, rfl,
      List.forall_mem_singleton.mpr rfl⟩
  obtain ⟨-, herror, -, -⟩ := acceptable_states_are_built 7 faultyTiers
  refine (herror _).mpr ⟨tiers, _, _, rfl, hacceptable, .reserved ?_ hreserved⟩
  exact fun hblank => absurd (hblank 'C' (by decide)) (by decide)

end StateSet

end Dunning
