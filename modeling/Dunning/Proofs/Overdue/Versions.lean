import Dunning.Proofs.Overdue.Refreshing
import Mathlib

/-!
# Refreshes side by side write one chain of records

Any number of refreshes of one account share the store of states. A write is let through only when
the record still has the version that the writer expects. What is written is worked out from the
record that the writer knows, so versions have to stand for records: the k-th write has version k,
and no two writes of an account have the same version as long as the versions do not start over.

## Main definitions

* `StateStore.Answers` — a store of states in memory among surroundings that may answer anything.
* `OverdueEngine.writes` — the writes that a log records, the latest first.
* `OverdueEngine.Follows` — a write that continues the earlier ones.

## Main results

* `OverdueEngine.Orderly.step` — a request of a refresh keeps the writes in one chain.
* `OverdueEngine.refreshes_lose_no_write` — the chain of any interleaving.
-/

namespace Dunning

/-- The answers of a store of states in memory. All other surroundings answer what `gives` allows
and leave the store alone. -/
def StateStore.Answers (gives : (request : Request) → request.Answer → Prop) :
    (request : Request) → StateStore → request.Answer → StateStore → Prop
  | .state request, s, answer, u => s.respond request = (answer, u)
  | request, s, answer, u => gives request answer ∧ u = s

/-- Answer a request at once. What all but the store of states say is given. -/
def StateStore.reply (given : (request : Request) → Option request.Answer) :
    (request : Request) → StateStore → Except Stop request.Answer × StateStore
  | .state request, s => (.ok (s.respond request).1, (s.respond request).2)
  | request, s =>
    match given request with
    | some answer => (.ok answer, s)
    | none => (.error .crashed, s)

theorem StateStore.answers_of_reply {given : (request : Request) → Option request.Answer}
    {gives : (request : Request) → request.Answer → Prop}
    (hgiven : ∀ request answer, given request = some answer → gives request answer)
    (request : Request) (s : StateStore) (answer : request.Answer) (u : StateStore)
    (h : s.reply given request = (.ok answer, u)) : Answers gives request s answer u := by
  cases request with
  | state request =>
      obtain ⟨hanswer, rfl⟩ := Prod.mk.inj h
      obtain rfl := Except.ok.inj hanswer
      rfl
  | _ =>
      unfold reply at h
      simp only at h
      split at h
      · rename_i answer' hgives
        obtain ⟨hanswer, rfl⟩ := Prod.mk.inj h
        obtain rfl := Except.ok.inj hanswer
        exact ⟨hgiven _ _ hgives, rfl⟩
      · cases (Prod.mk.inj h).1

/-- The requests of several programs and what they were told, the latest first. -/
abbrev SharedLog : Type := List (Nat × Exchange Request Request.Answer)

/-- Whether a request goes to a hook, to the gate or to the work store. -/
def Request.isEffect : Request → Bool
  | .runHook _ | .setBlocked .. | .work _ => true
  | _ => false

/-- A write is let through when the stored version meets the expectation. -/
theorem StateStore.save_eq_ok {s u : StateStore} {record : OverdueState} {expected : Expected}
    (h : s.save record expected = (.ok (), u)) :
    expected.allows ((s.get? record.account).map OverdueState.version) = true ∧
      u = s.put record := by
  unfold save Expected.check at h
  split at h
  · rename_i hcheck
    split at hcheck
    · rename_i hallows
      exact ⟨hallows, (Prod.mk.inj h).2.symm⟩
    · cases hcheck
  · cases (Prod.mk.inj h).1

/-- A write that is not let through changes nothing. -/
theorem StateStore.save_eq_error {s u : StateStore} {record : OverdueState} {expected : Expected}
    {error : StoreError} (h : s.save record expected = (.error error, u)) :
    expected.allows ((s.get? record.account).map OverdueState.version) = false ∧ u = s := by
  unfold save Expected.check at h
  split at h
  · cases (Prod.mk.inj h).1
  · rename_i hcheck
    split at hcheck
    · cases hcheck
    · rename_i hrefuses
      exact ⟨Bool.eq_false_iff.mpr hrefuses, (Prod.mk.inj h).2.symm⟩

theorem StateStore.account_of_get? {s : StateStore} {account : AccountId} {record : OverdueState}
    (h : s.get? account = some record) : record.account = account := by
  have hfound := List.find?_some h
  simpa using hfound

namespace OverdueEngine

open Interleaving (told)

/-! ## The writes of a log -/

/-- The writes of an account that a log records, the latest first, with the place of the refresh
that made them. The basis of a write is the record that its refresh knew. -/
def writes (account : AccountId) : SharedLog → List (Nat × StateWrite)
  | [] => []
  | (place, exchange) :: log =>
    match exchange.written? with
    | some record => (place, ⟨History.basis account (told place log), record⟩) :: writes account log
    | none => writes account log

theorem writes_cons (account : AccountId) (place : Nat) (exchange : Exchange Request Request.Answer)
    (log : SharedLog) : writes account ((place, exchange) :: log) =
      match exchange.written? with
      | some record =>
        (place, ⟨History.basis account (told place log), record⟩) :: writes account log
      | none => writes account log := rfl

/-- The record after some writes: the last one, or that of an account without a record. -/
def recorded (account : AccountId) (earlier : List (Nat × StateWrite)) : OverdueState :=
  (earlier.head?.map fun entry => entry.2.record).getD (.clear account)

/-- A write continues the earlier ones: it is worked out from the last of them, its version counts
it, and it is the record of a planned transition or takes the flags of the refresh's own last
transition back. -/
structure Follows (account : AccountId) (earlier : List (Nat × StateWrite)) (place : Nat)
    (w : StateWrite) : Prop where
  basis_eq : w.basis = recorded account earlier
  version_eq : w.record.version.toNat = earlier.length + 1
  account_eq : w.record.account = account
  computed : (∃ t : Transition, t.Planned ∧ w = t.write) ∨
    ∃ (t : Transition) (setVersion : UInt64) (now : Instant), t.Planned ∧
      earlier.head? = some (place, t.write) ∧ w.record = reverted t setVersion now

/-- Each of some writes continues those before it. -/
def Chained (account : AccountId) (ws : List (Nat × StateWrite)) : Prop :=
  ∀ place w earlier, (place, w) :: earlier <:+ ws → Follows account earlier place w

variable {account : AccountId} {ws : List (Nat × StateWrite)} {place : Nat} {w : StateWrite}

theorem Chained.nil (account : AccountId) : Chained account [] := by
  intro place w earlier hsuffix
  cases List.suffix_nil.mp hsuffix

theorem Chained.cons (chained : Chained account ws) (follows : Follows account ws place w) :
    Chained account ((place, w) :: ws) := by
  intro place' w' earlier hsuffix
  rcases List.suffix_cons_iff.mp hsuffix with heq | hsuffix
  · obtain ⟨hhead, rfl⟩ := List.cons.inj heq
    obtain ⟨rfl, rfl⟩ := Prod.mk.inj hhead
    exact follows
  · exact chained place' w' earlier hsuffix

theorem Chained.follows (chained : Chained account ((place, w) :: ws)) :
    Follows account ws place w :=
  chained place w ws (List.suffix_refl _)

theorem Chained.follows_of_mem (chained : Chained account ws) {entry : Nat × StateWrite}
    (hmem : entry ∈ ws) :
    ∃ earlier, earlier.length < ws.length ∧ Follows account earlier entry.1 entry.2 := by
  obtain ⟨later, earlier, rfl⟩ := List.append_of_mem hmem
  refine ⟨earlier, ?_, chained entry.1 entry.2 earlier (List.suffix_append later _)⟩
  rw [List.length_append, List.length_cons]
  omega

/-- The versions of some writes count up to their number. -/
theorem Chained.version_le (chained : Chained account ws) {entry : Nat × StateWrite}
    (hmem : entry ∈ ws) : entry.2.record.version.toNat ≤ ws.length := by
  obtain ⟨earlier, hlength, follows⟩ := chained.follows_of_mem hmem
  rw [follows.version_eq]
  exact hlength

/-- The last write is the only one that has its version. -/
theorem Chained.eq_of_version (chained : Chained account ((place, w) :: ws))
    {entry : Nat × StateWrite} (hmem : entry ∈ (place, w) :: ws)
    (hversion : entry.2.record.version = w.record.version) : entry = (place, w) := by
  rcases List.mem_cons.mp hmem with rfl | hmem
  · rfl
  · have hlast := chained.follows.version_eq
    have hchained : Chained account ws := fun place' w' earlier hsuffix =>
      chained place' w' earlier (hsuffix.trans (List.suffix_cons _ _))
    have hle := hchained.version_le hmem
    rw [hversion] at hle
    omega

/-! ## What a request keeps -/

/-- The writes form a chain that ends in the stored record, every refresh knows a record of the
chain and has its own write in it, and every side effect belongs to a write that was let through. -/
structure Orderly (account : AccountId) (s : StateStore) (log : SharedLog) : Prop where
  chained : Chained account (writes account log)
  stored : s.get? account = (writes account log).head?.map fun entry => entry.2.record
  known : ∀ place record, History.known? (told place log) = some (some record) →
    ∃ entry ∈ writes account log, entry.2.record = record
  staged : ∀ place w, (History.stage account (told place log)).write? = some w →
    (place, w) ∈ writes account log ∧ History.known? (told place log) = some (some w.record)
  effects : ∀ place exchange earlier, (place, exchange) :: earlier <:+ log →
    exchange.request.isEffect = true →
    ∃ t : Transition, t.Planned ∧ (place, t.write) ∈ writes account earlier ∧
      t.SideEffect exchange.request

variable {s u : StateStore} {log : SharedLog} {exchange : Exchange Request Request.Answer}

theorem Orderly.of_empty (h : s.get? account = none) : Orderly account s [] where
  chained := Chained.nil account
  stored := h
  known := by
    intro place record hknown
    cases (show (none : Option (Option OverdueState)) = _ from hknown)
  staged := by
    intro place w hwrite
    cases (show (none : Option StateWrite) = _ from hwrite)
  effects := by
    intro place exchange earlier hsuffix
    cases List.suffix_nil.mp hsuffix

/-- A side effect that is logged belongs to a write before it. -/
private theorem Orderly.effects_cons (orderly : Orderly account s log)
    (heffect : exchange.request.isEffect = true → ∃ t : Transition, t.Planned ∧
      (place, t.write) ∈ writes account log ∧ t.SideEffect exchange.request)
    (other : Nat) (exchange' : Exchange Request Request.Answer) (earlier : SharedLog)
    (hsuffix : (other, exchange') :: earlier <:+ (place, exchange) :: log)
    (hisEffect : exchange'.request.isEffect = true) :
    ∃ t : Transition, t.Planned ∧ (other, t.write) ∈ writes account earlier ∧
      t.SideEffect exchange'.request := by
  rcases List.suffix_cons_iff.mp hsuffix with heq | hsuffix
  · obtain ⟨hhead, rfl⟩ := List.cons.inj heq
    obtain ⟨rfl, rfl⟩ := Prod.mk.inj hhead
    exact heffect hisEffect
  · exact orderly.effects other exchange' earlier hsuffix hisEffect

/-- An exchange that writes nothing. -/
theorem Orderly.extend (orderly : Orderly account s log) (hwritten : exchange.written? = none)
    (hknown : exchange.known? = none ∨ exchange.known? = some (s.get? account))
    (hstaged : ∀ w, (History.stage account (exchange :: told place log)).write? = some w →
      (History.stage account (told place log)).write? = some w ∧ exchange.known? = none)
    (heffect : exchange.request.isEffect = true → ∃ t : Transition, t.Planned ∧
      (place, t.write) ∈ writes account log ∧ t.SideEffect exchange.request) :
    Orderly account s ((place, exchange) :: log) := by
  have hwrites : writes account ((place, exchange) :: log) = writes account log := by
    simp only [writes, hwritten]
  refine ⟨?_, ?_, ?_, ?_, ?_⟩
  · rw [hwrites]
    exact orderly.chained
  · rw [hwrites]
    exact orderly.stored
  · intro other record hrecord
    rw [hwrites]
    by_cases hsame : place = other
    · subst hsame
      rw [Interleaving.told_cons_self] at hrecord
      rcases hknown with hexchange | hexchange
      · rw [History.known?_cons_of_none hexchange] at hrecord
        exact orderly.known place record hrecord
      · rw [History.known?_cons_of_some hexchange, orderly.stored, Option.some.injEq] at hrecord
        obtain ⟨entry, hhead, rfl⟩ := Option.map_eq_some_iff.mp hrecord
        exact ⟨entry, List.mem_of_mem_head? hhead, rfl⟩
    · rw [Interleaving.told_cons_of_ne hsame] at hrecord
      exact orderly.known other record hrecord
  · intro other w hw
    rw [hwrites]
    by_cases hsame : place = other
    · subst hsame
      rw [Interleaving.told_cons_self] at hw ⊢
      obtain ⟨hbefore, hnone⟩ := hstaged w hw
      rw [History.known?_cons_of_none hnone]
      exact orderly.staged place w hbefore
    · rw [Interleaving.told_cons_of_ne hsame] at hw ⊢
      exact orderly.staged other w hw
  · exact orderly.effects_cons heffect

/-- An exchange that writes a record which continues the chain. -/
theorem Orderly.write {record : OverdueState} (orderly : Orderly account s log)
    (hwritten : exchange.written? = some record)
    (follows : Follows account (writes account log) place
      ⟨History.basis account (told place log), record⟩)
    (hstaged : ∀ w, (History.stage account (exchange :: told place log)).write? = some w →
      w = ⟨History.basis account (told place log), record⟩) :
    Orderly account (s.put record) ((place, exchange) :: log) := by
  have hwrites : writes account ((place, exchange) :: log) =
      (place, ⟨History.basis account (told place log), record⟩) :: writes account log := by
    simp only [writes, hwritten]
  have hknown : exchange.known? = some (some record) := by
    unfold Exchange.written? at hwritten
    split at hwritten
    · rw [← hwritten]
      rfl
    · cases hwritten
  have hquiet : exchange.request.isEffect = false := by
    unfold Exchange.written? at hwritten
    split at hwritten
    · rfl
    · cases hwritten
  refine ⟨?_, ?_, ?_, ?_, ?_⟩
  · rw [hwrites]
    exact orderly.chained.cons follows
  · rw [hwrites, show account = record.account from follows.account_eq.symm,
      StateStore.get?_put_self]
    rfl
  · intro other record' hrecord
    rw [hwrites]
    by_cases hsame : place = other
    · subst hsame
      rw [Interleaving.told_cons_self, History.known?_cons_of_some hknown] at hrecord
      obtain rfl := Option.some.inj (Option.some.inj hrecord)
      exact ⟨_, List.mem_cons_self, rfl⟩
    · rw [Interleaving.told_cons_of_ne hsame] at hrecord
      obtain ⟨entry, hmem, hentry⟩ := orderly.known other record' hrecord
      exact ⟨entry, List.mem_cons_of_mem _ hmem, hentry⟩
  · intro other w hw
    rw [hwrites]
    by_cases hsame : place = other
    · subst hsame
      rw [Interleaving.told_cons_self] at hw ⊢
      obtain rfl := hstaged w hw
      exact ⟨List.mem_cons_self, History.known?_cons_of_some hknown _⟩
    · rw [Interleaving.told_cons_of_ne hsame] at hw ⊢
      obtain ⟨hmem, hrecord⟩ := orderly.staged other w hw
      exact ⟨List.mem_cons_of_mem _ hmem, hrecord⟩
  · refine orderly.effects_cons ?_
    intro heffect
    rw [hquiet] at heffect
    cases heffect

/-! ## Who is let through -/

theorem Chained.recorded_version (chained : Chained account ws) :
    (recorded account ws).version.toNat = ws.length := by
  cases ws with
  | nil => rfl
  | cons entry earlier => exact chained.follows.version_eq

theorem Orderly.recorded_eq (orderly : Orderly account s log) {record : OverdueState}
    (h : s.get? account = some record) : ∃ entry earlier,
      writes account log = entry :: earlier ∧ entry.2.record = record := by
  have hstored := orderly.stored
  rw [h] at hstored
  obtain ⟨entry, hhead, hrecord⟩ := Option.map_eq_some_iff.mp hstored.symm
  obtain ⟨earlier, hearlier⟩ := List.head?_eq_some_iff.mp hhead
  exact ⟨entry, earlier, hearlier, hrecord⟩

theorem Orderly.account_of_known (orderly : Orderly account s log) {record : Option OverdueState}
    (hknown : History.known? (told place log) = some record) :
    (record.getD (.clear account)).account = account := by
  cases record with
  | none => rfl
  | some record =>
      obtain ⟨entry, hmem, rfl⟩ := orderly.known place record hknown
      obtain ⟨earlier, -, follows⟩ := orderly.chained.follows_of_mem hmem
      exact follows.account_eq

/-- Who expects the version that it read and is let through has read the last record. -/
theorem Orderly.basis_of_allows (orderly : Orderly account s log) {record : Option OverdueState}
    (hknown : History.known? (told place log) = some record)
    (hallows : (Expected.ofRead (record.getD (.clear account)).version).allows
      ((s.get? account).map OverdueState.version) = true) :
    record.getD (.clear account) = recorded account (writes account log) := by
  cases hget : s.get? account with
  | none =>
      have hempty : writes account log = [] := by
        have hstored := orderly.stored
        rw [hget] at hstored
        exact List.head?_eq_none_iff.mp (Option.map_eq_none_iff.mp hstored.symm)
      cases record with
      | none => rw [hempty]; rfl
      | some record =>
          obtain ⟨entry, hmem, -⟩ := orderly.known place record hknown
          rw [hempty] at hmem
          cases hmem
  | some stored =>
      obtain ⟨⟨other, w⟩, earlier, hwrites, rfl⟩ := orderly.recorded_eq hget
      have hchained := orderly.chained
      rw [hwrites] at hchained
      rw [hget, Option.map_some] at hallows
      -- Version 0 expects that there is no record.
      have hne : (record.getD (.clear account)).version ≠ 0 := by
        intro hzero
        rw [hzero] at hallows
        cases hallows
      -- The version that was read is the stored one, and only the last write has that version.
      have hversion := Option.some.inj ((Expected.allows_ofRead hne _).mp hallows)
      cases record with
      | none => exact absurd rfl hne
      | some record =>
          obtain ⟨entry, hmem, rfl⟩ := orderly.known place record hknown
          rw [hwrites] at hmem ⊢
          rw [hchained.eq_of_version hmem hversion.symm]
          rfl

/-- Who expects the version that it wrote and is let through has made the last write. -/
theorem Orderly.head?_of_allows (orderly : Orderly account s log)
    (hmem : (place, w) ∈ writes account log)
    (hallows : (Expected.exact w.record.version).allows
      ((s.get? account).map OverdueState.version) = true) :
    (writes account log).head? = some (place, w) := by
  cases hget : s.get? account with
  | none =>
      rw [hget] at hallows
      cases hallows
  | some stored =>
      obtain ⟨⟨other, last⟩, earlier, hwrites, rfl⟩ := orderly.recorded_eq hget
      have hchained := orderly.chained
      rw [hwrites] at hchained hmem ⊢
      rw [hget] at hallows
      have hversion : w.record.version = last.record.version := by
        simpa only [Option.map_some, Expected.allows, beq_iff_eq] using hallows
      rw [hchained.eq_of_version hmem hversion]
      rfl

private theorem toNat_succ {version : UInt64} {count : Nat} (h : version.toNat = count)
    (hcount : count + 1 < UInt64.size) : (version + 1).toNat = count + 1 := by
  rw [UInt64.toNat_add, h]
  exact Nat.mod_eq_of_lt hcount

/-- An exchange of a refresh that goes on looking. -/
private theorem Orderly.extend_looking (orderly : Orderly account s log)
    (hstage : History.stage account (told place log) = .looking)
    (hwritten : exchange.written? = none) (hquiet : exchange.request.isEffect = false)
    (hknown : exchange.known? = none ∨ exchange.known? = some (s.get? account)) :
    Orderly account s ((place, exchange) :: log) := by
  refine orderly.extend hwritten hknown ?_ ?_
  · intro w hw
    rw [History.stage_of_looking hstage hwritten] at hw
    cases hw
  · intro heffect
    rw [hquiet] at heffect
    cases heffect

/-- A planned write continues the chain when it is let through. -/
private theorem Orderly.write_planned {t : Transition} {record : Option OverdueState}
    {set : Option StateSet} {facts : AccountFacts} {now : Instant} (orderly : Orderly account s log)
    (hstage : History.stage account (told place log) = .looking)
    (hknown : History.known? (told place log) = some record)
    (hplan : planTransition (record.getD (.clear account)) set facts now = some t)
    (hallows : (Expected.ofRead t.before.version).allows
      ((s.get? t.after.account).map OverdueState.version) = true)
    (hcount : (writes account log).length + 1 < UInt64.size) :
    Orderly account (s.put t.after)
      ((place, ⟨.state (.save t.after (.ofRead t.before.version)), .ok ()⟩) :: log) := by
  obtain ⟨hbefore, -, -⟩ := planTransition_eq_some hplan
  have hplanned : t.Planned := ⟨set, facts, now, by rw [hbefore]; exact hplan⟩
  have hbasis : History.basis account (told place log) = t.before := by
    rw [History.basis_of_known hknown, hbefore]
  have haccount : t.after.account = account := by
    rw [planTransition_account hplan, orderly.account_of_known hknown]
  rw [haccount, hbefore] at hallows
  have hlast := orderly.basis_of_allows hknown hallows
  refine orderly.write rfl ⟨?_, ?_, haccount, ?_⟩ ?_
  · rw [hbasis, hbefore, hlast]
  · refine (congrArg UInt64.toNat hplanned.version_eq).trans (toNat_succ ?_ hcount)
    rw [hbefore, hlast, orderly.chained.recorded_version]
  · exact .inl ⟨t, hplanned, by rw [hbasis]; rfl⟩
  · intro w hw
    rw [History.stage_of_write hstage, Stage.write?_written] at hw
    exact (Option.some.inj hw).symm

/-- Flags that are taken back continue the chain when the write is let through: nobody else has
written since. -/
private theorem Orderly.write_reverted {t : Transition} {setVersion : UInt64} {now : Instant}
    (orderly : Orderly account s log) (hplanned : t.Planned)
    (hstage : History.stage account (told place log) = .refused t.write)
    (hallows : (Expected.exact t.after.version).allows
      ((s.get? t.after.account).map OverdueState.version) = true)
    (hcount : (writes account log).length + 1 < UInt64.size) :
    Orderly account (s.put (reverted t setVersion now)) ((place,
      ⟨.state (.save (reverted t setVersion now) (.exact t.after.version)), .ok ()⟩) :: log) := by
  obtain ⟨hmem, hknown⟩ := orderly.staged place t.write (by rw [hstage]; rfl)
  have hbasis : History.basis account (told place log) = t.after := History.basis_of_known hknown
  have haccount : t.after.account = account := orderly.account_of_known hknown
  rw [haccount] at hallows
  have hhead := orderly.head?_of_allows hmem hallows
  have hlast : recorded account (writes account log) = t.after := by
    rw [recorded, hhead]
    rfl
  refine orderly.write rfl ⟨?_, ?_, haccount, ?_⟩ ?_
  · rw [hbasis, hlast]
  · refine (toNat_succ ?_ hcount : (t.after.version + 1).toNat = _)
    rw [← hlast, orderly.chained.recorded_version]
  · exact .inr ⟨t, setVersion, now, hplanned, hhead, rfl⟩
  · intro w hw
    simp only [History.stage, hstage] at hw
    cases hw

/-- When taking flags back fails, the refresh has no write of its own any more. -/
private theorem Orderly.extend_unreverted {record : OverdueState} {expected : Expected}
    {t : Transition} (orderly : Orderly account s log)
    (hstage : History.stage account (told place log) = .refused t.write) (error : StoreError) :
    Orderly account s ((place, ⟨.state (.save record expected), .error error⟩) :: log) := by
  refine orderly.extend rfl (.inl rfl) ?_ fun heffect => by cases heffect
  intro w hw
  simp only [History.stage, hstage] at hw
  cases hw

/-- A side effect that leaves the stage alone. -/
private theorem Orderly.extend_quiet {request : Request} (orderly : Orderly account s log)
    (hquiet : request.isQuiet = true)
    (hbelongs : ∃ t : Transition, t.Planned ∧ (place, t.write) ∈ writes account log ∧
      t.SideEffect request) (answer : request.Answer) :
    Orderly account s ((place, ⟨request, answer⟩) :: log) := by
  have hstaged (w : StateWrite)
      (hw : (History.stage account (⟨request, answer⟩ :: told place log)).write? = some w) :
      (History.stage account (told place log)).write? = some w := by
    rwa [(History.alike_of_isQuiet hquiet _ answer).stage_eq] at hw
  cases request with
  | state | setBlocked | activeSet => cases hquiet
  | _ => exact orderly.extend rfl (.inl rfl) (fun w hw => ⟨hstaged w hw, rfl⟩) fun _ => hbelongs

/-- The gate is asked for the flags of the write. -/
private theorem Orderly.extend_restrict {t : Transition} {flags : BlockFlags}
    (orderly : Orderly account s log)
    (hstage : History.stage account (told place log) = .owing t.write)
    (hbelongs : ∃ t' : Transition, t'.Planned ∧ (place, t'.write) ∈ writes account log ∧
      t'.SideEffect (.setBlocked t.after.account flags))
    (answer : Except CollaboratorError Unit) :
    Orderly account s ((place, ⟨.setBlocked t.after.account flags, answer⟩) :: log) := by
  refine orderly.extend rfl (.inl rfl) ?_ fun _ => hbelongs
  intro w hw
  simp only [History.stage, hstage] at hw ⊢
  refine ⟨?_, rfl⟩
  rw [← hw]
  cases answer <;> rfl

/-- **A request of a refresh keeps the writes in one chain.** -/
theorem Orderly.step {gives : (request : Request) → request.Answer → Prop} {request : Request}
    {answer : request.Answer} (orderly : Orderly account s log)
    (may : May account (told place log) request)
    (h : StateStore.Answers gives request s answer u)
    (hcount : (writes account ((place, ⟨request, answer⟩) :: log)).length < UInt64.size) :
    Orderly account u ((place, ⟨request, answer⟩) :: log) := by
  cases may with
  | facts hstage =>
      obtain ⟨-, rfl⟩ := h
      exact orderly.extend_looking hstage rfl rfl (.inl rfl)
  | activeSet hstage =>
      obtain ⟨-, rfl⟩ := h
      exact orderly.extend_looking hstage rfl rfl (.inl rfl)
  | get hstage =>
      obtain ⟨rfl, rfl⟩ := Prod.mk.inj h
      exact orderly.extend_looking hstage rfl rfl (.inr rfl)
  | write hstage hknown hset hplan =>
      cases answer with
      | error error =>
          obtain ⟨-, rfl⟩ := StateStore.save_eq_error h
          exact orderly.extend_looking hstage rfl rfl (.inl rfl)
      | ok =>
          obtain ⟨hallows, rfl⟩ := StateStore.save_eq_ok h
          exact orderly.write_planned hstage hknown hplan hallows hcount
  | @effect t _ hplanned hwrite heffect howing =>
      have hbelongs : ∃ t : Transition, t.Planned ∧ (place, t.write) ∈ writes account log ∧
          t.SideEffect request := ⟨t, hplanned, (orderly.staged place _ hwrite).1, heffect⟩
      cases heffect with
      | hook | drop | schedule =>
          obtain ⟨-, rfl⟩ := h
          exact orderly.extend_quiet rfl hbelongs answer
      | restrict hflags =>
          obtain ⟨-, rfl⟩ := h
          exact orderly.extend_restrict (howing _ rfl) hbelongs answer
  | revert hplanned hstage =>
      cases answer with
      | error error =>
          obtain ⟨-, rfl⟩ := StateStore.save_eq_error h
          exact orderly.extend_unreverted hstage error
      | ok =>
          obtain ⟨hallows, rfl⟩ := StateStore.save_eq_ok h
          exact orderly.write_reverted hplanned hstage hallows hcount

/-! ## Interleavings -/

/-- Refreshes of one account side by side over a store of states in memory. -/
def refreshing (account : AccountId) (gives : (request : Request) → request.Answer → Prop) :
    Interleaving.Rules Request Request.Answer StateStore (Except OverdueError Refreshed) where
  starts r := ∃ facts, Refreshes account facts r
  answers := StateStore.Answers gives

variable {gives : (request : Request) → request.Answer → Prop}
  {q : Interleaving Request Request.Answer StateStore (Except OverdueError Refreshed)}

theorem refreshing_conduct (account : AccountId)
    (gives : (request : Request) → request.Answer → Prop) :
    Interleaving.Conduct (refreshing account gives) (May account)
      (fun _ past => (History.stage account past).isOver = true) :=
  fun _ ⟨_, h⟩ => h.obeys.imp fun _ _ ⟨_, _, hends⟩ => hends.isOver

theorem length_writes_le (account : AccountId) (place : Nat)
    (exchange : Exchange Request Request.Answer) (log : SharedLog) :
    (writes account log).length ≤ (writes account ((place, exchange) :: log)).length := by
  rw [writes_cons]
  split
  · exact Nat.le_succ _
  · exact Nat.le_refl _

theorem Orderly.reaches (hstart : s.get? account = none)
    (h : Interleaving.Reaches (refreshing account gives) ⟨s, [], []⟩ q)
    (hcount : (writes account q.log).length < UInt64.size) : Orderly account q.state q.log := by
  let inv (s : StateStore) (log : SharedLog) : Prop :=
    (writes account log).length < UInt64.size → Orderly account s log
  have hkeeps : inv q.state q.log := by
    refine (Interleaving.Lawful.of_empty s).keeps (refreshing_conduct account gives) h ?_
      fun _ => Orderly.of_empty hstart
    intro s log place request answer u hinv may hanswers hcount
    exact (hinv (Nat.lt_of_le_of_lt (length_writes_le account place _ log) hcount)).step may
      hanswers hcount
  exact hkeeps hcount

/-- **No write is lost.** Refreshes of an account without a record overlap in any way, and all but
the store of states answers anything. Then each write that is let through continues the earlier
ones, the stored record is that of the last write, and every side effect belongs to a transition
that its refresh wrote before. -/
theorem refreshes_lose_no_write (hstart : s.get? account = none)
    (h : Interleaving.Reaches (refreshing account gives) ⟨s, [], []⟩ q)
    (hcount : (writes account q.log).length < UInt64.size) :
    (∀ place w earlier, (place, w) :: earlier <:+ writes account q.log →
        Follows account earlier place w) ∧
      q.state.get? account = (writes account q.log).head?.map (fun entry => entry.2.record) ∧
      ∀ place exchange earlier, (place, exchange) :: earlier <:+ q.log →
        exchange.request.isEffect = true → ∃ t : Transition, t.Planned ∧
          (place, t.write) ∈ writes account earlier ∧ t.SideEffect exchange.request := by
  have orderly := Orderly.reaches hstart h hcount
  exact ⟨orderly.chained, orderly.stored, orderly.effects⟩

/-! ### Refreshes that contradict each other -/

/-- The account of the refreshes below. -/
def debtor : AccountId := ⟨.ofNat 2⟩

/-- A set that restricts accounts after a month. -/
def strictSet : StateSet :=
  ⟨1, [{ name := "overdue", condition := .daysOverdue 30, actions := { blockChanges := true } }]⟩

/-- What the surroundings say, given the answer of the gate. -/
def office (gate : Except CollaboratorError Unit) : (request : Request) → Option request.Answer
  | .activeSet => some (some strictSet)
  | .setBlocked .. => some gate
  | .work (.cancelPending ..) => some (.ok 0)
  | _ => none

/-- A refresh that is given some facts. -/
def refreshOf (facts : AccountFacts) : Program (Except OverdueError Refreshed) :=
  ({} : OverdueEngine).refreshWithFacts debtor facts default

/-- Two refreshes find a debt and read before either writes, a third one finds none and reads
between their writes and their side effects, and the gate refuses all flags. -/
def contested : Interleaving Request Request.Answer StateStore (Except OverdueError Refreshed) :=
  Interleaving.schedule (StateStore.reply (office (.error (.unavailable "maintenance"))))
    [0, 0, 1, 1, 0, 1, 1, 1, 2, 2, 2, 0, 0, 0, 2, 2, 2]
    ⟨{}, [], [refreshOf (.overdue 31 500), refreshOf (.overdue 31 500), refreshOf .settled]⟩

/-- The refreshes of the debtor, with what the surroundings say. -/
def refreshingAt (gate : Except CollaboratorError Unit) :
    Interleaving.Rules Request Request.Answer StateStore (Except OverdueError Refreshed) :=
  refreshing debtor fun request answer => office gate request = some answer

theorem reaches_office (gate : Except CollaboratorError Unit) (places : List Nat)
    (facts : List AccountFacts) :
    Interleaving.Reaches (refreshingAt gate) ⟨{}, [], []⟩
      (Interleaving.schedule (StateStore.reply (office gate)) places
        ⟨{}, [], facts.map refreshOf⟩) := by
  have hstarts : ∀ t ∈ facts.map refreshOf, (refreshingAt gate).starts t := by
    intro t hmem
    obtain ⟨facts, -, rfl⟩ := List.mem_map.mp hmem
    exact ⟨facts, .withFacts _ _⟩
  have hanswers : ∀ request s answer u, StateStore.reply (office gate) request s = (.ok answer, u) →
      (refreshingAt gate).answers request s answer u :=
    StateStore.answers_of_reply fun _ _ hgiven => hgiven
  exact (Interleaving.reaches_started hstarts ⟨{}, [], []⟩).trans
    (Interleaving.reaches_schedule hanswers places _)

/-- The second write takes the place of the first one, whose flags cannot be taken back any more;
the third one takes the flags of the second one back. -/
theorem refreshes_lose_no_write_contested :
    (writes debtor contested.log).map (fun entry => (entry.1, entry.2.record.version)) =
        [(2, 3), (2, 2), (0, 1)] ∧
      ∀ place w earlier, (place, w) :: earlier <:+ writes debtor contested.log →
        Follows debtor earlier place w := by
  have hwrites : (writes debtor contested.log).map
      (fun entry => (entry.1, entry.2.record.version)) = [(2, 3), (2, 2), (0, 1)] := by cbv
  have hcount : (writes debtor contested.log).length < UInt64.size := by
    have hlength := congrArg List.length hwrites
    rw [List.length_map] at hlength
    rw [hlength]
    decide
  exact ⟨hwrites, (refreshes_lose_no_write rfl
    (reaches_office _ _ [.overdue 31 500, .overdue 31 500, .settled]) hcount).1⟩

end OverdueEngine

end Dunning
