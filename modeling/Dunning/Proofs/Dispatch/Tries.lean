import Dunning.Proofs.Dispatch.Accounts

/-!
# How a settlement is written

A settlement is written at most three times. Only a failure that may pass is followed by another
write; every other answer is the last one. What is counted and reported follows from the answers: each
failure is a storage error, a refusal is a lost claim, and a dead letter that was written is reported.

The store may answer as it likes. Its answers are given beforehand, one for each write that may come,
and nothing else that a settlement asks has an answer to speak of. So what is asked in one try is a
list, the whole is the lists of the tries one after another, and what was written, counted and
reported is read off it.

## Main definitions

* `PollHistory.written`, `PollHistory.reported` — what a history wrote and reported.
* `Correspondence` — a settlement and a store whose answers are given.
* `Dispatcher.tried` — what is asked in one try.

## Main results

* `Dispatcher.run_settleWithin` — the tries go on to the first answer that is no failure that may
  pass, as long as there are some left.
* `Dispatcher.settlement_writes_are_bounded` — how often a settlement is written, and what is counted
  and reported.
-/

namespace Dunning

/-! ## What was written and reported -/

namespace PollRequest

/-- What a request writes: the settlement of an item, in the name of a claimer. -/
def written? : PollRequest → Option (ItemId × String × Settlement)
  | .work (.settle id claimer settlement) => some (id, claimer, settlement)
  | _ => none

/-- What a request reports: an item that was given up, with the reason. -/
def reported? : PollRequest → Option (Item × String)
  | .reportDead item reason => some (item, reason)
  | _ => none

end PollRequest

namespace PollHistory

/-- What was written, the latest first. -/
def written (past : PollHistory) : List (ItemId × String × Settlement) :=
  past.filterMap fun x => x.request.written?

/-- What was reported, the latest first. -/
def reported (past : PollHistory) : List (Item × String) :=
  past.filterMap fun x => x.request.reported?

theorem written_append (later past : PollHistory) :
    written (later ++ past) = later.written ++ past.written := List.filterMap_append

theorem reported_append (later past : PollHistory) :
    reported (later ++ past) = later.reported ++ past.reported := List.filterMap_append

theorem written_reverse (past : PollHistory) : written past.reverse = past.written.reverse :=
  List.filterMap_reverse

theorem reported_reverse (past : PollHistory) : reported past.reverse = past.reported.reverse :=
  List.filterMap_reverse

end PollHistory

/-! ## A store whose answers are given -/

/-- A settlement that is under way, and a store whose answers to its writes are given. -/
structure Correspondence where
  /-- The answers to the writes to come. -/
  coming : Nat → Except StoreError Bool
  /-- What was asked and told, the latest first. -/
  past : PollHistory := []

/-- Answer a request of a settlement. The next write gets the next answer; whoever asks anything but
to write, to count and to report is stopped. -/
def Correspondence.respond :
    (request : PollRequest) → Correspondence → Except Stop request.Answer × Correspondence
  | .work (.settle id claimer settlement), s =>
    (.ok (s.coming 0),
      ⟨fun n => s.coming (n + 1), ⟨.work (.settle id claimer settlement), s.coming 0⟩ :: s.past⟩)
  | .count counter n, s => (.ok (), { s with past := ⟨.count counter n, ()⟩ :: s.past })
  | .reportDead item reason, s =>
    (.ok (), { s with past := ⟨.reportDead item reason, ()⟩ :: s.past })
  | .work _, s => (.error .crashed, s)
  | .invoke .., s => (.error .crashed, s)

/-- Whether an answer to a write is a failure that may pass: the store is out of reach, or a race was
lost. -/
def MayPass (answer : Except StoreError Bool) : Prop :=
  ∃ e, answer = .error e ∧ (e.fault = .unavailable ∨ e.fault = .conflict)

theorem mayPass_error_iff {e : StoreError} : MayPass (.error e) ↔ e.isTransient = true := by
  simp [MayPass, StoreError.isTransient]

/-! ## Tries -/

/-- The reason of a dead letter. -/
def Settlement.deadReason? : Settlement → Option String
  | .deadLetter reason => some reason
  | _ => none

namespace Dispatcher

/-- What the answer to a write calls for: a dead letter that was written is reported, and a refusal and
a failure are counted. -/
def aftermath (item : Item) (settlement : Settlement) : Except StoreError Bool → PollHistory
  | .ok true => (settlement.deadReason?.map fun reason => ⟨.reportDead item reason, ()⟩).toList
  | .ok false => [⟨.count .lostClaims 1, ()⟩]
  | .error _ => [⟨.count .storageErrors 1, ()⟩]

/-- What is asked in one try, the write first. -/
def tried (d : Dispatcher) (item : Item) (settlement : Settlement)
    (answer : Except StoreError Bool) : PollHistory :=
  ⟨.work (.settle item.id d.config.name settlement), answer⟩ :: aftermath item settlement answer

variable {d : Dispatcher} {item : Item} {settlement : Settlement}
  {coming : Nat → Except StoreError Bool} {past : PollHistory}

/-- A failure that may pass is followed by the tries that are left. -/
theorem run_settleWithin_again (h : MayPass (coming 0)) (tries : Nat) :
    (d.settleWithin item settlement (tries + 1)).run Correspondence.respond ⟨coming, past⟩ =
      (d.settleWithin item settlement tries).run Correspondence.respond
        ⟨fun n => coming (n + 1), (d.tried item settlement (coming 0)).reverse ++ past⟩ := by
  obtain ⟨e, hfailed, -⟩ := id h
  rw [hfailed, mayPass_error_iff] at h
  simp only [settleWithin, Task.run, Correspondence.respond, hfailed, PollTask.count, Task.bind_ask,
    Task.bind_done, h, if_true, tried, aftermath]
  rfl

/-- Every other answer is the last one. -/
theorem run_settleWithin_last (h : ¬ MayPass (coming 0)) (tries : Nat) :
    (d.settleWithin item settlement (tries + 1)).run Correspondence.respond ⟨coming, past⟩ =
      (.ok (),
        ⟨fun n => coming (n + 1), (d.tried item settlement (coming 0)).reverse ++ past⟩) := by
  rcases hanswer : coming 0 with e | _ | _
  · rw [hanswer, mayPass_error_iff] at h
    simp only [settleWithin, Task.run, Correspondence.respond, hanswer, PollTask.count,
      Task.bind_ask, Task.bind_done, h, tried, aftermath]
    rfl
  · simp only [settleWithin, Task.run, Correspondence.respond, hanswer, PollTask.count, tried,
      aftermath]
    rfl
  · cases settlement <;>
      simp only [settleWithin, Task.run, Correspondence.respond, hanswer, PollTask.reportDead, tried,
        aftermath, Settlement.deadReason?] <;>
      rfl

/-- What is asked up to the last answer, in order. -/
def triedUpTo (d : Dispatcher) (item : Item) (settlement : Settlement)
    (coming : Nat → Except StoreError Bool) (last : Nat) : PollHistory :=
  (List.range (last + 1)).flatMap fun n => d.tried item settlement (coming n)

theorem triedUpTo_zero :
    d.triedUpTo item settlement coming 0 = d.tried item settlement (coming 0) :=
  List.append_nil _

theorem triedUpTo_succ (last : Nat) :
    d.triedUpTo item settlement coming (last + 1) = d.tried item settlement (coming 0) ++
      d.triedUpTo item settlement (fun n => coming (n + 1)) last := by
  rw [triedUpTo, List.range_succ_eq_map, List.flatMap_cons, List.flatMap_map]
  rfl

/-- **The tries go on to the first answer that is no failure that may pass**, and to the last try if
there is none. -/
theorem run_settleWithin (tries : Nat) :
    ∃ last ≤ tries, (∀ n < last, MayPass (coming n)) ∧ (MayPass (coming last) → last = tries) ∧
      (d.settleWithin item settlement (tries + 1)).run Correspondence.respond ⟨coming, past⟩ =
        (.ok (), ⟨fun n => coming (n + (last + 1)),
          (d.triedUpTo item settlement coming last).reverse ++ past⟩) := by
  induction tries generalizing coming past with
  | zero =>
      refine ⟨0, Nat.le_refl 0, nofun, fun _ => rfl, ?_⟩
      rw [triedUpTo_zero]
      by_cases h : MayPass (coming 0)
      · exact run_settleWithin_again h 0
      · exact run_settleWithin_last h 0
  | succ tries ih =>
      by_cases h : MayPass (coming 0)
      · obtain ⟨last, hle, hbefore, hlast, hrun⟩ := @ih (fun n => coming (n + 1))
          ((d.tried item settlement (coming 0)).reverse ++ past)
        refine ⟨last + 1, Nat.succ_le_succ hle, ?_, fun hpass => congrArg (· + 1) (hlast hpass), ?_⟩
        · rintro (_ | n) hn
          · exact h
          · exact hbefore n (Nat.lt_of_succ_lt_succ hn)
        · rw [run_settleWithin_again h, hrun, triedUpTo_succ, List.reverse_append, List.append_assoc]
          rfl
      · refine ⟨0, Nat.zero_le _, nofun, fun hpass => absurd hpass h, ?_⟩
        rw [triedUpTo_zero]
        exact run_settleWithin_last h _

/-! ## What the tries come to -/

/-- Whether an answer to a write is counted. -/
def counted : Counter → Except StoreError Bool → Bool
  | .storageErrors, .error _ => true
  | .lostClaims, .ok false => true
  | _, _ => false

theorem counts_tried (counter : Counter) (answer : Except StoreError Bool) :
    PollHistory.counts counter (d.tried item settlement answer) =
      if counted counter answer then 1 else 0 := by
  rcases answer with e | _ | _
  · cases counter <;> rfl
  · cases counter <;> rfl
  · cases settlement <;> cases counter <;> rfl

theorem counts_triedUpTo (counter : Counter) (last : Nat) :
    PollHistory.counts counter (d.triedUpTo item settlement coming last) =
      (List.range (last + 1)).countP fun n => counted counter (coming n) := by
  rw [triedUpTo, PollHistory.counts_flatMap]
  simp only [counts_tried]
  induction List.range (last + 1) with
  | nil => rfl
  | cons n rest ih => rw [List.map_cons, List.sum_cons, ih, List.countP_cons, Nat.add_comm]

/-- Every try writes the same. -/
theorem written_triedUpTo (last : Nat) :
    PollHistory.written (d.triedUpTo item settlement coming last) =
      List.replicate (last + 1) (item.id, d.config.name, settlement) := by
  have hone (answer : Except StoreError Bool) : PollHistory.written
      (d.tried item settlement answer) = [(item.id, d.config.name, settlement)] := by
    rcases answer with e | _ | _
    · rfl
    · rfl
    · cases settlement <;> rfl
  induction last generalizing coming with
  | zero => rw [triedUpTo_zero, hone]; rfl
  | succ last ih =>
      rw [triedUpTo_succ, PollHistory.written_append, hone, ih]
      rfl

/-- What is reported when an answer is the last one. -/
def lastReport (item : Item) (settlement : Settlement) (answer : Except StoreError Bool) :
    List (Item × String) :=
  if answer = .ok true then (settlement.deadReason?.map fun reason => (item, reason)).toList else []

theorem reported_tried (answer : Except StoreError Bool) :
    PollHistory.reported (d.tried item settlement answer) = lastReport item settlement answer := by
  rcases answer with e | _ | _
  · rfl
  · rfl
  · cases settlement <;> rfl

/-- Nothing is reported before the last answer. -/
theorem reported_triedUpTo {last : Nat} (hbefore : ∀ n < last, MayPass (coming n)) :
    PollHistory.reported (d.triedUpTo item settlement coming last) =
      lastReport item settlement (coming last) := by
  induction last generalizing coming with
  | zero => rw [triedUpTo_zero, reported_tried]
  | succ last ih =>
      obtain ⟨e, hfailed, -⟩ := hbefore 0 (Nat.succ_pos last)
      rw [triedUpTo_succ, PollHistory.reported_append, reported_tried, hfailed,
        ih fun n hn => hbefore (n + 1) (Nat.succ_lt_succ hn)]
      rfl

theorem counted_storageErrors (answer : Except StoreError Bool) :
    counted .storageErrors answer = !answer.isOk := by
  rcases answer with e | _ | _ <;> rfl

theorem counted_lostClaims (answer : Except StoreError Bool) :
    counted .lostClaims answer = decide (answer = .ok false) := by
  rcases answer with e | _ | _ <;> rfl

theorem counted_of_ne {counter : Counter} (herrors : counter ≠ .storageErrors)
    (hlost : counter ≠ .lostClaims) (answer : Except StoreError Bool) :
    counted counter answer = false := by
  cases counter with
  | storageErrors => exact absurd rfl herrors
  | lostClaims => exact absurd rfl hlost
  | _ => rfl

/-- No claim is lost before the last answer. -/
theorem counts_lostClaims {last : Nat} (hbefore : ∀ n < last, MayPass (coming n)) :
    PollHistory.counts .lostClaims (d.triedUpTo item settlement coming last) =
      if coming last = .ok false then 1 else 0 := by
  have hnone : (List.range last).countP (fun n => counted .lostClaims (coming n)) = 0 := by
    refine List.countP_eq_zero.mpr fun n hn => ?_
    obtain ⟨e, hfailed, -⟩ := hbefore n (List.mem_range.mp hn)
    rw [hfailed]
    exact Bool.false_ne_true
  rw [counts_triedUpTo, List.range_succ, List.countP_append, hnone, List.countP_singleton,
    counted_lostClaims, Nat.zero_add]
  simp only [decide_eq_true_eq]

/-- **Settlements are written at most three times, and counted and reported by the answers.** Whatever
the store answers, writing a settlement comes to an end and takes one answer for each write, three at
most. All of them write this settlement of this item. An answer is followed by another write only if
it is a failure that may pass, and it is then unless it was the third; so the first of any other kind
is the last. The storage errors grow by the number of failures, the lost claims by one if the last
answer was a refusal and not at all otherwise, and no other counter grows. The item is reported once
if the settlement gives it up and the last answer was that it counts, and not at all otherwise. -/
theorem settlement_writes_are_bounded (d : Dispatcher) (item : Item) (settlement : Settlement)
    (answers : Nat → Except StoreError Bool) :
    ∃ last past, last < 3 ∧
      (d.settle item settlement).run Correspondence.respond ⟨answers, []⟩ =
        (.ok (), ⟨fun n => answers (n + (last + 1)), past⟩) ∧
      PollHistory.written past = List.replicate (last + 1) (item.id, d.config.name, settlement) ∧
      (∀ n < last, MayPass (answers n)) ∧ (MayPass (answers last) → last = 2) ∧
      (∀ c : Counters,
        (c.after past).value .storageErrors =
          c.value .storageErrors + (List.range (last + 1)).countP (fun n => !(answers n).isOk) ∧
        (c.after past).value .lostClaims =
          c.value .lostClaims + (if answers last = .ok false then 1 else 0) ∧
        ∀ counter, counter ≠ .storageErrors → counter ≠ .lostClaims →
          (c.after past).value counter = c.value counter) ∧
      PollHistory.reported past = lastReport item settlement (answers last) := by
  obtain ⟨last, hle, hbefore, hlast, hrun⟩ := @run_settleWithin d item settlement answers [] 2
  have hcounts (counter : Counter) :
      PollHistory.counts counter (d.triedUpTo item settlement answers last).reverse =
        PollHistory.counts counter (d.triedUpTo item settlement answers last) :=
    PollHistory.counts_perm (List.reverse_perm _)
  refine ⟨last, (d.triedUpTo item settlement answers last).reverse, Nat.lt_succ_of_le hle, ?_, ?_,
    hbefore, hlast, fun c => ⟨?_, ?_, fun counter herrors hlost => ?_⟩, ?_⟩
  · rw [List.append_nil] at hrun
    exact hrun
  · rw [PollHistory.written_reverse, written_triedUpTo, List.reverse_replicate]
  · rw [Counters.value_after, hcounts, counts_triedUpTo]
    simp only [counted_storageErrors]
  · rw [Counters.value_after, hcounts, counts_lostClaims hbefore]
  · rw [Counters.value_after, hcounts, counts_triedUpTo]
    simp only [counted_of_ne herrors hlost, List.countP_false]
    rfl
  · rw [PollHistory.reported_reverse, reported_triedUpTo hbefore, lastReport]
    split
    · cases settlement <;> rfl
    · rfl

end Dispatcher

end Dunning
