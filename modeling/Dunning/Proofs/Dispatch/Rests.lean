import Dunning.Proofs.Task.Conduct
import Dunning.Simulation.Polling
import Dunning.Worker.Round
import Mathlib.Algebra.Group.Nat.Defs

/-!
# Rests of the polling loop

After a poll the loop rests for the poll interval, or for a backoff if a claim failed. The backoff
doubles with each failure in a row, it is cut at the longest rest and at the longest duration, and a
poll that succeeds resets it. Each cut is made again at every doubling. All of them come to a single
one of the unbounded product, since what was cut off once stays beyond the longest rest.

The loop keeps only the last backoff. What it rests depends on the results of all its polls, the
latest first, and that is what is worked out here; the loop in the simulated world is then shown to
rest for so long, whatever its polls do and whoever else uses the stores.

## Main definitions

* `failuresInRow` — the failed polls at the end of a history.
* `DispatcherConfig.exactRest` — the rest after some failures in a row, in unbounded arithmetic.
* `DispatcherConfig.restAfterPoll` — the rest after a poll, given the results of the polls before.
* `Simulation.Loop.Reaches` — where a loop comes to, with the polls that ended.

## Main results

* `DispatcherConfig.nanos_restAfterPoll` — the rest after a failed poll is the exact one.
* `Simulation.Loop.Reaches.advanceWithin` — carrying a loop on leads to where it comes.
* `Simulation.Loop.Reaches.agrees` — the loop rests as long as its history says.
* `DispatcherConfig.rests_follow_failures` — the rests of every history.
-/

namespace Dunning

/-! ## Durations -/

namespace Span

theorem nanos_min (a b : Span) : (a.min b).nanos = Min.min a.nanos b.nanos := by
  unfold Span.min
  split <;> omega

/-- A cut hides that the doubling before it may have been cut at the longest duration. -/
theorem nanos_double_min (a b : Span) :
    (a.double.min b).nanos = Min.min (2 * a.nanos) b.nanos := by
  have hlongest := b.nanos_lt
  have hdouble : a.double.nanos = Min.min (2 * a.nanos) 18446744073709551615999999999 := rfl
  rw [nanos_min, hdouble]
  omega

end Span

/-! ## The rests of a history -/

/-- The number of failed polls in a row at the end of a history, the latest result first. -/
def failuresInRow : List (Except StoreError Nat) → Nat
  | .error _ :: past => failuresInRow past + 1
  | _ => 0

theorem failuresInRow_error (e : StoreError) (past : List (Except StoreError Nat)) :
    failuresInRow (.error e :: past) = failuresInRow past + 1 := rfl

namespace DispatcherConfig

/-- The nanoseconds of rest after a number of failed polls in a row, in unbounded arithmetic. -/
def exactRest (config : DispatcherConfig) (failures : Nat) : Nat :=
  min (config.storageBackoffBase.nanos * 2 ^ (failures - 1)) config.storageBackoffMax.nanos

/-- The backoff that a loop keeps after a history, the latest result first. -/
def backoffAfter (config : DispatcherConfig) : List (Except StoreError Nat) → Option Span
  | [] => none
  | result :: past => (Dispatcher.restAfter config (config.backoffAfter past) result.isOk).2

/-- The rest after a poll, given its result and those of the polls before, the latest first. -/
def restAfterPoll (config : DispatcherConfig) (past : List (Except StoreError Nat))
    (result : Except StoreError Nat) : Span :=
  (Dispatcher.restAfter config (config.backoffAfter past) result.isOk).1

variable {config : DispatcherConfig}

theorem exactRest_le (config : DispatcherConfig) (failures : Nat) :
    config.exactRest failures ≤ config.storageBackoffMax.nanos := Nat.min_le_right _ _

theorem exactRest_mono {m n : Nat} (h : m ≤ n) : config.exactRest m ≤ config.exactRest n := by
  have hpower : 2 ^ (m - 1) ≤ 2 ^ (n - 1) := Nat.pow_le_pow_right (by omega) (by omega)
  have hproduct := Nat.mul_le_mul_left config.storageBackoffBase.nanos hpower
  unfold exactRest
  omega

/-- Doubling what was cut and cutting it again is cutting what was doubled. -/
theorem exactRest_succ_succ (failures : Nat) : config.exactRest (failures + 2) =
    min (2 * config.exactRest (failures + 1)) config.storageBackoffMax.nanos := by
  have hproduct : config.storageBackoffBase.nanos * 2 ^ (failures + 1) =
      2 * (config.storageBackoffBase.nanos * 2 ^ failures) := by
    rw [Nat.pow_succ, Nat.mul_left_comm 2, Nat.mul_comm 2]
  show min (config.storageBackoffBase.nanos * 2 ^ (failures + 1)) _ =
    min (2 * min (config.storageBackoffBase.nanos * 2 ^ failures) _) _
  rw [hproduct]
  omega

/-- **One failure more.** If the backoff is the exact rest of the failures so far, the next rest is that
of one more. -/
theorem nanos_nextStorageBackoff {backoff : Option Span} {failures : Nat}
    (h : backoff.map Span.nanos = if failures = 0 then none else some (config.exactRest failures)) :
    (config.nextStorageBackoff backoff).nanos = config.exactRest (failures + 1) := by
  cases failures with
  | zero =>
      obtain rfl := Option.map_eq_none_iff.mp h
      show (config.storageBackoffBase.min config.storageBackoffMax).nanos = _
      rw [Span.nanos_min, exactRest, Nat.sub_self, Nat.pow_zero, Nat.mul_one]
  | succ failures =>
      obtain ⟨rest, rfl, hrest⟩ := Option.map_eq_some_iff.mp h
      show (rest.double.min config.storageBackoffMax).nanos = _
      rw [Span.nanos_double_min, hrest, exactRest_succ_succ]

/-- **The backoff of a history.** There is none unless the last poll failed; then it is the exact rest
of the failures in a row. -/
theorem nanos_backoffAfter (past : List (Except StoreError Nat)) :
    (config.backoffAfter past).map Span.nanos =
      if failuresInRow past = 0 then none else some (config.exactRest (failuresInRow past)) := by
  induction past with
  | nil => rfl
  | cons result past ih =>
      cases result with
      | ok claimed => rfl
      | error e =>
          show some (config.nextStorageBackoff (config.backoffAfter past)).nanos = _
          rw [nanos_nextStorageBackoff ih, failuresInRow_error, if_neg (Nat.succ_ne_zero _)]

/-- **The rest after a failed poll is the exact one.** -/
theorem nanos_restAfterPoll (past : List (Except StoreError Nat)) (e : StoreError) :
    (config.restAfterPoll past (.error e)).nanos =
      config.exactRest (failuresInRow (.error e :: past)) :=
  nanos_nextStorageBackoff (nanos_backoffAfter past)

end DispatcherConfig

/-! ## The loop in the simulated world -/

namespace Simulation

/-- A poll of a loop that ended. -/
structure Polled where
  result : Except StoreError Nat
  /-- The clock at its end. -/
  ended : Nat

/-- The polls that end as a process is carried on. -/
def Polled.ofProgress (clock : Nat) : Process.Progress (Except StoreError Nat) → List Polled
  | .finished result => [⟨result, clock⟩]
  | .crashed => []
  | .waiting _ => []

namespace Loop

/-- Where a loop comes to that polls for the first time at a moment, with the polls that ended, the
latest first. A poll begins when it is due or later. The loop is carried on in any world: between two
steps others may have changed it. -/
inductive Reaches (p : Poller) (start : Nat) : List Polled → Loop → Prop where
  | fresh : Reaches p start [] (.resting start none)
  | poll {history : List Polled} {next : Nat} {backoff : Option Span} (w : World) :
      Reaches p start history (.resting next backoff) → next ≤ w.clock →
      Reaches p start history (.polling (p.process w.readClock.1) backoff)
  | carry {history : List Polled} {remainder : Process (Except StoreError Nat)}
      {backoff : Option Span} (upTo : Option Nat) (w : World) {w' : World}
      {progress : Process.Progress (Except StoreError Nat)} :
      Reaches p start history (.polling remainder backoff) →
      Process.advance upTo remainder w = (progress, w') →
      Reaches p start (Polled.ofProgress w'.clock progress ++ history)
        (afterPoll p.dispatcher.config backoff w'.clock progress)

variable {p : Poller} {start moment : Nat} {history : List Polled} {loop : Loop}

/-- Carrying a loop on leads to where it comes. -/
theorem Reaches.advanceWithin (h : Reaches p start history loop) (polls : Nat) (w : World) :
    ∃ more, Reaches p start (more ++ history) (Loop.advanceWithin p moment polls loop w).1 := by
  induction polls generalizing history loop w with
  | zero => exact ⟨[], h⟩
  | succ polls ih =>
      -- What follows a step that was carried on leads to where it comes as well.
      have hcarry {history : List Polled} {remainder : Process (Except StoreError Nat)}
          {backoff : Option Span} {w w' : World}
          {progress : Process.Progress (Except StoreError Nat)}
          (hpolling : Reaches p start history (.polling remainder backoff))
          (hprogress : Process.advance (some moment) remainder w = (progress, w')) :
          ∃ more, Reaches p start (more ++ history) (Loop.advanceWithin p moment polls
            (afterPoll p.dispatcher.config backoff w'.clock progress) w').1 := by
        obtain ⟨more, hmore⟩ := ih (hpolling.carry _ _ hprogress) w'
        exact ⟨more ++ Polled.ofProgress w'.clock progress, by rwa [List.append_assoc]⟩
      cases loop with
      | broken => exact ⟨[], h⟩
      | polling remainder backoff => exact hcarry h rfl
      | resting next backoff =>
          rw [Loop.advanceWithin]
          split
          · exact ⟨[], h⟩
          · have hdue : next ≤ { w with clock := max next w.clock }.clock := Nat.le_max_left _ _
            generalize { w with clock := max next w.clock } = due at hdue ⊢
            have hpolling := h.poll due hdue
            rcases hread : due.readClock with ⟨now, begun⟩
            rw [hread] at hpolling
            rcases hprogress : Process.advance (some moment) (p.process now) begun with ⟨progress, w'⟩
            simp only [hprogress]
            cases progress with
            | waiting remainder => exact ⟨[], hpolling.carry _ _ hprogress⟩
            | finished result => exact hcarry hpolling hprogress
            | crashed => exact hcarry hpolling hprogress

/-- When the first poll is due, or the one after the last that ended: after the rest that the results
of the polls call for, in whole milliseconds. -/
def nextPoll (config : DispatcherConfig) (start : Nat) : List Polled → Nat
  | [] => start
  | poll :: past =>
    poll.ended + Process.wholeMillis (config.restAfterPoll (past.map Polled.result) poll.result)

/-- Whether a loop stands where its history leaves it. -/
def Agrees (config : DispatcherConfig) (start : Nat) (history : List Polled) : Loop → Prop
  | .resting next backoff =>
    next = nextPoll config start history ∧
      backoff = config.backoffAfter (history.map Polled.result)
  | .polling _ backoff => backoff = config.backoffAfter (history.map Polled.result)
  | .broken => True

/-- **The loop rests as long as its history says.** -/
theorem Reaches.agrees (h : Reaches p start history loop) :
    Agrees p.dispatcher.config start history loop := by
  induction h with
  | fresh => exact ⟨rfl, rfl⟩
  | poll _ _ _ ih => exact ih.2
  | @carry history remainder backoff upTo w w' progress _ _ ih =>
      rw [show backoff = _ from ih]
      cases progress with
      | finished result => exact ⟨rfl, rfl⟩
      | waiting remainder => exact rfl
      | crashed => exact trivial

end Loop

end Simulation

/-! ## The rounds of a worker -/

namespace Worker

variable {σ : Type} (answers : (request : MachineRequest) → σ → request.Answer → σ → Prop)

/-- The rounds of a worker from its first one on: the results of the polls and the rests after them, the
latest first, and the worker that they leave. Between two rounds the surroundings may have changed. -/
inductive Rounds (first : Worker) : List (Except StoreError Nat × Span) → Worker → Prop where
  | fresh : Rounds first [] first
  | next {history : List (Except StoreError Nat × Span)} {w w' : Worker} {now : Instant}
      {result : Except StoreError Nat} {rest : Span} {s t u v : σ} :
      Rounds first history w → answers .now s now t →
      (w.ofPoll (w.service.dispatcher.poll now) 0).Runs answers t (some result) u →
      (w.afterPoll result).Runs answers u (some (rest, w')) v →
      Rounds first ((result, rest) :: history) w'

variable {answers} {first w w' : Worker} {history : List (Except StoreError Nat × Span)}
  {rest : Span} {s t : σ}

/-- A round that does not break off adds the result of its poll. -/
theorem Rounds.round (h : Rounds answers first history w)
    (run : w.round.Runs answers s (some (rest, w')) t) :
    ∃ result, Rounds answers first ((result, rest) :: history) w' := by
  unfold Worker.round at run
  obtain ⟨now, u, hnow, run⟩ := Task.runs_bind.mp run
  obtain ⟨ended, v, hpoll, run⟩ := Task.runs_bind.mp run
  cases hnow with
  | ask hanswer hdone =>
      cases hdone
      cases ended with
      | none => cases run
      | some result => exact ⟨result, h.next hanswer hpoll run⟩

/-- What follows a poll depends on its result and the backoff. -/
theorem afterPoll_runs {result : Except StoreError Nat}
    (run : (w.afterPoll result).Runs answers s (some (rest, w')) t) :
    (rest, w'.backoff) =
        Dispatcher.restAfter w.service.dispatcher.config w.backoff result.isOk ∧
      w'.service = w.service := by
  unfold afterPoll at run
  obtain ⟨_, u, -, run⟩ := Task.runs_bind.mp run
  cases run
  exact ⟨rfl, rfl⟩

/-- **A worker rests as long as its history says.** -/
theorem Rounds.agrees (h : Rounds answers first history w) (hfirst : first.backoff = none) :
    w.service = first.service ∧
      w.backoff = first.service.dispatcher.config.backoffAfter (history.map Prod.fst) ∧
      ∀ result rest past, history = (result, rest) :: past →
        rest = first.service.dispatcher.config.restAfterPoll (past.map Prod.fst) result := by
  induction h with
  | fresh => exact ⟨rfl, hfirst, nofun⟩
  | next _ _ _ hafter ih =>
      obtain ⟨hservice, hbackoff, -⟩ := ih
      obtain ⟨hrest, hkept⟩ := afterPoll_runs hafter
      rw [hservice, hbackoff] at hrest
      obtain ⟨rfl, hnext⟩ := Prod.mk.inj hrest
      refine ⟨hkept.trans hservice, hnext, ?_⟩
      rintro _ _ _ ⟨⟩
      rfl

/-! ### A database out of reach -/

/-- The answers of a machine that has lost its database. -/
def cutOff : (request : MachineRequest) → Unit → Except Stop request.Answer × Unit
  | .log _, s => (.ok (), s)
  | .connect _, s => (.ok false, s)
  | .send _, s => (.ok (.error (.other "connection refused")), s)
  | .freshId, s => (.ok (.ofNat 0), s)
  | .readFile _, s => (.ok none, s)
  | .now, s => (.ok .first, s)

/-- How such a machine answers. -/
def AnswersCutOff (request : MachineRequest) (s : Unit) (answer : request.Answer) (t : Unit) : Prop :=
  cutOff request s = (.ok answer, t)

/-- What a round on such a machine comes to. -/
def roundCutOff (w : Worker) : Option (Span × Worker) :=
  (w.round.run cutOff ()).1.toOption.join

/-- A worker with the default settings. -/
def north : Worker where
  service := ⟨{ dispatcherName := "north" }, {}, ⟨({} : DaySchedule).policy, 4⟩⟩
  active := {}
  factsPath := defaultFactsPath

theorem Rounds.roundCutOff (h : Rounds AnswersCutOff first history w)
    (hround : w.roundCutOff = some (rest, w')) :
    ∃ result, Rounds AnswersCutOff first ((result, rest) :: history) w' := by
  unfold Worker.roundCutOff at hround
  rcases hrun : w.round.run cutOff () with ⟨_ | ended, _⟩
  · rw [hrun] at hround
    cases hround
  · rw [hrun] at hround
    obtain rfl : ended = some (rest, w') := Option.some.inj (Option.join_eq_some_iff.mp hround)
    exact h.round (Task.runs_of_run (fun _ _ _ _ hanswer => hanswer) hrun)

/-- Two rounds without a database. -/
theorem north_rounds : ∃ first second w,
    Rounds AnswersCutOff north [(second, Span.ofMillis 1000), (first, Span.ofMillis 500)] w := by
  have hfirst : north.roundCutOff.map Prod.fst = some (Span.ofMillis 500) := by decide +kernel
  have hsecond : (north.roundCutOff.bind fun x => x.2.roundCutOff).map Prod.fst =
      some (Span.ofMillis 1000) := by decide +kernel
  obtain ⟨⟨_, w⟩, hround, rfl⟩ := Option.map_eq_some_iff.mp hfirst
  rw [hround] at hsecond
  obtain ⟨⟨_, w'⟩, hround', rfl⟩ := Option.map_eq_some_iff.mp hsecond
  obtain ⟨first, hrounds⟩ := Rounds.fresh.roundCutOff hround
  obtain ⟨second, hrounds'⟩ := hrounds.roundCutOff hround'
  exact ⟨first, second, w', hrounds'⟩

end Worker

namespace DispatcherConfig

open Simulation (Poller Polled Loop Process)

/-- **Rests follow the failures in a row.** After a poll that succeeded the rest is the poll interval.
After one that failed it is the base, doubled for each failure in a row before it and cut at the
longest rest, in unbounded arithmetic; so it is never longer than the longest rest, does not shrink
from one failure to the next, and starts again from the base, cut in the same way, when the loop starts
and after a success. This holds of every history of results, and loops rest for so long. Wherever the
loop in the simulated world comes after some polls, whatever they did and whoever else uses the stores,
the next poll is due that rest after the end of the last one, in whole milliseconds; and a worker that
starts without a backoff rests exactly so in all its rounds, whatever its machine answers. -/
theorem rests_follow_failures (config : DispatcherConfig) :
    (∀ past claimed, config.restAfterPoll past (.ok claimed) = config.pollInterval) ∧
    (∀ past e, (config.restAfterPoll past (.error e)).nanos =
      min (config.storageBackoffBase.nanos * 2 ^ (failuresInRow (.error e :: past) - 1))
        config.storageBackoffMax.nanos) ∧
    (∀ past e, (config.restAfterPoll past (.error e)).nanos ≤ config.storageBackoffMax.nanos) ∧
    (∀ past e e', (config.restAfterPoll past (.error e)).nanos ≤
      (config.restAfterPoll (.error e :: past) (.error e')).nanos) ∧
    (∀ past e, failuresInRow past = 0 → config.restAfterPoll past (.error e) =
      config.storageBackoffBase.min config.storageBackoffMax) ∧
    (∀ (p : Poller) start poll past next backoff, p.dispatcher.config = config →
      Loop.Reaches p start (poll :: past) (.resting next backoff) →
      next = poll.ended +
        Process.wholeMillis (config.restAfterPoll (past.map Polled.result) poll.result)) ∧
    ∀ (σ : Type) (answers : (request : MachineRequest) → σ → request.Answer → σ → Prop)
      (first w : Worker) result rest past, first.backoff = none →
      first.service.dispatcher.config = config →
      Worker.Rounds answers first ((result, rest) :: past) w →
      rest = config.restAfterPoll (past.map Prod.fst) result := by
  refine ⟨fun _ _ => rfl, nanos_restAfterPoll, fun past e => ?_, fun past e e' => ?_,
    fun past e hnone => ?_, ?_, ?_⟩
  · rw [nanos_restAfterPoll]
    exact exactRest_le config _
  · rw [nanos_restAfterPoll, nanos_restAfterPoll, failuresInRow_error _ (.error e :: past)]
    exact exactRest_mono (Nat.le_succ _)
  · have hbackoff := @nanos_backoffAfter config past
    rw [if_pos hnone, Option.map_eq_none_iff] at hbackoff
    show config.nextStorageBackoff (config.backoffAfter past) = _
    rw [hbackoff]
    rfl
  · rintro p start poll past next backoff rfl hreaches
    exact hreaches.agrees.1
  · rintro σ answers first w result rest past hfirst rfl rounds
    exact (rounds.agrees hfirst).2.2 result rest past rfl

/-! ### A store out of reach -/

/-- A dispatcher of one queue whose rests start at 100 milliseconds and are cut at 350. -/
def patient : Poller where
  dispatcher :=
    { config :=
        { name := "north", queues := ["queue"], storageBackoffBase := Span.ofMillis 100
          storageBackoffMax := Span.ofMillis 350 }
      handled := [] }
  handlers := Process.scripted

/-- The store is out of reach. -/
def outOfReach : StoreError := ⟨.unavailable, "out of reach"⟩

/-- The world at a moment, in which the next claim fails. -/
def worldAt (clock : Nat) : Simulation.World :=
  { clock, faults := [(.claimDue, .fail outOfReach)] }

/-- Two polls fail, the second when the rest after the first is over. -/
theorem patient_reaches : Loop.Reaches patient 0 [⟨.error outOfReach, 100⟩, ⟨.error outOfReach, 0⟩]
    (.resting 300 (some (Span.ofMillis 200))) := by
  have hfirst : Loop.Reaches patient 0 [⟨.error outOfReach, 0⟩]
      (.resting 100 (some (Span.ofMillis 100))) :=
    (Loop.Reaches.fresh.poll (worldAt 0) (Nat.le_refl 0)).carry none (worldAt 0) rfl
  exact (hfirst.poll (worldAt 100) (Nat.le_refl 100)).carry none (worldAt 100) rfl

/-- The rests double up to the longest and start again after a success; in the loop the second is over
200 milliseconds after the poll, and a worker without its database rests twice as long after its second
round as after its first. -/
theorem rests_follow_failures_patient :
    Loop.Reaches patient 0 [⟨.error outOfReach, 100⟩, ⟨.error outOfReach, 0⟩]
        (.resting 300 (some (Span.ofMillis 200))) ∧
      300 = 100 + Process.wholeMillis
        (patient.dispatcher.config.restAfterPoll [.error outOfReach] (.error outOfReach)) ∧
      (patient.dispatcher.config.restAfterPoll [.error outOfReach, .error outOfReach]
        (.error outOfReach)).nanos = 350000000 ∧
      (patient.dispatcher.config.restAfterPoll [.ok 3, .error outOfReach]
        (.error outOfReach)).nanos = 100000000 ∧
      ∃ first second, Span.ofMillis 1000 =
        Worker.north.service.dispatcher.config.restAfterPoll [first] second := by
  obtain ⟨-, hexact, -, -, -, hloop, -⟩ := rests_follow_failures patient.dispatcher.config
  obtain ⟨-, -, -, -, -, -, hworker⟩ :=
    rests_follow_failures Worker.north.service.dispatcher.config
  obtain ⟨first, second, w, hrounds⟩ := Worker.north_rounds
  exact ⟨patient_reaches, hloop patient 0 _ _ _ _ rfl patient_reaches,
    hexact [.error outOfReach, .error outOfReach] outOfReach,
    hexact [.ok 3, .error outOfReach] outOfReach, first, second,
    hworker Unit _ _ _ second _ _ rfl rfl hrounds⟩

end DispatcherConfig

end Dunning
