import Dunning.Proofs.Task.Conduct
import Dunning.Work.Dispatcher

/-!
# How a claimed item is handled

The handling of an item looks its owner up, has the handler run and writes one settlement, which it may
try more than once. Two things about it matter to everybody else at the store. A failure is recorded
only if the policy allows a further invocation after it, as far as the handling knows the item, that
is, by the number of failed invocations it had when it was claimed. And a dead letter that was written
is reported next, before anything else; a report is made in no other case.

What is to be reported is the state of a handling. The rule says what it may ask in which state.

## Main definitions

* `Dispatcher.Affords` — whether the policy allows a settlement.
* `PollRequest.due`, `PollRequest.report` — what is to be reported after a request, and what a request
  reports.
* `Dispatcher.Minds` — what the handling of an item may ask.

## Main results

* `Dispatcher.affords_settlement` — the policy allows what becomes of an item.
* `Dispatcher.process_minds` — every handling keeps to the rule and leaves nothing to report.
-/

namespace Dunning

/-- The items that are to be reported, with the reasons. -/
abbrev Dues : Type := List (ItemId × Option String)

namespace PollRequest

/-- What is to be reported after a request: the item that it gave up. -/
def due : (request : PollRequest) → request.Answer → Dues
  | .work (.settle id _ (.deadLetter reason)), .ok true => [(id, some reason)]
  | _, _ => []

/-- What a request reports. -/
def report : PollRequest → Dues
  | .reportDead item reason => [(item.id, some reason)]
  | _ => []

theorem due_settle {id : ItemId} {claimer : String} {settlement : Settlement}
    {answer : Except StoreError Bool} (h : answer ≠ .ok true) :
    due (.work (.settle id claimer settlement)) answer = [] := by
  rcases answer with e | _ | _
  · cases settlement <;> rfl
  · cases settlement <;> rfl
  · exact absurd rfl h

end PollRequest

namespace Dispatcher

/-- Whether a failed invocation is recorded only if the policy allows a further one after it. -/
def Affords (d : Dispatcher) (item : Item) (settlement : Settlement) : Prop :=
  ∀ error retryAt, settlement = .recordFailure error retryAt →
    d.config.backoff.allows (item.attempts + 1) = true

/-- What the handling of an item may ask while some items are to be reported. -/
inductive Minds (d : Dispatcher) (item : Item) : Dues → PollRequest → Prop
  | lookUp {owner : String} : Minds d item [] (.work (.isOwnerCancelled owner))
  | invoke {context : HandlerContext} : Minds d item [] (.invoke item context)
  | count {counter : Counter} {n : Nat} : Minds d item [] (.count counter n)
  | settle {settlement : Settlement} : d.Affords item settlement →
      Minds d item [] (.work (.settle item.id d.config.name settlement))
  | report {reason : String} : Minds d item [(item.id, some reason)] (.reportDead item reason)

/-- How the handling sees its surroundings: all that changes is what is to be reported. -/
def Owes (request : PollRequest) (_ : Dues) (answer : request.Answer) (dues : Dues) : Prop :=
  dues = request.due answer

/-- Whether a task keeps to the rule and leaves nothing to report. -/
abbrev MindsIn (d : Dispatcher) (item : Item) (dues : Dues) (t : PollTask Unit) : Prop :=
  t.Obeys Owes (d.Minds item) (fun _ later => later = []) dues

variable {d : Dispatcher} {item : Item} {dues : Dues}

/-- A handling reports what is to be reported. -/
theorem Minds.eq_report {request : PollRequest} (h : d.Minds item dues request) :
    dues = request.report := by
  cases h <;> rfl

/-- A handling settles its own item, as the policy allows. -/
theorem Minds.of_settle {id : ItemId} {claimer : String} {settlement : Settlement}
    (h : d.Minds item dues (.work (.settle id claimer settlement))) :
    id = item.id ∧ claimer = d.config.name ∧ d.Affords item settlement := by
  cases h with
  | settle haffords => exact ⟨rfl, rfl, haffords⟩

/-- A handling claims nothing. -/
theorem Minds.not_claim {queue : String} {now : Instant} {lease : Span} {batch : Nat}
    {claimer : String} : ¬ d.Minds item dues (.work (.claimDue queue now lease batch claimer)) := by
  intro h
  cases h

theorem mindsIn_done : d.MindsIn item [] (.done ()) := rfl

theorem mindsIn_ask {request : PollRequest} {next : request.Answer → PollTask Unit}
    (h : d.Minds item dues request)
    (hnext : ∀ answer, d.MindsIn item (request.due answer) (next answer)) :
    d.MindsIn item dues (.ask request next) := by
  refine Task.obeys_ask.mpr ⟨h, ?_⟩
  intro answer later hlater
  rw [show later = _ from hlater]
  exact hnext answer

theorem mindsIn_bind {t f : PollTask Unit} (h : d.MindsIn item dues t) (hf : d.MindsIn item [] f) :
    d.MindsIn item dues (t.bind fun _ => f) := by
  refine Task.obeys_bind.mpr (h.imp ?_)
  rintro _ _ rfl
  exact hf

/-! ## Settling -/

theorem affords_failureSettlement (d : Dispatcher) (item : Item) (reason : String) (now : Instant) :
    ∀ settlement ∈ (d.failureSettlement item reason now).2, d.Affords item settlement := by
  intro settlement hsettlement
  unfold failureSettlement at hsettlement
  simp only at hsettlement
  split at hsettlement
  · rename_i hallows
    exact fun _ _ _ => hallows
  · obtain rfl := Option.some.inj hsettlement
    exact fun _ _ h => nomatch h

/-- **The policy allows what becomes of an item.** -/
theorem affords_settlement (d : Dispatcher) (item : Item) (now : Instant) (run : HandlerRun) :
    ∀ settlement ∈ (d.settlement item now run).2, d.Affords item settlement := by
  intro settlement hsettlement
  match run with
  | .returned (.ok .done) =>
      obtain rfl := Option.some.inj hsettlement
      exact fun _ _ h => nomatch h
  | .returned (.ok (.rescheduleAt due)) =>
      obtain rfl := Option.some.inj hsettlement
      exact fun _ _ h => nomatch h
  | .returned (.ok .release) =>
      obtain rfl := Option.some.inj hsettlement
      exact fun _ _ h => nomatch h
  | .returned (.error (.permanent reason)) =>
      obtain rfl := Option.some.inj hsettlement
      exact fun _ _ h => nomatch h
  | .returned (.error (.transient reason)) =>
      exact d.affords_failureSettlement item reason now settlement hsettlement
  | .timedOut => exact d.affords_failureSettlement item _ now settlement hsettlement
  | .panicked => exact d.affords_failureSettlement item _ now settlement hsettlement

/-- A dead letter is reported once it is written, and nothing else is. -/
theorem settleWithin_minds {settlement : Settlement} (h : d.Affords item settlement) (tries : Nat) :
    d.MindsIn item [] (d.settleWithin item settlement tries) := by
  induction tries with
  | zero => exact mindsIn_done
  | succ tries ih =>
      refine mindsIn_ask (.settle h) fun answer => ?_
      rcases answer with e | _ | _
      · rw [PollRequest.due_settle (by rintro ⟨⟩)]
        refine mindsIn_ask .count fun _ => ?_
        simp only [Task.bind_done]
        split
        · exact ih
        · exact mindsIn_done
      · rw [PollRequest.due_settle (by rintro ⟨⟩)]
        exact mindsIn_ask .count fun _ => mindsIn_done
      · cases settlement with
        | deadLetter reason => exact mindsIn_ask .report fun _ => mindsIn_done
        | _ => exact mindsIn_done

theorem countAll_minds (counters : List Counter) : d.MindsIn item [] (countAll counters) := by
  induction counters with
  | nil => exact mindsIn_done
  | cons counter rest ih => exact mindsIn_ask .count fun _ => ih

/-- **Handlings keep to the rule and leave nothing to report.** -/
theorem process_minds (d : Dispatcher) (item : Item) (now : Instant) :
    d.MindsIn item [] (d.process item now) := by
  unfold process
  split
  · refine mindsIn_ask .lookUp fun answer => ?_
    cases answer with
    | error e => exact mindsIn_ask .count fun _ => mindsIn_done
    | ok closed =>
        refine mindsIn_ask .invoke fun run => mindsIn_bind (countAll_minds _) ?_
        have haffords := d.affords_settlement item now run
        split
        · rename_i settlement hsettlement
          exact settleWithin_minds (haffords settlement hsettlement) _
        · exact mindsIn_done
  · refine mindsIn_ask .count fun _ => ?_
    exact settleWithin_minds (by rintro _ _ ⟨⟩) _

end Dispatcher

end Dunning
