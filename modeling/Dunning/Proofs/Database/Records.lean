import Dunning.Proofs.Database.Attempts
import Dunning.Proofs.Database.States

/-!
# Records come back from the database

Attempts and overdue states that are written are read back as they were, provided that the database
returns the values that were bound. Columns keep times in whole microseconds, so this holds of the times
of a record exactly when they are whole microseconds outside leap seconds.

## Main results

* `rows_round_trip` — both kinds of records come back, whatever they are.
* `row_is_cut` — a time between two microseconds does not.
-/

namespace Dunning.Database

/-- **Rows round-trip.** The look-ups select the columns that the writes fill. An attempt is refused
as unreadable, and nothing is sent, exactly when its number or one of its amounts does not fit;
otherwise the row that holds what was bound reads as the attempt with its times cut to whole
microseconds, and as nothing else. The same holds of every state whose versions fit, however it is
written. A row with a negative number or an unknown name reads as no attempt. Records come back as they
were exactly when their times are whole microseconds outside leap seconds, and they come back at all
unless a time is beyond the last moment of the calendar. -/
theorem rows_round_trip :
    RetryAttempts.columns = listed RetryAttempts.columnNames ∧
    (∀ account, (OverdueStates.getStatement account).text = OverdueStates.readText) ∧
    (∀ a : Attempt,
      ((∃ e, RetryAttempts.insert a = .done (.error e) ∧ e.fault = .serialization) ↔
        2147483647 < a.number.toNat ∨ 9223372036854775807 < a.amount.toNat ∨
          ∃ n ∈ a.adjusted, 9223372036854775807 < n.toNat) ∧
      ((∃ e, RetryAttempts.insert a = .done (.error e) ∧ e.fault = .serialization) ∨
        ∃ args,
          Session.Sends (RetryAttempts.insert a)
            ⟨insertion "retry_attempts" RetryAttempts.columnNames, args⟩ ∧
          Row.Holds (RetryAttempts.columnNames.zip args) RetryAttempts.columnNames args ∧
          ∀ row : Row, row.Holds RetryAttempts.columnNames args →
            ∀ b, RetryAttempts.readAttempt row = .ok b ↔ a.CutTo b)) ∧
    (∀ (s : OverdueState) (expected : Expected), s.version.toNat < 9223372036854775808 →
      s.setVersion.toNat < 9223372036854775808 →
        ∃ args,
          Session.Sends (OverdueStates.save s expected) ⟨OverdueStates.writeText expected, args⟩ ∧
          Row.Holds (OverdueStates.columnNames.zip (args.take OverdueStates.columnNames.length))
            OverdueStates.columnNames (args.take OverdueStates.columnNames.length) ∧
          ∀ row : Row,
            row.Holds OverdueStates.columnNames (args.take OverdueStates.columnNames.length) →
              ∀ t, OverdueStates.readState row = .ok t ↔ s.CutTo t) ∧
    (∀ row, RetryAttempts.Malformed row → ∀ a, RetryAttempts.readAttempt row ≠ .ok a) ∧
    (∀ a : Attempt, (a.CutTo a ↔ a.scheduledFor.OnMicro ∧ a.updatedAt.OnMicro) ∧
      ((∃ b, a.CutTo b) ↔ a.scheduledFor ≤ .last ∧ a.updatedAt ≤ .last)) ∧
    ∀ s : OverdueState, (s.CutTo s ↔ ∀ t ∈ s.lastTransitionAt, t.OnMicro) ∧
      ((∃ t, s.CutTo t) ↔ ∀ t ∈ s.lastTransitionAt, t ≤ .last) := by
  refine ⟨RetryAttempts.columns_eq, OverdueStates.getStatement_text, fun a => ⟨?_, ?_⟩, ?_, ?_, ?_,
    ?_⟩
  · rw [RetryAttempts.insert_refuses_iff, RetryAttempts.not_fits_iff]
  · by_cases fits : RetryAttempts.Fits a
    · obtain ⟨args, hsends, hlength, hread⟩ := RetryAttempts.insert_of_fits fits
      exact .inr ⟨args, hsends, Row.holds_zip (by decide) hlength, hread⟩
    · exact .inl (RetryAttempts.insert_refuses_iff.mpr fits)
  · intro s expected hversion hset
    obtain ⟨args, hsends, hlength, hread⟩ := OverdueStates.save_of_fits hversion hset expected
    refine ⟨args, hsends, Row.holds_zip (by decide) ?_, hread⟩
    rw [List.length_take, Nat.min_eq_left hlength]
  · intro row hmalformed a hread
    exact (RetryAttempts.readAttempt_eq_ok_iff.mp hread).not_malformed hmalformed
  · exact fun a => ⟨Attempt.cutTo_self_iff, Attempt.exists_cutTo_iff⟩
  · exact fun s => ⟨OverdueState.cutTo_self_iff, OverdueState.exists_cutTo_iff⟩

/-! ## An attempt on a microsecond and one beside it -/

/-- The start of 2024. -/
def yearStart : Instant := (Instant.ofNanos? 1704067200000000000).getD .first

/-- An attempt that is due some nanoseconds after the start of 2024. -/
def attemptDue (nanos : Nat) : Attempt where
  id := Uuid.ofNat 1
  payment := ⟨Uuid.ofNat 2⟩
  account := ⟨Uuid.ofNat 3⟩
  number := 2
  scheduledFor := (Instant.ofNanos? (1704067200000000000 + nanos)).getD .first
  outcome := .pending
  amount := 10000
  adjusted := none
  failure := none
  updatedAt := yearStart

/-- What is bound for the attempt of the start of 2024. -/
def yearStartArgs : List Cell :=
  RetryAttempts.boundAs (attemptDue 0) 2 10000 none

/-- The state of an account since the start of 2024. -/
def stateSince : OverdueState where
  account := ⟨Uuid.ofNat 3⟩
  stateName := "OD1"
  setVersion := 1
  blocked := {}
  lastTransitionAt := some yearStart
  version := 7

/-- The row of that attempt with a negative number. -/
def negativeRow : Row :=
  RetryAttempts.columnNames.zip (RetryAttempts.boundAs (attemptDue 0) (-1) 10000 none)

/-- An attempt and a state with times on a microsecond come back; a negative number is refused. -/
theorem rows_round_trip_yearStart :
    (∃ args,
      Session.Sends (RetryAttempts.insert (attemptDue 0))
        ⟨insertion "retry_attempts" RetryAttempts.columnNames, args⟩ ∧
      RetryAttempts.readAttempt (RetryAttempts.columnNames.zip args) = .ok (attemptDue 0)) ∧
    stateSince.version.toNat < 9223372036854775808 ∧
    stateSince.setVersion.toNat < 9223372036854775808 ∧
    (∃ args,
      Session.Sends (OverdueStates.save stateSince (.exact 6))
        ⟨OverdueStates.writeText (.exact 6), args⟩ ∧
      OverdueStates.readState
        (OverdueStates.columnNames.zip (args.take OverdueStates.columnNames.length)) =
          .ok stateSince) ∧
    RetryAttempts.Malformed negativeRow ∧
    RetryAttempts.readAttempt negativeRow ≠ .ok (attemptDue 0) := by
  have honMicro : yearStart.OnMicro := ⟨by decide, by decide⟩
  have hnegative : RetryAttempts.Malformed negativeRow := .number rfl (by decide)
  have hversion : stateSince.version.toNat < 9223372036854775808 := by decide
  have hset : stateSince.setVersion.toNat < 9223372036854775808 := by decide
  obtain ⟨-, -, hattempts, hstates, hmalformed, hattempt, hstate⟩ := rows_round_trip
  refine ⟨?_, hversion, hset, ?_, hnegative, hmalformed negativeRow hnegative _⟩
  · obtain ⟨hrefuses, hrefused | ⟨args, hsends, holds, hread⟩⟩ := hattempts (attemptDue 0)
    · exact absurd (hrefuses.mp hrefused) (by decide)
    · have hself : (attemptDue 0).CutTo (attemptDue 0) := (hattempt _).1.mpr ⟨honMicro, honMicro⟩
      exact ⟨args, hsends, (hread _ holds _).mpr hself⟩
  · obtain ⟨args, hsends, holds, hread⟩ := hstates stateSince (.exact 6) hversion hset
    have hself : stateSince.CutTo stateSince := by
      refine (hstate stateSince).1.mpr ?_
      intro t ht
      obtain rfl : yearStart = t := Option.some.inj ht
      exact honMicro
    exact ⟨args, hsends, (hread _ holds _).mpr hself⟩

/-- **A time between two microseconds does not come back.** The attempt that is due one nanosecond
after the start of 2024 is bound like the one that is due at the start, and comes back as that one. -/
theorem row_is_cut :
    Session.Sends (RetryAttempts.insert (attemptDue 1))
        ⟨insertion "retry_attempts" RetryAttempts.columnNames, yearStartArgs⟩ ∧
      Row.Holds (RetryAttempts.columnNames.zip yearStartArgs) RetryAttempts.columnNames
        yearStartArgs ∧
      RetryAttempts.readAttempt (RetryAttempts.columnNames.zip yearStartArgs) =
        .ok (attemptDue 0) ∧
      attemptDue 0 ≠ attemptDue 1 := by
  refine ⟨?_, Row.holds_zip (by decide) rfl, rfl, by decide⟩
  rw [← RetryAttempts.insertText_eq]
  exact ⟨_, rfl⟩

end Dunning.Database
