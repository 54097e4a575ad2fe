import Dunning.Database.RetryAttempts
import Dunning.Proofs.Database.Columns

/-!
# Attempts and their rows

An attempt is written into ten columns and read back by their names. Numbers that do not fit their
columns are refused before anything is sent. Reading a row that holds what was bound gives the attempt
again, with its times cut to whole microseconds, and a row that no attempt can have written is refused.

## Main definitions

* `Attempt.CutTo` — attempts that are equal but for cut times.
* `RetryAttempts.Describes` — the row of an attempt, column by column.
* `RetryAttempts.Fits` — the numbers of an attempt fit their columns.
* `RetryAttempts.Malformed` — a row with a negative number or an unknown name.

## Main results

* `RetryAttempts.readAttempt_eq_ok_iff` — reading a row finds the attempt that it describes, and nothing
  else.
* `RetryAttempts.insert_refuses_iff` — attempts that do not fit are refused.
* `RetryAttempts.insert_of_fits` — the others are sent and come back.
* `RetryAttempts.Describes.not_malformed` — no malformed row describes an attempt.
-/

namespace Dunning

/-- Attempts that are equal but for times that are cut. -/
structure Attempt.CutTo (a b : Attempt) : Prop where
  scheduledFor : a.scheduledFor.CutTo b.scheduledFor
  updatedAt : a.updatedAt.CutTo b.updatedAt
  rest : b = { a with scheduledFor := b.scheduledFor, updatedAt := b.updatedAt }

/-- An attempt comes back as it was exactly when its times do. -/
theorem Attempt.cutTo_self_iff {a : Attempt} :
    a.CutTo a ↔ a.scheduledFor.OnMicro ∧ a.updatedAt.OnMicro := by
  constructor
  · intro h
    exact ⟨Instant.cutTo_self_iff.mp h.scheduledFor, Instant.cutTo_self_iff.mp h.updatedAt⟩
  · rintro ⟨hscheduled, hupdated⟩
    exact ⟨Instant.cutTo_self_iff.mpr hscheduled, Instant.cutTo_self_iff.mpr hupdated, rfl⟩

/-- An attempt comes back exactly when its times do. -/
theorem Attempt.exists_cutTo_iff {a : Attempt} :
    (∃ b, a.CutTo b) ↔ a.scheduledFor ≤ .last ∧ a.updatedAt ≤ .last := by
  rw [← Instant.exists_cutTo_iff, ← Instant.exists_cutTo_iff]
  constructor
  · rintro ⟨b, h⟩
    exact ⟨⟨_, h.scheduledFor⟩, ⟨_, h.updatedAt⟩⟩
  · rintro ⟨⟨scheduledFor, hscheduled⟩, updatedAt, hupdated⟩
    exact ⟨{ a with scheduledFor, updatedAt }, hscheduled, hupdated, rfl⟩

theorem AttemptOutcome.parse?_eq_some_iff {name : String} {o : AttemptOutcome} :
    parse? name = some o ↔ name = o.name := by
  constructor
  · intro h
    unfold parse? at h
    split at h <;> cases h <;> rfl
  · rintro rfl
    exact parse?_name o

theorem PaymentFailure.parse?_eq_some_iff {name : String} {f : PaymentFailure} :
    parse? name = some f ↔ name = f.name := by
  constructor
  · intro h
    unfold parse? at h
    split at h <;> cases h <;> rfl
  · rintro rfl
    exact parse?_name f

namespace Database.RetryAttempts

variable {row : Row} {field : String} {a b : Attempt} {args : List Cell}

/-! ## Numbers and their columns -/

theorem toInt4_eq_ok_iff {n : UInt32} {k : Int32} : toInt4 field n = .ok k ↔ IsNumber k n := by
  have hk := k.toInt_lt
  unfold toInt4 IsNumber
  split
  · rename_i hlt
    have hof : (Int32.ofNat n.toNat).toInt = n.toNat := Int32.toInt_ofNat_of_lt hlt
    rw [Except.ok.injEq, ← Int32.toInt_inj, hof, eq_comm]
  · simp only [reduceCtorEq, false_iff]
    omega

theorem toInt8_eq_ok_iff {n : UInt64} {k : Int64} : toInt8 field n = .ok k ↔ IsAmount k n := by
  have hk := k.toInt_lt
  unfold toInt8 IsAmount
  split
  · rename_i hlt
    have hof : (Int64.ofNat n.toNat).toInt = n.toNat := Int64.toInt_ofNat_of_lt hlt
    rw [Except.ok.injEq, ← Int64.toInt_inj, hof, eq_comm]
  · simp only [reduceCtorEq, false_iff]
    omega

theorem toInt8?_eq_ok_iff {n : Option UInt64} {k : Option Int64} :
    toInt8? field n = .ok k ↔ Option.Rel IsAmount k n := by
  cases n with
  | none => cases k <;> simp [toInt8?]
  | some n => cases k <;> simp [toInt8?, map_eq_ok_iff, toInt8_eq_ok_iff]

theorem ofInt4_eq_ok_iff {n : Int32} {k : UInt32} : ofInt4 field n = .ok k ↔ IsNumber n k := by
  have hn := n.toInt_lt
  unfold ofInt4 IsNumber
  split
  · simp only [reduceCtorEq, false_iff]
    omega
  · have hlt : n.toInt.toNat < 4294967296 := by omega
    have hof : (UInt32.ofNat n.toInt.toNat).toNat = n.toInt.toNat :=
      UInt32.toNat_ofNat_of_lt' hlt
    rw [Except.ok.injEq, ← UInt32.toNat_inj, hof]
    omega

theorem ofInt8_eq_ok_iff {n : Int64} {k : UInt64} : ofInt8 field n = .ok k ↔ IsAmount n k := by
  have hn := n.toInt_lt
  unfold ofInt8 IsAmount
  split
  · simp only [reduceCtorEq, false_iff]
    omega
  · have hlt : n.toInt.toNat < 18446744073709551616 := by omega
    have hof : (UInt64.ofNat n.toInt.toNat).toNat = n.toInt.toNat :=
      UInt64.toNat_ofNat_of_lt' hlt
    rw [Except.ok.injEq, ← UInt64.toNat_inj, hof]
    omega

theorem ofInt8?_eq_ok_iff {n : Option Int64} {k : Option UInt64} :
    ofInt8? field n = .ok k ↔ Option.Rel IsAmount n k := by
  cases n with
  | none => cases k <;> simp [ofInt8?]
  | some n => cases k <;> simp [ofInt8?, map_eq_ok_iff, ofInt8_eq_ok_iff]

/-! ## Reading -/

/-- The row of an attempt, column by column. -/
structure Describes (row : Row) (a : Attempt) : Prop where
  id : row.lookup "id" = some (.ofUuid a.id)
  payment : row.lookup "payment_id" = some (.ofUuid a.payment.uuid)
  account : row.lookup "account_id" = some (.ofUuid a.account.uuid)
  number : HoldsAs row "attempt_number" .int4 IsNumber a.number
  scheduledFor : HoldsTime row "scheduled_for" a.scheduledFor
  outcome : row.lookup "outcome" = some (.ofText a.outcome.name)
  amount : HoldsAs row "amount" .int8 IsAmount a.amount
  adjusted : HoldsAs? row "adjusted_amount" .int8 IsAmount a.adjusted
  failure : row.lookup "failure" = some ((a.failure.map PaymentFailure.name).map .text)
  updatedAt : HoldsTime row "updated_at" a.updatedAt

theorem outcomeOf_eq_ok_iff {name : String} {o : AttemptOutcome} :
    outcomeOf name = .ok o ↔ name = o.name := by
  rw [← AttemptOutcome.parse?_eq_some_iff]
  unfold outcomeOf
  cases AttemptOutcome.parse? name <;> simp

theorem failureOf_eq_ok_iff {name : Option String} {f : Option PaymentFailure} :
    failureOf name = .ok f ↔ name = f.map PaymentFailure.name := by
  unfold failureOf
  cases name with
  | none => cases f <;> simp
  | some name =>
      cases f with
      | none => cases hparse : PaymentFailure.parse? name <;> simp [hparse]
      | some f =>
          rw [Option.map_some, Option.some.injEq, ← PaymentFailure.parse?_eq_some_iff]
          cases hparse : PaymentFailure.parse? name <;> simp [hparse]

/-- **Reading a row finds the attempt that the row describes, and nothing else.** -/
theorem readAttempt_eq_ok_iff : readAttempt row = .ok a ↔ Describes row a := by
  have hsplit : readAttempt row = .ok a ↔
      ∃ raw, readRaw row = .ok raw ∧ understand raw = .ok a := by
    unfold readAttempt
    cases hraw : readRaw row <;> simp [stored]
  rw [hsplit]
  unfold readRaw understand
  simp only [bind_eq_ok_iff, required_iff readsBack_uuid, required_iff readsBack_text,
    required_iff readsBack_int4, required_iff readsBack_int8, optional_iff readsBack_text,
    optional_iff readsBack_int8, required_eq_ok_iff, outcomeOf_eq_ok_iff, failureOf_eq_ok_iff,
    ofInt4_eq_ok_iff, ofInt8_eq_ok_iff, ofInt8?_eq_ok_iff]
  constructor
  · rintro ⟨raw, ⟨id, hid, payment, hpayment, account, haccount, number, hnumber, scheduledFor,
      hscheduled, outcome, houtcome, amount, hamount, adjusted, hadjusted, failure, hfailure,
      updatedAt, hupdated, hraw⟩, outcome', hname, failure', hfault, number', hnumber', amount',
      hamount', adjusted', hadjusted', ha⟩
    obtain rfl := Except.ok.inj hraw
    obtain rfl := Except.ok.inj ha
    simp only at hname hfault hnumber' hamount' hadjusted'
    subst hname hfault
    exact {
      id := hid
      payment := hpayment
      account := haccount
      number := ⟨number, hnumber, hnumber'⟩
      scheduledFor := hscheduled
      outcome := houtcome
      amount := ⟨amount, hamount, hamount'⟩
      adjusted := ⟨adjusted, hadjusted, hadjusted'⟩
      failure := hfailure
      updatedAt := hupdated }
  · intro h
    obtain ⟨number, hnumber, hnumber'⟩ := h.number
    obtain ⟨amount, hamount, hamount'⟩ := h.amount
    obtain ⟨adjusted, hadjusted, hadjusted'⟩ := h.adjusted
    exact ⟨_, ⟨_, h.id, _, h.payment, _, h.account, number, hnumber, _, h.scheduledFor, _, h.outcome,
      amount, hamount, adjusted, hadjusted, _, h.failure, _, h.updatedAt, rfl⟩, _, rfl, _, rfl, _,
      hnumber', _, hamount', _, hadjusted', rfl⟩

/-- A row describes at most one attempt. -/
theorem Describes.unique (h : Describes row a) (h' : Describes row b) : b = a :=
  Except.ok.inj ((readAttempt_eq_ok_iff.mpr h').symm.trans (readAttempt_eq_ok_iff.mpr h))

/-! ## Writing -/

/-- The columns of an attempt. -/
def columnNames : List String :=
  ["id", "payment_id", "account_id", "attempt_number", "scheduled_for", "outcome", "amount",
    "adjusted_amount", "failure", "updated_at"]

theorem insertText_eq : insertText = insertion "retry_attempts" columnNames := by
  decide +kernel

/-- The look-ups select the same columns. -/
theorem columns_eq : columns = listed columnNames := by
  decide +kernel

/-- Whether the numbers of an attempt fit their columns. -/
structure Fits (a : Attempt) : Prop where
  number : a.number.toNat ≤ 2147483647
  amount : a.amount.toNat ≤ 9223372036854775807
  adjusted : ∀ n ∈ a.adjusted, n.toNat ≤ 9223372036854775807

/-- The arguments of an insertion, with the numbers as their columns take them. -/
def boundAs (a : Attempt) (number : Int32) (amount : Int64) (adjusted : Option Int64) : List Cell :=
  [.ofUuid a.id, .ofUuid a.payment.uuid, .ofUuid a.account.uuid, some (.int4 number),
    .ofInstant a.scheduledFor, .ofText a.outcome.name, some (.int8 amount), adjusted.map .int8,
    (a.failure.map PaymentFailure.name).map .text, .ofInstant a.updatedAt]

theorem insertValues_eq_ok_iff : insertValues a = .ok args ↔
    ∃ number, IsNumber number a.number ∧ ∃ amount, IsAmount amount a.amount ∧
      ∃ adjusted, Option.Rel IsAmount adjusted a.adjusted ∧
        boundAs a number amount adjusted = args := by
  unfold insertValues
  simp only [bind_eq_ok_iff, toInt4_eq_ok_iff, toInt8_eq_ok_iff, toInt8?_eq_ok_iff]
  simp [pure, Except.pure, boundAs, Function.comp_def]

/-- The numbers of an attempt fit exactly when there are arguments. -/
theorem exists_insertValues_iff : (∃ args, insertValues a = .ok args) ↔ Fits a := by
  have hamount {n : UInt64} (hn : n.toNat ≤ 9223372036854775807) : ∃ k, IsAmount k n :=
    ⟨Int64.ofNat n.toNat, Int64.toInt_ofNat_of_lt (by omega)⟩
  have hbound {k : Int64} {n : UInt64} (h : IsAmount k n) : n.toNat ≤ 9223372036854775807 := by
    have hk := k.toInt_lt
    unfold IsAmount at h
    omega
  simp only [insertValues_eq_ok_iff]
  constructor
  · rintro ⟨_, number, hnumber, amount, hamountOf, adjusted, hadjusted, -⟩
    have hlt := number.toInt_lt
    unfold IsNumber at hnumber
    refine ⟨by omega, hbound hamountOf, ?_⟩
    intro n hn
    rw [show a.adjusted = some n from hn] at hadjusted
    cases hadjusted with
    | some hk => exact hbound hk
  · intro h
    obtain ⟨amount, hamountOf⟩ := hamount h.amount
    have hnumber : IsNumber (Int32.ofNat a.number.toNat) a.number :=
      Int32.toInt_ofNat_of_lt (Nat.lt_of_le_of_lt h.number (by decide))
    have hadjusted : ∃ adjusted, Option.Rel IsAmount adjusted a.adjusted := by
      cases hvalue : a.adjusted with
      | none => exact ⟨none, .none⟩
      | some n =>
          obtain ⟨k, hk⟩ := hamount (h.adjusted n hvalue)
          exact ⟨some k, .some hk⟩
    obtain ⟨adjusted, hadjustedOf⟩ := hadjusted
    exact ⟨_, _, hnumber, amount, hamountOf, adjusted, hadjustedOf, rfl⟩

theorem fault_of_toInt4 {n : UInt32} {e : StoreError} (h : toInt4 field n = .error e) :
    e.fault = .serialization := by
  unfold toInt4 at h
  split at h
  · cases h
  · obtain rfl := Except.error.inj h
    rfl

theorem fault_of_toInt8 {n : UInt64} {e : StoreError} (h : toInt8 field n = .error e) :
    e.fault = .serialization := by
  unfold toInt8 at h
  split at h
  · cases h
  · obtain rfl := Except.error.inj h
    rfl

theorem fault_of_toInt8? {n : Option UInt64} {e : StoreError} (h : toInt8? field n = .error e) :
    e.fault = .serialization := by
  cases n with
  | none => cases h
  | some n =>
      rw [toInt8?] at h
      cases hread : toInt8 field n with
      | ok k =>
          rw [hread] at h
          cases h
      | error other =>
          rw [hread] at h
          obtain rfl := Except.error.inj h
          exact fault_of_toInt8 hread

/-- What does not fit is refused as unreadable. -/
theorem fault_of_insertValues {e : StoreError} (h : insertValues a = .error e) :
    e.fault = .serialization := by
  unfold insertValues at h
  rcases bind_eq_error_iff.mp h with hnumber | ⟨number, -, h⟩
  · exact fault_of_toInt4 hnumber
  rcases bind_eq_error_iff.mp h with hamount | ⟨amount, -, h⟩
  · exact fault_of_toInt8 hamount
  rcases bind_eq_error_iff.mp h with hadjusted | ⟨adjusted, -, h⟩
  · exact fault_of_toInt8? hadjusted
  · cases h

/-- **A row that holds what was bound describes the attempt with its times cut.** -/
theorem describes_iff_cutTo (hargs : insertValues a = .ok args)
    (holds : row.Holds columnNames args) : Describes row b ↔ a.CutTo b := by
  obtain ⟨number, hnumber, amount, hamount, adjusted, hadjusted, rfl⟩ :=
    insertValues_eq_ok_iff.mp hargs
  simp only [Row.Holds, columnNames, boundAs, List.forall₂_cons] at holds
  obtain ⟨hid, hpayment, haccount, hnumberCell, hscheduled, houtcome, hamountCell, hadjustedCell,
    hfailure, hupdated, -⟩ := holds
  have hcut {scheduledFor updatedAt : Instant} (hs : a.scheduledFor.CutTo scheduledFor)
      (hu : a.updatedAt.CutTo updatedAt) : Describes row { a with scheduledFor, updatedAt } :=
    { id := hid
      payment := hpayment
      account := haccount
      number := ⟨number, hnumberCell, hnumber⟩
      scheduledFor := (holdsTime_iff hscheduled).mpr hs
      outcome := houtcome
      amount := ⟨amount, hamountCell, hamount⟩
      adjusted := ⟨adjusted, hadjustedCell, hadjusted⟩
      failure := hfailure
      updatedAt := (holdsTime_iff hupdated).mpr hu }
  constructor
  · intro h
    have hs := (holdsTime_iff hscheduled).mp h.scheduledFor
    have hu := (holdsTime_iff hupdated).mp h.updatedAt
    exact ⟨hs, hu, (hcut hs hu).unique h⟩
  · intro h
    rw [h.rest]
    exact hcut h.scheduledFor h.updatedAt

/-- An attempt that fits is sent, and comes back with its times cut. -/
theorem insert_of_fits (fits : Fits a) :
    ∃ args, Session.Sends (insert a) ⟨insertion "retry_attempts" columnNames, args⟩ ∧
      columnNames.length = args.length ∧
      ∀ row : Row, row.Holds columnNames args → ∀ b, readAttempt row = .ok b ↔ a.CutTo b := by
  obtain ⟨args, hargs⟩ := exists_insertValues_iff.mpr fits
  refine ⟨args, ?_, ?_, ?_⟩
  · unfold insert
    rw [hargs, ← insertText_eq]
    exact ⟨_, rfl⟩
  · obtain ⟨number, -, amount, -, adjusted, -, rfl⟩ := insertValues_eq_ok_iff.mp hargs
    rfl
  · intro row holds b
    rw [readAttempt_eq_ok_iff, describes_iff_cutTo hargs holds]

/-- An attempt that does not fit is refused, and nothing is sent. -/
theorem insert_refuses_iff :
    (∃ e, insert a = .done (.error e) ∧ e.fault = .serialization) ↔ ¬ Fits a := by
  constructor
  · rintro ⟨e, hrefused, -⟩ fits
    obtain ⟨args, ⟨next, hsends⟩, -⟩ := insert_of_fits fits
    rw [hrefused] at hsends
    cases hsends
  · intro hover
    cases hargs : insertValues a with
    | ok args => exact absurd (exists_insertValues_iff.mp ⟨args, hargs⟩) hover
    | error e =>
        refine ⟨e, ?_, fault_of_insertValues hargs⟩
        unfold insert
        rw [hargs]
        rfl

theorem not_fits_iff : ¬ Fits a ↔ 2147483647 < a.number.toNat ∨
    9223372036854775807 < a.amount.toNat ∨ ∃ n ∈ a.adjusted, 9223372036854775807 < n.toNat := by
  constructor
  · intro hover
    by_contra hnone
    refine hover ⟨?_, ?_, ?_⟩
    · exact Nat.not_lt.mp fun h => hnone (.inl h)
    · exact Nat.not_lt.mp fun h => hnone (.inr (.inl h))
    · exact fun n hn => Nat.not_lt.mp fun h => hnone (.inr (.inr ⟨n, hn, h⟩))
  · rintro (h | h | ⟨n, hn, h⟩) fits
    · exact absurd fits.number (Nat.not_le.mpr h)
    · exact absurd fits.amount (Nat.not_le.mpr h)
    · exact absurd (fits.adjusted n hn) (Nat.not_le.mpr h)

/-- A row that no attempt has: with a negative number or with an unknown name. -/
inductive Malformed (row : Row) : Prop where
  | number {n : Int32} : row.lookup "attempt_number" = some (some (.int4 n)) → n.toInt < 0 →
      Malformed row
  | amount {n : Int64} : row.lookup "amount" = some (some (.int8 n)) → n.toInt < 0 → Malformed row
  | adjusted {n : Int64} : row.lookup "adjusted_amount" = some (some (.int8 n)) → n.toInt < 0 →
      Malformed row
  | outcome {name : String} : row.lookup "outcome" = some (some (.text name)) →
      (∀ o : AttemptOutcome, o.name ≠ name) → Malformed row
  | failure {name : String} : row.lookup "failure" = some (some (.text name)) →
      (∀ f : PaymentFailure, f.name ≠ name) → Malformed row

/-- A row that describes an attempt is not malformed. -/
theorem Describes.not_malformed (h : Describes row a) : ¬ Malformed row := by
  intro hmalformed
  cases hmalformed with
  | number hcell hneg =>
      obtain ⟨k, hk, hvalue⟩ := h.number
      obtain rfl : k = _ := by simpa [hk] using hcell
      unfold IsNumber at hvalue
      omega
  | amount hcell hneg =>
      obtain ⟨k, hk, hvalue⟩ := h.amount
      obtain rfl : k = _ := by simpa [hk] using hcell
      unfold IsAmount at hvalue
      omega
  | adjusted hcell hneg =>
      obtain ⟨k, hk, hvalue⟩ := h.adjusted
      obtain rfl : k = some _ := by simpa [hk] using hcell
      cases hadjusted : a.adjusted with
      | none =>
          rw [hadjusted] at hvalue
          cases hvalue
      | some n =>
          rw [hadjusted] at hvalue
          cases hvalue with
          | some hvalue =>
              unfold IsAmount at hvalue
              omega
  | outcome hcell hunknown =>
      exact hunknown a.outcome (by simpa [Cell.ofText] using h.outcome.symm.trans hcell)
  | failure hcell hunknown =>
      have hname := h.failure.symm.trans hcell
      cases hfailure : a.failure with
      | none => simp [hfailure] at hname
      | some f => exact hunknown f (by simpa [hfailure] using hname)

end Database.RetryAttempts

end Dunning
