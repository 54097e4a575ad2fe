import Dunning.Proofs.Time.Timestamp
import Dunning.Proofs.Wire.Ident
import Dunning.Proofs.Wire.Record
import Dunning.Work.Payload

/-!
# Payloads are read back

The handler finds out from the payload what an item is about, and the controller looks there for an
item that is there already. Both read what was written.

## Main results

* `RefreshPayload.decode?_toJson`, `BillingDatePayload.decode?_toJson` — the payloads of looks and of
  billing dates are read back.
* `RetryPayload.decode?_scheduledRetry` — the payload of a scheduled attempt is read back.
* `RetryPayload.decode?_initialFailure` — so is that of a first failure, and it is never taken for
  the other.
-/

namespace Dunning

/-! ## Looks and billing dates -/

@[simp] theorem RefreshPayload.decode?_toJson (p : RefreshPayload) :
    decode? p.toJson.toNode = some p := by
  have hnames : [("reason", Json.string p.reason)].map Prod.fst = ["reason"] := rfl
  have hentries : shape.entries? _ = _ :=
    Shape.entries?_object (by rw [hnames]; decide) (by rw [hnames]; decide)
  rw [decode?, toJson, Json.toNode_object, hentries]
  simp [Entries.withDefault, Entries.find?, Node.string?]

@[simp] theorem BillingDatePayload.decode?_toJson (p : BillingDatePayload) :
    decode? p.toJson.toNode = some p := by
  have hnames : [("target_date", p.targetDate.toJson)].map Prod.fst = ["target_date"] := rfl
  have hentries : shape.entries? _ = _ :=
    Shape.entries?_object (by rw [hnames]; decide) (by rw [hnames]; decide)
  rw [decode?, toJson, Json.toNode_object, hentries]
  simp

/-! ## Payment attempts -/

/-- A written failure is read as a field of a record. -/
@[simp] theorem PaymentFailure.variant?_toJson (f : PaymentFailure) (tagged : Bool) :
    f.toJson.toNode.variant? parse? tagged = some f := by
  rw [toJson, Json.toNode_string, Node.variant?, parse?_name]

theorem PaymentFailure.decode?_toJson (f : PaymentFailure) : decode? f.toJson.toNode = some f :=
  f.variant?_toJson false

namespace RetryPayload

/-- The fields of a scheduled attempt beside its tag, as written. -/
private def scheduledFields (payment : PaymentId) (account : AccountId) (number : UInt32)
    (amount : UInt64) : List (String × Json) :=
  [("payment_id", payment.toJson), ("account_id", account.toJson),
   ("attempt_number", .nat number.toNat), ("amount", .nat amount.toNat)]

private theorem isScalar_scheduledFields (payment : PaymentId) (account : AccountId)
    (number : UInt32) (amount : UInt64) :
    ∀ f ∈ scheduledFields payment account number amount, f.2.IsScalar := by
  have hnumber := number.toNat_lt
  have hamount := amount.toNat_lt
  intro f hf
  simp only [scheduledFields, List.mem_cons, List.not_mem_nil, or_false] at hf
  rcases hf with rfl | rfl | rfl | rfl
  · trivial
  · trivial
  · exact Json.isScalar_nat (by omega)
  · exact Json.isScalar_nat hamount

/-- **The payload of a scheduled attempt is read back.** -/
@[simp] theorem decode?_scheduledRetry (payment : PaymentId) (account : AccountId)
    (number : UInt32) (amount : UInt64) :
    decode? (scheduledRetry payment account number amount).toJson.toNode =
      some (.scheduledRetry payment account number amount) := by
  have hnames : (scheduledFields payment account number amount).map Prod.fst =
      ["payment_id", "account_id", "attempt_number", "amount"] := rfl
  have hentries : scheduledShape.entries? _ = _ :=
    Shape.entries?_object (by rw [hnames]; decide) (by rw [hnames]; decide)
  have htagged := Node.tagged?_object "kind" "scheduled_retry"
    (isScalar_scheduledFields payment account number amount) (by rw [hnames]; decide)
  have hjson : (scheduledRetry payment account number amount).toJson =
      .object (("kind", .string "scheduled_retry") ::
        scheduledFields payment account number amount) := by
    rw [toJson, scheduledFields]
  rw [decode?, hjson, htagged]
  simp only [decodeKind?, hentries]
  simp [scheduledFields]

/-- The fields of a first failure beside its tag, as written. -/
private def initialFields (payment : PaymentId) (account : AccountId) (amount : UInt64)
    (failure : PaymentFailure) (failedAt : Instant) : List (String × Json) :=
  [("payment_id", payment.toJson), ("account_id", account.toJson), ("amount", .nat amount.toNat),
   ("failure", failure.toJson), ("failed_at", failedAt.toJson)]

private theorem isScalar_initialFields (payment : PaymentId) (account : AccountId)
    (amount : UInt64) (failure : PaymentFailure) (failedAt : Instant) :
    ∀ f ∈ initialFields payment account amount failure failedAt, f.2.IsScalar := by
  have hamount := amount.toNat_lt
  intro f hf
  simp only [initialFields, List.mem_cons, List.not_mem_nil, or_false] at hf
  rcases hf with rfl | rfl | rfl | rfl | rfl
  · trivial
  · trivial
  · exact Json.isScalar_nat hamount
  · trivial
  · trivial

/-- **The payload of a first failure is read back.** -/
@[simp] theorem decode?_initialFailure (payment : PaymentId) (account : AccountId)
    (amount : UInt64) (failure : PaymentFailure) (failedAt : Instant) :
    decode? (initialFailure payment account amount failure failedAt).toJson.toNode =
      some (.initialFailure payment account amount failure failedAt) := by
  have hnames : (initialFields payment account amount failure failedAt).map Prod.fst =
      ["payment_id", "account_id", "amount", "failure", "failed_at"] := rfl
  have hentries : initialShape.entries? _ = _ :=
    Shape.entries?_object (by rw [hnames]; decide) (by rw [hnames]; decide)
  have htagged := Node.tagged?_object "kind" "initial_failure"
    (isScalar_initialFields payment account amount failure failedAt) (by rw [hnames]; decide)
  have hjson : (initialFailure payment account amount failure failedAt).toJson =
      .object (("kind", .string "initial_failure") ::
        initialFields payment account amount failure failedAt) := by
    rw [toJson, initialFields]
  rw [decode?, hjson, htagged]
  simp only [decodeKind?, hentries]
  simp [initialFields]

/-- The payload of a first failure is never taken for that of a scheduled attempt. -/
theorem decode?_initialFailure_ne (payment : PaymentId) (account : AccountId) (amount : UInt64)
    (failure : PaymentFailure) (failedAt : Instant) (p : PaymentId) (a : AccountId) (n : UInt32)
    (m : UInt64) :
    decode? (initialFailure payment account amount failure failedAt).toJson.toNode ≠
      some (.scheduledRetry p a n m) := by
  rw [decode?_initialFailure]
  nofun

end RetryPayload

end Dunning
