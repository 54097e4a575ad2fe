import Dunning.Database.Session
import Dunning.Payment.AttemptStore

/-!
# The table of attempts

The store of attempts in the database. Numbers and amounts that do not fit their columns are refused
before anything is sent; negative ones in a row are refused when they are read.

## Main definitions

* `readAttempt` — an attempt out of a row.
* `insertValues?`, `updateValues?` — the arguments of the two writes.
* `RetryAttempts.carry` — every request of `AttemptRequest`.
-/

namespace Dunning.Database.RetryAttempts

/-! ## Numbers and their columns -/

/-- A number for a column of 32 bits. -/
def toInt4 (field : String) (n : UInt32) : Except StoreError Int32 :=
  if n.toNat < 2147483648 then .ok (Int32.ofNat n.toNat)
  else .error (outOfRange field n.toNat)

/-- An amount for a column of 64 bits. -/
def toInt8 (field : String) (n : UInt64) : Except StoreError Int64 :=
  if n.toNat < 9223372036854775808 then .ok (Int64.ofNat n.toNat)
  else .error (outOfRange field n.toNat)

/-- An amount that may be missing. -/
def toInt8? (field : String) : Option UInt64 → Except StoreError (Option Int64)
  | none => .ok none
  | some n => (toInt8 field n).map some

/-- The number in a column of 32 bits. -/
def ofInt4 (field : String) (n : Int32) : Except StoreError UInt32 :=
  if n.toInt < 0 then .error (outOfRange field n.toInt) else .ok (UInt32.ofNat n.toInt.toNat)

/-- The amount in a column of 64 bits. -/
def ofInt8 (field : String) (n : Int64) : Except StoreError UInt64 :=
  if n.toInt < 0 then .error (outOfRange field n.toInt) else .ok (UInt64.ofNat n.toInt.toNat)

/-- The amount in a column that may be null. -/
def ofInt8? (field : String) : Option Int64 → Except StoreError (Option UInt64)
  | none => .ok none
  | some n => (ofInt8 field n).map some

/-! ## Reading -/

/-- The columns of an attempt. -/
def columns : String :=
  "id, payment_id, account_id, attempt_number, scheduled_for, outcome, amount, " ++
    "adjusted_amount, failure, updated_at"

/-- The columns of a row before they are understood. -/
structure RawAttempt where
  id : Uuid
  payment : Uuid
  account : Uuid
  number : Int32
  scheduledFor : Instant
  outcome : String
  amount : Int64
  adjusted : Option Int64
  failure : Option String
  updatedAt : Instant

/-- The columns of a row. -/
def readRaw (row : Row) : Except DatabaseError RawAttempt := do
  let id ← required uuid? row "id"
  let payment ← required uuid? row "payment_id"
  let account ← required uuid? row "account_id"
  let number ← required int4? row "attempt_number"
  let scheduledFor ← required instant? row "scheduled_for"
  let outcome ← required text? row "outcome"
  let amount ← required int8? row "amount"
  let adjusted ← optional int8? row "adjusted_amount"
  let failure ← optional text? row "failure"
  let updatedAt ← required instant? row "updated_at"
  pure { id, payment, account, number, scheduledFor, outcome, amount, adjusted, failure, updatedAt }

/-- The outcome of a name. -/
def outcomeOf (name : String) : Except StoreError AttemptOutcome :=
  match AttemptOutcome.parse? name with
  | some outcome => .ok outcome
  | none => .error ⟨.serialization, "unknown attempt outcome '" ++ name ++ "'"⟩

/-- The failure of a name. -/
def failureOf : Option String → Except StoreError (Option PaymentFailure)
  | none => .ok none
  | some name =>
    match PaymentFailure.parse? name with
    | some failure => .ok (some failure)
    | none => .error ⟨.serialization, "unknown payment failure '" ++ name ++ "'"⟩

/-- The attempt of the columns. -/
def understand (raw : RawAttempt) : Except StoreError Attempt := do
  let outcome ← outcomeOf raw.outcome
  let failure ← failureOf raw.failure
  let number ← ofInt4 "attempt_number" raw.number
  let amount ← ofInt8 "amount" raw.amount
  let adjusted ← ofInt8? "adjusted_amount" raw.adjusted
  pure
    { id := raw.id, payment := ⟨raw.payment⟩, account := ⟨raw.account⟩, number
      scheduledFor := raw.scheduledFor, outcome, amount, adjusted, failure
      updatedAt := raw.updatedAt }

/-- An attempt out of a row. -/
def readAttempt (row : Row) : Except StoreError Attempt :=
  match stored "decode retry attempt" (readRaw row) with
  | .error e => .error e
  | .ok raw => understand raw

/-! ## Statements -/

/-- The arguments of an insertion, if the numbers fit. -/
def insertValues (a : Attempt) : Except StoreError (List Cell) := do
  let number ← toInt4 "attempt_number" a.number
  let amount ← toInt8 "amount" a.amount
  let adjusted ← toInt8? "adjusted_amount" a.adjusted
  pure
    [.ofUuid a.id, .ofUuid a.payment.uuid, .ofUuid a.account.uuid, some (.int4 number),
     .ofInstant a.scheduledFor, .ofText a.outcome.name, some (.int8 amount),
     adjusted.map Datum.int8, a.failure.map fun f => .text f.name, .ofInstant a.updatedAt]

/-- The text of an insertion. -/
def insertText : String :=
  "INSERT INTO retry_attempts (id, payment_id, account_id, attempt_number, scheduled_for, " ++
    "outcome, amount, adjusted_amount, failure, updated_at) VALUES ($1, $2, $3, $4, $5, $6, $7, " ++
    "$8, $9, $10)"

/-- The arguments of an update, if the adjusted amount fits. -/
def updateValues (a : Attempt) : Except StoreError (List Cell) := do
  let adjusted ← toInt8? "adjusted_amount" a.adjusted
  pure
    [.ofUuid a.id, .ofInstant a.scheduledFor, .ofText a.outcome.name, adjusted.map Datum.int8,
     a.failure.map fun f => .text f.name, .ofInstant a.updatedAt]

/-- The text of an update. -/
def updateText : String :=
  "UPDATE retry_attempts SET scheduled_for = $2, outcome = $3, adjusted_amount = $4, failure = " ++
    "$5, updated_at = $6 WHERE id = $1"

/-- The text of a look-up. -/
def getText : String :=
  "SELECT " ++ columns ++ " FROM retry_attempts WHERE payment_id = $1 AND attempt_number = $2"

/-- The attempts of a payment. -/
def listStatement (payment : PaymentId) : Statement :=
  ⟨"SELECT " ++ columns ++ " FROM retry_attempts WHERE payment_id = $1 ORDER BY " ++
    "attempt_number ASC", [.ofUuid payment.uuid]⟩

/-! ## Requests -/

/-- Record a new attempt. -/
def insert (a : Attempt) : Session (Except StoreError Unit) :=
  match insertValues a with
  | .error e => pure (.error e)
  | .ok args => do
    pure ((← Session.execute "insert retry attempt" ⟨insertText, args⟩).map fun _ => ())

/-- Replace an attempt. -/
def update (a : Attempt) : Session (Except StoreError Unit) :=
  match updateValues a with
  | .error e => pure (.error e)
  | .ok args => do
    match ← Session.execute "update retry attempt" ⟨updateText, args⟩ with
    | .error e => pure (.error e)
    | .ok 0 => pure (.error ⟨.notFound, "retry attempt " ++ a.id.render⟩)
    | .ok _ => pure (.ok ())

/-- Look an attempt up. -/
def get (payment : PaymentId) (number : UInt32) : Session (Except StoreError (Option Attempt)) :=
  match toInt4 "attempt_number" number with
  | .error e => pure (.error e)
  | .ok number => do
    let statement : Statement := ⟨getText, [.ofUuid payment.uuid, some (.int4 number)]⟩
    match ← Session.firstRow "get retry attempt" statement with
    | .error e => pure (.error e)
    | .ok none => pure (.ok none)
    | .ok (some row) => pure ((readAttempt row).map some)

/-- The attempts of a payment by number. -/
def ofPayment (payment : PaymentId) : Session (Except StoreError (List Attempt)) := do
  match ← Session.rows "list retry attempts" (listStatement payment) with
  | .error e => pure (.error e)
  | .ok rows => pure (readAll readAttempt rows)

/-- Carry a request to the store of attempts out in the database. -/
def carry : (request : AttemptRequest) → Session request.Answer
  | .insert a => insert a
  | .update a => update a
  | .get payment number => get payment number
  | .ofPayment payment => ofPayment payment

end Dunning.Database.RetryAttempts
