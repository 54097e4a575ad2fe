import Dunning.Database.Session
import Dunning.Overdue.StateStore

/-!
# The table of overdue states

The store of overdue states in the database. The expectation of a writer is part of the statement:
an insertion that must be the first, an update of one version, or whichever fits. A guarded write
that affects no row lost the race.

## Main definitions

* `readState` — a record out of a row.
* `saveStatement` — the statement of a write.
* `OverdueStates.carry` — every request of `StateRequest`.
-/

namespace Dunning.Database.OverdueStates

/-- A record out of a row. Negative versions count as zero. -/
def readState (row : Row) : Except DatabaseError OverdueState := do
  let account ← required uuid? row "account_id"
  let stateName ← required text? row "state_name"
  let setVersion ← required int8? row "state_set_version"
  let blockChanges ← required bool? row "block_changes"
  let blockEntitlement ← required bool? row "block_entitlement"
  let disableAutoPay ← required bool? row "disable_auto_pay"
  let lastTransitionAt ← optional instant? row "last_transition_at"
  let version ← required int8? row "version"
  pure
    { account := ⟨account⟩, stateName, setVersion := UInt64.ofNat (clampedNat setVersion.toInt)
      blocked := { blockChanges, blockEntitlement, disableAutoPay }, lastTransitionAt
      version := UInt64.ofNat (clampedNat version.toInt) }

/-- Look a record up. -/
def getStatement (account : AccountId) : Statement :=
  ⟨"SELECT account_id, state_name, state_set_version, block_changes, block_entitlement, " ++
    "disable_auto_pay, last_transition_at, version FROM overdue_states WHERE account_id = $1",
    [.ofUuid account.uuid]⟩

/-- The start of an insertion. -/
def insertText : String :=
  "INSERT INTO overdue_states (account_id, state_name, state_set_version, block_changes, " ++
    "block_entitlement, disable_auto_pay, last_transition_at, version) VALUES ($1, $2, $3, $4, " ++
    "$5, $6, $7, $8) ON CONFLICT (account_id) DO "

/-- The text of a write. -/
def saveText : Expected → String
  | .absent => insertText ++ "NOTHING"
  | .exact _ =>
    "UPDATE overdue_states SET state_name = $2, state_set_version = $3, block_changes = $4, " ++
      "block_entitlement = $5, disable_auto_pay = $6, last_transition_at = $7, version = $8 " ++
      "WHERE account_id = $1 AND version = $9"
  | .any =>
    insertText ++ "UPDATE SET state_name = EXCLUDED.state_name, state_set_version = " ++
      "EXCLUDED.state_set_version, block_changes = EXCLUDED.block_changes, block_entitlement = " ++
      "EXCLUDED.block_entitlement, disable_auto_pay = EXCLUDED.disable_auto_pay, " ++
      "last_transition_at = EXCLUDED.last_transition_at, version = EXCLUDED.version"

/-- The values of a record in the order of its columns. -/
def valuesOf (s : OverdueState) : List Cell :=
  [.ofUuid s.account.uuid, .ofText s.stateName, .wrapping s.setVersion.toNat,
   .ofBool s.blocked.blockChanges, .ofBool s.blocked.blockEntitlement,
   .ofBool s.blocked.disableAutoPay, s.lastTransitionAt.bind Cell.ofInstant,
   .wrapping s.version.toNat]

/-- The version that a write is guarded by. -/
def guardOf : Expected → List Cell
  | .exact version => [.wrapping version.toNat]
  | _ => []

/-- Write a record. -/
def saveStatement (s : OverdueState) (expected : Expected) : Statement :=
  ⟨saveText expected, valuesOf s ++ guardOf expected⟩

/-- The conflict of a write that lost the race. -/
def lostRace (s : OverdueState) (expected : Expected) : StoreError :=
  ⟨.conflict, "overdue state of account " ++ s.account.render ++
    " changed concurrently (expected " ++ expected.shown ++ ")"⟩

/-- Look the record of an account up. -/
def get (account : AccountId) : Session (Except StoreError (Option OverdueState)) := do
  match ← Session.firstRow "get overdue state" (getStatement account) with
  | .error e => pure (.error e)
  | .ok none => pure (.ok none)
  | .ok (some row) => pure ((stored "decode overdue state" (readState row)).map some)

/-- Write a record if the stored version meets the expectation. -/
def save (s : OverdueState) (expected : Expected) : Session (Except StoreError Unit) := do
  match ← Session.execute "save overdue state" (saveStatement s expected) with
  | .error e => pure (.error e)
  | .ok 0 => pure (.error (lostRace s expected))
  | .ok _ => pure (.ok ())

/-- Carry a request to the store of states out in the database. -/
def carry : (request : StateRequest) → Session request.Answer
  | .get account => get account
  | .save record expected => save record expected

end Dunning.Database.OverdueStates
