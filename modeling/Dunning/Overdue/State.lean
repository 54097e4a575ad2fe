import Dunning.Ident
import Dunning.Overdue.StateSet
import Dunning.Time.Wire

/-!
# Recorded overdue state

What is stored for an account: the state it was last moved to, the flags in force and a version that
counts the writes. Version 0 stands for an account that was never written.
-/

namespace Dunning

/-- The recorded state of an account. -/
structure OverdueState where
  account : AccountId
  stateName : String
  /-- The version of the state set behind the record, 0 when none was loaded. -/
  setVersion : UInt64
  blocked : BlockFlags
  lastTransitionAt : Option Instant
  version : UInt64
  deriving DecidableEq

namespace OverdueState

/-- The state of an account that was never written. -/
def clear (account : AccountId) : OverdueState :=
  ⟨account, clearName, 0, {}, none, 0⟩

/-- Whether the account is clear. -/
def isClear (s : OverdueState) : Bool := s.stateName == clearName

/-- The record after a change, one version up. -/
def advance (s : OverdueState) (name : String) (flags : BlockFlags) (setVersion : UInt64)
    (now : Instant) : OverdueState :=
  ⟨s.account, name, setVersion, flags, some now, s.version + 1⟩

/-- A record as a document. -/
def toJson (s : OverdueState) : Json :=
  .object
    [("account_id", s.account.toJson), ("state_name", .string s.stateName),
     ("state_set_version", .nat s.setVersion.toNat), ("blocked", s.blocked.toJson),
     ("last_transition_at", Json.ofOption Instant.toJson s.lastTransitionAt),
     ("version", .nat s.version.toNat)]

/-- The fields of a record. -/
def shape : Shape :=
  ⟨[field "account_id", field "state_name", field "state_set_version", field "blocked",
    field "last_transition_at", field "version"], false⟩

/-- The record of a document. -/
def decode? (n : Node) : Option OverdueState := do
  let entries ← shape.entries? n
  let account ← entries.required "account_id" AccountId.decode?
  let stateName ← entries.required "state_name" Node.string?
  let setVersion ← entries.required "state_set_version" Node.uint64?
  let blocked ← entries.required "blocked" BlockFlags.decode?
  let lastTransitionAt ← entries.optional "last_transition_at" Instant.decode?
  let version ← entries.required "version" Node.uint64?
  pure { account, stateName, setVersion, blocked, lastTransitionAt, version }

end OverdueState

end Dunning
