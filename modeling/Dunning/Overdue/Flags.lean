import Dunning.Json.Decode

/-!
# Block flags

The restrictions that an overdue state puts on an account.
-/

namespace Dunning

/-- Restrictions of an account. -/
structure BlockFlags where
  /-- Changes of the subscription are refused. -/
  blockChanges : Bool := false
  /-- The service is suspended. -/
  blockEntitlement : Bool := false
  /-- Automatic payments, retries included, are suspended. -/
  disableAutoPay : Bool := false
  deriving Repr, DecidableEq, Inhabited

namespace BlockFlags

/-- No restriction. -/
def none : BlockFlags := {}

/-- Every restriction. -/
def all : BlockFlags := ⟨true, true, true⟩

/-- Whether there is any restriction. -/
def isBlocking (f : BlockFlags) : Bool :=
  f.blockChanges || f.blockEntitlement || f.disableAutoPay

/-- Flags as a document. -/
def toJson (f : BlockFlags) : Json :=
  .object
    [("block_changes", .bool f.blockChanges), ("block_entitlement", .bool f.blockEntitlement),
     ("disable_auto_pay", .bool f.disableAutoPay)]

/-- The fields of the flags, all of which may be left out and no others given. -/
def shape : Shape :=
  ⟨[defaulted "block_changes", defaulted "block_entitlement", defaulted "disable_auto_pay"], true⟩

/-- The flags of a document. -/
def decode? (n : Node) : Option BlockFlags := do
  let entries ← shape.entries? n
  let blockChanges ← entries.withDefault "block_changes" false Node.bool?
  let blockEntitlement ← entries.withDefault "block_entitlement" false Node.bool?
  let disableAutoPay ← entries.withDefault "disable_auto_pay" false Node.bool?
  pure { blockChanges, blockEntitlement, disableAutoPay }

end BlockFlags

end Dunning
