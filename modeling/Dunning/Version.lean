import Dunning.DomainError

/-!
# Expected versions

A stored record carries a version. A writer says which version it expects to replace; the write is
refused when the record has moved on.

## Main definitions

* `Expected` — any version, no record yet, or an exact version.
* `Expected.allows` — whether the stored version meets the expectation.
* `Expected.ofRead` — the expectation of a writer that read a version, 0 standing for no record.
-/

namespace Dunning

/-- The version that a writer expects. -/
inductive Expected where
  | any
  | absent
  | exact (version : UInt64)
  deriving Repr, DecidableEq

namespace Expected

/-- Whether the stored version, if any, meets the expectation. -/
def allows : Expected → Option UInt64 → Bool
  | .any, _ => true
  | .absent, none => true
  | .exact v, some actual => v == actual
  | _, _ => false

/-- The expectation of a writer that read this version; 0 stands for no record. -/
def ofRead (version : UInt64) : Expected :=
  if version = 0 then .absent else .exact version

/-- The shown form of an expectation. -/
def shown : Expected → String
  | .any => "Any"
  | .absent => "Absent"
  | .exact v => "Exact(" ++ toString v.toNat ++ ")"

/-- The shown form of a stored version. -/
def shownActual : Option UInt64 → String
  | none => "None"
  | some v => "Some(" ++ toString v.toNat ++ ")"

/-- The conflict of an expectation that is not met. -/
def conflict (expected : Expected) (actual : Option UInt64) : DomainError :=
  ⟨.conflict, "optimistic concurrency check failed (expected: " ++ expected.shown ++
    ", actual: " ++ shownActual actual ++ ")"⟩

/-- Compare an expectation with the stored version. -/
def check (expected : Expected) (actual : Option UInt64) : Except DomainError Unit :=
  if expected.allows actual then .ok () else .error (expected.conflict actual)

/-- A writer that saw a version, or no record, is let through exactly when that still holds. -/
theorem allows_ofRead {version : UInt64} (h : version ≠ 0) (actual : Option UInt64) :
    (ofRead version).allows actual = true ↔ actual = some version := by
  cases actual with
  | none => simp [ofRead, h, allows]
  | some v =>
      simp only [ofRead, h, if_false, allows, beq_iff_eq, Option.some.injEq]
      exact eq_comm

end Expected

end Dunning
