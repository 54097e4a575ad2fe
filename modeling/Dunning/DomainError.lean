/-!
# Errors of the domain

Four kinds of deterministic failure: a value that fails validation, a broken invariant, a malformed
identifier and a version conflict. Each carries its own text.
-/

namespace Dunning

/-- The kind of a domain failure. -/
inductive DomainFault where
  | validation
  | invariantViolation
  | invalidId
  | conflict
  deriving Repr, DecidableEq

/-- A domain failure with its text. -/
structure DomainError where
  fault : DomainFault
  detail : String
  deriving Repr, DecidableEq

namespace DomainError

/-- What stands before the text. -/
def intro : DomainFault → String
  | .validation => "validation failed: "
  | .invariantViolation => "invariant violated: "
  | .invalidId => "invalid identifier: "
  | .conflict => "conflict: "

/-- The wording of a failure. -/
def message (e : DomainError) : String := intro e.fault ++ e.detail

/-- A text that is no identifier of the given kind. -/
def invalidId (kind text : String) : DomainError :=
  ⟨.invalidId, kind ++ ": '" ++ text ++ "' is not an identifier"⟩

end DomainError

end Dunning
