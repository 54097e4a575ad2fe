import Dunning.Database.Session

/-!
# The tables of the database

One statement creates whatever is missing of the three tables and their indexes. It takes no
arguments and can be sent at every start.

## Main definitions

* `Schema.statement` — the statement.
-/

namespace Dunning.Database.Schema

/-- The table of work items and its indexes. -/
def workItems : List String :=
  ["CREATE TABLE IF NOT EXISTS work_items (",
   "    id uuid PRIMARY KEY,",
   "    queue_name text NOT NULL,",
   "    owner_key text NOT NULL,",
   "    effective_at timestamptz NOT NULL,",
   "    payload jsonb NOT NULL,",
   "    created_at timestamptz NOT NULL,",
   "    updated_at timestamptz NOT NULL,",
   "    claim_owner text,",
   "    claim_expires_at timestamptz,",
   "    attempts integer NOT NULL DEFAULT 0,",
   "    status text NOT NULL DEFAULT 'available',",
   "    last_error text",
   ");",
   "-- Claim scan: due, available items of one queue in effective order.",
   "CREATE INDEX IF NOT EXISTS work_items_claim_idx",
   "    ON work_items (queue_name, effective_at, created_at)",
   "    WHERE status = 'available';",
   "CREATE INDEX IF NOT EXISTS work_items_owner_idx",
   "    ON work_items (queue_name, owner_key, status);"]

/-- The table of overdue states. -/
def overdueStates : List String :=
  ["CREATE TABLE IF NOT EXISTS overdue_states (",
   "    account_id uuid PRIMARY KEY,",
   "    state_name text NOT NULL,",
   "    state_set_version bigint NOT NULL,",
   "    block_changes boolean NOT NULL DEFAULT false,",
   "    block_entitlement boolean NOT NULL DEFAULT false,",
   "    disable_auto_pay boolean NOT NULL DEFAULT false,",
   "    last_transition_at timestamptz,",
   "    version bigint NOT NULL",
   ");"]

/-- The table of attempts and its index. -/
def retryAttempts : List String :=
  ["CREATE TABLE IF NOT EXISTS retry_attempts (",
   "    id uuid PRIMARY KEY,",
   "    payment_id uuid NOT NULL,",
   "    account_id uuid NOT NULL,",
   "    attempt_number integer NOT NULL CHECK (attempt_number >= 1),",
   "    scheduled_for timestamptz NOT NULL,",
   "    outcome text NOT NULL,",
   "    amount bigint NOT NULL,",
   "    adjusted_amount bigint,",
   "    failure text,",
   "    updated_at timestamptz NOT NULL,",
   "    UNIQUE (payment_id, attempt_number)",
   ");",
   "CREATE INDEX IF NOT EXISTS retry_attempts_account_idx ON retry_attempts (account_id);"]

/-- The lines of the statement. -/
def lines : List String :=
  "-- Deferred work queue, overdue state and payment retry attempts." ::
    (workItems ++ overdueStates ++ retryAttempts)

/-- Create the tables that are missing. -/
def statement : Statement := ⟨"\n".intercalate lines, []⟩

end Dunning.Database.Schema
