import Dunning.Database.OverdueStates
import Dunning.Database.RetryAttempts
import Dunning.Database.Scripted
import Dunning.Database.WorkItems
import Dunning.Json.Printer
import Dunning.Scenario.WorkStep

/-!
# Scenarios of the stores in the database

Each step is one request to a store whose database answers from a script. Its report gives the
answer and the statements that were sent.

## Main definitions

* `replyOf` — a scripted reply.
* `statementJson` — a sent statement.
* `databaseScenario` — a scenario with its report.
-/

namespace Dunning.Scenario

open Dunning.Database

/-! ## Replies -/

/-- Columns whose type is not text, with the name of their type. -/
def columnTypes : List (String × String) :=
  [("id", "uuid"), ("account_id", "uuid"), ("payment_id", "uuid"), ("effective_at", "timestamptz"),
   ("created_at", "timestamptz"), ("updated_at", "timestamptz"),
   ("claim_expires_at", "timestamptz"),
   ("last_transition_at", "timestamptz"), ("scheduled_for", "timestamptz"), ("payload", "jsonb"),
   ("attempts", "int4"), ("attempt_number", "int4"), ("block_changes", "bool"),
   ("block_entitlement", "bool"), ("disable_auto_pay", "bool"), ("exists", "bool"),
   ("state_set_version", "int8"), ("version", "int8"), ("amount", "int8"),
   ("adjusted_amount", "int8"), ("available", "int8"), ("claimed", "int8"), ("processed", "int8"),
   ("cancelled", "int8"), ("dead_lettered", "int8")]

/-- The type of a column, unless the reply says otherwise. -/
def typeOf (overrides : Node) (name : String) : String :=
  (str? (get overrides name)).getD ((columnTypes.lookup name).getD "text")

/-- The text of a value in a column of texts. -/
def columnText (n : Node) : String :=
  match str? n with
  | some s => s
  | none => (payloadOf n).render

/-- A value of a type. -/
def datumOf (type : String) (n : Node) : Datum :=
  match type with
  | "uuid" => .uuid (uuid n)
  | "timestamptz" => .timestamp (time n).toMicros
  | "jsonb" => .json (payloadOf n).render
  | "int4" => .int4 (Int32.ofInt (int n))
  | "int8" => .int8 (Int64.ofInt (int n))
  | "bool" => .bool (bool n)
  | _ => .text (columnText n)

/-- A value of a type, or null. -/
def cellOf (type : String) (n : Node) : Cell := if isNull n then none else some (datumOf type n)

/-- The names of the columns of a reply: those of the first row in increasing order. -/
def columnNames (rows : List Node) : List String :=
  match rows with
  | [] => []
  | first :: _ => ((fieldsOf first).map Prod.fst).mergeSort fun a b => decide (a ≤ b)

/-- A row with the given columns. -/
def rowOf (types : Node) (names : List String) (n : Node) : Row :=
  names.map fun name => (name, cellOf (typeOf types name) (get n name))

/-- A scripted reply. -/
def replyOf (n : Node) : Except DatabaseError DatabaseReply :=
  if given n "error" then
    .error (.refused (textOf n "error") ((str? (get n "message")).getD "boom"))
  else if given n "close" then .error (.other "the connection was closed")
  else if given n "rows" then
    let rows := items (get n "rows")
    let names := columnNames rows
    .ok ⟨rows.map (rowOf (get n "types") names), rows.length⟩
  else .ok ⟨[], nat (get n "affected")⟩

/-! ## Statements -/

/-- A bound value. -/
def datumJson : Datum → Json
  | .uuid id => id.toJson
  | .text s => .string s
  | .bool b => .bool b
  | .int4 n => .int n.toInt
  | .int8 n => .int n.toInt
  | .timestamp micros => Json.ofOption clockJson (Instant.ofMicros? micros)
  | .json text => ((Node.parse? text).bind Node.toJson?).getD .null

/-- A text with every run of white space as one space. -/
def onOneLine (text : String) : String :=
  " ".intercalate (((text.splitToList Char.isWhitespace)).filter fun word => !word.isEmpty)

/-- A sent statement. -/
def statementJson (s : Statement) : Json :=
  obj [("sql", .string (onOneLine s.text)), ("args", Json.ofList (Json.ofOption datumJson) s.args)]

/-- The statements that a database was sent, in order. -/
def sentJson (db : ScriptedDatabase) : Json := Json.ofList statementJson db.sent.reverse

/-! ## Steps -/

/-- The session of a step with its answer. -/
def sessionOf? (step : Node) : Option (Session Json) :=
  let whole {α : Type} (session : Session (Except StoreError α)) (write : α → Json) :
      Option (Session Json) :=
    some (session.bind fun answer => pure (Scenario.stored write answer))
  let attempt (use : Attempt → Session (Except StoreError Unit)) : Option (Session Json) :=
    match Attempt.decode? (get step "attempt") with
    | some a => whole (use a) fun _ => .null
    | none => some (pure malformed)
  match textOf step "do" with
  | "state_get" =>
    whole (OverdueStates.get (account (get step "account"))) (Json.ofOption OverdueState.toJson)
  | "state_save" =>
    match OverdueState.decode? (get step "state") with
    | some s => whole (OverdueStates.save s (expectedOf (get step "expected"))) fun _ => .null
    | none => some (pure malformed)
  | "attempt_insert" => attempt RetryAttempts.insert
  | "attempt_update" => attempt RetryAttempts.update
  | "attempt_get" =>
    whole (RetryAttempts.get (payment (get step "payment")) (u32 (get step "number")))
      (Json.ofOption Attempt.toJson)
  | "attempt_list" =>
    whole (RetryAttempts.ofPayment (payment (get step "payment"))) (Json.ofList Attempt.toJson)
  | _ =>
    (workRequest? (fun n => ⟨uuid n⟩) step).map fun request =>
      (WorkItems.carry request).bind fun answer =>
        pure (workAnswer ItemId.toJson Item.toJson request answer)

/-- An answer with the statements that were sent. -/
def withStatements (db : ScriptedDatabase) : Json → Json
  | .object fields => .object (fields ++ [("sql", sentJson db)])
  | other => other

/-- The answers of steps one after another; none when one breaks. -/
def databaseAnswers (closed : Bool) : Nat → List Node → Option (List Json)
  | _, [] => some []
  | idCount, step :: rest =>
    let db : ScriptedDatabase :=
      { closed, replies := (items (get step "replies")).map replyOf, idCount }
    match ((sessionOf? step).getD (pure (ok .null))) |> db.run with
    | (.ok answer, db) =>
      (databaseAnswers closed db.idCount rest).map (withStatements db answer :: ·)
    | (.error _, _) => none

/-- A scenario of the stores in the database. A lease beyond the calendar breaks all of it. -/
def databaseScenario (n : Node) : Json :=
  match databaseAnswers (bool (get n "closed")) 0 (items (get n "steps")) with
  | some answers => .array answers
  | none => broken

end Dunning.Scenario
