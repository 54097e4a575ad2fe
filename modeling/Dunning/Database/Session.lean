import Dunning.Database.Datum
import Dunning.Json.Parser
import Dunning.StoreError
import Dunning.Task

/-!
# Talking to the database

A store in the database is a set of tasks that send statements and read the replies. How a statement
failed decides what kind of storage failure it is: a broken constraint or a lost race is a conflict,
an unreadable column a serialization failure, and everything else means that the database is out of
reach.

## Main definitions

* `Statement`, `DatabaseReply`, `DatabaseError` — what is sent and what comes back.
* `DatabaseRequest`, `Session` — tasks that talk to the database.
* `DatabaseError.toStore` — the storage failure of an operation.
* `readUuid`, `readText` and others — reading the columns of a row.
-/

namespace Dunning.Database

/-! ## Statements and replies -/

/-- A statement with its arguments in the order of their numbers. -/
structure Statement where
  text : String
  args : List Cell := []

/-- The reply to a statement. -/
structure DatabaseReply where
  rows : List Row
  affected : Nat

/-- Why a statement gave no usable reply. -/
inductive DatabaseError where
  /-- The database refused the statement. -/
  | refused (code message : String)
  /-- A row was expected and there was none. -/
  | rowNotFound
  /-- A column holds null or a value of another type. -/
  | unreadable (column : String)
  /-- A column is missing, or the connection failed. -/
  | other (reason : String)
  deriving Repr, DecidableEq

/-- What a session asks for. -/
inductive DatabaseRequest where
  | send (statement : Statement)
  /-- An identifier that nothing has. -/
  | freshId
  /-- There is nothing sensible left to do. No answer exists. -/
  | giveUp

/-- What answers it. -/
@[reducible] def DatabaseRequest.Answer : DatabaseRequest → Type
  | .send _ => Except DatabaseError DatabaseReply
  | .freshId => Uuid
  | .giveUp => Empty

/-- A task that talks to the database. -/
abbrev Session (α : Type) : Type := Task DatabaseRequest DatabaseRequest.Answer α

/-- The codes of a broken unique constraint, a failed serialization and a deadlock. -/
def conflictCodes : List String := ["23505", "40001", "40P01"]

/-- The storage failure of an operation. -/
def DatabaseError.toStore (operation : String) : DatabaseError → StoreError
  | .refused code message =>
    ⟨if conflictCodes.contains code then .conflict else .unavailable,
      "database error in " ++ operation ++ ": " ++ message⟩
  | .rowNotFound => ⟨.notFound, "unexpected row not found in " ++ operation⟩
  | .unreadable column =>
    ⟨.serialization, "decode error in " ++ operation ++ ": column " ++ column⟩
  | .other reason => ⟨.unavailable, "sqlx error in " ++ operation ++ ": " ++ reason⟩

/-- A result of the database as a result of an operation on a store. -/
def stored {α : Type} (operation : String) : Except DatabaseError α → Except StoreError α
  | .ok a => .ok a
  | .error e => .error (e.toStore operation)

namespace Session

/-- Send a statement. -/
def send (statement : Statement) : Session (Except DatabaseError DatabaseReply) :=
  .ask (.send statement) .done

/-- An identifier that nothing has. -/
def freshId : Session Uuid := .ask .freshId .done

/-- End here without a value. -/
def giveUp {α : Type} : Session α := .ask .giveUp fun answer => nomatch answer

/-- Send a statement and count the rows it affected. -/
def execute (operation : String) (statement : Statement) : Session (Except StoreError Nat) := do
  pure ((stored operation (← send statement)).map DatabaseReply.affected)

/-- Send a statement and read its rows. -/
def rows (operation : String) (statement : Statement) : Session (Except StoreError (List Row)) := do
  pure ((stored operation (← send statement)).map DatabaseReply.rows)

/-- Send a statement and read its first row, if there is one. -/
def firstRow (operation : String) (statement : Statement) :
    Session (Except StoreError (Option Row)) := do
  pure ((← rows operation statement).map List.head?)

/-- Send a statement and read its first row. -/
def row (operation : String) (statement : Statement) : Session (Except StoreError Row) := do
  match ← firstRow operation statement with
  | .error e => pure (.error e)
  | .ok (some row) => pure (.ok row)
  | .ok none => pure (.error (DatabaseError.rowNotFound.toStore operation))

end Session

/-! ## Reading columns -/

/-- The value of a column. -/
def column (row : Row) (name : String) : Except DatabaseError Cell :=
  match row.lookup name with
  | some cell => .ok cell
  | none => .error (.other ("no column found for name: " ++ name))

/-- A value that must be there. -/
def required {α : Type} (read : Datum → Option α) (row : Row) (name : String) :
    Except DatabaseError α :=
  match column row name with
  | .error e => .error e
  | .ok none => .error (.unreadable name)
  | .ok (some datum) =>
    match read datum with
    | some a => .ok a
    | none => .error (.unreadable name)

/-- A value that may be null. -/
def optional {α : Type} (read : Datum → Option α) (row : Row) (name : String) :
    Except DatabaseError (Option α) :=
  match column row name with
  | .error e => .error e
  | .ok none => .ok none
  | .ok (some datum) =>
    match read datum with
    | some a => .ok (some a)
    | none => .error (.unreadable name)

/-- The identifier of a value. -/
def uuid? : Datum → Option Uuid
  | .uuid id => some id
  | _ => none

/-- The text of a value. -/
def text? : Datum → Option String
  | .text s => some s
  | _ => none

/-- The truth value of a value. -/
def bool? : Datum → Option Bool
  | .bool b => some b
  | _ => none

/-- The number of 32 bits of a value. -/
def int4? : Datum → Option Int32
  | .int4 n => some n
  | _ => none

/-- The number of 64 bits of a value. -/
def int8? : Datum → Option Int64
  | .int8 n => some n
  | _ => none

/-- The instant of a value. -/
def instant? : Datum → Option Instant
  | .timestamp micros => Instant.ofMicros? micros
  | _ => none

/-- The document of a value. -/
def json? : Datum → Option Json
  | .json text => (Node.parse? text).bind Node.toJson?
  | _ => none

/-- The truth value in the first column. -/
def firstBool : Row → Except DatabaseError Bool
  | [] => .error (.other "no column")
  | (name, some datum) :: _ =>
    match bool? datum with
    | some b => .ok b
    | none => .error (.unreadable name)
  | (name, none) :: _ => .error (.unreadable name)

/-- Read rows one after another, up to the first that cannot be read. -/
def readAll {α : Type} (read : Row → Except StoreError α) : List Row → Except StoreError (List α)
  | [] => .ok []
  | row :: rest =>
    match read row with
    | .error e => .error e
    | .ok a => (readAll read rest).map (a :: ·)

/-- A natural number of a column; negative ones count as zero. -/
def clampedNat (n : Int) : Nat := n.toNat

/-- A number that does not fit its column, or the reverse. -/
def outOfRange (field : String) (value : Int) : StoreError :=
  ⟨.serialization, field ++ " " ++ toString value ++ " out of column range"⟩

end Dunning.Database
