import Dunning.Database.Session

/-!
# A scripted database

A database without any logic: it takes the next reply of a script for every statement and keeps what
it was sent. Beyond the script every statement affects no row. When it is closed, statements fail
before they are sent.

## Main definitions

* `ScriptedDatabase` — the replies that are left and the statements so far.
* `ScriptedDatabase.run` — a session with it.
-/

namespace Dunning.Database

/-- A database that answers from a script. -/
structure ScriptedDatabase where
  closed : Bool := false
  replies : List (Except DatabaseError DatabaseReply) := []
  /-- The statements that were sent, the latest first. -/
  sent : List Statement := []
  /-- Identifiers handed out so far. -/
  idCount : Nat := 0

namespace ScriptedDatabase

/-- The first identifier that is handed out. -/
def firstId : Nat := 0x3c9d60b7e51f4a28b4ea000000000000

/-- Take a statement. -/
def send (db : ScriptedDatabase) (statement : Statement) :
    Except DatabaseError DatabaseReply × ScriptedDatabase :=
  if db.closed then (.error (.other "the pool is closed"), db)
  else
    let db := { db with sent := statement :: db.sent }
    match db.replies with
    | [] => (.ok ⟨[], 0⟩, db)
    | reply :: replies => (reply, { db with replies })

/-- Answer a request. -/
def respond : (request : DatabaseRequest) → ScriptedDatabase →
    Except Stop request.Answer × ScriptedDatabase
  | .send statement, db => let (reply, db) := db.send statement; (.ok reply, db)
  | .freshId, db => (.ok (Uuid.ofNat (firstId + db.idCount)), { db with idCount := db.idCount + 1 })
  | .giveUp, db => (.error .crashed, db)

/-- Run a session. -/
def run {α : Type} (session : Session α) (db : ScriptedDatabase) :
    Except Stop α × ScriptedDatabase :=
  Task.run respond session db

end ScriptedDatabase

end Dunning.Database
