import Dunning.Scenario.Database
import Dunning.Simulation.World
import Dunning.Worker.LogFormat
import Dunning.Worker.Round

/-!
# Scenarios of a worker

A worker runs in a given environment over a database that answers from a script, and is stopped
after its first round. The report gives what it left behind: the exit code, the error report, the
log and the statements.

## Main definitions

* `Machine` — the machine of a scenario.
* `workerScenario` — a scenario with its report.
-/

namespace Dunning.Scenario

open Dunning.Database

/-! ## The machine -/

/-- A machine: its database, its files and what was written to its log. -/
structure Machine where
  database : ScriptedDatabase
  /-- Texts by path. -/
  files : List (String × String)
  /-- Readings of the clock. -/
  readings : Nat := 0
  /-- The lines of the log, the latest first. -/
  log : List LogLine := []

namespace Machine

/-- The address of the database in a scenario. -/
def databaseAddress : String := "\x7bdb\x7d"

/-- A path without the steps that stay in the working directory. -/
def plainPath (path : String) : String :=
  match path.dropPrefix? "./" with
  | some rest => rest.toString
  | none => path

/-- Answer a request of a session. -/
def respondDatabase (m : Machine) (request : DatabaseRequest) :
    Except Stop request.Answer × Machine :=
  let (answer, database) := ScriptedDatabase.respond request m.database
  (answer, { m with database })

/-- Answer a request. -/
def respond : (request : MachineRequest) → Machine → Except Stop request.Answer × Machine
  | .log line, m => (.ok (), { m with log := line :: m.log })
  | .connect address, m => (.ok (address.startsWith databaseAddress), m)
  | .send statement, m => m.respondDatabase (.send statement)
  | .freshId, m => m.respondDatabase .freshId
  | .readFile path, m => (.ok (m.files.lookup (plainPath path)), m)
  | .now, m =>
    (.ok (Simulation.World.calendar m.readings), { m with readings := m.readings + 1 })

end Machine

/-! ## A run -/

/-- A worker from its start to its end, stopped after one round. -/
def workerRun (environment : String → Option String) : WorkerTask (Except WorkerError Unit) := do
  match ← Worker.start environment with
  | .error e => pure (.error e)
  | .ok worker =>
    let next ← worker.round
    Worker.stop next.isSome
    pure (.ok ())

/-! ## The report -/

/-- The lines of a text, without the blanks around them and without blank ones. -/
def plainLines (text : String) : List String :=
  ((text.splitOn "\n").map Text.trim).filter fun line => !line.isEmpty

/-- A line of the log. -/
def logJson (line : LogLine) : Json := texts [line.level.name, line.message]

/-- Whether a line of the log comes before another in the report. -/
def logBefore (a b : LogLine) : Bool :=
  decide (a.level.name < b.level.name) ||
    (a.level.name == b.level.name && decide (a.message ≤ b.message))

/-- The report of a run. Lines of another format than JSON are not told apart. -/
def workerReport (format : LogFormat) (threshold : LogThreshold) (result : Except WorkerError Unit)
    (m : Machine) : Json :=
  let errors :=
    match result with
    | .ok () => []
    | .error e => e.report
  let shown := m.log.filter threshold.shows
  let isJson := decide (format = .json)
  obj
    [("exit", .nat (if errors.isEmpty then 0 else 1)),
     ("errors", texts (errors.flatMap plainLines)),
     ("logs", Json.ofList logJson (if isJson then shown.mergeSort logBefore else [])),
     ("json_logs", .bool (isJson || shown.isEmpty)),
     ("sql", sentJson m.database)]

/-- A scenario of a worker. -/
def workerScenario (n : Node) : Json :=
  let env := fieldsOf (get n "env")
  let environment (key : String) : Option String := (env.lookup key).bind str?
  let machine : Machine :=
    { database := { replies := (items (get n "replies")).map replyOf }
      files := ((str? (get n "state_set")).map fun text => ("states.json", text)).toList }
  let format := LogFormat.parse ((environment "DUEBILL_LOG_FORMAT").getD "")
  let threshold := LogThreshold.parse (environment "RUST_LOG")
  match (workerRun environment).run Machine.respond machine with
  | (.ok result, m) => workerReport format threshold result m
  | (.error _, _) => broken

end Dunning.Scenario
