import Dunning.Json.Printer
import Dunning.Worker.LogFormat
import Dunning.Worker.Round
import Std.Time.DateTime.Timestamp

/-!
# The worker program

The program reads its environment, runs a worker and writes the worker's log to standard output. A
start that fails is reported on standard error and by the exit code.

The program holds no driver of a database, so connecting fails at every address; whoever has one
answers `connect` and `send` with it.
-/

namespace Dunning

/-- The names that are read from the environment. -/
def environmentKeys : List String :=
  ["DATABASE_URL", "RUST_LOG", "DUEBILL_ACCOUNT_FACTS_PATH", "DUEBILL_BACKOFF_BASE_MS",
   "DUEBILL_BACKOFF_MAX_MS", "DUEBILL_BACKOFF_STRATEGY", "DUEBILL_BATCH_SIZE",
   "DUEBILL_DISPATCHER_NAME", "DUEBILL_HANDLER_TIMEOUT_SECS", "DUEBILL_LEASE_SECS",
   "DUEBILL_LOG_FORMAT", "DUEBILL_MAX_ATTEMPTS", "DUEBILL_MAX_CONCURRENT",
   "DUEBILL_MAX_CONFLICT_RETRIES", "DUEBILL_PAYMENT_MAX_ATTEMPTS", "DUEBILL_POLL_INTERVAL_MS",
   "DUEBILL_RETRY_POLICY", "DUEBILL_STATE_SET_PATH"]

/-- The environment of the program. -/
def readEnvironment : IO (String → Option String) := do
  let entries ← environmentKeys.mapM fun key => do
    return (key, ← IO.getEnv key)
  return fun key => (entries.lookup key).join

/-- The text of a line of the log. -/
def LogFormat.render (format : LogFormat) (line : LogLine) : String :=
  match format with
  | .json =>
    (Json.object
      [("level", .string line.level.name),
       ("fields", .object [("message", .string line.message)])]).render
  | .pretty => line.level.name ++ " " ++ line.message

/-- How the program writes its log. -/
structure LogOutput where
  format : LogFormat
  threshold : LogThreshold

/-- The output that an environment asks for. -/
def LogOutput.ofEnvironment (environment : String → Option String) : LogOutput where
  format := LogFormat.parse ((environment "DUEBILL_LOG_FORMAT").getD "")
  threshold := LogThreshold.parse (environment "RUST_LOG")

/-- The text of a file, if it can be read. -/
def readFile? (path : String) : IO (Option String) := do
  try
    return some (← IO.FS.readFile path)
  catch _ => return none

/-- An identifier out of random bytes. -/
def randomId : IO Uuid := do
  let bytes ← IO.getRandomBytes 16
  return Uuid.ofNat (bytes.foldl (fun n byte => n * 256 + byte.toNat) 0)

/-- Answer a request of the worker. -/
def LogOutput.respond (output : LogOutput) : (request : MachineRequest) → IO request.Answer
  | .log line => do
    if output.threshold.shows line then IO.println (output.format.render line)
  | .connect _ => return false
  | .send _ => return .error (.other "no connection")
  | .freshId => randomId
  | .readFile path => readFile? path
  | .now => do
    let reading ← Std.Time.Timestamp.now
    return (Instant.ofNanos? reading.toNanosecondsSinceUnixEpoch.val).getD Instant.last

/-- Carry a task of the worker out. -/
def LogOutput.perform {α : Type} (output : LogOutput) : WorkerTask α → IO α
  | .done value => return value
  | .ask request next => do
    let answer ← output.respond request
    output.perform (next answer)

/-- Rest for some milliseconds. A single sleep takes fewer than `2 ^ 32` of them. -/
def restFor (millis : Nat) : IO Unit := do
  for _ in [0 : millis / 4294967295] do
    IO.sleep 4294967295
  IO.sleep (millis % 4294967295).toUInt32

/-- Poll and rest for as long as the program runs. -/
partial def LogOutput.poll (output : LogOutput) (worker : Worker) : IO Unit := do
  match ← output.perform worker.round with
  | none => output.perform (Worker.stop false)
  | some (rest, worker) =>
    restFor rest.millis
    output.poll worker

/-- Report a failed start. -/
def reportFailure (e : WorkerError) : IO Unit := do
  IO.eprintln ("Error: " ++ e.context)
  let causes := WorkerError.numbered e.causes
  if !causes.isEmpty then
    IO.eprintln "\nCaused by:"
    causes.forM fun cause => IO.eprintln ("    " ++ cause)

end Dunning

open Dunning in
/-- Run a worker in the environment of the program. -/
def main : IO UInt32 := do
  let environment ← readEnvironment
  let output := LogOutput.ofEnvironment environment
  match ← output.perform (Worker.start environment) with
  | .error e =>
    reportFailure e
    return 1
  | .ok worker =>
    output.poll worker
    return 0
