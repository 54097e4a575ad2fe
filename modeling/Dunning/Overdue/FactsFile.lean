import Dunning.Billing.Collaborator
import Dunning.Json.Parser
import Dunning.Overdue.Facts

/-!
# A file of account facts

A deployment may keep the facts of its accounts in a file: an object with one entry for each
account. The file is read anew for every question, so an operator can edit it in place. An entry
whose key is no account is skipped, but what it holds has to be well formed; of equal keys the last
counts.

## Main definitions

* `FactsFile.lookup` — the facts of an account in the text of a file.
* `FactsFile.strayKeys` — the keys that are no accounts.
-/

namespace Dunning.FactsFile

/-- The entries of an object, all read. -/
def readEntries? : List (Option String × Node) → Option (List (String × AccountFacts))
  | [] => some []
  | (key, node) :: rest =>
    match key, AccountFacts.decode? node, readEntries? rest with
    | some key, some facts, some entries => some ((key, facts) :: entries)
    | _, _, _ => none

/-- The entries of a file in the order of writing. -/
def entries? (text : String) : Option (List (String × AccountFacts)) :=
  match Node.parse? text with
  | some (.object fields) => readEntries? fields
  | _ => none

/-- The last entry of an account. -/
def find? (account : AccountId) (entries : List (String × AccountFacts)) : Option AccountFacts :=
  (entries.reverse.find? fun (key, _) => AccountId.parse? key == some account).map Prod.snd

/-- The keys of a file that are no accounts, each once. A file that is not well formed has none. -/
def strayKeys (text : String) : List String :=
  (((entries? text).getD []).map Prod.fst).eraseDups.filter fun key =>
    (AccountId.parse? key).isNone

/-- The facts of an account in a file; without a text the file cannot be read. -/
def lookup (path : String) (text : Option String) (account : AccountId) :
    Except CollaboratorError AccountFacts :=
  match text with
  | none => .error (.unavailable ("cannot read " ++ path ++ ": no such file"))
  | some text =>
    match entries? text with
    | none => .error (.unavailable ("malformed " ++ path ++ ": no object of account facts"))
    | some entries =>
      match find? account entries with
      | some facts => .ok facts
      | none => .error (.unknownAccount account)

end Dunning.FactsFile
