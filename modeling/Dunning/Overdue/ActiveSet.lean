import Dunning.Overdue.StateSet
import Dunning.Text.Quoted

/-!
# The active state set

A process has at most one active state set. Loading a document reserves the next version number,
checks the document and its hooks and then makes the set active; a set that is not newer than the
active one is refused. Whatever fails, the active set stays.

## Main definitions

* `HookNames` — the names that states may refer to, the built-in `log` among them.
* `ActiveSet` — the active set and the last version handed out.
* `ActiveSet.reserve`, `ActiveSet.install` — the two steps of loading, each atomic.
* `ActiveSet.load` — both steps without interruption.
-/

namespace Dunning

/-- The hook that is always there. -/
def logHook : String := "log"

/-- Known hook names in increasing order. -/
structure HookNames where
  names : List String := [logHook]
  deriving Repr, DecidableEq

namespace HookNames

/-- The names with one more. -/
def register (h : HookNames) (name : String) : HookNames := ⟨AccountFacts.insertTag name h.names⟩

/-- Whether a name is known. -/
def contains (h : HookNames) (name : String) : Bool := h.names.contains name

/-- How the names describe themselves. -/
def shown (h : HookNames) : String :=
  Text.described "OverdueHookRegistry" "hooks" (Text.listed (h.names.map Text.quoted))

end HookNames

/-- The active state set, if one was loaded, and the last version handed out. -/
structure ActiveSet where
  current : Option StateSet := none
  lastVersion : UInt64 := 0
  deriving DecidableEq

namespace ActiveSet

/-- Hand out the next version. -/
def reserve (a : ActiveSet) : UInt64 × ActiveSet :=
  (a.lastVersion + 1, { a with lastVersion := a.lastVersion + 1 })

/-- Make a checked set active if it is newer than the active one. -/
def install (a : ActiveSet) (set : StateSet) : Except StateSetError Unit × ActiveSet :=
  match a.current with
  | some active =>
    if set.version ≤ active.version then (.error (.staleVersion set.version active.version), a)
    else (.ok (), ⟨some set, max a.lastVersion set.version⟩)
  | none => (.ok (), ⟨some set, max a.lastVersion set.version⟩)

/-- Check a document under a version: its states, then its hooks. -/
def check (version : UInt64) (text : String) (hooks : HookNames) : Except StateSetError StateSet :=
  match StateSet.ofText? version text with
  | .error e => .error e
  | .ok set =>
    match set.checkHooks hooks.contains with
    | .error e => .error e
    | .ok () => .ok set

/-- Make the set of a document active if it passes the checks. -/
def activate (a : ActiveSet) (version : UInt64) (text : String) (hooks : HookNames) :
    Except StateSetError StateSet × ActiveSet :=
  match check version text hooks with
  | .error e => (.error e, a)
  | .ok set =>
    match a.install set with
    | (.ok (), a) => (.ok set, a)
    | (.error e, a) => (.error e, a)

/-- Load a document. A refused document uses up its version. -/
def load (a : ActiveSet) (text : String) (hooks : HookNames) :
    Except StateSetError StateSet × ActiveSet :=
  let (version, a) := a.reserve
  a.activate version text hooks

/-- Load a document from a file; without a text the file cannot be read and no version is used. -/
def loadFile (a : ActiveSet) (path : String) (text : Option String) (hooks : HookNames) :
    Except StateSetError StateSet × ActiveSet :=
  match text with
  | none => (.error (.malformed ("cannot read " ++ path ++ ": no such file")), a)
  | some text => a.load text hooks

end ActiveSet

end Dunning
