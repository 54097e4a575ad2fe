import Dunning.Json.Basic

/-!
# Hiding what depends on the run

Two runs of a scenario give the same report up to fresh identifiers and up to the wording of
surrounding systems. A report hides both: an identifier that the scenario does not mention is
written `<id>`, and what follows a phrase that introduces foreign wording is written `<detail>`.

## Main definitions

* `maskDetails`, `maskIds` — the two replacements in a text.
* `mask` — a document with both made in all its texts.
-/

namespace Dunning.Scenario

/-- What follows the first occurrence of a key, with what stands before its end. -/
def splitAfter (key : List Char) : List Char → Option (List Char × List Char)
  | [] => if key.isEmpty then some ([], []) else none
  | c :: rest =>
    if key.isPrefixOf (c :: rest) then some (key, (c :: rest).drop key.length)
    else (splitAfter key rest).map fun (before, after) => (c :: before, after)

/-- The phrases that introduce foreign wording. -/
def detailPhrases : List String :=
  ["malformed payment retry payload: ", "malformed billing date payload: ", "malformed state set: ",
   "malformed facts.json: ", "cannot read facts.json: ", "invalid identifier: AccountId: ",
   "invalid identifier: PaymentId: ", "invalid identifier: InvoiceId: "]

/-- The phrases that introduce an operation and then foreign wording. -/
def operationPhrases : List String := ["sqlx error in ", "decode error in "]

/-- Hide the text after a phrase. -/
def maskAfter (cs : List Char) (phrase : String) : List Char :=
  match splitAfter phrase.toList cs with
  | some (before, _) => before ++ "<detail>".toList
  | none => cs

/-- Hide the text after a phrase and an operation. -/
def maskAfterOperation (cs : List Char) (phrase : String) : List Char :=
  match splitAfter phrase.toList cs with
  | some (before, after) =>
    match splitAfter ": ".toList after with
    | some (operation, _) => before ++ operation ++ "<detail>".toList
    | none => cs
  | none => cs

/-- Hide foreign wording. -/
def maskDetails (cs : List Char) : List Char :=
  operationPhrases.foldl maskAfterOperation (detailPhrases.foldl maskAfter cs)

/-- The 32 digits of a written identifier at the front. -/
def idAtFront? (cs : List Char) : Option (List Char) :=
  let front := cs.take 36
  let digits := front.filter (· != '-')
  let isDigit (c : Char) : Bool := c.isDigit || ('a' ≤ c && c ≤ 'f')
  if front.length = 36 ∧ [8, 13, 18, 23].all (fun i => front[i]? == some '-') ∧
      digits.length = 32 ∧ digits.all isDigit then some digits
  else none

/-- Whether a key occurs. -/
def occurs (key : List Char) : List Char → Bool
  | [] => key.isEmpty
  | c :: rest => key.isPrefixOf (c :: rest) || occurs key rest

/-- Hide identifiers that the scenario does not mention, after dropping `skip` characters. -/
def maskIds (mentioned : List Char) : Nat → List Char → List Char
  | _, [] => []
  | skip + 1, _ :: rest => maskIds mentioned skip rest
  | 0, c :: rest =>
    match idAtFront? (c :: rest) with
    | some digits =>
      if occurs digits mentioned then c :: maskIds mentioned 0 rest
      else "<id>".toList ++ maskIds mentioned 35 rest
    | none => c :: maskIds mentioned 0 rest

/-- The text of a scenario as identifiers are looked for in it: lower case, without hyphens. -/
def mentionedIn (scenario : String) : List Char :=
  (scenario.toList.filter (· != '-')).map Char.toLower

/-- Hide both in a text. -/
def maskText (mentioned : List Char) (s : String) : String :=
  let cs := maskDetails s.toList
  String.ofList (if cs.length < 36 then cs else maskIds mentioned 0 cs)

mutual

/-- Hide both in all texts of a document. -/
def mask (mentioned : List Char) : Json → Json
  | .string s => .string (maskText mentioned s)
  | .array xs => .array (maskItems mentioned xs)
  | .object fields => .object (maskFields mentioned fields)
  | other => other

/-- Hide both in the texts of a list. -/
def maskItems (mentioned : List Char) : List Json → List Json
  | [] => []
  | x :: rest => mask mentioned x :: maskItems mentioned rest

/-- Hide both in the texts of the fields of an object. -/
def maskFields (mentioned : List Char) : List (String × Json) → List (String × Json)
  | [] => []
  | (name, x) :: rest => (name, mask mentioned x) :: maskFields mentioned rest

end

end Dunning.Scenario
