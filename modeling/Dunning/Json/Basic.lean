import Dunning.Number.Shortest

/-!
# JSON values

Payloads, stored records and configuration documents are JSON. A value (`Json`) is what a program
holds; a node (`Node`) is a document as it was written: its numbers are literals, its objects keep
every field in order, duplicates included, and a string may hold an escaped surrogate without its
partner, which no text can represent.

## Main definitions

* `Json`, `Number` — values.
* `Node`, `Literal` — documents as written.
* `Json.toNode` — the document that writes a value.
* `Node.toJson?` — the value that a document denotes, if it denotes one.
-/

namespace Dunning

/-- A number: whole within 64 bits, signed or unsigned, else a decimal. -/
inductive Number where
  | int (n : Int)
  | decimal (d : Number.Decimal)
  deriving Repr, DecidableEq

/-- A JSON value. -/
inductive Json where
  | null
  | bool (b : Bool)
  | number (n : Number)
  | string (s : String)
  | array (items : List Json)
  | object (fields : List (String × Json))
  deriving Repr, Inhabited

namespace Json

/-- A natural number as a value. -/
def nat (n : Nat) : Json := .number (.int n)

/-- A whole number as a value. -/
def int (n : Int) : Json := .number (.int n)

/-- A value or `null`. -/
def ofOption {α : Type} (write : α → Json) : Option α → Json
  | none => .null
  | some a => write a

/-- A list of written items. -/
def ofList {α : Type} (write : α → Json) (items : List α) : Json :=
  .array (items.map write)

/-- A field that is left out when there is nothing to say. -/
def fieldOf {α : Type} (name : String) (write : α → Json) : Option α → List (String × Json)
  | none => []
  | some a => [(name, write a)]

/-- A list field that is left out when the list is empty. -/
def listField {α : Type} (name : String) (write : α → Json) : List α → List (String × Json)
  | [] => []
  | items => [(name, ofList write items)]

/-- Put a field into a list of fields with increasing names; a field of that name is replaced. -/
def insertField (name : String) (value : Json) : List (String × Json) → List (String × Json)
  | [] => [(name, value)]
  | (other, old) :: rest =>
    if name < other then (name, value) :: (other, old) :: rest
    else if name = other then (name, value) :: rest
    else (other, old) :: insertField name value rest

end Json

/-- A number as written: `± significand · 10 ^ exponent`. It is plain when it is a whole number with
all its digits, without a point and without an exponent. -/
structure Literal where
  negative : Bool
  significand : Nat
  exponent : Int
  plain : Bool
  deriving Repr, DecidableEq

namespace Literal

/-- The literal of a whole number. -/
def ofInt (n : Int) : Literal :=
  ⟨n < 0, n.natAbs, 0, true⟩

/-- The whole number that a plain literal denotes. Minus zero is none. -/
def toInt? (l : Literal) : Option Int :=
  if l.plain && !(l.negative && l.significand == 0) then
    some (if l.negative then -(l.significand : Int) else l.significand)
  else none

/-- The whole number of a literal when it lies in `low ≤ n < high`. -/
def within? (low high : Int) (l : Literal) : Option Int :=
  match l.toInt? with
  | some n => if low ≤ n ∧ n < high then some n else none
  | none => none

/-- The number that a literal denotes, or `none` when it is beyond every number. -/
def toNumber? (l : Literal) : Option Number :=
  match l.within? (-9223372036854775808) 18446744073709551616 with
  | some n => some (.int n)
  | none => (Number.Decimal.ofScientific? l.negative l.significand l.exponent).map .decimal

theorem toInt?_ofInt (n : Int) : (ofInt n).toInt? = some n := by
  unfold ofInt toInt?
  rcases Int.lt_or_le n 0 with hn | hn
  · have hne : (n.natAbs == 0) = false := by
      rw [beq_eq_false_iff_ne]
      omega
    have habs : -(n.natAbs : Int) = n := by omega
    rw [decide_eq_true hn, hne]
    exact congrArg some habs
  · have habs : (n.natAbs : Int) = n := Int.natAbs_of_nonneg hn
    rw [decide_eq_false (Int.not_lt.mpr hn)]
    exact congrArg some habs

end Literal

/-- The literal that writes a number. -/
def Number.toLiteral : Number → Literal
  | .int n => Literal.ofInt n
  | .decimal d => ⟨d.negative, d.digits, d.exponent, false⟩

/-- A document as written. A string is `none` when it holds an escaped surrogate without its
partner. -/
inductive Node where
  | null
  | bool (b : Bool)
  | number (l : Literal)
  | string (s : Option String)
  | array (items : List Node)
  | object (fields : List (Option String × Node))
  deriving Repr, Inhabited

namespace Json

mutual

/-- The document that writes a value. -/
def toNode : Json → Node
  | .null => .null
  | .bool b => .bool b
  | .number n => .number n.toLiteral
  | .string s => .string (some s)
  | .array items => .array (toNodes items)
  | .object fields => .object (toNodeFields fields)

/-- The documents that write a list of values. -/
def toNodes : List Json → List Node
  | [] => []
  | item :: rest => toNode item :: toNodes rest

/-- The documents that write the fields of an object. -/
def toNodeFields : List (String × Json) → List (Option String × Node)
  | [] => []
  | (name, value) :: rest => (some name, toNode value) :: toNodeFields rest

end

mutual

/-- A value with the fields of its objects in increasing order of their names. -/
def sorted : Json → Json
  | .array items => .array (sortedItems items)
  | .object fields => .object (sortedFields fields)
  | other => other

/-- The items of an array with sorted objects. -/
def sortedItems : List Json → List Json
  | [] => []
  | item :: rest => sorted item :: sortedItems rest

/-- The fields of an object in increasing order; of equal names the first stays. -/
def sortedFields : List (String × Json) → List (String × Json)
  | [] => []
  | (name, value) :: rest => insertField name (sorted value) (sortedFields rest)

end

end Json

namespace Node

mutual

/-- The value that a document denotes. Of equal names the last counts. -/
def toJson? : Node → Option Json
  | .null => some .null
  | .bool b => some (.bool b)
  | .number l => l.toNumber?.map .number
  | .string s => s.map .string
  | .array items => (toJsonItems? items).map .array
  | .object fields => (toJsonFields? [] fields).map .object

/-- The values of a list of documents. -/
def toJsonItems? : List Node → Option (List Json)
  | [] => some []
  | item :: rest =>
    match toJson? item, toJsonItems? rest with
    | some value, some values => some (value :: values)
    | _, _ => none

/-- The fields of an object, put into `done` one after another. -/
def toJsonFields? (done : List (String × Json)) :
    List (Option String × Node) → Option (List (String × Json))
  | [] => some done
  | (name, item) :: rest =>
    match name, toJson? item with
    | some name, some value => toJsonFields? (Json.insertField name value done) rest
    | _, _ => none

end

mutual

/-- The number of arrays and objects around the innermost value. -/
def depth : Node → Nat
  | .array items => depthItems items + 1
  | .object fields => depthFields fields + 1
  | _ => 0

/-- The largest depth in a list of documents. -/
def depthItems : List Node → Nat
  | [] => 0
  | item :: rest => max (depth item) (depthItems rest)

/-- The largest depth of a field. -/
def depthFields : List (Option String × Node) → Nat
  | [] => 0
  | (_, item) :: rest => max (depth item) (depthFields rest)

end

end Node

end Dunning
