import Dunning.Json.Basic

/-!
# Decoding documents into records

A record is written as an object, or as an array of its fields in the order of their declaration. A
field that the record knows may occur once. A strict record refuses unknown fields; others ignore
them, whatever they hold.

A field is *omittable* when it has a default; in an array the omittable fields at the end may be
left out. A field without a default that is read as optional may be absent from an object but not
from an array.

## Main definitions

* `Shape` — the fields of a record, in order.
* `Shape.entries?` — the fields that a document gives, by name.
* `required`, `optional`, `withDefault` — reading one field.
* `Node.variant?` — a name out of a fixed set, alone or as the one field of an object.
* `Node.tagged?` — a record whose kind is given by one of its fields.
-/

namespace Dunning

/-- A field of a record. -/
structure FieldSpec where
  name : String
  omittable : Bool
  deriving Repr, DecidableEq

/-- A field that every array has to give. -/
def field (name : String) : FieldSpec := ⟨name, false⟩

/-- A field with a default. -/
def defaulted (name : String) : FieldSpec := ⟨name, true⟩

/-- The fields of a record in the order of their declaration. -/
structure Shape where
  fields : List FieldSpec
  strict : Bool
  deriving Repr

/-- Fields by name. -/
abbrev Entries := List (String × Node)

namespace Shape

/-- Whether the record has a field of this name. -/
def knows (shape : Shape) (name : String) : Bool :=
  shape.fields.any fun f => f.name == name

/-- The known fields of an object, each at most once. -/
def objectEntries? (shape : Shape) : List (Option String × Node) → Option Entries
  | [] => some []
  | (name, node) :: rest =>
    match name, shape.objectEntries? rest with
    | some name, some entries =>
      if shape.knows name then
        if entries.any fun e => e.1 == name then none else some ((name, node) :: entries)
      else if shape.strict then none
      else some entries
    | _, _ => none

/-- The fields of an array, in order. -/
def arrayEntries? (shape : Shape) (items : List Node) : Option Entries :=
  if items.length ≤ shape.fields.length
      ∧ (shape.fields.drop items.length).all FieldSpec.omittable then
    some ((shape.fields.map FieldSpec.name).zip items)
  else none

/-- The fields that a document gives. -/
def entries? (shape : Shape) : Node → Option Entries
  | .object fields => shape.objectEntries? fields
  | .array items => shape.arrayEntries? items
  | _ => none

end Shape

namespace Entries

/-- The document of a field. -/
def find? (entries : Entries) (name : String) : Option Node :=
  entries.lookup name

/-- A field that has to be there. -/
def required {α : Type} (entries : Entries) (name : String) (read : Node → Option α) : Option α :=
  (entries.find? name).bind read

/-- A field that may be absent or null. -/
def optional {α : Type} (entries : Entries) (name : String) (read : Node → Option α) :
    Option (Option α) :=
  match entries.find? name with
  | none => some none
  | some .null => some none
  | some node => (read node).map some

/-- A field that may be absent, but not null. -/
def withDefault {α : Type} (entries : Entries) (name : String) (default : α)
    (read : Node → Option α) : Option α :=
  match entries.find? name with
  | none => some default
  | some node => read node

end Entries

namespace Node

/-- A truth value. -/
def bool? : Node → Option Bool
  | .bool b => some b
  | _ => none

/-- A text. -/
def string? : Node → Option String
  | .string s => s
  | _ => none

/-- A whole number below `limit`. -/
def below? (limit : Nat) : Node → Option Nat
  | .number l => (l.within? 0 limit).map Int.toNat
  | _ => none

/-- A whole number of 32 bits. -/
def uint32? (n : Node) : Option UInt32 :=
  (n.below? UInt32.size).map UInt32.ofNat

/-- A whole number of 64 bits. -/
def uint64? (n : Node) : Option UInt64 :=
  (n.below? UInt64.size).map UInt64.ofNat

/-- The items of a list, all read. -/
def readItems? {α : Type} (read : Node → Option α) : List Node → Option (List α)
  | [] => some []
  | item :: rest =>
    match read item, readItems? read rest with
    | some a, some as => some (a :: as)
    | _, _ => none

/-- A list whose items are all read. -/
def list? {α : Type} (read : Node → Option α) : Node → Option (List α)
  | .array items => readItems? read items
  | _ => none

/-- What may stand beside a variant name in an object: null, or in a tagged record also an empty
object. -/
def isUnit (tagged : Bool) : Node → Bool
  | .null => true
  | .object [] => tagged
  | _ => false

/-- A name out of a fixed set, written as a string or as the only field of an object. -/
def variant? {α : Type} (parse : String → Option α) (tagged : Bool) : Node → Option α
  | .string (some s) => parse s
  | .object [(some s, value)] => if value.isUnit tagged then parse s else none
  | _ => none

/-- How deep a value may nest that is read whole. -/
def maxDepth : Nat := 127

/-- The fields other than the tag, and the tag, which has to occur once. -/
def splitTag? (tag : String) :
    List (Option String × Node) → Option (Option Node × List (Option String × Node))
  | [] => some (none, [])
  | (name, node) :: rest =>
    match name, splitTag? tag rest with
    | some name, some (found, others) =>
      if name = tag then
        match found with
        | none => some (some node, others)
        | some _ => none
      else some (found, (some name, node) :: others)
    | _, _ => none

/-- Whether every string and number in a document denotes a value. -/
def denotes (node : Node) : Bool := node.toJson?.isSome

/-- A record whose kind is given by the field `tag`, anywhere in an object or first in an array:
the kind and the other fields. Everything in it is read whole. -/
def tagged? (tag : String) (node : Node) : Option (String × Node) :=
  if maxDepth < node.depth || !node.denotes then none
  else
    match node with
    | .object fields =>
      match splitTag? tag fields with
      | some (some (.string (some kind)), others) => some (kind, .object others)
      | _ => none
    | .array (.string (some kind) :: items) => some (kind, .array items)
    | _ => none

end Node

end Dunning
