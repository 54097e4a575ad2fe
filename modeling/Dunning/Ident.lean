import Dunning.Json.Decode
import Dunning.Text.Digits

/-!
# Identifiers

Accounts, payments, invoices, work items and attempts are named by 128-bit identifiers. They are
written as five groups of lower-case hexadecimal digits. The reader also takes the 32 digits without
hyphens, and the grouped form between braces or after `urn:uuid:`, with digits and letters of either
case.

## Main definitions

* `Uuid` — an identifier.
* `Uuid.render`, `Uuid.parse?` — its text.
* `AccountId`, `PaymentId`, `InvoiceId`, `ItemId` — identifiers of one kind each.
-/

namespace Dunning

/-- The number of identifiers, `2 ^ 128`. -/
abbrev Uuid.size : Nat := 0x100000000000000000000000000000000

/-- An identifier of 128 bits. -/
structure Uuid where
  toNat : Nat
  toNat_lt : toNat < Uuid.size
  deriving DecidableEq

namespace Uuid

instance : Inhabited Uuid := ⟨⟨0, by decide⟩⟩

/-- The identifier of a number, counted modulo `Uuid.size`. -/
def ofNat (n : Nat) : Uuid := ⟨n % size, Nat.mod_lt _ (by decide)⟩

/-- The last `count` hexadecimal digits of a number. -/
def hexDigits : Nat → Nat → List Char
  | 0, _ => []
  | count + 1, n => hexDigits count (n / 16) ++ [Nat.digitChar (n % 16)]

/-- The value of a list of hexadecimal digits. -/
def hexValue? (cs : List Char) : Option Nat :=
  cs.foldl (fun acc c => do
    let acc ← acc
    let d ← Text.hexDigit? c
    pure (16 * acc + d)) (some 0)

/-- The characters of an identifier. -/
def chars (u : Uuid) : List Char :=
  hexDigits 8 (u.toNat / 0x1000000000000000000000000) ++ ['-'] ++
    hexDigits 4 (u.toNat / 0x100000000000000000000) ++ ['-'] ++
    hexDigits 4 (u.toNat / 0x10000000000000000) ++ ['-'] ++
    hexDigits 4 (u.toNat / 0x1000000000000) ++ ['-'] ++ hexDigits 12 u.toNat

/-- The written form of an identifier. -/
def render (u : Uuid) : String := String.ofList u.chars

/-- The identifier of 32 hexadecimal digits. -/
def ofDigits? (cs : List Char) : Option Uuid :=
  if cs.length = 32 then (hexValue? cs).map ofNat else none

/-- The identifier of five groups of digits with hyphens between them. -/
def ofGroups? (cs : List Char) : Option Uuid :=
  if cs.length = 36 ∧ [8, 13, 18, 23].all (fun i => cs[i]? == some '-') then
    ofDigits? (cs.filter (· != '-'))
  else none

/-- The identifier that some characters denote. -/
def parseChars? (cs : List Char) : Option Uuid :=
  match cs.length with
  | 32 => ofDigits? cs
  | 36 => ofGroups? cs
  | 38 =>
    if cs.head? = some '\x7b' ∧ cs.getLast? = some '\x7d' then ofGroups? (cs.drop 1).dropLast
    else none
  | 45 =>
    if (cs.take 9).map Char.toLower = "urn:uuid:".toList then ofGroups? (cs.drop 9) else none
  | _ => none

/-- The identifier that a text denotes. -/
def parse? (s : String) : Option Uuid := parseChars? s.toList

/-- An identifier as a document. -/
def toJson (u : Uuid) : Json := .string u.render

/-- The identifier of a document. -/
def decode? (n : Node) : Option Uuid := n.string?.bind parse?

end Uuid

/-- The name of a billing account. It is also the owner of the account's deferred work. -/
structure AccountId where
  uuid : Uuid
  deriving DecidableEq, Inhabited

/-- The name of a payment: one charge, possibly attempted several times. -/
structure PaymentId where
  uuid : Uuid
  deriving DecidableEq, Inhabited

/-- The name of an invoice. -/
structure InvoiceId where
  uuid : Uuid
  deriving DecidableEq, Inhabited

/-- The name of a work item. -/
structure ItemId where
  uuid : Uuid
  deriving DecidableEq, Inhabited

namespace AccountId

/-- The written form. -/
def render (id : AccountId) : String := id.uuid.render

/-- The account that a text names. -/
def parse? (s : String) : Option AccountId := (Uuid.parse? s).map AccountId.mk

/-- An account as a document. -/
def toJson (id : AccountId) : Json := id.uuid.toJson

/-- The account of a document. -/
def decode? (n : Node) : Option AccountId := (Uuid.decode? n).map AccountId.mk

end AccountId

namespace PaymentId

/-- The written form. -/
def render (id : PaymentId) : String := id.uuid.render

/-- The payment that a text names. -/
def parse? (s : String) : Option PaymentId := (Uuid.parse? s).map PaymentId.mk

/-- A payment as a document. -/
def toJson (id : PaymentId) : Json := id.uuid.toJson

/-- The payment of a document. -/
def decode? (n : Node) : Option PaymentId := (Uuid.decode? n).map PaymentId.mk

end PaymentId

namespace InvoiceId

/-- The invoice that a text names. -/
def parse? (s : String) : Option InvoiceId := (Uuid.parse? s).map InvoiceId.mk

/-- An invoice as a document. -/
def toJson (id : InvoiceId) : Json := id.uuid.toJson

/-- The invoice of a document. -/
def decode? (n : Node) : Option InvoiceId := (Uuid.decode? n).map InvoiceId.mk

end InvoiceId

namespace ItemId

/-- The written form. -/
def render (id : ItemId) : String := id.uuid.render

/-- An item's name as a document. -/
def toJson (id : ItemId) : Json := id.uuid.toJson

/-- The item of a document. -/
def decode? (n : Node) : Option ItemId := (Uuid.decode? n).map ItemId.mk

/-- Items have one name when its number is one. -/
theorem ext_toNat {a b : ItemId} (h : a.uuid.toNat = b.uuid.toNat) : a = b := by
  obtain ⟨⟨m, hm⟩⟩ := a
  obtain ⟨⟨n, hn⟩⟩ := b
  obtain rfl : m = n := h
  rfl

end ItemId

end Dunning
