import Dunning.Json.Basic
import Dunning.Text.Digits

/-!
# Reading JSON text

The reader takes standard JSON and nothing else: no comments, no trailing commas, no leading zeros,
no raw control characters in strings, no text after the value. Nesting is unlimited here; what a
document may hold is decided by whoever decodes its node.

## Main definitions

* `Node.parse?` — the document written by a text.
-/

namespace Dunning.Node

/-- The four characters that may stand between tokens. -/
def isSpace (c : Char) : Bool :=
  c == ' ' || c == '\t' || c == '\n' || c == '\r'

/-- The characters from the first that is not a space. -/
def skipSpace (cs : List Char) : List Char :=
  cs.dropWhile isSpace

/-- The value of four hexadecimal digits. -/
def hexValue4? (a b c d : Char) : Option Nat :=
  match Text.hexDigit? a, Text.hexDigit? b, Text.hexDigit? c, Text.hexDigit? d with
  | some a, some b, some c, some d => some (((a * 16 + b) * 16 + c) * 16 + d)
  | _, _, _, _ => none

/-- A piece of a string: a character, or an escaped unit of sixteen bits. -/
inductive Piece where
  | char (c : Char)
  | escaped (unit : Nat)
  deriving Repr, DecidableEq

/-- The character of a two-character escape. -/
def shortEscape? (c : Char) : Option Char :=
  match c with
  | '"' => some '"'
  | '\\' => some '\\'
  | '/' => some '/'
  | 'b' => some '\x08'
  | 'f' => some '\x0c'
  | 'n' => some '\n'
  | 'r' => some '\r'
  | 't' => some '\t'
  | _ => none

/-- The pieces up to the closing quote, and what follows it. -/
def pieces? : List Char → Option (List Piece × List Char)
  | [] => none
  | '"' :: rest => some ([], rest)
  | '\\' :: 'u' :: a :: b :: c :: d :: rest =>
    match hexValue4? a b c d, pieces? rest with
    | some unit, some (pieces, rest) => some (.escaped unit :: pieces, rest)
    | _, _ => none
  | '\\' :: c :: rest =>
    match shortEscape? c, pieces? rest with
    | some c, some (pieces, rest) => some (.char c :: pieces, rest)
    | _, _ => none
  | c :: rest =>
    if c.toNat < 0x20 ∨ c = '\\' then none
    else
      match pieces? rest with
      | some (pieces, rest) => some (.char c :: pieces, rest)
      | none => none

/-- Whether a unit opens a surrogate pair. -/
def isHigh (unit : Nat) : Bool := 0xd800 ≤ unit && unit < 0xdc00

/-- Whether a unit closes a surrogate pair. -/
def isLow (unit : Nat) : Bool := 0xdc00 ≤ unit && unit < 0xe000

/-- The characters of a list of pieces, or `none` when a surrogate has no partner. -/
def joinPieces? : List Piece → Option (List Char)
  | [] => some []
  | .char c :: rest => (joinPieces? rest).map (c :: ·)
  | .escaped high :: .escaped low :: rest =>
    if isHigh high then
      if isLow low then
        (joinPieces? rest).map
          (Char.ofNat (0x10000 + (high - 0xd800) * 0x400 + (low - 0xdc00)) :: ·)
      else none
    else if isLow high then none
    else (joinPieces? (.escaped low :: rest)).map (Char.ofNat high :: ·)
  | .escaped unit :: rest =>
    if isHigh unit || isLow unit then none
    else (joinPieces? rest).map (Char.ofNat unit :: ·)

/-- A string after its opening quote, and what follows its closing quote. -/
def parseString? (cs : List Char) : Option (Option String × List Char) :=
  (pieces? cs).map fun (pieces, rest) => ((joinPieces? pieces).map String.ofList, rest)

/-- The digits at the front, and what follows them. -/
def takeDigits (cs : List Char) : List Char × List Char :=
  (cs.takeWhile Char.isDigit, cs.dropWhile Char.isDigit)

/-- The digits after a point, if there is one. A point without digits is an error. -/
def parseFraction? (cs : List Char) : Option (Option (List Char) × List Char) :=
  match cs with
  | '.' :: rest =>
    match takeDigits rest with
    | ([], _) => none
    | (digits, rest) => some (some digits, rest)
  | _ => some (none, cs)

/-- The power of ten after an exponent mark, if there is one. -/
def parseExponent? (cs : List Char) : Option (Option Int × List Char) :=
  match cs with
  | mark :: rest =>
    if mark = 'e' ∨ mark = 'E' then
      let (negative, rest) :=
        match rest with
        | '-' :: rest => (true, rest)
        | '+' :: rest => (false, rest)
        | _ => (false, rest)
      match takeDigits rest with
      | ([], _) => none
      | (digits, rest) =>
        let value : Int := Text.digitsValue digits
        some (some (if negative then -value else value), rest)
    else some (none, cs)
  | [] => some (none, cs)

/-- The first number that a significand cannot hold. -/
def significandLimit : Nat := 18446744073709551616

/-- The literal of the parts of a number. The significand takes the digits that it can hold, those
before the point first; digits that are left over before the point only count for the magnitude,
and those after the point not at all. -/
def literalOf (negative : Bool) (whole : List Char) (fraction : Option (List Char))
    (power : Option Int) : Literal :=
  let decimals := fraction.getD []
  let (held, excess) := Text.holdDigits significandLimit 0 whole
  let (significand, unused) := Text.holdDigits significandLimit held decimals
  { negative, significand
    exponent := power.getD 0 + excess - (decimals.length - unused : Nat)
    plain := fraction.isNone && power.isNone && excess == 0 }

/-- A number literal after its sign, and what follows it. -/
def parseUnsigned? (negative : Bool) (cs : List Char) : Option (Literal × List Char) :=
  match takeDigits cs with
  | ([], _) => none
  | ('0' :: _ :: _, _) => none
  | (whole, rest) =>
    match parseFraction? rest with
    | none => none
    | some (fraction, rest) =>
      match parseExponent? rest with
      | none => none
      | some (power, rest) =>
        some (literalOf negative whole fraction power, rest)

/-- A number literal at the front, and what follows it. -/
def parseNumber? (cs : List Char) : Option (Literal × List Char) :=
  match cs with
  | '-' :: rest => parseUnsigned? true rest
  | _ => parseUnsigned? false cs

mutual

/-- A document at the front, and what follows it. The fuel bounds the number of tokens. -/
def parseNode? : Nat → List Char → Option (Node × List Char)
  | 0, _ => none
  | fuel + 1, cs =>
    match skipSpace cs with
    | 'n' :: 'u' :: 'l' :: 'l' :: rest => some (.null, rest)
    | 't' :: 'r' :: 'u' :: 'e' :: rest => some (.bool true, rest)
    | 'f' :: 'a' :: 'l' :: 's' :: 'e' :: rest => some (.bool false, rest)
    | '"' :: rest => (parseString? rest).map fun (s, rest) => (.string s, rest)
    | '[' :: rest =>
      match skipSpace rest with
      | ']' :: rest => some (.array [], rest)
      | rest => (parseItems? fuel rest).map fun (items, rest) => (.array items, rest)
    | '\x7b' :: rest =>
      match skipSpace rest with
      | '\x7d' :: rest => some (.object [], rest)
      | rest => (parseFields? fuel rest).map fun (fields, rest) => (.object fields, rest)
    | rest => (parseNumber? rest).map fun (l, rest) => (.number l, rest)

/-- The items of an array up to its closing bracket. -/
def parseItems? : Nat → List Char → Option (List Node × List Char)
  | 0, _ => none
  | fuel + 1, cs =>
    match parseNode? fuel cs with
    | none => none
    | some (item, rest) =>
      match skipSpace rest with
      | ',' :: rest => (parseItems? fuel rest).map fun (items, rest) => (item :: items, rest)
      | ']' :: rest => some ([item], rest)
      | _ => none

/-- The fields of an object up to its closing brace. -/
def parseFields? : Nat → List Char → Option (List (Option String × Node) × List Char)
  | 0, _ => none
  | fuel + 1, cs =>
    match skipSpace cs with
    | '"' :: rest =>
      match parseString? rest with
      | none => none
      | some (name, rest) =>
        match skipSpace rest with
        | ':' :: rest =>
          match parseNode? fuel rest with
          | none => none
          | some (item, rest) =>
            match skipSpace rest with
            | ',' :: rest =>
              (parseFields? fuel rest).map fun (fields, rest) => ((name, item) :: fields, rest)
            | '\x7d' :: rest => some ([(name, item)], rest)
            | _ => none
        | _ => none
    | _ => none

end

/-- The document written by a text. -/
def parse? (s : String) : Option Node :=
  let cs := s.toList
  match parseNode? (2 * cs.length + 2) cs with
  | some (node, rest) => if (skipSpace rest).isEmpty then some node else none
  | none => none

end Dunning.Node
