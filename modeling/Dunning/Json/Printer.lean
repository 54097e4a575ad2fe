import Dunning.Json.Basic

/-!
# Writing JSON text

Values are written without spaces. Quotes, backslashes and control characters are escaped, all other
characters stand for themselves.

## Main definitions

* `Json.render` — the text of a value.
-/

namespace Dunning.Json

/-- A lower-case hexadecimal digit. -/
def hexDigit (n : Nat) : Char :=
  Nat.digitChar n

/-- The characters that stand for one character of a string. -/
def escape (c : Char) : List Char :=
  match c with
  | '"' => ['\\', '"']
  | '\\' => ['\\', '\\']
  | '\x08' => ['\\', 'b']
  | '\x09' => ['\\', 't']
  | '\x0a' => ['\\', 'n']
  | '\x0c' => ['\\', 'f']
  | '\x0d' => ['\\', 'r']
  | c =>
    if c.toNat < 0x20 then
      ['\\', 'u', '0', '0', hexDigit (c.toNat / 16), hexDigit (c.toNat % 16)]
    else [c]

/-- A string between quotes. -/
def renderString (s : String) : List Char :=
  '"' :: s.toList.flatMap escape ++ ['"']

/-- A number. -/
def renderNumber : Number → List Char
  | .int n =>
    if n < 0 then '-' :: Nat.toDigits 10 n.natAbs else Nat.toDigits 10 n.natAbs
  | .decimal d => d.render

mutual

/-- The characters of a value. -/
def chars : Json → List Char
  | .null => ['n', 'u', 'l', 'l']
  | .bool true => ['t', 'r', 'u', 'e']
  | .bool false => ['f', 'a', 'l', 's', 'e']
  | .number n => renderNumber n
  | .string s => renderString s
  | .array items => '[' :: itemChars items
  | .object fields => '\x7b' :: fieldChars fields

/-- The items of an array with their separators and the closing bracket. -/
def itemChars : List Json → List Char
  | [] => [']']
  | [item] => chars item ++ [']']
  | item :: rest => chars item ++ ',' :: itemChars rest

/-- The fields of an object with their separators and the closing brace. -/
def fieldChars : List (String × Json) → List Char
  | [] => ['\x7d']
  | [(name, value)] => renderString name ++ ':' :: chars value ++ ['\x7d']
  | (name, value) :: rest => renderString name ++ ':' :: chars value ++ ',' :: fieldChars rest

end

/-- The text of a value. -/
def render (j : Json) : String :=
  String.ofList (chars j)

end Dunning.Json
