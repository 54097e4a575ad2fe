import Dunning.Text.Unshown

/-!
# Quoted texts

Names are shown between double quotes when a registry describes itself. Quotes, backslashes and the
common control characters have two-character escapes; a character that has no visible form is shown
by its code point in hexadecimal.

## Main definitions

* `quoted` — a text between quotes with its escapes.
* `listed` — several shown items between brackets.
-/

namespace Dunning.Text

/-- The characters that stand for one character between quotes. -/
def escape (c : Char) : List Char :=
  match c with
  | '"' => ['\\', '"']
  | '\\' => ['\\', '\\']
  | '\n' => ['\\', 'n']
  | '\r' => ['\\', 'r']
  | '\t' => ['\\', 't']
  | '\x00' => ['\\', '0']
  | c =>
    if isUnshown c then
      ['\\', 'u', '\x7b'] ++ Nat.toDigits 16 c.toNat ++ ['\x7d']
    else [c]

/-- A text between double quotes. -/
def quoted (s : String) : String :=
  String.ofList ('"' :: s.toList.flatMap escape ++ ['"'])

/-- Shown items between brackets, separated by a comma and a space. -/
def listed (items : List String) : String :=
  "[" ++ String.intercalate ", " items ++ "]"

/-- A record with one field, as registries describe themselves. -/
def described (type field shown : String) : String :=
  type ++ " \x7b " ++ field ++ ": " ++ shown ++ " \x7d"

end Dunning.Text
