/-!
# Whole numbers in text

Settings give numbers as decimal text: an optional plus sign, then digits, with no blanks inside. A
number is refused at its first character that is no digit or that takes the value above the limit,
whichever comes first.

## Main definitions

* `parseBounded` — the reader, with `NumberError` as the reason of a refusal.
* `digitsValue` — the value of a list of decimal digits.
* `holdDigits` — the leading digits that stay below a limit.
* `padded` — a number with zeros in front up to a given width.
-/

namespace Dunning.Text

/-- Why a text is not a whole number below a limit. -/
inductive NumberError where
  | empty
  | invalidDigit
  | tooLarge
  deriving Repr, DecidableEq

/-- The wording of a refusal. -/
def NumberError.message : NumberError → String
  | .empty => "cannot parse integer from empty string"
  | .invalidDigit => "invalid digit found in string"
  | .tooLarge => "number too large to fit in target type"

/-- The value of a decimal digit. -/
def digitValue (c : Char) : Nat :=
  c.toNat - '0'.toNat

/-- The value of a hexadecimal digit of either case. -/
def hexDigit? (c : Char) : Option Nat :=
  if '0' ≤ c ∧ c ≤ '9' then some (c.toNat - '0'.toNat)
  else if 'a' ≤ c ∧ c ≤ 'f' then some (c.toNat - 'a'.toNat + 10)
  else if 'A' ≤ c ∧ c ≤ 'F' then some (c.toNat - 'A'.toNat + 10)
  else none

/-- Read digits onto `acc`, stopping at the first that is no digit or overshoots `limit`. -/
def readDigits (limit : Nat) (acc : Nat) : List Char → Except NumberError Nat
  | [] => .ok acc
  | c :: rest =>
    if !c.isDigit then .error .invalidDigit
    else if 10 * acc + digitValue c < limit then
      readDigits limit (10 * acc + digitValue c) rest
    else .error .tooLarge

/-- Read a whole number below `limit`, with an optional plus sign. -/
def parseBounded (limit : Nat) (s : String) : Except NumberError Nat :=
  match s.toList with
  | [] => .error .empty
  | ['+'] => .error .invalidDigit
  | ['-'] => .error .invalidDigit
  | '+' :: digits => readDigits limit 0 digits
  | digits => readDigits limit 0 digits

/-- The value of a list of decimal digits, the most significant first. -/
def digitsValue (cs : List Char) : Nat :=
  cs.foldl (fun acc c => 10 * acc + digitValue c) 0

/-- Read digits onto `acc` as long as the value stays below `limit`, and count the digits that are
left over. -/
def holdDigits (limit : Nat) (acc : Nat) : List Char → Nat × Nat
  | [] => (acc, 0)
  | c :: rest =>
    if 10 * acc + digitValue c < limit then holdDigits limit (10 * acc + digitValue c) rest
    else (acc, rest.length + 1)

/-- The decimal digits of a number, with zeros in front up to `width` characters. -/
def padded (width n : Nat) : List Char :=
  let digits := Nat.toDigits 10 n
  List.replicate (width - digits.length) '0' ++ digits

/-- A number that is read is below the limit. -/
theorem readDigits_lt {limit acc n : Nat} {cs : List Char} (hacc : acc < limit)
    (h : readDigits limit acc cs = .ok n) : n < limit := by
  induction cs generalizing acc with
  | nil =>
      simp only [readDigits, Except.ok.injEq] at h
      omega
  | cons c rest ih =>
      simp only [readDigits] at h
      split at h
      · simp at h
      · split at h
        · rename_i hlt
          exact ih hlt h
        · simp at h

end Dunning.Text
