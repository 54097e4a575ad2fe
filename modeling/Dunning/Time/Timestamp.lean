import Dunning.Text.Blank
import Dunning.Text.Digits
import Dunning.Time.Civil
import Dunning.Time.Instant

/-!
# Timestamps

Instants are written in universal time, with as many of 0, 3, 6 or 9 decimals as they need. A year
of more than four digits carries a sign. A moment in a leap second has the second 60.

The reader takes more than the printer writes: a `T` of either case or a space between date and
time, an offset in hours and minutes in place of `Z`, any number of decimals (those after the ninth
are dropped), one-digit numbers, and blanks between the numbers. Every minute may have a second 60;
an offset is a number of minutes and leaves it the last of its minute.

## Main definitions

* `Instant.render` — the written form.
* `Instant.parse?` — the instant that a text denotes.
-/

namespace Dunning.Instant

/-! ## Writing -/

/-- A year: four digits, or a sign and at least four digits. -/
def renderYear (year : Int) : List Char :=
  if 0 ≤ year ∧ year ≤ 9999 then Text.padded 4 year.toNat
  else (if year < 0 then '-' else '+') :: Text.padded 4 year.natAbs

/-- The decimals of a second, the shortest of 0, 3, 6 or 9 that is exact. -/
def renderFraction (nanos : Nat) : List Char :=
  if nanos = 0 then []
  else if nanos % 1000000 = 0 then '.' :: Text.padded 3 (nanos / 1000000)
  else if nanos % 1000 = 0 then '.' :: Text.padded 6 (nanos / 1000)
  else '.' :: Text.padded 9 nanos

/-- The characters of an instant. -/
def chars (t : Instant) : List Char :=
  let date := Civil.ofDays (t.secs / 86400)
  let second := (t.secs % 86400).toNat
  renderYear date.year ++ ['-'] ++ Text.padded 2 date.month ++ ['-'] ++ Text.padded 2 date.day ++
    ['T'] ++ Text.padded 2 (second / 3600) ++ [':'] ++ Text.padded 2 (second / 60 % 60) ++ [':'] ++
    Text.padded 2 (second % 60 + t.frac / 1000000000) ++ renderFraction (t.frac % 1000000000) ++
    ['Z']

/-- The written form of an instant. -/
def render (t : Instant) : String := String.ofList t.chars

/-! ## Reading -/

/-- The characters from the first that is no blank. -/
def skipBlanks (cs : List Char) : List Char := cs.dropWhile Text.isBlank

/-- Between one and `width` digits at the front, as a number. -/
def number? (width : Nat) (cs : List Char) : Option (Nat × List Char) :=
  let digits := (cs.take width).takeWhile Char.isDigit
  if digits.isEmpty then none
  else some (Text.digitsValue digits, cs.drop digits.length)

/-- A number after blanks. -/
def part? (width : Nat) (cs : List Char) : Option (Nat × List Char) :=
  number? width (skipBlanks cs)

/-- A year after blanks: up to four digits, or any number of digits after a sign. -/
def year? (cs : List Char) : Option (Int × List Char) :=
  match skipBlanks cs with
  | '-' :: rest => (number? rest.length rest).map fun (n, rest) => (-(n : Int), rest)
  | '+' :: rest => (number? rest.length rest).map fun (n, rest) => ((n : Int), rest)
  | rest => (number? 4 rest).map fun (n, rest) => ((n : Int), rest)

/-- A separator after blanks. -/
def mark? (c : Char) (cs : List Char) : Option (List Char) :=
  match skipBlanks cs with
  | d :: rest => if d = c then some rest else none
  | [] => none

/-- Decimals of a second in nanoseconds, if there is a point. -/
def fraction? (cs : List Char) : Option (Nat × List Char) :=
  match cs with
  | '.' :: rest =>
    let digits := rest.takeWhile Char.isDigit
    if digits.isEmpty then none
    else
      let kept := digits.take 9
      some (Text.digitsValue kept * Nat.pow 10 (9 - kept.length), rest.drop digits.length)
  | _ => some (0, cs)

/-- An offset from universal time in seconds. -/
def offset? (cs : List Char) : Option (Int × List Char) :=
  match cs with
  | 'Z' :: rest => some (0, rest)
  | 'z' :: rest => some (0, rest)
  | u :: t :: c :: rest =>
    if u.toUpper = 'U' ∧ t.toUpper = 'T' ∧ c.toUpper = 'C' then some (0, rest)
    else
      let sign : Option Int :=
        match u with
        | '+' => some 1
        | '-' => some (-1)
        | '\u2212' => some (-1)
        | _ => none
      match sign, (t :: c :: rest) with
      | some sign, h₁ :: h₂ :: rest =>
        if h₁.isDigit ∧ h₂.isDigit then
          match rest.dropWhile fun c => c == ':' || Text.isBlank c with
          | m₁ :: m₂ :: rest =>
            if '0' ≤ m₁ ∧ m₁ ≤ '5' ∧ m₂.isDigit then
              let hours := Text.digitsValue [h₁, h₂]
              let minutes := Text.digitsValue [m₁, m₂]
              if hours < 24 then
                some (sign * ((hours * 3600 + minutes * 60 : Nat) : Int), rest)
              else none
            else none
          | _ => none
        else none
      | _, _ => none
  | _ => none

/-- A date at the front. -/
def date? (cs : List Char) : Option (Civil × List Char) := do
  let (year, cs) ← year? cs
  let cs ← mark? '-' cs
  let (month, cs) ← part? 2 cs
  let cs ← mark? '-' cs
  let (day, cs) ← part? 2 cs
  let date : Civil := ⟨year, month, day⟩
  if date.valid then some (date, cs) else none

/-- A time of day at the front: its second and the nanoseconds in it. The second 60 extends the
second 59. -/
def timeOfDay? (cs : List Char) : Option ((Nat × Nat) × List Char) := do
  let (hour, cs) ← part? 2 cs
  let cs ← mark? ':' cs
  let (minute, cs) ← part? 2 cs
  let cs ← mark? ':' cs
  let (second, cs) ← part? 2 cs
  let (nanos, cs) ← fraction? cs
  let start := (hour * 60 + minute) * 60
  if hour < 24 ∧ minute < 60 ∧ second ≤ 60 then
    some (if second = 60 then (start + 59, nanos + 1000000000) else (start + second, nanos), cs)
  else none

/-- The letter or space between date and time. -/
def separator? (cs : List Char) : Option (List Char) :=
  match cs with
  | 'T' :: rest => some rest
  | 't' :: rest => some rest
  | ' ' :: rest => some rest
  | _ => none

/-- The instant that some characters denote. -/
def parseChars? (cs : List Char) : Option Instant := do
  let (date, cs) ← date? cs
  let cs ← separator? cs
  let ((second, nanos), cs) ← timeOfDay? cs
  let (offset, cs) ← offset? (skipBlanks cs)
  if (skipBlanks cs).isEmpty then
    ofParts? (date.toDays * 86400 + second - offset) nanos
  else none

/-- The instant that a text denotes. -/
def parse? (s : String) : Option Instant := parseChars? s.toList

end Dunning.Instant
