import Dunning.Number.Scientific

/-!
# Shortest decimals

A fractional number is kept as the decimal with the fewest digits that rounds to the same binary
value, and of those the nearest to it. This is also the form in which it is written again.

## Main definitions

* `Decimal` — a sign, digits without trailing zeros and a power of ten.
* `Binary.shortest` — the shortest decimal of a binary value.
* `Decimal.ofScientific?` — the shortest decimal of a number with a power of ten.
* `Decimal.render` — positional notation up to sixteen places, else one digit and an exponent.
-/

namespace Dunning.Number

/-- The number `± digits · 10 ^ exponent`. -/
structure Decimal where
  negative : Bool
  digits : Nat
  exponent : Int
  deriving Repr, DecidableEq

/-- Take the trailing zeros off, at most `fuel` of them. -/
def stripZeros : Nat → Nat → Int → Nat × Int
  | 0, digits, exponent => (digits, exponent)
  | fuel + 1, digits, exponent =>
    if digits ≠ 0 ∧ digits % 10 = 0 then stripZeros fuel (digits / 10) (exponent + 1)
    else (digits, exponent)

/-- A fraction `num / den` of natural numbers. -/
structure Fraction where
  num : Nat
  den : Nat

/-- The fraction `n · base ^ exponent`. -/
def Fraction.scale (n base : Nat) (exponent : Int) : Fraction :=
  if 0 ≤ exponent then ⟨n * Nat.pow base exponent.toNat, 1⟩
  else ⟨n, Nat.pow base (-exponent).toNat⟩

/-- Comparison by cross multiplication. -/
def Fraction.less (a b : Fraction) : Bool :=
  a.num * b.den < b.num * a.den

/-- The lower end of the numbers that round to a binary value. -/
def Binary.lowEnd (b : Binary) : Fraction :=
  if b.mantissa = Nat.pow 2 (precision - 1) ∧ minExponent < b.exponent then
    Fraction.scale (4 * b.mantissa - 1) 2 (b.exponent - 2)
  else Fraction.scale (2 * b.mantissa - 1) 2 (b.exponent - 1)

/-- The upper end of the numbers that round to a binary value. -/
def Binary.highEnd (b : Binary) : Fraction :=
  Fraction.scale (2 * b.mantissa + 1) 2 (b.exponent - 1)

/-- Whether a number rounds to the binary value. The two ends do so for an even mantissa. -/
def Binary.attracts (b : Binary) (x : Fraction) : Bool :=
  if b.mantissa % 2 = 0 then !(x.less b.lowEnd) && !(b.highEnd.less x)
  else b.lowEnd.less x && x.less b.highEnd

/-- The power of ten of the leading digit. -/
def Fraction.leading (x : Fraction) : Int :=
  ((Nat.toDigits 10 (x.num * Nat.pow 10 330 / x.den)).length : Int) - 331

/-- The distance of two fractions, over the product of their denominators. -/
def Fraction.distance (a b : Fraction) : Nat :=
  (a.num * b.den - b.num * a.den) + (b.num * a.den - a.num * b.den)

/-- The nearest decimal of the grid `10 ^ exponent` that rounds to the binary value, if one does. -/
def Binary.onGrid (b : Binary) (value : Fraction) (exponent : Int) : Option Nat :=
  let step := Fraction.scale 1 10 exponent
  let below := value.num * step.den / (value.den * step.num)
  let low := Fraction.scale below 10 exponent
  let high := Fraction.scale (below + 1) 10 exponent
  let lowFits := b.attracts low
  let highFits := b.attracts high
  if lowFits && highFits then
    let toLow := Fraction.distance value low * high.den
    let toHigh := Fraction.distance value high * low.den
    if toLow < toHigh then some below
    else if toHigh < toLow then some (below + 1)
    else if below % 2 = 0 then some below else some (below + 1)
  else if lowFits then some below
  else if highFits then some (below + 1)
  else none

/-- Try grids from the coarsest, one more digit each time. -/
def Binary.search (b : Binary) (value : Fraction) : Nat → Int → Nat × Int
  | 0, exponent => (value.num * 1 / value.den, exponent)
  | fuel + 1, exponent =>
    match b.onGrid value exponent with
    | some digits => stripZeros 20 digits exponent
    | none => b.search value fuel (exponent - 1)

/-- The decimal with the fewest digits that rounds to a binary value. -/
def Binary.shortest (b : Binary) : Nat × Int :=
  if b.mantissa = 0 then (0, 0)
  else
    let value := Fraction.scale b.mantissa 2 b.exponent
    b.search value 18 value.leading

/-- The shortest decimal of the value that `± digits · 10 ^ power` is read as, or `none` when that
is out of range. -/
def Decimal.ofScientific? (negative : Bool) (digits : Nat) (power : Int) : Option Decimal :=
  (Binary.ofScientific? digits power).map fun b =>
    let (digits, exponent) := b.shortest
    ⟨negative, digits, exponent⟩

/-- The written form: positional while the point falls within sixteen places to the right or five
to the left of the first digit, else with an exponent. -/
def Decimal.render (d : Decimal) : List Char :=
  let sign := if d.negative then ['-'] else []
  let digits := Nat.toDigits 10 d.digits
  let point : Int := digits.length + d.exponent
  sign ++
    if d.digits = 0 then ['0', '.', '0']
    else if 0 ≤ d.exponent ∧ point ≤ 16 then
      digits ++ List.replicate d.exponent.toNat '0' ++ ['.', '0']
    else if 0 < point ∧ point ≤ 16 then
      digits.take point.toNat ++ ['.'] ++ digits.drop point.toNat
    else if -5 < point ∧ point ≤ 0 then
      ['0', '.'] ++ List.replicate (-point).toNat '0' ++ digits
    else
      let power := (toString (point - 1)).toList
      if digits.length = 1 then digits ++ ['e'] ++ power
      else digits.take 1 ++ ['.'] ++ digits.drop 1 ++ ['e'] ++ power

end Dunning.Number
