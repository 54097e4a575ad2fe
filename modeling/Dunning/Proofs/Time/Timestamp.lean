import Dunning.Proofs.Time.Calendar
import Dunning.Time.Wire
import Mathlib.Algebra.Group.Nat.Defs

/-!
# Instants are read back

Every instant is written so that it is read back as itself, from the first of the calendar to the
last, with its sub-second digits and in a leap second as well. The reader takes a written number by
number: each one is as wide as the reader allows or ends at the mark that follows it, a year with a
sign among them, and the decimals that are left out are zeros.

## Main results

* `Text.digitsValue_padded` — a padded number has the value of the number.
* `Instant.parse?_render` — the written form of an instant denotes it.
* `Instant.decode?_toJson` — so does its document.
-/

namespace Dunning

/-! ## Padded numbers -/

namespace Text

theorem isDigit_of_mem_padded {c : Char} {width n : Nat} (h : c ∈ padded width n) :
    c.isDigit = true := by
  rw [padded, List.mem_append] at h
  rcases h with h | h
  · rw [List.eq_of_mem_replicate h]
    decide
  · exact Nat.isDigit_of_mem_toDigits (by omega) (by omega) h

theorem length_padded {width n : Nat} (hpos : 0 < width) (h : n < 10 ^ width) :
    (padded width n).length = width := by
  have hle := (Nat.length_toDigits_le_iff (by omega) hpos).mpr h
  rw [padded, List.length_append, List.length_replicate]
  omega

theorem padded_ne_nil (width n : Nat) : padded width n ≠ [] := by
  have hpos := Nat.length_toDigits_pos (b := 10) (n := n)
  intro h
  have hlength := congrArg List.length h
  rw [padded, List.length_append, List.length_nil] at hlength
  omega

/-- Zeros in front do not count. -/
theorem digitsValue_zeros (count : Nat) (cs : List Char) :
    digitsValue (List.replicate count '0' ++ cs) = digitsValue cs := by
  induction count with
  | zero => rfl
  | succ count ih => exact ih

theorem digitsValue_padded (width n : Nat) : digitsValue (padded width n) = n := by
  rw [padded, digitsValue_zeros]
  exact Nat.ofDigitChars_toDigits (by omega) (by omega)

/-- A digit is not blank. -/
theorem isBlank_of_isDigit {c : Char} (h : c.isDigit = true) : isBlank c = false := by
  have hrange : 48 ≤ c.toNat ∧ c.toNat ≤ 57 := by
    simp only [Char.isDigit, Bool.and_eq_true, decide_eq_true_eq] at h
    exact h
  simp only [isBlank, blankRanges, List.any_eq_false, List.forall_mem_cons, Bool.and_eq_true,
    decide_eq_true_eq]
  refine ⟨?_, ?_, ?_, ?_, ?_, ?_, ?_, ?_, ?_, ?_, nofun⟩ <;> omega

end Text

namespace Instant

/-! ## Numbers and marks -/

/-- The digits at the front end where the number is as wide as it may be, or at the first character
that is no digit. -/
theorem number?_append {width : Nat} {digits rest : List Char} (hne : digits ≠ [])
    (hdigits : ∀ c ∈ digits, c.isDigit = true) (hwidth : digits.length ≤ width)
    (hend : digits.length = width ∨ rest.takeWhile Char.isDigit = []) :
    number? width (digits ++ rest) = some (Text.digitsValue digits, rest) := by
  have htail : (rest.take (width - digits.length)).takeWhile Char.isDigit = [] := by
    rcases hend with hfull | hstop
    · rw [hfull, Nat.sub_self, List.take_zero, List.takeWhile_nil]
    · cases rest with
      | nil => rw [List.take_nil, List.takeWhile_nil]
      | cons c rest =>
          cases hc : c.isDigit with
          | true => rw [List.takeWhile_cons, hc] at hstop; cases hstop
          | false =>
              cases width - digits.length with
              | zero => rfl
              | succ k => rw [List.take_succ_cons, List.takeWhile_cons, hc]; rfl
  have hfront : ((digits ++ rest).take width).takeWhile Char.isDigit = digits := by
    rw [List.take_append, List.take_of_length_le hwidth,
      List.takeWhile_append_of_pos hdigits, htail, List.append_nil]
  rw [number?, hfront, if_neg (by simpa using hne), List.drop_left]

/-- A number of two digits is read whatever follows it. -/
theorem part?_padded {n : Nat} (h : n < 100) (rest : List Char) :
    part? 2 (Text.padded 2 n ++ rest) = some (n, rest) := by
  have hlength : (Text.padded 2 n).length = 2 := Text.length_padded (by omega) h
  have hskip : skipBlanks (Text.padded 2 n ++ rest) = Text.padded 2 n ++ rest := by
    obtain ⟨c, cs, hcs⟩ := List.exists_cons_of_ne_nil (Text.padded_ne_nil 2 n)
    have hdigit : c.isDigit = true := Text.isDigit_of_mem_padded (hcs ▸ List.mem_cons_self)
    rw [hcs, skipBlanks, List.cons_append, List.dropWhile_cons, Text.isBlank_of_isDigit hdigit]
    rfl
  rw [part?, hskip, number?_append (Text.padded_ne_nil 2 n) (fun c => Text.isDigit_of_mem_padded)
    (by omega) (.inl hlength), Text.digitsValue_padded]

/-- A mark that is not blank is read where it stands. -/
theorem mark?_cons {c : Char} (h : Text.isBlank c = false) (rest : List Char) :
    mark? c (c :: rest) = some rest := by
  rw [mark?, skipBlanks, List.dropWhile_cons, h]
  exact if_pos rfl

/-- A digit is none of the two signs. -/
private theorem ne_sign_of_isDigit {c : Char} (h : c.isDigit = true) : c ≠ '-' ∧ c ≠ '+' := by
  constructor
  · rintro rfl
    cases h
  · rintro rfl
    cases h

theorem year?_minus (rest : List Char) :
    year? ('-' :: rest) = (number? rest.length rest).map fun (n, rest) => (-(n : Int), rest) :=
  rfl

theorem year?_plus (rest : List Char) :
    year? ('+' :: rest) = (number? rest.length rest).map fun (n, rest) => ((n : Int), rest) :=
  rfl

/-- A year after a sign is read up to the hyphen that follows it. -/
private theorem number?_year (n : Nat) (rest : List Char) :
    number? (Text.padded 4 n ++ '-' :: rest).length (Text.padded 4 n ++ '-' :: rest) =
      some (n, '-' :: rest) := by
  rw [number?_append (Text.padded_ne_nil 4 n) (fun c => Text.isDigit_of_mem_padded)
    (by rw [List.length_append]; omega) (.inr rfl), Text.digitsValue_padded]

/-- A year without a sign ends after its fourth digit, a year with one at the hyphen. -/
theorem year?_renderYear (year : Int) (rest : List Char) :
    year? (renderYear year ++ '-' :: rest) = some (year, '-' :: rest) := by
  rw [renderYear]
  split
  · rename_i hyear
    have hlength : (Text.padded 4 year.toNat).length = 4 := Text.length_padded (by omega) (by omega)
    have hnumber : number? 4 (Text.padded 4 year.toNat ++ '-' :: rest) =
        some (year.toNat, '-' :: rest) := by
      rw [number?_append (Text.padded_ne_nil 4 _) (fun c => Text.isDigit_of_mem_padded)
        (by omega) (.inl hlength), Text.digitsValue_padded]
    obtain ⟨c, cs, hcs⟩ := List.exists_cons_of_ne_nil (Text.padded_ne_nil 4 year.toNat)
    have hdigit : c.isDigit = true := Text.isDigit_of_mem_padded (hcs ▸ List.mem_cons_self)
    obtain ⟨hminus, hplus⟩ := ne_sign_of_isDigit hdigit
    rw [hcs, List.cons_append] at hnumber ⊢
    rw [year?, skipBlanks, List.dropWhile_cons, Text.isBlank_of_isDigit hdigit, if_neg nofun]
    split
    · rename_i heq
      cases heq
      exact absurd rfl hminus
    · rename_i heq
      cases heq
      exact absurd rfl hplus
    · rw [hnumber]
      show some ((year.toNat : Int), _) = _
      rw [Int.toNat_of_nonneg hyear.1]
  · split
    · rename_i hneg
      have habs : -(year.natAbs : Int) = year := by omega
      rw [List.cons_append, year?_minus, number?_year]
      show some (-(year.natAbs : Int), _) = _
      rw [habs]
    · rename_i hneg
      have habs : (year.natAbs : Int) = year := by omega
      rw [List.cons_append, year?_plus, number?_year]
      show some ((year.natAbs : Int), _) = _
      rw [habs]

/-- Up to nine decimals are read up to the letter that follows them. -/
private theorem fraction?_point {width n : Nat} (hpos : 0 < width) (hwidth : width ≤ 9)
    (h : n < 10 ^ width) (rest : List Char) :
    fraction? ('.' :: Text.padded width n ++ 'Z' :: rest) =
      some (n * 10 ^ (9 - width), 'Z' :: rest) := by
  have hlength := Text.length_padded hpos h
  have hempty : ¬(Text.padded width n).isEmpty = true := by
    simpa using Text.padded_ne_nil width n
  have hdigits : (Text.padded width n ++ 'Z' :: rest).takeWhile Char.isDigit =
      Text.padded width n := by
    rw [List.takeWhile_append_of_pos (fun c => Text.isDigit_of_mem_padded)]
    exact List.append_nil _
  have hkept : (Text.padded width n).take 9 = Text.padded width n :=
    List.take_of_length_le (by omega)
  have hrest : (Text.padded width n ++ 'Z' :: rest).drop width = 'Z' :: rest :=
    List.drop_left' hlength
  rw [List.cons_append, fraction?]
  simp only [hdigits, if_neg hempty, hkept, Text.digitsValue_padded, hlength, hrest, Nat.pow_eq]

/-- The decimals of a second are read back, and those that are left out are zeros. -/
theorem fraction?_renderFraction {nanos : Nat} (h : nanos < 1000000000) (rest : List Char) :
    fraction? (renderFraction nanos ++ 'Z' :: rest) = some (nanos, 'Z' :: rest) := by
  rw [renderFraction]
  split
  · rename_i hzero
    rw [hzero]
    rfl
  · split
    · rw [fraction?_point (by omega) (by omega) (by omega)]
      congr 2
      omega
    · split
      · rw [fraction?_point (by omega) (by omega) (by omega)]
        congr 2
        omega
      · rw [fraction?_point (by omega) (by omega) (by omega)]
        congr 2
        omega

/-! ## Dates and times of day -/

/-- A written date of the calendar is read back. -/
theorem date?_append {date : Civil} (h : date.valid = true) (rest : List Char) :
    date? (renderYear date.year ++ '-' :: (Text.padded 2 date.month ++ '-' ::
      (Text.padded 2 date.day ++ rest))) = some (date, rest) := by
  have hhyphen : Text.isBlank '-' = false := by decide
  have hmonth : date.month < 100 := by
    simp only [Civil.valid, Bool.and_eq_true, decide_eq_true_eq] at h
    omega
  have hday : date.day < 100 := by
    have hlength : Civil.monthLength date.year date.month ≤ 31 := by
      unfold Civil.monthLength
      split
      · split <;> omega
      all_goals omega
    simp only [Civil.valid, Bool.and_eq_true, decide_eq_true_eq] at h
    omega
  simp only [date?, year?_renderYear, mark?_cons hhyphen, part?_padded hmonth, part?_padded hday,
    Option.bind_eq_bind, Option.bind_some, if_pos h]

/-- A written time of day is read back. What is beyond a second of nanoseconds is written, and read,
as one second more; only the last second of a minute may have it. -/
theorem timeOfDay?_append {second frac : Nat} (hsecond : second < 86400) (hfrac : frac < 2000000000)
    (hleap : 1000000000 ≤ frac → second % 60 = 59) (rest : List Char) :
    timeOfDay? (Text.padded 2 (second / 3600) ++ ':' :: (Text.padded 2 (second / 60 % 60) ++ ':' ::
      (Text.padded 2 (second % 60 + frac / 1000000000) ++
        (renderFraction (frac % 1000000000) ++ 'Z' :: rest)))) =
      some ((second, frac), 'Z' :: rest) := by
  have hcolon : Text.isBlank ':' = false := by decide
  have hhour : second / 3600 < 24 := by omega
  have hminute : second / 60 % 60 < 60 := by omega
  have hwritten : second % 60 + frac / 1000000000 ≤ 60 := by omega
  have hdecimals : frac % 1000000000 < 1000000000 := by omega
  simp only [timeOfDay?, part?_padded (show second / 3600 < 100 by omega), mark?_cons hcolon,
    part?_padded (show second / 60 % 60 < 100 by omega),
    part?_padded (show second % 60 + frac / 1000000000 < 100 by omega),
    fraction?_renderFraction hdecimals, Option.bind_eq_bind, Option.bind_some,
    if_pos (And.intro hhour (And.intro hminute hwritten)), Option.some.injEq, Prod.mk.injEq,
    and_true]
  split
  · rw [Prod.mk.injEq]
    omega
  · rw [Prod.mk.injEq]
    omega

/-! ## Instants -/

/-- An instant in the shape in which its parts are read. -/
private theorem chars_eq (t : Instant) :
    t.chars = renderYear (Civil.ofDays (t.secs / 86400)).year ++ '-' ::
      (Text.padded 2 (Civil.ofDays (t.secs / 86400)).month ++ '-' ::
        (Text.padded 2 (Civil.ofDays (t.secs / 86400)).day ++ 'T' ::
          (Text.padded 2 ((t.secs % 86400).toNat / 3600) ++ ':' ::
            (Text.padded 2 ((t.secs % 86400).toNat / 60 % 60) ++ ':' ::
              (Text.padded 2 ((t.secs % 86400).toNat % 60 + t.frac / 1000000000) ++
                (renderFraction (t.frac % 1000000000) ++ 'Z' :: [])))))) := by
  simp only [chars, List.append_assoc, List.cons_append, List.nil_append]

/-- **The written form of an instant denotes it.** -/
theorem parse?_render (t : Instant) : parse? t.render = some t := by
  have hfirst := t.first_le
  have hlast := t.le_last
  have hvalid : (Civil.ofDays (t.secs / 86400)).valid = true :=
    Civil.valid_ofDays (by omega) (by omega)
  have hsecond : (t.secs % 86400).toNat < 86400 := by omega
  have htime := timeOfDay?_append hsecond t.frac_lt (fun h => by have := t.leap h; omega) []
  have hsecs : (Civil.ofDays (t.secs / 86400)).toDays * 86400 + (t.secs % 86400).toNat - 0 =
      t.secs := by
    rw [Civil.toDays_ofDays]
    omega
  rw [parse?, render, String.toList_ofList, chars_eq, parseChars?, date?_append hvalid,
    Option.bind_eq_bind, Option.bind_some]
  show (timeOfDay? _).bind _ = _
  rw [htime, Option.bind_some]
  show ofParts? _ _ = _
  rw [ofParts?_eq_some_iff]
  exact ⟨hsecs.symm, rfl⟩

@[simp] theorem decode?_toJson (t : Instant) : decode? t.toJson.toNode = some t := by
  show (some t.render).bind parse? = some t
  rw [Option.bind_some, parse?_render]

end Instant

end Dunning
