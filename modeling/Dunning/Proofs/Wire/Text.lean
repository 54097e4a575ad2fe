import Dunning.Json.Parser
import Dunning.Json.Printer
import Dunning.Proofs.Wire.Ident
import Dunning.Proofs.Wire.Record

/-!
# Written values are read back

The text of a value is read as the document that writes the value: every string with all its
characters, and every whole number within 64 bits. Nothing is separated by spaces, so each part of
the text ends where its last character says, except for a number, which ends at the separator or the
bracket after it.

## Main definitions

* `Json.IsWhole` — values with whole numbers within 64 bits only.

## Main results

* `Node.parseString?_escape` — a string is read up to its closing quote.
* `Node.parseNumber?_renderNumber` — a number is read up to what ends it.
* `Node.parse?_render` — the text of a value is read as its document.
-/

namespace Dunning

namespace Node

/-! ## Strings -/

/-- A character is written with a short escape, as a unit of sixteen bits, or as itself. -/
theorem escape_cases (c : Char) :
    (∃ e, Json.escape c = ['\\', e] ∧ e ≠ 'u' ∧ shortEscape? e = some c) ∨
    (c.toNat < 0x20 ∧ Json.escape c =
      ['\\', 'u', '0', '0', Json.hexDigit (c.toNat / 16), Json.hexDigit (c.toNat % 16)]) ∨
    (¬(c.toNat < 0x20 ∨ c = '\\') ∧ c ≠ '"' ∧ Json.escape c = [c]) := by
  unfold Json.escape
  split
  case h_8 hquote hbackslash _ _ _ _ _ =>
    split
    · rename_i hcontrol
      exact .inr (.inl ⟨hcontrol, rfl⟩)
    · rename_i hplain
      exact .inr (.inr ⟨not_or.mpr ⟨hplain, hbackslash⟩, hquote, rfl⟩)
  all_goals exact .inl ⟨_, rfl, by decide, rfl⟩

/-- A unit below the surrogates is the character of that number, whatever follows it. -/
theorem joinPieces?_escaped {unit : Nat} (h : unit < 0xd800) (rest : List Piece) :
    joinPieces? (.escaped unit :: rest) = (joinPieces? rest).map (Char.ofNat unit :: ·) := by
  have hhigh : isHigh unit = false := by
    unfold isHigh
    simp only [Bool.and_eq_false_iff, decide_eq_false_iff_not]
    omega
  have hlow : isLow unit = false := by
    unfold isLow
    simp only [Bool.and_eq_false_iff, decide_eq_false_iff_not]
    omega
  cases rest with
  | nil => simp [joinPieces?, hhigh, hlow]
  | cons piece rest =>
      cases piece with
      | char => simp [joinPieces?, hhigh, hlow]
      | escaped => simp [joinPieces?, hhigh, hlow]

/-- The two digits of a control character give its number. -/
theorem hexValue4?_control {n : Nat} (h : n < 0x20) :
    hexValue4? '0' '0' (Json.hexDigit (n / 16)) (Json.hexDigit (n % 16)) = some n := by
  have hzero : Text.hexDigit? '0' = some 0 := by decide
  have hvalue : ((0 * 16 + 0) * 16 + n / 16) * 16 + n % 16 = n := by omega
  simp only [hexValue4?, Json.hexDigit, hzero, Text.hexDigit?_digitChar (show n / 16 < 16 by omega),
    Text.hexDigit?_digitChar (show n % 16 < 16 by omega), hvalue]

/-- The characters up to the closing quote are read in pieces that join to them. -/
theorem pieces?_escape (cs rest : List Char) :
    ∃ pieces, pieces? (cs.flatMap Json.escape ++ '"' :: rest) = some (pieces, rest) ∧
      joinPieces? pieces = some cs := by
  induction cs with
  | nil => exact ⟨[], rfl, rfl⟩
  | cons c cs ih =>
      obtain ⟨pieces, hpieces, hjoin⟩ := ih
      rw [List.flatMap_cons, List.append_assoc]
      rcases escape_cases c with ⟨e, hescape, hne, hshort⟩ | ⟨hcontrol, hescape⟩ |
        ⟨hplain, hquote, hescape⟩
      · refine ⟨.char c :: pieces, ?_, by rw [joinPieces?, hjoin]; rfl⟩
        rw [hescape, List.cons_append, List.cons_append, List.nil_append, pieces?]
        · simp only [hshort, hpieces]
        · exact fun _ _ _ _ _ hunit => absurd hunit hne
      · refine ⟨.escaped c.toNat :: pieces, ?_, ?_⟩
        · rw [hescape]
          simp only [List.cons_append, List.nil_append, pieces?, hexValue4?_control hcontrol,
            hpieces]
        · rw [joinPieces?_escaped (by omega), hjoin, Char.ofNat_toNat]
          rfl
      · refine ⟨.char c :: pieces, ?_, by rw [joinPieces?, hjoin]; rfl⟩
        rw [hescape, List.cons_append, List.nil_append, pieces?]
        · simp only [if_neg hplain, hpieces]
        · exact hquote
        · exact fun _ _ _ _ _ hbackslash => absurd (.inr hbackslash) hplain
        · exact fun _ _ hbackslash => absurd (.inr hbackslash) hplain

/-- **A written string is read up to its closing quote.** -/
theorem parseString?_escape (s : String) (rest : List Char) :
    parseString? (s.toList.flatMap Json.escape ++ '"' :: rest) = some (some s, rest) := by
  obtain ⟨pieces, hpieces, hjoin⟩ := pieces?_escape s.toList rest
  simp only [parseString?, hpieces, hjoin, Option.map_some, String.ofList_toList]

/-! ## Numbers -/

end Node

namespace Text

theorem digitsValue_toDigits (n : Nat) : digitsValue (Nat.toDigits 10 n) = n :=
  Nat.ofDigitChars_toDigits (by omega) (by omega)

/-- A positive number does not begin with zero. -/
theorem head?_toDigits_ne {n : Nat} (h : 0 < n) : (Nat.toDigits 10 n).head? ≠ some '0' := by
  induction n using Nat.strongRecOn with
  | ind n ih =>
      rcases Nat.lt_or_ge n 10 with hdigit | hmore
      · have hall : ∀ d : Fin 10, 0 < (d : Nat) → Nat.digitChar d ≠ '0' := by decide
        rw [Nat.toDigits_of_lt_base hdigit]
        simpa using hall ⟨n, hdigit⟩ h
      · have hfront := ih (n / 10) (by omega) (by omega)
        rw [Nat.toDigits_of_base_le (by omega) hmore,
          List.head?_append_of_ne_nil _ Nat.toDigits_ne_nil]
        exact hfront

theorem le_foldl_digits (cs : List Char) (acc : Nat) :
    acc ≤ cs.foldl (fun acc c => 10 * acc + digitValue c) acc := by
  induction cs generalizing acc with
  | nil => exact Nat.le_refl _
  | cons c cs ih => exact Nat.le_trans (by omega) (ih (10 * acc + digitValue c))

/-- Digits of a number below the limit are all held. -/
theorem holdDigits_of_lt {limit acc : Nat} {cs : List Char}
    (h : cs.foldl (fun acc c => 10 * acc + digitValue c) acc < limit) :
    holdDigits limit acc cs = (cs.foldl (fun acc c => 10 * acc + digitValue c) acc, 0) := by
  induction cs generalizing acc with
  | nil => rfl
  | cons c cs ih =>
      have hfront := Nat.lt_of_le_of_lt (le_foldl_digits cs (10 * acc + digitValue c)) h
      rw [holdDigits, if_pos hfront, ih h]
      rfl

end Text

namespace Node

/-- What ends a number: the end of the text, or a character that no number goes on with. -/
def EndsNumber (rest : List Char) : Prop :=
  ∀ c ∈ rest.head?, c.isDigit = false ∧ c ≠ '.' ∧ c ≠ 'e' ∧ c ≠ 'E'

theorem takeDigits_append {digits rest : List Char} (hdigits : ∀ c ∈ digits, c.isDigit = true)
    (hrest : EndsNumber rest) : takeDigits (digits ++ rest) = (digits, rest) := by
  have hstop : rest.takeWhile Char.isDigit = [] ∧ rest.dropWhile Char.isDigit = rest := by
    cases rest with
    | nil => exact ⟨rfl, rfl⟩
    | cons c rest =>
        have hc := (hrest c rfl).1
        rw [List.takeWhile_cons, List.dropWhile_cons, hc]
        exact ⟨rfl, rfl⟩
  rw [takeDigits, List.takeWhile_append_of_pos hdigits, List.dropWhile_append_of_pos hdigits,
    hstop.1, hstop.2, List.append_nil]

theorem parseFraction?_of_endsNumber {rest : List Char} (h : EndsNumber rest) :
    parseFraction? rest = some (none, rest) := by
  unfold parseFraction?
  split
  · exact absurd rfl (h '.' rfl).2.1
  · rfl

theorem parseExponent?_of_endsNumber {rest : List Char} (h : EndsNumber rest) :
    parseExponent? rest = some (none, rest) := by
  cases rest with
  | nil => rfl
  | cons c rest =>
      obtain ⟨-, -, hlower, hupper⟩ := h c rfl
      simp only [parseExponent?, if_neg (not_or.mpr ⟨hlower, hupper⟩)]

/-- The digits of a number within 64 bits are a plain literal. -/
theorem literalOf_toDigits (negative : Bool) {n : Nat} (h : n < significandLimit) :
    literalOf negative (Nat.toDigits 10 n) none none = ⟨negative, n, 0, true⟩ := by
  have hvalue : (Nat.toDigits 10 n).foldl (fun acc c => 10 * acc + Text.digitValue c) 0 = n :=
    Text.digitsValue_toDigits n
  have hheld := Text.holdDigits_of_lt (hvalue ▸ h)
  rw [hvalue] at hheld
  simp only [literalOf, hheld]
  rfl

/-- No written number has a zero in front of other digits. -/
theorem toDigits_ne_zero_cons (n : Nat) (c : Char) (cs : List Char) :
    Nat.toDigits 10 n ≠ '0' :: c :: cs := by
  intro h
  rcases Nat.eq_zero_or_pos n with rfl | hpos
  · cases h
  · exact Text.head?_toDigits_ne hpos (congrArg List.head? h)

theorem parseUnsigned?_toDigits (negative : Bool) {n : Nat} (h : n < significandLimit)
    {rest : List Char} (hrest : EndsNumber rest) :
    parseUnsigned? negative (Nat.toDigits 10 n ++ rest) = some (⟨negative, n, 0, true⟩, rest) := by
  have hdigits : ∀ c ∈ Nat.toDigits 10 n, c.isDigit = true :=
    fun c => Nat.isDigit_of_mem_toDigits (by omega) (by omega)
  rw [parseUnsigned?, takeDigits_append hdigits hrest]
  split
  · rename_i heq
    exact absurd (Prod.mk.inj heq).1 Nat.toDigits_ne_nil
  · rename_i heq
    exact absurd (Prod.mk.inj heq).1 (toDigits_ne_zero_cons _ _ _)
  · rename_i heq
    obtain ⟨rfl, rfl⟩ := Prod.mk.inj heq
    simp only [parseFraction?_of_endsNumber hrest, parseExponent?_of_endsNumber hrest,
      literalOf_toDigits _ h]

/-- A minus sign stands before the digits of a negative number, and before nothing else. -/
theorem parseNumber?_of_isDigit {c : Char} (h : c.isDigit = true) (cs : List Char) :
    parseNumber? (c :: cs) = parseUnsigned? false (c :: cs) := by
  unfold parseNumber?
  split
  · rename_i heq
    rw [(List.cons.inj heq).1] at h
    cases h
  · rfl

theorem exists_toDigits_eq (n : Nat) :
    ∃ d ds, Nat.toDigits 10 n = d :: ds ∧ d.isDigit = true := by
  obtain ⟨d, ds, hds⟩ := List.exists_cons_of_ne_nil (Nat.toDigits_ne_nil (n := n) (b := 10))
  exact ⟨d, ds, hds,
    Nat.isDigit_of_mem_toDigits (by omega) (by omega) (hds ▸ List.mem_cons_self)⟩

theorem exists_renderNumber_eq (n : Int) :
    ∃ c cs, Json.renderNumber (.int n) = c :: cs ∧ (c = '-' ∨ c.isDigit = true) := by
  simp only [Json.renderNumber]
  split
  · exact ⟨'-', _, rfl, .inl rfl⟩
  · obtain ⟨d, ds, hds, hdigit⟩ := exists_toDigits_eq n.natAbs
    exact ⟨d, ds, hds, .inr hdigit⟩

/-- **A written number is read up to what ends it.** -/
theorem parseNumber?_renderNumber {n : Int} (h : n.natAbs < significandLimit) {rest : List Char}
    (hrest : EndsNumber rest) :
    parseNumber? (Json.renderNumber (.int n) ++ rest) = some (Literal.ofInt n, rest) := by
  have hunsigned := parseUnsigned?_toDigits (decide (n < 0)) h hrest
  simp only [Json.renderNumber, Literal.ofInt]
  rcases Int.lt_or_le n 0 with hneg | hpos
  · rw [decide_eq_true hneg] at hunsigned ⊢
    simp only [if_pos hneg, List.cons_append, parseNumber?, hunsigned]
  · rw [decide_eq_false (Int.not_lt.mpr hpos)] at hunsigned ⊢
    obtain ⟨d, ds, hds, hdigit⟩ := exists_toDigits_eq n.natAbs
    rw [hds, List.cons_append, ← parseNumber?_of_isDigit hdigit] at hunsigned
    rw [if_neg (Int.not_lt.mpr hpos), hds, List.cons_append, hunsigned]

end Node

namespace Json

/-! ## Values -/

mutual

/-- Values whose numbers are all whole and within 64 bits. -/
def IsWhole : Json → Prop
  | .array items => AreWhole items
  | .object fields => FieldsAreWhole fields
  | value => value.IsScalar

/-- Values in a list, all with whole numbers. -/
def AreWhole : List Json → Prop
  | [] => True
  | item :: rest => IsWhole item ∧ AreWhole rest

/-- Values of fields, all with whole numbers. -/
def FieldsAreWhole : List (String × Json) → Prop
  | [] => True
  | (_, value) :: rest => IsWhole value ∧ FieldsAreWhole rest

end

/-- A character that opens a value. -/
def Opens (c : Char) : Prop := Node.isSpace c = false ∧ c ≠ ']'

theorem opens_of_number {c : Char} (h : c = '-' ∨ c.isDigit = true) : Opens c := by
  rcases h with rfl | h
  · exact ⟨rfl, by decide⟩
  · have hne (d : Char) (hd : d.isDigit = false) : c ≠ d := by
      rintro rfl
      rw [hd] at h
      cases h
    refine ⟨?_, hne ']' rfl⟩
    simp only [Node.isSpace, Bool.or_eq_false_iff, beq_eq_false_iff_ne]
    exact ⟨⟨⟨hne ' ' rfl, hne '\t' rfl⟩, hne '\n' rfl⟩, hne '\r' rfl⟩

/-- The text of a value begins with a character that is no space and closes nothing. -/
theorem exists_chars_eq {value : Json} (h : value.IsWhole) :
    ∃ c cs, value.chars = c :: cs ∧ Opens c := by
  cases value with
  | null => exact ⟨'n', _, rfl, rfl, by decide⟩
  | bool b =>
      cases b with
      | false => exact ⟨'f', _, rfl, rfl, by decide⟩
      | true => exact ⟨'t', _, rfl, rfl, by decide⟩
  | string s => exact ⟨'"', _, rfl, rfl, by decide⟩
  | array items => exact ⟨'[', itemChars items, by rw [chars], rfl, by decide⟩
  | object fields => exact ⟨'\x7b', fieldChars fields, by rw [chars], rfl, by decide⟩
  | number n =>
      cases n with
      | decimal => exact h.elim
      | int n =>
          obtain ⟨c, cs, hchars, hc⟩ := Node.exists_renderNumber_eq n
          exact ⟨c, cs, by rw [chars, hchars], opens_of_number hc⟩

theorem itemChars_more (item next : Json) (more : List Json) :
    itemChars (item :: next :: more) = item.chars ++ ',' :: itemChars (next :: more) := by
  rw [itemChars]
  exact List.cons_ne_nil _ _

theorem fieldChars_last (name : String) (value : Json) :
    fieldChars [(name, value)] = renderString name ++ ':' :: (value.chars ++ ['\x7d']) := by
  rw [fieldChars, List.append_assoc, List.cons_append]

theorem fieldChars_more (name : String) (value : Json) (next : String × Json)
    (more : List (String × Json)) :
    fieldChars ((name, value) :: next :: more) =
      renderString name ++ ':' :: (value.chars ++ ',' :: fieldChars (next :: more)) := by
  rw [fieldChars, List.append_assoc, List.cons_append]
  exact List.cons_ne_nil _ _

theorem exists_itemChars_eq {item : Json} (h : item.IsWhole) (items : List Json) :
    ∃ c cs, itemChars (item :: items) = c :: cs ∧ Opens c := by
  obtain ⟨c, cs, hchars, hopens⟩ := exists_chars_eq h
  cases items with
  | nil => exact ⟨c, cs ++ [']'], by rw [itemChars, hchars, List.cons_append], hopens⟩
  | cons next more =>
      exact ⟨c, cs ++ ',' :: itemChars (next :: more),
        by rw [itemChars_more, hchars, List.cons_append], hopens⟩

theorem exists_fieldChars_eq (f : String × Json) (fields : List (String × Json)) :
    ∃ cs, fieldChars (f :: fields) = '"' :: cs := by
  obtain ⟨name, value⟩ := f
  cases fields with
  | nil => exact ⟨_, by rw [fieldChars_last, renderString]; rfl⟩
  | cons next more => exact ⟨_, by rw [fieldChars_more, renderString]; rfl⟩

end Json

namespace Node

theorem skipSpace_cons {c : Char} (h : isSpace c = false) (rest : List Char) :
    skipSpace (c :: rest) = c :: rest := by
  rw [skipSpace, List.dropWhile_cons, h]
  rfl

theorem parseNode?_number {c : Char} (h : c = '-' ∨ c.isDigit = true) (fuel : Nat)
    (cs : List Char) :
    parseNode? (fuel + 1) (c :: cs) =
      (parseNumber? (c :: cs)).map fun (l, rest) => (.number l, rest) := by
  have hother {d : Char} (hd : d ≠ '-') (hdigit : d.isDigit = false) : c ≠ d := by
    rintro rfl
    rcases h with rfl | h
    · exact hd rfl
    · rw [hdigit] at h
      cases h
  rw [parseNode?, skipSpace_cons (Json.opens_of_number h).1]
  split
  case h_7 => rfl
  all_goals
    rename_i heq
    exact absurd (List.cons.inj heq).1 (hother (by decide) (by decide))

theorem parseNode?_array {c : Char} (h : Json.Opens c) (fuel : Nat) (cs : List Char) :
    parseNode? (fuel + 1) ('[' :: c :: cs) =
      (parseItems? fuel (c :: cs)).map fun (items, rest) => (.array items, rest) := by
  rw [parseNode?, skipSpace_cons rfl]
  simp only [skipSpace_cons h.1]
  split
  · rename_i heq
    exact absurd (List.cons.inj heq).1 h.2
  · rfl

theorem parseNode?_object (fuel : Nat) (cs : List Char) :
    parseNode? (fuel + 1) ('\x7b' :: '"' :: cs) =
      (parseFields? fuel ('"' :: cs)).map fun (fields, rest) => (.object fields, rest) := by
  rw [parseNode?, skipSpace_cons rfl]
  rfl

/-- A separator or a closing bracket ends a number. -/
theorem endsNumber_cons {c : Char} (h : c = ',' ∨ c = ']' ∨ c = '\x7d') (rest : List Char) :
    EndsNumber (c :: rest) := by
  intro d hd
  obtain rfl := Option.some.inj hd
  rcases h with rfl | rfl | rfl <;> decide

theorem parseItems?_last {fuel : Nat} {cs rest : List Char} {item : Node}
    (h : parseNode? fuel cs = some (item, ']' :: rest)) :
    parseItems? (fuel + 1) cs = some ([item], rest) := by
  rw [parseItems?, h]
  rfl

theorem parseItems?_more {fuel : Nat} {cs rest tail : List Char} {item : Node} {items : List Node}
    (h : parseNode? fuel cs = some (item, ',' :: rest))
    (hmore : parseItems? fuel rest = some (items, tail)) :
    parseItems? (fuel + 1) cs = some (item :: items, tail) := by
  rw [parseItems?, h]
  simp only [skipSpace_cons (show isSpace ',' = false from rfl), hmore, Option.map_some]

theorem parseFields?_last {fuel : Nat} {name : String} {cs rest : List Char} {item : Node}
    (h : parseNode? fuel cs = some (item, '\x7d' :: rest)) :
    parseFields? (fuel + 1) (Json.renderString name ++ ':' :: cs) =
      some ([(some name, item)], rest) := by
  rw [parseFields?, Json.renderString, List.cons_append, List.cons_append, skipSpace_cons rfl]
  simp only [List.append_assoc, List.cons_append, List.nil_append, parseString?_escape,
    skipSpace_cons (show isSpace ':' = false from rfl), h]
  rfl

theorem parseFields?_more {fuel : Nat} {name : String} {cs rest tail : List Char} {item : Node}
    {fields : List (Option String × Node)} (h : parseNode? fuel cs = some (item, ',' :: rest))
    (hmore : parseFields? fuel rest = some (fields, tail)) :
    parseFields? (fuel + 1) (Json.renderString name ++ ':' :: cs) =
      some ((some name, item) :: fields, tail) := by
  rw [parseFields?, Json.renderString, List.cons_append, List.cons_append, skipSpace_cons rfl]
  simp only [List.append_assoc, List.cons_append, List.nil_append, parseString?_escape,
    skipSpace_cons (show isSpace ':' = false from rfl), h,
    skipSpace_cons (show isSpace ',' = false from rfl), hmore, Option.map_some]

/-- Fuel for the text of a value is never used up before the value. -/
theorem not_length_le_zero {value : Json} (h : value.IsWhole) : ¬2 * value.chars.length ≤ 0 := by
  obtain ⟨c, cs, hchars, -⟩ := Json.exists_chars_eq h
  rw [hchars, List.length_cons]
  omega

mutual

/-- **The text of a value is read up to its end.** By induction on the fuel, of which every bracket
and every item takes one step: two for each character are enough. -/
theorem parseNode?_chars : ∀ (fuel : Nat) (value : Json), value.IsWhole →
    2 * value.chars.length ≤ fuel → ∀ rest : List Char, EndsNumber rest →
    parseNode? fuel (value.chars ++ rest) = some (value.toNode, rest)
  | 0, _, h, hfuel, _, _ => absurd hfuel (not_length_le_zero h)
  | fuel + 1, value, h, hfuel, rest, hrest => by
    cases value with
    | null => rw [parseNode?]; rfl
    | bool b =>
        rw [parseNode?]
        cases b <;> rfl
    | number n =>
        cases n with
        | decimal => exact h.elim
        | int n =>
            have hbounds : -9223372036854775808 ≤ n ∧ n < 18446744073709551616 := h
            have hrange : n.natAbs < significandLimit := by
              unfold significandLimit
              omega
            obtain ⟨c, cs, hchars, hc⟩ := exists_renderNumber_eq n
            have hnumber := parseNumber?_renderNumber hrange hrest
            rw [hchars, List.cons_append] at hnumber
            rw [Json.chars, hchars, List.cons_append, parseNode?_number hc, hnumber, Json.toNode]
            rfl
    | string s =>
        rw [Json.chars, Json.renderString, parseNode?, List.cons_append, List.cons_append,
          skipSpace_cons rfl]
        simp only [List.append_assoc, List.cons_append, List.nil_append, parseString?_escape,
          Option.map_some, Json.toNode]
    | array items =>
        rw [Json.chars, List.length_cons] at hfuel
        rw [Json.chars, Json.toNode, List.cons_append]
        cases items with
        | nil =>
            rw [parseNode?, Json.itemChars, Json.toNodes]
            rfl
        | cons item items =>
            have hitems := parseItems?_itemChars fuel item items h (by omega) rest
            obtain ⟨c, cs, hchars, hopens⟩ := Json.exists_itemChars_eq h.1 items
            rw [hchars, List.cons_append] at hitems ⊢
            rw [parseNode?_array hopens, hitems, Option.map_some]
    | object fields =>
        rw [Json.chars, List.length_cons] at hfuel
        rw [Json.chars, Json.toNode, List.cons_append]
        cases fields with
        | nil =>
            rw [parseNode?, Json.fieldChars, Json.toNodeFields]
            rfl
        | cons f fields =>
            have hfields := parseFields?_fieldChars fuel f fields h (by omega) rest
            obtain ⟨cs, hchars⟩ := Json.exists_fieldChars_eq f fields
            rw [hchars, List.cons_append] at hfields ⊢
            rw [parseNode?_object, hfields, Option.map_some]

/-- The items of an array are read up to its closing bracket. -/
theorem parseItems?_itemChars : ∀ (fuel : Nat) (item : Json) (items : List Json),
    Json.AreWhole (item :: items) → 2 * (Json.itemChars (item :: items)).length ≤ fuel →
    ∀ rest : List Char, parseItems? fuel (Json.itemChars (item :: items) ++ rest) =
      some (Json.toNodes (item :: items), rest)
  | 0, item, items, h, hfuel, _ => by
    obtain ⟨c, cs, hchars, -⟩ := Json.exists_itemChars_eq h.1 items
    rw [hchars, List.length_cons] at hfuel
    omega
  | fuel + 1, item, items, h, hfuel, rest => by
    cases items with
    | nil =>
        rw [Json.itemChars, List.length_append, List.length_singleton] at hfuel
        have hitem := parseNode?_chars fuel item h.1 (by omega) (']' :: rest)
          (endsNumber_cons (.inr (.inl rfl)) rest)
        rw [Json.itemChars, List.append_assoc, List.singleton_append, parseItems?_last hitem,
          Json.toNodes, Json.toNodes]
    | cons next more =>
        rw [Json.itemChars_more, List.length_append, List.length_cons] at hfuel
        have hitem := parseNode?_chars fuel item h.1 (by omega)
          (',' :: (Json.itemChars (next :: more) ++ rest)) (endsNumber_cons (.inl rfl) _)
        have hmore := parseItems?_itemChars fuel next more h.2 (by omega) rest
        rw [Json.itemChars_more, List.append_assoc, List.cons_append, parseItems?_more hitem hmore,
          ← Json.toNodes]

/-- The fields of an object are read up to its closing brace. -/
theorem parseFields?_fieldChars :
    ∀ (fuel : Nat) (f : String × Json) (fields : List (String × Json)),
    Json.FieldsAreWhole (f :: fields) → 2 * (Json.fieldChars (f :: fields)).length ≤ fuel →
    ∀ rest : List Char, parseFields? fuel (Json.fieldChars (f :: fields) ++ rest) =
      some (Json.toNodeFields (f :: fields), rest)
  | 0, f, fields, _, hfuel, _ => by
    obtain ⟨cs, hchars⟩ := Json.exists_fieldChars_eq f fields
    rw [hchars, List.length_cons] at hfuel
    omega
  | fuel + 1, (name, value), fields, h, hfuel, rest => by
    cases fields with
    | nil =>
        simp only [Json.fieldChars_last, List.length_append, List.length_cons] at hfuel
        have hitem := parseNode?_chars fuel value h.1 (by omega) ('\x7d' :: rest)
          (endsNumber_cons (.inr (.inr rfl)) rest)
        rw [Json.fieldChars_last, List.append_assoc, List.cons_append, List.append_assoc,
          List.singleton_append, parseFields?_last hitem, Json.toNodeFields_cons,
          Json.toNodeFields_nil]
    | cons next more =>
        simp only [Json.fieldChars_more, List.length_append, List.length_cons] at hfuel
        have hitem := parseNode?_chars fuel value h.1 (by omega)
          (',' :: (Json.fieldChars (next :: more) ++ rest)) (endsNumber_cons (.inl rfl) _)
        have hmore := parseFields?_fieldChars fuel next more h.2 (by omega) rest
        rw [Json.fieldChars_more, List.append_assoc, List.cons_append, List.append_assoc,
          List.cons_append, parseFields?_more hitem hmore, Json.toNodeFields_cons name value]

end

/-- **The text of a value is read as the document that writes it.** -/
theorem parse?_render {value : Json} (h : value.IsWhole) :
    parse? value.render = some value.toNode := by
  have hread := parseNode?_chars (2 * value.chars.length + 2) value h (by omega) [] nofun
  rw [List.append_nil] at hread
  simp only [parse?, Json.render, String.toList_ofList, hread]
  rfl

end Node

end Dunning
