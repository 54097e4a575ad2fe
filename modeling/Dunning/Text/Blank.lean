/-!
# Blank characters and trimming

Settings and state names are read with the blanks at both ends taken off. A blank is a character of
the Unicode property `White_Space`, so a no-break space or an ideographic space counts too.

## Main definitions

* `isBlank` — membership in the property, given by its ten ranges.
* `trim` — a text without the blanks at its two ends.
-/

namespace Dunning.Text

/-- The ranges of code points that have the Unicode property `White_Space`. -/
def blankRanges : List (Nat × Nat) :=
  [(0x9, 0xd), (0x20, 0x20), (0x85, 0x85), (0xa0, 0xa0), (0x1680, 0x1680), (0x2000, 0x200a),
   (0x2028, 0x2029), (0x202f, 0x202f), (0x205f, 0x205f), (0x3000, 0x3000)]

/-- Whether the character has the Unicode property `White_Space`. -/
def isBlank (c : Char) : Bool :=
  blankRanges.any fun (lo, hi) => lo ≤ c.toNat && c.toNat ≤ hi

/-- The characters without the blanks before the first and after the last that is not blank. -/
def trimChars (cs : List Char) : List Char :=
  ((cs.dropWhile isBlank).reverse.dropWhile isBlank).reverse

/-- A text without the blanks at its two ends. -/
def trim (s : String) : String :=
  String.ofList (trimChars s.toList)

/-- A text of blanks only, the empty text included. -/
def isBlankText (s : String) : Bool :=
  s.toList.all isBlank

/-- A text in ASCII lower case. Letters outside ASCII stay as they are. -/
def asciiLower (s : String) : String :=
  String.ofList (s.toList.map Char.toLower)

theorem dropWhile_isBlank_eq_nil {cs : List Char} :
    cs.dropWhile isBlank = [] ↔ ∀ c ∈ cs, isBlank c = true := by
  induction cs with
  | nil => simp
  | cons c rest ih =>
      by_cases hc : isBlank c = true
      · simp [hc, ih]
      · simp [hc]

/-- Trimming leaves nothing exactly when the text is blank. -/
theorem trimChars_eq_nil_iff (cs : List Char) :
    trimChars cs = [] ↔ ∀ c ∈ cs, isBlank c = true := by
  unfold trimChars
  constructor
  · intro h
    have hrev : (cs.dropWhile isBlank).reverse.dropWhile isBlank = [] := by simpa using h
    have hall := dropWhile_isBlank_eq_nil.mp hrev
    intro c hc
    rw [← List.takeWhile_append_dropWhile (p := isBlank) (l := cs)] at hc
    rcases List.mem_append.mp hc with hc | hc
    · exact List.all_eq_true.mp List.all_takeWhile c hc
    · exact hall c (by simpa using hc)
  · intro h
    simp [dropWhile_isBlank_eq_nil.mpr h]

end Dunning.Text
