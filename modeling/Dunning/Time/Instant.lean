/-!
# Instants and durations

An instant is a second since 1970-01-01T00:00:00Z, from the year −262143 to the year 262142, and the
nanoseconds that have passed in it. Leap seconds have no number of their own: the last second of a
minute may go on for a second one, so that its nanoseconds reach up to two seconds. Instants are
ordered by the second and then by the nanoseconds in it.

A duration that is added to an instant in a leap second and does not lead out of it only moves the
nanoseconds. One that leads out of it forward starts from the second that the leap second extends,
one that leads out of it backward from the second that follows. A sum can leave the calendar; it is
then missing and whoever asked for it decides what that means.

## Main definitions

* `Instant` — a moment of the calendar.
* `Offset` — a signed duration of at most `2 ^ 63 - 1` milliseconds.
* `Span` — an unsigned duration below `2 ^ 64` seconds, as settings give it.
* `Instant.plus?` — the moment a number of nanoseconds later.

## Main results

* `Instant.ofParts?_eq_some_iff` — a second and its nanoseconds denote exactly one instant.
* `Instant.plus?_eq_some_iff` — outside leap seconds, a sum lies that many nanoseconds later.
* `Instant.le_of_plus?`, `Instant.lt_of_plus?` — adding a duration does not lead back.
-/

namespace Dunning

/-- Nanoseconds of a second. -/
def nanosPerSecond : Nat := 1000000000

/-- Nanoseconds of a millisecond. -/
def nanosPerMilli : Nat := 1000000

/-- Nanoseconds of a minute. -/
def nanosPerMinute : Nat := 60 * nanosPerSecond

/-- Nanoseconds of a day. -/
def nanosPerDay : Nat := 86400 * nanosPerSecond

/-- A moment between the first and the last of the calendar. -/
structure Instant where
  /-- The second since 1970. -/
  secs : Int
  /-- The nanoseconds since its start. -/
  frac : Nat
  first_le : -8334601228800 ≤ secs
  le_last : secs ≤ 8210266876799
  frac_lt : frac < 2000000000
  /-- Only the last second of a minute is extended. -/
  leap : 1000000000 ≤ frac → secs % 60 = 59
  deriving DecidableEq

namespace Instant

/-- The first moment of the calendar, -262143-01-01T00:00:00Z. -/
def first : Instant := ⟨-8334601228800, 0, by decide, by decide, by decide, by decide⟩

/-- The last moment of the calendar outside a leap second, +262142-12-31T23:59:59.999999999Z. -/
def last : Instant := ⟨8210266876799, 999999999, by decide, by decide, by decide, by decide⟩

/-- The moment at a second and some nanoseconds, if the calendar has it. -/
def ofParts? (secs : Int) (frac : Nat) : Option Instant :=
  if h : (-8334601228800 ≤ secs ∧ secs ≤ 8210266876799) ∧
      frac < 2000000000 ∧ (1000000000 ≤ frac → secs % 60 = 59) then
    some ⟨secs, frac, h.1.1, h.1.2, h.2.1, h.2.2⟩
  else none

/-- The moment at a number of nanoseconds since 1970, if the calendar has it. -/
def ofNanos? (nanos : Int) : Option Instant :=
  ofParts? (nanos / 1000000000) (nanos % 1000000000).toNat

/-- The nanoseconds since 1970. A leap second counts as the second that follows it. -/
def nanos (t : Instant) : Int := t.secs * 1000000000 + t.frac

/-- Whether a moment lies in a leap second. -/
def inLeap (t : Instant) : Bool := 1000000000 ≤ t.frac

/-- The moment `delay` nanoseconds later, if the calendar has it. -/
def plus? (t : Instant) (delay : Int) : Option Instant :=
  if t.inLeap then
    if -1000000000 < delay ∧ t.frac + delay < 2000000000 then ofParts? t.secs (t.frac + delay).toNat
    else if 0 < delay then ofNanos? (t.nanos - 1000000000 + delay)
    else ofNanos? (t.nanos + delay)
  else ofNanos? (t.nanos + delay)

/-- The position in the order of instants: by the second, then by the nanoseconds in it. -/
def rank (t : Instant) : Int := t.secs * 2000000000 + t.frac

instance : LE Instant := ⟨fun a b => a.rank ≤ b.rank⟩

instance : LT Instant := ⟨fun a b => a.rank < b.rank⟩

instance (a b : Instant) : Decidable (a ≤ b) :=
  inferInstanceAs (Decidable (a.rank ≤ b.rank))

instance (a b : Instant) : Decidable (a < b) :=
  inferInstanceAs (Decidable (a.rank < b.rank))

instance : Inhabited Instant := ⟨⟨0, 0, by decide, by decide, by decide, by decide⟩⟩

theorem le_def {a b : Instant} : a ≤ b ↔ a.rank ≤ b.rank := Iff.rfl

theorem lt_def {a b : Instant} : a < b ↔ a.rank < b.rank := Iff.rfl

theorem ext_parts {a b : Instant} (hsecs : a.secs = b.secs) (hfrac : a.frac = b.frac) : a = b := by
  cases a
  cases b
  cases hsecs
  cases hfrac
  rfl

/-- Instants are equal when their positions are. -/
theorem ext_rank {a b : Instant} (h : a.rank = b.rank) : a = b := by
  have ha := a.frac_lt
  have hb := b.frac_lt
  unfold rank at h
  exact ext_parts (by omega) (by omega)

theorem eq_iff_rank {a b : Instant} : a = b ↔ a.rank = b.rank := ⟨congrArg rank, ext_rank⟩

/-- A second and its nanoseconds denote the instant that has them. -/
theorem ofParts?_eq_some_iff {secs : Int} {frac : Nat} {t : Instant} :
    ofParts? secs frac = some t ↔ t.secs = secs ∧ t.frac = frac := by
  unfold ofParts?
  constructor
  · intro h
    split at h
    · cases h
      exact ⟨rfl, rfl⟩
    · simp at h
  · rintro ⟨rfl, rfl⟩
    rw [dif_pos ⟨⟨t.first_le, t.le_last⟩, t.frac_lt, t.leap⟩]

/-- A number of nanoseconds denotes an instant outside leap seconds. -/
theorem ofNanos?_eq_some_iff {nanos : Int} {t : Instant} :
    ofNanos? nanos = some t ↔ t.inLeap = false ∧ t.nanos = nanos := by
  rw [ofNanos?, ofParts?_eq_some_iff, inLeap, Instant.nanos, decide_eq_false_iff_not]
  omega

/-- Outside leap seconds, a moment is the sum exactly when it lies that much later. -/
theorem plus?_eq_some_iff {t u : Instant} {delay : Int} (h : t.inLeap = false) :
    t.plus? delay = some u ↔ u.inLeap = false ∧ u.nanos = t.nanos + delay := by
  rw [plus?, h, if_neg Bool.false_ne_true, ofNanos?_eq_some_iff]

/-- A sum with a duration that is not negative is not earlier. -/
theorem le_of_plus? {t u : Instant} {delay : Int} (hdelay : 0 ≤ delay)
    (h : t.plus? delay = some u) : t ≤ u := by
  have ht := t.frac_lt
  have hu := u.frac_lt
  rw [le_def, rank, rank]
  unfold plus? at h
  split at h
  · split at h
    · rw [ofParts?_eq_some_iff] at h
      omega
    · split at h
      · rw [ofNanos?_eq_some_iff] at h
        simp only [nanos, inLeap, decide_eq_false_iff_not] at h
        omega
      · rw [ofNanos?_eq_some_iff] at h
        simp only [nanos, inLeap, decide_eq_false_iff_not] at h
        omega
  · rw [ofNanos?_eq_some_iff] at h
    simp only [nanos, inLeap, decide_eq_false_iff_not] at h
    omega

/-- A sum with a positive duration is later. -/
theorem lt_of_plus? {t u : Instant} {delay : Int} (hdelay : 0 < delay)
    (h : t.plus? delay = some u) : t < u := by
  have ht := t.frac_lt
  have hu := u.frac_lt
  rw [lt_def, rank, rank]
  unfold plus? at h
  split at h
  · split at h
    · rw [ofParts?_eq_some_iff] at h
      omega
    · rw [ofNanos?_eq_some_iff] at h
      simp only [nanos, inLeap, decide_eq_false_iff_not] at h
      omega
  · rename_i hleap
    rw [ofNanos?_eq_some_iff] at h
    simp only [nanos, inLeap, decide_eq_false_iff_not, decide_eq_true_eq] at h hleap
    omega

/-- The calendar is shorter than the longest offset. -/
theorem le_longest_of_plus? {t u : Instant} {delay : Int} (h : t.plus? delay = some u) :
    delay ≤ 9223372036854775807000000 := by
  have hfirst := t.first_le
  have hlast := u.le_last
  have hfrac := u.frac_lt
  unfold plus? at h
  split at h
  · split at h
    · omega
    · split at h
      · rw [ofNanos?_eq_some_iff] at h
        simp only [nanos, inLeap, decide_eq_false_iff_not] at h
        omega
      · omega
  · rw [ofNanos?_eq_some_iff] at h
    simp only [nanos, inLeap, decide_eq_false_iff_not] at h
    omega

end Instant

/-- A signed duration that millisecond arithmetic of 63 bits can express. -/
structure Offset where
  nanos : Int
  low_le : -9223372036854775807000000 ≤ nanos
  le_high : nanos ≤ 9223372036854775807000000
  deriving DecidableEq

namespace Offset

/-- The duration of a number of nanoseconds, if it can be expressed. -/
def ofNanos? (nanos : Int) : Option Offset :=
  if h : -9223372036854775807000000 ≤ nanos ∧ nanos ≤ 9223372036854775807000000 then
    some ⟨nanos, h.1, h.2⟩
  else none

/-- The duration of a number of milliseconds, if it can be expressed. -/
def ofMillis? (millis : Int) : Option Offset :=
  ofNanos? (millis * 1000000)

/-- The whole milliseconds of a duration, counted toward zero. -/
def millis (d : Offset) : Int :=
  Int.tdiv d.nanos 1000000

/-- Some minutes. -/
def minutes (n : UInt16) : Offset :=
  ⟨(n.toNat : Int) * 60000000000, by omega, by have := n.toNat_lt; omega⟩

end Offset

/-- An unsigned duration below `2 ^ 64` seconds. -/
structure Span where
  nanos : Nat
  nanos_lt : nanos < 18446744073709551616000000000
  deriving DecidableEq

namespace Span

/-- A number of nanoseconds, or the longest duration when there are more. -/
def ofNanos (nanos : Nat) : Span :=
  ⟨min nanos 18446744073709551615999999999, by omega⟩

/-- A number of milliseconds. -/
def ofMillis (millis : Nat) : Span := ofNanos (millis * 1000000)

/-- A number of seconds. -/
def ofSecs (secs : Nat) : Span := ofNanos (secs * 1000000000)

/-- The whole milliseconds of a duration. -/
def millis (d : Span) : Nat := d.nanos / 1000000

/-- The whole seconds of a duration. -/
def secs (d : Span) : Nat := d.nanos / 1000000000

/-- The nanoseconds beyond the whole seconds. -/
def subsecNanos (d : Span) : Nat := d.nanos % 1000000000

/-- Twice a duration, or the longest one. -/
def double (d : Span) : Span := ofNanos (2 * d.nanos)

/-- The shorter of two durations. -/
def min (a b : Span) : Span := if a.nanos ≤ b.nanos then a else b

/-- The nanoseconds of a duration that can be expressed as an offset; a longer one counts as none.
-/
def asDelay (d : Span) : Nat :=
  if d.nanos ≤ 9223372036854775807000000 then d.nanos else 0

/-- A duration that leads to a moment of the calendar is short enough for an offset. -/
theorem asDelay_eq_of_plus? {now moment : Instant} {d : Span}
    (h : now.plus? d.nanos = some moment) : d.asDelay = d.nanos := by
  have hshort := Instant.le_longest_of_plus? h
  rw [asDelay, if_pos (by omega)]

end Span

end Dunning
