import Dunning.Database.Session
import Dunning.Proofs.Task.Refusal
import Mathlib.Data.List.Forall2

/-!
# Columns and their values

What a statement binds is read back column by column, under the names of the columns. Identifiers,
texts, truth values and numbers come back as they were. A time comes back cut to whole microseconds,
and it comes back as it was exactly when it was a whole number of them outside leap seconds.

## Main definitions

* `Instant.CutTo` — the time that a column keeps.
* `HoldsAs`, `HoldsAs?`, `HoldsTime`, `HoldsTime?` — what a column means: a number, an amount, a
  version or a time.
* `Row.Holds` — the values of a row under some names.
* `Session.Sends` — the statement that a task begins with.
* `insertion`, `selection`, `assignments` — statements as they follow from the names of the columns.

## Main results

* `Instant.ofMicros?_toMicros_iff` — binding a time and reading it back cuts it.
* `Instant.cutTo_self_iff`, `Instant.exists_cutTo_iff` — which times come back as they were, and which
  ones come back at all.
* `required_iff`, `optional_iff` — reading a column.
* `holdsTime_iff`, `holdsTime?_iff` — a column that a time was bound to.
-/

namespace Dunning

/-! ## Times -/

namespace Instant

/-- Whether a moment is a whole number of microseconds outside leap seconds. -/
def OnMicro (t : Instant) : Prop := t.inLeap = false ∧ t.frac % 1000 = 0

/-- The moment that a column keeps of another one: the next whole microsecond toward 2000. A leap
second counts as the second that follows it. -/
def CutTo (t u : Instant) : Prop :=
  u.OnMicro ∧
    if microsOrigin ≤ t.nanos then u.nanos ≤ t.nanos ∧ t.nanos < u.nanos + 1000
    else t.nanos ≤ u.nanos ∧ u.nanos < t.nanos + 1000

theorem onMicro_iff {t : Instant} : t.OnMicro ↔ t.inLeap = false ∧ t.nanos % 1000 = 0 := by
  refine and_congr_right fun _ => ?_
  unfold nanos
  omega

/-- Microseconds are counted from 2000 on, and toward it. -/
theorem toMicros_eq_iff {t : Instant} {micros : Int} :
    t.toMicros = micros ↔
      if microsOrigin ≤ t.nanos then
        microsOrigin + micros * 1000 ≤ t.nanos ∧ t.nanos < microsOrigin + micros * 1000 + 1000
      else
        t.nanos ≤ microsOrigin + micros * 1000 ∧ microsOrigin + micros * 1000 < t.nanos + 1000 := by
  unfold toMicros
  split
  · rw [Int.tdiv_eq_ediv_of_nonneg (by omega)]
    omega
  · have hneg : (t.nanos - microsOrigin).tdiv 1000 = -((microsOrigin - t.nanos) / 1000) := by
      rw [← Int.neg_sub, Int.neg_tdiv, Int.tdiv_eq_ediv_of_nonneg (by omega)]
    rw [hneg]
    omega

/-- **Binding a time and reading it back cuts it.** -/
theorem ofMicros?_toMicros_iff {t u : Instant} : ofMicros? t.toMicros = some u ↔ t.CutTo u := by
  have horigin : microsOrigin % 1000 = 0 := by decide
  rw [ofMicros?, ofNanos?_eq_some_iff, CutTo, onMicro_iff]
  constructor
  · rintro ⟨hleap, hnanos⟩
    have hcut := toMicros_eq_iff.mp (Eq.refl t.toMicros)
    rw [← hnanos] at hcut
    exact ⟨⟨hleap, by omega⟩, hcut⟩
  · rintro ⟨⟨hleap, hmod⟩, hcut⟩
    refine ⟨hleap, ?_⟩
    have hmicros : t.toMicros = (u.nanos - microsOrigin) / 1000 := by
      rw [toMicros_eq_iff]
      have hback : microsOrigin + (u.nanos - microsOrigin) / 1000 * 1000 = u.nanos := by omega
      rw [hback]
      exact hcut
    omega

/-- A time comes back as it was exactly when it is a whole number of microseconds outside leap
seconds. -/
theorem cutTo_self_iff {t : Instant} : t.CutTo t ↔ t.OnMicro := by
  unfold CutTo
  constructor
  · exact fun h => h.1
  · intro h
    refine ⟨h, ?_⟩
    split <;> omega

/-- Every time comes back, but for those in a leap second at the very end of the calendar. -/
theorem exists_cutTo_iff {t : Instant} : (∃ u, t.CutTo u) ↔ t ≤ last := by
  have horigin : microsOrigin = 946684800000000000 := rfl
  have hrank : last.rank = 16420533753598999999999 := rfl
  have htfirst := t.first_le
  have htlast := t.le_last
  have htfrac := t.frac_lt
  rw [le_def, hrank, rank]
  constructor
  · rintro ⟨u, hmicro, hcut⟩
    obtain ⟨hleap, hmod⟩ := onMicro_iff.mp hmicro
    have hulast := u.le_last
    have hufrac : u.frac < 1000000000 := by
      simpa only [inLeap, decide_eq_false_iff_not, Nat.not_le] using hleap
    unfold nanos at hmod hcut
    split at hcut <;> omega
  · intro hle
    have hcut := toMicros_eq_iff.mp (Eq.refl t.toMicros)
    have hinside : -8334601228800 ≤ (microsOrigin + t.toMicros * 1000) / 1000000000 ∧
        (microsOrigin + t.toMicros * 1000) / 1000000000 ≤ 8210266876799 := by
      unfold nanos at hcut
      split at hcut <;> omega
    let u : Instant :=
      ⟨(microsOrigin + t.toMicros * 1000) / 1000000000,
        ((microsOrigin + t.toMicros * 1000) % 1000000000).toNat, hinside.1, hinside.2, by omega,
        by omega⟩
    exact ⟨u, ofMicros?_toMicros_iff.mp (ofParts?_eq_some_iff.mpr ⟨rfl, rfl⟩)⟩

end Instant

namespace Database

/-! ## Reading one column -/

variable {α : Type} {row : Row} {name : String}

theorem required_eq_ok_iff {read : Datum → Option α} {a : α} :
    required read row name = .ok a ↔
      ∃ datum, row.lookup name = some (some datum) ∧ read datum = some a := by
  unfold required column
  rcases hcell : row.lookup name with _ | _ | datum
  · simp
  · simp
  · cases hread : read datum <;> simp [hread]

theorem optional_eq_ok_iff {read : Datum → Option α} {value : Option α} :
    optional read row name = .ok value ↔
      ∃ cell, row.lookup name = some cell ∧
        Option.Rel (fun datum a => read datum = some a) cell value := by
  unfold optional column
  rcases hcell : row.lookup name with _ | _ | datum
  · simp
  · cases value <;> simp
  · cases hread : read datum <;> cases value <;> simp [hread]

/-- Whether a reader takes the values of one type out of their columns. -/
def ReadsBack (read : Datum → Option α) (wrap : α → Datum) : Prop :=
  ∀ datum a, read datum = some a ↔ datum = wrap a

/-- **A column that must be there gives exactly the value that it holds.** -/
theorem required_iff {read : Datum → Option α} {wrap : α → Datum} (h : ReadsBack read wrap)
    {a : α} : required read row name = .ok a ↔ row.lookup name = some (some (wrap a)) := by
  rw [required_eq_ok_iff]
  constructor
  · rintro ⟨datum, hcell, hread⟩
    rw [hcell, (h datum a).mp hread]
  · intro hcell
    exact ⟨wrap a, hcell, (h _ a).mpr rfl⟩

/-- **A column that may be null gives exactly the value that it holds.** -/
theorem optional_iff {read : Datum → Option α} {wrap : α → Datum} (h : ReadsBack read wrap)
    {value : Option α} :
    optional read row name = .ok value ↔ row.lookup name = some (value.map wrap) := by
  rw [optional_eq_ok_iff]
  constructor
  · rintro ⟨cell, hcell, hrel⟩
    cases hrel with
    | none => exact hcell
    | some hread => rw [hcell, (h _ _).mp hread, Option.map_some]
  · intro hcell
    refine ⟨_, hcell, ?_⟩
    cases value with
    | none => exact .none
    | some a => exact .some ((h _ a).mpr rfl)

theorem readsBack_uuid : ReadsBack uuid? .uuid := by
  intro datum a
  cases datum <;> simp [uuid?]

theorem readsBack_text : ReadsBack text? .text := by
  intro datum a
  cases datum <;> simp [text?]

theorem readsBack_bool : ReadsBack bool? .bool := by
  intro datum a
  cases datum <;> simp [bool?]

theorem readsBack_int4 : ReadsBack int4? .int4 := by
  intro datum a
  cases datum <;> simp [int4?]

theorem readsBack_int8 : ReadsBack int8? .int8 := by
  intro datum a
  cases datum <;> simp [int8?]

/-! ## What a column means -/

variable {κ ν : Type}

/-- Whether a column holds something that means a value. -/
def HoldsAs (row : Row) (name : String) (wrap : κ → Datum) (means : κ → ν → Prop) (value : ν) :
    Prop :=
  ∃ held, row.lookup name = some (some (wrap held)) ∧ means held value

/-- Whether a column that may be null holds something that means a value that may be missing. -/
def HoldsAs? (row : Row) (name : String) (wrap : κ → Datum) (means : κ → ν → Prop)
    (value : Option ν) : Prop :=
  ∃ held : Option κ, row.lookup name = some (held.map wrap) ∧ Option.Rel means held value

/-- Whether a number of 32 bits with a sign is a number without one. -/
def IsNumber (k : Int32) (n : UInt32) : Prop := k.toInt = n.toNat

/-- Whether a number of 64 bits with a sign is an amount. -/
def IsAmount (k : Int64) (n : UInt64) : Prop := k.toInt = n.toNat

/-- Whether a number of 64 bits with a sign stands for a version. A negative one stands for zero. -/
def IsVersion (k : Int64) (n : UInt64) : Prop := k.toInt.toNat = n.toNat

/-- Whether a column holds a time. -/
def HoldsTime (row : Row) (name : String) (t : Instant) : Prop :=
  ∃ datum, row.lookup name = some (some datum) ∧ instant? datum = some t

/-- Whether a column holds a time that may be missing. -/
def HoldsTime? (row : Row) (name : String) (t : Option Instant) : Prop :=
  ∃ cell, row.lookup name = some cell ∧ Option.Rel (fun datum t => instant? datum = some t) cell t

/-- A column that a time is bound to. -/
theorem holdsTime_iff {t u : Instant} (h : row.lookup name = some (Cell.ofInstant t)) :
    HoldsTime row name u ↔ t.CutTo u := by
  rw [← Instant.ofMicros?_toMicros_iff]
  constructor
  · rintro ⟨datum, hcell, hread⟩
    obtain rfl : Datum.timestamp t.toMicros = datum := by simpa [h, Cell.ofInstant] using hcell
    exact hread
  · exact fun hread => ⟨_, h, hread⟩

/-- A column that a time is bound to when there is one. -/
theorem holdsTime?_iff {t u : Option Instant}
    (h : row.lookup name = some (t.bind Cell.ofInstant)) :
    HoldsTime? row name u ↔ Option.Rel Instant.CutTo t u := by
  have hcell : HoldsTime? row name u ↔
      Option.Rel (fun datum t => instant? datum = some t) (t.bind Cell.ofInstant) u := by
    simp [HoldsTime?, h]
  rw [hcell]
  cases t with
  | none => cases u <;> simp
  | some t => cases u <;> simp [Cell.ofInstant, instant?, Instant.ofMicros?_toMicros_iff]

/-! ## Statements and the names of their columns -/

/-- Whether a row holds values under names. -/
def Row.Holds (row : Row) (names : List String) (values : List Cell) : Prop :=
  List.Forall₂ (fun name cell => row.lookup name = some cell) names values

/-- The row of some values under names of their own. -/
theorem Row.holds_zip {names : List String} {values : List Cell} (distinct : names.Nodup)
    (hlength : names.length = values.length) : Row.Holds (names.zip values) names values := by
  induction names generalizing values with
  | nil =>
      obtain rfl : values = [] := List.length_eq_zero_iff.mp hlength.symm
      exact .nil
  | cons name rest ih =>
      obtain ⟨hfresh, hrest⟩ := List.nodup_cons.mp distinct
      cases values with
      | nil => cases hlength
      | cons value values =>
          refine .cons List.lookup_cons_self ?_
          -- A name of the rest is found behind the first one, which is another.
          have hother : ∀ other ∈ rest, (other == name) = false := by
            intro other hmem
            exact beq_eq_false_iff_ne.mpr fun heq => hfresh (heq ▸ hmem)
          have hbehind := (List.forall₂_and_left _ _).mpr ⟨hother, ih hrest (Nat.succ.inj hlength)⟩
          refine hbehind.imp ?_
          rintro other cell ⟨hne, hcell⟩
          rw [List.zip_cons_cons, List.lookup_cons, hne]
          exact hcell

/-- A list in a statement. -/
def listed (parts : List String) : String := ", ".intercalate parts

/-- The placeholders of some arguments. -/
def placeholders (count : Nat) : List String :=
  (List.range count).map fun i => "$" ++ toString (i + 1)

/-- An insertion whose arguments go to the columns in their order. -/
def insertion (table : String) (columns : List String) : String :=
  "INSERT INTO " ++ table ++ " (" ++ listed columns ++ ") VALUES (" ++
    listed (placeholders columns.length) ++ ")"

/-- A selection of columns. -/
def selection (table : String) (columns : List String) : String :=
  "SELECT " ++ listed columns ++ " FROM " ++ table

/-- The columns after the first, each set to the argument of its place. -/
def assignments (columns : List String) : String :=
  listed (List.zipWith (fun name argument => name ++ " = " ++ argument) columns
    (placeholders columns.length)).tail

/-- Whether a task begins by sending a statement. -/
def Session.Sends (task : Session α) (statement : Statement) : Prop :=
  ∃ next, task = .ask (.send statement) next

end Database

end Dunning
