import Dunning.Database.OverdueStates
import Dunning.Proofs.Database.Columns

/-!
# Overdue states and their rows

An overdue state is written into eight columns and read back by their names. There are three ways to
write it, and all of them bind the same values to the same columns. Versions below half the range of
64 bits come back as they were; the time of the last transition comes back cut to whole microseconds.

## Main definitions

* `OverdueState.CutTo` — states that are equal but for a cut time.
* `OverdueStates.Describes` — the row of a state, column by column.
* `OverdueStates.writeText` — the statements as they follow from the columns.

## Main results

* `OverdueStates.readState_eq_ok_iff` — reading a row finds the state that it describes, and nothing
  else.
* `OverdueStates.saveText_eq` — every write goes to the same columns in the same order.
* `OverdueStates.save_of_fits` — a state comes back, however it was written.
-/

namespace Dunning

/-- States that are equal but for a time that is cut. -/
structure OverdueState.CutTo (s t : OverdueState) : Prop where
  lastTransitionAt : Option.Rel Instant.CutTo s.lastTransitionAt t.lastTransitionAt
  rest : t = { s with lastTransitionAt := t.lastTransitionAt }

/-- A state comes back as it was exactly when its time does. -/
theorem OverdueState.cutTo_self_iff {s : OverdueState} :
    s.CutTo s ↔ ∀ t ∈ s.lastTransitionAt, t.OnMicro := by
  have hrest : s.CutTo s ↔ Option.Rel Instant.CutTo s.lastTransitionAt s.lastTransitionAt :=
    ⟨fun h => h.lastTransitionAt, fun h => ⟨h, rfl⟩⟩
  rw [hrest]
  cases s.lastTransitionAt <;> simp [Instant.cutTo_self_iff]

/-- A state comes back exactly when its time does. -/
theorem OverdueState.exists_cutTo_iff {s : OverdueState} :
    (∃ t, s.CutTo t) ↔ ∀ t ∈ s.lastTransitionAt, t ≤ .last := by
  have hrest : (∃ t, s.CutTo t) ↔ ∃ t, Option.Rel Instant.CutTo s.lastTransitionAt t :=
    ⟨fun ⟨_, h⟩ => ⟨_, h.lastTransitionAt⟩,
      fun ⟨lastTransitionAt, h⟩ => ⟨{ s with lastTransitionAt }, h, rfl⟩⟩
  rw [hrest]
  cases s.lastTransitionAt with
  | none => simpa using ⟨none, .none⟩
  | some t =>
      simp only [Option.mem_def, Option.some.injEq, forall_eq', ← Instant.exists_cutTo_iff]
      constructor
      · rintro ⟨_, h⟩
        cases h with
        | some h => exact ⟨_, h⟩
      · rintro ⟨u, h⟩
        exact ⟨some u, .some h⟩

namespace Database.OverdueStates

variable {row : Row} {s t : OverdueState}

/-- The columns of a state. -/
def columnNames : List String :=
  ["account_id", "state_name", "state_set_version", "block_changes", "block_entitlement",
    "disable_auto_pay", "last_transition_at", "version"]

/-- The text of a look-up as it follows from the columns. -/
def readText : String := selection "overdue_states" columnNames ++ " WHERE account_id = $1"

/-- The start of an insertion as it follows from the columns. -/
def adding : String := insertion "overdue_states" columnNames ++ " ON CONFLICT (account_id) DO "

/-- An insertion that finds a record and replaces every column of it. -/
def replacing : String :=
  "UPDATE SET " ++ listed (columnNames.tail.map fun name => name ++ " = EXCLUDED." ++ name)

/-- An update of one version, which is the argument after those of the columns. -/
def updating : String :=
  "UPDATE overdue_states SET " ++ assignments columnNames ++
    " WHERE account_id = $1 AND version = $9"

/-- The text of a write as it follows from the columns. -/
def writeText : Expected → String
  | .absent => adding ++ "NOTHING"
  | .exact _ => updating
  | .any => adding ++ replacing

theorem getStatement_text (account : AccountId) : (getStatement account).text = readText := by
  have htext : readText =
      "SELECT account_id, state_name, state_set_version, block_changes, block_entitlement, " ++
        "disable_auto_pay, last_transition_at, version FROM overdue_states WHERE account_id = $1" := by
    decide +kernel
  exact htext.symm

theorem saveText_eq (expected : Expected) : saveText expected = writeText expected := by
  have hadding : adding = insertText := by decide +kernel
  have hreplacing : replacing =
      "UPDATE SET state_name = EXCLUDED.state_name, state_set_version = " ++
        "EXCLUDED.state_set_version, block_changes = EXCLUDED.block_changes, block_entitlement = " ++
        "EXCLUDED.block_entitlement, disable_auto_pay = EXCLUDED.disable_auto_pay, " ++
        "last_transition_at = EXCLUDED.last_transition_at, version = EXCLUDED.version" := by
    decide +kernel
  have hupdating : updating =
      "UPDATE overdue_states SET state_name = $2, state_set_version = $3, block_changes = $4, " ++
        "block_entitlement = $5, disable_auto_pay = $6, last_transition_at = $7, version = $8 " ++
        "WHERE account_id = $1 AND version = $9" := by
    decide +kernel
  cases expected with
  | absent => exact congrArg (fun start => start ++ "NOTHING") hadding.symm
  | exact version => exact hupdating.symm
  | any =>
      show saveText .any = adding ++ replacing
      rw [hadding, hreplacing]
      simp only [← String.append_assoc]
      exact Eq.refl (saveText .any)

/-- The row of a state, column by column. -/
structure Describes (row : Row) (s : OverdueState) : Prop where
  account : row.lookup "account_id" = some (.ofUuid s.account.uuid)
  stateName : row.lookup "state_name" = some (.ofText s.stateName)
  setVersion : HoldsAs row "state_set_version" .int8 IsVersion s.setVersion
  blockChanges : row.lookup "block_changes" = some (.ofBool s.blocked.blockChanges)
  blockEntitlement : row.lookup "block_entitlement" = some (.ofBool s.blocked.blockEntitlement)
  disableAutoPay : row.lookup "disable_auto_pay" = some (.ofBool s.blocked.disableAutoPay)
  lastTransitionAt : HoldsTime? row "last_transition_at" s.lastTransitionAt
  version : HoldsAs row "version" .int8 IsVersion s.version

theorem ofNat_clampedNat_iff {k : Int64} {n : UInt64} :
    UInt64.ofNat (clampedNat k.toInt) = n ↔ IsVersion k n := by
  have hk := k.toInt_lt
  have hlt : k.toInt.toNat < 18446744073709551616 := by omega
  have hof : (UInt64.ofNat k.toInt.toNat).toNat = k.toInt.toNat := UInt64.toNat_ofNat_of_lt' hlt
  rw [clampedNat, ← UInt64.toNat_inj, hof, IsVersion]

/-- **Reading a row finds the state that the row describes, and nothing else.** -/
theorem readState_eq_ok_iff : readState row = .ok s ↔ Describes row s := by
  unfold readState
  simp only [bind_eq_ok_iff, required_iff readsBack_uuid, required_iff readsBack_text,
    required_iff readsBack_bool, required_iff readsBack_int8, optional_eq_ok_iff]
  constructor
  · rintro ⟨account, haccount, stateName, hstateName, setVersion, hsetVersion, changes, hchanges,
      entitlement, hentitlement, autoPay, hautoPay, last, hlast, version, hversion, hs⟩
    obtain rfl := Except.ok.inj hs
    exact {
      account := haccount
      stateName := hstateName
      setVersion := ⟨setVersion, hsetVersion, ofNat_clampedNat_iff.mp rfl⟩
      blockChanges := hchanges
      blockEntitlement := hentitlement
      disableAutoPay := hautoPay
      lastTransitionAt := hlast
      version := ⟨version, hversion, ofNat_clampedNat_iff.mp rfl⟩ }
  · intro h
    obtain ⟨setVersion, hsetVersion, hset⟩ := h.setVersion
    obtain ⟨version, hversion, hvalue⟩ := h.version
    refine ⟨_, h.account, _, h.stateName, setVersion, hsetVersion, _, h.blockChanges, _,
      h.blockEntitlement, _, h.disableAutoPay, _, h.lastTransitionAt, version, hversion, ?_⟩
    rw [ofNat_clampedNat_iff.mpr hset, ofNat_clampedNat_iff.mpr hvalue]
    rfl

/-- A row describes at most one state. -/
theorem Describes.unique (h : Describes row s) (h' : Describes row t) : t = s :=
  Except.ok.inj ((readState_eq_ok_iff.mpr h').symm.trans (readState_eq_ok_iff.mpr h))

/-- **A row that holds what was bound describes the state with its time cut.** -/
theorem describes_iff_cutTo (hversion : s.version.toNat < 9223372036854775808)
    (hset : s.setVersion.toNat < 9223372036854775808) (holds : row.Holds columnNames (valuesOf s)) :
    Describes row t ↔ s.CutTo t := by
  have hwrapping {name : String} {n : UInt64} (hn : n.toNat < 9223372036854775808)
      (hcell : row.lookup name = some (.wrapping n.toNat)) :
      HoldsAs row name .int8 IsVersion n := by
    have hint : (Int64.ofNat n.toNat).toInt = n.toNat := Int64.toInt_ofNat_of_lt hn
    exact ⟨_, hcell, by rw [IsVersion, hint, Int.toNat_natCast]⟩
  simp only [Row.Holds, columnNames, valuesOf, List.forall₂_cons] at holds
  obtain ⟨haccount, hname, hsetCell, hchanges, hentitlement, hautoPay, hlast, hversionCell, -⟩ :=
    holds
  have hcut {lastTransitionAt : Option Instant}
      (h : Option.Rel Instant.CutTo s.lastTransitionAt lastTransitionAt) :
      Describes row { s with lastTransitionAt } :=
    { account := haccount
      stateName := hname
      setVersion := hwrapping hset hsetCell
      blockChanges := hchanges
      blockEntitlement := hentitlement
      disableAutoPay := hautoPay
      lastTransitionAt := (holdsTime?_iff hlast).mpr h
      version := hwrapping hversion hversionCell }
  constructor
  · intro h
    have hlastCut := (holdsTime?_iff hlast).mp h.lastTransitionAt
    exact ⟨hlastCut, (hcut hlastCut).unique h⟩
  · intro h
    rw [h.rest]
    exact hcut h.lastTransitionAt

/-- A state whose versions fit is sent, and comes back with its time cut. -/
theorem save_of_fits (hversion : s.version.toNat < 9223372036854775808)
    (hset : s.setVersion.toNat < 9223372036854775808) (expected : Expected) :
    ∃ args, Session.Sends (save s expected) ⟨writeText expected, args⟩ ∧
      columnNames.length ≤ args.length ∧
      ∀ row : Row, row.Holds columnNames (args.take columnNames.length) →
        ∀ t, readState row = .ok t ↔ s.CutTo t := by
  refine ⟨valuesOf s ++ guardOf expected, ?_, ?_, ?_⟩
  · rw [← saveText_eq]
    exact ⟨_, rfl⟩
  · rw [List.length_append]
    exact Nat.le_add_right 8 _
  · intro row holds t
    have hvalues : (valuesOf s ++ guardOf expected).take columnNames.length = valuesOf s := rfl
    rw [hvalues] at holds
    rw [readState_eq_ok_iff, describes_iff_cutTo hversion hset holds]

end Database.OverdueStates

end Dunning
