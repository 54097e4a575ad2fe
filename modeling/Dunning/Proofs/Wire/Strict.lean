import Dunning.Json.Decode

/-!
# Strict records lose nothing

A strict record takes every field of a document or refuses the document: what it reads are the
fields as they were written, each once and each known. In an array the fields stand in the order of
their declaration. So what is looked up under a name is what the document writes for it.

## Main definitions

* `Node.Writes` — what a document writes for a field.

## Main results

* `Shape.find?_eq_some_iff_writes` — a field is found exactly when it is written.
* `Entries.forall_mem_optional_iff`, `Entries.withDefault_iff` — what may be left out says what is
  written for it, or nothing.
-/

namespace Dunning

/-- A document writes a value for a field: under its name, or in its place among the names. -/
inductive Node.Writes (names : List String) (name : String) : Node → Node → Prop where
  | named {fields : List (Option String × Node)} {value : Node} :
      (some name, value) ∈ fields → Writes names name (.object fields) value
  | placed {items : List Node} {value : Node} {i : Nat} :
      names[i]? = some name → items[i]? = some value → Writes names name (.array items) value

namespace Shape

variable {shape : Shape}

/-- The names of the fields in the order of their declaration. -/
def names (shape : Shape) : List String := shape.fields.map FieldSpec.name

theorem knows_iff {name : String} : shape.knows name = true ↔ name ∈ shape.names := by
  simp [knows, names]

/-- The fields that a strict record reads are those that are written, each known and each once. -/
theorem of_objectEntries? (hstrict : shape.strict = true) {fields : List (Option String × Node)}
    {entries : Entries} (h : shape.objectEntries? fields = some entries) :
    fields = entries.map (fun e => (some e.1, e.2)) ∧ (entries.map Prod.fst).Nodup ∧
      ∀ e ∈ entries, e.1 ∈ shape.names := by
  induction fields generalizing entries with
  | nil =>
      obtain rfl := Option.some.inj h
      exact ⟨rfl, List.nodup_nil, List.forall_mem_nil _⟩
  | cons first rest ih =>
      obtain ⟨key, node⟩ := first
      cases key with
      | none => simp [objectEntries?] at h
      | some name =>
          cases hothers : shape.objectEntries? rest with
          | none => simp [objectEntries?, hothers] at h
          | some others =>
              obtain ⟨hwritten, hnodup, hknown⟩ := ih hothers
              simp only [objectEntries?, hothers, hstrict, if_true] at h
              split at h
              · rename_i hname
                split at h
                · cases h
                · rename_i hnew
                  obtain rfl := Option.some.inj h
                  refine ⟨by rw [hwritten, List.map_cons], ?_,
                    List.forall_mem_cons.mpr ⟨knows_iff.mp hname, hknown⟩⟩
                  rw [List.map_cons, List.nodup_cons]
                  refine ⟨?_, hnodup⟩
                  simpa using hnew
              · cases h

/-- The fields of an array are the names with the items in their places. -/
theorem of_arrayEntries? {items : List Node} {entries : Entries}
    (h : shape.arrayEntries? items = some entries) :
    entries = shape.names.zip items ∧ items.length ≤ shape.names.length := by
  unfold arrayEntries? at h
  split at h
  · rename_i hfits
    exact ⟨(Option.some.inj h).symm, by rw [names, List.length_map]; exact hfits.1⟩
  · cases h

/-- A strict record reads from a document what it writes. -/
theorem mem_entries_iff_writes (hstrict : shape.strict = true) {n : Node} {entries : Entries}
    (h : shape.entries? n = some entries) {name : String} {value : Node} :
    (name, value) ∈ entries ↔ n.Writes shape.names name value := by
  cases n with
  | object fields =>
      obtain ⟨rfl, -, -⟩ := of_objectEntries? hstrict h
      constructor
      · intro hmem
        exact .named (List.mem_map.mpr ⟨_, hmem, rfl⟩)
      · rintro (hmem | _)
        obtain ⟨e, he, heq⟩ := List.mem_map.mp hmem
        obtain ⟨hname, rfl⟩ := Prod.mk.inj heq
        exact Option.some.inj hname ▸ he
  | array items =>
      obtain ⟨rfl, -⟩ := of_arrayEntries? h
      rw [List.mem_iff_getElem?]
      constructor
      · rintro ⟨i, hi⟩
        obtain ⟨hname, hvalue⟩ := List.getElem?_zip_eq_some.mp hi
        exact .placed hname hvalue
      · rintro (_ | ⟨hname, hvalue⟩)
        exact ⟨_, List.getElem?_zip_eq_some.mpr ⟨hname, hvalue⟩⟩
  | _ => cases h

/-- Items in their places take each name once at most. -/
theorem map_fst_zip_sublist (names : List String) (items : List Node) :
    ((names.zip items).map Prod.fst).Sublist names := by
  induction names generalizing items with
  | nil => exact List.Sublist.slnil
  | cons name names ih =>
      cases items with
      | nil => exact List.nil_sublist _
      | cons item items => exact (ih items).cons_cons name

/-- No name is read twice. -/
theorem nodup_entries (hstrict : shape.strict = true) (hnames : shape.names.Nodup) {n : Node}
    {entries : Entries} (h : shape.entries? n = some entries) :
    (entries.map Prod.fst).Nodup := by
  cases n with
  | object fields => exact (of_objectEntries? hstrict h).2.1
  | array items =>
      obtain ⟨rfl, -⟩ := of_arrayEntries? h
      exact hnames.sublist (map_fst_zip_sublist _ _)
  | _ => cases h

/-- Only known names are read. -/
theorem mem_names_of_mem_entries (hstrict : shape.strict = true) {n : Node} {entries : Entries}
    (h : shape.entries? n = some entries) {e : String × Node} (he : e ∈ entries) :
    e.1 ∈ shape.names := by
  cases n with
  | object fields => exact (of_objectEntries? hstrict h).2.2 e he
  | array items =>
      obtain ⟨rfl, -⟩ := of_arrayEntries? h
      exact (List.of_mem_zip he).1
  | _ => cases h

end Shape

namespace Entries

variable {α : Type} {entries : Entries} {name : String} {read : Node → Option α}

/-- Where no name occurs twice, a field is found when it is there. -/
theorem find?_eq_some_iff (hnodup : (entries.map Prod.fst).Nodup) {value : Node} :
    entries.find? name = some value ↔ (name, value) ∈ entries := by
  induction entries with
  | nil => simp [find?]
  | cons first rest ih =>
      obtain ⟨key, node⟩ := first
      rw [List.map_cons, List.nodup_cons] at hnodup
      have hrest := ih hnodup.2
      rw [find?] at hrest ⊢
      by_cases hkey : name = key
      · subst hkey
        have habsent : ∀ other, (name, other) ∉ rest :=
          fun other hmem => hnodup.1 (List.mem_map.mpr ⟨_, hmem, rfl⟩)
        simp [habsent, eq_comm]
      · rw [List.lookup_cons, beq_false_of_ne hkey, List.mem_cons, ← hrest]
        simp [hkey]

theorem of_required {x : α} (h : entries.required name read = some x) :
    ∃ value, entries.find? name = some value ∧ read value = some x :=
  Option.bind_eq_some_iff.mp h

/-- What is written for a field with a default is read. -/
theorem read_of_withDefault {default x : α} (h : entries.withDefault name default read = some x)
    {value : Node} (hvalue : entries.find? name = some value) : read value = some x := by
  rwa [withDefault, hvalue] at h

/-- What is written for an optional field is read or null. -/
theorem read_of_optional {o : Option α} (h : entries.optional name read = some o)
    {value : Node} (hvalue : entries.find? name = some value) :
    value = .null ∨ ∃ x, read value = some x := by
  unfold optional at h
  rw [hvalue] at h
  cases value with
  | null => exact .inl rfl
  | _ =>
      obtain ⟨x, hx, -⟩ := Option.map_eq_some_iff.mp h
      exact .inr ⟨x, hx⟩

/-- An optional field says what is written for it; null says nothing. -/
theorem forall_mem_optional_iff {P : α → Prop} {o : Option α} (hnull : read .null = none)
    (h : entries.optional name read = some o) :
    (∀ x ∈ o, P x) ↔
      ∀ value, entries.find? name = some value → ∀ x, read value = some x → P x := by
  unfold optional at h
  split at h
  · rename_i habsent
    obtain rfl := Option.some.inj h
    simp [habsent]
  · rename_i hfound
    obtain rfl := Option.some.inj h
    simp [hfound, hnull]
  · rename_i hfound
    obtain ⟨x, hx, rfl⟩ := Option.map_eq_some_iff.mp h
    simp [hfound, hx]

/-- A field with a default says what is written for it; the default says nothing. -/
theorem withDefault_iff {P : α → Prop} {default x : α} (hdefault : P default)
    (h : entries.withDefault name default read = some x) :
    P x ↔ ∀ value, entries.find? name = some value → ∀ y, read value = some y → P y := by
  unfold withDefault at h
  split at h
  · rename_i habsent
    obtain rfl := Option.some.inj h
    simp [habsent, hdefault]
  · rename_i value hfound
    simp [hfound, h]

end Entries

/-- In a strict record a field is found exactly when it is written. -/
theorem Shape.find?_eq_some_iff_writes {shape : Shape} (hstrict : shape.strict = true)
    (hnames : shape.names.Nodup) {n : Node} {entries : Entries}
    (h : shape.entries? n = some entries) {name : String} {value : Node} :
    entries.find? name = some value ↔ n.Writes shape.names name value :=
  (Entries.find?_eq_some_iff (nodup_entries hstrict hnames h)).trans
    (mem_entries_iff_writes hstrict h)

end Dunning
