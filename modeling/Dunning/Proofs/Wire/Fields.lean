import Dunning.Proofs.Wire.Record
import Dunning.Proofs.Wire.Strict
import Dunning.Proofs.Wire.Text

/-!
# What is left out is read as nothing

A record leaves out a field that is not set and a list that is empty. What it writes has some of its
names, in their order, and a field is found under its name exactly when it is set. An optional field
that is not found is not set, and a list that is not found is empty: so every field is read as it
was.

## Main definitions

* `Json.field?` — what an object gives for a field.
* `Json.ReadBack` — a value is read from the document and from the text that write it.

## Main results

* `Shape.entries?_of_sublist` — the fields of a record of which some are left out.
* `Entries.optional_ofFields`, `Entries.withDefault_ofFields_list` — what is left out is read as
  nothing.
* `Json.readBack_of_decode` — what is read from the document is read from its text.
-/

namespace Dunning

variable {α : Type}

namespace Json

/-! ## Looking fields up -/

/-- What an object gives for a field. -/
def field? (value : Json) (name : String) : Option Json :=
  match value with
  | .object fields => fields.lookup name
  | _ => none

@[simp] theorem lookup_cons (name other : String) (value : Json) (rest : List (String × Json)) :
    ((other, value) :: rest).lookup name =
      if name = other then some value else rest.lookup name := by
  by_cases h : name = other
  · rw [h, List.lookup_cons_self, if_pos rfl]
  · rw [List.lookup_cons, beq_false_of_ne h, if_neg h]

@[simp] theorem lookup_fieldOf (name other : String) (write : α → Json) (o : Option α) :
    (fieldOf other write o).lookup name = if name = other then o.map write else none := by
  cases o with
  | none => simp [fieldOf]
  | some a => exact lookup_cons name other (write a) []

/-- A list as a value, unless it is empty. -/
def ofNonempty (write : α → Json) : List α → Option Json
  | [] => none
  | items => some (ofList write items)

@[simp] theorem lookup_listField (name other : String) (write : α → Json) (items : List α) :
    (listField other write items).lookup name =
      if name = other then ofNonempty write items else none := by
  cases items with
  | nil => simp [listField, ofNonempty]
  | cons a items => exact lookup_cons name other (ofList write (a :: items)) []

theorem ofNonempty_eq_none_iff (write : α → Json) (items : List α) :
    ofNonempty write items = none ↔ items = [] := by
  cases items <;> simp [ofNonempty]

theorem map_fst_fieldOf_sublist (name : String) (write : α → Json) (o : Option α) :
    ((fieldOf name write o).map Prod.fst).Sublist [name] := by
  cases o with
  | none => exact List.nil_sublist _
  | some a => exact List.Sublist.refl _

theorem map_fst_listField_sublist (name : String) (write : α → Json) (items : List α) :
    ((listField name write items).map Prod.fst).Sublist [name] := by
  cases items with
  | nil => exact List.nil_sublist _
  | cons a items => exact List.Sublist.refl _

/-! ## Whole numbers -/

@[simp] theorem isScalar_string (s : String) : (string s).IsScalar := trivial

@[simp] theorem isScalar_uint32 (n : UInt32) : (nat n.toNat).IsScalar := by
  have hlt := n.toNat_lt
  exact isScalar_nat (by omega)

@[simp] theorem isScalar_uint64 (n : UInt64) : (nat n.toNat).IsScalar := isScalar_nat n.toNat_lt

theorem isScalar_ofOption {write : α → Json} (h : ∀ a, (write a).IsScalar)
    (o : Option α) : (ofOption write o).IsScalar := by
  cases o with
  | none => trivial
  | some a => exact h a

@[simp] theorem isWhole_object (fields : List (String × Json)) :
    (object fields).IsWhole ↔ ∀ f ∈ fields, f.2.IsWhole := by
  rw [IsWhole]
  induction fields with
  | nil => simp [FieldsAreWhole]
  | cons f fields ih => rw [FieldsAreWhole, ih, List.forall_mem_cons]

theorem isWhole_ofList {write : α → Json} {items : List α} (h : ∀ a ∈ items, (write a).IsWhole) :
    (ofList write items).IsWhole := by
  rw [ofList, IsWhole]
  induction items with
  | nil => trivial
  | cons a items ih =>
      rw [List.forall_mem_cons] at h
      exact ⟨h.1, ih h.2⟩

theorem isWhole_fieldOf {name : String} {write : α → Json} (h : ∀ a, (write a).IsWhole)
    (o : Option α) : ∀ f ∈ fieldOf name write o, f.2.IsWhole := by
  cases o with
  | none => exact List.forall_mem_nil _
  | some a => exact List.forall_mem_singleton.mpr (h a)

theorem isWhole_listField {name : String} {write : α → Json} (h : ∀ a, (write a).IsWhole)
    (items : List α) : ∀ f ∈ listField name write items, f.2.IsWhole := by
  cases items with
  | nil => exact List.forall_mem_nil _
  | cons a items => exact List.forall_mem_singleton.mpr (isWhole_ofList fun b _ => h b)

theorem IsScalar.isWhole {value : Json} (h : value.IsScalar) : value.IsWhole := by
  cases value with
  | array => exact h.elim
  | object => exact h.elim
  | _ => exact h

@[simp] theorem isWhole_string (s : String) : (string s).IsWhole := (isScalar_string s).isWhole

@[simp] theorem isWhole_bool (b : Bool) : (bool b).IsWhole := IsScalar.isWhole trivial

@[simp] theorem isWhole_uint32 (n : UInt32) : (nat n.toNat).IsWhole := (isScalar_uint32 n).isWhole

@[simp] theorem isWhole_uint64 (n : UInt64) : (nat n.toNat).IsWhole := (isScalar_uint64 n).isWhole

theorem isWhole_of_scalars {fields : List (String × Json)} (h : ∀ f ∈ fields, f.2.IsScalar) :
    (object fields).IsWhole :=
  (isWhole_object fields).mpr fun f hf => (h f hf).isWhole

/-! ## Documents and texts -/

/-- A value is read back from the document and from the text that write it. -/
def ReadBack (read : Node → Option α) (value : Json) (a : α) : Prop :=
  read value.toNode = some a ∧ (Node.parse? value.render).bind read = some a

/-- What is read from the document is read from the text as well. -/
theorem readBack_of_decode {read : Node → Option α} {value : Json} {a : α} (hwhole : value.IsWhole)
    (hread : read value.toNode = some a) : ReadBack read value a :=
  ⟨hread, by rw [Node.parse?_render hwhole, Option.bind_some, hread]⟩

end Json

/-! ## Reading fields -/

/-- The entries that written fields are read as. -/
def Entries.ofFields (fields : List (String × Json)) : Entries :=
  fields.map fun f => (f.1, f.2.toNode)

/-- The fields of a written object with some of the names of a record, in their order. -/
theorem Shape.entries?_of_sublist {shape : Shape} {fields : List (String × Json)}
    (hfields : (fields.map Prod.fst).Sublist shape.names) (hnames : shape.names.Nodup) :
    shape.entries? (Json.object fields).toNode = some (.ofFields fields) := by
  rw [Json.toNode_object]
  refine entries?_object (List.all_eq_true.mpr fun name hname => ?_) (hnames.sublist hfields)
  exact knows_iff.mpr (hfields.subset hname)

namespace Entries

variable {fields : List (String × Json)} {name : String} {read : Node → Option α}
  {write : α → Json}

/-- A field is found under its name when it is written. -/
theorem find?_ofFields (fields : List (String × Json)) (name : String) :
    (ofFields fields).find? name = (fields.lookup name).map Json.toNode := by
  induction fields with
  | nil => rfl
  | cons f fields ih =>
      rw [find?, ofFields] at ih ⊢
      rw [List.map_cons, List.lookup_cons, List.lookup_cons, ih]
      cases name == f.1 <;> rfl

theorem required_ofFields {value : Json} {a : α} (hread : read value.toNode = some a)
    (hfield : fields.lookup name = some value) :
    (ofFields fields).required name read = some a := by
  rw [required, find?_ofFields, hfield, Option.map_some, Option.bind_some, hread]

theorem withDefault_ofFields {value : Json} {a default : α} (hread : read value.toNode = some a)
    (hfield : fields.lookup name = some value) :
    (ofFields fields).withDefault name default read = some a := by
  rw [withDefault, find?_ofFields, hfield]
  exact hread

/-- A field that is written when it is set is read as it was. -/
theorem optional_ofFields {o : Option α} (hread : ∀ a, read (write a).toNode = some a)
    (hnull : read .null = none) (hfield : fields.lookup name = o.map write) :
    (ofFields fields).optional name read = some o := by
  rw [optional, find?_ofFields, hfield]
  cases o with
  | none => rfl
  | some a =>
      have hne : (write a).toNode ≠ .null := by
        intro hwritten
        have ha := hread a
        rw [hwritten, hnull] at ha
        cases ha
      split
      · rename_i hfound
        cases hfound
      · rename_i hfound
        exact absurd (Option.some.inj hfound) hne
      · rename_i hfound
        rw [← Option.some.inj hfound, hread]
        rfl

/-- A field that is written as null when it is not set is read as it was. -/
theorem optional_ofFields_null {o : Option α} (hread : ∀ a, read (write a).toNode = some a)
    (hnull : read .null = none) (hfield : fields.lookup name = some (Json.ofOption write o)) :
    (ofFields fields).optional name read = some o := by
  cases o with
  | none => rw [optional, find?_ofFields, hfield, Json.ofOption, Option.map_some, Json.toNode]
  | some a => exact optional_ofFields hread hnull hfield

end Entries

/-! ## Values of fields -/

@[simp] theorem Node.bool?_toNode (b : Bool) : (Json.bool b).toNode.bool? = some b := by
  rw [Json.toNode, bool?]

@[simp] theorem Node.string?_toNode (s : String) : (Json.string s).toNode.string? = some s := by
  rw [Json.toNode_string, string?]

theorem Node.readItems?_toNodes {read : Node → Option α} {write : α → Json} {items : List α}
    (hread : ∀ a ∈ items, read (write a).toNode = some a) :
    readItems? read (Json.toNodes (items.map write)) = some items := by
  induction items with
  | nil =>
      rw [List.map_nil, Json.toNodes]
      rfl
  | cons a items ih =>
      have hrest := ih fun b hb => hread b (List.mem_cons_of_mem _ hb)
      simp only [List.map_cons, Json.toNodes, readItems?, hread a List.mem_cons_self, hrest]

/-- A written list is read when its items are. -/
theorem Node.list?_ofList {read : Node → Option α} {write : α → Json} {items : List α}
    (hread : ∀ a ∈ items, read (write a).toNode = some a) :
    (Json.ofList write items).toNode.list? read = some items := by
  rw [Json.ofList, Json.toNode]
  exact readItems?_toNodes hread

/-- A list that is written when it has items is read as it was. -/
theorem Entries.withDefault_ofFields_list {fields : List (String × Json)} {name : String}
    {read : Node → Option α} {write : α → Json} {items : List α}
    (hread : ∀ a, read (write a).toNode = some a)
    (hfield : fields.lookup name = Json.ofNonempty write items) :
    (ofFields fields).withDefault name [] (Node.list? read) = some items := by
  rw [withDefault, find?_ofFields, hfield]
  cases items with
  | nil => rfl
  | cons a items => exact Node.list?_ofList fun b _ => hread b

end Dunning
