import Dunning.Json.Decode
import Mathlib.Data.List.Nodup

/-!
# Records are read back field by field

A record is written as an object of its fields. Reading the object gives every known field once, and
a record with a tag is told apart by it. What is left is one law for each field.

## Main definitions

* `Json.IsScalar` — values without parts.

## Main results

* `Shape.entries?_object` — the fields of a written object.
* `Node.tagged?_object` — the kind and the other fields of a written record with a tag.
* `Node.uint32?_toNode`, `Node.uint64?_toNode` — numbers are read back.
-/

namespace Dunning

namespace Json

@[simp] theorem toNode_object (fields : List (String × Json)) :
    (Json.object fields).toNode = .object (toNodeFields fields) := by
  rw [toNode]

@[simp] theorem toNodeFields_nil : toNodeFields [] = [] := by
  rw [toNodeFields]

@[simp] theorem toNodeFields_cons (name : String) (value : Json) (rest : List (String × Json)) :
    toNodeFields ((name, value) :: rest) = (some name, value.toNode) :: toNodeFields rest := by
  rw [toNodeFields]

@[simp] theorem toNode_string (s : String) : (Json.string s).toNode = .string (some s) := by
  rw [toNode]

/-- Values without parts, numbers being whole and within 64 bits. -/
def IsScalar : Json → Prop
  | .null => True
  | .bool _ => True
  | .string _ => True
  | .number (.int n) => -9223372036854775808 ≤ n ∧ n < 18446744073709551616
  | _ => False

theorem IsScalar.depth_toNode {value : Json} (h : value.IsScalar) : value.toNode.depth = 0 := by
  cases value with
  | array => exact h.elim
  | object => exact h.elim
  | _ => simp only [toNode, Node.depth]

theorem IsScalar.exists_toJson? {value : Json} (h : value.IsScalar) :
    ∃ v, value.toNode.toJson? = some v := by
  cases value with
  | array => exact h.elim
  | object => exact h.elim
  | number n =>
      cases n with
      | decimal => exact h.elim
      | int n =>
          refine ⟨.number (.int n), ?_⟩
          rw [toNode, Node.toJson?, Number.toLiteral, Literal.toNumber?, Literal.within?,
            Literal.toInt?_ofInt]
          simp only [if_pos (show -9223372036854775808 ≤ n ∧ n < 18446744073709551616 from h)]
          rfl
  | _ => simp [toNode, Node.toJson?]

private theorem depthFields_toNodeFields {fields : List (String × Json)}
    (h : ∀ f ∈ fields, f.2.IsScalar) : Node.depthFields (toNodeFields fields) = 0 := by
  induction fields with
  | nil => rw [toNodeFields_nil, Node.depthFields]
  | cons f rest ih =>
      have hrest := ih fun g hg => h g (List.mem_cons_of_mem _ hg)
      have hfirst := (h f List.mem_cons_self).depth_toNode
      rw [toNodeFields_cons, Node.depthFields, hrest, hfirst, Nat.max_self]

private theorem exists_toJsonFields? {fields : List (String × Json)}
    (h : ∀ f ∈ fields, f.2.IsScalar) (done : List (String × Json)) :
    ∃ v, Node.toJsonFields? done (toNodeFields fields) = some v := by
  induction fields generalizing done with
  | nil => exact ⟨done, by rw [toNodeFields_nil, Node.toJsonFields?]⟩
  | cons f rest ih =>
      obtain ⟨name, json⟩ := f
      obtain ⟨value, hvalue⟩ := (h _ List.mem_cons_self).exists_toJson?
      obtain ⟨v, hv⟩ := ih (fun g hg => h g (List.mem_cons_of_mem _ hg))
        (insertField name value done)
      exact ⟨v, by simp only [toNodeFields_cons, Node.toJsonFields?, hvalue, hv]⟩

end Json

/-! ## Objects -/

/-- The fields of a written object, when all are known and none occurs twice. -/
theorem Shape.entries?_object {shape : Shape} {fields : List (String × Json)}
    (hknown : (fields.map Prod.fst).all shape.knows = true)
    (hnodup : (fields.map Prod.fst).Nodup) :
    shape.entries? (.object (Json.toNodeFields fields)) =
      some (fields.map fun f => (f.1, f.2.toNode)) := by
  show shape.objectEntries? _ = _
  induction fields with
  | nil => rw [Json.toNodeFields_nil]; rfl
  | cons f rest ih =>
      obtain ⟨name, value⟩ := f
      obtain ⟨hfirst, hrest⟩ := Bool.and_eq_true_iff.mp
        (List.all_cons ▸ List.map_cons ▸ hknown)
      obtain ⟨hnew, hnodup⟩ := List.nodup_cons.mp (List.map_cons ▸ hnodup)
      have habsent : (rest.map fun g => (g.1, g.2.toNode)).any (fun e => e.1 == name) = false := by
        rw [List.any_eq_false]
        intro e he
        obtain ⟨g, hg, rfl⟩ := List.mem_map.mp he
        intro heq
        exact hnew (List.mem_map.mpr ⟨g, hg, by simpa using heq⟩)
      have hentries := ih hrest hnodup
      simp only [Json.toNodeFields_cons, objectEntries?, hentries, hfirst, if_true, habsent,
        Bool.false_eq_true, if_false, List.map_cons]

@[simp] theorem Entries.required_cons_self {α : Type} (name : String) (node : Node) (rest : Entries)
    (read : Node → Option α) : Entries.required ((name, node) :: rest) name read = read node := by
  rw [Entries.required, Entries.find?, List.lookup_cons_self, Option.bind_some]

@[simp] theorem Entries.required_cons_of_ne {α : Type} {name other : String} (h : name ≠ other)
    (node : Node) (rest : Entries) (read : Node → Option α) :
    Entries.required ((other, node) :: rest) name read = rest.required name read := by
  rw [Entries.required, Entries.find?, List.lookup_cons, beq_false_of_ne h]
  rfl

/-- A field that has another name than the tag stays. -/
private theorem splitTag?_toNodeFields {tag : String} {fields : List (String × Json)}
    (h : tag ∉ fields.map Prod.fst) :
    Node.splitTag? tag (Json.toNodeFields fields) = some (none, Json.toNodeFields fields) := by
  induction fields with
  | nil => rw [Json.toNodeFields_nil, Node.splitTag?]
  | cons f rest ih =>
      obtain ⟨name, value⟩ := f
      rw [List.map_cons, List.mem_cons, not_or] at h
      have hsplit := ih h.2
      simp only [Json.toNodeFields_cons, Node.splitTag?, hsplit, if_neg (Ne.symm h.1)]

/-- The kind and the other fields of a written record whose first field is its tag. -/
theorem Node.tagged?_object (tag kind : String) {fields : List (String × Json)}
    (hscalar : ∀ f ∈ fields, f.2.IsScalar) (htag : tag ∉ fields.map Prod.fst) :
    (Json.object ((tag, .string kind) :: fields)).toNode.tagged? tag =
      some (kind, .object (Json.toNodeFields fields)) := by
  have hall : ∀ f ∈ (tag, .string kind) :: fields, f.2.IsScalar := by
    intro f hf
    rcases List.mem_cons.mp hf with rfl | hmem
    · trivial
    · exact hscalar f hmem
  have hdepth : (Json.object ((tag, .string kind) :: fields)).toNode.depth = 1 := by
    rw [Json.toNode_object, Node.depth, Json.depthFields_toNodeFields hall]
  have hdenotes : (Json.object ((tag, .string kind) :: fields)).toNode.denotes = true := by
    obtain ⟨v, hv⟩ := Json.exists_toJsonFields? hall []
    rw [Json.toNode_object, Node.denotes, Node.toJson?, hv]
    rfl
  have hsplit : Node.splitTag? tag (Json.toNodeFields ((tag, .string kind) :: fields)) =
      some (some (.string (some kind)), Json.toNodeFields fields) := by
    have hrest := splitTag?_toNodeFields htag
    simp only [Json.toNodeFields_cons, Node.splitTag?, hrest, if_true, Json.toNode_string]
  unfold tagged?
  rw [hdepth, hdenotes, Json.toNode_object]
  simp only [hsplit]
  rfl

/-! ## Numbers -/

theorem Node.below?_toNode {limit n : Nat} (h : n < limit) :
    (Json.nat n).toNode.below? limit = some n := by
  have hrange : (0 : Int) ≤ n ∧ (n : Int) < limit := by omega
  rw [Json.nat, Json.toNode, Number.toLiteral, Node.below?, Literal.within?, Literal.toInt?_ofInt]
  simp only [if_pos hrange, Option.map_some, Int.toNat_natCast]

@[simp] theorem Node.uint32?_toNode (n : UInt32) : (Json.nat n.toNat).toNode.uint32? = some n := by
  rw [Node.uint32?, Node.below?_toNode n.toNat_lt_size, Option.map_some, UInt32.ofNat_toNat]

@[simp] theorem Node.uint64?_toNode (n : UInt64) : (Json.nat n.toNat).toNode.uint64? = some n := by
  rw [Node.uint64?, Node.below?_toNode n.toNat_lt_size, Option.map_some, UInt64.ofNat_toNat]

theorem Json.isScalar_nat {n : Nat} (h : n < 18446744073709551616) : (Json.nat n).IsScalar := by
  show (-9223372036854775808 : Int) ≤ n ∧ (n : Int) < 18446744073709551616
  omega

end Dunning
