import Dunning.Overdue.StateSet
import Dunning.Proofs.Wire.Fields
import Dunning.Proofs.Wire.Payload

/-!
# Configurations are read back

A configuration is written in records, one within another, each with the fields that are set.
Reading the text gives the same states: a field is left out exactly when it is not set, and what is
left out is read as not set.

## Main definitions

* `StateDef.LeavesOut`, `Condition.LeavesOut` — a document leaves out what is not set, and nothing
  else.

## Main results

* `StateDef.decode?_toJson` — the document of a state is read as the state.
* `StateSet.documents_are_read_back` — the text of a checked set is read as the set.
-/

namespace Dunning

/-! ## Flags and intervals -/

namespace BlockFlags

theorem decode?_toJson (f : BlockFlags) : decode? f.toJson.toNode = some f := by
  have hentries : shape.entries? f.toJson.toNode = some (.ofFields _) :=
    Shape.entries?_of_sublist (List.Sublist.refl _) (by decide)
  rw [decode?, hentries]
  refine Option.bind_eq_some_iff.mpr ⟨_, rfl, ?_⟩
  refine Option.bind_eq_some_iff.mpr
    ⟨_, Entries.withDefault_ofFields (Node.bool?_toNode f.blockChanges) (by simp), ?_⟩
  refine Option.bind_eq_some_iff.mpr
    ⟨_, Entries.withDefault_ofFields (Node.bool?_toNode f.blockEntitlement) (by simp), ?_⟩
  exact Option.bind_eq_some_iff.mpr
    ⟨_, Entries.withDefault_ofFields (Node.bool?_toNode f.disableAutoPay) (by simp), rfl⟩

theorem isWhole_toJson (f : BlockFlags) : f.toJson.IsWhole := by
  simp [toJson]

end BlockFlags

namespace Interval

theorem decode?_toJson (i : Interval) : decode? i.toJson.toNode = some i := by
  have hentries : shape.entries? i.toJson.toNode = some (.ofFields _) :=
    Shape.entries?_of_sublist (List.Sublist.refl _) (by decide)
  rw [decode?, hentries]
  refine Option.bind_eq_some_iff.mpr ⟨_, rfl, ?_⟩
  refine Option.bind_eq_some_iff.mpr
    ⟨_, Entries.withDefault_ofFields (Node.uint32?_toNode i.days) (by simp), ?_⟩
  refine Option.bind_eq_some_iff.mpr
    ⟨_, Entries.withDefault_ofFields (Node.uint32?_toNode i.hours) (by simp), ?_⟩
  exact Option.bind_eq_some_iff.mpr
    ⟨_, Entries.withDefault_ofFields (Node.uint32?_toNode i.minutes) (by simp), rfl⟩

theorem isWhole_toJson (i : Interval) : i.toJson.IsWhole := by
  simp [toJson]

end Interval

/-! ## Conditions -/

namespace Condition

/-- What a condition writes has some of the names of its fields, in their order. -/
theorem map_fst_fields_sublist (c : Condition) :
    (c.fields.map Prod.fst).Sublist shape.names := by
  simp only [fields, List.map_append]
  exact Json.map_fst_fieldOf_sublist _ _ _
    |>.append (Json.map_fst_fieldOf_sublist _ _ _)
    |>.append (Json.map_fst_fieldOf_sublist _ _ _)
    |>.append (Json.map_fst_listField_sublist _ _ _)
    |>.append (Json.map_fst_listField_sublist _ _ _)
    |>.append (Json.map_fst_fieldOf_sublist _ _ _)
    |>.append (Json.map_fst_listField_sublist _ _ _)

theorem decode?_toJson (c : Condition) : decode? c.toJson.toNode = some c := by
  have hentries : shape.entries? c.toJson.toNode = some (.ofFields c.fields) :=
    Shape.entries?_of_sublist c.map_fst_fields_sublist (by decide)
  rw [decode?, hentries]
  refine Option.bind_eq_some_iff.mpr ⟨_, rfl, ?_⟩
  refine Option.bind_eq_some_iff.mpr ⟨c.daysOverdueAtLeast,
    Entries.optional_ofFields Node.uint32?_toNode rfl
      (by simp [fields, List.lookup_append]), ?_⟩
  refine Option.bind_eq_some_iff.mpr ⟨c.unpaidInvoicesAtLeast,
    Entries.optional_ofFields Node.uint32?_toNode rfl
      (by simp [fields, List.lookup_append]), ?_⟩
  refine Option.bind_eq_some_iff.mpr ⟨c.unpaidBalanceAtLeast,
    Entries.optional_ofFields Node.uint64?_toNode rfl
      (by simp [fields, List.lookup_append]), ?_⟩
  refine Option.bind_eq_some_iff.mpr ⟨c.tagsInclude,
    Entries.withDefault_ofFields_list Node.string?_toNode
      (by simp [fields, List.lookup_append]), ?_⟩
  refine Option.bind_eq_some_iff.mpr ⟨c.tagsExclude,
    Entries.withDefault_ofFields_list Node.string?_toNode
      (by simp [fields, List.lookup_append]), ?_⟩
  refine Option.bind_eq_some_iff.mpr ⟨c.paymentMethodMissing,
    Entries.optional_ofFields Node.bool?_toNode rfl
      (by simp [fields, List.lookup_append]), ?_⟩
  exact Option.bind_eq_some_iff.mpr ⟨c.lastFailureIn,
    Entries.withDefault_ofFields_list PaymentFailure.decode?_toJson
      (by simp [fields, List.lookup_append]), rfl⟩

theorem isWhole_toJson (c : Condition) : c.toJson.IsWhole := by
  rw [toJson, Json.isWhole_object]
  simp only [fields, List.forall_mem_append, and_assoc]
  exact ⟨Json.isWhole_fieldOf Json.isWhole_uint32 _, Json.isWhole_fieldOf Json.isWhole_uint32 _,
    Json.isWhole_fieldOf Json.isWhole_uint64 _, Json.isWhole_listField Json.isWhole_string _,
    Json.isWhole_listField Json.isWhole_string _, Json.isWhole_fieldOf Json.isWhole_bool _,
    Json.isWhole_listField (fun _ => Json.isWhole_string _) _⟩

/-- A document leaves out the criteria that a condition does not set, and no others. -/
structure LeavesOut (c : Condition) (document : Json) : Prop where
  daysOverdue : document.field? "days_overdue_at_least" = none ↔ c.daysOverdueAtLeast = none
  unpaidInvoices :
    document.field? "unpaid_invoice_count_at_least" = none ↔ c.unpaidInvoicesAtLeast = none
  unpaidBalance : document.field? "unpaid_balance_at_least" = none ↔ c.unpaidBalanceAtLeast = none
  tagsInclude : document.field? "tags_include" = none ↔ c.tagsInclude = []
  tagsExclude : document.field? "tags_exclude" = none ↔ c.tagsExclude = []
  paymentMethod : document.field? "payment_method_missing" = none ↔ c.paymentMethodMissing = none
  lastFailure : document.field? "last_payment_failure_in" = none ↔ c.lastFailureIn = []

theorem leavesOut_toJson (c : Condition) : c.LeavesOut c.toJson := by
  constructor <;>
    simp [Json.field?, toJson, fields, List.lookup_append, Json.ofNonempty_eq_none_iff]

end Condition

/-! ## States -/

namespace StateDef

theorem map_fst_fields_sublist (d : StateDef) :
    (d.fields.map Prod.fst).Sublist shape.names := by
  simp only [fields, List.map_append]
  exact List.Sublist.refl ["name", "condition", "actions"]
    |>.append (Json.map_fst_fieldOf_sublist _ _ _)
    |>.append (Json.map_fst_fieldOf_sublist _ _ _)
    |>.append (Json.map_fst_listField_sublist _ _ _)
    |>.append (Json.map_fst_listField_sublist _ _ _)

/-- **The document of a state is read as the state.** -/
theorem decode?_toJson (d : StateDef) : decode? d.toJson.toNode = some d := by
  have hentries : shape.entries? d.toJson.toNode = some (.ofFields d.fields) :=
    Shape.entries?_of_sublist d.map_fst_fields_sublist (by decide)
  rw [decode?, hentries]
  refine Option.bind_eq_some_iff.mpr ⟨_, rfl, ?_⟩
  refine Option.bind_eq_some_iff.mpr ⟨d.name,
    Entries.required_ofFields (Node.string?_toNode _) (by simp [fields]), ?_⟩
  refine Option.bind_eq_some_iff.mpr ⟨d.condition,
    Entries.required_ofFields d.condition.decode?_toJson (by simp [fields]), ?_⟩
  refine Option.bind_eq_some_iff.mpr ⟨d.actions,
    Entries.withDefault_ofFields d.actions.decode?_toJson (by simp [fields]), ?_⟩
  refine Option.bind_eq_some_iff.mpr ⟨d.interval,
    Entries.optional_ofFields Interval.decode?_toJson rfl
      (by simp [fields, List.lookup_append]), ?_⟩
  refine Option.bind_eq_some_iff.mpr ⟨d.externalMessage,
    Entries.optional_ofFields Node.string?_toNode rfl
      (by simp [fields, List.lookup_append]), ?_⟩
  refine Option.bind_eq_some_iff.mpr ⟨d.onEntry,
    Entries.withDefault_ofFields_list Node.string?_toNode
      (by simp [fields, List.lookup_append]), ?_⟩
  exact Option.bind_eq_some_iff.mpr ⟨d.onExit,
    Entries.withDefault_ofFields_list Node.string?_toNode
      (by simp [fields, List.lookup_append]), rfl⟩

theorem isWhole_toJson (d : StateDef) : d.toJson.IsWhole := by
  rw [toJson, Json.isWhole_object]
  simp only [fields, List.forall_mem_append, List.forall_mem_cons, and_assoc]
  exact ⟨Json.isWhole_string _, d.condition.isWhole_toJson, d.actions.isWhole_toJson,
    List.forall_mem_nil _, Json.isWhole_fieldOf Interval.isWhole_toJson _,
    Json.isWhole_fieldOf Json.isWhole_string _, Json.isWhole_listField Json.isWhole_string _,
    Json.isWhole_listField Json.isWhole_string _⟩

/-- A document leaves out what a state and its condition do not set, and nothing else. -/
structure LeavesOut (d : StateDef) (document : Json) : Prop where
  condition : ∃ criteria, document.field? "condition" = some criteria ∧
    d.condition.LeavesOut criteria
  interval : document.field? "reevaluation_interval" = none ↔ d.interval = none
  externalMessage : document.field? "external_message" = none ↔ d.externalMessage = none
  onEntry : document.field? "on_entry" = none ↔ d.onEntry = []
  onExit : document.field? "on_exit" = none ↔ d.onExit = []

theorem leavesOut_toJson (d : StateDef) : d.LeavesOut d.toJson := by
  refine ⟨⟨d.condition.toJson, by simp [Json.field?, toJson, fields],
    d.condition.leavesOut_toJson⟩, ?_, ?_, ?_, ?_⟩ <;>
    simp [Json.field?, toJson, fields, List.lookup_append, Json.ofNonempty_eq_none_iff]

end StateDef

/-! ## Sets -/

namespace StateSet

theorem decodeStates?_toJson (s : StateSet) : decodeStates? s.toJson.toNode = some s.states := by
  have hentries : shape.entries? s.toJson.toNode = some (.ofFields _) :=
    Shape.entries?_of_sublist (List.Sublist.refl _) (by decide)
  rw [decodeStates?, hentries]
  exact Option.bind_eq_some_iff.mpr ⟨_, rfl,
    Entries.required_ofFields (Node.list?_ofList fun d _ => d.decode?_toJson) (by simp)⟩

theorem isWhole_toJson (s : StateSet) : s.toJson.IsWhole := by
  rw [toJson, Json.isWhole_object, List.forall_mem_singleton]
  exact Json.isWhole_ofList fun d _ => d.isWhole_toJson

/-- The text of a set gives its states to the check, whatever the version. -/
theorem ofText?_render (version : UInt64) (s : StateSet) :
    ofText? version s.toJson.render = build? version s.states := by
  obtain ⟨-, htext⟩ := Json.readBack_of_decode s.isWhole_toJson s.decodeStates?_toJson
  rw [ofText?, htext]

/-- **The text of a checked set is read as the set.** It is written as one object with a document
for each state in order, and a document leaves out exactly what the state that is read from it does
not set. -/
theorem documents_are_read_back {version : UInt64} {states : List StateDef} {set : StateSet}
    (h : build? version states = .ok set) :
    ∃ documents : List Json, set.toJson = .object [("states", .array documents)] ∧
      ofText? version set.toJson.render = .ok set ∧
      List.Forall₂ StateDef.LeavesOut set.states documents := by
  obtain rfl : set = ⟨version, states⟩ := by
    unfold build? at h
    split at h
    · cases h
    · exact (Except.ok.inj h).symm
  refine ⟨states.map StateDef.toJson, rfl, ?_, ?_⟩
  · rw [ofText?_render]
    exact h
  · rw [List.forall₂_map_right_iff, List.forall₂_same]
    exact fun d _ => d.leavesOut_toJson

/-- The first of two states sets everything, with characters that are escaped and texts that are
empty; the second sets as little as it may. -/
def fullAndBare : List StateDef :=
  [{ name := "\"O\\D\x07 é"
     condition :=
       { daysOverdueAtLeast := some 0, unpaidInvoicesAtLeast := some 4294967295
         unpaidBalanceAtLeast := some 18446744073709551615, tagsInclude := ["", "\n"]
         tagsExclude := ["€"], paymentMethodMissing := some false, lastFailureIn := [.gatewayError] }
     actions := .all, interval := some ⟨0, 0, 5⟩, externalMessage := some "", onEntry := ["log"]
     onExit := ["log", "log"] },
   { name := "OD1", condition := .daysOverdue 30 }]

theorem documents_are_read_back_full_and_bare :
    build? 9 fullAndBare = .ok ⟨9, fullAndBare⟩ ∧
      ofText? 9 (toJson ⟨9, fullAndBare⟩).render = .ok ⟨9, fullAndBare⟩ ∧
      ∃ full bare, toJson ⟨9, fullAndBare⟩ = .object [("states", .array [full, bare])] ∧
        full.field? "external_message" ≠ none ∧ bare.field? "external_message" = none := by
  have hbuilt : build? 9 fullAndBare = .ok ⟨9, fullAndBare⟩ := rfl
  obtain ⟨documents, hdocuments, htext, hleft⟩ := documents_are_read_back hbuilt
  obtain ⟨full, others, hfull, hothers, rfl⟩ := List.forall₂_cons_left_iff.mp hleft
  obtain ⟨bare, rest, hbare, hrest, rfl⟩ := List.forall₂_cons_left_iff.mp hothers
  obtain rfl := List.forall₂_nil_left_iff.mp hrest
  refine ⟨hbuilt, htext, full, bare, hdocuments, ?_, hbare.externalMessage.mpr rfl⟩
  exact fun habsent => nomatch hfull.externalMessage.mp habsent

end StateSet

end Dunning
