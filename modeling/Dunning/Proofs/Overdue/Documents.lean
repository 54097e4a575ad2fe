import Dunning.Overdue.StateSet
import Dunning.Proofs.Wire.Strict
import Mathlib

/-!
# No setting of a configuration is ignored

A configuration is written in records of five kinds, one within another. Each of them has its
fields, and a document that names any other, or one of them twice, or leaves out one that is needed,
is refused, however deep the record lies. What is left is read in full: a condition holds exactly
when every criterion that is written holds, and a restriction is set exactly when it is written as
true.

## Main definitions

* `ConfigRecord` — the kinds of records with their fields.
* `Node.Holds` — the records of a document.
* `ConfigRecord.WellWritten` — a record with declared fields only, each once, and all that it needs.
* `Condition.Asks` — what one criterion asks of an account.
* `StateDef.SaidBy` — a state has the condition and the restrictions that are written.

## Main results

* `StateSet.wellWritten_of_holds` — every record of a document that is read is well written.
* `StateSet.no_setting_is_ignored` — what is accepted was written and read in full, and the rest is
  malformed.
-/

namespace Dunning

/-! ## The records of a configuration -/

/-- The kinds of records that a configuration is written in. -/
inductive ConfigRecord where
  | document
  | state
  | condition
  | actions
  | interval
  deriving Repr, DecidableEq

namespace ConfigRecord

/-- The fields of a record in the order in which an array gives them. -/
def declared : ConfigRecord → List String
  | document => ["states"]
  | state =>
    ["name", "condition", "actions", "reevaluation_interval", "external_message", "on_entry",
      "on_exit"]
  | condition =>
    ["days_overdue_at_least", "unpaid_invoice_count_at_least", "unpaid_balance_at_least",
      "tags_include", "tags_exclude", "payment_method_missing", "last_payment_failure_in"]
  | actions => ["block_changes", "block_entitlement", "disable_auto_pay"]
  | interval => ["days", "hours", "minutes"]

/-- The fields that a record cannot do without. -/
def needed : ConfigRecord → List String
  | document => ["states"]
  | state => ["name", "condition"]
  | _ => []

/-- What a record of a kind writes for a field. -/
def Writes (r : ConfigRecord) (n : Node) (name : String) (value : Node) : Prop :=
  n.Writes r.declared name value

/-- A record with declared fields only, each once, and all that it needs. -/
structure WellWritten (r : ConfigRecord) (n : Node) : Prop where
  known : ∀ fields, n = .object fields → ∀ f ∈ fields, ∃ name ∈ r.declared, f.1 = some name
  once : ∀ fields, n = .object fields → (fields.map Prod.fst).Nodup
  placed : ∀ items, n = .array items → items.length ≤ r.declared.length
  complete : ∀ name ∈ r.needed, ∃ value, r.Writes n name value

/-- The shape by which records of a kind are read. -/
def shape : ConfigRecord → Shape
  | document => StateSet.shape
  | state => StateDef.shape
  | condition => Condition.shape
  | actions => BlockFlags.shape
  | interval => Interval.shape

theorem shape_strict (r : ConfigRecord) : r.shape.strict = true := by
  cases r <;> rfl

theorem shape_names (r : ConfigRecord) : r.shape.names = r.declared := by
  cases r <;> rfl

theorem nodup_declared (r : ConfigRecord) : r.declared.Nodup := by
  cases r <;> decide

/-- A field is found in a record exactly when it is written there. -/
theorem find?_eq_some_iff (r : ConfigRecord) {n : Node} {entries : Entries}
    (h : r.shape.entries? n = some entries) {name : String} {value : Node} :
    entries.find? name = some value ↔ r.Writes n name value := by
  have hnames : r.shape.names.Nodup := r.shape_names ▸ r.nodup_declared
  rw [Shape.find?_eq_some_iff_writes r.shape_strict hnames h, shape_names, Writes]

/-- A record that is read and has what it needs is well written. -/
theorem wellWritten_of_entries (r : ConfigRecord) {n : Node} {entries : Entries}
    (h : r.shape.entries? n = some entries)
    (hneeded : ∀ name ∈ r.needed, ∃ value, entries.find? name = some value) :
    r.WellWritten n where
  known := by
    rintro fields rfl f hf
    obtain ⟨rfl, -, hknown⟩ := Shape.of_objectEntries? r.shape_strict h
    obtain ⟨e, he, rfl⟩ := List.mem_map.mp hf
    exact ⟨e.1, r.shape_names ▸ hknown e he, rfl⟩
  once := by
    rintro fields rfl
    obtain ⟨rfl, hnodup, -⟩ := Shape.of_objectEntries? r.shape_strict h
    have hkeys : (entries.map fun e => (some e.1, e.2)).map Prod.fst =
        (entries.map Prod.fst).map some := by simp
    rw [hkeys]
    exact hnodup.map fun _ _ => Option.some.inj
  placed := by
    rintro items rfl
    exact r.shape_names ▸ (Shape.of_arrayEntries? h).2
  complete := by
    intro name hname
    obtain ⟨value, hvalue⟩ := hneeded name hname
    exact ⟨value, (r.find?_eq_some_iff h).mp hvalue⟩

end ConfigRecord

/-- The records of a document: the document, the states in its list, and the condition, the
restrictions and the interval of each state. -/
inductive Node.Holds (root : Node) : ConfigRecord → Node → Prop where
  | document : root.Holds .document root
  | state {items : List Node} {n : Node} :
      ConfigRecord.document.Writes root "states" (.array items) → n ∈ items → root.Holds .state n
  | condition {n m : Node} : root.Holds .state n → ConfigRecord.state.Writes n "condition" m →
      root.Holds .condition m
  | actions {n m : Node} : root.Holds .state n → ConfigRecord.state.Writes n "actions" m →
      root.Holds .actions m
  | interval {n m : Node} : root.Holds .state n →
      ConfigRecord.state.Writes n "reevaluation_interval" m → root.Holds .interval m

/-- What a criterion of a condition asks of an account. Null asks nothing, and what is no criterion
is met by nobody. -/
def Condition.Asks (facts : AccountFacts) (name : String) (value : Node) : Prop :=
  match name with
  | "days_overdue_at_least" => ∀ n, value.uint32? = some n → n ≤ facts.daysOverdue
  | "unpaid_invoice_count_at_least" => ∀ n, value.uint32? = some n → n ≤ facts.unpaidInvoices
  | "unpaid_balance_at_least" => ∀ n, value.uint64? = some n → n ≤ facts.unpaidBalance
  | "tags_include" =>
    ∀ tags, value.list? Node.string? = some tags → ∀ tag ∈ tags, tag ∈ facts.tags
  | "tags_exclude" =>
    ∀ tags, value.list? Node.string? = some tags → ∀ tag ∈ tags, tag ∉ facts.tags
  | "payment_method_missing" =>
    ∀ missing, value.bool? = some missing → missing = !facts.paymentMethodPresent
  | "last_payment_failure_in" =>
    ∀ reasons, value.list? PaymentFailure.decode? = some reasons →
      reasons = [] ∨ ∃ failure ∈ reasons, facts.lastFailure = some failure
  | _ => False

/-- Whether the restrictions that a state writes set one of them. -/
def Node.Restricts (n : Node) (name : String) : Prop :=
  ∃ m, ConfigRecord.state.Writes n "actions" m ∧ ConfigRecord.actions.Writes m name (.bool true)

/-- A state has the condition and the restrictions that are written for it. -/
structure StateDef.SaidBy (n : Node) (d : StateDef) : Prop where
  condition : ∃ m, ConfigRecord.state.Writes n "condition" m ∧ ∀ facts,
    d.condition.holds facts = true ↔
      ∀ name value, ConfigRecord.condition.Writes m name value → Condition.Asks facts name value
  blockChanges : d.actions.blockChanges = true ↔ n.Restricts "block_changes"
  blockEntitlement : d.actions.blockEntitlement = true ↔ n.Restricts "block_entitlement"
  disableAutoPay : d.actions.disableAutoPay = true ↔ n.Restricts "disable_auto_pay"

/-! ## Reading the records -/

/-- The parts of a document that is read. -/
theorem StateSet.of_decodeStates? {n : Node} {states : List StateDef}
    (h : decodeStates? n = some states) : ∃ entries items,
      ConfigRecord.document.shape.entries? n = some entries ∧
      entries.find? "states" = some (.array items) ∧
      Node.readItems? StateDef.decode? items = some states := by
  obtain ⟨entries, hentries, h⟩ := Option.bind_eq_some_iff.mp h
  obtain ⟨value, hvalue, hitems⟩ := Entries.of_required h
  cases value with
  | array items => exact ⟨entries, items, hentries, hvalue, hitems⟩
  | _ => cases hitems

/-- The parts of a state that is read, as far as they are records. -/
theorem StateDef.of_decode? {n : Node} {d : StateDef} (h : decode? n = some d) : ∃ entries,
    ConfigRecord.state.shape.entries? n = some entries ∧
    (∃ value, entries.find? "name" = some value) ∧
    entries.required "condition" Condition.decode? = some d.condition ∧
    entries.withDefault "actions" {} BlockFlags.decode? = some d.actions ∧
    entries.optional "reevaluation_interval" Interval.decode? = some d.interval := by
  simp only [decode?, Option.bind_eq_bind, Option.bind_eq_some_iff, Option.pure_def,
    Option.some.injEq] at h
  obtain ⟨entries, hentries, name, hname, condition, hcondition, actions, hactions, interval,
    hinterval, -, -, -, -, -, -, rfl⟩ := h
  obtain ⟨value, hvalue, -⟩ := Entries.of_required hname
  exact ⟨entries, hentries, ⟨value, hvalue⟩, hcondition, hactions, hinterval⟩

/-- The parts of a condition that is read. -/
theorem Condition.of_decode? {n : Node} {c : Condition} (h : decode? n = some c) : ∃ entries,
    ConfigRecord.condition.shape.entries? n = some entries ∧
    entries.optional "days_overdue_at_least" Node.uint32? = some c.daysOverdueAtLeast ∧
    entries.optional "unpaid_invoice_count_at_least" Node.uint32? = some c.unpaidInvoicesAtLeast ∧
    entries.optional "unpaid_balance_at_least" Node.uint64? = some c.unpaidBalanceAtLeast ∧
    entries.withDefault "tags_include" [] (Node.list? Node.string?) = some c.tagsInclude ∧
    entries.withDefault "tags_exclude" [] (Node.list? Node.string?) = some c.tagsExclude ∧
    entries.optional "payment_method_missing" Node.bool? = some c.paymentMethodMissing ∧
    entries.withDefault "last_payment_failure_in" [] (Node.list? PaymentFailure.decode?) =
      some c.lastFailureIn := by
  simp only [decode?, Option.bind_eq_bind, Option.bind_eq_some_iff, Option.pure_def,
    Option.some.injEq] at h
  obtain ⟨entries, hentries, days, hdays, invoices, hinvoices, balance, hbalance, included,
    hincluded, excluded, hexcluded, method, hmethod, failures, hfailures, rfl⟩ := h
  exact ⟨entries, hentries, hdays, hinvoices, hbalance, hincluded, hexcluded, hmethod, hfailures⟩

/-- The parts of restrictions that are read. -/
theorem BlockFlags.of_decode? {n : Node} {f : BlockFlags} (h : decode? n = some f) : ∃ entries,
    ConfigRecord.actions.shape.entries? n = some entries ∧
    entries.withDefault "block_changes" false Node.bool? = some f.blockChanges ∧
    entries.withDefault "block_entitlement" false Node.bool? = some f.blockEntitlement ∧
    entries.withDefault "disable_auto_pay" false Node.bool? = some f.disableAutoPay := by
  simp only [decode?, Option.bind_eq_bind, Option.bind_eq_some_iff, Option.pure_def,
    Option.some.injEq] at h
  obtain ⟨entries, hentries, changes, hchanges, entitlement, hentitlement, autoPay, hautoPay,
    rfl⟩ := h
  exact ⟨entries, hentries, hchanges, hentitlement, hautoPay⟩

/-- Of an interval that is read the fields are read. -/
theorem Interval.of_decode? {n : Node} {i : Interval} (h : decode? n = some i) :
    ∃ entries, ConfigRecord.interval.shape.entries? n = some entries := by
  obtain ⟨entries, hentries, -⟩ := Option.bind_eq_some_iff.mp h
  exact ⟨entries, hentries⟩

/-- A list is read item by item. -/
theorem Node.forall₂_readItems? {α : Type} {read : Node → Option α} {items : List Node}
    {values : List α} (h : readItems? read items = some values) :
    List.Forall₂ (fun item value => read item = some value) items values := by
  induction items generalizing values with
  | nil =>
      obtain rfl := Option.some.inj h
      exact .nil
  | cons item rest ih =>
      rw [readItems?] at h
      split at h
      · rename_i value others hvalue hothers
        obtain rfl := Option.some.inj h
        exact .cons hvalue (ih hothers)
      · cases h

theorem Node.exists_of_mem_readItems? {α : Type} {read : Node → Option α} {items : List Node}
    {values : List α} (h : readItems? read items = some values) {item : Node}
    (hmem : item ∈ items) : ∃ value, read item = some value := by
  have hpairs := forall₂_readItems? h
  clear h
  induction hpairs with
  | nil => cases hmem
  | cons hvalue _ ih =>
      rcases List.mem_cons.mp hmem with rfl | hrest
      · exact ⟨_, hvalue⟩
      · exact ih hrest

/-! ## Every record is well written -/

/-- What is written for a record of a kind is read; an interval may be null instead. -/
def ConfigRecord.Read : ConfigRecord → Node → Prop
  | document, n => ∃ states, StateSet.decodeStates? n = some states
  | state, n => ∃ d, StateDef.decode? n = some d
  | condition, n => ∃ c, Condition.decode? n = some c
  | actions, n => ∃ f, BlockFlags.decode? n = some f
  | interval, n => n = .null ∨ ∃ i, Interval.decode? n = some i

/-- When a document is read, so is every record in it. -/
theorem Node.Holds.read {root n : Node} {r : ConfigRecord} (h : root.Holds r n)
    (hroot : ConfigRecord.document.Read root) : r.Read n := by
  -- The induction goes inwards: the record around `n` is read, and it writes `n`.
  induction h with
  | document => exact hroot
  | state hwrites hmem =>
      obtain ⟨states, hstates⟩ := hroot
      obtain ⟨entries, items, hentries, hfound, hitems⟩ := StateSet.of_decodeStates? hstates
      have hsame := (ConfigRecord.document.find?_eq_some_iff hentries).mpr hwrites
      obtain ⟨rfl⟩ := Option.some.inj (hfound.symm.trans hsame)
      exact exists_of_mem_readItems? hitems hmem
  | condition _ hwrites ih =>
      obtain ⟨d, hd⟩ := ih
      obtain ⟨entries, hentries, -, hcondition, -⟩ := StateDef.of_decode? hd
      obtain ⟨value, hvalue, hread⟩ := Entries.of_required hcondition
      have hsame := (ConfigRecord.state.find?_eq_some_iff hentries).mpr hwrites
      obtain rfl := Option.some.inj (hvalue.symm.trans hsame)
      exact ⟨_, hread⟩
  | actions _ hwrites ih =>
      obtain ⟨d, hd⟩ := ih
      obtain ⟨entries, hentries, -, -, hactions, -⟩ := StateDef.of_decode? hd
      have hfound := (ConfigRecord.state.find?_eq_some_iff hentries).mpr hwrites
      exact ⟨_, Entries.read_of_withDefault hactions hfound⟩
  | interval _ hwrites ih =>
      obtain ⟨d, hd⟩ := ih
      obtain ⟨entries, hentries, -, -, -, hinterval⟩ := StateDef.of_decode? hd
      have hfound := (ConfigRecord.state.find?_eq_some_iff hentries).mpr hwrites
      exact Entries.read_of_optional hinterval hfound

/-- A record that is read is well written. -/
theorem ConfigRecord.Read.wellWritten {r : ConfigRecord} {n : Node} (h : r.Read n) :
    r.WellWritten n := by
  cases r with
  | document =>
      obtain ⟨states, hstates⟩ := h
      obtain ⟨entries, items, hentries, hfound, -⟩ := StateSet.of_decodeStates? hstates
      exact wellWritten_of_entries _ hentries (List.forall_mem_singleton.mpr ⟨_, hfound⟩)
  | state =>
      obtain ⟨d, hd⟩ := h
      obtain ⟨entries, hentries, hname, hcondition, -⟩ := StateDef.of_decode? hd
      obtain ⟨value, hvalue, -⟩ := Entries.of_required hcondition
      exact wellWritten_of_entries _ hentries
        (List.forall_mem_cons.mpr ⟨hname, List.forall_mem_singleton.mpr ⟨value, hvalue⟩⟩)
  | condition =>
      obtain ⟨c, hc⟩ := h
      obtain ⟨entries, hentries, -⟩ := Condition.of_decode? hc
      exact wellWritten_of_entries _ hentries (List.forall_mem_nil _)
  | actions =>
      obtain ⟨f, hf⟩ := h
      obtain ⟨entries, hentries, -⟩ := BlockFlags.of_decode? hf
      exact wellWritten_of_entries _ hentries (List.forall_mem_nil _)
  | interval =>
      rcases h with rfl | ⟨i, hi⟩
      · exact ⟨nofun, nofun, nofun, List.forall_mem_nil _⟩
      · obtain ⟨entries, hentries⟩ := Interval.of_decode? hi
        exact wellWritten_of_entries _ hentries (List.forall_mem_nil _)

/-- Every record of a document that is read is well written. -/
theorem StateSet.wellWritten_of_holds {root n : Node} {r : ConfigRecord} {states : List StateDef}
    (hroot : decodeStates? root = some states) (h : root.Holds r n) : r.WellWritten n :=
  (h.read ⟨states, hroot⟩).wellWritten

/-! ## Every record is read in full -/

/-- Only declared fields are written in a record that is read, so what holds of each of them holds
of all that is written. -/
theorem ConfigRecord.forall_writes_iff (r : ConfigRecord) {n : Node} {entries : Entries}
    (h : r.shape.entries? n = some entries) (P : String → Node → Prop) :
    (∀ name value, r.Writes n name value → P name value) ↔
      ∀ name ∈ r.declared, ∀ value, entries.find? name = some value → P name value := by
  constructor
  · intro hall name _ value hfound
    exact hall name value ((r.find?_eq_some_iff h).mp hfound)
  · intro hall name value hwrites
    have hmem : (name, value) ∈ entries :=
      (Shape.mem_entries_iff_writes r.shape_strict h).mpr (r.shape_names ▸ hwrites)
    have hname : name ∈ r.declared :=
      r.shape_names ▸ Shape.mem_names_of_mem_entries r.shape_strict h hmem
    exact hall name hname value ((r.find?_eq_some_iff h).mpr hwrites)

/-- A condition that is read holds exactly when all that is written holds. -/
theorem Condition.holds_iff_asks {n : Node} {c : Condition} (h : decode? n = some c)
    (facts : AccountFacts) :
    c.holds facts = true ↔
      ∀ name value, ConfigRecord.condition.Writes n name value → Asks facts name value := by
  obtain ⟨entries, hentries, hdays, hinvoices, hbalance, hincluded, hexcluded, hmethod,
    hfailures⟩ := of_decode? h
  rw [ConfigRecord.condition.forall_writes_iff hentries, c.holds_iff,
    Entries.forall_mem_optional_iff rfl hdays, Entries.forall_mem_optional_iff rfl hinvoices,
    Entries.forall_mem_optional_iff rfl hbalance, Entries.forall_mem_optional_iff rfl hmethod,
    Entries.withDefault_iff (P := fun tags => ∀ tag ∈ tags, tag ∈ facts.tags)
      (List.forall_mem_nil _) hincluded,
    Entries.withDefault_iff (P := fun tags => ∀ tag ∈ tags, tag ∉ facts.tags)
      (List.forall_mem_nil _) hexcluded,
    Entries.withDefault_iff (P := fun reasons => reasons = [] ∨
      ∃ failure ∈ reasons, facts.lastFailure = some failure) (.inl rfl) hfailures]
  simp only [ConfigRecord.declared, List.forall_mem_cons, Asks]
  simp

/-- A restriction is set exactly when it is written as true. -/
theorem BlockFlags.flag_iff {entries : Entries} {n : Node} {name : String} {flag : Bool}
    (hentries : ConfigRecord.actions.shape.entries? n = some entries)
    (h : entries.withDefault name false Node.bool? = some flag) :
    flag = true ↔ ConfigRecord.actions.Writes n name (.bool true) := by
  rw [← ConfigRecord.actions.find?_eq_some_iff hentries]
  unfold Entries.withDefault at h
  split at h
  · rename_i habsent
    obtain rfl := Option.some.inj h
    simp [habsent]
  · rename_i value hfound
    cases value with
    | bool b =>
        obtain rfl := Option.some.inj h
        simp [hfound]
    | _ => cases h

/-- The restrictions of a state are those that are written for it. -/
theorem StateDef.restricts_iff {n : Node} {d : StateDef} (h : decode? n = some d) {name : String}
    {flag : BlockFlags → Bool} (hnone : flag {} = false)
    (hread : ∀ m f, BlockFlags.decode? m = some f →
      (flag f = true ↔ ConfigRecord.actions.Writes m name (.bool true))) :
    flag d.actions = true ↔ n.Restricts name := by
  obtain ⟨entries, hentries, -, -, hactions, -⟩ := of_decode? h
  have hwritten (m : Node) : ConfigRecord.state.Writes n "actions" m ↔
      entries.find? "actions" = some m := (ConfigRecord.state.find?_eq_some_iff hentries).symm
  simp only [Node.Restricts, hwritten]
  cases hfound : entries.find? "actions" with
  | none =>
      rw [Entries.withDefault, hfound] at hactions
      rw [← Option.some.inj hactions]
      simp [hnone]
  | some m =>
      have hm := Entries.read_of_withDefault hactions hfound
      rw [hread m _ hm]
      simp

/-- A state that is read has the condition and the restrictions that are written for it. -/
theorem StateDef.saidBy_of_decode? {n : Node} {d : StateDef} (h : decode? n = some d) :
    d.SaidBy n := by
  obtain ⟨entries, hentries, -, hcondition, -⟩ := of_decode? h
  obtain ⟨m, hfound, hm⟩ := Entries.of_required hcondition
  have hwrites := (ConfigRecord.state.find?_eq_some_iff hentries).mp hfound
  refine ⟨⟨m, hwrites, Condition.holds_iff_asks hm⟩, restricts_iff h rfl ?_,
    restricts_iff h rfl ?_, restricts_iff h rfl ?_⟩
  · intro m f hf
    obtain ⟨entries, hentries, hchanges, -⟩ := BlockFlags.of_decode? hf
    exact BlockFlags.flag_iff hentries hchanges
  · intro m f hf
    obtain ⟨entries, hentries, -, hentitlement, -⟩ := BlockFlags.of_decode? hf
    exact BlockFlags.flag_iff hentries hentitlement
  · intro m f hf
    obtain ⟨entries, hentries, -, -, hautoPay⟩ := BlockFlags.of_decode? hf
    exact BlockFlags.flag_iff hentries hautoPay

namespace StateSet

/-- What a text is read as. -/
theorem of_ofText? {version : UInt64} {text : String} {set : StateSet}
    (h : ofText? version text = .ok set) :
    ∃ root, Node.parse? text = some root ∧ decodeStates? root = some set.states := by
  unfold ofText? at h
  split at h
  · rename_i states hread
    obtain ⟨root, hroot, hstates⟩ := Option.bind_eq_some_iff.mp hread
    unfold build? at h
    split at h
    · cases h
    · obtain rfl := Except.ok.inj h
      exact ⟨root, hroot, hstates⟩
  · cases h

/-- A document that is not read is malformed. -/
theorem malformed_of_decodeStates? {version : UInt64} {text : String} {root : Node}
    (hroot : Node.parse? text = some root) (h : decodeStates? root = none) :
    ∃ detail, ofText? version text = .error (.malformed detail) := by
  rw [ofText?, hroot, Option.bind_some, h]
  exact ⟨_, rfl⟩

/-- **No setting is ignored.** In a text that is accepted every record, however deep, has declared
fields only, each once, and all that it needs; and its states have the conditions and restrictions
that are written, no wider and no fewer. A text with any other record is malformed. -/
theorem no_setting_is_ignored (version : UInt64) (text : String) :
    (∀ set, ofText? version text = .ok set → ∃ root, Node.parse? text = some root ∧
      (∀ r n, root.Holds r n → r.WellWritten n) ∧
      ∃ items, ConfigRecord.document.Writes root "states" (.array items) ∧
        List.Forall₂ (fun n d => StateDef.SaidBy n d) items set.states) ∧
    ∀ root, Node.parse? text = some root → (∃ r n, root.Holds r n ∧ ¬ r.WellWritten n) →
      ∃ detail, ofText? version text = .error (.malformed detail) := by
  constructor
  · intro set hset
    obtain ⟨root, hroot, hstates⟩ := of_ofText? hset
    obtain ⟨entries, items, hentries, hfound, hitems⟩ := of_decodeStates? hstates
    refine ⟨root, hroot, fun r n hholds => wellWritten_of_holds hstates hholds, items,
      (ConfigRecord.document.find?_eq_some_iff hentries).mp hfound, ?_⟩
    exact (Node.forall₂_readItems? hitems).imp fun _ _ => StateDef.saidBy_of_decode?
  · rintro root hroot ⟨r, n, hholds, hfault⟩
    refine malformed_of_decodeStates? hroot ?_
    cases hread : decodeStates? root with
    | none => rfl
    | some states => exact absurd (wellWritten_of_holds hread hholds) hfault

/-- A document of one state with one criterion and one restriction. -/
def plainDocument : String :=
  "\x7b\"states\":[\x7b\"name\":\"OD1\",\"condition\":\x7b\"days_overdue_at_least\":3\x7d," ++
    "\"actions\":\x7b\"block_changes\":true\x7d\x7d]\x7d"

/-- The state of that document. -/
def afterThreeDays : StateDef :=
  { name := "OD1", condition := .daysOverdue 3, actions := { blockChanges := true } }

/-- A document with a criterion that does not exist. -/
def misspeltDocument : String :=
  "\x7b\"states\":[\x7b\"name\":\"OD1\",\"condition\":\x7b\"days_overdue_atleast\":3\x7d\x7d]\x7d"

/-- The condition of that document. -/
def misspeltCondition : Node :=
  .object [(some "days_overdue_atleast", .number ⟨false, 3, 0, true⟩)]

/-- The state with that condition. -/
def misspeltState : Node :=
  .object [(some "name", .string (some "OD1")), (some "condition", misspeltCondition)]

/-- A document is read as it is written, and one whose criterion is misspelt, two records deep, is
malformed. -/
theorem no_setting_is_ignored_misspelt :
    ofText? 1 plainDocument = .ok ⟨1, [afterThreeDays]⟩ ∧
      (∃ n, afterThreeDays.SaidBy n) ∧
      ∃ detail, ofText? 1 misspeltDocument = .error (.malformed detail) := by
  have hread : (Node.parse? plainDocument).bind decodeStates? = some [afterThreeDays] := by
    decide +kernel
  have haccepted : ofText? 1 plainDocument = .ok ⟨1, [afterThreeDays]⟩ := by
    rw [ofText?, hread]
    rfl
  refine ⟨haccepted, ?_, ?_⟩
  · obtain ⟨root, -, -, items, -, hstates⟩ := (no_setting_is_ignored 1 _).1 _ haccepted
    obtain ⟨n, -, hsaid, -⟩ := List.forall₂_cons_right_iff.mp hstates
    exact ⟨n, hsaid⟩
  · have hparsed : Node.parse? misspeltDocument =
        some (.object [(some "states", .array [misspeltState])]) := by
      unfold misspeltState misspeltCondition
      cbv
    have hstate : Node.Holds (.object [(some "states", .array [misspeltState])]) .state
        misspeltState := .state (.named List.mem_cons_self) List.mem_cons_self
    have hcondition := hstate.condition (.named (List.mem_cons_of_mem _ List.mem_cons_self))
    refine (no_setting_is_ignored 1 _).2 _ hparsed ⟨.condition, misspeltCondition, hcondition, ?_⟩
    intro hwell
    obtain ⟨name, hname, hkey⟩ := hwell.known _ rfl _ List.mem_cons_self
    obtain rfl := Option.some.inj hkey
    exact absurd hname (by decide)

end StateSet

end Dunning
