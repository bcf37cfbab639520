import Fulfillment.Contracts.RoundTrip
import Fulfillment.Js.Stringify

/-!
# The text of an envelope

A consumer that writes an envelope it has read writes a text that is read as the
same envelope, however incomplete the first text was.
-/

namespace Fulfillment

open Js

theorem writableMembers_iff {fs : Fields} : WritableMembers fs ↔ ∀ f ∈ fs, f.2.Writable := by
  induction fs with
  | nil => simp [WritableMembers]
  | cons f fs ih => rw [List.forall_mem_cons, ← ih, WritableMembers]

theorem get_writable {fs : Fields} (h : WritableMembers fs) {k : String} {v : Json} (found : fs.get k = some v) :
    v.Writable := by
  induction fs with
  | nil => cases found
  | cons f fs ih =>
    obtain ⟨first, others⟩ := h
    rw [get_cons] at found
    split at found
    · cases found
      exact first
    · exact ih others found

theorem filter_writable {fs : Fields} (h : (Json.obj fs).Writable) (keep : String × Json → Bool) :
    (Json.obj (fs.filter keep)).Writable := by
  obtain ⟨distinct, members⟩ := h
  refine ⟨distinct.sublist (List.filter_sublist.map _), writableMembers_iff.mpr ?_⟩
  intro f hf
  exact writableMembers_iff.mp members f (List.mem_of_mem_filter hf)

theorem setIfMissing_writable {fs : Fields} (h : (Json.obj fs).Writable) {v : Json} (writable : v.Writable) (k : String) :
    (Json.obj (setIfMissing k v fs)).Writable := by
  unfold setIfMissing
  split
  · exact h
  · exact ⟨Fields.set_nodup h.1 k v, Fields.set_writable h.2 writable k⟩

theorem copyIfMissing_writable {fs : Fields} (h : (Json.obj fs).Writable) (k source : String) :
    (Json.obj (copyIfMissing k source fs)).Writable := by
  unfold copyIfMissing
  split
  · rename_i v found
    split
    · exact setIfMissing_writable h (get_writable h.2 found) k
    · exact h
  · exact h

theorem orElse_writable {fs : Fields} (h : WritableMembers fs) (k s : String) :
    (orElse (fs.get k) (.str s)).Writable := by
  cases found : fs.get k with
  | none => trivial
  | some v =>
    rw [orElse]
    split
    · exact get_writable h found
    · trivial

theorem normalizeLegacy_writable {fs : Fields} (h : (Json.obj fs).Writable) (uuid now : String) :
    (Json.obj (normalizeLegacy uuid now fs)).Writable := by
  -- assignment by assignment
  have h := copyIfMissing_writable h "event_id" "id"
  have h := copyIfMissing_writable h "event_type" "type"
  have h := copyIfMissing_writable h "aggregate_id" "order_id"
  have h := setIfMissing_writable h (v := .str "Order") trivial "aggregate_type"
  have h := copyIfMissing_writable h "correlation_id" "aggregate_id"
  have h := setIfMissing_writable h (orElse_writable h.2 "event_id" ("cmd_" ++ slice8 uuid)) "causation_id"
  have h := setIfMissing_writable h (v := .str now) trivial "occurred_at"
  have h := setIfMissing_writable h (v := .str "legacy-producer") trivial "producer"
  exact setIfMissing_writable h (filter_writable h _) "payload"

/-- Where the numbers and the payload of an event come from. -/
theorem validateEventEnvelope_fields {raw : Fields} {e : EventEnvelope} (h : validateEventEnvelope raw = some e) :
    positiveIntegerOr 1 (raw.get "event_version") = some e.eventVersion ∧
    optionalSequence (raw.get "sequence_number") = some e.sequenceNumber ∧
    positiveIntegerOr 1 (raw.get "schema_version") = some e.schemaVersion ∧
    recordField (raw.get "payload") = some e.payload := by
  simp only [validateEventEnvelope, Option.bind_eq_bind, Option.bind_eq_some_iff, Option.pure_def, Option.some.injEq] at h
  obtain ⟨-, -, -, -, eventVersion, hversion, sequenceNumber, hsequence, -, -, -, -, -, -, -, -, -, -, -, -,
    schemaVersion, hschema, payload, hpayload, rfl⟩ := h
  exact ⟨hversion, hsequence, hschema, hpayload⟩

theorem record_writable {entries : List (String × Option Json)} (distinct : (entries.map Prod.fst).Nodup)
    (writable : ∀ k v, (k, some v) ∈ entries → v.Writable) : (Json.obj (record entries)).Writable := by
  constructor
  · refine distinct.sublist ?_
    clear distinct writable
    induction entries with
    | nil => exact .slnil
    | cons e es ih =>
      obtain ⟨k, v⟩ := e
      cases v with
      | none => exact .cons _ ih
      | some v => exact .cons_cons _ ih
  · rw [writableMembers_iff]
    rintro ⟨k, v⟩ member
    obtain ⟨⟨l, w⟩, stored, defined⟩ := List.mem_filterMap.mp member
    cases w with
    | none => cases defined
    | some w =>
      cases defined
      exact writable _ _ stored

theorem EventEnvelope.toJson_writable {e : EventEnvelope} (payload : (Json.obj e.payload).Writable)
    (eventVersion : (Json.num e.eventVersion).Writable) (sequenceNumber : ∀ n : Nat, e.sequenceNumber = some n → (Json.num n).Writable)
    (schemaVersion : (Json.num e.schemaVersion).Writable) : e.toJson.Writable := by
  apply record_writable (by simp)
  intro k v entry
  simp only [List.mem_cons, Prod.mk.injEq, Option.some.injEq, List.not_mem_nil, or_false] at entry
  rcases entry with ⟨-, rfl⟩ | ⟨-, rfl⟩ | ⟨-, rfl⟩ | ⟨-, sequence⟩ | ⟨-, rfl⟩ | ⟨-, rfl⟩ | ⟨-, rfl⟩ | ⟨-, rfl⟩ |
    ⟨-, rfl⟩ | ⟨-, rfl⟩ | ⟨-, rfl⟩ | ⟨-, rfl⟩
  case inr.inr.inr.inl =>
    cases hs : e.sequenceNumber with
    | none =>
      rw [hs] at sequence
      cases sequence
    | some n =>
      rw [hs] at sequence
      cases sequence
      exact sequenceNumber n hs
  all_goals trivial

theorem positiveIntegerField_writable {v : Option Json} (h : ∀ j, v = some j → j.Writable) {n : Nat}
    (read : positiveIntegerField v = some n) : (Json.num n).Writable := by
  unfold positiveIntegerField at read
  split at read
  · rename_i q
    split at read
    · rename_i whole
      have same : ((q.num.toNat : Nat) : Rat) = q := by
        rw [← Int.cast_natCast, Int.toNat_of_nonneg (Rat.num_pos.mpr whole.1).le]
        exact Rat.den_eq_one_iff q |>.mp whole.2
      rw [← Option.some.inj read, same]
      exact h _ rfl
    · cases read
  · cases read

theorem positiveIntegerOr_writable {v : Option Json} (h : ∀ j, v = some j → j.Writable) {n : Nat}
    (read : positiveIntegerOr 1 v = some n) : (Json.num n).Writable := by
  unfold positiveIntegerOr at read
  split at read
  · cases read
    decide +kernel
  · exact positiveIntegerField_writable h read

/-- What is read of a text that has a payload JavaScript can hold. -/
theorem parseEnvelope_writable {uuid now raw : String} {e : EventEnvelope} (h : parseEnvelope uuid now raw = some e) :
    e.Valid ∧ e.toJson.Writable := by
  unfold parseEnvelope at h
  split at h
  · rename_i parsed read
    have writable := normalizeLegacy_writable (Json.parse_writable read) uuid now
    have numbers (k : String) : ∀ j, (normalizeLegacy uuid now parsed).get k = some j → j.Writable :=
      fun j found => get_writable writable.2 found
    obtain ⟨hversion, hsequence, hschema, hpayload⟩ := validateEventEnvelope_fields h
    refine ⟨validateEventEnvelope_returns h, EventEnvelope.toJson_writable ?_
      (positiveIntegerOr_writable (numbers _) hversion) ?_ (positiveIntegerOr_writable (numbers _) hschema)⟩
    · unfold recordField at hpayload
      split at hpayload
      · rename_i fs found
        rw [← Option.some.inj hpayload]
        exact filter_writable (numbers _ _ found) _
      · cases hpayload
    · intro n numbered
      rw [numbered] at hsequence
      unfold optionalSequence at hsequence
      split at hsequence
      · cases hsequence
      · obtain ⟨k, hk, same⟩ := Option.map_eq_some_iff.mp hsequence
        cases same
        exact positiveIntegerField_writable (numbers _) hk
  · cases h

/-- Only the payload can hold an infinite number. -/
theorem EventEnvelope.toJson_written (e : EventEnvelope) : e.toJson.written = e.written.toJson := by
  have whole (n : Nat) : infinite n = false := infinite_whole (Rat.den_natCast n)
  cases hs : e.sequenceNumber <;>
    simp [EventEnvelope.toJson, EventEnvelope.written, Json.written, writtenFields, record, whole, hs]

theorem EventEnvelope.Valid.reads {e : EventEnvelope} (valid : e.Valid) (writable : e.toJson.Writable) (uuid now : String) :
    parseEnvelope uuid now e.toJson.stringify = some e.written :=
  readsBack_of_valid valid _ uuid now (by rw [Json.parse_stringify writable, e.toJson_written])

instance (e : EventEnvelope) : Decidable e.Valid :=
  decidable_of_iff
    ((e.eventId ≠ "" ∧ e.eventType.name ≠ "" ∧ EventType.ofName e.eventType.name = e.eventType ∧ 0 < e.eventVersion ∧
        e.sequenceNumber ≠ some 0 ∧ e.aggregateId ≠ "" ∧ e.aggregateType ≠ "") ∧
      datetimeField (some (.str e.occurredAt)) = some e.occurredAt ∧ e.producer ≠ "" ∧ e.correlationId ≠ "" ∧
      e.causationId ≠ "" ∧ 0 < e.schemaVersion ∧ ∀ f ∈ e.payload, f.1 ≠ "__proto__")
    ⟨fun ⟨⟨h1, h2, h3, h4, h5, h6, h7⟩, h8, h9, h10, h11, h12, h13⟩ => ⟨h1, h2, h3, h4, h5, h6, h7, h8, h9, h10, h11, h12, h13⟩,
      fun ⟨h1, h2, h3, h4, h5, h6, h7, h8, h9, h10, h11, h12, h13⟩ => ⟨⟨h1, h2, h3, h4, h5, h6, h7⟩, h8, h9, h10, h11, h12, h13⟩⟩

/-- What a consumer reads of a message, legacy or not, it writes so that any consumer reads the same of it,
with `null` for a number beyond the doubles. -/
theorem normalized_once (uuid now raw uuid' now' : String) (e : EventEnvelope) (h : parseEnvelope uuid now raw = some e) :
    parseEnvelope uuid' now' e.toJson.stringify = some e.written := by
  obtain ⟨valid, writable⟩ := parseEnvelope_writable h
  exact valid.reads writable uuid' now'

/-- A message of the legacy producers. -/
def legacyText : String :=
  "\x7b\"id\":\"evt_7\",\"type\":\"OrderCreated\",\"order_id\":\"ord_7\",\"total\":-0.25,\"note\":\"a\\u0001\\/b\"\x7d"

theorem normalized_once_legacy : ∃ e, parseEnvelope "first" "2026-01-05T10:00:00.000Z" legacyText = some e ∧
    parseEnvelope "second" "2026-01-06T10:00:00.000Z" e.toJson.stringify = some e.written := by
  have text : Json.parse legacyText = _ := Json.parse_ofList rfl
  have read : (parseEnvelope "first" "2026-01-05T10:00:00.000Z" legacyText).isSome = true := by
    rw [parseEnvelope, text]
    decide +kernel
  obtain ⟨e, parsed⟩ := Option.isSome_iff_exists.mp read
  exact ⟨e, parsed, normalized_once _ _ _ "second" "2026-01-06T10:00:00.000Z" e parsed⟩

end Fulfillment
