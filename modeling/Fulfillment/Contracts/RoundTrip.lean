import Fulfillment.Consumers.BaseConsumer
import Mathlib

/-!
# An envelope survives its text

A valid envelope is read back from the text written of it as it was, but for
infinite numbers: nothing in it is missing, so nothing is filled in.
-/

namespace Fulfillment

open Js

/-- What the schema asks of an envelope. -/
structure EventEnvelope.Valid (e : EventEnvelope) : Prop where
  eventId : e.eventId ≠ ""
  eventType : e.eventType.name ≠ ""
  named : EventType.ofName e.eventType.name = e.eventType
  eventVersion : 0 < e.eventVersion
  sequenceNumber : e.sequenceNumber ≠ some 0
  aggregateId : e.aggregateId ≠ ""
  aggregateType : e.aggregateType ≠ ""
  occurredAt : datetimeField (some (.str e.occurredAt)) = some e.occurredAt
  producer : e.producer ≠ ""
  correlationId : e.correlationId ≠ ""
  causationId : e.causationId ≠ ""
  schemaVersion : 0 < e.schemaVersion
  payload : ∀ f ∈ e.payload, f.1 ≠ "__proto__"

/-- The envelope without the payload properties that the schema drops. -/
def EventEnvelope.plain (e : EventEnvelope) : EventEnvelope :=
  { e with payload := e.payload.filter fun f => f.1 ≠ "__proto__" }

/-- Any text written of the event is read as `e'`, at any time. -/
def ReadsBack (e e' : EventEnvelope) : Prop :=
  ∀ raw uuid now, Json.parse raw = some e.written.toJson → parseEnvelope uuid now raw = some e'

section
variable {e : EventEnvelope} {raw : Fields}

theorem nonEmptyString_returns {v : Option Json} {s : String} (h : nonEmptyString v = some s) : s ≠ "" := by
  unfold nonEmptyString at h
  split at h
  · split at h
    · cases h
    · cases h
      assumption
  · cases h

theorem positiveIntegerField_returns {v : Option Json} {n : Nat} (h : positiveIntegerField v = some n) : 0 < n := by
  unfold positiveIntegerField at h
  split at h
  · split at h
    · rename_i q hq
      cases h
      have := Rat.num_pos.mpr hq.1
      omega
    · cases h
  · cases h

theorem positiveIntegerOr_returns {d : Nat} (hd : 0 < d) {v : Option Json} {n : Nat} (h : positiveIntegerOr d v = some n) :
    0 < n := by
  unfold positiveIntegerOr at h
  split at h
  · cases h
    exact hd
  · exact positiveIntegerField_returns h

theorem optionalSequence_returns {v : Option Json} {n : Option Nat} (h : optionalSequence v = some n) : n ≠ some 0 := by
  unfold optionalSequence at h
  split at h
  · cases h
    nofun
  · obtain ⟨k, hk, rfl⟩ := Option.map_eq_some_iff.mp h
    intro zero
    cases zero
    exact absurd (positiveIntegerField_returns hk) (Nat.lt_irrefl 0)

theorem datetimeField_returns {v : Option Json} {s : String} (h : datetimeField v = some s) :
    datetimeField (some (.str s)) = some s := by
  unfold datetimeField at h
  split at h
  · split at h
    · cases h
      simp_all [datetimeField]
    · cases h
  · cases h

theorem recordField_returns {v : Option Json} {fs : Fields} (h : recordField v = some fs) : ∀ f ∈ fs, f.1 ≠ "__proto__" := by
  unfold recordField at h
  split at h
  · cases h
    intro f hf
    exact of_decide_eq_true (List.mem_filter.mp hf).2
  · cases h

theorem validateEventEnvelope_returns (h : validateEventEnvelope raw = some e) : e.Valid := by
  simp only [validateEventEnvelope, Option.bind_eq_bind, Option.bind_eq_some_iff, Option.pure_def, Option.some.injEq] at h
  obtain ⟨eventId, heventId, eventType, heventType, eventVersion, heventVersion, sequenceNumber, hsequenceNumber,
    aggregateId, haggregateId, aggregateType, haggregateType, occurredAt, hoccurredAt, producer, hproducer,
    correlationId, hcorrelationId, causationId, hcausationId, schemaVersion, hschemaVersion, payload, hpayload, rfl⟩ := h
  exact
    { eventId := nonEmptyString_returns heventId
      eventType := by
        rw [EventType.name_ofName]
        exact nonEmptyString_returns heventType
      named := by rw [EventType.name_ofName]
      eventVersion := positiveIntegerOr_returns Nat.one_pos heventVersion
      sequenceNumber := optionalSequence_returns hsequenceNumber
      aggregateId := nonEmptyString_returns haggregateId
      aggregateType := nonEmptyString_returns haggregateType
      occurredAt := datetimeField_returns hoccurredAt
      producer := nonEmptyString_returns hproducer
      correlationId := nonEmptyString_returns hcorrelationId
      causationId := nonEmptyString_returns hcausationId
      schemaVersion := positiveIntegerOr_returns Nat.one_pos hschemaVersion
      payload := recordField_returns hpayload }

/-! ## What is written -/

theorem nonEmptyString_of_ne {s : String} (h : s ≠ "") : nonEmptyString (some (.str s)) = some s := if_neg h

theorem positiveIntegerField_of_pos {n : Nat} (h : 0 < n) : positiveIntegerField (some (.num n)) = some n := by
  have pos : (0 : Rat) < n := Rat.num_pos.mp (by simpa using h)
  simp [positiveIntegerField, pos]

theorem EventEnvelope.Valid.plain (h : e.Valid) : e.plain = e := by
  have kept : (e.payload.filter fun f => f.1 ≠ "__proto__") = e.payload := by
    rw [List.filter_eq_self]
    intro f hf
    exact decide_eq_true (h.payload f hf)
  rw [EventEnvelope.plain, kept]

/-- The properties of the object written of an event. -/
def EventEnvelope.property (e : EventEnvelope) : String → Option Json
  | "event_id" => some (.str e.eventId)
  | "event_type" => some (.str e.eventType.name)
  | "event_version" => some (.num e.eventVersion)
  | "sequence_number" => e.sequenceNumber.map fun n : Nat => .num n
  | "aggregate_id" => some (.str e.aggregateId)
  | "aggregate_type" => some (.str e.aggregateType)
  | "occurred_at" => some (.str e.occurredAt)
  | "producer" => some (.str e.producer)
  | "correlation_id" => some (.str e.correlationId)
  | "causation_id" => some (.str e.causationId)
  | "schema_version" => some (.num e.schemaVersion)
  | "payload" => some (.obj e.payload)
  | _ => none

theorem get_toJson (h : e.toJson = .obj raw) (k : String) : raw.get k = e.property k := by
  cases h
  unfold EventEnvelope.property
  split
  case h_13 =>
    apply get_record_of_not_mem
    simp_all
  case h_4 =>
    apply get_record (by simp)
    cases e.sequenceNumber <;> simp
  all_goals exact get_record (by simp) (by simp)

theorem validateEventEnvelope_toJson (valid : e.plain.Valid) (h : e.toJson = .obj raw) :
    validateEventEnvelope raw = some e.plain := by
  obtain ⟨eventId, eventType, named, eventVersion, sequenceNumber, aggregateId, aggregateType, occurredAt, producer,
    correlationId, causationId, schemaVersion, -⟩ := valid
  simp only [EventEnvelope.plain] at *
  have sequence : optionalSequence (e.sequenceNumber.map fun n : Nat => Json.num n) = some e.sequenceNumber := by
    cases hs : e.sequenceNumber with
    | none => rfl
    | some n =>
      have pos : 0 < n := Nat.pos_of_ne_zero fun zero => sequenceNumber (by rw [hs, zero])
      simp only [optionalSequence, Option.map_some, positiveIntegerField_of_pos pos]
  simp only [validateEventEnvelope, get_toJson h, EventEnvelope.property, nonEmptyString_of_ne eventId,
    nonEmptyString_of_ne eventType, positiveIntegerOr, positiveIntegerField_of_pos eventVersion, sequence,
    nonEmptyString_of_ne aggregateId, nonEmptyString_of_ne aggregateType, occurredAt, nonEmptyString_of_ne producer,
    nonEmptyString_of_ne correlationId, nonEmptyString_of_ne causationId, positiveIntegerField_of_pos schemaVersion,
    recordField, Option.bind_eq_bind, Option.bind_some, named]
  rfl

theorem setIfMissing_of_truthy {k : String} {v : Json} (h : truthy (raw.get k) = true) : setIfMissing k v raw = raw :=
  if_pos h

theorem copyIfMissing_of_absent {k source : String} (h : raw.get source = none) : copyIfMissing k source raw = raw := by
  rw [copyIfMissing, h]

theorem normalizeLegacy_toJson (valid : e.plain.Valid) (h : e.toJson = .obj raw) (uuid now : String) :
    normalizeLegacy uuid now raw = raw := by
  have absent (source : String) (hs : e.property source = none) (k : String) : copyIfMissing k source raw = raw :=
    copyIfMissing_of_absent (by rw [get_toJson h, hs])
  have present (k : String) (hk : truthy (e.property k) = true) (v : Json) : setIfMissing k v raw = raw :=
    setIfMissing_of_truthy (by rw [get_toJson h, hk])
  obtain ⟨aggregateType, correlationId, causationId, producer⟩ : e.aggregateType ≠ "" ∧ e.correlationId ≠ "" ∧
      e.causationId ≠ "" ∧ e.producer ≠ "" :=
    ⟨valid.aggregateType, valid.correlationId, valid.causationId, valid.producer⟩
  have dated : e.occurredAt ≠ "" := by
    intro empty
    have read : datetimeField (some (.str e.occurredAt)) = some e.occurredAt := valid.occurredAt
    rw [empty] at read
    exact absurd read (by decide)
  have correlated : copyIfMissing "correlation_id" "aggregate_id" raw = raw := by
    have aggregate : raw.get "aggregate_id" = some (.str e.aggregateId) := get_toJson h _
    rw [copyIfMissing, aggregate]
    simp only [present "correlation_id" (by simpa [EventEnvelope.property, truthy] using correlationId), ite_self]
  simp only [normalizeLegacy, absent "id" rfl, absent "type" rfl, absent "order_id" rfl, correlated,
    present "aggregate_type" (by simpa [EventEnvelope.property, truthy] using aggregateType),
    present "causation_id" (by simpa [EventEnvelope.property, truthy] using causationId),
    present "producer" (by simpa [EventEnvelope.property, truthy] using producer),
    present "occurred_at" (by simpa [EventEnvelope.property, truthy] using dated),
    present "payload" rfl]

theorem parseEnvelope_toJson (valid : e.plain.Valid) {text : String} (parsed : Json.parse text = some e.toJson)
    (uuid now : String) : parseEnvelope uuid now text = some e.plain := by
  have written : e.toJson = .obj (record _) := rfl
  rw [parseEnvelope, parsed, written]
  simp only
  rw [normalizeLegacy_toJson valid written, validateEventEnvelope_toJson valid written]

theorem mem_writtenFields {fs : Fields} {f : String × Json} (h : f ∈ writtenFields fs) : ∃ g ∈ fs, g.1 = f.1 := by
  induction fs with
  | nil => cases h
  | cons g fs ih =>
    rw [writtenFields] at h
    rcases List.mem_cons.mp h with rfl | h
    · exact ⟨g, List.mem_cons_self, rfl⟩
    · obtain ⟨g', member, same⟩ := ih h
      exact ⟨g', List.mem_cons_of_mem _ member, same⟩

theorem EventEnvelope.Valid.written (valid : e.Valid) : e.written.Valid := by
  refine { valid with payload := fun f member => ?_ }
  obtain ⟨g, stored, same⟩ := mem_writtenFields member
  exact same ▸ valid.payload g stored

/-- The text of a valid event is read as what is left of the event. -/
theorem readsBack_of_valid (valid : e.Valid) : ReadsBack e e.written := by
  intro text uuid now parsed
  have read := parseEnvelope_toJson (e := e.written) (by rw [valid.written.plain]; exact valid.written) parsed uuid now
  rwa [valid.written.plain] at read

/-! ## What a text names -/

theorem get_cons (k : String) (v : Json) (fs : Fields) (k' : String) :
    Fields.get ((k, v) :: fs) k' = if k' = k then some v else Fields.get fs k' := by
  by_cases same : k' = k
  · simp [Fields.get, same]
  · have other : (k' == k) = false := by simpa using same
    simp [Fields.get, List.lookup_cons, same, other]

theorem get_set (raw : Fields) (k : String) (v : Json) (k' : String) :
    (Fields.set raw k v).get k' = if k' = k then some v else raw.get k' := by
  induction raw with
  | nil => exact get_cons ..
  | cons f fs ih =>
    obtain ⟨k₁, v₁⟩ := f
    by_cases found : k₁ = k
    · subst found
      rw [Fields.set, if_pos rfl, get_cons, get_cons]
      split <;> rfl
    · rw [Fields.set, if_neg found, get_cons, get_cons, ih]
      by_cases first : k' = k₁
      · subst first
        simp [found]
      · simp [first]

theorem setIfMissing_keeps {k k' : String} {v v' : Json} (h : raw.get k' = some v') (present : truthy (some v') = true) :
    (setIfMissing k v raw).get k' = some v' := by
  unfold setIfMissing
  split
  · exact h
  · rename_i missing
    rw [get_set]
    split
    · rename_i same
      subst same
      rw [h] at missing
      exact absurd present missing
    · exact h

theorem copyIfMissing_keeps {k source k' : String} {v' : Json} (h : raw.get k' = some v')
    (present : truthy (some v') = true) : (copyIfMissing k source raw).get k' = some v' := by
  unfold copyIfMissing
  split
  · split
    · exact setIfMissing_keeps h present
    · exact h
  · exact h

/-- A property that is there is left alone. -/
theorem normalizeLegacy_keeps {k : String} {v : Json} (h : raw.get k = some v) (present : truthy (some v) = true)
    (uuid now : String) : (normalizeLegacy uuid now raw).get k = some v := by
  -- from the last assignment back to the first
  apply setIfMissing_keeps _ present
  apply setIfMissing_keeps _ present
  apply setIfMissing_keeps _ present
  apply setIfMissing_keeps _ present
  apply copyIfMissing_keeps _ present
  apply setIfMissing_keeps _ present
  apply copyIfMissing_keeps _ present
  apply copyIfMissing_keeps _ present
  exact copyIfMissing_keeps h present

/-- An event read from the text of one that has these identifiers has them too. -/
theorem parsed_identifiers {e' : EventEnvelope} {uuid now text : String} (parsed : Json.parse text = some e.toJson)
    (read : parseEnvelope uuid now text = some e') (eventId : e.eventId ≠ "") (aggregateId : e.aggregateId ≠ "")
    (correlationId : e.correlationId ≠ "") :
    e'.eventId = e.eventId ∧ e'.aggregateId = e.aggregateId ∧ e'.correlationId = e.correlationId := by
  obtain ⟨fields, written⟩ : ∃ fields, e.toJson = .obj fields := ⟨_, rfl⟩
  rw [parseEnvelope, parsed, written] at read
  simp only at read
  have kept (k s : String) (hk : e.property k = some (.str s)) (hs : s ≠ "") :
      nonEmptyString ((normalizeLegacy uuid now fields).get k) = some s := by
    rw [normalizeLegacy_keeps ((get_toJson written k).trans hk) (by simpa [truthy] using hs)]
    exact if_neg hs
  simp only [validateEventEnvelope, Option.bind_eq_bind, Option.bind_eq_some_iff, Option.pure_def, Option.some.injEq] at read
  obtain ⟨eventId', heventId, -, -, -, -, -, -, aggregateId', haggregateId, -, -, -, -, -, -, correlationId',
    hcorrelationId, -, -, -, -, -, -, rfl⟩ := read
  rw [kept "event_id" _ rfl eventId] at heventId
  rw [kept "aggregate_id" _ rfl aggregateId] at haggregateId
  rw [kept "correlation_id" _ rfl correlationId] at hcorrelationId
  exact ⟨(Option.some.inj heventId).symm, (Option.some.inj haggregateId).symm, (Option.some.inj hcorrelationId).symm⟩

end

theorem valid_of_parsed {uuid now raw : String} {e : EventEnvelope} (parsed : parseEnvelope uuid now raw = some e) :
    e.Valid := by
  unfold parseEnvelope at parsed
  split at parsed
  · exact validateEventEnvelope_returns parsed
  · cases parsed

end Fulfillment
