import Fulfillment.Contracts.RoundTrip
import Fulfillment.Contracts.Timestamps

/-!
# Construction and normalisation

An envelope that `createEventEnvelope` builds is read back from its text, and
normalising a text once more changes nothing.
-/

namespace Fulfillment

open Js

/-- The parameters of `createEventEnvelope`, the optional ones included. -/
structure EnvelopeOptions where
  eventId : Option String := none
  eventType : String
  eventVersion : Option Nat := none
  sequenceNumber : Option Nat := none
  aggregateId : String
  aggregateType : String
  occurredAt : Option String := none
  producer : String
  correlationId : String
  causationId : String
  schemaVersion : Option Nat := none
  payload : Fields

/-- `n || d` on numbers. -/
def orNumber (n : Option Nat) (d : Nat) : Nat := if n.getD 0 = 0 then d else n.getD 0

def createEventEnvelopeWith (uuid now : String) (options : EnvelopeOptions) : EventEnvelope where
  eventId := orString (options.eventId.getD "") ("evt_" ++ uuid)
  eventType := .ofName options.eventType
  eventVersion := orNumber options.eventVersion 1
  sequenceNumber := options.sequenceNumber
  aggregateId := options.aggregateId
  aggregateType := options.aggregateType
  occurredAt := orString (options.occurredAt.getD "") now
  producer := options.producer
  correlationId := options.correlationId
  causationId := options.causationId
  schemaVersion := orNumber options.schemaVersion 1
  payload := options.payload

theorem createEventEnvelope_eq (uuid now : String) (params : EnvelopeParams)
    (named : EventType.ofName params.eventType.name = params.eventType) :
    createEventEnvelope uuid now params = createEventEnvelopeWith uuid now
      { eventType := params.eventType.name
        aggregateId := params.aggregateId
        aggregateType := params.aggregateType
        producer := params.producer
        correlationId := params.correlationId
        causationId := params.causationId
        payload := params.payload } := by
  simp [createEventEnvelope, createEventEnvelopeWith, named, orString, orNumber]

/-- The strings that have to be given are not empty. -/
structure EnvelopeOptions.NonEmpty (options : EnvelopeOptions) : Prop where
  eventType : options.eventType ≠ ""
  aggregateId : options.aggregateId ≠ ""
  aggregateType : options.aggregateType ≠ ""
  producer : options.producer ≠ ""
  correlationId : options.correlationId ≠ ""
  causationId : options.causationId ≠ ""

/-- A time that is given is a datetime, a number that is given is positive, and the
payload has no infinite number and no property that the schema drops. -/
structure EnvelopeOptions.Accepted (options : EnvelopeOptions) : Prop where
  nonEmpty : options.NonEmpty
  occurredAt : ∀ s, options.occurredAt = some s → s ≠ "" → datetimeField (some (.str s)) = some s
  sequenceNumber : options.sequenceNumber ≠ some 0
  payload : ∀ f ∈ options.payload, f.1 ≠ "__proto__"
  finite : writtenFields options.payload = options.payload

theorem orString_ne {s d : String} (h : d ≠ "") : orString s d ≠ "" := by
  unfold orString
  by_cases empty : s = ""
  · rwa [if_pos empty]
  · rwa [if_neg empty]

theorem orNumber_pos (n : Option Nat) : 0 < orNumber n 1 := by
  unfold orNumber
  by_cases zero : n.getD 0 = 0
  · rw [if_pos zero]
    exact Nat.one_pos
  · rw [if_neg zero]
    exact Nat.pos_of_ne_zero zero

/-- The name of a type that was read is read as that type. -/
theorem EventType.ofName_name_ofName (s : String) : EventType.ofName (EventType.ofName s).name = EventType.ofName s := by
  rw [EventType.name_ofName]

theorem created_valid {options : EnvelopeOptions} (accepted : options.Accepted) (uuid : String) {ms : Int}
    (instant : Instant ms) : (createEventEnvelopeWith uuid (toISOString ms) options).Valid := by
  obtain ⟨nonEmpty, occurredAt, sequenceNumber, payload, -⟩ := accepted
  constructor
  · exact orString_ne (by simp [String.ext_iff])
  · rw [createEventEnvelopeWith, EventType.name_ofName]
    exact nonEmpty.eventType
  · exact EventType.ofName_name_ofName _
  · exact orNumber_pos _
  · exact sequenceNumber
  · exact nonEmpty.aggregateId
  · exact nonEmpty.aggregateType
  · simp only [createEventEnvelopeWith, orString]
    by_cases absent : options.occurredAt.getD "" = ""
    · rw [if_pos absent]
      exact datetimeField_toISOString instant
    · rw [if_neg absent]
      cases given : options.occurredAt with
      | none =>
        rw [given] at absent
        exact absurd rfl absent
      | some s =>
        rw [given] at absent
        exact occurredAt s given absent
  · exact nonEmpty.producer
  · exact nonEmpty.correlationId
  · exact nonEmpty.causationId
  · exact orNumber_pos _
  · exact payload

/-- What is built is read back as it was, and so is what was read once, but for its infinite numbers. -/
theorem envelope_survives_its_text :
    (∀ (options : EnvelopeOptions) (uuid : String) (ms : Int), options.Accepted → Instant ms →
      ReadsBack (createEventEnvelopeWith uuid (toISOString ms) options)
        (createEventEnvelopeWith uuid (toISOString ms) options)) ∧
    ∀ (uuid now text : String) (e : EventEnvelope), parseEnvelope uuid now text = some e → ReadsBack e e.written := by
  constructor
  · intro options uuid ms accepted instant
    have read := readsBack_of_valid (created_valid accepted uuid instant)
    rwa [EventEnvelope.written, createEventEnvelopeWith, accepted.finite] at read
  · intro uuid now text e parsed
    exact readsBack_of_valid (valid_of_parsed parsed)

/-- An order is cancelled at the start of 1970. -/
def cancellation (payload : Fields) : EnvelopeOptions where
  eventId := some "evt_1"
  eventType := "OrderCancelled"
  aggregateId := "ord_1"
  aggregateType := "Order"
  producer := "orders"
  correlationId := "corr_1"
  causationId := "cmd_1"
  payload := payload

def cancellationText (payload : String) : String :=
  "\x7b\"event_id\":\"evt_1\",\"event_type\":\"OrderCancelled\",\"event_version\":1,\"aggregate_id\":\"ord_1\"," ++
  "\"aggregate_type\":\"Order\",\"occurred_at\":\"1970-01-01T00:00:00.000Z\",\"producer\":\"orders\"," ++
  "\"correlation_id\":\"corr_1\",\"causation_id\":\"cmd_1\",\"schema_version\":1,\"payload\":" ++ payload ++ "\x7d"

theorem cancellation_nonEmpty (payload : Fields) : (cancellation payload).NonEmpty := by
  constructor <;> simp [cancellation]

theorem cancellation_survives_its_text :
    parseEnvelope "" "" (cancellationText "\x7b\"reason\":\"late\"\x7d") =
      some (createEventEnvelopeWith "" (toISOString 0) (cancellation [("reason", .str "late")])) := by
  have accepted : (cancellation [("reason", .str "late")]).Accepted := by
    constructor
    · exact cancellation_nonEmpty _
    · nofun
    · nofun
    · simp [cancellation]
    · rfl
  apply envelope_survives_its_text.1 _ "" 0 accepted ⟨by decide, by decide⟩
  have text : Json.parse (cancellationText "\x7b\"reason\":\"late\"\x7d") = _ :=
    Json.parse_ofList (append_ofList (append_ofList (append_ofList (append_ofList rfl rfl) rfl) rfl) rfl)
  rw [text]
  decide +kernel

/-- A payload property named `__proto__` is gone from the envelope that is read. -/
theorem proto_property_dropped : ¬∀ (options : EnvelopeOptions) (uuid : String) (ms : Int), options.NonEmpty → Instant ms →
    ReadsBack (createEventEnvelopeWith uuid (toISOString ms) options)
      (createEventEnvelopeWith uuid (toISOString ms) options) := by
  intro survives
  have text : Json.parse (cancellationText "\x7b\"__proto__\":\"late\"\x7d") = _ :=
    Json.parse_ofList (append_ofList (append_ofList (append_ofList (append_ofList rfl rfl) rfl) rfl) rfl)
  have read := survives (cancellation [("__proto__", .str "late")]) "" 0 (cancellation_nonEmpty _) ⟨by decide, by decide⟩
    (cancellationText "\x7b\"__proto__\":\"late\"\x7d") "" "" (by rw [text]; decide +kernel)
  rw [parseEnvelope, text] at read
  exact absurd read (by decide +kernel)

end Fulfillment
