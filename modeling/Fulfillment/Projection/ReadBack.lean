import Fulfillment.Js.Date
import Fulfillment.Projection.SequenceNumbers

/-!
# Events read back from the event store

`appendToEventStore` writes the fields of an envelope into columns, and
`getEventsByAggregateId` makes an envelope of the columns again. There is no
column for the schema version, and `TIMESTAMP` has no place for a zone.
-/

namespace Js

/-- A time as a text has it, and how far its zone is ahead of UTC, in milliseconds. -/
structure ZonedTime where
  time : Int
  zone : Int
  deriving DecidableEq, Repr

/-- `Z`, an offset such as `+02:00`, or nothing. -/
def zoneOf : List Char → Option Int
  | [] | ['Z'] => some 0
  | [sign, h1, h2, ':', m1, m2] => do
    let hours ← fromISOString.number [h1, h2]
    let minutes ← fromISOString.number [m1, m2]
    let offset := Int.ofNat (hours * 3600000 + minutes * 60000)
    if hours < 16 ∧ minutes < 60 then
      if sign = '+' then some offset else if sign = '-' then some (-offset) else none
    else none
  | _ => none

/-- A date and time of ISO 8601, to the second or the millisecond. -/
def zonedTime (s : String) : Option ZonedTime := do
  match s.toList with
  | y1 :: y2 :: y3 :: y4 :: '-' :: m1 :: m2 :: '-' :: d1 :: d2 :: 'T' :: h1 :: h2 :: ':' :: n1 :: n2 :: ':' ::
      s1 :: s2 :: rest =>
    let year ← fromISOString.number [y1, y2, y3, y4]
    let month ← fromISOString.number [m1, m2]
    let day ← fromISOString.number [d1, d2]
    let hours ← fromISOString.number [h1, h2]
    let minutes ← fromISOString.number [n1, n2]
    let seconds ← fromISOString.number [s1, s2]
    let (fraction, zone) ← match rest with
      | '.' :: f1 :: f2 :: f3 :: zone => (fromISOString.number [f1, f2, f3]).map fun fraction => (fraction, zone)
      | zone => some (0, zone)
    let offset ← zoneOf zone
    if 1 ≤ month ∧ month ≤ 12 ∧ 1 ≤ day ∧ day ≤ 31 ∧ hours < 24 ∧ minutes < 60 ∧ seconds < 60 then
      return ⟨daysFromCivil year month day * 86400000 +
        Int.ofNat (hours * 3600000 + minutes * 60000 + seconds * 1000 + fraction), offset⟩
    else none
  | _ => none

example : zonedTime "2026-01-01T10:00:00+02:00" = some ⟨1767261600000, 7200000⟩ := by decide +kernel

end Js

namespace Fulfillment

open Js

/-- A text that PostgreSQL takes as a timestamp, in a session and a process in
UTC: the column keeps the time as written and the driver reads it as UTC, while
`Date.parse` takes the zone into account. -/
structure ReadInUtc (pg : Postgres) (parse : String → Option Int) (text : String) : Prop where
  column : ∀ {t d}, pg.timestamp text = some t → zonedTime text = some d → parse (pg.isoString t) = some d.time
  date : ∀ {t d}, pg.timestamp text = some t → zonedTime text = some d → parse text = some (d.time - d.zone)

/-- All fields but the sequence number agree, `occurred_at` as an instant. -/
structure SameEvent (parse : String → Option Int) (e e' : EventEnvelope) : Prop where
  eventId : e'.eventId = e.eventId
  eventType : e'.eventType = e.eventType
  eventVersion : e'.eventVersion = e.eventVersion
  aggregateId : e'.aggregateId = e.aggregateId
  aggregateType : e'.aggregateType = e.aggregateType
  occurredAt : parse e'.occurredAt = parse e.occurredAt
  producer : e'.producer = e.producer
  correlationId : e'.correlationId = e.correlationId
  causationId : e'.causationId = e.causationId
  schemaVersion : e'.schemaVersion = e.schemaVersion
  payload : e'.payload = e.payload

variable {pg : Postgres} {parse : String → Option Int} {e : EventEnvelope} {s s' : EventStore}

/-- The row of an event gives the event back but for its schema version and its time. -/
theorem sameEvent_stored_iff {number : Nat} {time : Int} : SameEvent parse e ((e.stored number time).envelope pg) ↔
    e.schemaVersion = 1 ∧ parse (pg.isoString time) = parse e.occurredAt := by
  constructor
  · intro same
    exact ⟨same.schemaVersion.symm, same.occurredAt⟩
  · rintro ⟨version, instant⟩
    exact ⟨rfl, rfl, rfl, rfl, rfl, instant, rfl, rfl, rfl, version.symm, rfl⟩

/-- What is read of an aggregate has one envelope for each of its rows. -/
theorem read_unique {row : StoredEvent} (stored : row ∈ s.events) {read : EventEnvelope}
    (mem : read ∈ getEventsByAggregateId pg row.aggregateId s) (same : read.eventId = row.eventId) :
    read = row.envelope pg := by
  obtain ⟨other, own, rfl⟩ := List.mem_map.mp mem
  rw [List.inj_on_of_nodup_map s.uniqueId (mem_inOrder.mp own).1 stored same]

theorem timestamp_of_read {text : String} {time : Int} (h : pg.readTimestamp text = .ok time) :
    pg.timestamp text = some time := by
  unfold Postgres.readTimestamp at h
  split at h
  · cases h
    assumption
  · cases h

/-- `Date.parse`, as far as the texts above go. -/
def dateParse (text : String) : Option Int := (zonedTime text).map fun d => d.time - d.zone

/-- `Postgres.sample`, also for that time with another zone. -/
def Postgres.zoned : Postgres where
  literal := Postgres.sample.literal
  integer := Postgres.sample.integer
  numeric := Postgres.sample.numeric
  timestamp
    | "2026-01-01T10:00:00.000Z" | "2026-01-01T10:00:00+02:00" => some 1767261600000
    | _ => none
  isoString := Postgres.sample.isoString
  reads_back _ _ _ := rfl

theorem numbered_read_in_utc : ReadInUtc .zoned dateParse (numbered "evt_1" none).occurredAt := by
  have written : zonedTime "2026-01-01T10:00:00.000Z" = some ⟨1767261600000, 0⟩ := by decide +kernel
  have parsed : dateParse "2026-01-01T10:00:00.000Z" = some 1767261600000 := by
    rw [dateParse, written]
    rfl
  constructor
  · intro t d _ hd
    cases written.symm.trans hd
    exact parsed
  · intro t d _ hd
    cases written.symm.trans hd
    exact parsed

def secondVersion : EventEnvelope := { numbered "evt_1" none with schemaVersion := 2 }

def aheadOfUtc : EventEnvelope := { numbered "evt_1" none with occurredAt := "2026-01-01T10:00:00+02:00" }

end Fulfillment
