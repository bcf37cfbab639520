import Fulfillment.Effects.Pool
import Fulfillment.Projection.EventStore

/-!
# Appends side by side

The transactions of `appendToEventStore`, statement by statement: each takes
the advisory lock of its aggregate, inserts, and commits, or is rolled back at
any point. The lock is held to the end of the transaction, and an `INSERT`
waits for the uncommitted rows it could conflict with.
-/

namespace Fulfillment

open Js Effects

/-- How the `INSERT` ends. -/
inductive Insertion
  | added (row : StoredEvent)
  /-- `ON CONFLICT (event_id) DO NOTHING`. -/
  | conflict
  /-- Of `uq_event_store_aggregate_seq`. -/
  | violation
  | refused (error : JsError)
  deriving DecidableEq

/-- `COALESCE(MAX(sequence_number), 0) + 1` over the rows of the aggregate. -/
def numberAfter (aggregateId : String) (rows : List StoredEvent) : Nat :=
  ((rows.filter fun e => e.aggregateId = aggregateId).map StoredEvent.sequenceNumber).foldl max 0 + 1

/-- The number an append asks for. -/
def EventEnvelope.numberIn (e : EventEnvelope) (rows : List StoredEvent) : Nat :=
  (sequenceParam e.sequenceNumber).getD (numberAfter e.aggregateId rows)

local instance lawfulPosition : LawfulBEq (String × Nat) := inferInstance

def insertEvent (pg : Postgres) (e : EventEnvelope) (rows : List StoredEvent) : Insertion :=
  match pg.readTimestamp e.occurredAt with
  | .error error => .refused error
  | .ok time =>
    if !(e.fitsEventStore && fitsInt (e.numberIn rows)) then .refused columnError
    else if e.eventId ∈ rows.map StoredEvent.eventId then .conflict
    else if (e.aggregateId, e.numberIn rows) ∈ rows.map StoredEvent.position then .violation
    else .added (e.stored (e.numberIn rows) time)

/-- Alone, the transaction is the append. -/
theorem appendToEventStore_eq (pg : Postgres) (e : EventEnvelope) (s : EventStore) :
    (appendToEventStore pg e s).map EventStore.events =
      match insertEvent pg e s.events with
      | .added row => .ok (row :: s.events)
      | .conflict => .ok s.events
      | .violation => .error uniqueError
      | .refused error => .error error := by
  unfold appendToEventStore insertEvent
  cases pg.readTimestamp e.occurredAt with
  | error err => rfl
  | ok time =>
    have number : (sequenceParam e.sequenceNumber).getD (s.nextSequence e.aggregateId) = e.numberIn s.events := rfl
    simp only [Except.bind, bind, number]
    by_cases fits : (e.fitsEventStore && fitsInt (e.numberIn s.events)) = true
    · by_cases known : e.eventId ∈ s.events.map StoredEvent.eventId
      · simp only [fits, known, Bool.not_true, Bool.false_eq_true, if_false, if_true, dite_true]
        rfl
      · by_cases taken : (e.aggregateId, e.numberIn s.events) ∈ s.events.map StoredEvent.position
        · simp only [fits, known, taken, Bool.not_true, Bool.false_eq_true, if_false, if_true, dite_true, dite_false]
          rfl
        · simp only [fits, known, taken, Bool.not_true, Bool.false_eq_true, if_false, dite_false]
          rfl
    · simp only [fits, Bool.not_false, if_true]
      rfl

inductive AppendStage
  | waiting
  | locked (ticket : Nat)
  | inserted (ticket : Nat) (row : Option StoredEvent)
  deriving DecidableEq

structure AppendSession where
  event : EventEnvelope
  stage : AppendStage
  deriving DecidableEq

/-- The session holds its advisory lock; the ticket says as the how-manieth. -/
def AppendSession.ticket (s : AppendSession) : Option Nat :=
  match s.stage with
  | .waiting => none
  | .locked ticket | .inserted ticket _ => some ticket

/-- The uncommitted row. -/
def AppendSession.own (s : AppendSession) : Option StoredEvent :=
  match s.stage with
  | .inserted _ row => row
  | _ => none

/-- `committed` is newest first, each row with the ticket of its transaction. -/
structure AppendServer (ι : Type) where
  committed : List (Nat × StoredEvent)
  sessions : ι → Option AppendSession
  tickets : Nat
  violations : Nat

def AppendServer.rows {ι : Type} (p : AppendServer ι) : List StoredEvent := p.committed.map Prod.snd

/-- The committed rows of an aggregate. -/
def AppendServer.ofAggregate {ι : Type} (p : AppendServer ι) (aggregateId : String) : List (Nat × StoredEvent) :=
  p.committed.filter fun c => c.2.aggregateId = aggregateId

inductive AppendAct (ι : Type)
  | start (i : ι) (e : EventEnvelope)
  | lock (i : ι)
  | insert (i : ι)
  | commit (i : ι)
  | rollback (i : ι)

/-- The session after its `INSERT`; an error gives the transaction up. -/
def Insertion.session (e : EventEnvelope) (ticket : Nat) : Insertion → Option AppendSession
  | .added row => some ⟨e, .inserted ticket (some row)⟩
  | .conflict => some ⟨e, .inserted ticket none⟩
  | .violation | .refused _ => none

variable {ι κ : Type} [DecidableEq ι]

/-- `hashtext` names the lock of an aggregate; two aggregates may share one. -/
inductive AppendStep (pg : Postgres) (hashtext : String → κ) :
    AppendServer ι → AppendAct ι → AppendServer ι → Prop
  | start {p} (i : ι) (e : EventEnvelope) (free : p.sessions i = none) (unnumbered : sequenceParam e.sequenceNumber = none) :
    AppendStep pg hashtext p (.start i e) { p with sessions := Function.update p.sessions i (some ⟨e, .waiting⟩) }
  | lock {p} (i : ι) (e : EventEnvelope) (busy : p.sessions i = some ⟨e, .waiting⟩)
      (waits : ∀ j t, j ≠ i → p.sessions j = some t → t.ticket ≠ none →
        hashtext t.event.aggregateId ≠ hashtext e.aggregateId) :
    AppendStep pg hashtext p (.lock i)
      { p with
        sessions := Function.update p.sessions i (some ⟨e, .locked p.tickets⟩)
        tickets := p.tickets + 1 }
  | insert {p} (i : ι) (e : EventEnvelope) (ticket : Nat) (busy : p.sessions i = some ⟨e, .locked ticket⟩)
      (waits : ∀ j t row, j ≠ i → p.sessions j = some t → t.own = some row →
        row.eventId ≠ e.eventId ∧ row.position ≠ (e.aggregateId, e.numberIn p.rows)) :
    AppendStep pg hashtext p (.insert i)
      { p with
        sessions := Function.update p.sessions i ((insertEvent pg e p.rows).session e ticket)
        violations := p.violations + if insertEvent pg e p.rows = .violation then 1 else 0 }
  | commit {p} (i : ι) (e : EventEnvelope) (ticket : Nat) (row : Option StoredEvent)
      (busy : p.sessions i = some ⟨e, .inserted ticket row⟩) :
    AppendStep pg hashtext p (.commit i)
      { p with
        committed := row.toList.map (fun r => (ticket, r)) ++ p.committed
        sessions := Function.update p.sessions i none }
  | rollback {p} (i : ι) (s : AppendSession) (busy : p.sessions i = some s) :
    AppendStep pg hashtext p (.rollback i) { p with sessions := Function.update p.sessions i none }

/-- From an empty store, any number of appends without explicit numbers. -/
def appends (pg : Postgres) (hashtext : String → κ) : System (AppendServer ι) where
  init p := p.committed = [] ∧ p.violations = 0 ∧ ∀ i, p.sessions i = none
  step p q := ∃ a, AppendStep pg hashtext p a q

end Fulfillment
