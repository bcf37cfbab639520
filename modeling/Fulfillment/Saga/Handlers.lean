import Fulfillment.Effects.Expand
import Fulfillment.Effects.Pool
import Fulfillment.Saga.Machine

/-! Handlers of the orchestrator side by side: what each is given, and what they share. -/

namespace Fulfillment

open Js Effects

/-- One event for one handler, and what its run reads besides. -/
structure Handling where
  amb : Ambient
  event : EventEnvelope

abbrev Handlers (ι : Type) := Pool JsError World Answer ι Handling Unit

def stored (orderId : String) (w : World) : Option SagaRow := w.db.getSagaByAggregateId orderId

def SagaRow.completedList (s : SagaRow) : List String := s.context.compensationsCompleted.getD []

theorem readable_of_fits {row : SagaRow} (fits : row.fits = true) : fitsText row.aggregateId = true := by
  simp only [SagaRow.fits, fitsKey, Bool.and_eq_true] at fits
  exact fits.1.1.1.1.1.2.2

theorem allCompleted_iff {s : SagaRow} {pending : List String}
    (h : s.context.compensationsPending = some pending) (action : String) :
    allCompensationsCompleted s.context action = true ↔
      ∀ a ∈ pending, a ∈ withCompleted s.context action := by
  simp [allCompensationsCompleted, pendingCompensations, h]

/-- The row that is stored after the barrier update of a stored row. -/
def SagaRow.afterReport (s : SagaRow) (orderId action correlationId : String) : SagaRow :=
  (barrierRow s orderId action correlationId).mergedInto (some s)

theorem barrierRow_keyed {s : SagaRow} {orderId : String} (h : s.sagaId = sagaIdOf orderId)
    (action correlationId : String) : (barrierRow s orderId action correlationId).Keyed := by
  simp [SagaRow.Keyed, barrierRow, orString, h, sagaIdOf_ne_empty]

/-- The transaction re-reads the row, so the copy it was called with only names the order. -/
theorem carryOut_barrier {orderId : String} {w : World} {s copy : SagaRow} (hs : stored orderId w = some s)
    (about : copy.aggregateId = orderId) (action correlationId : String) (acked : Bool) :
    carryOut .none (.compensationBarrier copy action correlationId) acked w =
      if s.state = .compensating then
        (cancelNotice s action, w.saveSaga (barrierRow s orderId action correlationId))
      else (none, w) := by
  have hs' : w.db.getSagaByAggregateId orderId = some s := hs
  simp only [carryOut, executeBarrierUpdate, about, hs', Option.getD_some]
  by_cases compensating : s.state = .compensating
  · rw [if_pos compensating, if_pos compensating]
  · rw [if_neg compensating, if_neg compensating]

/-- A save of the order's saga is what is stored next. -/
theorem stored_save {orderId : String} {w : World} {row : SagaRow} (keyed : w.db.WellKeyed) (hrow : row.Keyed)
    (about : row.aggregateId = orderId) :
    (w.saveSaga row).db.WellKeyed ∧
    stored orderId (w.saveSaga row) = some (row.mergedInto (stored orderId w)) := by
  refine ⟨wellKeyed_save keyed hrow, ?_⟩
  simp only [stored, World.saveSaga]
  rw [getSaga_save keyed hrow, if_pos about.symm]

theorem stored_report {orderId : String} {w : World} {s : SagaRow} (keyed : w.db.WellKeyed)
    (hs : stored orderId w = some s) (action correlationId : String) :
    (w.saveSaga (barrierRow s orderId action correlationId)).db.WellKeyed ∧
    stored orderId (w.saveSaga (barrierRow s orderId action correlationId)) =
      some (s.afterReport orderId action correlationId) := by
  have about : (barrierRow s orderId action correlationId).aggregateId = orderId := rfl
  have saved := stored_save keyed (barrierRow_keyed (getSaga_eq_some keyed hs).2 action correlationId) about
  rwa [hs] at saved

namespace SagaOrchestrator

/-! ## The calls of a handler -/

variable {amb : Ambient} {e : EventEnvelope}

theorem sendAll_ok (m : Message) (emissions : List (Except JsError Message)) :
    sendAll (.ok m :: emissions) = (await (.send m) >>= fun _ => sendAll emissions) := rfl

/-- A message that the orchestrator may send about the event. -/
inductive MaySend (amb : Ambient) (e : EventEnvelope) : Message → Prop
  | emitted (m : Message) (saga row emissions) (reacts : react amb e saga = .ok (.advance row emissions))
    (emits : .ok m ∈ emissions) : MaySend amb e m
  | cancelled (orderId : String) (notice : CancelNotice) : MaySend amb e (orderCancelled amb e orderId notice)

theorem sendAll_calls {P : Call → Prop} {emissions : List (Except JsError Message)}
    (sends : ∀ m, .ok m ∈ emissions → P (.send m)) : (sendAll emissions).Calls P := by
  induction emissions with
  | nil => trivial
  | cons emission emissions ih =>
    cases emission with
    | error err => trivial
    | ok m =>
      rw [sendAll_ok]
      exact .bind (.await (sends m List.mem_cons_self)) fun _ => ih fun m' hm' => sends m' (List.mem_cons_of_mem _ hm')

theorem processEvent_calls {P : Call → Prop} (reads : P (.getSagaByAggregateId e.aggregateId))
    (saves : ∀ row, P (.saveSagaInstance row)) (barrier : ∀ s action, P (.compensationBarrier s action e.correlationId))
    (sends : ∀ m, MaySend amb e m → P (.send m)) : (processEvent amb e).Calls P := by
  apply Prog.Calls.bind (.await reads)
  intro saga
  cases reacts : react amb e saga with
  | error err => trivial
  | ok reaction =>
    cases reaction with
    | ignore => trivial
    | advance row emissions =>
      change (await (.saveSagaInstance row) >>= fun _ => sendAll emissions).Calls P
      exact .bind (.await (saves row)) fun _ =>
        sendAll_calls fun m emits => sends m (.emitted m saga row emissions reacts emits)
    | compensate s action =>
      apply Prog.Calls.bind (.await (barrier s action))
      rintro (none | notice)
      · trivial
      · exact .await (sends _ (.cancelled _ _))

end SagaOrchestrator

def sampleAmbient : Ambient :=
  ⟨fun _ => "2026-01-01T00:00:00.000Z", fun _ => "00000000-0000-4000-8000-000000000000", fun _ => 0, false⟩

def sampleEnvironment : Surroundings where
  now := "2026-01-01T00:00:00.000Z"
  uuid := "00000000-0000-4000-8000-000000000000"
  parseError := { message := "Unexpected token" }
  attempt _ := sampleAmbient
  dlqUuid := "11111111-0000-4000-8000-000000000000"
  failedAt := "2026-01-01T00:00:00.000Z"

/-- An event about the order `ord_1`, as a legacy producer's message is read. -/
def sampleEvent (eventId : String) (eventType : EventType) (payload : Fields) : EventEnvelope where
  eventId := eventId
  eventType := eventType
  eventVersion := 1
  sequenceNumber := none
  aggregateId := "ord_1"
  aggregateType := "Order"
  occurredAt := "2026-01-01T00:00:00.000Z"
  producer := "legacy-producer"
  correlationId := "ord_1"
  causationId := eventId
  schemaVersion := 1
  payload := payload

end Fulfillment
