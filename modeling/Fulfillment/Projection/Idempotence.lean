import Fulfillment.Effects.Sequence
import Fulfillment.Projection.ProjectionConsumer

/-!
# Executions of `processEvent` for one event

The retry loop and later deliveries run `processEvent` again after a failure at
any of its three writes. Two of these happen once whatever is run again; the
row of the timeline is added each time.
-/

namespace Fulfillment

open Js Effects

/-- How the calls of an execution end, if it comes to them, and when it runs. -/
structure Execution where
  append : Outcome JsError
  record : Outcome JsError
  apply : Outcome JsError
  clock : Int

def Execution.oracle (x : Execution) (_ : List ProjectionCall) : ProjectionCall → Outcome JsError
  | .appendToEventStore _ => x.append
  | .recordEvent _ _ _ => x.record
  | .applyHistoricalEvent _ => x.apply
  | _ => .ok

/-- A row of `order_events` without its time. -/
def OrderEventRow.entry (row : OrderEventRow) : String × String × String := (row.orderId, row.eventType, row.topic)

def EventEnvelope.timelineEntry (e : EventEnvelope) : String × String × String :=
  (e.aggregateId, e.eventType.name, orString e.producer "system")

def EventEnvelope.fitsTimeline (e : EventEnvelope) : Bool :=
  fitsVarchar 100 e.aggregateId && fitsVarchar 100 e.eventType.name && fitsVarchar 100 (orString e.producer "system")

/-- The event store and the read models agree, and the markers but for their times. -/
structure SameProjection (w w' : ProjectionWorld) : Prop where
  eventStore : w.store.events = w'.store.events
  readModels : w.projection.models = w'.projection.models
  markers : ∀ key, (w.projection.applied key).map AppliedEvent.aggregateId =
    (w'.projection.applied key).map AppliedEvent.aggregateId

/-- The same rows in `order_events`, but for their times. -/
def SameTimeline (w w' : ProjectionWorld) : Prop :=
  w.orderEvents.map OrderEventRow.entry = w'.orderEvents.map OrderEventRow.entry

instance (w w' : ProjectionWorld) : Decidable (SameTimeline w w') := inferInstanceAs (Decidable (_ = _))

/-- The execution adds its row to the timeline. -/
def Execution.Records (x : Execution) : Prop := x.append = .ok ∧ x.record.acted = true

instance (x : Execution) : Decidable x.Records := inferInstanceAs (Decidable (_ ∧ _))

variable (pg : Postgres)

def Execution.run (x : Execution) (e : EventEnvelope) (w : ProjectionWorld) :
    Ran JsError ProjectionWorld ProjectionCall Unit :=
  (ProjectionConsumer.processEvent e).run (projectionPlatform pg) x.oracle [] (w.atTime x.clock)

def afterExecutions (e : EventEnvelope) : List Execution → ProjectionWorld → ProjectionWorld
  | [], w => w
  | x :: xs, w => afterExecutions e xs (x.run pg e w).state

variable {pg} {e : EventEnvelope} {w w' : ProjectionWorld}

/-! ## One execution -/

/-- A call whose effect is known. -/
theorem exec_of_effect {c : ProjectionCall} {r : ProjectionAnswer c} {t : ProjectionWorld}
    (h : ∀ acked, (projectionPlatform pg).effect c acked w = .ok (r, t)) (o : Outcome JsError) :
    (o = .ok ∧ (projectionPlatform pg).exec c o w = (.ok r, t)) ∨
    (o ≠ .ok ∧ ∃ err, (projectionPlatform pg).exec c o w = (.error err, if o.acted then t else w)) := by
  cases o with
  | ok => exact .inl ⟨rfl, by simp [Semantics.exec, h]⟩
  | rejected err => exact .inr ⟨fun h => (by cases h), err, rfl⟩
  | unacked err => exact .inr ⟨fun h => (by cases h), err, by simp [Semantics.exec, h, Outcome.acted]⟩

theorem exec_of_refusal {c : ProjectionCall} {err : JsError}
    (h : ∀ acked, (projectionPlatform pg).effect c acked w = .error err) (o : Outcome JsError) :
    ∃ err, (projectionPlatform pg).exec c o w = (.error err, w) := by
  cases o with
  | ok => exact ⟨err, by simp [Semantics.exec, h]⟩
  | rejected err => exact ⟨err, rfl⟩
  | unacked err => exact ⟨err, by simp [Semantics.exec, h]⟩

theorem append_exec (o : Outcome JsError) :
    (∃ err, (projectionPlatform pg).exec (.appendToEventStore e) o w = (.error err, w) ∧
      (o = .ok → (appendToEventStore pg e w.store).isOk = false)) ∨
    ∃ store, appendToEventStore pg e w.store = .ok store ∧
      ((o = .ok ∧ (projectionPlatform pg).exec (.appendToEventStore e) o w = (.ok (), { w with store })) ∨
        o ≠ .ok ∧ ∃ err, (projectionPlatform pg).exec (.appendToEventStore e) o w = (.error err, { w with store })) := by
  cases appended : appendToEventStore pg e w.store with
  | error err =>
    have refused (acked : Bool) : (projectionPlatform pg).effect (.appendToEventStore e) acked w = .error err := by
      simp only [projectionPlatform, appended, Except.map]
    obtain ⟨err', hexec⟩ := exec_of_refusal refused o
    exact .inl ⟨err', hexec, fun _ => rfl⟩
  | ok store =>
    have stored (acked : Bool) :
        (projectionPlatform pg).effect (.appendToEventStore e) acked w = .ok ((), { w with store }) := by
      simp only [projectionPlatform, appended, Except.map]
    rcases exec_of_effect stored o with answered | ⟨failed, err, hexec⟩
    · exact .inr ⟨store, rfl, .inl answered⟩
    · cases acted : o.acted with
      | true =>
        rw [acted, if_pos rfl] at hexec
        exact .inr ⟨store, rfl, .inr ⟨failed, err, hexec⟩⟩
      | false =>
        rw [acted] at hexec
        exact .inl ⟨err, hexec, fun ok => absurd ok failed⟩

theorem record_exec (o : Outcome JsError) :
    let recordEvent := ProjectionCall.recordEvent e.aggregateId e.eventType.name (orString e.producer "system")
    ((∃ err, (projectionPlatform pg).exec recordEvent o w = (.error err, w)) ∧ (o.acted = true → e.fitsTimeline = false)) ∨
    o.acted = true ∧ e.fitsTimeline = true ∧ ∃ row : OrderEventRow, row.entry = e.timelineEntry ∧
      ((o = .ok ∧ (projectionPlatform pg).exec recordEvent o w =
          (.ok (), { w with orderEvents := row :: w.orderEvents })) ∨
        o ≠ .ok ∧ ∃ err, (projectionPlatform pg).exec recordEvent o w =
          (.error err, { w with orderEvents := row :: w.orderEvents })) := by
  intro recordEvent
  cases fits : e.fitsTimeline with
  | false =>
    have refused (acked : Bool) : (projectionPlatform pg).effect recordEvent acked w = .error columnError := by
      unfold EventEnvelope.fitsTimeline at fits
      simp only [projectionPlatform, recordEvent, guarded, fits, Bool.false_eq_true, if_false]
    exact .inl ⟨exec_of_refusal refused o, fun _ => rfl⟩
  | true =>
    let row : OrderEventRow := ⟨e.aggregateId, e.eventType.name, orString e.producer "system", w.clock⟩
    have recorded (acked : Bool) : (projectionPlatform pg).effect recordEvent acked w =
        .ok ((), { w with orderEvents := row :: w.orderEvents }) := by
      unfold EventEnvelope.fitsTimeline at fits
      simp only [projectionPlatform, recordEvent, guarded, fits, if_true, row]
    rcases exec_of_effect recorded o with ⟨ok, hexec⟩ | ⟨failed, err, hexec⟩
    · exact .inr ⟨ok ▸ rfl, rfl, row, rfl, .inl ⟨ok, hexec⟩⟩
    · cases acted : o.acted with
      | true =>
        rw [acted, if_pos rfl] at hexec
        exact .inr ⟨rfl, rfl, row, rfl, .inr ⟨failed, err, hexec⟩⟩
      | false =>
        rw [acted] at hexec
        exact .inl ⟨⟨err, hexec⟩, fun h => by cases h⟩

theorem apply_exec (o : Outcome JsError) :
    (∃ err, (projectionPlatform pg).exec (.applyHistoricalEvent e) o w = (.error err, w)) ∨
    ∃ projection, applyOnce pg w.clock e w.projection = .ok projection ∧
      ((projectionPlatform pg).exec (.applyHistoricalEvent e) o w = (.ok (), { w with projection }) ∨
        ∃ err, (projectionPlatform pg).exec (.applyHistoricalEvent e) o w = (.error err, { w with projection })) := by
  cases applied : applyOnce pg w.clock e w.projection with
  | error err =>
    have refused (acked : Bool) : (projectionPlatform pg).effect (.applyHistoricalEvent e) acked w = .error err := by
      simp only [projectionPlatform, applied, Except.map]
    exact .inl (exec_of_refusal refused o)
  | ok projection =>
    have done (acked : Bool) :
        (projectionPlatform pg).effect (.applyHistoricalEvent e) acked w = .ok ((), { w with projection }) := by
      simp only [projectionPlatform, applied, Except.map]
    rcases exec_of_effect done o with ⟨-, hexec⟩ | ⟨-, err, hexec⟩
    · exact .inr ⟨projection, rfl, .inl hexec⟩
    · cases acted : o.acted with
      | true =>
        rw [acted, if_pos rfl] at hexec
        exact .inr ⟨projection, rfl, .inr ⟨err, hexec⟩⟩
      | false =>
        rw [acted] at hexec
        exact .inl ⟨err, hexec⟩

theorem processEvent_performs (e : EventEnvelope) : Performs (ProjectionConsumer.processEvent e)
    [ .appendToEventStore e, .recordEvent e.aggregateId e.eventType.name (orString e.producer "system"),
      .applyHistoricalEvent e ] := by
  apply Performs.await_bind
  intro _
  apply Performs.await_bind
  intro _
  exact .await _

/-- What an execution leaves, and what it takes to return. -/
structure Executed (pg : Postgres) (x : Execution) (e : EventEnvelope) (w w' : ProjectionWorld) (returned : Bool) : Prop where
  store : w'.store = w.store ∨ appendToEventStore pg e w.store = .ok w'.store
  projection : w'.projection = w.projection ∨ applyOnce pg x.clock e w.projection = .ok w'.projection
  timeline : (appendToEventStore pg e w.store).isOk = true → e.fitsTimeline = true →
    w'.orderEvents.map OrderEventRow.entry =
      (if x.Records then [e.timelineEntry] else []) ++ w.orderEvents.map OrderEventRow.entry
  returns : returned = true → x.Records ∧ e.fitsTimeline = true ∧
    appendToEventStore pg e w.store = .ok w'.store ∧ applyOnce pg x.clock e w.projection = .ok w'.projection

theorem Execution.executed (x : Execution) (e : EventEnvelope) (w : ProjectionWorld) :
    Executed pg x e w (x.run pg e w).state (x.run pg e w).value.toBool := by
  obtain ⟨state, value⟩ := @Performs.run _ _ _ _ _ (projectionPlatform pg) x.oracle _ _ (processEvent_performs e) []
    (w.atTime x.clock)
  rw [Execution.run, state, value]
  simp only [Semantics.execAll, Execution.oracle]
  rcases @append_exec pg e (w.atTime x.clock) x.append with ⟨err, hexec, refused⟩ |
    ⟨store, appended, ⟨ok, hexec⟩ | ⟨failed, err, hexec⟩⟩
  · rw [hexec]
    refine ⟨.inl rfl, .inl rfl, ?_, fun h => by cases h⟩
    intro accepted _
    have unrecorded : ¬x.Records := fun records => by
      have := refused records.1
      rw [show (w.atTime x.clock).store = w.store from rfl, accepted] at this
      cases this
    rw [if_neg unrecorded]
    rfl
  · rw [hexec]
    simp only
    rcases @record_exec pg e { w.atTime x.clock with store } x.record with ⟨⟨err, hrecord⟩, refused⟩ |
      ⟨acted, fits, row, entry, ⟨recorded, hrecord⟩ | ⟨failed, err, hrecord⟩⟩
    · rw [hrecord]
      refine ⟨.inr appended, .inl rfl, ?_, fun h => by cases h⟩
      intro _ fits
      have unrecorded : ¬x.Records := fun records => by
        rw [refused records.2] at fits
        cases fits
      rw [if_neg unrecorded]
      rfl
    · rw [hrecord]
      simp only
      have records : x.Records := ⟨ok, acted⟩
      rcases @apply_exec pg e ⟨(w.atTime x.clock).world, (w.atTime x.clock).projection, store,
          row :: (w.atTime x.clock).orderEvents⟩ x.apply with
        ⟨err, happly⟩ | ⟨projection, applied, happly | ⟨err, happly⟩⟩
      · rw [happly]
        refine ⟨.inr appended, .inl rfl, fun _ _ => ?_, fun h => by cases h⟩
        rw [if_pos records, List.map_cons, entry]
        rfl
      · rw [happly]
        refine ⟨.inr appended, .inr applied, fun _ _ => ?_, fun _ => ⟨records, fits, appended, applied⟩⟩
        rw [if_pos records, List.map_cons, entry]
        rfl
      · rw [happly]
        refine ⟨.inr appended, .inr applied, fun _ _ => ?_, fun h => by cases h⟩
        rw [if_pos records, List.map_cons, entry]
        rfl
    · rw [hrecord]
      have records : x.Records := ⟨ok, acted⟩
      refine ⟨.inr appended, .inl rfl, fun _ _ => ?_, fun h => by cases h⟩
      rw [if_pos records, List.map_cons, entry]
      rfl
  · rw [hexec]
    refine ⟨.inr appended, .inl rfl, ?_, fun h => by cases h⟩
    intro _ _
    rw [if_neg fun records : x.Records => failed records.1]
    rfl

/-! ## Executions one after another -/

/-- Appending again changes nothing. -/
theorem append_again {s s' s'' : EventStore} (h : appendToEventStore pg e s = .ok s')
    (again : appendToEventStore pg e s' = .ok s'') : s'' = s' := by
  have stored : e.eventId ∈ s'.events.map StoredEvent.eventId := by
    obtain ⟨-, time, -, ⟨known, same⟩ | ⟨-, events⟩⟩ := appendToEventStore_returns h
    · exact same ▸ known
    · rw [events]
      exact List.mem_cons_self
  obtain ⟨-, time, -, ⟨-, same⟩ | ⟨fresh, -⟩⟩ := appendToEventStore_returns again
  · exact same
  · exact absurd stored fresh

theorem applied_marked {clock : Int} {db db' : ProjectionDb} (h : applyOnce pg clock e db = .ok db') :
    db'.isProjectionEventApplied e.eventId = true := by
  cases marked : db.isProjectionEventApplied e.eventId with
  | true => rwa [applyOnce_marked h marked]
  | false =>
    rw [ProjectionDb.isProjectionEventApplied, (applyOnce_unmarked h marked).2, Function.update_self]
    rfl

theorem applyOnce_again {clock clock' : Int} {db db' db'' : ProjectionDb} (h : applyOnce pg clock e db = .ok db')
    (again : applyOnce pg clock' e db' = .ok db'') : db'' = db' :=
  applyOnce_marked again (applied_marked h)

/-- The clock decides nothing but the time of the marker. -/
theorem applyOnce_clock {clock : Int} {db db' : ProjectionDb} (h : applyOnce pg clock e db = .ok db') (clock' : Int) :
    ∃ db'', applyOnce pg clock' e db = .ok db'' ∧ db'.models = db''.models ∧
      ∀ key, (db'.applied key).map AppliedEvent.aggregateId = (db''.applied key).map AppliedEvent.aggregateId := by
  cases marked : db.isProjectionEventApplied e.eventId with
  | true =>
    obtain rfl := applyOnce_marked h marked
    refine ⟨db', ?_, rfl, fun _ => rfl⟩
    unfold applyOnce at h ⊢
    simpa only [marked, if_true] using h
  | false =>
    obtain ⟨mutated, applied⟩ := applyOnce_unmarked h marked
    have accepted : (applyOnce pg clock' e db).isOk = true := by
      have returned := isOk_of_ok h
      unfold applyOnce at returned ⊢
      simp only [marked, mutated, Except.bind, Bool.false_eq_true, if_false] at returned ⊢
      split at returned
      · split at returned
        · rename_i fits cast
          rw [if_pos fits, if_pos cast]
          rfl
        · cases returned
      · cases returned
    obtain ⟨db'', h'⟩ := ok_of_isOk accepted
    obtain ⟨mutated', applied'⟩ := applyOnce_unmarked h' marked
    refine ⟨db'', h', Except.ok.inj (mutated.symm.trans mutated'), fun key => ?_⟩
    rw [applied, applied']
    by_cases same : key = markerOf e.eventId
    · rw [same, Function.update_self, Function.update_self]
      rfl
    · rw [Function.update_of_ne same, Function.update_of_ne same]

/-- The event store and the read models are as before, or the event went in once. -/
structure Progress (pg : Postgres) (e : EventEnvelope) (w w' : ProjectionWorld) : Prop where
  store : w'.store = w.store ∨ appendToEventStore pg e w.store = .ok w'.store
  projection : w'.projection = w.projection ∨ ∃ clock, applyOnce pg clock e w.projection = .ok w'.projection

theorem Executed.progress {x : Execution} {w' : ProjectionWorld} {returned : Bool}
    (h : Executed pg x e w w' returned) : Progress pg e w w' :=
  ⟨h.store, h.projection.imp id fun applied => ⟨x.clock, applied⟩⟩

/-- What went in once does not go in again. -/
theorem Progress.appended (h : Progress pg e w w') {store : EventStore}
    (again : appendToEventStore pg e w'.store = .ok store) : appendToEventStore pg e w.store = .ok store := by
  rcases h.store with same | first
  · rwa [same] at again
  · rwa [append_again first again]

theorem Progress.applied (h : Progress pg e w w') {clock : Int} {db : ProjectionDb}
    (again : applyOnce pg clock e w'.projection = .ok db) : ∃ clock, applyOnce pg clock e w.projection = .ok db := by
  rcases h.projection with same | ⟨clock', first⟩
  · exact ⟨clock, same ▸ again⟩
  · rw [applyOnce_again first again]
    exact ⟨clock', first⟩

theorem Progress.trans {w'' : ProjectionWorld} (h : Progress pg e w w') (h' : Progress pg e w' w'') :
    Progress pg e w w'' := by
  constructor
  · rcases h'.store with same | again
    · rw [same]
      exact h.store
    · exact .inr (h.appended again)
  · rcases h'.projection with same | ⟨clock, again⟩
    · rw [same]
      exact h.projection
    · exact .inr (h.applied again)

theorem afterExecutions_progress (xs : List Execution) (w : ProjectionWorld) :
    Progress pg e w (afterExecutions pg e xs w) := by
  induction xs generalizing w with
  | nil => exact ⟨.inl rfl, .inl rfl⟩
  | cons x xs ih => exact (x.executed e w).progress.trans (ih _)

/-- Every execution that comes to it adds a row to the timeline. -/
theorem afterExecutions_timeline {xs : List Execution} {w : ProjectionWorld} (fits : e.fitsTimeline = true)
    {store : EventStore} (h : appendToEventStore pg e (afterExecutions pg e xs w).store = .ok store) :
    (afterExecutions pg e xs w).orderEvents.map OrderEventRow.entry =
      List.replicate (xs.countP fun x => x.Records) e.timelineEntry ++ w.orderEvents.map OrderEventRow.entry := by
  induction xs generalizing w with
  | nil => rfl
  | cons x xs ih =>
    have accepted : (appendToEventStore pg e w.store).isOk = true :=
      isOk_of_ok ((afterExecutions_progress (x :: xs) w).appended h)
    have step := (x.executed e w).timeline accepted fits
    rw [afterExecutions] at h ⊢
    rw [ih h, step, List.countP_cons]
    by_cases records : x.Records
    · rw [if_pos records, if_pos (decide_eq_true records), List.replicate_succ', List.append_assoc]
    · rw [if_neg records, if_neg (by rwa [decide_eq_true_eq])]
      rfl

def Execution.undisturbed (clock : Int) : Execution := ⟨.ok, .ok, .ok, clock⟩

theorem Execution.undisturbed_returns {clock : Int} {store : EventStore} {projection : ProjectionDb}
    (appended : appendToEventStore pg e w.store = .ok store) (fits : e.fitsTimeline = true)
    (applied : applyOnce pg clock e w.projection = .ok projection) :
    ((undisturbed clock).run pg e w).value.toBool = true := by
  have append : (projectionPlatform pg).effect (.appendToEventStore e) true (w.atTime clock) =
      .ok ((), { w.atTime clock with store }) := by
    simp only [projectionPlatform, ProjectionWorld.atTime, appended, Except.map]
  have record : (projectionPlatform pg).effect
      (.recordEvent e.aggregateId e.eventType.name (orString e.producer "system")) true { w.atTime clock with store } =
      .ok ((), { w.atTime clock with
        store, orderEvents := ⟨e.aggregateId, e.eventType.name, orString e.producer "system", clock⟩ :: w.orderEvents }) := by
    unfold EventEnvelope.fitsTimeline at fits
    simp only [projectionPlatform, guarded, fits, if_true]
    rfl
  obtain ⟨-, value⟩ := @Performs.run _ _ _ _ _ (projectionPlatform pg) (undisturbed clock).oracle _ _
    (processEvent_performs e) [] (w.atTime clock)
  rw [Execution.run, show (undisturbed clock).clock = clock from rfl, value]
  simp only [Semantics.execAll, Execution.oracle, undisturbed]
  rw [exec_ok append]
  simp only
  rw [exec_ok record]
  simp only
  have apply (orderEvents : List OrderEventRow) :
      (projectionPlatform pg).effect (.applyHistoricalEvent e) true { w.atTime clock with store, orderEvents } =
      .ok ((), { w.atTime clock with store, projection, orderEvents }) := by
    simp only [projectionPlatform, ProjectionWorld.atTime, ProjectionWorld.clock, applied, Except.map]
  rw [exec_ok (apply _)]

theorem fresh_applied_same {clock clock' : Int} {db db' db'' : ProjectionDb} (h : applyOnce pg clock e db = .ok db')
    (h' : applyOnce pg clock' e db = .ok db'') : db'.models = db''.models ∧
      ∀ key, (db'.applied key).map AppliedEvent.aggregateId = (db''.applied key).map AppliedEvent.aggregateId := by
  obtain ⟨db₂, same, models, markers⟩ := applyOnce_clock h clock'
  cases same.symm.trans h'
  exact ⟨models, markers⟩

def notified : EventEnvelope where
  eventId := "evt_1"
  eventType := .notificationSent
  eventVersion := 1
  sequenceNumber := none
  aggregateId := "ord_1"
  aggregateType := "Order"
  occurredAt := "2026-01-01T10:00:00.000Z"
  producer := "notification-consumer"
  correlationId := "ord_1"
  causationId := "evt_0"
  schemaVersion := 1
  payload := []

def unprocessed : ProjectionWorld := ⟨.empty, ⟨.empty, fun _ => none⟩, .empty, []⟩

/-- The append is lost on its way back, and the event is processed again. -/
def appendLost : Execution := ⟨.unacked { message := "Connection terminated" }, .ok, .ok, 0⟩

/-- The row of the timeline is there when the read models cannot be reached. -/
def applyRefused : Execution := ⟨.ok, .ok, .rejected { message := "Connection terminated" }, 0⟩

end Fulfillment
