import Fulfillment.Pipeline.Paths
import Fulfillment.Pipeline.Provenance
import Fulfillment.Saga.Overtaking

/-!
# One orchestrator among many

With a single instance of the orchestrator, whatever the other components do
and whatever fails, the history of an order is one that deliveries one after
another give. `Sequential` says so of a world; others stay `Aside`.
-/

namespace Fulfillment

open Js Relational Effects SagaOrchestrator

/-- What the orchestrator did about the order. -/
def Entry.ofSaga (orderId : String) : Entry → Bool
  | .saved row => row.aggregateId = orderId
  | .sent m _ =>
    match m.value with
    | .event e => e.producer = SagaOrchestrator.consumerName ∧ e.aggregateId = orderId
    | .deadLetter _ => false

/-- Nothing is done about any saga. -/
structure Aside (w w' : World) : Prop where
  sagas : w'.db.sagaInstances = w.db.sagaInstances
  journal : ∀ orderId, w'.journal.filter (Entry.ofSaga orderId) = w.journal.filter (Entry.ofSaga orderId)

theorem Aside.refl (w : World) : Aside w w := ⟨rfl, fun _ => rfl⟩

theorem Aside.trans {a b c : World} (h : Aside a b) (h' : Aside b c) : Aside a c :=
  ⟨h'.sagas.trans h.sagas, fun orderId => (h'.journal orderId).trans (h.journal orderId)⟩

theorem Aside.stored_eq {w w' : World} (h : Aside w w') (orderId : String) : stored orderId w' = stored orderId w := by
  rw [stored, Db.getSagaByAggregateId, h.sagas]
  rfl

/-! ## The history of each order -/

/-- The journal tells a history of the order that is possible, with these messages still owed. -/
def Chronicled (orderId : String) (w : World) (owed : List (Except JsError Message)) : Prop :=
  ∃ log, log.map Prod.snd = w.journal.filter (Entry.ofSaga orderId) ∧ SagaLog orderId (stored orderId w) owed log

structure Sequential (w : World) : Prop where
  keyed : w.db.WellKeyed
  chronicled : ∀ orderId, ∃ owed, Chronicled orderId w owed

/-- The arrows of the state diagram lead from one row to the other, and what was recorded is kept. -/
structure SagaRow.Reaches (s s' : SagaRow) : Prop where
  path : Relation.ReflTransGen DocumentedStep s.state s'.state
  progresses : s.Progresses s'

theorem SagaRow.Reaches.refl (s : SagaRow) : s.Reaches s := ⟨.refl, .refl s⟩

theorem SagaRow.Reaches.trans {a b c : SagaRow} (h : a.Reaches b) (h' : b.Reaches c) : a.Reaches c := by
  have path := h.path.trans h'.path
  refine ⟨path, ?_, ?_, ?_, ?_, ?_⟩
  · intro back
    rcases Relation.reflTransGen_iff_eq_or_transGen.mp path with same | forth
    · exact absurd (same ▸ back.rank_lt) (Nat.lt_irrefl _)
    · exact absurd (SagaState.Precedes.rank_lt forth) (Nat.lt_asymm back.rank_lt)
  · exact fun v given => h'.progresses.paymentId v (h.progresses.paymentId v given)
  · exact fun v given => h'.progresses.reservationId v (h.progresses.reservationId v given)
  · exact fun v given => h'.progresses.fraudCheckId v (h.progresses.fraudCheckId v given)
  · exact fun a done => h'.progresses.completed a (h.progresses.completed a done)

theorem transition_path {t : EventType} {state target : SagaState} {types : List EventType}
    (h : transition t (some state) = some (target, types)) : Relation.ReflTransGen DocumentedStep state target := by
  unfold transition at h
  split at h <;> cases h
  all_goals rename_i state; cases state
  · exact .single .paymentRequested
  · exact .head .paymentAuthorized (.single .inventoryReservationRequested)
  · exact .single .paymentRejected
  · exact .head .inventoryReserved (.single .fraudCheckRequested)
  · exact .single .inventoryReservationFailed
  · exact .head .fraudApproved (.single .shipmentRequested)
  · exact .single .fraudRejected
  · exact .single .shipmentCreated
  · exact .single .shipmentFailed

/-- No saga moves backwards. -/
def Forward (w w' : World) : Prop :=
  ∀ orderId s, stored orderId w = some s → ∃ s', stored orderId w' = some s' ∧ s.Reaches s'

section
variable {orderId : String} {w w' : World} {owed : List (Except JsError Message)}

theorem Chronicled.aside (h : Chronicled orderId w owed) (aside : Aside w w') : Chronicled orderId w' owed := by
  obtain ⟨log, entries, history⟩ := h
  exact ⟨log, entries.trans (aside.journal orderId).symm, aside.stored_eq orderId ▸ history⟩

theorem Sequential.aside (h : Sequential w) (aside : Aside w w') : Sequential w' := by
  constructor
  · intro row hrow
    rw [aside.sagas] at hrow
    exact h.keyed row hrow
  · intro orderId
    obtain ⟨owed, chronicled⟩ := h.chronicled orderId
    exact ⟨owed, chronicled.aside aside⟩

theorem Forward.aside (aside : Aside w w') : Forward w w' :=
  fun orderId s found => ⟨s, (aside.stored_eq orderId).trans found, .refl s⟩

theorem Forward.trans {u v w : World} (h : Forward u v) (h' : Forward v w) : Forward u w := by
  intro orderId s found
  obtain ⟨s', found', reaches⟩ := h orderId s found
  obtain ⟨s'', found'', reaches'⟩ := h' orderId s' found'
  exact ⟨s'', found'', reaches.trans reaches'⟩

/-- The other orders have nothing to do with it. -/
theorem Sequential.saved (h : Sequential w) {row : SagaRow} (keyed : row.Keyed) {owed : List (Except JsError Message)}
    (chronicled : Chronicled row.aggregateId (w.saveSaga row) owed) : Sequential (w.saveSaga row) := by
  refine ⟨wellKeyed_save h.keyed keyed, fun orderId => ?_⟩
  by_cases about : row.aggregateId = orderId
  · exact ⟨owed, about ▸ chronicled⟩
  · obtain ⟨owed', log, entries, history⟩ := h.chronicled orderId
    have filtered : (w.saveSaga row).journal.filter (Entry.ofSaga orderId) = w.journal.filter (Entry.ofSaga orderId) :=
      List.filter_cons_of_neg (by simpa [Entry.ofSaga] using about)
    have kept : stored orderId (w.saveSaga row) = stored orderId w := by
      have saved := getSaga_save h.keyed keyed orderId
      rw [if_neg fun same => about same.symm] at saved
      exact saved
    exact ⟨owed', log, entries.trans filtered.symm, kept.symm ▸ history⟩

theorem Message.FromSaga.filtered {m : Message} (h : m.FromSaga orderId) (acked : Bool) (other : String)
    (journal : List Entry) : (Entry.sent m acked :: journal).filter (Entry.ofSaga other) =
      if other = orderId then .sent m acked :: journal.filter (Entry.ofSaga other)
      else journal.filter (Entry.ofSaga other) := by
  obtain ⟨e, value, producer, rfl⟩ := h
  by_cases same : other = e.aggregateId
  · rw [if_pos same, List.filter_cons_of_pos]
    simp [Entry.ofSaga, value, producer, same]
  · rw [if_neg same, List.filter_cons_of_neg]
    simp only [Entry.ofSaga, value, producer, true_and, decide_eq_true_eq]
    exact fun about => same about.symm

theorem Sequential.sent (h : Sequential w) {m : Message} (own : m.FromSaga orderId)
    (chronicled : Chronicled orderId w (.ok m :: owed)) (e : EventEnvelope) (acked : Bool) :
    Sequential (w.take m acked) ∧ Chronicled orderId (w.take m acked) owed := by
  have sent : Chronicled orderId (w.take m acked) owed := by
    obtain ⟨log, entries, history⟩ := chronicled
    refine ⟨(e, .sent m acked) :: log, ?_, .emit e m acked history⟩
    rw [World.take, own.filtered, if_pos rfl, List.map_cons, entries]
  refine ⟨⟨h.keyed, fun other => ?_⟩, sent⟩
  by_cases same : other = orderId
  · exact ⟨owed, same ▸ sent⟩
  · obtain ⟨owed', log, entries, history⟩ := h.chronicled other
    refine ⟨owed', log, ?_, history⟩
    rw [World.take, own.filtered, if_neg same, entries]

end

/-- Nothing is unfilled that a history has filled. -/
theorem SagaLog.unfilled {orderId : String} {saga : Option SagaRow} {owed : List (Except JsError Message)}
    {log : List Logged} (h : SagaLog orderId saga owed log) : ∀ s, saga = some s → s.Unfilled := by
  induction h with
  | start =>
    intro s h
    cases h
  | advance amb e row emissions before about reacts ih =>
    rintro s ⟨⟩
    obtain ⟨paymentId, reservationId, fraudCheckId, completed⟩ := (react_saves ih reacts).unfilled
    exact ⟨paymentId, reservationId, fraudCheckId, completed⟩
  | report amb e action before about compensating reports ih =>
    rintro s ⟨⟩
    obtain ⟨-, saves⟩ := report_saves compensating orderId action e.correlationId
    obtain ⟨paymentId, reservationId, fraudCheckId, completed⟩ := saves.unfilled
    exact ⟨paymentId, reservationId, fraudCheckId, completed⟩
  | emit e m acked before ih => exact ih
  | deadLetter e key p acked before ih => exact ih

/-- A save over what was read. -/
theorem Sequential.advance {w : World} {amb : Ambient} {e : EventEnvelope} (h : Sequential w) {row : SagaRow} {emissions : List (Except JsError Message)}
    (reacts : react amb e (stored e.aggregateId w) = .ok (.advance row emissions)) :
    Sequential (w.saveSaga row) ∧ Forward w (w.saveSaga row) ∧ Chronicled e.aggregateId (w.saveSaga row) emissions := by
  obtain ⟨target, types, moves, advances⟩ := transition_of_react reacts
  have about := advances.aggregateId
  have keyed : row.Keyed := advances.keyed fun s hs => (getSaga_eq_some h.keyed hs).2
  obtain ⟨-, saved⟩ := stored_save h.keyed keyed about
  obtain ⟨owed, log, entries, history⟩ := h.chronicled e.aggregateId
  have chronicled : Chronicled e.aggregateId (w.saveSaga row) emissions := by
    refine ⟨(e, .saved row) :: log, ?_, ?_⟩
    · rw [World.saveSaga, List.filter_cons_of_pos (by simpa [Entry.ofSaga] using about), List.map_cons, entries]
    · rw [saved]
      exact .advance amb e row emissions history rfl reacts
  refine ⟨h.saved keyed (about ▸ chronicled), ?_, chronicled⟩
  intro orderId s found
  by_cases same : orderId = e.aggregateId
  · subst same
    have saves := react_saves history.unfilled reacts
    obtain ⟨state, paymentId, reservationId, fraudCheckId, completed⟩ := saves.progresses s found
    rw [found, Option.map_some] at moves
    refine ⟨_, saved, ?_, state, paymentId, reservationId, fraudCheckId, completed⟩
    exact advances.state.symm ▸ transition_path moves
  · have kept := getSaga_save h.keyed keyed orderId
    rw [if_neg (about ▸ same)] at kept
    exact ⟨s, kept.trans found, .refl s⟩

theorem Sequential.report {w : World} {e : EventEnvelope} (h : Sequential w) {s : SagaRow} {action : String}
    (found : stored e.aggregateId w = some s) (compensating : s.state = .compensating)
    (reports : reported e.eventType = some action) (amb : Ambient) :
    let row := barrierRow s e.aggregateId action e.correlationId
    Sequential (w.saveSaga row) ∧ Forward w (w.saveSaga row) ∧ Chronicled e.aggregateId (w.saveSaga row)
      ((cancelNotice s action).toList.map fun notice => .ok (orderCancelled amb e e.aggregateId notice)) := by
  intro row
  have keyed : row.Keyed := barrierRow_keyed (getSaga_eq_some h.keyed found).2 action e.correlationId
  obtain ⟨-, saved⟩ := stored_report h.keyed found action e.correlationId
  obtain ⟨owed, log, entries, history⟩ := h.chronicled e.aggregateId
  have chronicled : Chronicled e.aggregateId (w.saveSaga row)
      ((cancelNotice s action).toList.map fun notice => .ok (orderCancelled amb e e.aggregateId notice)) := by
    refine ⟨(e, .saved row) :: log, ?_, ?_⟩
    · rw [World.saveSaga, List.filter_cons_of_pos (by simp [Entry.ofSaga, row, barrierRow]), List.map_cons, entries]
    · rw [saved]
      rw [found] at history
      exact .report amb e action history rfl compensating reports
  refine ⟨h.saved keyed chronicled, ?_, chronicled⟩
  intro orderId t stored_t
  by_cases same : orderId = e.aggregateId
  · subst same
    obtain rfl := Option.some.inj (found.symm.trans stored_t)
    obtain ⟨-, saves⟩ := report_saves compensating e.aggregateId action e.correlationId
    obtain ⟨state, paymentId, reservationId, fraudCheckId, completed⟩ := saves.progresses s rfl
    refine ⟨_, saved, ?_, state, paymentId, reservationId, fraudCheckId, completed⟩
    rw [compensating, state_afterReport]
    split
    · exact .single .barrierSatisfied
    · exact .refl
  · have kept := getSaga_save h.keyed keyed orderId
    rw [if_neg (show ¬orderId = row.aggregateId from same)] at kept
    exact ⟨t, kept.trans stored_t, .refl t⟩

/-! ## The orchestrator -/

namespace SagaOrchestrator

/-- What the orchestrator expects of the others and owes to the history. -/
def sequentialContract : Contract JsError World Call where
  allowed _ _ _ := True
  rely := Aside
  guar w w' := Sequential w → Sequential w' ∧ Forward w w'

variable {orderId : String} {amb : Ambient} {e : EventEnvelope} {w : World}

theorem send_sequential (e : EventEnvelope) {m : Message} {owed : List (Except JsError Message)}
    {Q : Except JsError Unit → World → Prop} (own : m.FromSaga orderId) (h : Sequential w)
    (chronicled : Chronicled orderId w (.ok m :: owed)) (failed : ∀ err v, Sequential v → Q (.error err) v)
    (done : ∀ v, Sequential v → Chronicled orderId v owed → Q (.ok ()) v) :
    Safe (platform .none) sequentialContract Q (await (.send m)) w := by
  apply Safe.await
  intro v aside o _
  have h := h.aside aside
  have chronicled := chronicled.aside aside
  have forward : ∀ acked, Forward v (v.take m acked) := fun acked _ s found => ⟨s, found, .refl s⟩
  rcases platform_exec_cases (.send m) o v with ⟨err, x⟩ | x | ⟨err, x⟩ <;> rw [x]
  · exact ⟨fun _ => ⟨h, .aside (.refl v)⟩, failed err v h⟩
  · obtain ⟨sequential, rest⟩ := h.sent own chronicled e true
    exact ⟨fun _ => ⟨sequential, forward true⟩, done _ sequential rest⟩
  · obtain ⟨sequential, -⟩ := h.sent own chronicled e false
    exact ⟨fun _ => ⟨sequential, forward false⟩, failed err _ sequential⟩

theorem sendAll_sequential (e : EventEnvelope) {emissions : List (Except JsError Message)}
    (own : ∀ m, .ok m ∈ emissions → m.FromSaga orderId) (h : Sequential w) (chronicled : Chronicled orderId w emissions) :
    Safe (platform .none) sequentialContract (fun _ w => Sequential w) (sendAll emissions) w := by
  induction emissions generalizing w with
  | nil => exact h
  | cons emission emissions ih =>
    cases emission with
    | error err => exact h
    | ok m =>
      rw [sendAll_ok]
      apply Safe.bind
      apply send_sequential e (own m List.mem_cons_self) h chronicled
      · exact fun err v h => h
      · exact fun v h rest => ih (fun m' hm' => own m' (List.mem_cons_of_mem _ hm')) h rest

theorem advance_sequential (h : Sequential w) {row : SagaRow} {emissions : List (Except JsError Message)}
    (reacts : react amb e (stored e.aggregateId w) = .ok (.advance row emissions)) :
    Safe (platform .none) sequentialContract (fun _ w => Sequential w) (perform amb e (.advance row emissions)) w := by
  apply Safe.bind
  apply Safe.await
  intro u aside o _
  have h := h.aside aside
  rw [← aside.stored_eq] at reacts
  obtain ⟨sequential, forward, chronicled⟩ := h.advance reacts
  rcases platform_exec_cases (.saveSagaInstance row) o u with ⟨err, x⟩ | x | ⟨err, x⟩ <;> rw [x]
  · exact ⟨fun h => ⟨h, .aside (.refl u)⟩, h⟩
  · exact ⟨fun _ => ⟨sequential, forward⟩, sendAll_sequential e (react_emits reacts) sequential chronicled⟩
  · exact ⟨fun _ => ⟨sequential, forward⟩, sequential⟩

theorem report_sequential (h : Sequential w) (amb : Ambient) {s : SagaRow} {action : String}
    (found : stored e.aggregateId w = some s) (compensating : s.state = .compensating)
    (reports : reported e.eventType = some action) :
    Safe (platform .none) sequentialContract (fun _ w => Sequential w) (perform amb e (.compensate s action)) w := by
  apply Safe.bind
  apply Safe.await
  intro u aside o _
  have h := h.aside aside
  rw [← aside.stored_eq] at found
  have about := stored_about found
  obtain ⟨sequential, forward, chronicled⟩ := h.report found compensating reports amb
  have saves : ∀ acked, carryOut .none (.compensationBarrier s action e.correlationId) acked u =
      (cancelNotice s action, u.saveSaga (barrierRow s e.aggregateId action e.correlationId)) := by
    intro acked
    rw [carryOut_barrier found about, if_pos compensating]
  rcases platform_exec_cases (.compensationBarrier s action e.correlationId) o u with ⟨err, x⟩ | x | ⟨err, x⟩ <;>
    rw [x]
  · exact ⟨fun h => ⟨h, .aside (.refl u)⟩, h⟩
  · rw [saves]
    refine ⟨fun _ => ⟨sequential, forward⟩, ?_⟩
    cases noticed : cancelNotice s action with
    | none => exact sequential
    | some notice =>
      have own : (orderCancelled amb e s.aggregateId notice).FromSaga e.aggregateId := ⟨_, rfl, rfl, about⟩
      rw [noticed] at chronicled
      have chronicled : Chronicled e.aggregateId (u.saveSaga (barrierRow s e.aggregateId action e.correlationId))
          [.ok (orderCancelled amb e s.aggregateId notice)] := about.symm ▸ chronicled
      exact send_sequential e own sequential chronicled (fun _ _ h => h) fun _ h _ => h
  · rw [saves]
    exact ⟨fun _ => ⟨sequential, forward⟩, sequential⟩

theorem processEvent_sequential (amb : Ambient) (e : EventEnvelope) (h : Sequential w) :
    Safe (platform .none) sequentialContract (fun _ w => Sequential w) (processEvent amb e) w := by
  apply Safe.bind
  apply Safe.await
  intro v aside o _
  have h := h.aside aside
  have unmoved : Sequential v → Sequential v ∧ Forward v v := fun h => ⟨h, .aside (.refl v)⟩
  rcases platform_exec_cases (.getSagaByAggregateId e.aggregateId) o v with ⟨err, x⟩ | x | ⟨err, x⟩ <;> rw [x]
  · exact ⟨unmoved, h⟩
  · refine ⟨unmoved, ?_⟩
    have read : (carryOut .none (.getSagaByAggregateId e.aggregateId) true v).1 = stored e.aggregateId v := rfl
    simp only [After, read]
    cases hreact : react amb e (stored e.aggregateId v) with
    | error err => exact h
    | ok reaction =>
      cases reaction with
      | ignore => exact h
      | advance row emissions => exact advance_sequential h hreact
      | compensate s action =>
        obtain ⟨found, compensating, reports⟩ := report_of_react hreact
        exact report_sequential h amb found compensating reports
  · exact ⟨unmoved, h⟩

end SagaOrchestrator

/-! ## The others -/

/-- A call that does nothing about a saga. -/
def Uninvolved (c : Call) : Prop :=
  match c with
  | .saveSagaInstance _ | .compensationBarrier _ _ _ => False
  | .send m => ∀ e, m.value = .event e → e.producer ≠ SagaOrchestrator.consumerName
  | _ => True

theorem Aside.exec {c : Call} (h : Uninvolved c) (o : Outcome JsError) (w : World) :
    Aside w ((platform .none).exec c o w).2 := by
  rw [platform_exec_state]
  split
  · cases c with
    | saveSagaInstance | compensationBarrier => exact h.elim
    | send m =>
      refine ⟨rfl, fun orderId => List.filter_cons_of_neg ?_⟩
      cases value : m.value with
      | deadLetter p => simp [Entry.ofSaga, value]
      | event e => simp [Entry.ofSaga, value, h e value]
    | persistDeadLetter dlq marksFailed outboxId => cases marksFailed <;> exact ⟨rfl, fun _ => rfl⟩
    | _ => exact ⟨rfl, fun _ => rfl⟩
  · exact .refl w

theorem BaseCall.uninvolved {consumerName : String} {c : Call} (h : BaseCall consumerName c) : Uninvolved c := by
  cases h with
  | send key p => exact fun e value => nomatch value
  | dedup | mark | persist | published => trivial

theorem OwnCall.uninvolved {eventId consumerName : String} {c : Call} (h : OwnCall eventId consumerName c) :
    Uninvolved c := by
  cases h with
  | send key p => exact fun e value => nomatch value
  | dedup | mark | persist | published => trivial

theorem base_sequential {consumerName : String} {c : Call} (h : BaseCall consumerName c) :
    Keeps (platform .none) sequentialContract Sequential c := by
  intro o w _ inv
  have aside := Aside.exec h.uninvolved o w
  exact ⟨fun inv => ⟨inv.aside aside, .aside aside⟩, inv.aside aside⟩

theorem saga_sequential (env : Surroundings) (message : EachMessagePayload) {w : World} (inv : Sequential w) :
    Safe (platform .none) sequentialContract (fun _ w => Sequential w) (sagaOrchestrator.handleMessage env message) w := by
  have stable : ∀ w w', Aside w w' → Sequential w → Sequential w' := fun _ _ aside inv => inv.aside aside
  have base {c : Call} (h : BaseCall sagaOrchestrator.consumerName c) := base_sequential h
  unfold Consumer.handleMessage
  dsimp only
  cases parseEnvelope env.uuid env.now (message.value.getD "") with
  | none =>
    exact sagaOrchestrator.publishDeadLetter_safe stable _ _ _ (base (.persist ..)) (base (.send ..))
      (base (.published ..)) inv
  | some e =>
    exact sagaOrchestrator.handleEnvelope_safe env message e stable (fun _ => base_sequential)
      (fun attempt w inv => processEvent_sequential _ e inv) inv

theorem Service.processEvent_uninvolved {s : Service}
    (service : s ∈ [paymentService, inventoryService, fraudService, shippingService, notificationService]) (amb : Ambient)
    (e : EventEnvelope) : (s.processEvent amb e).Calls Uninvolved := by
  apply Service.processEvent_calls
  intro m answer e' value
  obtain ⟨⟨replies, -⟩, request⟩ := services_reply service answer
  rw [replies.producer e' value]
  exact (serviceRequests_effects _ request).2 _ (replies.effect e' value)

theorem Component.perform_uninvolved {component : Component} (other : component ≠ .saga) (work : Work) :
    (component.perform work).Calls Uninvolved := by
  cases work with
  | sweep =>
    cases component with
    | outboxRelay relay =>
      refine Prog.Calls.bind (relay.processBatch_calls trivial ?_ (fun _ => trivial) fun _ _ => trivial) fun _ => trivial
      rintro event e ⟨⟩
      simp [OutboxRelay.envelope, SagaOrchestrator.consumerName, String.ext_iff]
    | saga | payment | inventory | fraud | shipping | notification => trivial
  | deliver env message =>
    cases hc : component.consumer with
    | none =>
      simp only [Component.perform, hc]
      trivial
    | some c =>
      have process : ∀ n amb e, (c.processEvent n amb e).Calls Uninvolved := by
        intro n amb e
        cases component with
        | outboxRelay relay => cases hc
        | saga => exact absurd rfl other
        | payment | inventory | fraud | shipping | notification =>
          cases hc
          exact Service.processEvent_uninvolved (by simp) amb e
      simp only [Component.perform, hc]
      unfold Consumer.handleMessage
      dsimp only
      cases parseEnvelope env.uuid env.now (message.value.getD "") with
      | none => exact Consumer.deadLetter_calls trivial (fun e value => by cases value) trivial
      | some e => exact Consumer.handleEnvelope_calls (fun _ own => own.uninvolved) fun n amb => process n amb e

/-! ## One orchestrator -/

/-- What the others owe to the orchestrator. -/
def asideContract : Contract JsError World Call where
  allowed _ _ _ := True
  rely _ _ := True
  guar := Aside

def Component.contract : Component → Contract JsError World Call
  | .saga => sequentialContract
  | _ => asideContract

theorem Component.contract_other {component : Component} (other : component ≠ .saga) : component.contract = asideContract := by
  cases component <;> first | rfl | exact absurd rfl other

theorem Component.perform_safe (component : Component) (work : Work) {w : World} (inv : Sequential w) :
    Safe (platform .none) component.contract (fun _ _ => True) (component.perform work) w := by
  by_cases same : component = .saga
  · subst same
    cases work with
    | sweep => trivial
    | deliver env message => exact (saga_sequential env message inv).mono fun _ _ _ => trivial
  · rw [Component.contract_other same]
    exact Safe.of_calls (fun _ _ _ holds => holds) (fun c uninvolved o w _ _ => ⟨Aside.exec uninvolved o w, trivial⟩)
      (Component.perform_uninvolved same work) trivial

theorem outside_aside {w w' : World} (outside : Outside w w') : Aside w w' := by
  cases outside with
  | time clock locked => exact ⟨rfl, fun _ => rfl⟩
  | createOrder c f =>
    rcases c.createOrder_run w.clock f w.db with ⟨-, -, run⟩ | ⟨err, -, -, run⟩ | ⟨-, err, run⟩ <;>
    · rw [run]
      exact ⟨rfl, fun _ => rfl⟩

theorem Unbegun.sequential {w : World} (h : Unbegun w) : Sequential w := by
  obtain ⟨⟨journal, -⟩, sagas⟩ := h
  constructor
  · intro row hrow
    rw [sagas] at hrow
    cases hrow
  · intro orderId
    have none : stored orderId w = none := by
      rw [stored, Db.getSagaByAggregateId, sagas]
      rfl
    exact ⟨[], [], by rw [journal]; rfl, none ▸ .start⟩

section
variable {ι : Type} [DecidableEq ι] {components : ι → Component} (one : ∀ i j, components i = .saga → components j = .saga → i = j)
  {p : Pool JsError World Answer ι Work Unit}
include one

theorem reachable_contracts (h : Reachable (closedSystem components Unbegun Outside).system p) :
    Sequential p.shared ∧ ∀ i w, p.workers i = some w →
      Safe (platform .none) (components i).contract (fun _ _ => True) w.rest p.shared := by
  refine (closedSystem components Unbegun Outside).relyGuarantee Sequential (fun i => (components i).contract)
    (fun _ _ _ => True) ?_ ?_ ?_ ?_ ?_ ?_ ?_ ?_ h
  · intro i s
    cases components i <;> first | exact Aside.refl s | trivial
  · intro i a b c
    cases components i <;> first | exact Aside.trans | exact fun _ _ => trivial
  · exact fun _ _ _ _ _ done => done
  · exact fun w begun => begun.sequential
  · exact fun w i work inv _ => (components i).perform_safe work inv
  · intro i w c o s _ _
    cases components i <;> trivial
  · intro i s t inv guar
    by_cases saga : components i = .saga
    · rw [saga] at guar
      refine ⟨(guar inv).1, fun j other => ?_⟩
      have others : components j ≠ .saga := fun same => other (one j i same saga)
      rw [Component.contract_other others]
      trivial
    · rw [Component.contract_other saga] at guar
      have aside : Aside s t := guar
      refine ⟨inv.aside aside, fun j _ => ?_⟩
      cases components j <;> first | exact aside | trivial
  · intro s t inv outside
    have aside := outside_aside outside
    refine ⟨inv.aside aside, fun i => ?_⟩
    cases components i <;> first | exact aside | trivial

theorem step_forward (h : Reachable (closedSystem components Unbegun Outside).system p) {q : Pool JsError World Answer ι Work Unit}
    (step : PoolStep (closedSystem components Unbegun Outside) p q) : Forward p.shared q.shared := by
  obtain ⟨inv, safe⟩ := reachable_contracts one h
  cases step with
  | start | leave => exact .aside (.refl p.shared)
  | environment s moves => exact .aside (outside_aside moves)
  | call i w c k o busy next allowed =>
    have safe := safe i w busy
    rw [next] at safe
    by_cases saga : components i = .saga
    · rw [saga] at safe
      exact ((safe p.shared (Aside.refl _) o trivial).1 inv).2
    · rw [Component.contract_other saga] at safe
      exact .aside (safe p.shared trivial o trivial).1

end

end Fulfillment
