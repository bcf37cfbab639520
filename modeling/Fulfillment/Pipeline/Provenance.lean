import Fulfillment.Contracts.Texts
import Fulfillment.Pipeline.Protocol

/-!
# Where the events of an order come from

Whatever fails and however many instances run, a published event was brought
about by an earlier one of its order, no order skips a stage, and no order is
cancelled before its payment was refunded.
-/

namespace Fulfillment

open Js Relational Effects SagaOrchestrator

/-- An event of the type about the order was published. -/
def Announced (journal : List Entry) (t : EventType) (orderId : String) : Prop :=
  ∃ e, PublishedIn journal e ∧ e.eventType = t ∧ e.aggregateId = orderId

theorem Announced.later {journal journal' : List Entry} {t : EventType} {orderId : String}
    (h : Announced journal t orderId) (grows : journal <:+ journal') : Announced journal' t orderId := by
  obtain ⟨e, ⟨m, acked, sent, value⟩, same⟩ := h
  exact ⟨e, ⟨m, acked, grows.subset sent, value⟩, same⟩

/-- The event that leads to the state. -/
def SagaState.entry : SagaState → Option EventType
  | .inventoryPending => some .paymentAuthorized
  | .fraudPending => some .inventoryReserved
  | .shippingPending => some .fraudApproved
  | .completed => some .shipmentCreated
  | .failed => some .paymentRejected
  | _ => none

/-- A saga that gave up after the event gives the payment back, and what was reserved by then. -/
def SagaRow.GaveUp (s : SagaRow) (t : EventType) : Prop :=
  "PAYMENT_REFUND" ∈ pendingCompensations s.context ∧
  (t = .inventoryReservationFailed ∨
    (t = .fraudRejected ∨ t = .shipmentFailed) ∧ "INVENTORY_RELEASE" ∈ pendingCompensations s.context)

/-- What a saga knows was announced. -/
structure SagaRow.Evidenced (s : SagaRow) (journal : List Entry) : Prop where
  entered : ∀ t, s.state.entry = some t → Announced journal t s.aggregateId
  pending : s.state = .compensating ∨ s.state = .cancelled → ∃ t, Announced journal t s.aggregateId ∧ s.GaveUp t
  completed : ∀ action ∈ s.completedList, ∀ t, reported t = some action → Announced journal t s.aggregateId
  cancelled : s.state = .cancelled → ∀ action ∈ pendingCompensations s.context, action ∈ s.completedList

/-- The event is the creation of an order, or an effect of an earlier event, published by its producer. -/
inductive Grounded (earlier : List Entry) (e : EventEnvelope) : Prop
  | created (eventType : e.eventType = .orderCreated)
  | caused (cause : EventEnvelope) (published : PublishedIn earlier cause) (causes : CausedBy e cause)
      (effect : e.eventType ∈ cause.eventType.effects) (producer : e.producer = e.eventType.producer)
      (refunded : e.eventType = .orderCancelled → Announced earlier .paymentRefunded e.aggregateId)

structure Protocol (w : World) : Prop where
  tracing : Tracing w
  keyed : w.db.WellKeyed
  sagas : ∀ s ∈ w.db.sagaInstances.rows, s.Evidenced w.journal
  keys : ∀ m acked e, .sent m acked ∈ w.journal → m.value = .event e → m.key = e.aggregateId
  events : ∀ newer m acked earlier e, w.journal = newer ++ .sent m acked :: earlier → m.value = .event e →
    Grounded earlier e

def protocol : Regime World where
  Inv := Protocol
  Grows := Evolves
  refl := Evolves.refl
  trans := Evolves.trans

/-- A saga that the orchestrator may save. -/
structure Savable (s : SagaRow) (journal : List Entry) : Prop where
  keyed : s.Keyed
  evidenced : s.Evidenced journal

/-- What a call has to show. -/
def Call.Permitted (w : World) : Call → Prop
  | .send m => m.Traceable w ∧ ∀ e, m.value = .event e → m.key = e.aggregateId ∧ Grounded w.journal e
  | .saveSagaInstance s => Savable s w.journal
  | .compensationBarrier s action _ => Savable s w.journal ∧
    ∀ t, reported t = some action → Announced w.journal t s.aggregateId
  | _ => True

section
variable {w : World}

theorem SagaRow.Evidenced.later {s : SagaRow} {journal journal' : List Entry} (h : s.Evidenced journal)
    (grows : journal <:+ journal') : s.Evidenced journal' where
  entered t entry := (h.entered t entry).later grows
  pending ended :=
    have ⟨t, announced, gaveUp⟩ := h.pending ended
    ⟨t, announced.later grows, gaveUp⟩
  completed action done t reports := (h.completed action done t reports).later grows
  cancelled := h.cancelled

theorem SagaRow.Evidenced.same {s s' : SagaRow} {journal : List Entry} (h : s.Evidenced journal) (state : s'.state = s.state)
    (context : s'.context = s.context) (about : s'.aggregateId = s.aggregateId) : s'.Evidenced journal := by
  constructor
  · rw [state, about]
    exact h.entered
  · rw [state]
    intro ended
    obtain ⟨t, announced, gaveUp⟩ := h.pending ended
    refine ⟨t, about ▸ announced, ?_⟩
    rw [SagaRow.GaveUp, context]
    exact gaveUp
  · rw [SagaRow.completedList, context, about]
    exact h.completed
  · rw [SagaRow.completedList, state, context]
    exact h.cancelled

/-- A cancelled saga knows of the refund. -/
theorem SagaRow.Evidenced.refunded {s : SagaRow} {journal : List Entry} (h : s.Evidenced journal)
    (cancelled : s.state = .cancelled) : Announced journal .paymentRefunded s.aggregateId := by
  obtain ⟨t, -, refund, -⟩ := h.pending (.inr cancelled)
  exact h.completed _ (h.cancelled cancelled _ refund) .paymentRefunded rfl

theorem Savable.later {s : SagaRow} {journal journal' : List Entry} (h : Savable s journal) (grows : journal <:+ journal') :
    Savable s journal' := ⟨h.keyed, h.evidenced.later grows⟩

/-- Every published event has a known name. -/
theorem Protocol.named (inv : Protocol w) {e : EventEnvelope} (published : PublishedIn w.journal e) :
    EventType.ofName e.eventType.name = e.eventType ∧ e.eventType.name ≠ "" := by
  obtain ⟨m, acked, sent, value⟩ := published
  obtain ⟨newer, earlier, journal⟩ := List.append_of_mem sent
  cases inv.events newer m acked earlier e journal value with
  | created eventType =>
    rw [eventType]
    exact ⟨rfl, by decide⟩
  | caused cause published causes effect producer refunded => exact EventType.known_effect effect

theorem Protocol.saveSaga (inv : Protocol w) {s : SagaRow} (savable : Savable s w.journal) : Protocol (w.saveSaga s) := by
  have grows : w.journal <:+ (w.saveSaga s).journal := List.suffix_cons _ _
  refine ⟨⟨inv.tracing.rows, ?_⟩, wellKeyed_save inv.keyed savable.keyed, ?_, ?_, ?_⟩
  · intro newer m acked earlier e journal value
    rcases split_cons journal with ⟨newest, -⟩ | ⟨newer', hold⟩
    · cases newest
    · exact inv.tracing.events newer' m acked earlier e hold value
  · intro row hrow
    rcases Table.of_mem_upsert hrow with rfl | hrow | ⟨old, hold, hid, rfl⟩
    · exact (savable.evidenced.later grows).same rfl rfl rfl
    · exact (inv.sagas row hrow).later grows
    · have about : old.aggregateId = s.aggregateId :=
        sagaIdOf_inj.mp ((inv.keyed old hold).symm.trans (hid.trans savable.keyed))
      exact (savable.evidenced.later grows).same rfl rfl about
  · intro m acked e sent value
    rcases List.mem_cons.mp sent with newest | sent
    · cases newest
    · exact inv.keys m acked e sent value
  · intro newer m acked earlier e journal value
    rcases split_cons journal with ⟨newest, -⟩ | ⟨newer', hold⟩
    · cases newest
    · exact inv.events newer' m acked earlier e hold value

/-- The row that a barrier saves, and its notice. -/
theorem Protocol.barrier (inv : Protocol w) {s : SagaRow} (savable : Savable s w.journal) {action correlationId : String}
    (reports : ∀ t, reported t = some action → Announced w.journal t s.aggregateId) {saved : Option SagaRow}
    {notice : Option CancelNotice} (h : executeBarrierUpdate s action correlationId w.db = (saved, notice)) :
    (∀ row, saved = some row → Savable row w.journal) ∧
    (notice ≠ none → Announced w.journal .paymentRefunded s.aggregateId) := by
  obtain ⟨current, hcurrent, savable, about⟩ : ∃ current, (w.db.getSagaByAggregateId s.aggregateId).getD s = current ∧
      Savable current w.journal ∧ current.aggregateId = s.aggregateId := by
    cases found : w.db.getSagaByAggregateId s.aggregateId with
    | none => exact ⟨s, rfl, savable, rfl⟩
    | some t =>
      have stored := List.mem_of_find?_eq_some found
      exact ⟨t, rfl, ⟨inv.keyed t stored, inv.sagas t stored⟩, (getSaga_eq_some inv.keyed found).1⟩
  -- what the saga knows of, or is being reported
  have done : ∀ a ∈ withCompleted current.context action, ∀ t, reported t = some a →
      Announced w.journal t s.aggregateId := by
    intro a ha t ht
    rcases mem_withCompleted.mp ha with known | rfl
    · exact about ▸ savable.evidenced.completed a known t ht
    · exact reports t ht
  simp only [executeBarrierUpdate, hcurrent] at h
  split at h
  · rename_i compensating
    cases h
    obtain ⟨t, announced, gaveUp⟩ := savable.evidenced.pending (.inl compensating)
    have all : allCompensationsCompleted current.context action = true →
        ∀ a ∈ pendingCompensations current.context, a ∈ withCompleted current.context action :=
      fun all a ha => by simpa using List.all_eq_true.mp all a ha
    constructor
    · rintro row ⟨⟩
      refine ⟨barrierRow_keyed (about ▸ savable.keyed) action correlationId, ?_, ?_, done, fun cancelled => ?_⟩
      · intro t' entry
        by_cases complete : allCompensationsCompleted current.context action = true <;>
        · simp only [barrierRow, complete, if_true, Bool.false_eq_true, if_false] at entry
          cases entry
      · exact fun _ => ⟨t, about ▸ announced, gaveUp⟩
      · by_cases complete : allCompensationsCompleted current.context action = true
        · exact all complete
        · simp [barrierRow, complete] at cancelled
    · intro noticed
      by_cases complete : allCompensationsCompleted current.context action = true
      · exact done _ (all complete _ gaveUp.1) .paymentRefunded rfl
      · exact absurd (if_neg complete) noticed
  · cases h
    exact ⟨fun _ none => (by cases none), fun noticed => absurd rfl noticed⟩

/-- A barrier that answers with a notice found the refund done. -/
theorem Protocol.notified (inv : Protocol w) {s : SagaRow} (savable : Savable s w.journal) {action correlationId : String}
    (reports : ∀ t, reported t = some action → Announced w.journal t s.aggregateId) {o : Outcome JsError}
    {notice : CancelNotice}
    (answered : ((platform .none).exec (.compensationBarrier s action correlationId) o w).1 = .ok (some notice)) :
    Announced w.journal .paymentRefunded s.aggregateId := by
  rw [platform_exec_value] at answered
  cases o with
  | rejected err | unacked err => cases answered
  | ok =>
    simp only at answered
    split at answered
    · have answered := Except.ok.inj answered
      rcases h : executeBarrierUpdate s action correlationId w.db with ⟨_ | row, told⟩ <;>
      · simp only [carryOut, h] at answered
        exact (inv.barrier savable reports h).2 fun none => by rw [none] at answered; cases answered
    · cases answered

/-- A call that leaves sagas and journal alone. -/
theorem Protocol.unchanged (inv : Protocol w) {c : Call} {o : Outcome JsError} (traceable : ∀ m, c = .send m → m.Traceable w)
    (sagas : ((platform .none).exec c o w).2.db.sagaInstances = w.db.sagaInstances)
    (journal : ((platform .none).exec c o w).2.journal = w.journal) : Protocol ((platform .none).exec c o w).2 := by
  refine ⟨tracing_exec inv.tracing traceable, ?_, ?_, ?_, ?_⟩
  · intro s hs
    rw [sagas] at hs
    exact inv.keyed s hs
  · intro s hs
    rw [sagas] at hs
    exact journal ▸ inv.sagas s hs
  · rw [journal]
    exact inv.keys
  · rw [journal]
    exact inv.events

theorem Protocol.sent (inv : Protocol w) {m : Message} {acked : Bool} (tracing : Tracing (w.take m acked))
    (grounded : ∀ e, m.value = .event e → m.key = e.aggregateId ∧ Grounded w.journal e) : Protocol (w.take m acked) := by
  refine ⟨tracing, inv.keyed, fun s hs => (inv.sagas s hs).later (List.suffix_cons _ _), ?_, ?_⟩
  · intro m' acked' e sent value
    rcases List.mem_cons.mp sent with newest | sent
    · cases newest
      exact (grounded e value).1
    · exact inv.keys m' acked' e sent value
  · intro newer m' acked' earlier e journal value
    rcases split_cons journal with ⟨newest, rfl⟩ | ⟨newer', hold⟩
    · cases newest
      exact (grounded e value).2
    · exact inv.events newer' m' acked' earlier e hold value

/-- A permitted call keeps the protocol. -/
theorem protocol_exec {c : Call} {o : Outcome JsError} (inv : Protocol w) (permitted : c.Permitted w) :
    Protocol ((platform .none).exec c o w).2 := by
  have traceable : ∀ m, c = .send m → m.Traceable w := by
    rintro m rfl
    exact permitted.1
  have traced := tracing_exec (o := o) inv.tracing traceable
  rw [platform_exec_state] at traced
  cases c with
  | send m =>
    rw [platform_exec_state]
    split
    · rename_i acted
      rw [if_pos acted] at traced
      exact inv.sent traced permitted.2
    · exact inv
  | saveSagaInstance s =>
    rw [platform_exec_state]
    split
    · exact inv.saveSaga permitted
    · exact inv
  | compensationBarrier s action correlationId =>
    rw [platform_exec_state]
    split
    · rcases h : executeBarrierUpdate s action correlationId w.db with ⟨_ | row, notice⟩
      · simp only [carryOut, h]
        exact inv
      · simp only [carryOut, h]
        exact inv.saveSaga ((inv.barrier permitted.1 permitted.2 h).1 row rfl)
    · exact inv
  | persistDeadLetter dlq marksFailed outboxId =>
    apply inv.unchanged traceable <;>
    · rw [platform_exec_state]
      split
      · cases marksFailed <;> rfl
      · rfl
  | _ =>
    apply inv.unchanged traceable <;>
    · rw [platform_exec_state]
      split <;> rfl

theorem keeps_protocol {c : Call} (permitted : ∀ w', Evolves w w' → Protocol w' → c.Permitted w') :
    Effects.Keeps (platform .none) protocol c w :=
  fun w' grows inv o => ⟨exec_evolves c o w', protocol_exec inv (permitted w' grows inv)⟩

/-- The calls that send no event and save no saga. -/
def Call.isPlain : Call → Bool
  | .send ⟨_, _, .event _⟩ | .saveSagaInstance _ | .compensationBarrier _ _ _ => false
  | _ => true

theorem plain_keeps {c : Call} (plain : c.isPlain = true) : Effects.Keeps (platform .none) protocol c w := by
  apply keeps_protocol
  intro w' _ _
  cases c with
  | send m =>
    obtain ⟨topic, key, content⟩ := m
    have silent : ∀ e, content ≠ .event e := by
      rintro e rfl
      cases plain
    exact ⟨fun e value => absurd value (silent e), fun e value => absurd value (silent e)⟩
  | saveSagaInstance | compensationBarrier => cases plain
  | _ => trivial

/-! ## Answering an event -/

/-- The event at hand is of the published one's type. -/
structure Received (e : EventEnvelope) (w : World) : Prop where
  named : e.Named
  published : ∃ p, PublishedIn w.journal p ∧ p.eventId = e.eventId ∧ p.aggregateId = e.aggregateId ∧
    p.correlationId = e.correlationId ∧ p.eventType = e.eventType

theorem Received.atHand {e : EventEnvelope} (h : Received e w) : AtHand e w := by
  obtain ⟨named, p, published, eventId, aggregateId, correlationId, -⟩ := h
  exact ⟨named, p, published, eventId, aggregateId, correlationId⟩

theorem Received.evolves {e : EventEnvelope} {w' : World} (h : Received e w) (grows : Evolves w w') : Received e w' := by
  obtain ⟨named, p, ⟨m, acked, sent, value⟩, same⟩ := h
  exact ⟨named, p, ⟨m, acked, grows.journal.subset sent, value⟩, same⟩

theorem Received.announced {e : EventEnvelope} (h : Received e w) : Announced w.journal e.eventType e.aggregateId := by
  obtain ⟨-, p, published, -, order, -, type⟩ := h
  exact ⟨p, published, type, order⟩

theorem reported_of_cancelled {t : EventType} (h : .orderCancelled ∈ t.effects) : reported t ≠ none := by
  revert h
  cases t
  case other name => exact fun h => nomatch h
  all_goals decide

/-- A compensation is reported by events of one type. -/
theorem reported_inj {t t' : EventType} {action : String} (h : reported t = some action) (h' : reported t' = some action) :
    t = t' := by
  cases t <;> cases h <;> cases t' <;> first | rfl | exact absurd h' (by decide) | cases h'

theorem reply_keeps {m : Message} {e : EventEnvelope} (handled : Received e w) (replies : m.Replies e)
    (refunded : reported e.eventType = none ∨ Announced w.journal .paymentRefunded e.aggregateId) :
    Effects.Keeps (platform .none) protocol (.send m) w := by
  apply keeps_protocol
  intro w' grows inv
  have handled := handled.evolves grows
  refine ⟨replies.answers.traceable handled.atHand, fun e' value => ?_⟩
  obtain ⟨-, aggregateId, correlationId, causationId⟩ := replies.answers e' value
  obtain ⟨-, p, published, sameId, sameOrder, sameTrace, sameType⟩ := handled
  have effect := replies.effect e' value
  refine ⟨replies.key e' value, .caused p published ?_ (sameType ▸ effect) (replies.producer e' value) ?_⟩
  · exact ⟨sameOrder.trans aggregateId.symm, sameTrace.trans correlationId.symm, causationId.trans sameId.symm⟩
  · intro cancelled
    rcases refunded with unreported | refunded
    · rw [cancelled] at effect
      exact absurd unreported (reported_of_cancelled effect)
    · exact aggregateId.symm ▸ refunded.later grows.journal

end

/-! ## The components -/

theorem read_stored {aggregateId : String} {o : Outcome JsError} {w : World} {saga : Option SagaRow}
    (read : ((platform .none).exec (.getSagaByAggregateId aggregateId) o w).1 = .ok saga) : saga = stored aggregateId w := by
  rw [platform_exec_value] at read
  cases o with
  | rejected err | unacked err => cases read
  | ok =>
    simp only at read
    split at read
    · exact (Except.ok.inj read).symm
    · cases read

theorem stored_about {orderId : String} {w : World} {s : SagaRow} (found : stored orderId w = some s) :
    s.aggregateId = orderId := by
  simpa using List.find?_some found

namespace SagaOrchestrator

/-- What a transition saves is known of the compensations before, or nothing is. -/
theorem react_completed {amb : Ambient} {e : EventEnvelope} {saga : Option SagaRow} {row : SagaRow}
    {emissions : List (Except JsError Message)} (h : react amb e saga = .ok (.advance row emissions)) :
    row.completedList = [] ∨ ∃ s, saga = some s ∧ row.completedList = s.completedList := by
  obtain ⟨reaction, switched, h⟩ := react_switched h
  cases switched with
  | orderCreated saga type =>
    unfold onOrderCreated at h
    split at h
    · cases h
    · cases h
      exact .inl rfl
  | paymentAuthorized s type state | inventoryReserved s type state | fraudApproved s type state
  | shipmentCreated s type state =>
    cases h
    exact .inr ⟨s, rfl, rfl⟩
  | paymentRejected s type state =>
    obtain ⟨reason, -, h⟩ := bind_returns h
    cases h
    exact .inr ⟨s, rfl, rfl⟩
  | inventoryReservationFailed s type state | fraudRejected s type state | shipmentFailed s type state =>
    obtain ⟨reason, -, h⟩ := bind_returns h
    cases h
    exact .inl rfl

theorem not_cancelled_of_transition {t : EventType} {state : Option SagaState} {target : SagaState} {types : List EventType}
    (h : transition t state = some (target, types)) : target ≠ .cancelled := by
  unfold transition at h
  split at h <;> cases h
  all_goals decide

theorem entry_of_transition {t : EventType} {state : Option SagaState} {target : SagaState} {types : List EventType}
    (h : transition t state = some (target, types)) : ∀ t', target.entry = some t' → t' = t := by
  unfold transition at h
  split at h <;> cases h
  all_goals
    rintro t' entry
    cases entry
  all_goals rfl

/-- A transition to compensation gives up because of the event. -/
theorem react_gaveUp {amb : Ambient} {e : EventEnvelope} {saga : Option SagaRow} {row : SagaRow}
    {emissions : List (Except JsError Message)} (h : react amb e saga = .ok (.advance row emissions))
    (compensating : row.state = .compensating) : row.GaveUp e.eventType := by
  obtain ⟨reaction, switched, h⟩ := react_switched h
  cases switched with
  | orderCreated saga type =>
    unfold onOrderCreated at h
    split at h
    · cases h
    · cases h
      cases compensating
  | paymentAuthorized s type state | inventoryReserved s type state | fraudApproved s type state
  | shipmentCreated s type state =>
    cases h
    cases compensating
  | paymentRejected s type state =>
    obtain ⟨reason, -, h⟩ := bind_returns h
    cases h
    cases compensating
  | inventoryReservationFailed s type state =>
    obtain ⟨reason, -, h⟩ := bind_returns h
    cases h
    exact ⟨List.mem_cons_self, .inl type⟩
  | fraudRejected s type state =>
    obtain ⟨reason, -, h⟩ := bind_returns h
    cases h
    exact ⟨List.mem_cons_of_mem _ List.mem_cons_self, .inr ⟨.inl type, List.mem_cons_self⟩⟩
  | shipmentFailed s type state =>
    obtain ⟨reason, -, h⟩ := bind_returns h
    cases h
    exact ⟨List.mem_cons_of_mem _ List.mem_cons_self, .inr ⟨.inr type, List.mem_cons_self⟩⟩

theorem react_savable {amb : Ambient} {e : EventEnvelope} {saga : Option SagaRow} {row : SagaRow}
    {emissions : List (Except JsError Message)} (h : react amb e saga = .ok (.advance row emissions)) {journal : List Entry}
    (announced : Announced journal e.eventType e.aggregateId)
    (own : ∀ s, saga = some s → Savable s journal ∧ s.aggregateId = e.aggregateId) : Savable row journal := by
  obtain ⟨target, types, moves, advances⟩ := transition_of_react h
  have about := advances.aggregateId
  have uncancelled : row.state ≠ .cancelled := fun cancelled =>
    not_cancelled_of_transition moves (advances.state.symm.trans cancelled)
  refine ⟨advances.keyed fun s hs => ?_, ?_, ?_, ?_, fun cancelled => absurd cancelled uncancelled⟩
  · obtain ⟨savable, order⟩ := own s hs
    exact order ▸ savable.keyed
  · intro t entry
    rw [entry_of_transition moves t (advances.state ▸ entry), about]
    exact announced
  · intro ended
    exact ⟨e.eventType, about ▸ announced, react_gaveUp h (ended.resolve_right uncancelled)⟩
  · intro action completed t reports
    rcases react_completed h with none | ⟨s, hs, same⟩
    · rw [none] at completed
      cases completed
    · obtain ⟨savable, order⟩ := own s hs
      rw [about, ← order]
      exact savable.evidenced.completed action (same ▸ completed) t reports

theorem sendAll_protocol {e : EventEnvelope} {w : World} (handled : Received e w) (unreported : reported e.eventType = none)
    {emissions : List (Except JsError Message)} (replies : ∀ m, .ok m ∈ emissions → m.Replies e) :
    Steady (platform .none) protocol (sendAll emissions) w := by
  induction emissions with
  | nil => exact .pure () w
  | cons emission emissions ih =>
    cases emission with
    | error err => exact .throw err w
    | ok m =>
      apply Steady.bind (.await (reply_keeps handled (replies m List.mem_cons_self) (.inl unreported)))
      intro _
      exact ih fun m' hm' => replies m' (List.mem_cons_of_mem _ hm')

theorem processEvent_protocol {amb : Ambient} {e : EventEnvelope} {w : World} (handled : Received e w) :
    Steady (platform .none) protocol (processEvent amb e) w := by
  apply Steady.await_bind (plain_keeps rfl)
  intro v o saga grows inv read
  have evolves := exec_evolves (.getSagaByAggregateId e.aggregateId) o v
  have handled := (handled.evolves grows).evolves evolves
  have own : ∀ s, saga = some s → Savable s v.journal ∧ s.aggregateId = e.aggregateId := by
    intro s hs
    have found : stored e.aggregateId v = some s := (read_stored read).symm.trans hs
    have mem := List.mem_of_find?_eq_some found
    exact ⟨⟨inv.keyed s mem, inv.sagas s mem⟩, (getSaga_eq_some inv.keyed found).1⟩
  have own := fun s hs => And.imp_left (Savable.later · evolves.journal) (own s hs)
  generalize ((platform .none).exec (.getSagaByAggregateId e.aggregateId) o v).2 = u at handled own
  cases hreact : react amb e saga with
  | error err => exact .throw err u
  | ok reaction =>
    cases reaction with
    | ignore => exact .pure () u
    | advance row emissions =>
      obtain ⟨target, types, moves, -⟩ := transition_of_react hreact
      obtain ⟨-, unreported, -⟩ := transition_target moves
      have saves : Effects.Keeps (platform .none) protocol (.saveSagaInstance row) u :=
        keeps_protocol fun u' grows _ => (react_savable hreact handled.announced own).later grows.journal
      apply Steady.bind (.await saves)
      intro _
      exact sendAll_protocol handled unreported (react_replies hreact)
    | compensate s action =>
      obtain ⟨hs, -, reports⟩ := report_of_react hreact
      obtain ⟨savable, about⟩ := own s hs
      have told : ∀ t, reported t = some action → Announced u.journal t s.aggregateId := by
        intro t ht
        rw [reported_inj ht reports, about]
        exact handled.announced
      apply Steady.await_bind
      · apply keeps_protocol
        exact fun u' grows _ => ⟨savable.later grows.journal, fun t ht => (told t ht).later grows.journal⟩
      · intro v' o' notice grows' inv' answered
        have evolves := exec_evolves (.compensationBarrier s action e.correlationId) o' v'
        cases notice with
        | none => exact .pure () _
        | some notice =>
          have done := inv'.notified (savable.later grows'.journal) (fun t ht => (told t ht).later grows'.journal) answered
          apply Steady.await
          rw [about]
          apply reply_keeps ((handled.evolves grows').evolves evolves) (orderCancelled_replies reports notice)
          exact .inr (about ▸ done.later evolves.journal)

end SagaOrchestrator

theorem Service.processEvent_protocol {s : Service}
    (service : s ∈ [paymentService, inventoryService, fraudService, shippingService, notificationService])
    {amb : Ambient} {e : EventEnvelope} {w : World} (handled : Received e w) :
    Steady (platform .none) protocol (s.processEvent amb e) w := by
  unfold Service.processEvent
  cases answer : s.answer amb e with
  | error err => exact .throw err w
  | ok answered =>
    cases answered with
    | none => exact .pure () w
    | some m =>
      obtain ⟨⟨replies, -⟩, request⟩ := services_reply service answer
      exact .await (reply_keeps handled replies (.inl (serviceRequests_effects _ request).1))

theorem Component.processEvent_protocol {component : Component} {c : Consumer} (hc : component.consumer = some c)
    {e : EventEnvelope} {w : World} (handled : Received e w) (attempt : Nat) (amb : Ambient) :
    Steady (platform .none) protocol (c.processEvent attempt amb e) w := by
  cases component with
  | outboxRelay relay => cases hc
  | saga =>
    cases hc
    exact SagaOrchestrator.processEvent_protocol handled
  | payment | inventory | fraud | shipping | notification =>
    cases hc
    exact Service.processEvent_protocol (by simp) handled

theorem handleMessage_protocol {component : Component} {c : Consumer} (hc : component.consumer = some c)
    {env : Surroundings} {message : EachMessagePayload} {published : EventEnvelope} {w : World} (inv : Protocol w)
    (delivers : Delivers w message published) : Steady (platform .none) protocol (c.handleMessage env message) w := by
  obtain ⟨m, acked, raw, sent, topic, value, text, parsed⟩ := delivers
  have taken : PublishedIn w.journal published := ⟨m, acked, sent, value⟩
  obtain ⟨newer, earlier, journal⟩ := List.append_of_mem sent
  obtain ⟨named, -⟩ := inv.tracing.events newer m acked earlier published journal value
  simp only [Consumer.handleMessage, text, Option.getD_some]
  cases read : parseEnvelope env.uuid env.now raw with
  | none => exact publishDeadLetter_steady (plain_keeps rfl) (plain_keeps rfl) (plain_keeps rfl)
  | some e =>
    obtain ⟨eventId, aggregateId, correlationId⟩ :=
      parsed_identifiers parsed read named.eventId named.aggregateId named.correlationId
    obtain ⟨known, given⟩ := inv.named taken
    have eventType := parsed_eventType parsed read known given
    have handled : Received e w := by
      constructor
      · exact ⟨eventId ▸ named.eventId, aggregateId ▸ named.aggregateId, correlationId ▸ named.correlationId⟩
      · exact ⟨published, taken, eventId.symm, aggregateId.symm, correlationId.symm, eventType.symm⟩
    apply handleEnvelope_steady
    · exact
        { isEventProcessed := plain_keeps rfl
          markEventProcessed := plain_keeps rfl
          persistDeadLetter := fun _ _ _ _ => plain_keeps rfl
          send := fun _ _ _ _ => plain_keeps rfl
          markDLQOutboxPublished := fun _ => plain_keeps rfl }
    · exact fun attempt => Component.processEvent_protocol hc handled attempt (env.attempt attempt)

namespace OutboxRelay

variable (relay : OutboxRelay)

/-- A relay publishes the creations of orders. -/
theorem message_keeps {event : OutboxEventRow} {w : World} (known : Known event w) :
    Effects.Keeps (platform .none) protocol (.send (relay.message event)) w := by
  apply keeps_protocol
  intro w' grows inv
  have known := known.evolves grows
  refine ⟨relay.message_traceable known inv.tracing, ?_⟩
  · rintro e value
    cases value
    obtain ⟨row, hrow, -, hbody⟩ := known
    obtain ⟨-, -, -, eventType⟩ := inv.tracing.rows row hrow
    exact ⟨rfl, .created ((congrArg OutboxBody.eventType hbody).symm.trans eventType)⟩

theorem publishEvent_protocol {event : OutboxEventRow} {w : World} (known : Known event w) :
    Steady (platform .none) protocol (relay.publishEvent event) w := by
  apply Steady.bind
  · apply Steady.settle
    apply Steady.bind (.await (relay.message_keeps known))
    intro _
    exact .await (plain_keeps rfl)
  · rintro (err | marked)
    · apply Steady.bind (.await (plain_keeps rfl))
      intro _
      exact .pure () w
    · exact .pure () w

theorem publishAll_protocol {events : List OutboxEventRow} {n : Nat} {w : World} (known : ∀ event ∈ events, Known event w) :
    Steady (platform .none) protocol (relay.publishAll events n) w := by
  induction events generalizing n with
  | nil => exact .pure n w
  | cons event events ih =>
    obtain ⟨hevent, hevents⟩ := List.forall_mem_cons.mp known
    apply Steady.bind (relay.publishEvent_protocol hevent)
    intro _
    exact ih hevents

theorem processBatch_protocol (w : World) : Steady (platform .none) protocol relay.processBatch w := by
  apply Steady.await_bind (plain_keeps rfl)
  intro v o rows _ _ claimed
  exact relay.publishAll_protocol (claimed_known claimed)

end OutboxRelay

theorem Component.perform_protocol (component : Component) {work : Work} {w : World} (inv : Protocol w)
    (startable : ∀ env message, work = .deliver env message → ∃ e, Delivers w message e) :
    Steady (platform .none) protocol (component.perform work) w := by
  cases work with
  | sweep =>
    cases component with
    | outboxRelay relay =>
      apply Steady.bind (relay.processBatch_protocol w)
      intro _
      exact .pure () w
    | saga | payment | inventory | fraud | shipping | notification => exact .pure () w
  | deliver env message =>
    obtain ⟨e, delivers⟩ := startable env message rfl
    cases hc : component.consumer with
    | none =>
      simp only [Component.perform, hc]
      exact .pure () w
    | some c =>
      simp only [Component.perform, hc]
      exact handleMessage_protocol hc inv delivers

/-! ## Every run -/

theorem outside_protocol {w w' : World} (inv : Protocol w) (outside : Outside w w') : Evolves w w' ∧ Protocol w' := by
  obtain ⟨evolves, tracing⟩ := outside_tracing inv.tracing outside
  have same : w'.journal = w.journal ∧ w'.db.sagaInstances = w.db.sagaInstances := by
    cases outside with
    | time clock locked => exact ⟨rfl, rfl⟩
    | createOrder c f =>
      rcases c.createOrder_run w.clock f w.db with ⟨-, -, run⟩ | ⟨err, -, -, run⟩ | ⟨-, err, run⟩ <;>
      · rw [run]
        exact ⟨rfl, rfl⟩
  obtain ⟨journal, sagas⟩ := same
  refine ⟨evolves, tracing, ?_, ?_, ?_, ?_⟩
  · rw [Db.WellKeyed, sagas]
    exact inv.keyed
  · rw [sagas, journal]
    exact inv.sagas
  · rw [journal]
    exact inv.keys
  · rw [journal]
    exact inv.events

/-- Nothing is published, no order waits, and no saga has begun. -/
structure Unbegun (w : World) : Prop where
  unpublished : Unpublished w
  sagas : w.db.sagaInstances.rows = []

theorem Unbegun.protocol {w : World} (h : Unbegun w) : Protocol w := by
  obtain ⟨⟨journal, rows⟩, sagas⟩ := h
  have unsplit : ∀ newer m acked earlier, w.journal ≠ newer ++ .sent m acked :: earlier := by
    intro newer m acked earlier split
    rw [journal] at split
    cases newer <;> cases split
  refine ⟨⟨?_, ?_⟩, ?_, ?_, ?_, ?_⟩
  · intro row hrow
    rw [rows] at hrow
    cases hrow
  · exact fun newer m acked earlier e split _ => absurd split (unsplit newer m acked earlier)
  · intro s hs
    rw [sagas] at hs
    cases hs
  · intro s hs
    rw [sagas] at hs
    cases hs
  · intro m acked e sent
    rw [journal] at sent
    cases sent
  · exact fun newer m acked earlier e split _ => absurd split (unsplit newer m acked earlier)

section
variable {ι : Type} [DecidableEq ι] {components : ι → Component} {p : Pool JsError World Answer ι Work Unit}

theorem reachable_protocol (h : Reachable (closedSystem components Unbegun Outside).system p) : Protocol p.shared := by
  refine (closedSystem components Unbegun Outside).steady protocol (fun w begun => begun.protocol) ?_ ?_ h
  · intro w i work inv startable
    apply (components i).perform_protocol inv
    rintro env message rfl
    exact startable.2
  · exact fun w w' inv outside => outside_protocol inv outside

/-- The order has behind it what the type of the event says. -/
theorem Protocol.stages {w : World} (inv : Protocol w) {newer earlier : List Entry} {m : Message} {acked : Bool}
    {e : EventEnvelope} (journal : w.journal = newer ++ .sent m acked :: earlier) (value : m.value = .event e) :
    ∀ t ∈ e.eventType.stages, ∃ e', PublishedIn earlier e' ∧ e'.eventType = t ∧ e'.aggregateId = e.aggregateId ∧
      e'.correlationId = e.correlationId := by
  -- the causes of an event stand further back in the journal
  induction hn : earlier.length using Nat.strong_induction_on generalizing newer m acked earlier e with
  | _ n ih =>
    intro t ht
    cases inv.events newer m acked earlier e journal value with
    | created eventType =>
      rw [eventType] at ht
      cases ht
    | caused cause published causes effect producer refunded =>
      rcases EventType.stages_effect effect t ht with same | ht
      · exact ⟨cause, published, same.symm, causes.aggregateId, causes.correlationId⟩
      · obtain ⟨m', acked', sent, value'⟩ := published
        obtain ⟨newer', earlier', split⟩ := List.append_of_mem sent
        have journal' : w.journal = (newer ++ .sent m acked :: newer') ++ .sent m' acked' :: earlier' := by
          rw [journal, split, List.append_assoc, List.cons_append]
        have shorter : earlier'.length < n := by
          rw [← hn, split, List.length_append, List.length_cons]
          omega
        obtain ⟨e', ⟨m'', acked'', sent', value''⟩, type, aggregateId, correlationId⟩ := ih _ shorter journal' value' rfl t ht
        have further : .sent m'' acked'' ∈ earlier := by
          rw [split]
          exact List.mem_append_right _ (List.mem_cons_of_mem _ sent')
        exact ⟨e', ⟨m'', acked'', further, value''⟩, type, aggregateId.trans causes.aggregateId,
          correlationId.trans causes.correlationId⟩

end

/-- Whatever fails and however many instances run: every published event but the creation of an order is an
effect of an event of the order that was published before it, and the one service in charge of its type published
it. -/
theorem events_follow_protocol {ι : Type} [DecidableEq ι] (components : ι → Component) (p : Pool JsError World Answer ι Work Unit)
    (h : Reachable (closedSystem components Unbegun Outside).system p) (newer earlier : List Entry) (m : Message)
    (acked : Bool) (e : EventEnvelope) (published : p.shared.journal = newer ++ .sent m acked :: earlier)
    (event : m.value = .event e) :
    e.eventType = .orderCreated ∨
    ∃ cause, PublishedIn earlier cause ∧ cause.aggregateId = e.aggregateId ∧ cause.correlationId = e.correlationId ∧
      e.causationId = cause.eventId ∧ e.eventType ∈ cause.eventType.effects ∧ e.producer = e.eventType.producer := by
  cases (reachable_protocol h).events newer m acked earlier e published event with
  | created eventType => exact .inl eventType
  | caused cause before causes effect producer refunded =>
    exact .inr ⟨cause, before, causes.aggregateId, causes.correlationId, causes.causationId, effect, producer⟩

/-- No order skips a stage: before an event of it is published, each stage that its type comes after is. -/
theorem no_stage_skipped {ι : Type} [DecidableEq ι] (components : ι → Component) (p : Pool JsError World Answer ι Work Unit)
    (h : Reachable (closedSystem components Unbegun Outside).system p) (newer earlier : List Entry) (m : Message)
    (acked : Bool) (e : EventEnvelope) (published : p.shared.journal = newer ++ .sent m acked :: earlier)
    (event : m.value = .event e) (t : EventType) (stage : t ∈ e.eventType.stages) :
    ∃ e', PublishedIn earlier e' ∧ e'.eventType = t ∧ e'.aggregateId = e.aggregateId ∧
      e'.correlationId = e.correlationId :=
  (reachable_protocol h).stages published event t stage

/-- An order is cancelled only after its payment was refunded. -/
theorem cancelled_orders_refunded {ι : Type} [DecidableEq ι] (components : ι → Component)
    (p : Pool JsError World Answer ι Work Unit) (h : Reachable (closedSystem components Unbegun Outside).system p) :
    (∀ newer m acked earlier e, p.shared.journal = newer ++ .sent m acked :: earlier → m.value = .event e →
      e.eventType = .orderCancelled → Announced earlier .paymentRefunded e.aggregateId) ∧
    ∀ orderId s, stored orderId p.shared = some s → s.state = .cancelled →
      Announced p.shared.journal .paymentRefunded orderId := by
  have inv := reachable_protocol h
  constructor
  · intro newer m acked earlier e published event cancelled
    cases inv.events newer m acked earlier e published event with
    | created eventType =>
      rw [cancelled] at eventType
      cases eventType
    | caused cause before causes effect producer refunded => exact refunded cancelled
  · intro orderId s found cancelled
    have mem := List.mem_of_find?_eq_some found
    exact stored_about found ▸ (inv.sagas s mem).refunded cancelled

/-! ## Supervision -/

section
variable {ι : Type} (components : ι → Component)
  (allowed : ι → Worker JsError Answer Work Unit → Call → Outcome JsError → World → Prop)
  (leaves : ι → Worker JsError Answer Work Unit → Prop)

/-- The closed system with more to say about how calls end and who leaves. -/
def supervised : Machine JsError World Answer ι Work Unit :=
  { closedSystem components Unbegun Outside with allowed := allowed, leaves := leaves }

/-- Calls may succeed, and who is done may leave. -/
structure Obliging : Prop where
  allowed : ∀ i w c o s, Fitting c o s → allowed i w c o s
  leaves : ∀ i w, w.rest.Finished → leaves i w

variable {components allowed leaves}

theorem Obliging.runs (obliging : Obliging allowed leaves) :
    Runs (supervised components allowed leaves) components fun _ => True where
  semantics := rfl
  body _ _ := rfl
  sweeps _ _ := trivial
  delivers _ _ _ e _ _ topic delivers := ⟨topic, e, delivers⟩
  relays i w c o s _ fitting := obliging.allowed i w c o s fitting
  consumers i w c o s careful := obliging.allowed i w c o s careful.1
  leaves := obliging.leaves

variable [DecidableEq ι]

theorem supervised_reachable {p : Pool JsError World Answer ι Work Unit}
    (h : Reachable (supervised components allowed leaves).system p) :
    Reachable (closedSystem components Unbegun Outside).system p := by
  induction h with
  | start init => exact .start init
  | @next p q _ step ih =>
    refine ih.next ?_
    have step : PoolStep (supervised components allowed leaves) p q := step
    cases step with
    | start i job free startable => exact .start i job free startable
    | call i w c k o busy next hallowed => exact .call i w c k o busy next trivial
    | leave i w busy hleaves => exact .leave i w busy trivial
    | environment s moves => exact .environment s moves

end

section
variable {allowed : Fin 4 → Worker JsError Answer Work Unit → Call → Outcome JsError → World → Prop}
  {leaves : Fin 4 → Worker JsError Answer Work Unit → Prop} (obliging : Obliging allowed leaves)
include obliging

theorem announcedOrder_reachable : Reachable (supervised fourComponents allowed leaves).system ⟨announcedOrder, fun _ => none⟩ := by
  let M := supervised fourComponents allowed leaves
  have start : Reachable M.system ⟨World.empty, fun _ => none⟩ := .start ⟨⟨⟨rfl, rfl⟩, rfl⟩, fun _ => rfl⟩
  have ordered := start.next (.environment _ (.createOrder aliceCreates .allOk))
  exact ordered.steps (announced_steps obliging.runs)

theorem requestedOrder_reachable : Reachable (supervised fourComponents allowed leaves).system ⟨requestedOrder, fun _ => none⟩ :=
  (announcedOrder_reachable obliging).steps (handOn_getD obliging.runs fun _ _ => trivial)

theorem cancelledOrder_reachable : Reachable (supervised fourComponents allowed leaves).system ⟨cancelledOrder, fun _ => none⟩ :=
  (requestedOrder_reachable obliging).steps (handOn_getD obliging.runs fun _ _ => trivial)

end

/-- The closed system itself. -/
theorem obliging_closed {ι : Type} : Obliging (fun (_ : ι) _ _ _ _ => True) fun _ _ => True :=
  ⟨fun _ _ _ _ _ _ => trivial, fun _ _ _ => trivial⟩

theorem cancelledOrder_stored : (stored aliceCreates.orderId cancelledOrder).map SagaRow.state = some .cancelled := by
  decide +kernel

theorem events_follow_protocol_cancelled : ∃ e cause : EventEnvelope, PublishedIn cancelledOrder.journal e ∧
    e.eventType = .orderCancelled ∧ e.causationId = cause.eventId ∧ .orderCancelled ∈ cause.eventType.effects := by
  obtain ⟨newer, m, acked, earlier, e, journal, value, type, -⟩ := cancelledOrder_published
  rcases events_follow_protocol fourComponents _ (cancelledOrder_reachable obliging_closed) newer earlier m acked e journal value with
    created | ⟨cause, -, -, -, causationId, effect, -⟩
  · rw [type] at created
    cases created
  · exact ⟨e, cause, ⟨m, acked, by simp [journal], value⟩, type, causationId, type ▸ effect⟩

theorem no_stage_skipped_cancelled :
    ∃ e, PublishedIn cancelledOrder.journal e ∧ e.eventType = .inventoryReservationRequested := by
  obtain ⟨newer, m, acked, earlier, e, journal, value, type, -⟩ := cancelledOrder_published
  obtain ⟨e', ⟨m', acked', sent, value'⟩, type', -⟩ := no_stage_skipped fourComponents _ (cancelledOrder_reachable obliging_closed) newer earlier
    m acked e journal value .inventoryReservationRequested (by rw [type]; decide)
  exact ⟨e', ⟨m', acked', by simp [journal, sent], value'⟩, type'⟩

theorem cancelled_orders_refunded_cancelled : Announced cancelledOrder.journal .paymentRefunded aliceCreates.orderId := by
  obtain ⟨s, found, state⟩ := Option.map_eq_some_iff.mp cancelledOrder_stored
  exact (cancelled_orders_refunded fourComponents _ (cancelledOrder_reachable obliging_closed)).2 _ s found state

end Fulfillment
