import Fulfillment.Pipeline.OneOrchestrator

/-!
# What one orchestrator excludes

With a single instance of the orchestrator, no message of an order is published
twice, an order has one outcome, and no order is both completed and refunded.
-/

namespace Fulfillment

open Js Relational Effects SagaOrchestrator

/-- What a saga sent on its way to a state, and what it owes there. -/
def sentBy : Option SagaState → List EventType
  | some .paymentPending => [.paymentRequested]
  | some .inventoryPending => [.inventoryReservationRequested, .paymentRequested]
  | some .fraudPending => [.fraudCheckRequested, .inventoryReservationRequested, .paymentRequested]
  | some .shippingPending =>
    [.shipmentRequested, .fraudCheckRequested, .inventoryReservationRequested, .paymentRequested]
  | some .completed =>
    [.orderCompleted, .notificationRequested, .shipmentRequested, .fraudCheckRequested, .inventoryReservationRequested,
      .paymentRequested]
  | some .failed => [.orderFailed, .paymentRequested]
  | some .compensating =>
    [.inventoryReleased, .paymentRefundRequested, .shipmentRequested, .fraudCheckRequested,
      .inventoryReservationRequested, .paymentRequested]
  | some .cancelled =>
    [.orderCancelled, .inventoryReleased, .paymentRefundRequested, .shipmentRequested, .fraudCheckRequested,
      .inventoryReservationRequested, .paymentRequested]
  | _ => []

theorem sentBy_transition {t : EventType} {state : Option SagaState} {target : SagaState} {types : List EventType}
    (h : transition t state = some (target, types)) : (types ++ sentBy state).Sublist (sentBy (some target)) := by
  unfold transition at h
  split at h <;> cases h
  all_goals decide

theorem sentBy_nodup (state : Option SagaState) : (sentBy state).Nodup := by
  rcases state with _ | state
  · decide
  · cases state <;> decide

section
variable {orderId : String} {saga : Option SagaRow} {owed : List (Except JsError Message)} {log : List Logged}

/-- What was sent and what is owed is in the list of the state. -/
theorem SagaLog.sentBy (h : SagaLog orderId saga owed log) : ∃ types, List.Forall₂ (Owes orderId) owed types ∧
    ∀ t, timesLogged orderId t log + types.count t ≤ (Fulfillment.sentBy (saga.map SagaRow.state)).count t := by
  induction h with
  | start => exact ⟨[], .nil, fun t => Nat.zero_le _⟩
  | advance amb e row emissions before about reacts ih =>
    obtain ⟨types, -, bound⟩ := ih
    obtain ⟨target, types', moves, advances⟩ := transition_of_react reacts
    obtain rfl := advances.state
    refine ⟨types', about ▸ advances.owes, fun t => ?_⟩
    have added := (sentBy_transition moves).count_le t
    rw [List.count_append] at added
    have old := bound t
    rw [timesLogged_saved]
    simp only [Option.map_some, SagaRow.mergedInto] at added ⊢
    omega
  | @report s owed log amb e action before about compensating reports ih =>
    obtain ⟨types, -, bound⟩ := ih
    rw [Option.map_some, compensating] at bound
    have sent : ∀ t, timesLogged orderId t log ≤ (Fulfillment.sentBy (some .compensating)).count t :=
      fun t => (Nat.le_add_right _ _).trans (bound t)
    cases all : allCompensationsCompleted s.context action with
    | false =>
      have state : (s.afterReport orderId action e.correlationId).state = .compensating := by
        simp [SagaRow.afterReport, SagaRow.mergedInto, barrierRow, all]
      refine ⟨[], by simp [cancelNotice, all], fun t => ?_⟩
      rw [timesLogged_saved, Option.map_some, state]
      exact sent t
    | true =>
      have state : (s.afterReport orderId action e.correlationId).state = .cancelled := by
        simp [SagaRow.afterReport, SagaRow.mergedInto, barrierRow, all]
      refine ⟨[.orderCancelled], ?_, fun t => ?_⟩
      · simp only [cancelNotice, all, if_true, Option.toList_some, List.map_cons, List.map_nil]
        exact .cons (owes_ok ⟨rfl, _, rfl, rfl, rfl⟩) .nil
      · have old := sent t
        have more : (Fulfillment.sentBy (some .cancelled)).count t = [EventType.orderCancelled].count t +
            (Fulfillment.sentBy (some .compensating)).count t := by
          rw [← List.count_append]
          rfl
        rw [timesLogged_saved, Option.map_some, state, more]
        omega
  | emit e m acked before ih =>
    obtain ⟨types, owes, bound⟩ := ih
    cases owes with
    | @cons _ t _ types first rest =>
      refine ⟨types, rest, fun t' => ?_⟩
      have old := bound t'
      rw [List.count_cons] at old
      rw [timesLogged_sent (first m rfl)]
      simp only [beq_iff_eq] at old
      omega
  | @deadLetter _ _ log e key p acked before ih =>
    obtain ⟨types, owes, bound⟩ := ih
    refine ⟨types, owes, fun t => ?_⟩
    have silent : ¬(⟨Topics.dlq, key, .deadLetter p⟩ : Message).Carries t orderId := by
      rintro ⟨-, e', value, -⟩
      cases value
    have same : timesLogged orderId t ((e, .sent ⟨Topics.dlq, key, .deadLetter p⟩ acked) :: log) = timesLogged orderId t log := by
      simp [timesLogged, silent]
    rw [same]
    exact bound t

end

/-! ## The journal of the whole system -/

/-- The orchestrator's events of the type are in its own history. -/
theorem Protocol.filtered {w : World} (inv : Protocol w) {t : EventType} (own : t.producer = SagaOrchestrator.consumerName)
    (later : t ≠ .orderCreated) (orderId : String) :
    timesEmitted orderId t (w.journal.filter (Entry.ofSaga orderId)) = timesEmitted orderId t w.journal := by
  rw [timesEmitted, timesEmitted, List.countP_filter]
  apply List.countP_congr
  intro entry hentry
  rw [Bool.and_eq_true, and_iff_left_iff_imp]
  intro emitted
  cases entry with
  | saved row => cases emitted
  | sent m acked =>
    obtain ⟨-, e, value, rfl, about⟩ : m.Carries t orderId := of_decide_eq_true emitted
    obtain ⟨newer, earlier, journal⟩ := List.append_of_mem hentry
    have producer : e.producer = SagaOrchestrator.consumerName := by
      cases inv.events newer m acked earlier e journal value with
      | created eventType => exact absurd eventType later
      | caused cause published causes effect producer refunded => exact producer.trans own
    simp [Entry.ofSaga, value, producer, about]

section
variable {ι : Type} [DecidableEq ι] {components : ι → Component}
  (one : ∀ i j, components i = .saga → components j = .saga → i = j) {p : Pool JsError World Answer ι Work Unit}
include one

/-- The history of an order in a run with one orchestrator. -/
theorem reachable_history (h : Reachable (closedSystem components Unbegun Outside).system p) (orderId : String) :
    ∃ owed log, SagaLog orderId (stored orderId p.shared) owed log ∧
      ∀ t, t.producer = SagaOrchestrator.consumerName → t ≠ .orderCreated →
        timesLogged orderId t log = timesEmitted orderId t p.shared.journal := by
  obtain ⟨owed, log, entries, history⟩ := (reachable_contracts one h).1.chronicled orderId
  refine ⟨owed, log, history, fun t own later => ?_⟩
  rw [timesLogged, entries]
  exact (reachable_protocol h).filtered own later orderId

theorem reachable_sentBy (h : Reachable (closedSystem components Unbegun Outside).system p) (orderId : String)
    (t : EventType) (own : t.producer = SagaOrchestrator.consumerName) (later : t ≠ .orderCreated) :
    timesEmitted orderId t p.shared.journal ≤ (sentBy ((stored orderId p.shared).map SagaRow.state)).count t := by
  obtain ⟨owed, log, history, logged⟩ := reachable_history one h orderId
  obtain ⟨types, -, bound⟩ := history.sentBy
  rw [← logged t own later]
  exact (Nat.le_add_right _ _).trans (bound t)

end

/-- However the calls of one orchestrator fail, and whatever the others do: it publishes an event of a type once at
most for an order. -/
theorem published_at_most_once {ι : Type} [DecidableEq ι] (components : ι → Component)
    (one : ∀ i j, components i = .saga → components j = .saga → i = j) (p : Pool JsError World Answer ι Work Unit)
    (h : Reachable (closedSystem components Unbegun Outside).system p) (orderId : String) (t : EventType)
    (own : t.producer = SagaOrchestrator.consumerName) (later : t ≠ .orderCreated) :
    timesEmitted orderId t p.shared.journal ≤ 1 := by
  have once := List.nodup_iff_count_le_one.mp (sentBy_nodup ((stored orderId p.shared).map SagaRow.state)) t
  exact (reachable_sentBy one h orderId t own later).trans once

theorem fourComponents_one (i j : Fin 4) (hi : fourComponents i = .saga) (hj : fourComponents j = .saga) : i = j := by
  have only : ∀ k, fourComponents k = .saga → k = 1 := by
    intro k hk
    match k with
    | 1 => rfl
    | 0 | 2 | 3 => cases hk
  exact (only i hi).trans (only j hj).symm

theorem published_at_most_once_cancelled :
    timesEmitted aliceCreates.orderId .orderCancelled cancelledOrder.journal ≤ 1 :=
  published_at_most_once fourComponents fourComponents_one _ (cancelledOrder_reachable obliging_closed) _ _ rfl nofun

/-! ## Outcomes -/

theorem sentBy_outcomes (state : Option SagaState) : (sentBy state).count .orderCompleted +
    (sentBy state).count .orderFailed + (sentBy state).count .orderCancelled ≤ 1 := by
  rcases state with _ | state
  · decide
  · cases state <;> decide

theorem sentBy_outcome {s : SagaState} {t : EventType} (outcome : s.outcome = some t) {state : Option SagaState}
    (sent : 0 < (sentBy state).count t) : state = some s := by
  have mem := List.count_pos_iff.mp sent
  rcases state with _ | state
  · cases mem
  · cases s <;> cases outcome <;> cases state <;> first | rfl | exact absurd mem (by decide)

/-- A saga that completed or failed asked for nothing back. -/
theorem sentBy_kept {state : Option SagaState} (ended : state = some .completed ∨ state = some .failed) :
    ∀ t ∈ [EventType.paymentRefundRequested, .inventoryReleased, .orderCancelled], (sentBy state).count t = 0 := by
  rcases ended with rfl | rfl <;> decide

theorem Protocol.emitted_of_announced {w : World} (inv : Protocol w) {t : EventType} {orderId : String}
    (h : Announced w.journal t orderId) : 0 < timesEmitted orderId t w.journal := by
  obtain ⟨e, ⟨m, acked, sent, value⟩, type, about⟩ := h
  rw [timesEmitted, List.countP_pos_iff]
  have key := inv.keys m acked e sent value
  exact ⟨_, sent, decide_eq_true ⟨key.trans about, e, value, type, about⟩⟩

/-- What an announced event has behind it was announced. -/
theorem Protocol.announced_stage {w : World} (inv : Protocol w) {t stage : EventType} {orderId : String}
    (h : Announced w.journal t orderId)
    (behind : stage ∈ t.stages) : Announced w.journal stage orderId := by
  obtain ⟨e, ⟨m, acked, sent, value⟩, rfl, about⟩ := h
  obtain ⟨newer, earlier, journal⟩ := List.append_of_mem sent
  obtain ⟨e', ⟨m', acked', sent', value'⟩, type', about', -⟩ := inv.stages journal value stage behind
  have further : .sent m' acked' ∈ w.journal := by
    rw [journal]
    exact List.mem_append_right _ (List.mem_cons_of_mem _ sent')
  exact ⟨e', ⟨m', acked', further, value'⟩, type', about'.trans about⟩

/-- An order has one outcome, that of its saga, and an order that is completed or failed gives nothing back: no
refund is asked for or made, and nothing is released. -/
theorem outcomes_exclude {ι : Type} [DecidableEq ι] (components : ι → Component)
    (one : ∀ i j, components i = .saga → components j = .saga → i = j) (p : Pool JsError World Answer ι Work Unit)
    (h : Reachable (closedSystem components Unbegun Outside).system p) (orderId : String) :
    (timesEmitted orderId .orderCompleted p.shared.journal + timesEmitted orderId .orderFailed p.shared.journal +
      timesEmitted orderId .orderCancelled p.shared.journal ≤ 1) ∧
    (∀ s t, SagaState.outcome s = some t → 0 < timesEmitted orderId t p.shared.journal →
      (stored orderId p.shared).map SagaRow.state = some s) ∧
    ((stored orderId p.shared).map SagaRow.state = some .completed ∨
        (stored orderId p.shared).map SagaRow.state = some .failed →
      ∀ t ∈ [.paymentRefundRequested, .inventoryReleased, .paymentRefunded, .orderCancelled],
        ¬Announced p.shared.journal t orderId) := by
  have inv := reachable_protocol h
  have sent := reachable_sentBy one h orderId
  refine ⟨?_, ?_, ?_⟩
  · have completed := sent .orderCompleted rfl nofun
    have failed := sent .orderFailed rfl nofun
    have cancelled := sent .orderCancelled rfl nofun
    have one_of := sentBy_outcomes ((stored orderId p.shared).map SagaRow.state)
    omega
  · intro s t outcome emitted
    have bound := sent t (by cases s <;> cases outcome <;> rfl) (by rintro rfl; cases s <;> cases outcome)
    exact sentBy_outcome outcome (emitted.trans_le bound)
  · intro ended
    have kept := sentBy_kept ended
    have unannounced : ∀ t ∈ [EventType.paymentRefundRequested, .inventoryReleased, .orderCancelled],
        ¬Announced p.shared.journal t orderId := by
      intro t ht announced
      have own : t.producer = SagaOrchestrator.consumerName ∧ t ≠ .orderCreated := by
        clear announced
        revert t
        decide
      have emitted := inv.emitted_of_announced announced
      have bound := sent t own.1 own.2
      rw [kept t ht] at bound
      omega
    intro t ht announced
    simp only [List.mem_cons, List.not_mem_nil, or_false] at ht
    rcases ht with rfl | rfl | rfl | rfl
    · exact unannounced _ (by decide) announced
    · exact unannounced _ (by decide) announced
    · exact unannounced .paymentRefundRequested (by decide) (inv.announced_stage announced (by decide))
    · exact unannounced _ (by decide) announced

/-- What was cancelled did not complete as well. -/
theorem outcomes_exclude_cancelled : timesEmitted aliceCreates.orderId .orderCompleted cancelledOrder.journal = 0 := by
  obtain ⟨-, outcome, -⟩ :=
    outcomes_exclude fourComponents fourComponents_one _ (cancelledOrder_reachable obliging_closed) aliceCreates.orderId
  by_contra emitted
  have completed := outcome .completed .orderCompleted rfl (Nat.pos_of_ne_zero emitted)
  rw [cancelledOrder_stored] at completed
  cases completed

/-- With one orchestrator no saga ever moves backwards, whatever else goes on meanwhile: the arrows of the state
diagram lead from each state to the later ones, and what a saga has recorded it keeps. -/
theorem sagas_move_forward {ι : Type} [DecidableEq ι] (components : ι → Component)
    (one : ∀ i j, components i = .saga → components j = .saga → i = j) (p q : Pool JsError World Answer ι Work Unit)
    (h : Reachable (closedSystem components Unbegun Outside).system p)
    (run : Relation.ReflTransGen (PoolStep (closedSystem components Unbegun Outside)) p q) (orderId : String) (s : SagaRow)
    (found : stored orderId p.shared = some s) :
    ∃ s', stored orderId q.shared = some s' ∧ Relation.ReflTransGen DocumentedStep s.state s'.state ∧ s.Progresses s' := by
  have forward : Reachable (closedSystem components Unbegun Outside).system q ∧ Forward p.shared q.shared := by
    induction run with
    | refl => exact ⟨h, .aside (.refl p.shared)⟩
    | tail _ step ih =>
      obtain ⟨reached, forward⟩ := ih
      exact ⟨reached.next step, forward.trans (step_forward one reached step)⟩
  obtain ⟨s', found', reaches⟩ := forward.2 orderId s found
  exact ⟨s', found', reaches.path, reaches.progresses⟩

theorem sagas_move_forward_cancelled : ∃ s, stored aliceCreates.orderId requestedOrder = some s ∧
    Relation.ReflTransGen DocumentedStep s.state .cancelled := by
  have requested : (stored aliceCreates.orderId requestedOrder).isSome = true := by decide +kernel
  obtain ⟨s, found⟩ := Option.isSome_iff_exists.mp requested
  obtain ⟨s', found', path, -⟩ := sagas_move_forward fourComponents fourComponents_one _ _
    (requestedOrder_reachable obliging_closed) (handOn_getD obliging_closed.runs fun _ _ => trivial) aliceCreates.orderId s found
  have ended := cancelledOrder_stored
  rw [show stored aliceCreates.orderId cancelledOrder = some s' from found', Option.map_some, Option.some.injEq] at ended
  exact ⟨s, found, ended ▸ path⟩

end Fulfillment
