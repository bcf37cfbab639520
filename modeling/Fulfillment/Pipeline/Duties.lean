import Fulfillment.Effects.Paths
import Fulfillment.Pipeline.Emissions
import Fulfillment.Saga.Cancellation
import Fulfillment.Saga.Safety

/-!
# What a saga waits for

A saga that is not terminal waits for the answer to a request it sent. The
handler that put it into its state owes the request, the service that reads the
request answers it, and the handler of the answer takes the saga on.
-/

namespace Fulfillment

open Js Effects SagaOrchestrator

/-- The topic that an event of the type is published to. -/
def EventType.topic : EventType → String
  | .orderCreated | .orderCancelled | .orderCompleted | .orderFailed => Topics.orders
  | .paymentRequested | .paymentAuthorized | .paymentRejected | .paymentRefundRequested | .paymentRefunded =>
    Topics.payments
  | .inventoryReservationRequested | .inventoryReserved | .inventoryReservationFailed | .inventoryReleased =>
    Topics.inventory
  | .fraudCheckRequested | .fraudApproved | .fraudRejected => Topics.fraud
  | .shipmentRequested | .shipmentCreated | .shipmentFailed => Topics.shipping
  | .notificationRequested | .notificationSent => Topics.notifications
  | .other _ => ""

/-- An event of the type about the order is sent to its topic. -/
def Publishes (t : EventType) (orderId : String) (c : Call) : Prop :=
  ∃ m, c = .send m ∧ m.Carries t orderId ∧ m.topic = t.topic

/-- The saga of the order is saved in a state other than this one. -/
def Leaves (state : SagaState) (orderId : String) (c : Call) : Prop :=
  ∃ row, c = .saveSagaInstance row ∧ row.aggregateId = orderId ∧ row.state ≠ state

/-- The completed action is reported to the barrier of the order. -/
def ReportsTo (action orderId : String) (c : Call) : Prop :=
  ∃ copy correlationId, c = .compensationBarrier copy action correlationId ∧ copy.aggregateId = orderId

structure Duty where
  request : EventType
  /-- Who answers the request; without a service the request is itself the answer. -/
  service : Option Service
  answers : List EventType
  /-- What the handler of an answer does about the order. -/
  acts : String → Call → Prop

/-- The request that undoes a step, and the report that it was undone. -/
def compensation (action : String) : Duty :=
  if action = "PAYMENT_REFUND" then
    ⟨.paymentRefundRequested, some paymentService, [.paymentRefunded], ReportsTo action⟩
  else ⟨.inventoryReleased, none, [.inventoryReleased], ReportsTo action⟩

def SagaRow.openCompensations (s : SagaRow) : List String :=
  (pendingCompensations s.context).filter fun action => action ∉ s.completedList

/-- What a saga waits for. -/
def SagaRow.duties (s : SagaRow) : List Duty :=
  match s.state with
  | .paymentPending =>
    [⟨.paymentRequested, some paymentService, [.paymentAuthorized, .paymentRejected], Leaves .paymentPending⟩]
  | .inventoryPending =>
    [⟨.inventoryReservationRequested, some inventoryService, [.inventoryReserved, .inventoryReservationFailed],
      Leaves .inventoryPending⟩]
  | .fraudPending =>
    [⟨.fraudCheckRequested, some fraudService, [.fraudApproved, .fraudRejected], Leaves .fraudPending⟩]
  | .shippingPending =>
    [⟨.shipmentRequested, some shippingService, [.shipmentCreated, .shipmentFailed], Leaves .shippingPending⟩]
  | .compensating => s.openCompensations.map compensation
  | _ => []

/-- The states that are saved, and what a compensation has still to undo. -/
structure SagaRow.Regular (s : SagaRow) : Prop where
  state : s.state ∈ [.paymentPending, .inventoryPending, .fraudPending, .shippingPending, .compensating, .completed,
    .cancelled, .failed]
  pending : s.state = .compensating → s.context.compensationsPending = some ["PAYMENT_REFUND"] ∨
    s.context.compensationsPending = some bothCompensations
  opened : s.state = .compensating → s.openCompensations ≠ []

/-- A saga that is not terminal waits for something. -/
theorem SagaRow.Regular.waits {s : SagaRow} (h : s.Regular) (unfinished : s.state.terminal = false) : s.duties ≠ [] := by
  have state := h.state
  simp only [List.mem_cons, List.not_mem_nil, or_false] at state
  rcases state with st | st | st | st | st | st | st | st <;> rw [st] at unfinished
  case inr.inr.inr.inr.inl =>
    simp only [SagaRow.duties, st]
    exact fun none => h.opened st (List.map_eq_nil_iff.mp none)
  case inr.inr.inr.inr.inr.inl | inr.inr.inr.inr.inr.inr.inl | inr.inr.inr.inr.inr.inr.inr => cases unfinished
  all_goals simp [SagaRow.duties, st]

theorem SagaRow.Regular.openCompensations {s : SagaRow} (h : s.Regular) (compensating : s.state = .compensating)
    {action : String} (opened : action ∈ s.openCompensations) :
    action = "PAYMENT_REFUND" ∨ action = "INVENTORY_RELEASE" := by
  have pending : action ∈ pendingCompensations s.context := (List.mem_filter.mp opened).1
  rcases h.pending compensating with one | both
  · rw [pendingCompensations, one] at pending
    exact .inl (List.mem_singleton.mp pending)
  · rw [pendingCompensations, both] at pending
    simp only [bothCompensations, Option.getD_some, List.mem_cons, List.not_mem_nil, or_false] at pending
    exact pending.symm

section
variable {s : SagaRow} {orderId action correlationId : String}

theorem openCompensations_afterReport : (s.afterReport orderId action correlationId).openCompensations =
    s.openCompensations.filter fun a => a ≠ action := by
  have completed : (s.afterReport orderId action correlationId).completedList = withCompleted s.context action := rfl
  have pending : pendingCompensations (s.afterReport orderId action correlationId).context = pendingCompensations s.context :=
    rfl
  simp only [SagaRow.openCompensations, completed, pending, List.filter_filter, mem_withCompleted]
  apply List.filter_congr
  intro a _
  by_cases done : a ∈ s.completedList <;> by_cases same : a = action <;> simp [done, same]

/-- A report leaves the saga to wait for the other compensations, or cancels the order. -/
theorem state_afterReport : (s.afterReport orderId action correlationId).state =
    if s.openCompensations.filter (fun a => a ≠ action) = [] then .cancelled else .compensating := by
  have all : allCompensationsCompleted s.context action = true ↔ s.openCompensations.filter (fun a => a ≠ action) = [] := by
    rw [List.filter_eq_nil_iff]
    simp only [allCompensationsCompleted, List.all_eq_true, decide_eq_true_eq, SagaRow.openCompensations,
      List.mem_filter, mem_withCompleted]
    constructor
    · rintro all a ⟨pending, opened⟩
      simpa using (all a pending).resolve_left opened
    · intro none a pending
      by_cases done : a ∈ s.completedList
      · exact .inl done
      · exact .inr (by simpa using none a ⟨pending, done⟩)
  simp only [SagaRow.afterReport, SagaRow.mergedInto, barrierRow, all]

theorem SagaRow.Regular.afterReport (h : s.Regular) (compensating : s.state = .compensating) :
    (s.afterReport orderId action correlationId).Regular := by
  constructor
  · rw [state_afterReport]
    split <;> simp
  · exact fun _ => h.pending compensating
  · intro still
    rw [state_afterReport] at still
    rw [openCompensations_afterReport]
    split at still
    · cases still
    · assumption

/-- What is waited for after a report was waited for before. -/
theorem duties_afterReport (compensating : s.state = .compensating) {d : Duty}
    (hd : d ∈ (s.afterReport orderId action correlationId).duties) :
    (s.afterReport orderId action correlationId).state = .compensating ∧ d ∈ s.duties ∧
      ∃ a, a ≠ action ∧ d = compensation a := by
  have state : (s.afterReport orderId action correlationId).state = .compensating := by
    rw [state_afterReport]
    split
    · rename_i none
      rw [SagaRow.duties, state_afterReport, if_pos none] at hd
      cases hd
    · rfl
  rw [SagaRow.duties, state, openCompensations_afterReport] at hd
  obtain ⟨a, ha, rfl⟩ := List.mem_map.mp hd
  obtain ⟨opened, other⟩ := List.mem_filter.mp ha
  refine ⟨state, ?_, a, by simpa using other, rfl⟩
  rw [SagaRow.duties, compensating]
  exact List.mem_map_of_mem opened

end

/-! ## What a transition owes -/

namespace SagaOrchestrator

variable {amb : Ambient} {e : EventEnvelope}

/-- The messages up to one that is sent. -/
def Includes (emissions : List (Except JsError Message)) (t : EventType) (orderId : String) : Prop :=
  ∃ (before : List Message) (m : Message) (after : List (Except JsError Message)),
    emissions = before.map .ok ++ .ok m :: after ∧ m.Carries t orderId ∧ m.topic = t.topic

theorem includes_first {m : Message} {after : List (Except JsError Message)} {t : EventType} {orderId : String}
    (carries : m.Carries t orderId) (topic : m.topic = t.topic) : Includes (.ok m :: after) t orderId :=
  ⟨[], m, after, rfl, carries, topic⟩

theorem includes_second {first m : Message} {after : List (Except JsError Message)} {t : EventType} {orderId : String}
    (carries : m.Carries t orderId) (topic : m.topic = t.topic) : Includes (.ok first :: .ok m :: after) t orderId :=
  ⟨[first], m, after, rfl, carries, topic⟩

theorem sendAll_owes {emissions : List (Except JsError Message)} {t : EventType} {orderId : String}
    (h : Includes emissions t orderId) : (sendAll emissions).Owes (Publishes t orderId) := by
  obtain ⟨before, m, after, rfl, carries, topic⟩ := h
  induction before with
  | nil => exact .inl ⟨m, rfl, carries, topic⟩
  | cons first before ih => exact .inr ⟨id, fun _ _ => ih⟩

/-- Both compensations are open, and both are requested. -/
theorem both_regular {row : SagaRow} (state : row.state = .compensating)
    (pending : row.context.compensationsPending = some bothCompensations)
    (completed : row.context.compensationsCompleted = some []) {released refund : Message}
    (releases : released.Carries .inventoryReleased row.aggregateId)
    (releasedTopic : released.topic = Topics.inventory)
    (refunds : refund.Carries .paymentRefundRequested row.aggregateId) (refundTopic : refund.topic = Topics.payments) :
    row.Regular ∧ ∀ d ∈ row.duties, Includes [.ok released, .ok refund] d.request row.aggregateId := by
  have opened : row.openCompensations = bothCompensations := by
    simp [SagaRow.openCompensations, pendingCompensations, pending, SagaRow.completedList, completed, bothCompensations]
  refine ⟨⟨by simp [state], fun _ => .inr pending, fun _ => by simp [opened, bothCompensations]⟩, fun d hd => ?_⟩
  simp only [SagaRow.duties, state, opened, bothCompensations, List.map_cons, List.map_nil, List.mem_cons,
    List.not_mem_nil, or_false] at hd
  rcases hd with rfl | rfl
  · exact includes_first releases releasedTopic
  · exact includes_second refunds refundTopic

/-- A transition saves a regular row and sends what that row waits for. -/
theorem react_regular {saga : Option SagaRow} {row : SagaRow} {emissions : List (Except JsError Message)}
    (h : react amb e saga = .ok (.advance row emissions)) :
    row.Regular ∧ ∀ d ∈ row.duties, Includes emissions d.request row.aggregateId := by
  obtain ⟨reaction, switched, h⟩ := react_switched h
  cases switched with
  | orderCreated saga type =>
    simp only [onOrderCreated, Except.ok.injEq] at h
    split at h
    · cases h
    · cases h
      refine ⟨⟨by simp, by simp, by simp⟩, fun d hd => ?_⟩
      cases List.mem_singleton.mp hd
      exact includes_first (carries_caused ..) rfl
  | paymentAuthorized s type state | inventoryReserved s type state | fraudApproved s type state =>
    cases h
    refine ⟨⟨by simp [savedAs], by simp [savedAs], by simp [savedAs]⟩, fun d hd => ?_⟩
    cases List.mem_singleton.mp hd
    exact includes_first (carries_caused ..) rfl
  | shipmentCreated s type state =>
    cases h
    exact ⟨⟨by simp [savedAs], by simp [savedAs], by simp [savedAs]⟩, fun d hd => by cases hd⟩
  | paymentRejected s type state =>
    obtain ⟨reason, -, h⟩ := bind_returns h
    cases h
    exact ⟨⟨by simp [savedAs], by simp [savedAs], by simp [savedAs]⟩, fun d hd => by cases hd⟩
  | inventoryReservationFailed s type state =>
    obtain ⟨reason, -, h⟩ := bind_returns h
    cases h
    refine ⟨⟨by simp [savedAs], fun _ => .inl rfl, fun _ => ?_⟩, fun d hd => ?_⟩
    · simp [SagaRow.openCompensations, pendingCompensations, savedAs, SagaRow.completedList]
    · cases List.mem_singleton.mp hd
      exact includes_first (carries_caused ..) rfl
  | fraudRejected s type state | shipmentFailed s type state =>
    obtain ⟨reason, -, h⟩ := bind_returns h
    cases h
    exact both_regular rfl rfl rfl (carries_caused ..) rfl (carries_caused ..) rfl

end SagaOrchestrator

end Fulfillment
