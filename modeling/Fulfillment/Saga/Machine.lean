import Fulfillment.Saga.Orchestrator
import Fulfillment.Saga.Store

/-!
# The saga as a state machine

`transition` is the documented machine: which events a state accepts, where
they take it and which messages the transition owes. `react_of_transition` and
`react_of_none` say that the orchestrator's switch is this machine; the barrier
is its only other way to a new state.
-/

namespace Fulfillment

open Js Effects

def transition : EventType → Option SagaState → Option (SagaState × List EventType)
  | .orderCreated, none | .orderCreated, some .created => some (.paymentPending, [.paymentRequested])
  | .paymentAuthorized, some .paymentPending =>
    some (.inventoryPending, [.inventoryReservationRequested])
  | .paymentRejected, some .paymentPending => some (.failed, [.orderFailed])
  | .inventoryReserved, some .inventoryPending => some (.fraudPending, [.fraudCheckRequested])
  | .inventoryReservationFailed, some .inventoryPending =>
    some (.compensating, [.paymentRefundRequested])
  | .fraudApproved, some .fraudPending => some (.shippingPending, [.shipmentRequested])
  | .fraudRejected, some .fraudPending =>
    some (.compensating, [.inventoryReleased, .paymentRefundRequested])
  | .shipmentCreated, some .shippingPending => some (.completed, [.orderCompleted, .notificationRequested])
  | .shipmentFailed, some .shippingPending =>
    some (.compensating, [.inventoryReleased, .paymentRefundRequested])
  | _, _ => none

/-- The compensation an event reports as done. -/
def reported : EventType → Option String
  | .paymentRefunded => some "PAYMENT_REFUND"
  | .inventoryReleased => some "INVENTORY_RELEASE"
  | _ => none

/-- An event of the given type about the order. -/
def Message.Carries (m : Message) (t : EventType) (orderId : String) : Prop :=
  m.key = orderId ∧ ∃ e, m.value = .event e ∧ e.eventType = t ∧ e.aggregateId = orderId

theorem Message.Carries.eventType_unique {m : Message} {t t' : EventType} {a b : String}
    (h : m.Carries t a) (h' : m.Carries t' b) : t = t' := by
  obtain ⟨-, e, he, rfl, -⟩ := h
  obtain ⟨-, e', he', rfl, -⟩ := h'
  rw [he] at he'
  cases he'
  rfl

instance (m : Message) (t : EventType) (orderId : String) : Decidable (m.Carries t orderId) :=
  match h : m.value with
  | .event e =>
    decidable_of_iff (m.key = orderId ∧ e.eventType = t ∧ e.aggregateId = orderId)
      ⟨fun ⟨hk, ht, ha⟩ => ⟨hk, e, h, ht, ha⟩, fun ⟨hk, e', he', ht, ha⟩ => by
        obtain rfl : e = e' := by simpa [h] using he'
        exact ⟨hk, ht, ha⟩⟩
  | .deadLetter _ => isFalse fun ⟨_, e, he, _⟩ => by simp [h] at he

def Entry.isEmission (orderId : String) (t : EventType) : Entry → Bool
  | .sent m _ => m.Carries t orderId
  | .saved _ => false

/-- How often an event of the type about the order was emitted. -/
def timesEmitted (orderId : String) (t : EventType) (journal : List Entry) : Nat :=
  journal.countP (Entry.isEmission orderId t)

@[simp] theorem timesEmitted_saved (orderId : String) (t : EventType) (saga : SagaRow) (journal : List Entry) :
    timesEmitted orderId t (.saved saga :: journal) = timesEmitted orderId t journal := by
  simp [timesEmitted, Entry.isEmission]

@[simp] theorem timesEmitted_sent (orderId : String) (t : EventType) (m : Message) (acked : Bool)
    (journal : List Entry) :
    timesEmitted orderId t (.sent m acked :: journal) =
      timesEmitted orderId t journal + if m.Carries t orderId then 1 else 0 := by
  simp [timesEmitted, Entry.isEmission, List.countP_cons]

/-- An emission that, unless its text cannot be built, carries the event type. -/
def Owes (orderId : String) (emission : Except JsError Message) (t : EventType) : Prop :=
  ∀ m, emission = .ok m → m.Carries t orderId

namespace SagaOrchestrator

/-- The events whose reason is put into a text before the saga is saved. -/
def namesReason : EventType → Bool
  | .paymentRejected | .inventoryReservationFailed | .fraudRejected | .shipmentFailed => true
  | _ => false

/-- The texts a transition needs before its save can be built. -/
def Worded (e : EventEnvelope) : Prop :=
  namesReason e.eventType = true → ∃ s, text (e.payload.get "reason") = .ok s

/-- The address of the customer notification can be built. -/
def Addressed (e : EventEnvelope) (saga : Option SagaRow) : Prop :=
  e.eventType = .shipmentCreated → ∀ s, saga = some s →
    ∃ user, text (some (orElse s.context.userId (.str "customer"))) = .ok user

theorem carries_caused (e : EventEnvelope) (uuid now topic : String) (t : EventType)
    (aggregateType : String) (payload : List (String × Option Json)) :
    (caused e uuid now topic t aggregateType payload).Carries t e.aggregateId :=
  ⟨rfl, _, rfl, rfl, rfl⟩

theorem owes_ok {orderId : String} {m : Message} {t : EventType} (h : m.Carries t orderId) :
    Owes orderId (.ok m) t := by
  rintro m ⟨⟩
  exact h

/-- What the switch does with an event its guard lets through. -/
structure Advances (e : EventEnvelope) (saga : Option SagaRow) (target : SagaState)
    (types : List EventType) (row : SagaRow) (emissions : List (Except JsError Message)) : Prop where
  state : row.state = target
  keyed : (∀ s, saga = some s → s.sagaId = sagaIdOf e.aggregateId) → row.Keyed
  aggregateId : row.aggregateId = e.aggregateId
  owes : List.Forall₂ (Owes e.aggregateId) emissions types
  built : Addressed e saga ↔ ∀ emission ∈ emissions, ∃ m, emission = .ok m

/-- A transition of an existing saga with all its texts at hand. -/
theorem advances_saved {e : EventEnvelope} {s : SagaRow} {target : SagaState} {types : List EventType}
    {step : String} {context : SagaContext} {reason : Option String} {emissions : List (Except JsError Message)}
    (owes : List.Forall₂ (Owes e.aggregateId) emissions types)
    (built : Addressed e (some s) ↔ ∀ emission ∈ emissions, ∃ m, emission = .ok m) :
    Advances e (some s) target types (savedAs s e target step context reason) emissions where
  state := rfl
  keyed h := h s rfl
  aggregateId := rfl
  owes := owes
  built := built

theorem addressed_of_ne {e : EventEnvelope} (h : e.eventType ≠ .shipmentCreated) (saga : Option SagaRow) :
    Addressed e saga := fun he => absurd he h

/-- An event awaited by the state of a saga reaches its handler. -/
theorem inState_eq {saga : Option SagaRow} {state : SagaState} (h : saga.map SagaRow.state = some state) :
    ∃ s, saga = some s ∧ ∀ k, inState saga state k = k s := by
  obtain ⟨s, rfl, rfl⟩ := Option.map_eq_some_iff.mp h
  exact ⟨s, rfl, fun k => if_pos rfl⟩

theorem inState_of_ne {saga : Option SagaRow} {state : SagaState}
    (h : saga.map SagaRow.state ≠ some state) (k : SagaRow → Except JsError Reaction) :
    inState saga state k = .ok .ignore := by
  cases saga with
  | none => rfl
  | some s => exact if_neg fun hs => h (by simp [hs])

theorem onOrderCreated_advances (amb : Ambient) {e : EventEnvelope} (saga : Option SagaRow)
    (ht : e.eventType = .orderCreated) (hs : saga.all (·.state = .created) = true) :
    ∃ row emissions, onOrderCreated amb e saga = .advance row emissions ∧
      Advances e saga .paymentPending [.paymentRequested] row emissions := by
  have hguard : (saga.any fun s => decide (s.state ≠ .created)) = false := by
    cases saga <;> simp_all
  refine ⟨_, _, by rw [onOrderCreated, hguard]; rfl, rfl, fun hk => ?_, rfl, ?_, ?_⟩
  · cases saga with
    | none => rfl
    | some s => simp [SagaRow.Keyed, hk s rfl, orNull, sagaIdOf_ne_empty]
  · exact .cons (owes_ok (carries_caused ..)) .nil
  · exact ⟨fun _ => by simp, fun _ => addressed_of_ne (by simp [ht]) _⟩

theorem advances_one {e : EventEnvelope} {s : SagaRow} {target : SagaState} {t : EventType}
    {step : String} {context : SagaContext} {reason : Option String} {m : Message}
    (carries : m.Carries t e.aggregateId) (ht : e.eventType ≠ .shipmentCreated) :
    Advances e (some s) target [t] (savedAs s e target step context reason) [.ok m] :=
  advances_saved (.cons (owes_ok carries) .nil) ⟨fun _ => by simp, fun _ => addressed_of_ne ht _⟩

theorem advances_both {e : EventEnvelope} {s : SagaRow} {target : SagaState} {t t' : EventType}
    {step : String} {context : SagaContext} {reason : Option String} {m m' : Message}
    (carries : m.Carries t e.aggregateId) (carries' : m'.Carries t' e.aggregateId)
    (ht : e.eventType ≠ .shipmentCreated) :
    Advances e (some s) target [t, t'] (savedAs s e target step context reason) [.ok m, .ok m'] :=
  advances_saved (.cons (owes_ok carries) (.cons (owes_ok carries') .nil))
    ⟨fun _ => by simp, fun _ => addressed_of_ne ht _⟩

theorem onShipmentCreated_advances (amb : Ambient) {e : EventEnvelope} (s : SagaRow)
    (ht : e.eventType = .shipmentCreated) :
    ∃ row emissions, onShipmentCreated amb e s = .advance row emissions ∧
      Advances e (some s) .completed [.orderCompleted, .notificationRequested] row emissions := by
  refine ⟨_, _, rfl, advances_saved (.cons (owes_ok (carries_caused ..)) (.cons ?_ .nil)) ?_⟩
  · intro m hm
    cases hu : text (some (orElse s.context.userId (.str "customer"))) with
    | error err => simp [hu, Except.map] at hm
    | ok user =>
      simp only [hu, Except.map, Except.ok.injEq] at hm
      exact hm ▸ carries_caused ..
  · cases hu : text (some (orElse s.context.userId (.str "customer"))) <;>
      simp [Addressed, ht, hu, Except.map]

theorem react_of_transition (amb : Ambient) {e : EventEnvelope} {saga : Option SagaRow}
    {target : SagaState} {types : List EventType}
    (h : transition e.eventType (saga.map SagaRow.state) = some (target, types)) (hw : Worded e) :
    ∃ row emissions, react amb e saga = .ok (.advance row emissions) ∧
      Advances e saga target types row emissions := by
  unfold transition at h
  split at h
  case h_1 ht hs =>
    obtain ⟨rfl, rfl⟩ := by simpa using h
    obtain ⟨row, emissions, hr, ha⟩ := onOrderCreated_advances amb saga ht (by simp_all)
    exact ⟨row, emissions, by simp [react, ht, hr], ha⟩
  case h_2 ht hs =>
    obtain ⟨rfl, rfl⟩ := by simpa using h
    obtain ⟨s, rfl, hs⟩ := Option.map_eq_some_iff.mp hs
    obtain ⟨row, emissions, hr, ha⟩ := onOrderCreated_advances amb (some s) ht (by simpa using hs)
    exact ⟨row, emissions, by simp [react, ht, hr], ha⟩
  case h_3 ht hs =>
    obtain ⟨rfl, rfl⟩ := by simpa using h
    obtain ⟨s, rfl, hk⟩ := inState_eq hs
    exact ⟨_, _, by simp only [react, ht]; exact hk _,
      advances_one (carries_caused ..) (by simp [ht])⟩
  case h_4 ht hs =>
    obtain ⟨rfl, rfl⟩ := by simpa using h
    obtain ⟨s, rfl, hk⟩ := inState_eq hs
    obtain ⟨reason, hr⟩ := hw (by rw [ht]; rfl)
    exact ⟨_, _, by simp only [react, ht, hk, onPaymentRejected, hr]; rfl,
      advances_one (carries_caused ..) (by simp [ht])⟩
  case h_5 ht hs =>
    obtain ⟨rfl, rfl⟩ := by simpa using h
    obtain ⟨s, rfl, hk⟩ := inState_eq hs
    exact ⟨_, _, by simp only [react, ht]; exact hk _,
      advances_one (carries_caused ..) (by simp [ht])⟩
  case h_6 ht hs =>
    obtain ⟨rfl, rfl⟩ := by simpa using h
    obtain ⟨s, rfl, hk⟩ := inState_eq hs
    obtain ⟨reason, hr⟩ := hw (by rw [ht]; rfl)
    exact ⟨_, _, by simp only [react, ht, hk, onInventoryReservationFailed, hr]; rfl,
      advances_one (carries_caused ..) (by simp [ht])⟩
  case h_7 ht hs =>
    obtain ⟨rfl, rfl⟩ := by simpa using h
    obtain ⟨s, rfl, hk⟩ := inState_eq hs
    exact ⟨_, _, by simp only [react, ht]; exact hk _,
      advances_one (carries_caused ..) (by simp [ht])⟩
  case h_8 ht hs =>
    obtain ⟨rfl, rfl⟩ := by simpa using h
    obtain ⟨s, rfl, hk⟩ := inState_eq hs
    obtain ⟨reason, hr⟩ := hw (by rw [ht]; rfl)
    exact ⟨_, _, by simp only [react, ht, hk, onFraudRejected, hr]; rfl,
      advances_both (carries_caused ..) (carries_caused ..) (by simp [ht])⟩
  case h_9 ht hs =>
    obtain ⟨rfl, rfl⟩ := by simpa using h
    obtain ⟨s, rfl, hk⟩ := inState_eq hs
    obtain ⟨row, emissions, hr, ha⟩ := onShipmentCreated_advances amb s ht
    exact ⟨row, emissions, by simp only [react, ht, hk, hr], ha⟩
  case h_10 ht hs =>
    obtain ⟨rfl, rfl⟩ := by simpa using h
    obtain ⟨s, rfl, hk⟩ := inState_eq hs
    obtain ⟨reason, hr⟩ := hw (by rw [ht]; rfl)
    exact ⟨_, _, by simp only [react, ht, hk, onShipmentFailed, hr]; rfl,
      advances_both (carries_caused ..) (carries_caused ..) (by simp [ht])⟩
  case h_11 => cases h

/-- Without its texts a transition throws before it saves. -/
theorem react_of_not_worded {amb : Ambient} {e : EventEnvelope} {saga : Option SagaRow}
    (h : transition e.eventType (saga.map SagaRow.state) ≠ none) (hw : ¬Worded e) :
    ∃ err, react amb e saga = .error err := by
  simp only [Worded, not_forall] at hw
  obtain ⟨hn, hr⟩ := hw
  cases ht : text (e.payload.get "reason") with
  | ok s => exact absurd ⟨s, ht⟩ hr
  | error err =>
    refine ⟨err, ?_⟩
    cases he : e.eventType <;> simp [he, namesReason] at hn
    all_goals
      rw [he] at h
      unfold transition at h
      split at h <;> try contradiction
      rename_i hs
      obtain ⟨s, rfl, hk⟩ := inState_eq hs
      simp only [react, he, hk]
    · simp [onPaymentRejected, ht, bind, Except.bind]
    · simp [onInventoryReservationFailed, ht, bind, Except.bind]
    · simp [onFraudRejected, ht, bind, Except.bind]
    · simp [onShipmentFailed, ht, bind, Except.bind]

theorem inState_report (saga : Option SagaRow) (action : String) :
    (inState saga .compensating fun s => .ok (.compensate s action)) = .ok .ignore ∨
    ∃ s, saga = some s ∧ s.state = .compensating ∧
      (inState saga .compensating fun s => .ok (.compensate s action)) = .ok (.compensate s action) := by
  by_cases hs : saga.map SagaRow.state = some .compensating
  · obtain ⟨s, rfl, hk⟩ := inState_eq hs
    exact .inr ⟨s, rfl, by simpa using hs, hk _⟩
  · exact .inl (inState_of_ne hs _)

/-- An event that no transition awaits is ignored, or reported to the barrier. -/
theorem react_of_none {amb : Ambient} {e : EventEnvelope} {saga : Option SagaRow}
    (h : transition e.eventType (saga.map SagaRow.state) = none) :
    react amb e saga = .ok .ignore ∨
    ∃ s action, saga = some s ∧ s.state = .compensating ∧ reported e.eventType = some action ∧
      react amb e saga = .ok (.compensate s action) := by
  have awaited : ∀ {state : SagaState} {target : SagaState × List EventType},
      transition e.eventType (some state) = some target → saga.map SagaRow.state ≠ some state := by
    intro state target ht hs
    rw [hs, ht] at h
    cases h
  cases he : e.eventType with
  | orderCreated =>
    cases saga with
    | none => simp [he, transition] at h
    | some s =>
      have unawaited : s.state ≠ .created := fun hs => by
        simp [he, hs, transition] at h
      simp [react, he, onOrderCreated, unawaited]
  | paymentRefunded =>
    simp only [react, he, reported]
    rcases inState_report saga "PAYMENT_REFUND" with hr | ⟨s, rfl, hs, hr⟩
    · exact .inl hr
    · exact .inr ⟨s, _, rfl, hs, rfl, hr⟩
  | inventoryReleased =>
    simp only [react, he, reported]
    rcases inState_report saga "INVENTORY_RELEASE" with hr | ⟨s, rfl, hs, hr⟩
    · exact .inl hr
    · exact .inr ⟨s, _, rfl, hs, rfl, hr⟩
  | paymentAuthorized | paymentRejected | inventoryReserved | inventoryReservationFailed
  | fraudApproved | fraudRejected | shipmentCreated | shipmentFailed =>
    rw [he] at awaited
    simp only [react, he]
    exact .inl (inState_of_ne (awaited rfl) _)
  | _ => simp [react, he]

theorem react_report {amb : Ambient} {e : EventEnvelope} {s : SagaRow} {action : String}
    (hs : s.state = .compensating) (ha : reported e.eventType = some action) :
    react amb e (some s) = .ok (.compensate s action) := by
  unfold reported at ha
  split at ha <;> cases ha
  all_goals simp_all [react, inState]

/-- Nothing reacts to an event whose guard no longer holds. -/
theorem react_ignores {amb : Ambient} {e : EventEnvelope} {saga : Option SagaRow}
    (h : transition e.eventType (saga.map SagaRow.state) = none)
    (hr : reported e.eventType = none ∨ saga.map SagaRow.state ≠ some .compensating) :
    react amb e saga = .ok .ignore := by
  rcases react_of_none h with hi | ⟨s, action, rfl, hs, ha, -⟩
  · exact hi
  · rcases hr with hr | hr
    · rw [hr] at ha
      cases ha
    · exact absurd (by simp [hs]) hr

/-- All the switch can do. -/
theorem react_cases (amb : Ambient) (e : EventEnvelope) (saga : Option SagaRow) :
    (∃ err, react amb e saga = .error err) ∨ react amb e saga = .ok .ignore ∨
    (∃ target types row emissions, transition e.eventType (saga.map SagaRow.state) = some (target, types) ∧
      react amb e saga = .ok (.advance row emissions) ∧ Advances e saga target types row emissions) ∨
    ∃ s action, saga = some s ∧ s.state = .compensating ∧ reported e.eventType = some action ∧
      react amb e saga = .ok (.compensate s action) := by
  cases ht : transition e.eventType (saga.map SagaRow.state) with
  | none => exact .inr ((react_of_none ht).imp id .inr)
  | some moved =>
    obtain ⟨target, types⟩ := moved
    by_cases hw : Worded e
    · obtain ⟨row, emissions, hr, ha⟩ := react_of_transition amb ht hw
      exact .inr (.inr (.inl ⟨target, types, row, emissions, rfl, hr, ha⟩))
    · have open_ : transition e.eventType (saga.map SagaRow.state) ≠ none := by simp [ht]
      exact .inl (react_of_not_worded open_ hw)

/-- A save by the switch is a transition. -/
theorem transition_of_react {amb : Ambient} {e : EventEnvelope} {saga : Option SagaRow} {row : SagaRow}
    {emissions : List (Except JsError Message)} (h : react amb e saga = .ok (.advance row emissions)) :
    ∃ target types, transition e.eventType (saga.map SagaRow.state) = some (target, types) ∧
      Advances e saga target types row emissions := by
  rcases react_cases amb e saga with ⟨err, hr⟩ | hr | ⟨target, types, row', emissions', ht, hr, ha⟩ |
    ⟨s, action, -, -, -, hr⟩ <;> rw [h] at hr <;> cases hr
  exact ⟨target, types, ht, ha⟩

theorem report_of_react {amb : Ambient} {e : EventEnvelope} {saga : Option SagaRow} {s : SagaRow}
    {action : String} (h : react amb e saga = .ok (.compensate s action)) :
    saga = some s ∧ s.state = .compensating ∧ reported e.eventType = some action := by
  rcases react_cases amb e saga with ⟨err, hr⟩ | hr | ⟨_, _, _, _, _, hr, _⟩ |
    ⟨s', action', hs, compensating, reports, hr⟩ <;> rw [h] at hr <;> cases hr
  exact ⟨hs, compensating, reports⟩

/-- A handler of the switch, with the guard that let the event through. -/
inductive Switched (amb : Ambient) (e : EventEnvelope) : Option SagaRow → Except JsError Reaction → Prop
  | orderCreated (saga : Option SagaRow) (type : e.eventType = .orderCreated) :
    Switched amb e saga (.ok (onOrderCreated amb e saga))
  | paymentAuthorized (s : SagaRow) (type : e.eventType = .paymentAuthorized) (state : s.state = .paymentPending) :
    Switched amb e (some s) (.ok (onPaymentAuthorized amb e s))
  | paymentRejected (s : SagaRow) (type : e.eventType = .paymentRejected) (state : s.state = .paymentPending) :
    Switched amb e (some s) (onPaymentRejected amb e s)
  | inventoryReserved (s : SagaRow) (type : e.eventType = .inventoryReserved) (state : s.state = .inventoryPending) :
    Switched amb e (some s) (.ok (onInventoryReserved amb e s))
  | inventoryReservationFailed (s : SagaRow) (type : e.eventType = .inventoryReservationFailed)
      (state : s.state = .inventoryPending) : Switched amb e (some s) (onInventoryReservationFailed amb e s)
  | fraudApproved (s : SagaRow) (type : e.eventType = .fraudApproved) (state : s.state = .fraudPending) :
    Switched amb e (some s) (.ok (onFraudApproved amb e s))
  | fraudRejected (s : SagaRow) (type : e.eventType = .fraudRejected) (state : s.state = .fraudPending) :
    Switched amb e (some s) (onFraudRejected amb e s)
  | shipmentCreated (s : SagaRow) (type : e.eventType = .shipmentCreated) (state : s.state = .shippingPending) :
    Switched amb e (some s) (.ok (onShipmentCreated amb e s))
  | shipmentFailed (s : SagaRow) (type : e.eventType = .shipmentFailed) (state : s.state = .shippingPending) :
    Switched amb e (some s) (onShipmentFailed amb e s)

theorem inState_switched {saga : Option SagaRow} {state : SagaState} {k : SagaRow → Except JsError Reaction}
    {row : SagaRow} {emissions : List (Except JsError Message)}
    (h : inState saga state k = .ok (.advance row emissions)) :
    ∃ s, saga = some s ∧ s.state = state ∧ k s = .ok (.advance row emissions) := by
  unfold inState at h
  split at h
  · rename_i s
    by_cases same : s.state = state
    · rw [if_pos same] at h
      exact ⟨s, rfl, same, h⟩
    · rw [if_neg same] at h
      cases h
  · cases h

/-- An advance comes from one of the handlers. -/
theorem react_switched {amb : Ambient} {e : EventEnvelope} {saga : Option SagaRow} {row : SagaRow}
    {emissions : List (Except JsError Message)} (h : react amb e saga = .ok (.advance row emissions)) :
    ∃ reaction, Switched amb e saga reaction ∧ reaction = .ok (.advance row emissions) := by
  unfold react at h
  split at h
  case h_1 type => exact ⟨_, .orderCreated saga type, h⟩
  case h_2 type =>
    obtain ⟨s, rfl, state, h⟩ := inState_switched h
    exact ⟨_, .paymentAuthorized s type state, h⟩
  case h_3 type =>
    obtain ⟨s, rfl, state, h⟩ := inState_switched h
    exact ⟨_, .paymentRejected s type state, h⟩
  case h_4 type =>
    obtain ⟨s, rfl, state, h⟩ := inState_switched h
    exact ⟨_, .inventoryReserved s type state, h⟩
  case h_5 type =>
    obtain ⟨s, rfl, state, h⟩ := inState_switched h
    exact ⟨_, .inventoryReservationFailed s type state, h⟩
  case h_6 type =>
    obtain ⟨s, rfl, state, h⟩ := inState_switched h
    exact ⟨_, .fraudApproved s type state, h⟩
  case h_7 type =>
    obtain ⟨s, rfl, state, h⟩ := inState_switched h
    exact ⟨_, .fraudRejected s type state, h⟩
  case h_8 type =>
    obtain ⟨s, rfl, state, h⟩ := inState_switched h
    exact ⟨_, .shipmentCreated s type state, h⟩
  case h_9 type =>
    obtain ⟨s, rfl, state, h⟩ := inState_switched h
    exact ⟨_, .shipmentFailed s type state, h⟩
  case h_10 | h_11 =>
    obtain ⟨s, -, -, h⟩ := inState_switched h
    cases h
  case h_12 => cases h

end SagaOrchestrator

theorem transition_cancelled (t : EventType) : transition t (some .cancelled) = none := by
  unfold transition
  split <;> simp_all

/-- A transition is not open to its own event again. -/
theorem transition_target {t : EventType} {state : Option SagaState} {target : SagaState}
    {types : List EventType} (h : transition t state = some (target, types)) :
    transition t (some target) = none ∧ reported t = none ∧ state ≠ some target ∧ types.Nodup := by
  unfold transition at h
  split at h <;> cases h
  all_goals exact ⟨rfl, rfl, nofun, by decide⟩

end Fulfillment
