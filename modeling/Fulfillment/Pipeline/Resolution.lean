import Fulfillment.Pipeline.Backing

/-!
# Who resolves what

An event that a saga waits for is resolved by whoever processes it: the service
sends an answer, the orchestrator takes the saga on.
-/

namespace Fulfillment

open Js Relational Effects SagaOrchestrator

/-- A read of the order's saga finds it in this state. -/
def Shows (state : Option SagaState) (orderId : String) (saga : Option SagaRow) : Prop :=
  saga.map SagaRow.state = state ∧ OwnSaga orderId saga

/-- The handlers that read the order's saga in this state. -/
def Seeing (state : Option SagaState) (orderId : String) : (c : Call) → Answer c → Prop :=
  reading fun aggregateId saga => aggregateId = orderId → Shows state orderId saga

/-- The saga of the order is saved. -/
def Starts (orderId : String) (c : Call) : Prop := ∃ row, c = .saveSagaInstance row ∧ row.aggregateId = orderId

/-- An answer is sent. -/
def SendsAnswer (answers : List EventType) (orderId : String) (c : Call) : Prop := ∃ t ∈ answers, Publishes t orderId c

/-- Who processes such an event comes to the goal. -/
def Resolves (name : String) (state : Option SagaState) (t : EventType) (orderId : String) (goal : Call → Prop) : Prop :=
  ∀ (component : Component) (c : Consumer), component.consumer = some c → c.consumerName = name →
    ∀ (n : Nat) (amb : Ambient) (e : EventEnvelope), e.Conforms → e.eventType = t → e.aggregateId = orderId →
    ∀ bad : Call → Prop, (∀ aggregateId, ¬bad (.getSagaByAggregateId aggregateId)) →
      (c.processEvent n amb e).Meets (Seeing state orderId) goal bad fun _ => False

/-! ## Who resolves what -/

theorem saga_of_name {component : Component} {c : Consumer} (hc : component.consumer = some c)
    (name : c.consumerName = SagaOrchestrator.consumerName) : c = sagaOrchestrator := by
  cases component <;> cases hc
  case saga => rfl
  all_goals exact absurd name (by decide)

theorem service_of_name {component : Component} {c : Consumer} (hc : component.consumer = some c) {s : Service}
    (hs : s ∈ [paymentService, inventoryService, fraudService, shippingService]) (name : c.consumerName = s.consumerName) :
    c = s.consumer := by
  simp only [List.mem_cons, List.not_mem_nil, or_false] at hs
  rcases hs with rfl | rfl | rfl | rfl <;> cases component <;> cases hc <;>
    first | rfl | exact absurd name (by decide)

/-- The creation of an order starts its saga. -/
theorem resolves_created (orderId : String) :
    Resolves SagaOrchestrator.consumerName none .orderCreated orderId (Starts orderId) := by
  intro component c hc name n amb e conforms type about bad fine
  obtain rfl := saga_of_name hc name
  subst about
  refine (processEvent_leaves conforms.worded (show (transition e.eventType none).isSome by rw [type]; rfl) (fine _) ?_).mono ?_ (fun _ h => h)
    (fun _ => .inr) fun _ => id
  · intro target types row _ _ about
    exact ⟨row, rfl, about⟩
  · intro call r seeing
    cases call with
    | getSagaByAggregateId aggregateId => exact fun same => (seeing same).1
    | _ => trivial

section
variable {s : SagaRow} {d : Duty}

/-- What the requests and the answers of a duty are. -/
theorem SagaRow.duties_types (hd : d ∈ s.duties) : d.request ≠ .orderCreated ∧ .orderCreated ∉ d.answers ∧
    (d.service = none → d.request ∈ d.answers) ∧
    ∀ service, d.service = some service → service ∈ [paymentService, inventoryService, fraudService, shippingService] := by
  unfold SagaRow.duties at hd
  split at hd
  case h_1 | h_2 | h_3 | h_4 =>
    cases List.mem_singleton.mp hd
    refine ⟨by decide, by decide, nofun, ?_⟩
    rintro service ⟨⟩
    simp
  case h_5 =>
    obtain ⟨action, -, rfl⟩ := List.mem_map.mp hd
    unfold compensation
    split
    · refine ⟨nofun, by simp, nofun, ?_⟩
      rintro service ⟨⟩
      simp
    · exact ⟨nofun, by simp, fun _ => by simp, nofun⟩
  case h_6 => cases hd

theorem SagaRow.duties_topics (hd : d ∈ s.duties) :
    (∀ service, d.service = some service → ∃ component : Component, component.consumer = some service.consumer ∧
      d.request.topic ∈ component.topics) ∧
    ∀ t ∈ d.answers, t.topic ∈ Component.saga.topics := by
  unfold SagaRow.duties at hd
  split at hd
  case h_1 =>
    cases List.mem_singleton.mp hd
    exact ⟨fun service h => ⟨.payment, by cases h; rfl, by decide⟩, by decide⟩
  case h_2 =>
    cases List.mem_singleton.mp hd
    exact ⟨fun service h => ⟨.inventory, by cases h; rfl, by decide⟩, by decide⟩
  case h_3 =>
    cases List.mem_singleton.mp hd
    exact ⟨fun service h => ⟨.fraud, by cases h; rfl, by decide⟩, by decide⟩
  case h_4 =>
    cases List.mem_singleton.mp hd
    exact ⟨fun service h => ⟨.shipping, by cases h; rfl, by decide⟩, by decide⟩
  case h_5 =>
    obtain ⟨action, -, rfl⟩ := List.mem_map.mp hd
    unfold compensation
    split
    · refine ⟨fun service h => ⟨.payment, by cases h; rfl, by simp [EventType.topic, Component.topics, paymentService]⟩, ?_⟩
      intro t ht
      cases List.mem_singleton.mp ht
      decide
    · refine ⟨fun service h => (by cases h), ?_⟩
      intro t ht
      cases List.mem_singleton.mp ht
      decide
  case h_6 => cases hd

theorem SagaRow.resolves_request (hd : d ∈ s.duties) {service : Service} (hs : d.service = some service)
    (orderId : String) (state : Option SagaState) :
    Resolves service.consumerName state d.request orderId (SendsAnswer d.answers orderId) := by
  intro component c hc name n amb e conforms type about bad fine
  obtain ⟨-, -, -, services⟩ := SagaRow.duties_types hd
  obtain rfl := service_of_name hc (services service hs) name
  obtain ⟨m, answer, t, ht, carries, topic⟩ := @SagaRow.answered _ _ hd _ hs amb _ conforms type
  subst about
  exact Service.processEvent_sends answer ⟨t, ht, m, rfl, carries, topic⟩

theorem SagaRow.resolves_answer (regular : s.Regular) (hd : d ∈ s.duties) {t : EventType} (ht : t ∈ d.answers) (orderId : String) :
    Resolves SagaOrchestrator.consumerName (some s.state) t orderId (d.acts orderId) := by
  intro component c hc name n amb e conforms type about bad fine
  obtain rfl := saga_of_name hc name
  subst about
  have leaves : ∀ state, s.state = state → (∀ t' ∈ d.answers, (transition t' (some state)).any (·.1 ≠ state) = true) →
      d.acts = Leaves state →
      (processEvent amb e).Meets (Seeing (some s.state) e.aggregateId) (d.acts e.aggregateId) bad fun _ => False := by
    intro state hstate accepts acts
    obtain ⟨⟨target, types⟩, accepted, other⟩ := (Option.any_eq_true _ _).mp (type ▸ accepts t ht)
    refine (processEvent_leaves conforms.worded (show (transition e.eventType (some state)).isSome by simp [accepted]) (fine _) ?_).mono ?_
      (fun _ h => h) (fun _ => .inr) fun _ => id
    · intro target' types' row accepted' is about
      rw [accepted] at accepted'
      cases accepted'
      rw [acts]
      exact ⟨row, rfl, about, is ▸ of_decide_eq_true other⟩
    · intro call r seeing
      cases call with
      | getSagaByAggregateId aggregateId => exact fun same => hstate ▸ (seeing same).1
      | _ => trivial
  unfold SagaRow.duties at hd
  split at hd
  case h_1 state | h_2 state | h_3 state | h_4 state =>
    cases List.mem_singleton.mp hd
    exact leaves _ state (by decide) rfl
  case h_5 state =>
    obtain ⟨action, opened, rfl⟩ := List.mem_map.mp hd
    obtain ⟨reports, acts⟩ : reported t = some action ∧ (compensation action).acts = ReportsTo action := by
      rcases regular.openCompensations state opened with rfl | rfl <;> cases List.mem_singleton.mp ht <;> exact ⟨rfl, rfl⟩
    rw [acts]
    refine (processEvent_reports (type ▸ reports) (fine _)).mono ?_ (fun _ h => h) (fun _ => .inr) fun _ => id
    intro call r seeing
    cases call with
    | getSagaByAggregateId aggregateId =>
      intro same
      obtain ⟨shows, own⟩ := seeing same
      obtain ⟨s', rfl, hs'⟩ := Option.map_eq_some_iff.mp shows
      exact ⟨s', rfl, hs'.trans state, (own s' rfl).1.trans same.symm⟩
    | _ => trivial
  case h_6 => cases hd

end

/-- What the handler of an answer does. -/
theorem SagaRow.acts_cases {s : SagaRow} {d : Duty} (hd : d ∈ s.duties) {orderId : String} {c : Call}
    (acts : d.acts orderId c) : Starts orderId c ∨
      (s.state = .compensating ∧ ∀ action, d = compensation action → ReportsTo action orderId c) := by
  unfold SagaRow.duties at hd
  split at hd
  case h_1 | h_2 | h_3 | h_4 =>
    cases List.mem_singleton.mp hd
    obtain ⟨row, call, about, -⟩ := acts
    exact .inl ⟨row, call, about⟩
  case h_5 state =>
    refine .inr ⟨state, ?_⟩
    rintro action rfl
    unfold compensation at acts
    split at acts <;> exact acts
  case h_6 => cases hd

end Fulfillment
