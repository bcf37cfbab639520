import Fulfillment.Contracts.Order
import Fulfillment.Saga.Safety

/-!
# Compensation undoes what was done

The identifiers, the amount and the items of an order travel through the saga's
context. `Traced` ties the context to the accepted events it came from,
`Agrees` ties the emitted messages to the context.
-/

namespace Fulfillment

open Js Effects SagaOrchestrator

def Message.field (m : Message) (k : String) : Option Json :=
  match m.value with
  | .event e => e.payload.get k
  | .deadLetter _ => none

/-! ## Which event was accepted -/

def Never (t : EventType) (events : List EventEnvelope) : Prop := ∀ e ∈ events, e.eventType ≠ t

/-- The one accepted event of the type. -/
def Only (t : EventType) (events : List EventEnvelope) (e : EventEnvelope) : Prop :=
  e ∈ events ∧ e.eventType = t ∧ ∀ e' ∈ events, e'.eventType = t → e' = e

section

variable {t : EventType} {events : List EventEnvelope} {e : EventEnvelope}

theorem Never.cons (h : Never t events) (he : e.eventType ≠ t) : Never t (e :: events) :=
  List.forall_mem_cons.mpr ⟨he, h⟩

theorem Only.cons {x : EventEnvelope} (h : Only t events x) (he : e.eventType ≠ t) : Only t (e :: events) x := by
  obtain ⟨hx, ht, unique⟩ := h
  exact ⟨List.mem_cons_of_mem _ hx, ht, List.forall_mem_cons.mpr ⟨fun h => absurd h he, unique⟩⟩

theorem Never.only (h : Never t events) (he : e.eventType = t) : Only t (e :: events) e :=
  ⟨List.mem_cons_self, he, List.forall_mem_cons.mpr ⟨fun _ => rfl, fun e' hm ht => absurd ht (h e' hm)⟩⟩

end

/-! ## Where the context comes from -/

def ValidOrder (e : EventEnvelope) : Prop :=
  e.eventType = .orderCreated → orderCreatedPayloadSchema (some (.obj e.payload)) = true

/-- Amount and items are those of the order, and no default replaces them. -/
structure Ordered (events : List EventEnvelope) (ctx : SagaContext) : Prop where
  origin : ∃ e, Only .orderCreated events e ∧ ctx.totalAmount = e.payload.get "total_amount" ∧
    ctx.items = e.payload.get "items"
  amount : some (orElse ctx.totalAmount (.num 0)) = ctx.totalAmount
  items : some (orElse ctx.items (.arr [])) = ctx.items

def Authorized (events : List EventEnvelope) (ctx : SagaContext) : Prop :=
  ∃ e, Only .paymentAuthorized events e ∧ ctx.paymentId = e.payload.get "payment_id"

def Reserved (events : List EventEnvelope) (ctx : SagaContext) : Prop :=
  ∃ e, Only .inventoryReserved events e ∧ ctx.reservationId = e.payload.get "reservation_id"

/-- The pending compensations are those of the steps that were done. -/
def Undoing (events : List EventEnvelope) (ctx : SagaContext) : Prop :=
  ctx.compensationsPending = some ["PAYMENT_REFUND"] ∧ Never .inventoryReserved events ∨
  ctx.compensationsPending = some bothCompensations ∧ Reserved events ctx

/-- What a state says about the accepted events. -/
def StateTraced (events : List EventEnvelope) (ctx : SagaContext) : SagaState → Prop
  | .paymentPending => Never .paymentAuthorized events ∧ Never .inventoryReserved events
  | .inventoryPending => Authorized events ctx ∧ Never .inventoryReserved events
  | .fraudPending | .shippingPending | .completed => Authorized events ctx ∧ Reserved events ctx
  | .compensating => Authorized events ctx ∧ Undoing events ctx ∧
    ¬∀ a ∈ pendingCompensations ctx, a ∈ ctx.compensationsCompleted.getD []
  | .cancelled => Authorized events ctx ∧ Undoing events ctx ∧
    ∀ a ∈ pendingCompensations ctx, a ∈ ctx.compensationsCompleted.getD []
  | .failed => True
  | _ => False

structure Traced (events : List EventEnvelope) (s : SagaRow) : Prop where
  ordered : Ordered events s.context
  state : StateTraced events s.context s.state

/-- A message says what the context says. -/
structure Agrees (orderId : String) (ctx : SagaContext) (m : Message) : Prop where
  requested : m.Carries .paymentRequested orderId → m.field "amount" = ctx.totalAmount
  reserved : m.Carries .inventoryReservationRequested orderId → m.field "items" = ctx.items
  refunded : m.Carries .paymentRefundRequested orderId →
    m.field "payment_id" = ctx.paymentId ∧ m.field "amount" = ctx.totalAmount
  released : m.Carries .inventoryReleased orderId →
    m.field "reservation_id" = ctx.reservationId ∧ m.field "items" = ctx.items ∧
      ctx.compensationsPending = some bothCompensations

section

variable {events : List EventEnvelope} {e : EventEnvelope} {ctx ctx' : SagaContext} {orderId : String}

theorem Ordered.cons (h : Ordered events ctx) (he : e.eventType ≠ .orderCreated)
    (amount : ctx'.totalAmount = ctx.totalAmount) (items : ctx'.items = ctx.items) :
    Ordered (e :: events) ctx' := by
  obtain ⟨x, only, hamount, hitems⟩ := h.origin
  refine ⟨⟨x, only.cons he, amount.trans hamount, items.trans hitems⟩, ?_, ?_⟩
  · rw [amount]
    exact h.amount
  · rw [items]
    exact h.items

theorem Authorized.cons (h : Authorized events ctx) (he : e.eventType ≠ .paymentAuthorized)
    (hid : ctx'.paymentId = ctx.paymentId) : Authorized (e :: events) ctx' := by
  obtain ⟨x, only, hx⟩ := h
  exact ⟨x, only.cons he, hid.trans hx⟩

theorem Reserved.cons (h : Reserved events ctx) (he : e.eventType ≠ .inventoryReserved)
    (hid : ctx'.reservationId = ctx.reservationId) : Reserved (e :: events) ctx' := by
  obtain ⟨x, only, hx⟩ := h
  exact ⟨x, only.cons he, hid.trans hx⟩

theorem Undoing.cons (h : Undoing events ctx) (he : e.eventType ≠ .inventoryReserved)
    (pending : ctx'.compensationsPending = ctx.compensationsPending)
    (hid : ctx'.reservationId = ctx.reservationId) : Undoing (e :: events) ctx' := by
  rcases h with ⟨hp, never⟩ | ⟨hp, reserved⟩
  · exact .inl ⟨pending.trans hp, never.cons he⟩
  · exact .inr ⟨pending.trans hp, reserved.cons he hid⟩

/-- A message of another kind says nothing the context could contradict. -/
theorem agrees_of_carries {m : Message} (t : EventType) (h : m.Carries t orderId)
    (requested : t = .paymentRequested → m.field "amount" = ctx.totalAmount)
    (reserved : t = .inventoryReservationRequested → m.field "items" = ctx.items)
    (refunded : t = .paymentRefundRequested →
      m.field "payment_id" = ctx.paymentId ∧ m.field "amount" = ctx.totalAmount)
    (released : t = .inventoryReleased → m.field "reservation_id" = ctx.reservationId ∧
      m.field "items" = ctx.items ∧ ctx.compensationsPending = some bothCompensations) :
    Agrees orderId ctx m where
  requested hc := requested ((carries_iff h).mp hc)
  reserved hc := reserved ((carries_iff h).mp hc)
  refunded hc := refunded ((carries_iff h).mp hc)
  released hc := released ((carries_iff h).mp hc)

/-- The context may be extended while nothing is compensated. -/
theorem Agrees.extend {m : Message} (h : Agrees orderId ctx m)
    (uncompensated : ∀ t ∈ compensationRequests, ¬m.Carries t orderId)
    (amount : ctx'.totalAmount = ctx.totalAmount) (items : ctx'.items = ctx.items) : Agrees orderId ctx' m where
  requested hc := (h.requested hc).trans amount.symm
  reserved hc := (h.reserved hc).trans items.symm
  refunded hc := absurd hc (uncompensated _ (by decide))
  released hc := absurd hc (uncompensated _ (by decide))

theorem agrees_refund (ordered : Ordered events ctx) (uuid now reason : String) (about : e.aggregateId = orderId) :
    Agrees orderId ctx (paymentRefundRequested e uuid now ctx reason) := by
  subst about
  refine agrees_of_carries .paymentRefundRequested (carries_caused ..) nofun nofun (fun _ => ?_) nofun
  constructor
  · exact get_record (by simp) (by simp)
  · exact (get_record (by simp) (by simp)).trans ordered.amount

theorem agrees_release (ordered : Ordered events ctx) (uuid now releasedAt reason : String)
    (about : e.aggregateId = orderId) (both : ctx.compensationsPending = some bothCompensations) :
    Agrees orderId ctx (inventoryReleased e uuid now releasedAt ctx reason) := by
  subst about
  refine agrees_of_carries .inventoryReleased (carries_caused ..) nofun nofun nofun (fun _ => ⟨?_, ?_, both⟩)
  · exact get_record (by simp) (by simp)
  · exact (get_record (by simp) (by simp)).trans ordered.items

end

/-- What the saga, its history and the messages it owes have to do with each other. -/
def Provenance (orderId : String) : Option SagaRow → List (Except JsError Message) → List Logged → Prop
  | none, owed, log => owed = [] ∧ accepted log = [] ∧
      ∀ e m acked, (e, .sent m acked) ∈ log → ∀ t, ¬m.Carries t orderId
  | some s, owed, log => Traced (accepted log) s ∧ (∀ m, .ok m ∈ owed → Agrees orderId s.context m) ∧
      ∀ e m acked, (e, .sent m acked) ∈ log → Agrees orderId s.context m

section

variable {orderId : String} {amb : Ambient} {e : EventEnvelope} {s row : SagaRow}
  {emissions : List (Except JsError Message)} {events : List EventEnvelope}

/-- What a transition of a stored saga does to its context, and that its messages agree. -/
structure Carried (orderId : String) (e : EventEnvelope) (events : List EventEnvelope) (s row : SagaRow)
    (emissions : List (Except JsError Message)) : Prop where
  traced : Traced (e :: events) row
  owed : ∀ m, .ok m ∈ emissions → Agrees orderId row.context m
  amount : row.context.totalAmount = s.context.totalAmount
  items : row.context.items = s.context.items

theorem created_traced (valid : orderCreatedPayloadSchema (some (.obj e.payload)) = true)
    (ht : e.eventType = .orderCreated) (about : e.aggregateId = orderId) {row : SagaRow}
    (h : onOrderCreated amb e none = .advance row emissions) :
    Traced [e] row ∧ ∀ m, .ok m ∈ emissions → Agrees orderId row.context m := by
  obtain ⟨⟨items, hitems, titems⟩, amount, hamount, tamount⟩ := orderCreatedPayload_items_amount valid
  obtain ⟨rfl, rfl⟩ : _ = row ∧ _ = emissions := by
    simpa only [onOrderCreated, Option.any_none, Bool.false_eq_true, if_false, Reaction.advance.injEq] using h
  have only : Only .orderCreated [e] e := Never.only (fun _ hm => by cases hm) ht
  refine ⟨⟨⟨⟨e, only, rfl, rfl⟩, ?_, ?_⟩, ?_, ?_⟩, fun m hm => ?_⟩
  · simp only [hamount, orElse_of_truthy tamount]
  · simp only [hitems, orElse_of_truthy titems]
  · simp [Never, ht]
  · simp [Never, ht]
  · obtain rfl : m = _ := by simpa using hm
    subst about
    exact agrees_of_carries .paymentRequested (carries_caused ..) (fun _ => get_record (by simp) (by simp))
      (fun h => by cases h) (fun h => by cases h) (fun h => by cases h)

theorem agrees_other {ctx : SagaContext} {m : Message} (t : EventType) (carries : m.Carries t orderId)
    (other : t ∉ [.paymentRequested, .inventoryReservationRequested, .paymentRefundRequested, .inventoryReleased]) :
    Agrees orderId ctx m := by
  simp only [List.mem_cons, List.not_mem_nil, or_false, not_or] at other
  obtain ⟨h1, h2, h3, h4⟩ := other
  exact agrees_of_carries t carries (fun h => absurd h h1) (fun h => absurd h h2) (fun h => absurd h h3)
    (fun h => absurd h h4)

theorem Traced.inState (h : Traced events s) {state : SagaState} (hs : s.state = state) :
    StateTraced events s.context state :=
  hs ▸ h.state

/-- The beginning of a compensation. -/
theorem compensating_traced (e : EventEnvelope) (h : Traced events s) (authorized : Authorized events s.context)
    (he : e.eventType ≠ .orderCreated) (he' : e.eventType ≠ .paymentAuthorized) (state : row.state = .compensating)
    (amount : row.context.totalAmount = s.context.totalAmount) (items : row.context.items = s.context.items)
    (payment : row.context.paymentId = s.context.paymentId) (undoing : Undoing (e :: events) row.context)
    (nothing : row.context.compensationsCompleted = some []) : Traced (e :: events) row := by
  refine ⟨h.ordered.cons he amount items, ?_⟩
  rw [state]
  refine ⟨authorized.cons he' payment, undoing, fun all => ?_⟩
  have refund : "PAYMENT_REFUND" ∈ pendingCompensations row.context := by
    rcases undoing with ⟨hp, -⟩ | ⟨hp, -⟩ <;> simp [pendingCompensations, hp, bothCompensations]
  exact absurd (all _ refund) (by simp [nothing])

section

variable (h : Traced events s) (about : e.aggregateId = orderId)

include h about

theorem paymentAuthorized_carried (ht : e.eventType = .paymentAuthorized) (hs : s.state = .paymentPending)
    (reacts : onPaymentAuthorized amb e s = .advance row emissions) :
    Carried orderId e events s row emissions := by
  obtain ⟨rfl, rfl⟩ := Reaction.advance.inj reacts
  obtain ⟨unauthorized, unreserved⟩ := h.inState hs
  refine ⟨⟨h.ordered.cons (by simp [ht]) rfl rfl, ⟨e, unauthorized.only ht, rfl⟩, unreserved.cons (by simp [ht])⟩,
    fun m hm => ?_, rfl, rfl⟩
  obtain rfl := Except.ok.inj (List.mem_singleton.mp hm)
  subst about
  exact agrees_of_carries .inventoryReservationRequested (carries_caused ..) nofun
    (fun _ => (get_record (by simp) (by simp)).trans h.ordered.items) nofun nofun

theorem paymentRejected_carried (ht : e.eventType = .paymentRejected)
    (reacts : onPaymentRejected amb e s = .ok (.advance row emissions)) :
    Carried orderId e events s row emissions := by
  cases hr : text (e.payload.get "reason") with
  | error err => simp [onPaymentRejected, hr, bind, Except.bind] at reacts
  | ok reason =>
    rw [onPaymentRejected, hr] at reacts
    obtain ⟨rfl, rfl⟩ := Reaction.advance.inj (Except.ok.inj reacts)
    refine ⟨⟨h.ordered.cons (by simp [ht]) rfl rfl, trivial⟩, fun m hm => ?_, rfl, rfl⟩
    obtain rfl := Except.ok.inj (List.mem_singleton.mp hm)
    subst about
    exact agrees_other .orderFailed (carries_caused ..) (by decide)

theorem inventoryReserved_carried (ht : e.eventType = .inventoryReserved) (hs : s.state = .inventoryPending)
    (reacts : onInventoryReserved amb e s = .advance row emissions) :
    Carried orderId e events s row emissions := by
  obtain ⟨rfl, rfl⟩ := Reaction.advance.inj reacts
  obtain ⟨authorized, unreserved⟩ := h.inState hs
  refine ⟨⟨h.ordered.cons (by simp [ht]) rfl rfl, authorized.cons (by simp [ht]) rfl, ⟨e, unreserved.only ht, rfl⟩⟩,
    fun m hm => ?_, rfl, rfl⟩
  obtain rfl := Except.ok.inj (List.mem_singleton.mp hm)
  subst about
  exact agrees_other .fraudCheckRequested (carries_caused ..) (by decide)

theorem inventoryReservationFailed_carried (ht : e.eventType = .inventoryReservationFailed)
    (hs : s.state = .inventoryPending) (reacts : onInventoryReservationFailed amb e s = .ok (.advance row emissions)) :
    Carried orderId e events s row emissions := by
  cases hr : text (e.payload.get "reason") with
  | error err => simp [onInventoryReservationFailed, hr, bind, Except.bind] at reacts
  | ok reason =>
    rw [onInventoryReservationFailed, hr] at reacts
    obtain ⟨authorized, unreserved⟩ := h.inState hs
    obtain ⟨hrow, hsends⟩ := Reaction.advance.inj (Except.ok.inj reacts)
    have undoing : Undoing (e :: events) row.context := by
      rw [← hrow]
      exact .inl ⟨rfl, unreserved.cons (by simp [ht])⟩
    have traced : Traced (e :: events) row := by
      refine compensating_traced e h authorized (by simp [ht]) (by simp [ht]) ?_ ?_ ?_ ?_ undoing ?_ <;>
        rw [← hrow] <;> rfl
    subst hrow hsends
    refine ⟨traced, fun m hm => ?_, rfl, rfl⟩
    obtain rfl := Except.ok.inj (List.mem_singleton.mp hm)
    exact agrees_refund traced.ordered _ _ _ about

theorem fraudApproved_carried (ht : e.eventType = .fraudApproved) (hs : s.state = .fraudPending)
    (reacts : onFraudApproved amb e s = .advance row emissions) :
    Carried orderId e events s row emissions := by
  obtain ⟨rfl, rfl⟩ := Reaction.advance.inj reacts
  obtain ⟨authorized, reserved⟩ := h.inState hs
  refine ⟨⟨h.ordered.cons (by simp [ht]) rfl rfl, authorized.cons (by simp [ht]) rfl, reserved.cons (by simp [ht]) rfl⟩,
    fun m hm => ?_, rfl, rfl⟩
  obtain rfl := Except.ok.inj (List.mem_singleton.mp hm)
  subst about
  exact agrees_other .shipmentRequested (carries_caused ..) (by decide)

/-- Both compensations, after a fraud rejection or a failed shipment. -/
theorem both_carried (authorized : Authorized events s.context) (reserved : Reserved events s.context)
    (he : e.eventType ≠ .orderCreated) (he' : e.eventType ≠ .paymentAuthorized)
    (he'' : e.eventType ≠ .inventoryReserved) (state : row.state = .compensating)
    (amount : row.context.totalAmount = s.context.totalAmount) (items : row.context.items = s.context.items)
    (payment : row.context.paymentId = s.context.paymentId)
    (reservation : row.context.reservationId = s.context.reservationId)
    (pending : row.context.compensationsPending = some bothCompensations)
    (nothing : row.context.compensationsCompleted = some [])
    {uuid now releasedAt uuid' now' reason : String}
    (sends : emissions = [.ok (inventoryReleased e uuid now releasedAt row.context reason),
      .ok (paymentRefundRequested e uuid' now' row.context reason)]) :
    Carried orderId e events s row emissions := by
  have traced := compensating_traced e h authorized he he' state amount items payment
    (.inr ⟨pending, reserved.cons he'' reservation⟩) nothing
  refine ⟨traced, fun m hm => ?_, amount, items⟩
  subst sends
  rcases List.mem_cons.mp hm with hm | hm
  · obtain rfl := Except.ok.inj hm
    exact agrees_release traced.ordered _ _ _ _ about pending
  · obtain rfl := Except.ok.inj (List.mem_singleton.mp hm)
    exact agrees_refund traced.ordered _ _ _ about

theorem fraudRejected_carried (ht : e.eventType = .fraudRejected) (hs : s.state = .fraudPending)
    (reacts : onFraudRejected amb e s = .ok (.advance row emissions)) : Carried orderId e events s row emissions := by
  cases hr : text (e.payload.get "reason") with
  | error err => simp [onFraudRejected, hr, bind, Except.bind] at reacts
  | ok reason =>
    rw [onFraudRejected, hr] at reacts
    obtain ⟨rfl, rfl⟩ := Reaction.advance.inj (Except.ok.inj reacts)
    obtain ⟨authorized, reserved⟩ := h.inState hs
    exact both_carried h about authorized reserved (by simp [ht]) (by simp [ht]) (by simp [ht]) rfl rfl rfl rfl rfl
      rfl rfl rfl

theorem shipmentFailed_carried (ht : e.eventType = .shipmentFailed) (hs : s.state = .shippingPending)
    (reacts : onShipmentFailed amb e s = .ok (.advance row emissions)) : Carried orderId e events s row emissions := by
  cases hr : text (e.payload.get "reason") with
  | error err => simp [onShipmentFailed, hr, bind, Except.bind] at reacts
  | ok reason =>
    rw [onShipmentFailed, hr] at reacts
    obtain ⟨rfl, rfl⟩ := Reaction.advance.inj (Except.ok.inj reacts)
    obtain ⟨authorized, reserved⟩ := h.inState hs
    exact both_carried h about authorized reserved (by simp [ht]) (by simp [ht]) (by simp [ht]) rfl rfl rfl rfl rfl
      rfl rfl rfl

theorem shipmentCreated_carried (ht : e.eventType = .shipmentCreated) (hs : s.state = .shippingPending)
    (reacts : onShipmentCreated amb e s = .advance row emissions) : Carried orderId e events s row emissions := by
  obtain ⟨row', emissions', hr, ha⟩ := onShipmentCreated_advances amb s ht
  obtain ⟨rfl, rfl⟩ := Reaction.advance.inj (hr.symm.trans reacts)
  have owes : ∀ m, .ok m ∈ emissions' → Agrees orderId row'.context m := by
    intro m hm
    subst about
    cases ha.owes with
    | cons completed rest =>
      cases rest with
      | cons notified rest =>
        cases rest
        rcases List.mem_cons.mp hm with hm | hm
        · exact agrees_other .orderCompleted (completed m hm.symm) (by decide)
        · exact agrees_other .notificationRequested (notified m (List.mem_singleton.mp hm).symm) (by decide)
  obtain ⟨rfl, -⟩ := Reaction.advance.inj reacts
  obtain ⟨authorized, reserved⟩ := h.inState hs
  exact ⟨⟨h.ordered.cons (by simp [ht]) rfl rfl, authorized.cons (by simp [ht]) rfl, reserved.cons (by simp [ht]) rfl⟩,
    owes, rfl, rfl⟩

/-- Every transition of a stored saga carries the context on. -/
theorem react_carried (reacts : react amb e (some s) = .ok (.advance row emissions)) :
    Carried orderId e events s row emissions := by
  obtain ⟨target, types, moves, -⟩ := transition_of_react reacts
  rw [Option.map_some] at moves
  unfold transition at moves
  split at moves
  case h_1 hs => cases hs
  case h_2 ht hs => exact absurd (h.inState (Option.some.inj hs)) id
  case h_3 ht hs =>
    simp only [react, ht, inState, if_pos (Option.some.inj hs)] at reacts
    exact paymentAuthorized_carried h about ht (Option.some.inj hs) (Except.ok.inj reacts)
  case h_4 ht hs =>
    simp only [react, ht, inState, if_pos (Option.some.inj hs)] at reacts
    exact paymentRejected_carried h about ht reacts
  case h_5 ht hs =>
    simp only [react, ht, inState, if_pos (Option.some.inj hs)] at reacts
    exact inventoryReserved_carried h about ht (Option.some.inj hs) (Except.ok.inj reacts)
  case h_6 ht hs =>
    simp only [react, ht, inState, if_pos (Option.some.inj hs)] at reacts
    exact inventoryReservationFailed_carried h about ht (Option.some.inj hs) reacts
  case h_7 ht hs =>
    simp only [react, ht, inState, if_pos (Option.some.inj hs)] at reacts
    exact fraudApproved_carried h about ht (Option.some.inj hs) (Except.ok.inj reacts)
  case h_8 ht hs =>
    simp only [react, ht, inState, if_pos (Option.some.inj hs)] at reacts
    exact fraudRejected_carried h about ht (Option.some.inj hs) reacts
  case h_9 ht hs =>
    simp only [react, ht, inState, if_pos (Option.some.inj hs)] at reacts
    exact shipmentCreated_carried h about ht (Option.some.inj hs) (Except.ok.inj reacts)
  case h_10 ht hs =>
    simp only [react, ht, inState, if_pos (Option.some.inj hs)] at reacts
    exact shipmentFailed_carried h about ht (Option.some.inj hs) reacts
  case h_11 => cases moves

end

theorem reported_ne {t : EventType} {action : String} (h : reported t = some action) :
    t ≠ .orderCreated ∧ t ≠ .paymentAuthorized ∧ t ≠ .inventoryReserved := by
  refine ⟨?_, ?_, ?_⟩ <;> rintro rfl <;> cases h

theorem report_traced (h : Traced events s) (compensating : s.state = .compensating) {action : String}
    (reports : reported e.eventType = some action) (orderId correlationId : String) :
    Traced (e :: events) (s.afterReport orderId action correlationId) := by
  obtain ⟨he, he', he''⟩ := reported_ne reports
  obtain ⟨authorized, undoing, -⟩ := h.inState compensating
  refine ⟨h.ordered.cons he rfl rfl, ?_⟩
  have all_iff : allCompensationsCompleted s.context action = true ↔
      ∀ a ∈ pendingCompensations s.context, a ∈ withCompleted s.context action := by
    simp [allCompensationsCompleted]
  cases hall : allCompensationsCompleted s.context action with
  | true =>
    have state : (s.afterReport orderId action correlationId).state = .cancelled := by
      simp [SagaRow.afterReport, SagaRow.mergedInto, barrierRow, hall]
    rw [state]
    exact ⟨authorized.cons he' rfl, undoing.cons he'' rfl rfl, all_iff.mp hall⟩
  | false =>
    have state : (s.afterReport orderId action correlationId).state = .compensating := by
      simp [SagaRow.afterReport, SagaRow.mergedInto, barrierRow, hall]
    rw [state]
    exact ⟨authorized.cons he' rfl, undoing.cons he'' rfl rfl, fun all => by simp [all_iff.mpr all] at hall⟩

theorem agrees_of_silent {ctx : SagaContext} {m : Message} (h : ∀ t, ¬m.Carries t orderId) :
    Agrees orderId ctx m :=
  ⟨fun hc => absurd hc (h _), fun hc => absurd hc (h _), fun hc => absurd hc (h _), fun hc => absurd hc (h _)⟩

theorem not_carries_of_timesLogged {log : List Logged} {t : EventType} (h : timesLogged orderId t log = 0)
    {m : Message} {acked : Bool} (hm : (e, .sent m acked) ∈ log) : ¬m.Carries t orderId := by
  intro carries
  have emission : Entry.isEmission orderId t (.sent m acked) = true := decide_eq_true carries
  exact List.countP_eq_zero.mp h _ (List.mem_map_of_mem hm) emission

theorem sent_after_save {P : Message → Prop} {log : List Logged} (row : SagaRow)
    (old : ∀ e m acked, (e, .sent m acked) ∈ log → P m) :
    ∀ e' m acked, (e', .sent m acked) ∈ (e, .saved row) :: log → P m := by
  intro e' m acked hm
  rcases List.mem_cons.mp hm with heq | hm
  · exact Entry.noConfusion (Prod.mk.inj heq).2
  · exact old e' m acked hm

theorem sent_after_send {P : Message → Prop} {log : List Logged} {m' : Message} {acked' : Bool} (new : P m')
    (old : ∀ e m acked, (e, .sent m acked) ∈ log → P m) :
    ∀ e' m acked, (e', .sent m acked) ∈ (e, .sent m' acked') :: log → P m := by
  intro e' m acked hm
  rcases List.mem_cons.mp hm with heq | hm
  · obtain ⟨rfl, -⟩ := Entry.sent.inj (Prod.mk.inj heq).2
    exact new
  · exact old e' m acked hm

theorem SagaLog.provenance {saga : Option SagaRow} {owed : List (Except JsError Message)} {log : List Logged}
    (h : SagaLog orderId saga owed log) (valid : ∀ x ∈ log, ValidOrder x.1) : Provenance orderId saga owed log := by
  induction h with
  | start => exact ⟨rfl, rfl, fun _ _ _ h => absurd h List.not_mem_nil⟩
  | @advance saga owed log amb e row emissions before about reacts ih =>
    have previous := ih fun x hx => valid x (List.mem_cons_of_mem _ hx)
    have validE : ValidOrder e := valid (e, .saved row) List.mem_cons_self
    cases saga with
    | none =>
      obtain ⟨-, hacc, silent⟩ := previous
      obtain ⟨target, types, moves, -⟩ := transition_of_react reacts
      have ht : e.eventType = .orderCreated := by
        unfold transition at moves
        split at moves <;> first | assumption | simp_all
      simp only [react, ht] at reacts
      obtain ⟨traced, agrees⟩ := created_traced (validE ht) ht about (Except.ok.inj reacts)
      refine ⟨⟨?_, ?_⟩, agrees, sent_after_save _ fun e m acked hm => agrees_of_silent (silent e m acked hm)⟩
      · rw [accepted_saved, hacc]
        exact traced.ordered
      · rw [accepted_saved, hacc]
        exact traced.state
    | some s =>
      obtain ⟨traced, -, sent⟩ := previous
      obtain ⟨target, types, moves, -⟩ := transition_of_react reacts
      obtain ⟨types', -, facts⟩ := before.facts
      have open_ := open_of_transition moves
      have carried := react_carried traced about reacts
      refine ⟨⟨carried.traced.ordered, carried.traced.state⟩, carried.owed,
        sent_after_save _ fun e m acked hm => (sent e m acked hm).extend (fun t ht => ?_) carried.amount carried.items⟩
      refine not_carries_of_timesLogged (facts.uncompensated (fun hc => ?_) (fun hc => ?_) t ht) hm
      · cases open_ _ hc
      · cases open_ _ hc
  | @report s owed log amb e action before about compensating reports ih =>
    obtain ⟨traced, -, sent⟩ := ih fun x hx => valid x (List.mem_cons_of_mem _ hx)
    refine ⟨report_traced traced compensating reports orderId e.correlationId, fun m hm => ?_,
      sent_after_save _ fun e m acked hm => ?_⟩
    · obtain ⟨notice, -, hm⟩ := List.mem_map.mp hm
      obtain rfl := Except.ok.inj hm
      exact agrees_other .orderCancelled ⟨rfl, _, rfl, rfl, rfl⟩ (by decide)
    · obtain ⟨requested, reserved, refunded, released⟩ := sent e m acked hm
      exact ⟨requested, reserved, refunded, released⟩
  | @emit saga owed log e m acked before ih =>
    have previous := ih fun x hx => valid x (List.mem_cons_of_mem _ hx)
    cases saga with
    | none => simp [Provenance] at previous
    | some s =>
      obtain ⟨traced, owes, sent⟩ := previous
      exact ⟨traced, fun m' hm' => owes m' (List.mem_cons_of_mem _ hm'),
        sent_after_send (owes m List.mem_cons_self) sent⟩
  | @deadLetter saga owed log e key p acked before ih =>
    have previous := ih fun x hx => valid x (List.mem_cons_of_mem _ hx)
    have silent : ∀ t, ¬(⟨Topics.dlq, key, .deadLetter p⟩ : Message).Carries t orderId := by
      rintro t ⟨-, e', he', -⟩
      cases he'
    cases saga with
    | none =>
      obtain ⟨howed, hacc, sent⟩ := previous
      exact ⟨howed, hacc, sent_after_send silent sent⟩
    | some s =>
      obtain ⟨traced, owes, sent⟩ := previous
      exact ⟨traced, owes, sent_after_send (agrees_of_silent silent) sent⟩

end

/-- An event of the order is handled; any call of its handling may fail. -/
inductive Handled (orderId : String) : SagaRun → SagaRun → Prop
  | handle {r : SagaRun} (amb : Ambient) (e : EventEnvelope) (oracle : List Call → Call → Outcome JsError)
      (about : e.aggregateId = orderId) (valid : ValidOrder e) :
    Handled orderId r (r.after e (processEvent amb e) oracle)

def handlings (orderId : String) : System SagaRun where
  init := Untouched orderId
  step := Handled orderId

theorem reachable_provenance {orderId : String} {r : SagaRun} (h : Reachable (handlings orderId) r) :
    HasLog orderId r ∧ ∀ x ∈ r.log, ValidOrder x.1 := by
  refine h.invariant (fun r => HasLog orderId r ∧ ∀ x ∈ r.log, ValidOrder x.1) ?_ ?_
  · intro r untouched
    exact ⟨untouched.hasLog, by simp [untouched.log]⟩
  · rintro r r' - ⟨hasLog, valid⟩ (step : Handled orderId r r')
    cases step with
    | handle amb e oracle about validE =>
      refine ⟨handled_logged hasLog amb about oracle, fun x hx => ?_⟩
      rcases List.mem_append.mp hx with hx | hx
      · obtain ⟨entry, -, rfl⟩ := List.mem_map.mp hx
        exact validE
      · exact valid x hx

/-- A saga that requested a compensation is compensating or cancelled. -/
theorem undoing_of_sent {orderId : String} {log : List Logged} {s : SagaRow} {m : Message}
    {e : EventEnvelope} {acked : Bool} {types : List EventType}
    (facts : Facts orderId (some s.state) types log) (traced : Traced (accepted log) s)
    (sent : (e, .sent m acked) ∈ log)
    {t : EventType} (ht : t ∈ compensationRequests) (carries : m.Carries t orderId) :
    Authorized (accepted log) s.context ∧ Undoing (accepted log) s.context := by
  have closed : s.state = .compensating ∨ s.state = .cancelled := by
    by_contra hs
    rw [not_or] at hs
    refine not_carries_of_timesLogged (facts.uncompensated ?_ ?_ t ht) sent carries
    · simpa using hs.1
    · simpa using hs.2
  rcases closed with hc | hc
  · exact ⟨(traced.inState hc).1, (traced.inState hc).2.1⟩
  · exact ⟨(traced.inState hc).1, (traced.inState hc).2.1⟩

theorem released_iff_reserved {events : List EventEnvelope} {ctx : SagaContext} (undoing : Undoing events ctx) :
    ∃ pending, ctx.compensationsPending = some pending ∧ "PAYMENT_REFUND" ∈ pending ∧
      ("INVENTORY_RELEASE" ∈ pending ↔ ∃ e ∈ events, e.eventType = .inventoryReserved) := by
  rcases undoing with ⟨hp, never⟩ | ⟨hp, e, ⟨he, ht, -⟩, -⟩
  · refine ⟨_, hp, by simp, ⟨fun h => by simp at h, ?_⟩⟩
    rintro ⟨e, he, ht⟩
    exact absurd ht (never e he)
  · exact ⟨_, hp, by simp [bothCompensations], ⟨fun _ => ⟨e, he, ht⟩, fun _ => by simp [bothCompensations]⟩⟩

def sampleEvents : List EventEnvelope :=
  [ sampleEvent "evt_1" .orderCreated
      [ ("order_id", .str "ord_1"),
        ("user_id", .str "usr_1"),
        ("items", .arr [.obj [("sku", .str "sku_1"), ("name", .str "Pen"), ("price", .num 2), ("quantity", .num 3)]]),
        ("total_amount", .num 6) ],
    sampleEvent "evt_2" .paymentAuthorized [("payment_id", .str "pay_1")],
    sampleEvent "evt_3" .inventoryReservationFailed [("reason", .str "OUT_OF_STOCK")],
    sampleEvent "evt_4" .paymentRefunded [("payment_id", .str "pay_1")] ]

/-- The events one after another, no call failing. -/
def refundedRun : SagaRun :=
  sampleEvents.foldl (fun r e => r.after e (processEvent sampleAmbient e) fun _ _ => .ok) ⟨.empty, []⟩

theorem handled_foldl {orderId : String} {events : List EventEnvelope} {r : SagaRun}
    (h : Reachable (handlings orderId) r) (about : ∀ e ∈ events, e.aggregateId = orderId)
    (valid : ∀ e ∈ events, ValidOrder e) :
    Reachable (handlings orderId)
      (events.foldl (fun r e => r.after e (processEvent sampleAmbient e) fun _ _ => .ok) r) := by
  induction events generalizing r with
  | nil => exact h
  | cons e events ih =>
    obtain ⟨hae, hae'⟩ := List.forall_mem_cons.mp about
    obtain ⟨hve, hve'⟩ := List.forall_mem_cons.mp valid
    exact ih (h.next (.handle sampleAmbient e _ hae hve)) hae' hve'

theorem refundedRun_reachable : Reachable (handlings "ord_1") refundedRun := by
  refine handled_foldl (.start ⟨empty_wellKeyed, rfl, rfl, rfl⟩) (by decide) ?_
  unfold ValidOrder
  decide

end Fulfillment
