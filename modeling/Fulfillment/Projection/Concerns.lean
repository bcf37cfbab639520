import Fulfillment.Projection.Mutations

/-!
# What the statements of an event touch

Every statement of an event is about the order of its aggregate, about a
payment or a shipment named in its payload, or about stock.
-/

namespace Fulfillment

open Js

inductive Change.Concerns (pg : Postgres) (e : EventEnvelope) : Change → Prop
  | nothing : Change.Concerns pg e .nothing
  | insertOrder (row : OrderView) (merge : OrderView → OrderView) :
    Change.Concerns pg e (.upsert (.order e.aggregateId) row merge)
  | updateOrder (f : OrderView → OrderView) : Change.Concerns pg e (.update (.order e.aggregateId) f)
  | insertPayment (paymentId : String) (row : PaymentView) (merge : PaymentView → PaymentView)
      (named : pg.paramText (e.payload.get "payment_id") = some paymentId) (owner : row.orderId = e.aggregateId)
      (keeps : ∀ old, (merge old).orderId = old.orderId) :
    Change.Concerns pg e (.upsert (.payment paymentId) row merge)
  | refundPayments (f : PaymentView → PaymentView) (keeps : ∀ old, (f old).orderId = old.orderId) :
    Change.Concerns pg e (.updatePayments e.aggregateId f)
  | stock (sku : String) (f : InventoryView → InventoryView) : Change.Concerns pg e (.update (.inventory sku) f)
  | insertShipment (shipmentId : String) (row : ShipmentView) (merge : ShipmentView → ShipmentView)
      (named : pg.paramText (e.payload.get "shipment_id") = some shipmentId) (owner : row.orderId = e.aggregateId)
      (keeps : ∀ old, (merge old).orderId = old.orderId) :
    Change.Concerns pg e (.upsert (.shipment shipmentId) row merge)

variable {pg : Postgres}

theorem stockChange_returns {set : Int → InventoryView → InventoryView} {item : Json} {occurredAt : String}
    {change : Change} (h : stockChange pg set item occurredAt = .ok change) :
    change = .nothing ∨ ∃ sku f, change = .update (.inventory sku) f := by
  unfold stockChange at h
  obtain ⟨quantity, -, h⟩ := bind_returns h
  obtain ⟨sku, -, h⟩ := bind_returns h
  obtain ⟨quantity, -, h⟩ := bind_returns h
  obtain ⟨time, -, h⟩ := bind_returns h
  obtain ⟨sku, -, h⟩ := bind_returns h
  cases sku with
  | none =>
    cases h
    exact .inl rfl
  | some sku =>
    cases h
    exact .inr ⟨sku, _, rfl⟩

/-- What the change of a statement is. -/
inductive Change.Of (pg : Postgres) : Mutation → Change → Prop
  | insertOrder {orderId userId totalAmount currency items occurredAt} (row : OrderView) (merge : OrderView → OrderView) :
    Change.Of pg (.insertOrder orderId userId totalAmount currency items occurredAt) (.upsert (.order orderId) row merge)
  | updateOrder {orderId status columns occurredAt} (f : OrderView → OrderView) :
    Change.Of pg (.updateOrder orderId status columns occurredAt) (.update (.order orderId) f)
  | insertPayment {named orderId userId amount authorizationCode occurredAt} (paymentId : String) (row : PaymentView)
      (merge : PaymentView → PaymentView) (name : pg.paramText named = some paymentId) (owner : row.orderId = orderId)
      (keeps : ∀ old, (merge old).orderId = old.orderId) (fixed : merge row = row)
      (again : ∀ old, merge (merge old) = merge old) :
    Change.Of pg (.insertPayment named orderId userId amount authorizationCode occurredAt)
      (.upsert (.payment paymentId) row merge)
  | refundPayments {orderId refundId occurredAt} (f : PaymentView → PaymentView)
      (keeps : ∀ old, (f old).orderId = old.orderId) (again : ∀ old, f (f old) = f old) :
    Change.Of pg (.refundPayments orderId refundId occurredAt) (.updatePayments orderId f)
  | reserveNothing {item occurredAt} : Change.Of pg (.reserveStock item occurredAt) .nothing
  | reserve {item occurredAt} (sku : String) (f : InventoryView → InventoryView) :
    Change.Of pg (.reserveStock item occurredAt) (.update (.inventory sku) f)
  | releaseNothing {item occurredAt} : Change.Of pg (.releaseStock item occurredAt) .nothing
  | release {item occurredAt} (sku : String) (f : InventoryView → InventoryView) :
    Change.Of pg (.releaseStock item occurredAt) (.update (.inventory sku) f)
  | insertShipment {named orderId trackingNumber carrier estimatedDelivery occurredAt} (shipmentId : String)
      (row : ShipmentView) (merge : ShipmentView → ShipmentView) (name : pg.paramText named = some shipmentId)
      (owner : row.orderId = orderId) (keeps : ∀ old, (merge old).orderId = old.orderId) (fixed : merge row = row)
      (again : ∀ old, merge (merge old) = merge old) :
    Change.Of pg (.insertShipment named orderId trackingNumber carrier estimatedDelivery occurredAt)
      (.upsert (.shipment shipmentId) row merge)

theorem change_of {m : Mutation} {change : Change} (h : m.change pg = .ok change) : Change.Of pg m change := by
  unfold Mutation.change at h
  cases m with
  | insertOrder orderId userId totalAmount currency items occurredAt =>
    obtain ⟨_, -, h⟩ := bind_returns h
    obtain ⟨_, -, h⟩ := bind_returns h
    obtain ⟨_, -, h⟩ := bind_returns h
    obtain ⟨_, -, h⟩ := bind_returns h
    obtain ⟨_, -, h⟩ := bind_returns h
    obtain ⟨_, -, h⟩ := bind_returns h
    cases h
    exact .insertOrder _ _
  | updateOrder orderId status columns occurredAt =>
    obtain ⟨_, -, h⟩ := bind_returns h
    obtain ⟨_, -, h⟩ := bind_returns h
    obtain ⟨_, -, h⟩ := bind_returns h
    cases h
    exact .updateOrder _
  | insertPayment paymentId orderId userId amount authorizationCode occurredAt =>
    obtain ⟨paymentId, named, h⟩ := bind_returns h
    obtain ⟨_, -, h⟩ := bind_returns h
    obtain ⟨_, -, h⟩ := bind_returns h
    obtain ⟨_, -, h⟩ := bind_returns h
    obtain ⟨_, -, h⟩ := bind_returns h
    obtain ⟨_, -, h⟩ := bind_returns h
    cases h
    exact .insertPayment paymentId _ _ (varchar_returns (notNull_returns named)) rfl (fun _ => rfl) rfl fun _ => rfl
  | refundPayments orderId refundId occurredAt =>
    obtain ⟨_, -, h⟩ := bind_returns h
    obtain ⟨_, -, h⟩ := bind_returns h
    obtain ⟨_, -, h⟩ := bind_returns h
    cases h
    exact .refundPayments _ (fun _ => rfl) fun _ => rfl
  | reserveStock item occurredAt =>
    rcases stockChange_returns h with rfl | ⟨sku, f, rfl⟩
    · exact .reserveNothing
    · exact .reserve sku f
  | releaseStock item occurredAt =>
    rcases stockChange_returns h with rfl | ⟨sku, f, rfl⟩
    · exact .releaseNothing
    · exact .release sku f
  | insertShipment shipmentId orderId trackingNumber carrier estimatedDelivery occurredAt =>
    obtain ⟨shipmentId, named, h⟩ := bind_returns h
    obtain ⟨_, -, h⟩ := bind_returns h
    obtain ⟨_, -, h⟩ := bind_returns h
    obtain ⟨_, -, h⟩ := bind_returns h
    obtain ⟨_, -, h⟩ := bind_returns h
    obtain ⟨_, -, h⟩ := bind_returns h
    cases h
    exact .insertShipment shipmentId _ _ (varchar_returns (notNull_returns named)) rfl (fun _ => rfl) rfl fun _ => rfl

/-- The statements of an event name its order, and payments and shipments of its payload. -/
def Mutation.IsAbout (e : EventEnvelope) : Mutation → Prop
  | .insertOrder orderId _ _ _ _ _ | .updateOrder orderId _ _ _ | .refundPayments orderId _ _ => orderId = e.aggregateId
  | .insertPayment paymentId orderId _ _ _ _ => paymentId = e.payload.get "payment_id" ∧ orderId = e.aggregateId
  | .insertShipment shipmentId orderId _ _ _ _ => shipmentId = e.payload.get "shipment_id" ∧ orderId = e.aggregateId
  | .reserveStock _ _ | .releaseStock _ _ => True

theorem mutations_about (e : EventEnvelope) : ∀ m ∈ mutations e, m.IsAbout e := by
  unfold mutations
  cases e.eventType <;> simp [Mutation.IsAbout]

theorem change_concerns {e : EventEnvelope} {m : Mutation} (hm : m ∈ mutations e) {change : Change}
    (h : m.change pg = .ok change) : change.Concerns pg e := by
  have about := mutations_about e m hm
  cases change_of h with
  | insertOrder row merge =>
    cases about
    exact .insertOrder row merge
  | updateOrder f =>
    cases about
    exact .updateOrder f
  | insertPayment paymentId row merge name owner keeps fixed again =>
    obtain ⟨rfl, rfl⟩ := about
    exact .insertPayment paymentId row merge name owner keeps
  | refundPayments f keeps again =>
    cases about
    exact .refundPayments f keeps
  | reserveNothing | releaseNothing => exact .nothing
  | reserve sku f | release sku f => exact .stock sku f
  | insertShipment shipmentId row merge name owner keeps fixed again =>
    obtain ⟨rfl, rfl⟩ := about
    exact .insertShipment shipmentId row merge name owner keeps

theorem changesOf_returns {ms : List Mutation} {changes : List Change} (h : changesOf pg ms = .ok changes) :
    ∀ change ∈ changes, ∃ m ∈ ms, m.change pg = .ok change := by
  induction ms generalizing changes with
  | nil =>
    cases h
    nofun
  | cons m rest ih =>
    obtain ⟨first, hfirst, h⟩ := bind_returns h
    obtain ⟨others, hothers, h⟩ := bind_returns h
    cases h
    intro change hchange
    rcases List.mem_cons.mp hchange with rfl | hchange
    · exact ⟨m, List.mem_cons_self, hfirst⟩
    · obtain ⟨m', hm', hm⟩ := ih hothers change hchange
      exact ⟨m', List.mem_cons_of_mem m hm', hm⟩

theorem changesOfEvent_concern {e : EventEnvelope} {changes : List Change} (h : changesOfEvent pg e = .ok changes) :
    ∀ change ∈ changes, change.Concerns pg e := by
  intro change hchange
  obtain ⟨m, hm, hread⟩ := changesOf_returns h change hchange
  exact change_concerns hm hread

/-! ## Tables -/

inductive ModelTable
  | orders
  | payments
  | inventory
  | shipments
  deriving DecidableEq, Repr

def ModelKey.table : ModelKey → ModelTable
  | .order _ => .orders
  | .payment _ => .payments
  | .inventory _ => .inventory
  | .shipment _ => .shipments

def Mutation.table : Mutation → ModelTable
  | .insertOrder _ _ _ _ _ _ | .updateOrder _ _ _ _ => .orders
  | .insertPayment _ _ _ _ _ _ | .refundPayments _ _ _ => .payments
  | .reserveStock _ _ | .releaseStock _ _ => .inventory
  | .insertShipment _ _ _ _ _ _ => .shipments

/-- A statement is about one table. -/
theorem change_frame {m : Mutation} {change : Change} (h : m.change pg = .ok change) {k : ModelKey}
    (other : k.table ≠ m.table) (models : ReadModels) : change.apply models k = models k := by
  cases change_of h with
  | insertOrder | insertPayment | insertShipment =>
    exact ReadModels.upsert_of_ne models (fun same => other (congrArg ModelKey.table same)) _ _
  | updateOrder | reserve | release =>
    exact ReadModels.update_of_ne models (fun same => other (congrArg ModelKey.table same)) _
  | refundPayments =>
    cases k with
    | payment paymentId => exact absurd rfl other
    | order _ | inventory _ | shipment _ => rfl
  | reserveNothing | releaseNothing => rfl

theorem changesOf_frame {ms : List Mutation} {k : ModelKey} (others : ∀ m ∈ ms, k.table ≠ m.table)
    {changes : List Change} (h : changesOf pg ms = .ok changes) (models : ReadModels) :
    applyChanges changes models k = models k := by
  induction ms generalizing changes models with
  | nil =>
    cases h
    rfl
  | cons m ms ih =>
    obtain ⟨change, hchange, h⟩ := bind_returns h
    obtain ⟨rest, hrest, h⟩ := bind_returns h
    cases h
    calc applyChanges rest (change.apply models) k
        = change.apply models k := ih (fun m' hm' => others m' (List.mem_cons_of_mem _ hm')) hrest _
      _ = models k := change_frame hchange (others m List.mem_cons_self) models

end Fulfillment
