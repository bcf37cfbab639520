import Fulfillment.Js.Number

/-!
# `RealtimeConsumer`

The bridge from Kafka to the sockets. Its two tables are object literals, so a
lookup of a name that every object inherits finds something there.
-/

namespace Fulfillment

open Js

/-- What a property of an object literal is: its own, or one that `Object.prototype` has. -/
inductive Looked (α : Type)
  | own (value : α)
  | inherited (name : String)
  deriving DecidableEq

/-- The names of `Object.prototype`; their values are functions, but for `__proto__`, an object. -/
def objectPrototype : List String :=
  [ "constructor", "__defineGetter__", "__defineSetter__", "hasOwnProperty", "__lookupGetter__", "__lookupSetter__",
    "isPrototypeOf", "propertyIsEnumerable", "toString", "valueOf", "__proto__", "toLocaleString" ]

/-- `table[k]`. -/
def lookupIn {α : Type} (table : List (String × α)) (k : String) : Option (Looked α) :=
  match table.lookup k with
  | some value => some (.own value)
  | none => if k ∈ objectPrototype then some (.inherited k) else none

/-- The texts of `orderStatusSchema`. -/
def orderStatusSchema : List String :=
  [ "pending", "payment_pending", "payment_processing", "payment_approved", "payment_rejected", "inventory_pending",
    "inventory_reserved", "inventory_failed", "fraud_pending", "fraud_approved", "fraud_rejected", "shipping_pending",
    "shipping_created", "shipping_failed", "completed", "compensating", "cancelled", "failed" ]

inductive Broadcast
  | orderCreated (orderId userId status : String) (totalAmount : Number)
  | orderUpdated (orderId : String) (status : Option (Looked String))
  | orderEvent (orderId eventType : String) (topic : Looked String) (timestamp : String)
  deriving DecidableEq

namespace RealtimeConsumer

def statusByType : List (String × String) :=
  [ ("payment.approved", "payment_approved"),
    ("inventory.reserved", "inventory_reserved"),
    ("notification.sent", "completed") ]

def topicByType : List (String × String) :=
  [ ("order.created", "orders"),
    ("payment.approved", "payments"),
    ("inventory.reserved", "inventory"),
    ("notification.sent", "notifications") ]

/-- `v` if `typeof v === 'string'`, else `d`. -/
def stringOr (d : String) : Option Json → String
  | some (.str s) => s
  | _ => d

/-- What follows the type tests. `now` is the clock. -/
def broadcasts (now : String) (event : Fields) (type orderId : String) : Except JsError (List Broadcast) :=
  match lookupIn topicByType type with
  | none => .ok []
  | some topic =>
    let orderEvent := Broadcast.orderEvent orderId type topic (stringOr now (event.get "timestamp"))
    if type = "order.created" then
      (toNumber (event.get "total_amount")).map fun totalAmount =>
        [.orderCreated orderId (stringOr "unknown" (event.get "user_id")) "pending" totalAmount.orZero, orderEvent]
    else .ok [.orderUpdated orderId (lookupIn statusByType type), orderEvent]

/-- The broadcasts in their order, or the exception. A value that is no object has
neither a `type` nor an `order_id`. -/
def handleEvent (now raw : String) : Except JsError (List Broadcast) :=
  match Json.parse raw with
  | some (.obj event) =>
    match Fields.get event "type", Fields.get event "order_id" with
    | some (.str type), some (.str orderId) => broadcasts now event type orderId
    | _, _ => .ok []
  | _ => .ok []

end RealtimeConsumer

/-! ## What the bridge is for -/

/-- The text is an object with a type and an order. -/
structure NamesEvent (raw : String) (event : Fields) (type orderId : String) : Prop where
  parsed : Json.parse raw = some (.obj event)
  type : event.get "type" = some (.str type)
  orderId : event.get "order_id" = some (.str orderId)

/-- The order's own broadcast, with a status of the schema. -/
def Broadcast.Mirrors (type orderId : String) : Broadcast → Prop
  | .orderCreated id _ status _ => type = "order.created" ∧ id = orderId ∧ status ∈ orderStatusSchema
  | .orderUpdated id (some (.own status)) => type ≠ "order.created" ∧ id = orderId ∧ status ∈ orderStatusSchema
  | _ => False

/-- Exactly the four types are bridged, each by one broadcast of its kind and one to the timeline. -/
def BridgesExactly (now raw : String) : Prop :=
  ∃ sent, RealtimeConsumer.handleEvent now raw = .ok sent ∧
    (sent ≠ [] ↔ ∃ event type orderId, NamesEvent raw event type orderId ∧
      (RealtimeConsumer.topicByType.lookup type).isSome = true) ∧
    ∀ event type orderId topic, NamesEvent raw event type orderId → RealtimeConsumer.topicByType.lookup type = some topic →
      ∃ order timestamp, sent = [order, .orderEvent orderId type (.own topic) timestamp] ∧ order.Mirrors type orderId

/-- The type is no inherited name, and the amount of a new order can be made a number. -/
def Bridgeable (raw : String) : Prop :=
  ∀ event type orderId, NamesEvent raw event type orderId →
    type ∉ objectPrototype ∧ (type = "order.created" → (toNumber (event.get "total_amount")).isOk = true)

theorem NamesEvent.unique {raw : String} {event event' : Fields} {type type' orderId orderId' : String}
    (h : NamesEvent raw event type orderId) (h' : NamesEvent raw event' type' orderId') :
    event' = event ∧ type' = type ∧ orderId' = orderId := by
  obtain ⟨parsed, htype, horder⟩ := h
  obtain ⟨parsed', htype', horder'⟩ := h'
  obtain rfl : event = event' := by simpa [parsed] using parsed'
  rw [htype] at htype'
  rw [horder] at horder'
  cases htype'
  cases horder'
  exact ⟨rfl, rfl, rfl⟩

theorem handleEvent_of_names {raw : String} {event : Fields} {type orderId : String}
    (h : NamesEvent raw event type orderId) (now : String) :
    RealtimeConsumer.handleEvent now raw = RealtimeConsumer.broadcasts now event type orderId := by
  rw [RealtimeConsumer.handleEvent, h.parsed]
  simp only [h.type, h.orderId]

theorem handleEvent_of_none {raw : String} (h : ∀ event type orderId, ¬NamesEvent raw event type orderId) (now : String) :
    RealtimeConsumer.handleEvent now raw = .ok [] := by
  unfold RealtimeConsumer.handleEvent
  split
  · rename_i event parsed
    split
    · rename_i type orderId htype horder
      exact absurd ⟨parsed, htype, horder⟩ (h event type orderId)
    · rfl
  · rfl

/-- The inherited names are none of the four types. -/
theorem own_of_topic {type topic : String} (h : RealtimeConsumer.topicByType.lookup type = some topic) :
    type ∉ objectPrototype ∧
      (type ≠ "order.created" → ∃ status ∈ orderStatusSchema, RealtimeConsumer.statusByType.lookup type = some status) := by
  obtain ⟨before, after, split, -⟩ := List.lookup_eq_some_iff.mp h
  have listed : (type, topic) ∈ RealtimeConsumer.topicByType := by simp [split]
  simp only [RealtimeConsumer.topicByType, List.mem_cons, Prod.mk.injEq, List.not_mem_nil, or_false] at listed
  rcases listed with ⟨rfl, -⟩ | ⟨rfl, -⟩ | ⟨rfl, -⟩ | ⟨rfl, -⟩
  · exact ⟨by decide, fun other => absurd rfl other⟩
  · exact ⟨by decide, fun _ => ⟨"payment_approved", by decide, rfl⟩⟩
  · exact ⟨by decide, fun _ => ⟨"inventory_reserved", by decide, rfl⟩⟩
  · exact ⟨by decide, fun _ => ⟨"completed", by decide, rfl⟩⟩

/-- An event of one of the four types. -/
theorem broadcasts_of_topic {event : Fields} {type orderId topic : String}
    (h : RealtimeConsumer.topicByType.lookup type = some topic)
    (amount : type = "order.created" → (toNumber (event.get "total_amount")).isOk = true) (now : String) :
    ∃ order timestamp, RealtimeConsumer.broadcasts now event type orderId =
        .ok [order, .orderEvent orderId type (.own topic) timestamp] ∧ order.Mirrors type orderId := by
  have found : lookupIn RealtimeConsumer.topicByType type = some (.own topic) := by rw [lookupIn, h]
  simp only [RealtimeConsumer.broadcasts, found]
  by_cases created : type = "order.created"
  · simp only [if_pos created]
    cases number : toNumber (event.get "total_amount") with
    | error err =>
      have ok := amount created
      rw [number] at ok
      cases ok
    | ok n => exact ⟨_, _, rfl, created, rfl, by decide⟩
  · simp only [if_neg created]
    obtain ⟨status, member, hstatus⟩ := (own_of_topic h).2 created
    have looked : lookupIn RealtimeConsumer.statusByType type = some (.own status) := by rw [lookupIn, hstatus]
    rw [looked]
    exact ⟨_, _, rfl, created, rfl, member⟩

/-- An event of any other type. -/
theorem broadcasts_of_other {event : Fields} {type orderId : String}
    (h : RealtimeConsumer.topicByType.lookup type = none) (now : String) :
    RealtimeConsumer.broadcasts now event type orderId = .ok [] ↔ type ∉ objectPrototype := by
  by_cases inherited : type ∈ objectPrototype
  · have found : lookupIn RealtimeConsumer.topicByType type = some (.inherited type) := by
      simp only [lookupIn, h, if_pos inherited]
    have other : type ≠ "order.created" := by
      rintro rfl
      cases h
    simp [RealtimeConsumer.broadcasts, found, other, inherited]
  · have missing : lookupIn RealtimeConsumer.topicByType type = none := by
      simp only [lookupIn, h, if_neg inherited]
    simp [RealtimeConsumer.broadcasts, missing, inherited]

/-- For every text the bridge does what it is for just if the text is bridgeable. -/
theorem bridges_exactly_iff (now raw : String) : BridgesExactly now raw ↔ Bridgeable raw := by
  by_cases names : ∃ event type orderId, NamesEvent raw event type orderId
  · obtain ⟨event, type, orderId, named⟩ := names
    have handled := handleEvent_of_names named now
    have bridgeable : Bridgeable raw ↔
        type ∉ objectPrototype ∧ (type = "order.created" → (toNumber (event.get "total_amount")).isOk = true) := by
      constructor
      · exact fun h => h event type orderId named
      · intro h event' type' orderId' named'
        obtain ⟨rfl, rfl, rfl⟩ := named.unique named'
        exact h
    rw [bridgeable, BridgesExactly, handled]
    cases htopic : RealtimeConsumer.topicByType.lookup type with
    | none =>
      constructor
      · rintro ⟨sent, returned, accepted, -⟩
        have silent : sent = [] := by
          by_contra loud
          obtain ⟨event', type', orderId', named', listed⟩ := accepted.mp loud
          obtain ⟨-, rfl, -⟩ := named.unique named'
          rw [htopic] at listed
          cases listed
        refine ⟨(broadcasts_of_other htopic now).mp (silent ▸ returned), ?_⟩
        rintro rfl
        cases htopic
      · rintro ⟨own, -⟩
        refine ⟨[], (broadcasts_of_other htopic now).mpr own, ?_, ?_⟩
        · constructor
          · exact fun loud => absurd rfl loud
          · rintro ⟨event', type', orderId', named', listed⟩
            obtain ⟨-, rfl, -⟩ := named.unique named'
            rw [htopic] at listed
            cases listed
        · intro event' type' orderId' topic' named' listed
          obtain ⟨-, rfl, -⟩ := named.unique named'
          rw [htopic] at listed
          cases listed
    | some topic =>
      constructor
      · rintro ⟨sent, returned, -, -⟩
        refine ⟨(own_of_topic htopic).1, ?_⟩
        rintro rfl
        have found : lookupIn RealtimeConsumer.topicByType "order.created" = some (.own "orders") := rfl
        simp only [RealtimeConsumer.broadcasts, found, if_true] at returned
        cases number : toNumber (event.get "total_amount") with
        | error err =>
          rw [number] at returned
          cases returned
        | ok n => rfl
      · rintro ⟨-, amount⟩
        obtain ⟨order, timestamp, returned, mirrors⟩ := @broadcasts_of_topic event type orderId topic htopic amount now
        refine ⟨_, returned, ?_, ?_⟩
        · constructor
          · exact fun _ => ⟨event, type, orderId, named, by rw [htopic]; rfl⟩
          · exact fun _ => List.cons_ne_nil _ _
        · intro event' type' orderId' topic' named' listed
          obtain ⟨rfl, rfl, rfl⟩ := named.unique named'
          rw [htopic] at listed
          cases listed
          exact ⟨order, timestamp, rfl, mirrors⟩
  · have none : ∀ event type orderId, ¬NamesEvent raw event type orderId :=
      fun event type orderId named => names ⟨event, type, orderId, named⟩
    constructor
    · exact fun _ event type orderId named => absurd named (none event type orderId)
    · intro _
      refine ⟨[], handleEvent_of_none none now, ?_, ?_⟩
      · constructor
        · exact fun loud => absurd rfl loud
        · rintro ⟨event, type, orderId, named, -⟩
          exact absurd named (none event type orderId)
      · exact fun event type orderId _ named => absurd named (none event type orderId)

/-- An event whose type is the name of an inherited method is broadcast. -/
theorem inherited_type_bridged : ¬∀ now raw, BridgesExactly now raw := by
  intro exactly
  obtain ⟨sent, returned, accepted, -⟩ := exactly "" "\x7b\"type\":\"toString\",\"order_id\":\"ord_1\"\x7d"
  have sends : RealtimeConsumer.handleEvent "" "\x7b\"type\":\"toString\",\"order_id\":\"ord_1\"\x7d" =
      .ok [.orderUpdated "ord_1" (some (.inherited "toString")), .orderEvent "ord_1" "toString" (.inherited "toString") ""] := by
    decide +kernel
  rw [sends] at returned
  cases returned
  obtain ⟨event, type, orderId, named, listed⟩ := accepted.mp (List.cons_ne_nil _ _)
  have parsed : Json.parse "\x7b\"type\":\"toString\",\"order_id\":\"ord_1\"\x7d" =
      some (.obj [("type", .str "toString"), ("order_id", .str "ord_1")]) := by
    decide +kernel
  obtain ⟨-, rfl, -⟩ := NamesEvent.unique ⟨parsed, rfl, rfl⟩ named
  cases listed

end Fulfillment
