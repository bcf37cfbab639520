import Fulfillment.Contracts.Order
import Fulfillment.Orders.CreateOrder
import Fulfillment.Projection.Mutations
import Mathlib

/-!
# `POST /orders`

What the handler lets through is unchecked JSON, so `createOrder` is stated
here over that, with a total that is not rounded. `orderCreatedPayload_eq` says
that it is the same function where there is nothing to round.
-/

namespace Fulfillment

open Js

/-- `v` if `typeof v === 'number'`. -/
def numberValue : Option Json → Option Rat
  | some (.num q) => some q
  | _ => none

/-- The arguments of `createOrder` as the handler passes them on. -/
structure PostedOrder where
  userId : Json
  items : List Json
  currency : Option Json

namespace PostOrders

/-- The condition in the loop over the items, negated. -/
def validItem (item : Json) : Except JsError Bool := do
  let sku ← property item "sku"
  if !truthy sku then return false
  let name ← property item "name"
  if !truthy name then return false
  let price ← property item "price"
  if (numberValue price).isNone then return false
  let quantity ← property item "quantity"
  return (numberValue quantity).isSome

def validItems : List Json → Except JsError Bool
  | [] => .ok true
  | item :: items => (validItem item).bind fun valid => if valid then validItems items else .ok false

/-- The order that reaches the service; `none` is the answer 400, an error the answer 500. -/
def handler (body : Json) : Except JsError (Option PostedOrder) := do
  let userId ← property body "user_id"
  let items ← property body "items"
  let currency ← property body "currency"
  match userId, items with
  | some userId, some (.arr items) =>
    if !truthy (some userId) || items.isEmpty then return none
    let valid ← validItems items
    return if valid then some ⟨userId, items, currency⟩ else none
  | _, _ => return none

end PostOrders

/-- A property that an item of a posted order was tested for. -/
def itemProperty (item : Json) (k : String) : Option Json :=
  match item with
  | .obj fs => Fields.get fs k
  | _ => none

namespace PostedOrder

variable (posted : PostedOrder)

/-- `item.price * item.quantity`. -/
def amount (item : Json) : Rat :=
  (numberValue (itemProperty item "price")).getD 0 * (numberValue (itemProperty item "quantity")).getD 0

/-- The sum before it is rounded to a double, which keeps it positive. -/
def totalAmount : Rat := posted.items.foldl (fun sum item => sum + amount item) 0

def orderCreatedPayload (orderUuid : String) : Fields :=
  [ ("order_id", .str ("ord_" ++ slice8 orderUuid)),
    ("user_id", posted.userId),
    ("items", .arr posted.items),
    ("total_amount", .num posted.totalAmount),
    ("currency", orElse posted.currency (.str "USD")),
    ("shipping_address", .obj [("country", .str "US")]) ]

end PostedOrder

/-- The JSON that a typed call is made of. -/
def CreateOrder.posted (c : CreateOrder) : PostedOrder :=
  ⟨.str c.userId, c.items.map OrderItem.toJson, c.options.currency.map .str⟩

theorem orderCreatedPayload_eq (c : CreateOrder) (exact : c.totalAmount = .finite c.posted.totalAmount) :
    c.posted.orderCreatedPayload c.orderUuid = c.orderCreatedPayload := by
  have currency : orElse (c.options.currency.map .str) (.str "USD") = .str ((orNull c.options.currency).getD "USD") := by
    cases given : c.options.currency with
    | none => rfl
    | some s => by_cases empty : s = "" <;> simp [orElse, truthy, orNull, empty]
  simp only [PostedOrder.orderCreatedPayload, CreateOrder.orderCreatedPayload, exact, Number.toJson]
  simp only [CreateOrder.posted, currency]
  rfl

/-! ## What the contract asks besides -/

structure ItemTyped (item : Json) : Prop where
  sku : ∃ s, itemProperty item "sku" = some (.str s)
  name : ∃ s, itemProperty item "name" = some (.str s)
  price : ∀ q, numberValue (itemProperty item "price") = some q → 0 < q
  quantity : ∀ q, numberValue (itemProperty item "quantity") = some q → 0 < q ∧ q.den = 1

/-- Texts where texts belong, positive prices and whole positive quantities. -/
structure PostedOrder.Typed (posted : PostedOrder) : Prop where
  userId : ∃ s, posted.userId = .str s
  currency : ∀ v, posted.currency = some v → truthy (some v) = true → ∃ s, v = .str s
  items : ∀ item ∈ posted.items, ItemTyped item

/-- What the handler has seen to. -/
structure ItemSeen (item : Json) : Prop where
  object : ∃ fs, item = .obj fs
  sku : truthy (itemProperty item "sku") = true
  name : truthy (itemProperty item "name") = true
  price : (numberValue (itemProperty item "price")).isSome = true
  quantity : (numberValue (itemProperty item "quantity")).isSome = true

theorem property_returns {item : Json} {k : String} {v : Option Json} (h : property item k = .ok v) :
    v = itemProperty item k := by
  cases item with
  | null => cases h
  | obj fs => exact (Except.ok.inj h).symm
  | bool | num | str | arr => exact (Except.ok.inj h).symm

theorem validItem_seen {item : Json} (h : PostOrders.validItem item = .ok true) : ItemSeen item := by
  unfold PostOrders.validItem at h
  obtain ⟨sku, hsku, h⟩ := bind_returns h
  rw [property_returns hsku] at h
  split at h
  · cases h
  · rename_i present
    obtain ⟨name, hname, h⟩ := bind_returns h
    rw [property_returns hname] at h
    split at h
    · cases h
    · rename_i named
      obtain ⟨price, hprice, h⟩ := bind_returns h
      rw [property_returns hprice] at h
      split at h
      · cases h
      · rename_i priced
        obtain ⟨quantity, hquantity, h⟩ := bind_returns h
        rw [property_returns hquantity] at h
        have sku : truthy (itemProperty item "sku") = true := by simpa using present
        refine ⟨?_, sku, by simpa using named, ?_, Except.ok.inj h⟩
        · cases item with
          | obj fs => exact ⟨fs, rfl⟩
          | null | bool | num | str | arr => cases sku
        · rwa [Bool.not_eq_true, ← Option.not_isSome, Bool.not_eq_false'] at priced

theorem validItems_seen {items : List Json} (h : PostOrders.validItems items = .ok true) : ∀ item ∈ items, ItemSeen item := by
  induction items with
  | nil =>
    intro item hitem
    cases hitem
  | cons item items ih =>
    obtain ⟨valid, hvalid, h⟩ := bind_returns h
    cases valid with
    | false => cases h
    | true =>
      rw [List.forall_mem_cons]
      exact ⟨validItem_seen hvalid, ih h⟩

theorem handler_seen {body : Json} {posted : PostedOrder} (h : PostOrders.handler body = .ok (some posted)) :
    truthy (some posted.userId) = true ∧ posted.items ≠ [] ∧ ∀ item ∈ posted.items, ItemSeen item := by
  unfold PostOrders.handler at h
  obtain ⟨userId, -, h⟩ := bind_returns h
  obtain ⟨items, -, h⟩ := bind_returns h
  obtain ⟨currency, -, h⟩ := bind_returns h
  split at h
  · rename_i userId items
    split at h
    · cases h
    · rename_i present
      obtain ⟨valid, hvalid, h⟩ := bind_returns h
      cases valid with
      | false => cases h
      | true =>
        cases h
        simp only [Bool.or_eq_true, Bool.not_eq_true', not_or, Bool.not_eq_false, List.isEmpty_iff] at present
        exact ⟨present.1, present.2, validItems_seen hvalid⟩
  · cases h

theorem numberValue_iff {v : Option Json} {q : Rat} : numberValue v = some q ↔ v = some (.num q) := by
  unfold numberValue
  split <;> simp_all

/-- For an item the two validators differ in these points. -/
theorem orderItemSchema_iff {item : Json} (seen : ItemSeen item) : orderItemSchema (some item) = true ↔ ItemTyped item := by
  obtain ⟨⟨fs, rfl⟩, sku, name, price, quantity⟩ := seen
  obtain ⟨p, hp⟩ := Option.isSome_iff_exists.mp price
  obtain ⟨q, hq⟩ := Option.isSome_iff_exists.mp quantity
  have text {k : String} (present : truthy (itemProperty (.obj fs) k) = true) :
      Zod.nonEmpty (Fields.get fs k) = true ↔ ∃ s, itemProperty (.obj fs) k = some (.str s) := by
    change truthy (Fields.get fs k) = true at present
    change Zod.nonEmpty (Fields.get fs k) = true ↔ ∃ s, Fields.get fs k = some (.str s)
    cases v : Fields.get fs k with
    | none => simp [Zod.nonEmpty]
    | some j =>
      rw [v] at present
      cases j with
      | str s => simpa [Zod.nonEmpty, truthy] using present
      | null | bool | num | arr | obj => simp [Zod.nonEmpty]
  have hp' : Fields.get fs "price" = some (.num p) := numberValue_iff.mp hp
  have hq' : Fields.get fs "quantity" = some (.num q) := numberValue_iff.mp hq
  simp only [orderItemSchema, Zod.object, List.all_cons, List.all_nil, Bool.and_true, Bool.and_eq_true, hp', hq',
    text sku, text name, Zod.positive, Zod.positiveInt, decide_eq_true_eq]
  constructor
  · rintro ⟨hsku, hname, hprice, hquantity⟩
    refine ⟨hsku, hname, ?_, ?_⟩
    · intro p' hp''
      rw [hp] at hp''
      cases hp''
      exact hprice
    · intro q' hq''
      rw [hq] at hq''
      cases hq''
      exact hquantity
  · rintro ⟨hsku, hname, hprice, hquantity⟩
    exact ⟨hsku, hname, hprice p hp, hquantity q hq⟩

theorem amount_pos {item : Json} (seen : ItemSeen item) (typed : ItemTyped item) : 0 < PostedOrder.amount item := by
  obtain ⟨p, hp⟩ := Option.isSome_iff_exists.mp seen.price
  obtain ⟨q, hq⟩ := Option.isSome_iff_exists.mp seen.quantity
  rw [PostedOrder.amount, hp, hq]
  exact Rat.mul_pos (typed.price p hp) (typed.quantity q hq).1

/-- Positive amounts have a positive sum. -/
theorem foldl_amounts_pos {items : List Json} (pos : ∀ item ∈ items, 0 < PostedOrder.amount item) :
    ∀ sum : Rat, 0 ≤ sum → (items ≠ [] ∨ 0 < sum) →
      0 < items.foldl (fun sum item => sum + PostedOrder.amount item) sum := by
  induction items with
  | nil =>
    rintro sum - (nonempty | positive)
    · exact absurd rfl nonempty
    · exact positive
  | cons item items ih =>
    intro sum nonneg _
    obtain ⟨first, rest⟩ := List.forall_mem_cons.mp pos
    have larger : 0 < sum + PostedOrder.amount item := add_pos_of_nonneg_of_pos nonneg first
    exact ih rest _ larger.le (.inr larger)

/-- An order that is let through makes a payload of the contract just if its values have
the types and signs that the handler does not look at. -/
theorem accepted_order_conforms_iff (body : Json) (orderUuid : String) (posted : PostedOrder)
    (accepted : PostOrders.handler body = .ok (some posted)) :
    orderCreatedPayloadSchema (some (.obj (posted.orderCreatedPayload orderUuid))) = true ↔ posted.Typed := by
  obtain ⟨user, nonempty, seen⟩ := handler_seen accepted
  have userId : Zod.nonEmpty (some posted.userId) = true ↔ ∃ s, posted.userId = .str s := by
    cases v : posted.userId with
    | str s => simpa [v, Zod.nonEmpty, truthy] using user
    | null | bool | num | arr | obj => simp [Zod.nonEmpty]
  have items : Zod.nonEmptyArray orderItemSchema (some (.arr posted.items)) = true ↔
      ∀ item ∈ posted.items, ItemTyped item := by
    rw [Zod.nonEmptyArray, decide_eq_true_eq, List.all_eq_true]
    constructor
    · exact fun conform item hitem => (orderItemSchema_iff (seen item hitem)).mp (conform.2 item hitem)
    · exact fun typed => ⟨nonempty, fun item hitem => (orderItemSchema_iff (seen item hitem)).mpr (typed item hitem)⟩
  have currency : Zod.optional Zod.string (some (orElse posted.currency (.str "USD"))) = true ↔
      ∀ v, posted.currency = some v → truthy (some v) = true → ∃ s, v = .str s := by
    cases given : posted.currency with
    | none => simp [orElse, Zod.optional, Zod.string]
    | some v =>
      by_cases present : truthy (some v) = true
      · rw [orElse_of_truthy present]
        cases v <;> simp [Zod.optional, Zod.string, present]
      · simp [orElse, present, Zod.optional, Zod.string]
  have schema : orderCreatedPayloadSchema (some (.obj (posted.orderCreatedPayload orderUuid))) = true ↔
      Zod.nonEmpty (some posted.userId) = true ∧
      Zod.nonEmptyArray orderItemSchema (some (.arr posted.items)) = true ∧ 0 < posted.totalAmount ∧
      Zod.optional Zod.string (some (orElse posted.currency (.str "USD"))) = true := by
    have order : Zod.nonEmpty (some (.str ("ord_" ++ slice8 orderUuid))) = true := by
      simp [Zod.nonEmpty, String.ext_iff]
    have fields : orderCreatedPayloadSchema (some (.obj (posted.orderCreatedPayload orderUuid))) =
        (Zod.nonEmpty (some (.str ("ord_" ++ slice8 orderUuid))) && (Zod.nonEmpty (some posted.userId) &&
          (Zod.nonEmptyArray orderItemSchema (some (.arr posted.items)) && (Zod.positive (some (.num posted.totalAmount)) &&
            (Zod.optional Zod.string (some (orElse posted.currency (.str "USD"))) && true))))) := rfl
    simp only [fields, order, Zod.positive, Bool.true_and, Bool.and_true, Bool.and_eq_true, decide_eq_true_eq]
  rw [schema, userId, items, currency]
  constructor
  · rintro ⟨hu, hi, -, hc⟩
    exact ⟨hu, hc, hi⟩
  · rintro ⟨hu, hc, hi⟩
    have total : 0 < posted.totalAmount := by
      apply foldl_amounts_pos _ 0 le_rfl (.inl nonempty)
      exact fun item hitem => amount_pos (seen item hitem) (hi item hitem)
    exact ⟨hu, hi, total, hc⟩

/-- One laptop at the given price. -/
def laptopBody (price : Rat) : Json :=
  .obj
    [ ("user_id", .str "usr_alice"),
      ("items", .arr [.obj
        [("sku", .str "LAPTOP-001"), ("name", .str "Laptop"), ("price", .num price), ("quantity", .num 1)]]) ]

def laptopPosted (price : Rat) : PostedOrder :=
  ⟨.str "usr_alice", [.obj
    [("sku", .str "LAPTOP-001"), ("name", .str "Laptop"), ("price", .num price), ("quantity", .num 1)]], none⟩

theorem laptop_accepted (price : Rat) : PostOrders.handler (laptopBody price) = .ok (some (laptopPosted price)) := rfl

theorem accepted_laptop_conforms : orderCreatedPayloadSchema
    (some (.obj ((laptopPosted 1200).orderCreatedPayload "5f0c9e1a-0000-4000-8000-000000000000"))) = true := by
  apply (accepted_order_conforms_iff (laptopBody 1200) _ _ (laptop_accepted 1200)).mpr
  constructor
  · exact ⟨"usr_alice", rfl⟩
  · nofun
  · intro item hitem
    cases List.mem_singleton.mp hitem
    refine ⟨⟨"LAPTOP-001", rfl⟩, ⟨"Laptop", rfl⟩, ?_, ?_⟩
    · intro q hq
      cases hq
      decide +kernel
    · intro q hq
      cases hq
      decide +kernel

/-- An order at a negative price is accepted. -/
theorem negative_price_accepted : ¬∀ (body : Json) (orderUuid : String) (posted : PostedOrder),
    PostOrders.handler body = .ok (some posted) →
    orderCreatedPayloadSchema (some (.obj (posted.orderCreatedPayload orderUuid))) = true := by
  intro agree
  have conforms := agree (laptopBody (-1200)) "" _ (laptop_accepted (-1200))
  exact absurd conforms (by decide +kernel)

end Fulfillment
