import Fulfillment.Contracts.Zod

namespace Fulfillment

open Js

def orderItemSchema : Zod.Schema := Zod.object
  [ ("sku", Zod.nonEmpty),
    ("name", Zod.nonEmpty),
    ("price", Zod.positive),
    ("quantity", Zod.positiveInt) ]

def orderCreatedPayloadSchema : Zod.Schema := Zod.object
  [ ("order_id", Zod.nonEmpty),
    ("user_id", Zod.nonEmpty),
    ("items", Zod.nonEmptyArray orderItemSchema),
    ("total_amount", Zod.positive),
    ("currency", Zod.optional Zod.string),
    ("shipping_address", Zod.optional (Zod.object
      [ ("street", Zod.optional Zod.string),
        ("city", Zod.optional Zod.string),
        ("zip", Zod.optional Zod.string),
        ("country", Zod.optional Zod.string) ])) ]

/-- What later steps of an order need of its first payload: items and an
amount that survive the defaults written behind `||`. -/
theorem orderCreatedPayload_items_amount {payload : Fields}
    (h : orderCreatedPayloadSchema (some (.obj payload)) = true) :
    (∃ items, payload.get "items" = some items ∧ truthy (some items) = true) ∧
    ∃ amount, payload.get "total_amount" = some amount ∧ truthy (some amount) = true := by
  simp only [orderCreatedPayloadSchema, Zod.object, List.all_cons, List.all_nil, Bool.and_true,
    Bool.and_eq_true] at h
  obtain ⟨-, -, hitems, hamount, -, -⟩ := h
  obtain ⟨xs, hxs, -, -⟩ := Zod.nonEmptyArray_iff.mp hitems
  obtain ⟨q, hq, hpos⟩ := Zod.positive_iff.mp hamount
  exact ⟨⟨_, hxs, rfl⟩, _, hq, by simp [truthy, Rat.ne_of_gt hpos]⟩

end Fulfillment
