import Fulfillment.Projection.Stock
import Fulfillment.Replay.Rebuild

/-!
# A replay and the stock

The reset leaves the stock alone and takes the markers of the aggregate, so a
replay runs the aggregate's stock moves once more, as far as it gets.
-/

namespace Fulfillment

open Js Effects

variable {pg : Postgres} {orderId : String}

theorem Settled.replayable {w : ProjectionWorld} (settled : Settled pg w) (fits : fitsText orderId = true) :
    Replayable pg orderId w := by
  refine ⟨fits, ?_, ?_⟩
  · intro e he row hrow
    obtain ⟨stored, hstored, rfl⟩ := List.mem_map.mp he
    obtain ⟨hmem, hown⟩ := mem_inOrder.mp hstored
    obtain ⟨time, hmarked⟩ := settled.marked stored hmem
    have hsame : some row = some ⟨stored.aggregateId, time⟩ := hrow.symm.trans hmarked
    cases hsame
    exact hown
  · intro e he
    obtain ⟨stored, hstored, rfl⟩ := List.mem_map.mp he
    exact settled.applies stored (mem_inOrder.mp hstored).1

/-- One replay that changes no stock is enough for all. -/
theorem replays_stock {w : ProjectionWorld} (h : Replayable pg orderId w)
    (keeps : stockBy pg (reached pg orderId w) (stockLevel w.projection.models) = stockLevel w.projection.models) (n : Nat) :
    stockLevel (replays pg orderId n w).projection.models = stockLevel w.projection.models := by
  rw [replays_stockAfter h]
  induction n with
  | zero => rfl
  | succ n ih =>
    rw [stockAfter]
    exact (congrArg (stockAfter pg _ n) keeps).trans ih

variable (pg) in
/-- The moves that a replay makes: those of the stored events, in sequence
order, before the first one that would take a counter beyond its column. -/
def replayedMoves (orderId sku : String) (w : ProjectionWorld) : List StockMove :=
  (reached pg orderId w).flatMap (stockMoves pg sku)

def reservationOfTwo : EventEnvelope where
  eventId := "evt_1"
  eventType := .inventoryReserved
  eventVersion := 1
  sequenceNumber := none
  aggregateId := "ord_1"
  aggregateType := "Order"
  occurredAt := "2026-01-01T10:00:00.000Z"
  producer := "inventory-consumer"
  correlationId := "corr_1"
  causationId := "cause_1"
  schemaVersion := 1
  payload :=
    [ ("reservation_id", .str "res_1"),
      ("items", .arr [.obj [("sku", .str "LAPTOP-001"), ("quantity", .num 2)]]) ]

def stockedWorld : ProjectionWorld where
  world := .empty
  projection :=
    { models := ReadModels.upsert (.inventory "LAPTOP-001")
        { name := "Workstation", totalStock := 100, reservedStock := 0, availableStock := 100, updatedAt := 0 } id .empty
      applied := fun _ => none }
  store := .empty
  orderEvents := []

def reservedWorld : ProjectionWorld := (processAll .sample [(0, reservationOfTwo)] stockedWorld).getD stockedWorld

end Fulfillment
