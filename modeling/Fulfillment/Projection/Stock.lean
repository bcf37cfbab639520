import Fulfillment.Projection.Concerns
import Mathlib

/-!
# Stock

What the events do to the two counters of one SKU. A counter that would become
negative is set to zero instead, so moves can be lost.
-/

namespace Fulfillment

open Js

structure StockLevel where
  reserved : Int
  available : Int
  deriving DecidableEq, Repr

inductive StockMove
  | reserve (quantity : Int)
  | release (quantity : Int)
  deriving DecidableEq, Repr

namespace StockMove

def apply : StockMove → StockLevel → StockLevel
  | .reserve quantity, s => ⟨s.reserved + quantity, max 0 (s.available - quantity)⟩
  | .release quantity, s => ⟨max 0 (s.reserved - quantity), s.available + quantity⟩

/-- What the move adds to the reserved stock. -/
def net : StockMove → Int
  | .reserve quantity => quantity
  | .release quantity => -quantity

/-- The counter that the move takes from holds enough. -/
def Fits : StockMove → StockLevel → Prop
  | .reserve quantity, s => quantity ≤ s.available
  | .release quantity, s => quantity ≤ s.reserved

end StockMove

def runMoves (moves : List StockMove) (s : StockLevel) : StockLevel := moves.foldl (fun s move => move.apply s) s

def netOf (moves : List StockMove) : Int := (moves.map StockMove.net).sum

/-- No move is cut short. -/
def Unclamped : List StockMove → StockLevel → Prop
  | [], _ => True
  | move :: moves, s => move.Fits s ∧ Unclamped moves (move.apply s)

@[simp] theorem runMoves_nil : runMoves [] = id := rfl

@[simp] theorem runMoves_cons (move : StockMove) (moves : List StockMove) (s : StockLevel) :
    runMoves (move :: moves) s = runMoves moves (move.apply s) := rfl

theorem runMoves_append (moves moves' : List StockMove) (s : StockLevel) :
    runMoves (moves ++ moves') s = runMoves moves' (runMoves moves s) := List.foldl_append ..

@[simp] theorem netOf_cons (move : StockMove) (moves : List StockMove) : netOf (move :: moves) = move.net + netOf moves :=
  List.sum_cons ..

theorem runMoves_ge (moves : List StockMove) (s : StockLevel) :
    s.reserved + netOf moves ≤ (runMoves moves s).reserved ∧ s.available - netOf moves ≤ (runMoves moves s).available := by
  induction moves generalizing s with
  | nil => simp [netOf]
  | cons move moves ih =>
    obtain ⟨hreserved, havailable⟩ := ih (move.apply s)
    rw [runMoves_cons, netOf_cons]
    cases move with
    | reserve quantity =>
      simp only [StockMove.apply, StockMove.net] at *
      omega
    | release quantity =>
      simp only [StockMove.apply, StockMove.net] at *
      omega

/-- A move that is cut short makes stock out of nothing. -/
theorem unclamped_iff (moves : List StockMove) (s : StockLevel) :
    Unclamped moves s ↔ (runMoves moves s).reserved + (runMoves moves s).available = s.reserved + s.available := by
  induction moves generalizing s with
  | nil => simp [Unclamped]
  | cons move moves ih =>
    obtain ⟨hreserved, havailable⟩ := runMoves_ge moves (move.apply s)
    rw [Unclamped, ih, runMoves_cons]
    cases move with
    | reserve quantity =>
      simp only [StockMove.apply, StockMove.Fits] at *
      omega
    | release quantity =>
      simp only [StockMove.apply, StockMove.Fits] at *
      omega

/-- Moves leave the stock as it is just when they balance and none is cut short. -/
theorem runMoves_eq_self_iff (moves : List StockMove) (s : StockLevel) :
    runMoves moves s = s ↔ netOf moves = 0 ∧ Unclamped moves s := by
  obtain ⟨hreserved, havailable⟩ := runMoves_ge moves s
  rw [unclamped_iff]
  constructor
  · intro h
    rw [h] at hreserved havailable ⊢
    omega
  · rintro ⟨hnet, htotal⟩
    have hr : (runMoves moves s).reserved = s.reserved := by omega
    have ha : (runMoves moves s).available = s.available := by omega
    cases hrun : runMoves moves s
    cases s
    simp_all

/-! ## The moves of an event -/

def InventoryView.level (row : InventoryView) : StockLevel := ⟨row.reservedStock, row.availableStock⟩

variable (pg : Postgres)

/-- The SKU and the quantity of an item, if its statement is accepted and names a SKU. -/
def movedItem (item : Json) : Option (String × Int) :=
  match property item "quantity", property item "sku" with
  | .ok quantity, .ok sku =>
    match notNull (pg.int (some (orElse quantity (.num 1)))), pg.text sku with
    | .ok quantity, .ok (some sku) => some (sku, quantity)
    | _, _ => none
  | _, _ => none

/-- The quantities that a payload names for a SKU, in order. -/
def quantitiesOf (sku : String) (items : List Json) : List Int :=
  items.filterMap fun item => (movedItem pg item).bind fun moved => if moved.1 = sku then some moved.2 else none

/-- The moves of an event for a SKU. -/
def stockMoves (sku : String) (e : EventEnvelope) : List StockMove :=
  match e.eventType with
  | .inventoryReserved => (quantitiesOf pg sku (payloadItems e.payload)).map .reserve
  | .inventoryReleased => (quantitiesOf pg sku (payloadItems e.payload)).map .release
  | _ => []

/-- The two counters of a SKU, if it has a row. -/
def stockLevel (m : ReadModels) (sku : String) : Option StockLevel := (m (.inventory sku)).map InventoryView.level

/-- A row after some moves at a time. -/
def moveRow (time : Int) (moves : List StockMove) (row : InventoryView) : InventoryView :=
  if moves = [] then row
  else
    { row with
      reservedStock := (runMoves moves row.level).reserved
      availableStock := (runMoves moves row.level).available
      updatedAt := time }

@[simp] theorem moveRow_nil (time : Int) : moveRow time [] = id := rfl

theorem level_moveRow (time : Int) (moves : List StockMove) (row : InventoryView) :
    (moveRow time moves row).level = runMoves moves row.level := by
  unfold moveRow
  split
  · rename_i h
    rw [h]
    rfl
  · rfl

theorem moveRow_append (time : Int) (moves moves' : List StockMove) (row : InventoryView) :
    moveRow time (moves ++ moves') row = moveRow time moves' (moveRow time moves row) := by
  by_cases h : moves = []
  · subst h
    rfl
  · by_cases h' : moves' = []
    · subst h'
      simp
    · have level : (moveRow time moves row).level = runMoves moves row.level := level_moveRow ..
      rw [moveRow, if_neg (by simp [h]), moveRow, if_neg h', level, runMoves_append, moveRow, if_neg h]

variable {pg}

/-- How a statement on stock sets the counters of a row. -/
def Sets (set : Int → InventoryView → InventoryView) (move : Int → StockMove) : Prop :=
  ∀ quantity row, set quantity row =
    { row with
      reservedStock := ((move quantity).apply row.level).reserved
      availableStock := ((move quantity).apply row.level).available }

theorem stockChange_moves {set : Int → InventoryView → InventoryView} {move : Int → StockMove} (sets : Sets set move)
    {item : Json} {occurredAt : String} {change : Change} (h : stockChange pg set item occurredAt = .ok change)
    (sku : String) (m : ReadModels) :
    change.apply m (.inventory sku) = (m (.inventory sku)).map
      (moveRow (eventTime pg occurredAt) ((quantitiesOf pg sku [item]).map move)) := by
  unfold stockChange at h
  obtain ⟨quantity, hquantity, h⟩ := bind_returns h
  obtain ⟨named, hnamed, h⟩ := bind_returns h
  obtain ⟨amount, hamount, h⟩ := bind_returns h
  obtain ⟨time, htime, h⟩ := bind_returns h
  obtain ⟨sku', hsku, h⟩ := bind_returns h
  rw [eventTime_of_read htime]
  cases sku' with
  | none =>
    cases h
    have hmoved : movedItem pg item = none := by
      simp only [movedItem, hquantity, hnamed, hamount, hsku]
    simp [quantitiesOf, hmoved, Change.apply]
  | some sku' =>
    cases h
    have hmoved : movedItem pg item = some (sku', amount) := by
      simp only [movedItem, hquantity, hnamed, hamount, hsku]
    by_cases same : sku' = sku
    · subst same
      have hone : quantitiesOf pg sku' [item] = [amount] := by
        simp [quantitiesOf, hmoved]
      rw [hone, Change.apply, ReadModels.update_self]
      congr 1
      funext row
      rw [sets amount row]
      rfl
    · have hkey : ModelKey.inventory sku ≠ .inventory sku' := fun h => same (ModelKey.inventory.inj h).symm
      simp [quantitiesOf, hmoved, same, Change.apply, ReadModels.update_of_ne m hkey]

/-- One item after the other. -/
theorem changesOf_stock {set : Int → InventoryView → InventoryView} {move : Int → StockMove} (sets : Sets set move)
    {occurredAt : String} {statement : Json → Mutation}
    (hstatement : ∀ item, (statement item).change pg = stockChange pg set item occurredAt)
    {items : List Json} {changes : List Change} (h : changesOf pg (items.map statement) = .ok changes) (sku : String)
    (m : ReadModels) :
    applyChanges changes m (.inventory sku) = (m (.inventory sku)).map
      (moveRow (eventTime pg occurredAt) ((quantitiesOf pg sku items).map move)) := by
  induction items generalizing changes m with
  | nil =>
    cases h
    simp [applyChanges, quantitiesOf]
  | cons item items ih =>
    obtain ⟨change, hchange, h⟩ := bind_returns h
    obtain ⟨rest, hrest, h⟩ := bind_returns h
    cases h
    rw [hstatement] at hchange
    have happend : quantitiesOf pg sku (item :: items) = quantitiesOf pg sku [item] ++ quantitiesOf pg sku items :=
      List.filterMap_append (l := [item])
    have hfirst := stockChange_moves sets hchange sku m
    have hothers := ih hrest (change.apply m)
    rw [hfirst, Option.map_map] at hothers
    rw [happend, List.map_append]
    refine hothers.trans (congrArg (fun f => (m (.inventory sku)).map f) ?_)
    funext row
    exact (moveRow_append _ _ _ row).symm

/-- An event runs its moves on the row of a SKU. -/
theorem changesOfEvent_stockRow {e : EventEnvelope} {changes : List Change} (h : changesOfEvent pg e = .ok changes)
    (sku : String) (m : ReadModels) :
    applyChanges changes m (.inventory sku) =
      (m (.inventory sku)).map (moveRow (eventTime pg e.occurredAt) (stockMoves pg sku e)) := by
  unfold changesOfEvent mutations at h
  unfold stockMoves
  cases ht : e.eventType <;> simp only [ht] at h ⊢
  case inventoryReserved =>
    obtain ⟨change, hchange, h⟩ := bind_returns h
    obtain ⟨rest, hrest, h⟩ := bind_returns h
    cases h
    have hrow : change.apply m (.inventory sku) = m (.inventory sku) := change_frame hchange (by simp [ModelKey.table, Mutation.table]) m
    rw [← hrow]
    exact changesOf_stock (fun _ _ => rfl) (fun _ => rfl) hrest sku _
  case inventoryReleased => exact changesOf_stock (fun _ _ => rfl) (fun _ => rfl) h sku m
  all_goals
    rw [changesOf_frame (by simp [Mutation.table, ModelKey.table]) h m]
    simp

/-- An event runs its moves. -/
theorem changesOfEvent_stock {e : EventEnvelope} {changes : List Change} (h : changesOfEvent pg e = .ok changes)
    (sku : String) (m : ReadModels) :
    stockLevel (applyChanges changes m) sku = (stockLevel m sku).map (runMoves (stockMoves pg sku e)) := by
  rw [stockLevel, changesOfEvent_stockRow h, stockLevel, Option.map_map, Option.map_map]
  congr 1
  funext row
  exact level_moveRow ..

end Fulfillment
