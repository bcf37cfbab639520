import Fulfillment.Projection.OrderRow
import Fulfillment.Projection.Stock
import Mathlib

/-!
# Applying an event more than once

All statements but those on stock write the same values again, so a second
application of an event shows in the stock only.
-/

namespace Fulfillment

open Js

variable {pg : Postgres}

/-! ## A row at a time -/

/-- What a change makes of a row depends on that row only. -/
theorem change_congr (change : Change) {m m' : ReadModels} {k : ModelKey} (h : m k = m' k) :
    change.apply m k = change.apply m' k := by
  cases change with
  | nothing => exact h
  | upsert k' row merge =>
    by_cases same : k = k'
    · subst same
      simp only [Change.apply, ReadModels.upsert_self, h]
    · simp only [Change.apply, ReadModels.upsert_of_ne _ same, h]
  | update k' f =>
    by_cases same : k = k'
    · subst same
      simp only [Change.apply, ReadModels.update_self, h]
    · simp only [Change.apply, ReadModels.update_of_ne _ same, h]
  | updatePayments orderId f =>
    cases k with
    | payment paymentId => simp only [Change.apply, ReadModels.updatePayments, h]
    | order _ | inventory _ | shipment _ => exact h

theorem applyChanges_congr (changes : List Change) {m m' : ReadModels} {k : ModelKey} (h : m k = m' k) :
    applyChanges changes m k = applyChanges changes m' k := by
  induction changes generalizing m m' with
  | nil => exact h
  | cons change changes ih => exact ih (change_congr change h)

theorem writeOrder_again (time : Int) (write : Option OrderWrite) (row : Option OrderView) :
    writeOrder time write (writeOrder time write row) = writeOrder time write row := by
  cases write with
  | none => rfl
  | some write =>
    cases write with
    | insert userId totalAmount currency items => cases row <;> rfl
    | set status columns =>
      cases row with
      | none => rfl
      | some row =>
        simp only [writeOrder, OrderWrite.apply, Option.map_some, setColumns]
        congr 2 <;> cases columns _ <;> rfl

/-- A statement that is not on stock does nothing when it comes again. -/
theorem change_again {m : Mutation} (noStock : m.table ≠ .inventory) {change : Change} (h : m.change pg = .ok change)
    (models : ReadModels) (k : ModelKey) : change.apply (change.apply models) k = change.apply models k := by
  cases change_of h with
  | insertOrder row merge =>
    rename_i orderId _ _ _ _ _
    by_cases same : k = .order orderId
    · subst same
      rw [insertOrder_row h, insertOrder_row h, writeOrder_again]
    · simp only [Change.apply, ReadModels.upsert_of_ne _ same]
  | updateOrder f =>
    rename_i orderId _ _ _
    by_cases same : k = .order orderId
    · subst same
      rw [updateOrder_row h, updateOrder_row h, writeOrder_again]
    · simp only [Change.apply, ReadModels.update_of_ne _ same]
  | insertPayment paymentId row merge name owner keeps fixed again =>
    by_cases same : k = .payment paymentId
    · subst same
      simp only [Change.apply, ReadModels.upsert_self, Option.elim_some]
      cases models (.payment paymentId) with
      | none => exact congrArg some fixed
      | some old => exact congrArg some (again old)
    · simp only [Change.apply, ReadModels.upsert_of_ne _ same]
  | refundPayments f keeps again =>
    cases k with
    | payment paymentId =>
      simp only [Change.apply, ReadModels.updatePayments, Option.map_map]
      congr 1
      funext row
      simp only [Function.comp]
      split
      · rename_i own
        rw [if_pos ((keeps row).trans own), again]
      · rfl
    | order _ | inventory _ | shipment _ => rfl
  | reserveNothing | releaseNothing | reserve | release => exact absurd rfl noStock
  | insertShipment shipmentId row merge name owner keeps fixed again =>
    by_cases same : k = .shipment shipmentId
    · subst same
      simp only [Change.apply, ReadModels.upsert_self, Option.elim_some]
      cases models (.shipment shipmentId) with
      | none => exact congrArg some fixed
      | some old => exact congrArg some (again old)
    · simp only [Change.apply, ReadModels.upsert_of_ne _ same]

/-- A row that at most one statement of the list is about. -/
theorem changes_again {ms : List Mutation} {changes : List Change} (h : changesOf pg ms = .ok changes) {k : ModelKey}
    (noStock : k.table ≠ .inventory) (single : ms.Pairwise fun m m' => m.table ≠ k.table ∨ m'.table ≠ k.table)
    (models : ReadModels) :
    applyChanges changes (applyChanges changes models) k = applyChanges changes models k := by
  induction ms generalizing changes models with
  | nil =>
    cases h
    rfl
  | cons m ms ih =>
    obtain ⟨change, hchange, h⟩ := bind_returns h
    obtain ⟨rest, hrest, h⟩ := bind_returns h
    cases h
    obtain ⟨apart, single⟩ := List.pairwise_cons.mp single
    by_cases own : m.table = k.table
    · -- the statement is the only one about this row
      have others : ∀ m' ∈ ms, k.table ≠ m'.table := by
        intro m' hm'
        rcases apart m' hm' with hm | hm
        · exact absurd own hm
        · exact hm.symm
      have once : ∀ models : ReadModels, applyChanges (change :: rest) models k = change.apply models k :=
        fun models => changesOf_frame others hrest _
      have again : change.apply (change.apply models) k = change.apply models k :=
        change_again (fun htable => noStock (own ▸ htable)) hchange models k
      calc applyChanges (change :: rest) (applyChanges (change :: rest) models) k
          = change.apply (applyChanges (change :: rest) models) k := once _
        _ = change.apply (change.apply models) k := change_congr change (once models)
        _ = change.apply models k := again
        _ = applyChanges (change :: rest) models k := (once models).symm
    · have frame : ∀ models : ReadModels, change.apply models k = models k :=
        fun models => change_frame hchange (Ne.symm own) models
      have skip : ∀ models : ReadModels, applyChanges (change :: rest) models k = applyChanges rest models k :=
        fun models => applyChanges_congr rest (frame models)
      calc applyChanges (change :: rest) (applyChanges (change :: rest) models) k
          = applyChanges rest (applyChanges (change :: rest) models) k := skip _
        _ = applyChanges rest (applyChanges rest models) k := applyChanges_congr rest (skip models)
        _ = applyChanges rest models k := ih hrest single models
        _ = applyChanges (change :: rest) models k := (skip models).symm

theorem stock_single {k : ModelKey} (noStock : k.table ≠ .inventory) {statement : Json → Mutation}
    (stock : ∀ item, (statement item).table = .inventory) (items : List Json) :
    (items.map statement).Pairwise fun m m' => m.table ≠ k.table ∨ m'.table ≠ k.table := by
  rw [List.pairwise_map]
  apply List.pairwise_of_forall
  intro item _
  rw [stock]
  exact .inl noStock.symm

/-- Stock aside, an event has at most one statement for each table. -/
theorem mutations_single (e : EventEnvelope) {k : ModelKey} (noStock : k.table ≠ .inventory) :
    (mutations e).Pairwise fun m m' => m.table ≠ k.table ∨ m'.table ≠ k.table := by
  have pair : ∀ {m m' : Mutation}, m.table ≠ m'.table →
      [m, m'].Pairwise fun m m' => m.table ≠ k.table ∨ m'.table ≠ k.table := by
    intro m m' hne
    rw [List.pairwise_pair]
    by_contra both
    obtain ⟨hm, hm'⟩ := not_or.mp both
    exact hne ((not_not.mp hm).trans (not_not.mp hm').symm)
  unfold mutations
  cases e.eventType
  case paymentAuthorized | shipmentCreated => exact pair (by simp [Mutation.table])
  case inventoryReserved =>
    rw [List.pairwise_cons]
    refine ⟨?_, stock_single noStock (fun _ => rfl) _⟩
    intro m hm
    obtain ⟨item, -, rfl⟩ := List.mem_map.mp hm
    exact .inr noStock.symm
  case inventoryReleased => exact stock_single noStock (fun _ => rfl) _
  all_goals
    first
    | exact List.pairwise_singleton _ _
    | exact .nil

/-! ## The stock -/

/-- What is left of `a` after the quantities were taken, never less than zero. -/
def takeAll (quantities : List Int) (a : Int) : Int := quantities.foldl (fun a quantity => max 0 (a - quantity)) a

theorem takeAll_max (quantity : Int) (quantities : List Int) :
    ∃ least, ∀ a, takeAll (quantity :: quantities) a = max (a - (quantity :: quantities).sum) least := by
  induction quantities generalizing quantity with
  | nil =>
    refine ⟨0, fun a => ?_⟩
    simp only [takeAll, List.foldl_cons, List.foldl_nil, List.sum_cons, List.sum_nil]
    omega
  | cons next quantities ih =>
    obtain ⟨least, hleast⟩ := ih next
    refine ⟨max (0 - (next :: quantities).sum) least, fun a => ?_⟩
    have hstep : takeAll (quantity :: next :: quantities) a = takeAll (next :: quantities) (max 0 (a - quantity)) := rfl
    rw [hstep, hleast, List.sum_cons (a := quantity)]
    omega

theorem takeAll_again {quantities : List Int} (balanced : quantities.sum = 0) (a : Int) :
    takeAll quantities (takeAll quantities a) = takeAll quantities a := by
  cases quantities with
  | nil => rfl
  | cons quantity quantities =>
    obtain ⟨least, hleast⟩ := takeAll_max quantity quantities
    rw [hleast, hleast, balanced]
    omega

theorem runMoves_reserve (quantities : List Int) (s : StockLevel) :
    runMoves (quantities.map .reserve) s = ⟨s.reserved + quantities.sum, takeAll quantities s.available⟩ := by
  induction quantities generalizing s with
  | nil => simp [takeAll]
  | cons quantity quantities ih =>
    rw [List.map_cons, runMoves_cons, ih, List.sum_cons, ← Int.add_assoc]
    rfl

theorem runMoves_release (quantities : List Int) (s : StockLevel) :
    runMoves (quantities.map .release) s = ⟨takeAll quantities s.reserved, s.available + quantities.sum⟩ := by
  induction quantities generalizing s with
  | nil => simp [takeAll]
  | cons quantity quantities ih =>
    rw [List.map_cons, runMoves_cons, ih, List.sum_cons, ← Int.add_assoc]
    rfl

theorem netOf_reserve (quantities : List Int) : netOf (quantities.map .reserve) = quantities.sum := by
  simp [netOf, Function.comp_def, StockMove.net]

theorem netOf_release (quantities : List Int) : netOf (quantities.map .release) = -quantities.sum := by
  induction quantities with
  | nil => rfl
  | cons quantity quantities ih =>
    rw [List.map_cons, netOf_cons, ih, List.sum_cons, StockMove.net]
    omega

/-- All moves of an event go one way. -/
theorem stockMoves_kind (sku : String) (e : EventEnvelope) :
    ∃ quantities : List Int,
      stockMoves pg sku e = quantities.map .reserve ∨ stockMoves pg sku e = quantities.map .release := by
  unfold stockMoves
  split
  · exact ⟨_, .inl rfl⟩
  · exact ⟨_, .inr rfl⟩
  · exact ⟨[], .inl rfl⟩

/-- Balanced moves of an event do nothing when they come again. -/
theorem runMoves_again {sku : String} {e : EventEnvelope} (balanced : netOf (stockMoves pg sku e) = 0) (s : StockLevel) :
    runMoves (stockMoves pg sku e) (runMoves (stockMoves pg sku e) s) = runMoves (stockMoves pg sku e) s := by
  obtain ⟨quantities, hmoves | hmoves⟩ := @stockMoves_kind pg sku e
  · rw [hmoves, netOf_reserve] at balanced
    rw [hmoves, runMoves_reserve, runMoves_reserve, takeAll_again balanced, balanced]
    simp
  · rw [hmoves, netOf_release] at balanced
    have hsum : quantities.sum = 0 := by omega
    rw [hmoves, runMoves_release, runMoves_release, takeAll_again hsum, hsum]
    simp

/-- One of the counters moves by the same amount each time. -/
theorem iterate_runMoves {sku : String} {e : EventEnvelope} {n : Nat} {s : StockLevel}
    (same : (runMoves (stockMoves pg sku e))^[n + 2] s = runMoves (stockMoves pg sku e) s) :
    netOf (stockMoves pg sku e) = 0 := by
  have drift : ∀ {f : StockLevel → Int} {amount : Int},
      (∀ s, f (runMoves (stockMoves pg sku e) s) = f s + amount) → amount = 0 := by
    intro f amount once
    have many : ∀ n s, f ((runMoves (stockMoves pg sku e))^[n] s) = f s + n * amount := by
      intro n
      induction n with
      | zero => simp
      | succ n ih =>
        intro s
        rw [Function.iterate_succ_apply, ih, once]
        push_cast
        ring
    have hlast := many (n + 2) s
    rw [same, once] at hlast
    have hzero : ((n : Int) + 1) * amount = 0 := by
      push_cast at hlast
      linarith
    rcases mul_eq_zero.mp hzero with h | h
    · omega
    · exact h
  obtain ⟨quantities, hmoves | hmoves⟩ := @stockMoves_kind pg sku e
  · rw [hmoves, netOf_reserve]
    apply drift (f := StockLevel.reserved)
    intro s
    rw [hmoves, runMoves_reserve]
  · have hsum : quantities.sum = 0 := by
      apply drift (f := StockLevel.available)
      intro s
      rw [hmoves, runMoves_release]
    rw [hmoves, netOf_release, hsum]
    rfl

/-! ## Events -/

/-- The quantities that the event moves balance, for every SKU that has a row. -/
def StockNeutral (pg : Postgres) (e : EventEnvelope) (m : ReadModels) : Prop :=
  ∀ sku row, m (.inventory sku) = some row → netOf (stockMoves pg sku e) = 0

theorem moveRow_again {sku : String} {e : EventEnvelope} (balanced : netOf (stockMoves pg sku e) = 0) (time : Int)
    (row : InventoryView) :
    moveRow time (stockMoves pg sku e) (moveRow time (stockMoves pg sku e) row) =
      moveRow time (stockMoves pg sku e) row := by
  by_cases h : stockMoves pg sku e = []
  · rw [h]
    rfl
  · have hlevel : (moveRow time (stockMoves pg sku e) row).level = runMoves (stockMoves pg sku e) row.level :=
      level_moveRow ..
    rw [moveRow, if_neg h, hlevel, runMoves_again balanced, moveRow, if_neg h]

theorem event_again {e : EventEnvelope} {changes : List Change} (h : changesOfEvent pg e = .ok changes) {m : ReadModels}
    (neutral : StockNeutral pg e m) : applyChanges changes (applyChanges changes m) = applyChanges changes m := by
  funext k
  by_cases stock : k.table = .inventory
  · cases k with
    | order _ | payment _ | shipment _ => cases stock
    | inventory sku =>
      rw [changesOfEvent_stockRow h, changesOfEvent_stockRow h]
      cases hrow : m (.inventory sku) with
      | none => rfl
      | some row => exact congrArg some (moveRow_again (neutral sku row hrow) _ row)
  · exact changes_again h stock (mutations_single e stock) m

theorem iterate_level {e : EventEnvelope} {changes : List Change} (h : changesOfEvent pg e = .ok changes) (n : Nat)
    (m : ReadModels) (sku : String) :
    stockLevel ((applyChanges changes)^[n] m) sku = (stockLevel m sku).map (runMoves (stockMoves pg sku e))^[n] := by
  induction n generalizing m with
  | zero => simp
  | succ n ih =>
    rw [Function.iterate_succ_apply, ih, changesOfEvent_stock h, Option.map_map]
    rfl

/-- Two or more applications do what one does just when the event is neutral on stock. -/
theorem iterate_eq_once_iff {e : EventEnvelope} {changes : List Change} (h : changesOfEvent pg e = .ok changes) (n : Nat)
    (m : ReadModels) : (applyChanges changes)^[n + 2] m = applyChanges changes m ↔ StockNeutral pg e m := by
  constructor
  · intro same sku row hrow
    have hlevel := iterate_level h (n + 2) m sku
    rw [same, changesOfEvent_stock h, stockLevel, hrow] at hlevel
    exact iterate_runMoves (Option.some.inj hlevel).symm
  · intro neutral
    have again := event_again h neutral
    induction n with
    | zero => exact again
    | succ n ih => rw [Function.iterate_succ_apply', ih, again]

end Fulfillment
