import Fulfillment.Database.Columns
import Fulfillment.Effects.Checked
import Fulfillment.Projection.Platform
import Fulfillment.Projection.Stock

/-!
# The range of the stock counters

The counters are `INTEGER` columns, and a statement that computes a value
beyond them is refused, also where `GREATEST` would cut the value. So an
application can also fail for the stock that it finds. `applyBounded` is the
transaction with these refusals, and `boundedPlatform` the platform with it.
-/

namespace Fulfillment

open Js Effects

namespace StockMove

/-- Both values that the statement computes are `INTEGER`s. -/
def Holds : StockMove → StockLevel → Prop
  | .reserve quantity, s => fitsInt (s.reserved + quantity) = true ∧ fitsInt (s.available - quantity) = true
  | .release quantity, s => fitsInt (s.reserved - quantity) = true ∧ fitsInt (s.available + quantity) = true

instance : ∀ (move : StockMove) (s : StockLevel), Decidable (move.Holds s)
  | .reserve _, _ => inferInstanceAs (Decidable (_ ∧ _))
  | .release _, _ => inferInstanceAs (Decidable (_ ∧ _))

end StockMove

/-- Every move holds on the stock that the ones before it left. -/
def HoldAll : List StockMove → StockLevel → Prop
  | [], _ => True
  | move :: moves, s => move.Holds s ∧ HoldAll moves (move.apply s)

instance decidableHoldAll : ∀ (moves : List StockMove) (s : StockLevel), Decidable (HoldAll moves s)
  | [], _ => inferInstanceAs (Decidable True)
  | move :: moves, s =>
    haveI := decidableHoldAll moves (move.apply s)
    inferInstanceAs (Decidable (_ ∧ _))

theorem holdAll_append (moves moves' : List StockMove) (s : StockLevel) :
    HoldAll (moves ++ moves') s ↔ HoldAll moves s ∧ HoldAll moves' (runMoves moves s) := by
  induction moves generalizing s with
  | nil => simp [HoldAll]
  | cons move moves ih => rw [List.cons_append, HoldAll, HoldAll, ih, runMoves_cons, and_assoc]

/-- The stock of every SKU that has a row. -/
abbrev StockLevels := String → Option StockLevel

variable (pg : Postgres)

/-- The moves of an event keep every counter in its column. -/
def EventHolds (e : EventEnvelope) (levels : StockLevels) : Prop :=
  ∀ sku level, levels sku = some level → HoldAll (stockMoves pg sku e) level

/-- The SKUs that the items of an event name. -/
def movedSkus (e : EventEnvelope) : List String := (payloadItems e.payload).filterMap fun item => (movedItem pg item).map Prod.fst

theorem stockMoves_unmoved {e : EventEnvelope} {sku : String} (h : sku ∉ movedSkus pg e) : stockMoves pg sku e = [] := by
  have none : quantitiesOf pg sku (payloadItems e.payload) = [] := by
    apply List.filterMap_eq_nil_iff.mpr
    intro item hitem
    cases hmoved : movedItem pg item with
    | none => rfl
    | some moved =>
      have other : moved.1 ≠ sku := by
        rintro rfl
        exact h (List.mem_filterMap.mpr ⟨item, hitem, by rw [hmoved]; rfl⟩)
      rw [Option.bind_some, if_neg other]
  unfold stockMoves
  cases e.eventType <;> simp [none]

instance (e : EventEnvelope) (levels : StockLevels) : Decidable (EventHolds pg e levels) :=
  decidable_of_iff (∀ sku ∈ movedSkus pg e, ∀ level ∈ levels sku, HoldAll (stockMoves pg sku e) level) <| by
    constructor
    · intro h sku level hlevel
      by_cases moved : sku ∈ movedSkus pg e
      · exact h sku moved level hlevel
      · rw [stockMoves_unmoved pg moved]
        trivial
    · intro h sku _ level hlevel
      exact h sku level hlevel

/-! ## The statements -/

/-- A statement on the row of an item, if there is one. -/
def itemHolds (move : Int → StockMove) (item : Json) (m : ReadModels) : Bool :=
  (movedItem pg item).all fun moved => (stockLevel m moved.1).all fun level => decide ((move moved.2).Holds level)

def Mutation.holds : Mutation → ReadModels → Bool
  | .reserveStock item _, m => itemHolds pg .reserve item m
  | .releaseStock item _, m => itemHolds pg .release item m
  | _, _ => true

def outOfRange : JsError := { message := "integer out of range" }

/-- The statements of a transaction, those refused that leave the columns. -/
def boundedStatements (clock : Int) : Semantics JsError ProjectionDb ProjectionStatement.Answer :=
  (projectionStatements pg clock).checked (fun statement db =>
    match statement with
    | .mutation m => m.holds pg db.models
    | _ => true) outOfRange

/-- `applyHistoricalEvent` when nothing fails of itself. -/
def applyBounded (clock : Int) (e : EventEnvelope) (db : ProjectionDb) : Except JsError ProjectionDb :=
  match transact (boundedStatements pg clock) .allOk (executeInTx e) db with
  | (.ok _, db') => .ok db'
  | (.error err, _) => .error err

/-- The platform whose applications keep to the columns. -/
def boundedPlatform : Semantics JsError ProjectionWorld ProjectionAnswer where
  effect c acked w :=
    match c with
    | .applyHistoricalEvent e =>
      (applyBounded pg w.clock e w.projection).map fun projection => ((), { w with projection })
    | c => (projectionPlatform pg).effect c acked w

variable {pg}

/-! ## Statements and moves -/

/-- The moves of a statement for a SKU. -/
def Mutation.stockMoves (pg : Postgres) (sku : String) : Mutation → List StockMove
  | .reserveStock item _ => (quantitiesOf pg sku [item]).map .reserve
  | .releaseStock item _ => (quantitiesOf pg sku [item]).map .release
  | _ => []

theorem change_stock {mutation : Mutation} {change : Change} (h : mutation.change pg = .ok change) (sku : String)
    (m : ReadModels) :
    stockLevel (change.apply m) sku = (stockLevel m sku).map (runMoves (mutation.stockMoves pg sku)) := by
  have moved : ∀ {set : Int → InventoryView → InventoryView} {move : Int → StockMove} {item : Json} {occurredAt : String},
      Sets set move → stockChange pg set item occurredAt = .ok change →
        stockLevel (change.apply m) sku = (stockLevel m sku).map (runMoves ((quantitiesOf pg sku [item]).map move)) := by
    intro set move item occurredAt sets hchange
    rw [stockLevel, stockChange_moves sets hchange sku m, stockLevel, Option.map_map, Option.map_map]
    congr 1
    funext row
    exact level_moveRow ..
  cases mutation with
  | reserveStock item occurredAt => exact moved (fun _ _ => rfl) h
  | releaseStock item occurredAt => exact moved (fun _ _ => rfl) h
  | insertOrder | updateOrder | insertPayment | refundPayments | insertShipment =>
    rw [stockLevel, change_frame h (by simp [ModelKey.table, Mutation.table]) m]
    simp [Mutation.stockMoves, stockLevel]

theorem itemHolds_iff (move : Int → StockMove) (item : Json) (m : ReadModels) :
    itemHolds pg move item m = true ↔
      ∀ sku level, stockLevel m sku = some level → HoldAll ((quantitiesOf pg sku [item]).map move) level := by
  unfold itemHolds
  cases hmoved : movedItem pg item with
  | none => simp [quantitiesOf, hmoved, HoldAll]
  | some moved =>
    rw [Option.all_some]
    constructor
    · intro h sku level hlevel
      by_cases same : moved.1 = sku
      · rw [same, hlevel, Option.all_some, decide_eq_true_eq] at h
        simpa [quantitiesOf, hmoved, same, HoldAll] using h
      · simp [quantitiesOf, hmoved, same, HoldAll]
    · intro h
      cases hlevel : stockLevel m moved.1 with
      | none => rfl
      | some level =>
        have one := h moved.1 level hlevel
        simp only [quantitiesOf, hmoved, List.filterMap_cons, List.filterMap_nil, Option.bind_some, if_true,
          List.map_cons, List.map_nil, HoldAll, and_true] at one
        exact decide_eq_true one

theorem mutation_holds_iff (mutation : Mutation) (m : ReadModels) :
    mutation.holds pg m = true ↔
      ∀ sku level, stockLevel m sku = some level → HoldAll (mutation.stockMoves pg sku) level := by
  cases mutation with
  | reserveStock item occurredAt => exact itemHolds_iff ..
  | releaseStock item occurredAt => exact itemHolds_iff ..
  | insertOrder | updateOrder | insertPayment | refundPayments | insertShipment =>
    simp [Mutation.holds, Mutation.stockMoves, HoldAll]

theorem stockMoves_items (move : Int → StockMove) (sku : String) (items : List Json) :
    items.flatMap (fun item => (quantitiesOf pg sku [item]).map move) = (quantitiesOf pg sku items).map move := by
  induction items with
  | nil => rfl
  | cons item items ih =>
    have happend : quantitiesOf pg sku (item :: items) = quantitiesOf pg sku [item] ++ quantitiesOf pg sku items :=
      List.filterMap_append (l := [item])
    rw [List.flatMap_cons, ih, happend, List.map_append]

/-- The moves of an event are those of its statements. -/
theorem mutations_stockMoves (sku : String) (e : EventEnvelope) :
    (mutations e).flatMap (Mutation.stockMoves pg sku) = stockMoves pg sku e := by
  unfold mutations stockMoves
  cases e.eventType <;>
    simp [Mutation.stockMoves, List.flatMap_map, stockMoves_items]

/-! ## The transaction as one step -/

variable {clock : Int}

theorem boundedStatements_restricts : (boundedStatements pg clock).Restricts (projectionStatements pg clock) :=
  checked_restricts _ _ _

theorem bounded_mutation_ok {mutation : Mutation} {db db' : ProjectionDb} :
    (boundedStatements pg clock).effect (.mutation mutation) true db = .ok ((), db') ↔
      (∃ change, mutation.change pg = .ok change ∧ db' = { db with models := change.apply db.models }) ∧
        mutation.holds pg db.models = true := by
  rw [boundedStatements, checked_ok]
  apply and_congr_left'
  simp only [projectionStatements]
  cases mutation.change pg with
  | error err => simp [Except.map]
  | ok change => simp [Except.map, eq_comm]

/-- The statements return if PostgreSQL takes them and their moves hold. -/
theorem performMutations_bounded {ms : List Mutation} {past : List ProjectionStatement} {db : ProjectionDb} :
    ((performMutations ms).run (boundedStatements pg clock) (fun _ _ => .ok) past db).value = .ok () ↔
      (∃ models, runMutations pg ms db.models = .ok models) ∧
        ∀ sku level, stockLevel db.models sku = some level → HoldAll (ms.flatMap (Mutation.stockMoves pg sku)) level := by
  induction ms generalizing past db with
  | nil => simp [performMutations, Prog.run, runMutations, HoldAll]
  | cons mutation ms ih =>
    rw [performMutations]
    cases hx : (boundedStatements pg clock).effect (.mutation mutation) true db with
    | error err =>
      rw [run_await_error (exec_error hx)]
      apply iff_of_false (by simp)
      rintro ⟨⟨models, hrun⟩, hold⟩
      obtain ⟨change, hchange, -⟩ := bind_returns hrun
      have taken : mutation.holds pg db.models = true := by
        rw [mutation_holds_iff]
        intro sku level hlevel
        have all := hold sku level hlevel
        rw [List.flatMap_cons, holdAll_append] at all
        exact all.1
      rw [bounded_mutation_ok.mpr ⟨⟨change, hchange, rfl⟩, taken⟩] at hx
      cases hx
    | ok r =>
      obtain ⟨⟨change, hchange, hdb⟩, taken⟩ := bounded_mutation_ok.mp hx
      rw [run_await_ok (exec_ok hx), ih, hdb, runMutations, hchange]
      apply and_congr_right
      intro _
      constructor
      · intro rest sku level hlevel
        rw [List.flatMap_cons, holdAll_append]
        refine ⟨(mutation_holds_iff mutation db.models).mp taken sku level hlevel, rest sku _ ?_⟩
        rw [change_stock hchange, hlevel]
        rfl
      · intro all sku level hlevel
        rw [change_stock hchange] at hlevel
        obtain ⟨before, hbefore, rfl⟩ := Option.map_eq_some_iff.mp hlevel
        have both := all sku before hbefore
        rw [List.flatMap_cons, holdAll_append] at both
        exact both.2

theorem applyBounded_once {e : EventEnvelope} {db db' : ProjectionDb} (h : applyBounded pg clock e db = .ok db') :
    applyOnce pg clock e db = .ok db' := by
  obtain ⟨f, hf⟩ := (@boundedStatements_restricts pg clock).transact .allOk (executeInTx e) db
  have run : applyHistoricalEvent pg clock f e db = (.ok (), db') := by
    rw [applyHistoricalEvent, ← hf]
    unfold applyBounded at h
    split at h
    · rename_i hrun
      cases h
      exact hrun
    · cases h
  rcases applyHistoricalEvent_run f e db with ⟨db'', once, -, hrun⟩ | ⟨db'', err, -, -, hrun⟩ | ⟨err, hrun⟩
  · rw [run] at hrun
    cases hrun
    exact once
  · rw [run] at hrun
    cases hrun
  · rw [run] at hrun
    cases hrun

/-- The body returns if the statements do and the moves of a new event hold. -/
theorem executeInTx_bounded {e : EventEnvelope} {db : ProjectionDb} :
    ((executeInTx e).run (boundedStatements pg clock) (fun _ _ => .ok) [] db).value = .ok () ↔
      (∃ db', applyOnce pg clock e db = .ok db') ∧
        (db.isProjectionEventApplied e.eventId = false → EventHolds pg e (stockLevel db.models)) := by
  unfold applyOnce
  by_cases fits : fitsText e.eventId = true
  · have looked : (boundedStatements pg clock).exec (.isProjectionEventApplied e.eventId) .ok db =
        (.ok (db.isProjectionEventApplied e.eventId), db) := by
      apply exec_ok
      rw [boundedStatements, checked_ok]
      simp only [projectionStatements, fits, if_true, and_self]
    rw [executeInTx, run_await_ok looked, if_pos fits]
    cases db.isProjectionEventApplied e.eventId with
    | true => simp [Prog.run]
    | false =>
      simp only [Bool.false_eq_true, if_false, true_implies, EventHolds, ← mutations_stockMoves, mutate]
      have performed := @performMutations_bounded pg clock (mutations e) [.isProjectionEventApplied e.eventId] db
      rw [run_bind]
      cases hv : ((performMutations (mutations e)).run (boundedStatements pg clock) (fun _ _ => .ok)
          [.isProjectionEventApplied e.eventId] db).value with
      | error err =>
        rw [Ran.andThen, hv]
        rw [hv] at performed
        apply iff_of_false (by simp)
        rintro ⟨⟨db', hdb'⟩, hold⟩
        obtain ⟨models, hmodels, -⟩ := bind_returns hdb'
        cases performed.mpr ⟨⟨models, hmodels⟩, hold⟩
      | ok r =>
        obtain ⟨⟨models, hmodels⟩, hold⟩ := performed.mp hv
        rw [Ran.andThen, hv, hmodels, Except.bind]
        by_cases marker : markerFits e.eventId e.aggregateId = true
        · simp [run_await, Semantics.exec, boundedStatements, Semantics.checked, projectionStatements, marker, Except.bind]
          exact hold
        · simp [run_await, Semantics.exec, boundedStatements, Semantics.checked, projectionStatements, marker, Except.bind]
  · have refused : (boundedStatements pg clock).exec (.isProjectionEventApplied e.eventId) .ok db = (.error columnError, db) := by
      simp [Semantics.exec, boundedStatements, Semantics.checked, projectionStatements, fits, Except.bind]
    rw [executeInTx, run_await_error refused, if_neg fits]
    simp

/-- An application succeeds as it would with unbounded counters, if the moves of a new event hold. -/
theorem applyBounded_iff {e : EventEnvelope} {db db' : ProjectionDb} :
    applyBounded pg clock e db = .ok db' ↔
      applyOnce pg clock e db = .ok db' ∧
        (db.isProjectionEventApplied e.eventId = false → EventHolds pg e (stockLevel db.models)) := by
  have returns : (∃ t, applyBounded pg clock e db = .ok t) ↔
      ((executeInTx e).run (boundedStatements pg clock) (fun _ _ => .ok) [] db).value = .ok () := by
    unfold applyBounded transact bodyRun
    cases hv : ((executeInTx e).run (boundedStatements pg clock) (fun _ _ => .ok) [] db).value with
    | error err => simp [TxOutcomes.allOk, hv, Except.map]
    | ok r => simp [TxOutcomes.allOk, hv, Except.map]
  rw [executeInTx_bounded] at returns
  constructor
  · intro h
    exact ⟨applyBounded_once h, (returns.mp ⟨db', h⟩).2⟩
  · rintro ⟨once, hold⟩
    obtain ⟨t, ht⟩ := returns.mpr ⟨⟨db', once⟩, hold⟩
    have same := applyBounded_once ht
    rw [once] at same
    cases same
    exact ht

/-- An application that is refused for the stock is one that failed: every run of
the bounded platform is one of the platform in which some calls fail. -/
theorem boundedPlatform_restricts : (boundedPlatform pg).Restricts (projectionPlatform pg) := by
  intro c acked w r h
  cases c with
  | applyHistoricalEvent e =>
    simp only [boundedPlatform] at h
    cases happlied : applyBounded pg w.clock e w.projection with
    | error err =>
      rw [happlied] at h
      cases h
    | ok db' =>
      rw [happlied] at h
      simp only [projectionPlatform, applyBounded_once happlied]
      exact h
  | base | appendToEventStore | recordEvent | getEventsByAggregateId | deleteOrderReadModel | deletePaymentReadModel
  | deleteShipmentReadModel | deleteAppliedEvents | getOrder => exact h

end Fulfillment
