import Fulfillment.Platform
import Mathlib

/-! The rows of `saga_instances`: one saga an order, found by its aggregate. -/

namespace Fulfillment

open Relational

def sagaIdOf (aggregateId : String) : String := "saga_" ++ aggregateId

theorem sagaIdOf_inj {a b : String} : sagaIdOf a = sagaIdOf b ↔ a = b := by
  simp [sagaIdOf, String.ext_iff]

theorem sagaIdOf_ne_empty (a : String) : sagaIdOf a ≠ "" := by
  simp [sagaIdOf, String.ext_iff]

def SagaRow.Keyed (saga : SagaRow) : Prop := saga.sagaId = sagaIdOf saga.aggregateId

/-- Every saga has the identifier that belongs to its order. The orchestrator
writes no other row. -/
def Db.WellKeyed (db : Db) : Prop := ∀ saga ∈ db.sagaInstances.rows, saga.Keyed

theorem empty_wellKeyed : World.empty.db.WellKeyed := fun _ h => absurd h List.not_mem_nil

/-- What a save leaves of a row it finds: the columns it does not set. -/
def SagaRow.mergedInto (saga : SagaRow) (old : Option SagaRow) : SagaRow where
  sagaId := saga.sagaId
  aggregateId := saga.aggregateId
  sagaType := old.elim saga.sagaType SagaRow.sagaType
  state := saga.state
  currentStep := saga.currentStep
  correlationId := old.elim saga.correlationId SagaRow.correlationId
  context := saga.context
  failureReason := orNull saga.failureReason

theorem getSaga_eq_get? {db : Db} (h : db.WellKeyed) (aggregateId : String) :
    db.getSagaByAggregateId aggregateId = db.sagaInstances.get? (sagaIdOf aggregateId) := by
  refine List.find?_congr fun saga hsaga => ?_
  rw [h saga hsaga, decide_eq_decide, sagaIdOf_inj]

theorem getSaga_eq_some {db : Db} (h : db.WellKeyed) {aggregateId : String} {saga : SagaRow}
    (hs : db.getSagaByAggregateId aggregateId = some saga) :
    saga.aggregateId = aggregateId ∧ saga.sagaId = sagaIdOf aggregateId := by
  have hid : saga.aggregateId = aggregateId := by simpa using List.find?_some hs
  exact ⟨hid, hid ▸ h saga (List.mem_of_find?_eq_some hs)⟩

theorem wellKeyed_save {db : Db} (h : db.WellKeyed) {saga : SagaRow} (hk : saga.Keyed) :
    (db.saveSagaInstance saga).WellKeyed := by
  intro row hrow
  rcases Table.of_mem_upsert hrow with rfl | hrow | ⟨old, hold, -, rfl⟩
  · exact hk
  · exact h row hrow
  · exact h old hold

/-- A save is seen by the reads of its own order and by no others. -/
theorem getSaga_save {db : Db} (h : db.WellKeyed) {saga : SagaRow} (hk : saga.Keyed)
    (aggregateId : String) :
    (db.saveSagaInstance saga).getSagaByAggregateId aggregateId =
      if aggregateId = saga.aggregateId then
        some (saga.mergedInto (db.getSagaByAggregateId aggregateId))
      else db.getSagaByAggregateId aggregateId := by
  rw [getSaga_eq_get? (wellKeyed_save h hk), getSaga_eq_get? h, Db.saveSagaInstance, Table.get?_upsert]
  have hkey : saga.sagaId = sagaIdOf saga.aggregateId := hk
  simp only [hkey, sagaIdOf_inj]
  split
  · rename_i same
    subst same
    cases hs : db.sagaInstances.get? (sagaIdOf saga.aggregateId) with
    | none => simp [SagaRow.mergedInto, hkey]
    | some old =>
      obtain ⟨hmem, hid⟩ := Table.get?_eq_some.mp hs
      have hagg : old.aggregateId = saga.aggregateId := sagaIdOf_inj.mp ((h old hmem).symm.trans hid)
      simp [SagaRow.mergedInto, hkey, hid, hagg]
  · rfl

end Fulfillment
