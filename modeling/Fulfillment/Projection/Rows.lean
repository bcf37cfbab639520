import Fulfillment.Effects.ReadCommitted
import Fulfillment.Projection.Applies
import Fulfillment.Projection.Reapplication
import Mathlib

/-!
# The projection tables as rows

What each statement of an application locks, and why two statements of one
event that could lock the same row either both do or both do not.
-/

namespace Fulfillment

open Js Effects

/-- The rows of the read models and the markers. -/
inductive ProjectionKey
  | model (k : ModelKey)
  | marker (key : String × String)
  deriving DecidableEq, Repr

abbrev ProjectionRow : ProjectionKey → Type
  | .model k => ModelRow k
  | .marker _ => AppliedEvent

def ProjectionDb.rows (db : ProjectionDb) : Rows ProjectionRow
  | .model k => db.models k
  | .marker key => db.applied key

def projectionDb (v : Rows ProjectionRow) : ProjectionDb := ⟨fun k => v (.model k), fun key => v (.marker key)⟩

/-- The rows that a statement writes, and so locks. -/
def Change.locks : Change → (k : ModelKey) → Option (ModelRow k) → Bool
  | .nothing, _, _ => false
  | .upsert k' _ _, k, _ => k = k'
  | .update k' _, k, row => k = k' && row.isSome
  | .updatePayments orderId _, .payment _, some row => row.orderId = orderId
  | .updatePayments _ _, _, _ => false

theorem change_unlocked {change : Change} {m : ReadModels} {k : ModelKey} (h : change.locks k (m k) = false) :
    change.apply m k = m k := by
  cases change with
  | nothing => rfl
  | upsert k' row merge => exact ReadModels.upsert_of_ne m (of_decide_eq_false h) row merge
  | update k' f =>
    by_cases same : k = k'
    · subst same
      have hnone : m k = none := by simpa [Change.locks] using h
      rw [Change.apply, ReadModels.update_self, hnone]
      rfl
    · exact ReadModels.update_of_ne m same f
  | updatePayments orderId f =>
    cases k with
    | payment paymentId =>
      simp only [Change.apply, ReadModels.updatePayments]
      cases hrow : m (.payment paymentId) with
      | none => rfl
      | some row =>
        rw [hrow] at h
        rw [Option.map_some, if_neg (of_decide_eq_false h)]
    | order _ | inventory _ | shipment _ => rfl

variable (pg : Postgres)

/-- `INSERT ... ON CONFLICT DO NOTHING` takes the marker if it is not there. -/
def statementLocks : ProjectionStatement → Rows ProjectionRow → ProjectionKey → Bool
  | .isProjectionEventApplied _, _, _ => false
  | .mutation m, v, .model k =>
    match m.change pg with
    | .ok change => change.locks k (v (.model k))
    | .error _ => false
  | .mutation _, _, .marker _ => false
  | .markProjectionEventApplied _ _, _, .model _ => false
  | .markProjectionEventApplied eventId _, v, .marker key => key = markerOf eventId && (v (.marker key)).isNone

variable {pg} in
theorem statement_frame {clock : Int} {c : ProjectionStatement} {v v' : Rows ProjectionRow} {r : c.Answer}
    {k : ProjectionKey}
    (h : ((projectionStatements pg clock).effect c true (projectionDb v)).map (fun r => (r.1, r.2.rows)) = .ok (r, v'))
    (free : statementLocks pg c v k = false) : v' k = v k := by
  cases c with
  | isProjectionEventApplied eventId =>
    simp only [projectionStatements] at h
    split at h
    · cases h
      cases k <;> rfl
    · cases h
  | mutation m =>
    simp only [projectionStatements] at h
    cases hchange : m.change pg with
    | error err =>
      rw [hchange] at h
      cases h
    | ok change =>
      rw [hchange] at h
      cases h
      cases k with
      | model k =>
        simp only [statementLocks, hchange] at free
        exact change_unlocked (m := fun k => v (.model k)) free
      | marker key => rfl
  | markProjectionEventApplied eventId aggregateId =>
    simp only [projectionStatements] at h
    split at h
    · cases h
      cases k with
      | model k => rfl
      | marker key =>
        simp only [ProjectionDb.rows, ProjectionDb.markProjectionEventApplied, projectionDb]
        by_cases same : key = markerOf eventId
        · subst same
          have present : (v (.marker (markerOf eventId))).isSome = true := by
            simpa [statementLocks, Option.isNone_eq_false_iff] using free
          obtain ⟨row, hrow⟩ := Option.isSome_iff_exists.mp present
          rw [Function.update_self, hrow, Option.getD_some]
        · rw [Function.update_of_ne same]
    · cases h

/-- The statements of a transaction that began at `clock`. -/
def rowStatements (clock : Int) : RowSemantics JsError ProjectionRow ProjectionStatement.Answer where
  effect c v := ((projectionStatements pg clock).effect c true (projectionDb v)).map fun r => (r.1, r.2.rows)
  locks := statementLocks pg
  frame := statement_frame

abbrev ProjectionServer (ι : Type) := Server JsError ProjectionRow ProjectionStatement.Answer ι Unit

abbrev ProjectionSession := Session JsError ProjectionRow ProjectionStatement.Answer Unit

variable {pg}

/-! ## What an event locks -/

theorem locks_table {m : Mutation} {change : Change} (h : m.change pg = .ok change) {k : ModelKey}
    {x : Option (ModelRow k)} (locks : change.locks k x = true) : m.table = k.table := by
  cases change_of h with
  | insertOrder | insertPayment | insertShipment =>
    obtain rfl := of_decide_eq_true locks
    rfl
  | updateOrder | reserve | release =>
    obtain rfl := of_decide_eq_true (Bool.and_eq_true_iff.mp locks).1
    rfl
  | refundPayments =>
    cases k with
    | payment paymentId => rfl
    | order _ | inventory _ | shipment _ => cases locks
  | reserveNothing | releaseNothing => cases locks

/-- Where one statement of an event finds nothing to write, the others find nothing either. -/
theorem locks_uniform {e : EventEnvelope} {m m' : Mutation} (hm : m ∈ mutations e) (hm' : m' ∈ mutations e)
    {change change' : Change} (h : m.change pg = .ok change) (h' : m'.change pg = .ok change') {k : ModelKey}
    {x y : Option (ModelRow k)} (locks : change.locks k x = true) (free : change.locks k y = false) :
    change'.locks k y = false := by
  by_contra locks'
  have hlocks' : change'.locks k y = true := Bool.not_eq_false _ ▸ locks'
  have table := locks_table h locks
  have table' := locks_table h' hlocks'
  by_cases stock : k.table = .inventory
  · -- both are updates of the row of one SKU
    cases k with
    | order _ | payment _ | shipment _ => cases stock
    | inventory sku =>
      have absent : y = none := by
        cases change_of h with
        | reserve sku' f | release sku' f =>
          obtain ⟨same, -⟩ := Bool.and_eq_true_iff.mp locks
          simpa [Change.locks, of_decide_eq_true same] using free
        | reserveNothing | releaseNothing => cases locks
        | insertOrder | updateOrder | insertPayment | refundPayments | insertShipment => cases table
      subst absent
      cases change_of h' with
      | reserve sku' f | release sku' f => simp [Change.locks] at hlocks'
      | reserveNothing | releaseNothing => cases hlocks'
      | insertOrder | updateOrder | insertPayment | refundPayments | insertShipment => cases table'
  · have single := mutations_single e stock
    have symm : Std.Symm fun m m' : Mutation => m.table ≠ k.table ∨ m'.table ≠ k.table := ⟨fun _ _ => Or.symm⟩
    by_cases same : m = m'
    · subst same
      rw [h] at h'
      cases h'
      rw [free] at hlocks'
      cases hlocks'
    · rcases single.forall hm hm' same with hne | hne
      · exact hne table
      · exact hne table'

end Fulfillment
