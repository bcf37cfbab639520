import Fulfillment.Effects.Transaction
import Fulfillment.Projection.Mutations

/-!
# `ProjectionConsumer.applyHistoricalEvent`

A transaction looks up the marker of the event, mutates the read models and
sets the marker. `applyOnce` says what it does when nothing fails, and
`applyHistoricalEvent_run` that it does this or nothing.
-/

namespace Fulfillment

open Js Effects

def projectionName : String := "order-fulfillment-projection"

/-- The marker of an event. -/
abbrev markerOf (eventId : String) : String × String := (projectionName, eventId)

inductive ProjectionStatement
  | isProjectionEventApplied (eventId : String)
  | mutation (m : Mutation)
  | markProjectionEventApplied (eventId aggregateId : String)

abbrev ProjectionStatement.Answer : ProjectionStatement → Type
  | .isProjectionEventApplied _ => Bool
  | .mutation _ | .markProjectionEventApplied _ _ => Unit

abbrev Transaction (α : Type) := Prog JsError ProjectionStatement.Answer α

abbrev query (c : ProjectionStatement) : Transaction c.Answer := Prog.await c

namespace ProjectionDb

def isProjectionEventApplied (eventId : String) (db : ProjectionDb) : Bool :=
  (db.applied (markerOf eventId)).isSome

/-- `INSERT ... ON CONFLICT (projection_name, event_id) DO NOTHING`. -/
def markProjectionEventApplied (eventId aggregateId : String) (clock : Int) (db : ProjectionDb) : ProjectionDb :=
  { db with
    applied := Function.update db.applied (markerOf eventId)
      (some ((db.applied (markerOf eventId)).getD ⟨aggregateId, clock⟩)) }

end ProjectionDb

/-- Whether the marker can be written. -/
def markerFits (eventId aggregateId : String) : Bool := fitsVarchar 100 eventId && fitsVarchar 100 aggregateId

variable (pg : Postgres) (clock : Int)

/-- The statements; `clock` is `CURRENT_TIMESTAMP`. -/
def projectionStatements : Semantics JsError ProjectionDb ProjectionStatement.Answer where
  effect statement _ db :=
    match statement with
    | .isProjectionEventApplied eventId =>
      if fitsText eventId then .ok (db.isProjectionEventApplied eventId, db) else .error columnError
    | .mutation m => (m.change pg).map fun change => ((), { db with models := change.apply db.models })
    | .markProjectionEventApplied eventId aggregateId =>
      if markerFits eventId aggregateId then .ok ((), db.markProjectionEventApplied eventId aggregateId clock)
      else .error columnError

def performMutations : List Mutation → Transaction Unit
  | [] => pure ()
  | m :: rest => do
    query (.mutation m)
    performMutations rest

def executeInTx (e : EventEnvelope) : Transaction Unit := do
  let alreadyApplied : Bool ← query (.isProjectionEventApplied e.eventId)
  if alreadyApplied then pure ()
  else do
    performMutations (mutations e)
    query (.markProjectionEventApplied e.eventId e.aggregateId)

def applyHistoricalEvent (f : TxOutcomes JsError ProjectionStatement) (e : EventEnvelope) (db : ProjectionDb) :
    Except JsError Unit × ProjectionDb :=
  transact (projectionStatements pg clock) f (executeInTx e) db

/-! ## The transaction as one step -/

/-- The transaction when nothing fails of itself. -/
def applyOnce (e : EventEnvelope) (db : ProjectionDb) : Except JsError ProjectionDb :=
  if fitsText e.eventId then
    if db.isProjectionEventApplied e.eventId then .ok db
    else
      (mutate pg e db.models).bind fun models =>
        if markerFits e.eventId e.aggregateId then
          .ok (ProjectionDb.markProjectionEventApplied e.eventId e.aggregateId clock { db with models })
        else .error columnError
  else .error columnError

variable {pg clock}

/-- A statement that returns had its effect. -/
theorem exec_returns {c : ProjectionStatement} {o : Outcome JsError} {db db' : ProjectionDb} {a : c.Answer}
    (h : (projectionStatements pg clock).exec c o db = (.ok a, db')) :
    (projectionStatements pg clock).effect c true db = .ok (a, db') := by
  rcases exec_cases (projectionStatements pg clock) c o db with ⟨e, hexec⟩ | ⟨r, t, -, heffect, hexec⟩ |
    ⟨e, r, t, -, -, hexec⟩
  · rw [hexec] at h
    cases h
  · rw [hexec] at h
    cases h
    exact heffect
  · rw [hexec] at h
    cases h

theorem isApplied_returns {eventId : String} {o : Outcome JsError} {db db' : ProjectionDb} {b : Bool}
    (h : (projectionStatements pg clock).exec (.isProjectionEventApplied eventId) o db = (.ok b, db')) :
    fitsText eventId = true ∧ b = db.isProjectionEventApplied eventId ∧ db' = db := by
  have heffect := exec_returns h
  simp only [projectionStatements] at heffect
  by_cases fits : fitsText eventId = true
  · rw [if_pos fits] at heffect
    cases heffect
    exact ⟨fits, rfl, rfl⟩
  · rw [if_neg fits] at heffect
    cases heffect

theorem mutation_returns {m : Mutation} {o : Outcome JsError} {db db' : ProjectionDb} {a : Unit}
    (h : (projectionStatements pg clock).exec (.mutation m) o db = (.ok a, db')) :
    ∃ change, m.change pg = .ok change ∧ db' = { db with models := change.apply db.models } := by
  have heffect := exec_returns h
  simp only [projectionStatements] at heffect
  cases hchange : m.change pg with
  | error e =>
    rw [hchange] at heffect
    cases heffect
  | ok change =>
    rw [hchange] at heffect
    cases heffect
    exact ⟨change, rfl, rfl⟩

theorem mark_returns {eventId aggregateId : String} {o : Outcome JsError} {db db' : ProjectionDb} {a : Unit}
    (h : (projectionStatements pg clock).exec (.markProjectionEventApplied eventId aggregateId) o db = (.ok a, db')) :
    markerFits eventId aggregateId = true ∧ db' = db.markProjectionEventApplied eventId aggregateId clock := by
  have heffect := exec_returns h
  simp only [projectionStatements] at heffect
  by_cases fits : markerFits eventId aggregateId = true
  · rw [if_pos fits] at heffect
    cases heffect
    exact ⟨fits, rfl⟩
  · rw [if_neg fits] at heffect
    cases heffect

variable {oracle : List ProjectionStatement → ProjectionStatement → Outcome JsError}

theorem performMutations_returns {ms : List Mutation} {past : List ProjectionStatement} {db : ProjectionDb}
    (h : ((performMutations ms).run (projectionStatements pg clock) oracle past db).value = .ok ()) :
    ∃ models, runMutations pg ms db.models = .ok models ∧
      ((performMutations ms).run (projectionStatements pg clock) oracle past db).state = { db with models } := by
  induction ms generalizing past db with
  | nil => exact ⟨db.models, rfl, rfl⟩
  | cons m rest ih =>
    rcases hx : (projectionStatements pg clock).exec (.mutation m) (oracle past (.mutation m)) db with ⟨e | a, t⟩
    · rw [performMutations, run_await_error hx] at h
      cases h
    · rw [performMutations, run_await_ok hx] at h ⊢
      obtain ⟨change, hchange, rfl⟩ := mutation_returns hx
      obtain ⟨models, hrun, hstate⟩ := ih h
      refine ⟨models, ?_, hstate⟩
      rw [runMutations, hchange]
      exact hrun

/-- A body that returns did what the transaction does as one step. -/
theorem executeInTx_returns {e : EventEnvelope} {past : List ProjectionStatement} {db : ProjectionDb}
    (h : ((executeInTx e).run (projectionStatements pg clock) oracle past db).value = .ok ()) :
    applyOnce pg clock e db =
      .ok ((executeInTx e).run (projectionStatements pg clock) oracle past db).state := by
  rcases hx : (projectionStatements pg clock).exec (.isProjectionEventApplied e.eventId)
    (oracle past (.isProjectionEventApplied e.eventId)) db with ⟨err | applied, t⟩
  · rw [executeInTx, run_await_error hx] at h
    cases h
  · rw [executeInTx, run_await_ok hx] at h ⊢
    obtain ⟨fits, rfl, rfl⟩ := isApplied_returns hx
    unfold applyOnce
    rw [if_pos fits]
    cases applied : t.isProjectionEventApplied e.eventId with
    | true => rfl
    | false =>
      simp only [applied, Bool.false_eq_true, if_false] at h ⊢
      rw [run_bind] at h ⊢
      cases hv : ((performMutations (mutations e)).run (projectionStatements pg clock) oracle
          (.isProjectionEventApplied e.eventId :: past) t).value with
      | error err =>
        rw [Ran.andThen, hv] at h
        cases h
      | ok a =>
        obtain ⟨models, hmutate, hstate⟩ := performMutations_returns hv
        simp only [Ran.andThen, hv, run_await] at h ⊢
        obtain ⟨fits, hmarked⟩ := mark_returns (Prod.ext h rfl)
        rw [mutate, hmutate, Except.bind, if_pos fits, ← hstate]
        exact congrArg Except.ok hmarked.symm

/-- Whatever fails, an application does what it does as one step, or it throws
and changes nothing; if only the answer of the `COMMIT` was lost it does both. -/
theorem applyHistoricalEvent_run (f : TxOutcomes JsError ProjectionStatement) (e : EventEnvelope) (db : ProjectionDb) :
    (∃ db', applyOnce pg clock e db = .ok db' ∧ f.commit = .ok ∧
      applyHistoricalEvent pg clock f e db = (.ok (), db')) ∨
    (∃ db' err, applyOnce pg clock e db = .ok db' ∧ f.commit = .unacked err ∧
      applyHistoricalEvent pg clock f e db = (.error err, db')) ∨
    ∃ err, applyHistoricalEvent pg clock f e db = (.error err, db) := by
  unfold applyHistoricalEvent
  cases hb : bodyRun (projectionStatements pg clock) f (executeInTx e) db with
  | error err =>
    rw [transact_of_error hb]
    exact .inr (.inr ⟨err, rfl⟩)
  | ok r =>
    have once : applyOnce pg clock e db = .ok r.2 := 
      bodyRun_returns (P := fun _ db' => applyOnce pg clock e db = .ok db') hb fun h => executeInTx_returns h
    rw [transact_of_ok hb]
    cases hc : f.commit with
    | ok => exact .inl ⟨r.2, once, rfl, rfl⟩
    | unacked err => exact .inr (.inl ⟨r.2, err, once, rfl, rfl⟩)
    | rejected err => exact .inr (.inr ⟨err, rfl⟩)

end Fulfillment
