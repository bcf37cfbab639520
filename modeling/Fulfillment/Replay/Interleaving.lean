import Fulfillment.Effects.Pool
import Fulfillment.Replay.Coverage
import Fulfillment.Replay.Failure

/-!
# A replay beside live processing

One replay of an order runs beside any number of workers that process further
events of the order, call by call in any order.
-/

namespace Fulfillment

open Js Effects

variable {ι : Type} [DecidableEq ι]

inductive Slot (ι : Type)
  | replay
  | live (i : ι)
  deriving DecidableEq

inductive Task
  | replay
  | process (e : EventEnvelope)

abbrev Sides (ι : Type) := Pool JsError ProjectionWorld ProjectionAnswer (Slot ι) Task (Option ReplayResult)

abbrev SideWorker := Worker JsError ProjectionAnswer Task (Option ReplayResult)

def taskBody (orderId : String) : Task → ProjectionProgram (Option ReplayResult)
  | .replay => do
    let result : ReplayResult ← replayAggregate orderId
    return some result
  | .process e => do
    ProjectionConsumer.processEvent e
    return none

/-- No call fails; the replay happens once. -/
def replayBesideLive (pg : Postgres) (orderId : String) (ι : Type) :
    Machine JsError ProjectionWorld ProjectionAnswer (Slot ι) Task (Option ReplayResult) where
  semantics := projectionPlatform pg
  body _ := taskBody orderId
  init w := Sound pg w.store w.projection
  startable
    | .replay, .replay, _ => True
    | .live _, .process e, _ => e.aggregateId = orderId
    | _, _, _ => False
  allowed _ _ c o w := o = .ok ∧ ((projectionPlatform pg).effect c true w).isOk = true
  environment w w' := w'.store = w.store ∧ w'.projection = w.projection
  leaves slot w := slot ≠ .replay ∧ w.rest.Finished

def Performed (w : SideWorker) (c : ProjectionCall) : Prop := ∃ r, (⟨c, r⟩ : Σ c, Except JsError (ProjectionAnswer c)) ∈ w.past

def Fetched (orderId : String) (w : SideWorker) (events : List EventEnvelope) : Prop :=
  (⟨.getEventsByAggregateId orderId, .ok events⟩ : Σ c, Except JsError (ProjectionAnswer c)) ∈ w.past

/-- An application comes when the event is marked; or the event does not write the
row; or the replay has not fetched the events; or it has not deleted the markers and
fetched this event, and if the row is deleted the event does not insert it; or it has
deleted the markers and no later event that writes the row is marked. -/
def Timely (pg : Postgres) (orderId : String) (p : Sides ι) (e : EventEnvelope) : Prop :=
  p.shared.projection.isProjectionEventApplied e.eventId = true ∨ orderWrite pg e = none ∨
  ∀ w events, p.workers .replay = some w → Fetched orderId w events →
    (Performed w (.deleteAppliedEvents orderId) ∧
      ∀ s ∈ p.shared.store.events, s.eventId = e.eventId → InPlace pg s p.shared.store p.shared.projection) ∨
    (¬Performed w (.deleteAppliedEvents orderId) ∧ e.eventId ∈ events.map EventEnvelope.eventId ∧
      (Performed w (.deleteOrderReadModel orderId) → orderStep pg none e = none))

/-- The condition on the call that is about to be made. -/
def Meets (pg : Postgres) (orderId : String) (p : Sides ι) : ProjectionCall → Prop
  | .appendToEventStore e => ∀ s ∈ p.shared.store.events, s.eventId = e.eventId → s.IsOf e
  | .applyHistoricalEvent e => Timely pg orderId p e
  | _ => True

/-- The runs whose calls all meet the condition. -/
def timelyRuns (pg : Postgres) (orderId : String) (ι : Type) [DecidableEq ι] : System (Sides ι) where
  init := (replayBesideLive pg orderId ι).system.init
  step p q := (replayBesideLive pg orderId ι).system.step p q ∧
    ∀ i w c k, p.workers i = some w → w.rest = .call c k → q.workers i ≠ p.workers i → Meets pg orderId p c

/-! ## Where the parties are -/

def justApply (e : EventEnvelope) : ProjectionProgram (Option ReplayResult) :=
  perform (.applyHistoricalEvent e) >>= fun _ => pure none

def recordAndApply (e : EventEnvelope) : ProjectionProgram (Option ReplayResult) :=
  (perform (.recordEvent e.aggregateId e.eventType.name (orString e.producer "system")) >>= fun _ =>
    perform (.applyHistoricalEvent e)) >>= fun _ => pure none

/-- The worker's event is stored and not applied yet. -/
structure About (s : EventStore) (w : SideWorker) (stored : StoredEvent) : Prop where
  member : stored ∈ s.events
  event : ∃ e, w.job = .process e ∧ stored.IsOf e ∧ (w.rest = recordAndApply e ∨ w.rest = justApply e)

inductive LiveStage (orderId : String) (s : EventStore) (w : SideWorker) : Prop
  | appending (e : EventEnvelope) (job : w.job = .process e) (about : e.aggregateId = orderId)
      (next : w.rest = taskBody orderId (.process e))
  | recording (e : EventEnvelope) (job : w.job = .process e) (about : e.aggregateId = orderId)
      (next : w.rest = recordAndApply e) (stored : StoredEvent) (hstored : stored ∈ s.events) (isOf : stored.IsOf e)
  | applying (e : EventEnvelope) (job : w.job = .process e) (about : e.aggregateId = orderId)
      (next : w.rest = justApply e) (stored : StoredEvent) (hstored : stored ∈ s.events) (isOf : stored.IsOf e)
  | finished (done : w.rest = .pure none)

def Pending (p : Sides ι) (stored : StoredEvent) : Prop :=
  ∃ i w, p.workers (.live i) = some w ∧ About p.shared.store w stored

/-- The replay has performed `n` statements of the reset. -/
structure Resetting (orderId : String) (w : SideWorker) (n : Nat) (fetched : List EventEnvelope) : Prop where
  under : n < 4
  next : Follows w.rest ((resetCalls orderId).drop n ++ rebuildCalls orderId fetched)
  fetch : Fetched orderId w fetched
  past : w.past.map Sigma.fst = ((resetCalls orderId).take n).reverse ++ [.getEventsByAggregateId orderId]

structure Reapplying (orderId : String) (w : SideWorker) (left : List EventEnvelope) : Prop where
  next : Follows w.rest (rebuildCalls orderId left) ∨ left = [] ∧ Follows w.rest []
  fetch : ∃ fetched, Fetched orderId w fetched
  reset : Performed w (.deleteAppliedEvents orderId)

inductive Phase (pg : Postgres) (orderId : String) (p : Sides ι) : Prop
  | waiting (idle : ∀ w, p.workers .replay = some w → w.rest = taskBody orderId .replay ∧ w.past = [])
  | resetting (w : SideWorker) (n : Nat) (fetched : List EventEnvelope) (busy : p.workers .replay = some w)
      (stage : Resetting orderId w n fetched)
      (gap : Gap pg orderId fetched (1 ≤ n) (Pending p) p.shared.store p.shared.projection)
  | rebuilding (w : SideWorker) (left : List EventEnvelope) (busy : p.workers .replay = some w)
      (stage : Reapplying orderId w left)
      (rebuilt : Rebuilt pg orderId left (Pending p) p.shared.store p.shared.projection)

structure SideBySide (pg : Postgres) (orderId : String) (p : Sides ι) : Prop where
  sound : Sound pg p.shared.store p.shared.projection
  live : ∀ i w, p.workers (.live i) = some w → LiveStage orderId p.shared.store w
  phase : Phase pg orderId p

variable {pg : Postgres} {orderId : String}

/-- A replay after its fetch. -/
theorem replay_fetches (orderId : String) : ∃ k, taskBody orderId .replay = .call (.getEventsByAggregateId orderId) k ∧
    ∀ events, Follows (k (.ok events)) (resetCalls orderId ++ rebuildCalls orderId events) := by
  refine ⟨_, rfl, fun events => ?_⟩
  have body : Performs (do
      resetReadModelForAggregate orderId
      applyAll events
      let reconstructedState : Option OrderSummary ← perform (.getOrder orderId)
      return (⟨orderId, events.length, .success, reconstructedState, none⟩ : ReplayResult))
      (resetCalls orderId ++ rebuildCalls orderId events) := by
    apply (resetReadModelForAggregate_performs orderId).bind
    intro _
    apply (applyAll_performs _).bind
    intro _
    exact .await_bind fun _ => .done _
  change Follows ((Prog.settle _ >>= _) >>= fun result => pure (some result)) _
  rw [bind_assoc]
  exact body.settle fun _ => .done _

end Fulfillment
