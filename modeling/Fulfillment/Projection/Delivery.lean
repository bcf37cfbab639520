import Fulfillment.Consumers.Handling
import Fulfillment.Consumers.NoLoss
import Fulfillment.Effects.Expand
import Fulfillment.Projection.ProjectionConsumer

/-!
# A message handled by the projection consumer

`handleMessage` is that of the consumer base; its call of `processEvent` is
carried out by the three calls of the projection.
-/

namespace Fulfillment

open Js Effects

def projectionConsumer : Consumer := baseConsumer "projection-consumer" 3

def projectionHandler : (c : Call) → ProjectionProgram (Answer c)
  | .processEvent e _ => ProjectionConsumer.processEvent e
  | c => perform (.base c)

/-- A message, and what its handling meets; the oracle decides how each call ends. -/
structure ProjectionDelivery where
  env : Surroundings
  message : EachMessagePayload
  clock : Int
  oracle : List ProjectionCall → ProjectionCall → Outcome JsError

def ProjectionDelivery.envelope (d : ProjectionDelivery) : Option EventEnvelope :=
  parseEnvelope d.env.uuid d.env.now (d.message.value.getD "")

variable (pg : Postgres)

def ProjectionDelivery.handled (d : ProjectionDelivery) (w : ProjectionWorld) : ProjectionWorld :=
  (((projectionConsumer.handleMessage d.env d.message).expand projectionHandler).run (projectionPlatform pg) d.oracle []
    (w.atTime d.clock)).state

/-- What is left to handle once the message was read as an event. -/
def ProjectionDelivery.handledAs (e : EventEnvelope) (d : ProjectionDelivery) (w : ProjectionWorld) : ProjectionWorld :=
  (((projectionConsumer.handleEnvelope d.env d.message e).expand projectionHandler).run (projectionPlatform pg) d.oracle []
    (w.atTime d.clock)).state

theorem ProjectionDelivery.handled_eq {d : ProjectionDelivery} {e : EventEnvelope} (h : d.envelope = some e)
    (w : ProjectionWorld) : d.handled pg w = d.handledAs pg e w := by
  rw [handled, handledAs, Consumer.handleMessage_of_parsed h]

/-! ## The calls of the handler -/

/-- The call processes no other event. -/
def ProcessesOnly (e : Option EventEnvelope) : Call → Prop
  | .processEvent e' _ => e = some e'
  | _ => True

namespace Consumer

variable {c : Consumer} {env : Surroundings} {message : EachMessagePayload}

theorem publishDeadLetter_calls (e : Option EventEnvelope) (dlq : DlqMessage) (marksFailed : Bool) (key : String) :
    (c.publishDeadLetter dlq marksFailed key).Calls (ProcessesOnly e) := by
  apply Prog.Calls.bind
  · apply Prog.Calls.settle
    apply Prog.Calls.bind
    · exact .await trivial
    · intro _
      apply Prog.Calls.bind
      · exact .await trivial
      · intro _
        exact .await trivial
  · intro _
    trivial

theorem tryProcess_calls (consumerName : String) (maxRetries attempt : Nat) (e : EventEnvelope) :
    ((baseConsumer consumerName maxRetries).tryProcess env attempt e).Calls (ProcessesOnly (some e)) := by
  apply Prog.Calls.bind
  · exact .await rfl
  · intro _
    exact .await trivial

theorem retryLoop_calls (consumerName : String) (maxRetries : Nat) (e : EventEnvelope) (left attempt : Nat)
    (lastError : Option JsError) :
    ((baseConsumer consumerName maxRetries).retryLoop env message e left attempt lastError).Calls
      (ProcessesOnly (some e)) := by
  induction left generalizing attempt lastError with
  | zero => exact publishDeadLetter_calls _ _ _ _
  | succ left ih =>
    apply Prog.Calls.bind
    · exact (tryProcess_calls consumerName maxRetries _ e).settle
    · intro r
      cases r with
      | ok _ => trivial
      | error err => exact ih _ _

theorem handleMessage_calls (consumerName : String) (maxRetries : Nat) :
    ((baseConsumer consumerName maxRetries).handleMessage env message).Calls
      (ProcessesOnly (parseEnvelope env.uuid env.now (message.value.getD ""))) := by
  unfold handleMessage
  dsimp only
  cases parseEnvelope env.uuid env.now (message.value.getD "") with
  | none => exact publishDeadLetter_calls _ _ _ _
  | some e =>
    apply Prog.Calls.bind
    · exact .await trivial
    · intro processed
      cases processed with
      | true => trivial
      | false => exact retryLoop_calls consumerName maxRetries e _ _ _

end Consumer

variable {pg}

/-! ## What a delivery keeps -/

theorem base_returns {c : Call} {acked : Bool} {w t : ProjectionWorld} {r : Answer c}
    (h : (projectionPlatform pg).effect (.base c) acked w = .ok (r, t)) :
    t.store = w.store ∧ t.projection = w.projection := by
  simp only [projectionPlatform] at h
  cases hbase : (platform .none).effect c acked w.world with
  | error err =>
    rw [hbase] at h
    cases h
  | ok r =>
    rw [hbase] at h
    cases h
    exact ⟨rfl, rfl⟩

/-- The calls of the consumer base leave the event store and the projection alone. -/
theorem base_frame (c : Call) (o : Outcome JsError) (w : ProjectionWorld) :
    ((projectionPlatform pg).exec (.base c) o w).2.store = w.store ∧
    ((projectionPlatform pg).exec (.base c) o w).2.projection = w.projection := by
  rcases exec_cases (projectionPlatform pg) (.base c) o w with ⟨err, hexec⟩ | ⟨r, t, -, heffect, hexec⟩ |
    ⟨err, r, t, -, heffect, hexec⟩
  · rw [hexec]
    exact ⟨rfl, rfl⟩
  all_goals
    rw [hexec]
    exact base_returns heffect

/-- What every attempt keeps, the handling of the message keeps. -/
theorem ProjectionDelivery.handled_keeps {I : ProjectionWorld → Prop} (d : ProjectionDelivery) {w : ProjectionWorld}
    (frame : ∀ w w' : ProjectionWorld, w'.store = w.store → w'.projection = w.projection → I w → I w')
    (process : ∀ e, d.envelope = some e → ∀ w, I w →
      Safe (projectionPlatform pg) (.alone _ _ _) (fun _ w => I w) (ProjectionConsumer.processEvent e) w)
    (hw : I w) : I (d.handled pg w) := by
  have start : I (w.atTime d.clock) := frame w _ rfl rfl hw
  have keeps : ∀ c, ProcessesOnly d.envelope c → ∀ w, I w →
      Safe (projectionPlatform pg) (.alone _ _ _) (fun _ w => I w) (projectionHandler c) w := by
    intro c only w hw
    cases c
    case processEvent e attempt => exact process e only w hw
    all_goals
      apply Safe.await
      rintro _ rfl o -
      refine ⟨trivial, ?_⟩
      exact frame _ _ (base_frame _ o _).1 (base_frame _ o _).2 hw
  have safe := Safe.expand keeps (@Consumer.handleMessage_calls d.env d.message "projection-consumer" 3) start
  exact safe_run (fun _ => rfl) (fun _ _ _ => trivial) [] safe

end Fulfillment
