import Fulfillment.Consumers.Services
import Fulfillment.Effects.Steady
import Fulfillment.Orders.CreateOrder
import Fulfillment.Outbox.Publication
import Fulfillment.Saga.Orchestrator

/-!
# The closed system

Relays, the saga and the five services run side by side, each message that the
broker took reaching its consumers in any order and any number of times. Only
`createOrder` brings in anything from outside.
-/

namespace Fulfillment

open Js Relational Effects

inductive Component
  | outboxRelay (relay : OutboxRelay)
  | saga
  | payment
  | inventory
  | fraud
  | shipping
  | notification

def Component.consumer : Component → Option Consumer
  | .outboxRelay _ => none
  | .saga => some sagaOrchestrator
  | .payment => some paymentService.consumer
  | .inventory => some inventoryService.consumer
  | .fraud => some fraudService.consumer
  | .shipping => some shippingService.consumer
  | .notification => some notificationService.consumer

def Component.topics : Component → List String
  | .outboxRelay _ => []
  | .saga => SagaOrchestrator.topics
  | .payment => [paymentService.topic]
  | .inventory => [inventoryService.topic]
  | .fraud => [fraudService.topic]
  | .shipping => [shippingService.topic]
  | .notification => [notificationService.topic]

inductive Work
  | sweep
  | deliver (env : Surroundings) (message : EachMessagePayload)

def Component.perform (component : Component) : Work → Program Unit
  | .sweep =>
    match component with
    | .outboxRelay relay => relay.processBatch >>= fun _ => pure ()
    | _ => pure ()
  | .deliver env message =>
    match component.consumer with
    | some c => c.handleMessage env message
    | none => pure ()

/-- The broker took the event. -/
def PublishedIn (journal : List Entry) (e : EventEnvelope) : Prop :=
  ∃ m acked, .sent m acked ∈ journal ∧ m.value = .event e

/-- The message is the text of an event that the broker took for its topic. -/
def Delivers (w : World) (message : EachMessagePayload) (e : EventEnvelope) : Prop :=
  ∃ m acked raw, .sent m acked ∈ w.journal ∧ m.topic = message.topic ∧ m.value = .event e ∧
    message.value = some raw ∧ Json.parse raw = some e.toJson

/-- What happens outside the components: orders are created, each in one
transaction that may fail, and time passes. -/
inductive Outside (w : World) : World → Prop
  | createOrder (c : CreateOrder) (f : TxOutcomes JsError OrderStatement) :
    Outside w { w with db := (c.createOrder w.clock f w.db).2 }
  | time (clock : Int) (locked : String → Bool) : Outside w { w with clock := clock, locked := locked }

/-- Any call may fail, also after it was carried out, and any component may stop between two calls. -/
def closedSystem {ι : Type} (components : ι → Component) (init : World → Prop)
    (environment : World → World → Prop) : Machine JsError World Answer ι Work Unit where
  semantics := platform .none
  body i work := (components i).perform work
  init := init
  startable i work w :=
    match work with
    | .sweep => True
    | .deliver _ message => message.topic ∈ (components i).topics ∧ ∃ e, Delivers w message e
  allowed _ _ _ _ _ := True
  environment := environment
  leaves _ _ := True

/-! ## Handling a message -/

section
variable {G : Regime World} {c : Consumer} {env : Surroundings} {message : EachMessagePayload} {w : World}

/-- The calls of the base class, apart from those of `processEvent`. -/
structure Consumer.Keeps (G : Regime World) (c : Consumer) (e : EventEnvelope) (w : World) : Prop where
  isEventProcessed : Effects.Keeps (platform .none) G (.isEventProcessed e.eventId c.consumerName) w
  markEventProcessed : Effects.Keeps (platform .none) G (.markEventProcessed e.eventId c.consumerName) w
  persistDeadLetter : ∀ dlq attempts outboxId, dlq.payload.content = .exhausted e attempts →
    Effects.Keeps (platform .none) G (.persistDeadLetter dlq true outboxId) w
  send : ∀ key p attempts, p.content = .exhausted e attempts →
    Effects.Keeps (platform .none) G (.send ⟨Topics.dlq, key, .deadLetter p⟩) w
  markDLQOutboxPublished : ∀ id, Effects.Keeps (platform .none) G (.markDLQOutboxPublished id c.consumerName) w

theorem publishDeadLetter_steady {dlq : DlqMessage} {marksFailed : Bool} {key : String}
    (persists : Effects.Keeps (platform .none) G (.persistDeadLetter dlq marksFailed ("outbox_" ++ dlq.id)) w)
    (sends : Effects.Keeps (platform .none) G (.send ⟨Topics.dlq, key, .deadLetter dlq.payload⟩) w)
    (marks : Effects.Keeps (platform .none) G (.markDLQOutboxPublished ("outbox_" ++ dlq.id) c.consumerName) w) :
    Steady (platform .none) G (c.publishDeadLetter dlq marksFailed key) w := by
  have ends : ∀ r : Except JsError Unit, Steady (platform .none) G (Prog.pure () : Program Unit) w := fun _ => .pure () w
  apply Steady.bind _ ends
  apply Steady.settle
  apply Steady.bind (.await persists)
  intro _
  exact .bind (.await sends) fun _ => .await marks

/-- A consumer whose `processEvent` is steady handles the event steadily, whatever is retried. -/
theorem handleEnvelope_steady {e : EventEnvelope} (keeps : c.Keeps G e w)
    (process : ∀ attempt, Steady (platform .none) G (c.processEvent attempt (env.attempt attempt) e) w) :
    Steady (platform .none) G (c.handleEnvelope env message e) w := by
  have attempts : ∀ left attempt lastError,
      Steady (platform .none) G (c.retryLoop env message e left attempt lastError) w := by
    intro left
    induction left with
    | zero =>
      intro attempt lastError
      exact publishDeadLetter_steady (keeps.persistDeadLetter _ attempt _ rfl) (keeps.send _ _ attempt rfl)
        (keeps.markDLQOutboxPublished _)
    | succ left ih =>
      intro attempt lastError
      apply Steady.bind
      · apply Steady.settle
        exact .bind (process _) fun _ => .await keeps.markEventProcessed
      · rintro (err | done)
        · exact ih _ _
        · exact .pure () w
  apply Steady.bind (.await keeps.isEventProcessed)
  intro alreadyProcessed
  cases alreadyProcessed with
  | true => exact .pure () w
  | false => exact attempts c.maxRetries 0 none

end

end Fulfillment
