import Fulfillment.Consumers.BaseConsumer

/-!
# Reasoning about a handler

`handleEnvelope_safe` is the rule for `handleMessage`: what the calls of the
consumer base keep, and every run of `processEvent` keeps, the handler keeps,
however its calls end and whatever others do meanwhile.
-/

namespace Fulfillment

open Js Effects

/-- The calls of the consumer base itself. -/
inductive BaseCall (consumerName : String) : Call → Prop
  | dedup (eventId) : BaseCall consumerName (.isEventProcessed eventId consumerName)
  | mark (eventId) : BaseCall consumerName (.markEventProcessed eventId consumerName)
  | persist (dlq marksFailed outboxId) : BaseCall consumerName (.persistDeadLetter dlq marksFailed outboxId)
  | send (key p) : BaseCall consumerName (.send ⟨Topics.dlq, key, .deadLetter p⟩)
  | published (id workerId) : BaseCall consumerName (.markDLQOutboxPublished id workerId)

/-- The consumer base leaves the sagas alone, and all it sends are dead letters. -/
theorem BaseCall.frame {consumerName : String} {call : Call} (h : BaseCall consumerName call)
    (D : DomainWork) (acked : Bool) (w : World) :
    (carryOut D call acked w).2.db.sagaInstances = w.db.sagaInstances ∧
    ((carryOut D call acked w).2.journal = w.journal ∨
      ∃ key p, (carryOut D call acked w).2.journal = .sent ⟨Topics.dlq, key, .deadLetter p⟩ acked :: w.journal) := by
  cases h with
  | dedup | mark | published => exact ⟨rfl, .inl rfl⟩
  | persist dlq marksFailed => cases marksFailed <;> exact ⟨rfl, .inl rfl⟩
  | send key p => exact ⟨rfl, .inr ⟨key, p, rfl⟩⟩

section

variable {S : Semantics JsError World Answer} {K : Contract JsError World Call} {Inv : World → Prop}

/-- A call that keeps the guarantee and the invariant. -/
def Keeps (S : Semantics JsError World Answer) (K : Contract JsError World Call) (Inv : World → Prop)
    (c : Call) : Prop :=
  ∀ o w, K.allowed c o w → Inv w → K.guar w (S.exec c o w).2 ∧ Inv (S.exec c o w).2

theorem Keeps.await (stable : ∀ w w', K.rely w w' → Inv w → Inv w') {c : Call} (h : Keeps S K Inv c)
    {w : World} (hw : Inv w) : Safe S K (fun _ w => Inv w) (await c) w :=
  .await fun t ht o ho => h o t ho (stable w t ht hw)

end

namespace Consumer

theorem handleMessage_of_parsed {c : Consumer} {env : Surroundings} {message : EachMessagePayload}
    {e : EventEnvelope} (parsed : parseEnvelope env.uuid env.now (message.value.getD "") = some e) :
    c.handleMessage env message = c.handleEnvelope env message e := by
  rw [handleMessage, parsed]

variable {S : Semantics JsError World Answer} {K : Contract JsError World Call} {Inv : World → Prop}
  (c : Consumer) (env : Surroundings) (message : EachMessagePayload) (e : EventEnvelope)

/-- A dead letter makes three of the calls of the base. -/
theorem publishDeadLetter_safe (stable : ∀ w w', K.rely w w' → Inv w → Inv w') (dlq : DlqMessage)
    (marksFailed : Bool) (key : String)
    (persist : Keeps S K Inv (.persistDeadLetter dlq marksFailed ("outbox_" ++ dlq.id)))
    (send : Keeps S K Inv (.send ⟨Topics.dlq, key, .deadLetter dlq.payload⟩))
    (published : Keeps S K Inv (.markDLQOutboxPublished ("outbox_" ++ dlq.id) c.consumerName)) {w : World} (hw : Inv w) :
    Safe S K (fun _ w => Inv w) (c.publishDeadLetter dlq marksFailed key) w := by
  refine Safe.andThen (Safe.settle (Safe.andThen ?_ fun _ w hw => Safe.andThen ?_ fun _ w hw => ?_))
    fun _ w hw => hw
  · exact persist.await stable hw
  · exact send.await stable hw
  · exact published.await stable hw

variable (stable : ∀ w w', K.rely w w' → Inv w → Inv w')
  (base : ∀ call, BaseCall c.consumerName call → Keeps S K Inv call)
  (process : ∀ attempt w, Inv w →
    Safe S K (fun _ w => Inv w) (c.processEvent attempt (env.attempt attempt) e) w)

include stable base process

theorem tryProcess_safe (attempt : Nat) {w : World} (hw : Inv w) :
    Safe S K (fun _ w => Inv w) (c.tryProcess env attempt e) w :=
  Safe.andThen (process attempt w hw) fun _ _ hw => (base _ (.mark _)).await stable hw

theorem retryLoop_safe (left attempt : Nat) (lastError : Option JsError) {w : World} (hw : Inv w) :
    Safe S K (fun _ w => Inv w) (c.retryLoop env message e left attempt lastError) w := by
  induction left generalizing attempt lastError w with
  | zero => exact publishDeadLetter_safe c stable _ _ _ (base _ (.persist ..)) (base _ (.send ..)) (base _ (.published ..)) hw
  | succ left ih =>
    refine Safe.andThen (Safe.settle (tryProcess_safe c env e stable base process _ hw)) fun r w hw => ?_
    cases r with
    | ok => exact hw
    | error err => exact ih _ _ hw

theorem handleEnvelope_safe {w : World} (hw : Inv w) :
    Safe S K (fun _ w => Inv w) (c.handleEnvelope env message e) w := by
  refine Safe.andThen ((base _ (.dedup _)).await stable hw) fun processed w hw => ?_
  cases processed with
  | true => exact hw
  | false => exact retryLoop_safe c env message e stable base process _ _ _ hw

end Consumer

end Fulfillment
