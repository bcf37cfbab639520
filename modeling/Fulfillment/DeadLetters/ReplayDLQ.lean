import Fulfillment.Platform
import Fulfillment.Replay.EventReplayService

/-!
# `EventReplayService.replayDLQ`

The headers of the replayed message, the durations and the logging are left out.
-/

namespace Fulfillment

open Js Effects

inductive DlqCall
  | base (c : Call)
  | getDLQMessage (id : String)
  | setDLQStatus (id : String) (status : DlqStatus)
  | resetProcessedEventForReplay (eventId consumerName : String)
  deriving DecidableEq

abbrev DlqAnswer : DlqCall → Type
  | .base c => Answer c
  | .getDLQMessage _ => Option DlqMessageRow
  | .setDLQStatus _ _ | .resetProcessedEventForReplay _ _ => Unit

abbrev DlqProgram (α : Type) := Prog JsError DlqAnswer α

abbrev request (c : DlqCall) : DlqProgram (DlqAnswer c) := Prog.await c

namespace World

def setDLQStatus (id : String) (status : DlqStatus) (w : World) : World :=
  { w with db := w.db.setDLQStatus id status w.clock }

def resetProcessedEventForReplay (eventId consumerName : String) (w : World) : World :=
  { w with db := w.db.resetProcessedEventForReplay eventId consumerName }

end World

/-- The parameters of the updates were read from a row, so no column refuses them. -/
def dlqPlatform (D : DomainWork) : Semantics JsError World DlqAnswer where
  effect
    | .base c, acked, w => (platform D).effect c acked w
    | .getDLQMessage id, _, w => if fitsText id then .ok (w.db.getDLQMessage id, w) else .error columnError
    | .setDLQStatus id status, _, w => .ok ((), w.setDLQStatus id status)
    | .resetProcessedEventForReplay eventId consumerName, _, w =>
      .ok ((), w.resetProcessedEventForReplay eventId consumerName)

/-- `payload.original_event`; the letter of a malformed message has none. -/
def DlqPayload.originalEvent (p : DlqPayload) : Option EventEnvelope :=
  match p.content with
  | .malformed _ => none
  | .exhausted e _ => some e

/-- The message that is published again. -/
def DlqMessageRow.replayed (dlqMessage : DlqMessageRow) (originalEvent : EventEnvelope) : Message where
  topic := dlqMessage.topic
  key := orString originalEvent.aggregateId dlqMessage.eventId
  value := .event originalEvent

def undefinedError : JsError where
  message := "Cannot read properties of undefined (reading 'aggregate_id')"

def markDLQResolved (id : String) : DlqProgram Unit := request (.setDLQStatus id .replayed)

/-- The try block. -/
def tryReplayDLQ (dlqId : String) (dlqMessage : DlqMessageRow) : DlqProgram Unit := do
  request (.setDLQStatus dlqId .replaying)
  request (.resetProcessedEventForReplay dlqMessage.eventId dlqMessage.consumerName)
  match dlqMessage.payload.originalEvent with
  | none => .throw undefinedError
  | some originalEvent =>
    request (.base (.send (dlqMessage.replayed originalEvent))) >>= fun _ => markDLQResolved dlqId

def replayDLQ (dlqId : String) : DlqProgram ReplayResult := do
  match ← request (.getDLQMessage dlqId) with
  | none => .throw { message := "DLQ message " ++ dlqId ++ " not found" }
  | some dlqMessage =>
    if dlqMessage.status = .discarded then
      .throw { message := "Cannot replay discarded DLQ message " ++ dlqId }
    else
      (tryReplayDLQ dlqId dlqMessage).settle >>= fun
        | .ok () => .pure ⟨dlqMessage.topic, 1, .success, none, none⟩
        | .error error =>
          (request (.setDLQStatus dlqId .unresolved)).settle >>= fun _ =>
            .pure ⟨dlqMessage.topic, 0, .failed, none, some error.message⟩

end Fulfillment
