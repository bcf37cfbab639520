import Fulfillment.Contracts.Envelope

namespace Fulfillment

open Js

/-- What a dead letter carries: the raw text of a malformed message, or the
envelope of one whose retries ran out. -/
inductive DeadLetterContent
  | malformed (rawMessage : String)
  | exhausted (originalEvent : EventEnvelope) (attempts : Nat)
  deriving DecidableEq, Repr

structure DlqPayload where
  dlqId : String
  originalTopic : String
  originalPartition : Int
  originalOffset : String
  consumerName : String
  errorMessage : String
  stackTrace : Option String
  failedAt : String
  content : DeadLetterContent
  deriving DecidableEq, Repr

/-- What the text of a dead letter keeps of it. -/
def DlqPayload.written (p : DlqPayload) : DlqPayload :=
  { p with
    content := match p.content with
      | .malformed raw => .malformed raw
      | .exhausted e attempts => .exhausted e.written attempts }

def DlqPayload.toJson (p : DlqPayload) : Json :=
  .obj (record (
    [ ("dlq_id", some (.str p.dlqId)),
      ("original_topic", some (.str p.originalTopic)),
      ("original_partition", some (.num p.originalPartition)),
      ("original_offset", some (.str p.originalOffset)),
      ("consumer_name", some (.str p.consumerName)),
      ("error_message", some (.str p.errorMessage)),
      ("stack_trace", p.stackTrace.map .str),
      ("failed_at", some (.str p.failedAt)) ] ++
    match p.content with
    | .malformed raw =>
      [ ("raw_message", some (.str (String.ofList (raw.toList.map textChar)))),
        ("reason", some (.str "MALFORMED_OR_NON_RETRYABLE")) ]
    | .exhausted e attempts =>
      [ ("original_event", some e.toJson),
        ("attempts", some (.num attempts)),
        ("correlation_id", some (.str e.correlationId)) ]))

end Fulfillment
