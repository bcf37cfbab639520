import Fulfillment.Consumers.DeadLettering
import Fulfillment.Effects.Pool

/-!
# How long a processed event stays PROCESSED

Deliveries to any consumers side by side. Only the transaction that persists a
dead letter writes another status, and it does so whatever the row says.
-/

namespace Fulfillment

open Js Relational Effects

structure Assignment where
  consumerName : String
  maxRetries : Nat
  env : Surroundings
  message : EachMessagePayload

abbrev Instances (ι : Type) := Pool JsError World Answer ι Assignment Unit

/-- A call that is no statement of the database. -/
def Call.mayFail : Call → Bool
  | .processEvent _ _ | .send _ => true
  | _ => false

/-- `processEvent` and the sends may fail, the database does not. -/
def HealthyEnd (c : Call) (o : Outcome JsError) : Prop := o = .ok ∨ c.mayFail = true

instance (c : Call) (o : Outcome JsError) : Decidable (HealthyEnd c o) := inferInstanceAs (Decidable (_ ∨ _))

/-- Not a letter that marks the event FAILED while it is PROCESSED. -/
def Sparing (eventId consumerName : String) (w : World) : Call → Prop
  | .persistDeadLetter dlq true _ =>
    dlq.eventId = eventId → dlq.consumerName = consumerName → w.db.isEventProcessed eventId consumerName = false
  | _ => True

/-- Deliveries start at any time and may stop anywhere; what else happens leaves the markers alone. -/
def instancesOf (D : DomainWork) (allowed : World → Call → Outcome JsError → Prop) (ι : Type) :
    Machine JsError World Answer ι Assignment Unit where
  semantics := platform D
  body _ job := (baseConsumer job.consumerName job.maxRetries).handleMessage job.env job.message
  init _ := True
  startable _ _ _ := True
  allowed _ _ c o w := allowed w c o
  environment w w' := w'.db.processedEvents = w.db.processedEvents
  leaves _ _ := True

/-- The deliveries on a healthy database in which the event's marker is spared. -/
def sparingDeliveries (D : DomainWork) (eventId consumerName : String) (ι : Type) :
    Machine JsError World Answer ι Assignment Unit :=
  instancesOf D (fun w c o => HealthyEnd c o ∧ Sparing eventId consumerName w c) ι

/-- The message is the event, for this consumer. -/
def Assignment.Concerns (job : Assignment) (eventId consumerName : String) : Prop :=
  job.consumerName = consumerName ∧
  ∃ e, parseEnvelope job.env.uuid job.env.now (job.message.value.getD "") = some e ∧ e.eventId = eventId

def Call.processes : Call → Bool
  | .processEvent _ _ => true
  | _ => false

/-- No call of `processEvent` has been made. -/
def Unprocessing (past : List (Σ c, Except JsError (Answer c))) : Prop := ∀ answered ∈ past, answered.1.processes = false

variable {D : DomainWork} {eventId consumerName : String} {ι : Type}

/-! ## One call -/

theorem carryOut_keeps_processed {w : World} (processed : w.db.isEventProcessed eventId consumerName = true) (c : Call)
    (spared : Sparing eventId consumerName w c) (acked : Bool) :
    (carryOut D c acked w).2.db.isEventProcessed eventId consumerName = true := by
  cases c with
  | markEventProcessed x name =>
    by_cases same : (eventId, consumerName) = (x, name)
    · cases same
      exact isEventProcessed_markEventProcessed ..
    · exact (isEventProcessed_mark_other w.db same ..).trans processed
  | persistDeadLetter dlq marksFailed outboxId =>
    cases marksFailed with
    | false => exact processed
    | true =>
      by_cases same : (eventId, consumerName) = (dlq.eventId, dlq.consumerName)
      · have unprocessed := spared (congrArg Prod.fst same).symm (congrArg Prod.snd same).symm
        rw [processed] at unprocessed
        cases unprocessed
      · exact (isEventProcessed_mark_other (w.db.recordDLQMessage dlq w.clock) same ..).trans processed
  | processEvent e attempt => exact (Db.isEventProcessed_congr (D.keeps_processedEvents e attempt w.db) ..).trans processed
  | compensationBarrier sagaParam completedAction correlationId =>
    simp only [carryOut]
    split <;> exact processed
  | _ => exact processed

theorem exec_keeps_processed {w : World} (processed : w.db.isEventProcessed eventId consumerName = true) (c : Call)
    (spared : Sparing eventId consumerName w c) (o : Outcome JsError) :
    ((platform D).exec c o w).2.db.isEventProcessed eventId consumerName = true := by
  rw [platform_exec_state]
  split
  · exact carryOut_keeps_processed processed c spared _
  · exact processed

/-! ## One execution -/

/-- A delivery of the event that started when it was PROCESSED: it has not processed it,
and has its duplicate check before it or nothing. -/
def Spared (w : Worker JsError Answer Assignment Unit) : Prop :=
  Unprocessing w.past ∧
  (w.rest = (baseConsumer w.job.consumerName w.job.maxRetries).handleMessage w.job.env w.job.message ∨ w.rest.Finished)

theorem spared_answered {s : World} (processed : s.db.isEventProcessed eventId consumerName = true)
    {w : Worker JsError Answer Assignment Unit} (spared : Spared w) (concerns : w.job.Concerns eventId consumerName) {c : Call}
    {k : Except JsError (Answer c) → Program Unit} (next : w.rest = .call c k) (o : Outcome JsError) :
    Spared (w.answered c k ((platform D).exec c o s).1) := by
  obtain ⟨name, e, parsed, id⟩ := concerns
  -- nothing but the duplicate check can come next, and it finds the marker
  have first : w.rest = .call (.isEventProcessed e.eventId w.job.consumerName) fun r => Prog.ofExcept r >>= fun
      | true => pure ()
      | false => (baseConsumer w.job.consumerName w.job.maxRetries).retryLoop w.job.env w.job.message e
          w.job.maxRetries 0 none := by
    rcases spared.2 with unstarted | finished
    · rw [unstarted, Consumer.handleMessage_of_parsed parsed, Consumer.handleEnvelope]
      change Prog.call _ _ = _
      congr 1
      funext r
      rcases r with err | _ | _ <;> rfl
    · rw [next] at finished
      cases finished
  rw [first] at next
  cases next
  constructor
  · intro answered mem
    rcases List.mem_cons.mp mem with rfl | earlier
    · rfl
    · exact spared.1 answered earlier
  · right
    have value := platform_exec_value D (.isEventProcessed e.eventId w.job.consumerName) o s
    have marked : s.db.isEventProcessed e.eventId w.job.consumerName = true := by rw [id, name, processed]
    simp only [carryOut, marked] at value
    cases hv : ((platform D).exec (.isEventProcessed e.eventId w.job.consumerName) o s).1 with
    | error err => trivial
    | ok found =>
      cases found with
      | true => trivial
      | false =>
        rw [hv] at value
        cases o with
        | ok =>
          simp only at value
          split at value <;> cases value
        | _ => cases value

variable [DecidableEq ι]

/-- Once an event is PROCESSED for a consumer, it stays so, and no delivery that starts
later processes it, as long as its marker is spared. -/
theorem processed_permanent (D : DomainWork) (eventId consumerName : String) (ι : Type) [DecidableEq ι] (p q : Instances ι)
    (run : Relation.ReflTransGen (PoolStep (sparingDeliveries D eventId consumerName ι)) p q)
    (processed : p.shared.db.isEventProcessed eventId consumerName = true) :
    q.shared.db.isEventProcessed eventId consumerName = true ∧
    ∀ i, p.workers i = none → ∀ w, q.workers i = some w → w.job.Concerns eventId consumerName → Unprocessing w.past := by
  suffices q.shared.db.isEventProcessed eventId consumerName = true ∧
      ∀ i, p.workers i = none → ∀ w, q.workers i = some w → w.job.Concerns eventId consumerName → Spared w from
    ⟨this.1, fun i free w busy concerns => (this.2 i free w busy concerns).1⟩
  induction run with
  | refl =>
    refine ⟨processed, fun i free w busy => ?_⟩
    rw [free] at busy
    cases busy
  | @tail q r _ step ih =>
    obtain ⟨marked, later⟩ := ih
    cases step with
    | start i job free startable =>
      refine ⟨marked, fun j idle w busy concerns => ?_⟩
      rcases update_eq_some busy with ⟨rfl, self⟩ | ⟨-, other⟩
      · cases self
        exact ⟨fun _ none => absurd none List.not_mem_nil, .inl rfl⟩
      · exact later j idle w other concerns
    | call i w c k o busy next allowed =>
      refine ⟨exec_keeps_processed marked c allowed.2 o, fun j idle v busy' concerns => ?_⟩
      rcases update_eq_some busy' with ⟨rfl, self⟩ | ⟨-, other⟩
      · cases self
        exact spared_answered marked (later j idle w busy concerns) concerns next o
      · exact later j idle v other concerns
    | leave i w busy leaves =>
      refine ⟨marked, fun j idle v busy' concerns => ?_⟩
      rcases update_eq_some busy' with ⟨-, none⟩ | ⟨-, other⟩
      · cases none
      · exact later j idle v other concerns
    | environment s moves =>
      exact ⟨(Db.isEventProcessed_congr moves ..).trans marked, later⟩

/-! ## Two executions of one request -/

def requestAssignment : Assignment := ⟨"payment-service", 3, sampleSurroundings, requestMessage⟩

def nobodyServing : Instances (Fin 3) := ⟨.empty, fun _ => none⟩

def healthyDeliveries : Machine JsError World Answer (Fin 3) Assignment Unit :=
  instancesOf .none (fun _ c o => HealthyEnd c o) (Fin 3)

theorem allLegal_of_healthy {p : Instances (Fin 3)} {moves : List (Move JsError (Fin 3) Assignment)}
    (h : healthyDeliveries.passes (fun _ c o _ => HealthyEnd c o) p moves = true) : healthyDeliveries.AllLegal p moves :=
  Machine.allLegal_of_passes (fun _ _ => trivial) (fun _ _ _ _ _ => of_decide_eq_true) (fun _ _ _ _ => trivial) h

/-- Both executions find the event unprocessed; then the second processes it. -/
def secondProcesses : List (Move JsError (Fin 3) Assignment) :=
  [.start 0 requestAssignment, .start 1 requestAssignment, .call 0 .ok, .call 1 .ok, .call 1 .ok, .call 1 .ok]

def onceProcessed : Instances (Fin 3) := healthyDeliveries.play nobodyServing secondProcesses

/-! ## A redelivery beside other executions -/

/-- Whether a call spares the marker. -/
def Call.spares (eventId consumerName : String) (w : World) : Call → Bool
  | .persistDeadLetter dlq true _ =>
    dlq.eventId != eventId || dlq.consumerName != consumerName || !w.db.isEventProcessed eventId consumerName
  | _ => true

theorem sparing_of_spares {w : World} {c : Call} (h : c.spares eventId consumerName w = true) :
    Sparing eventId consumerName w c := by
  cases c with
  | persistDeadLetter dlq marksFailed outboxId =>
    cases marksFailed with
    | false => trivial
    | true =>
      intro sameId sameName
      simpa [Call.spares, sameId, sameName] using h
  | _ => trivial

def sparingRequest : Machine JsError World Answer (Fin 3) Assignment Unit :=
  sparingDeliveries .none "evt_1" "payment-service" (Fin 3)

/-- Another consumer of the same message, with a single attempt. -/
def auditAssignment : Assignment := ⟨"audit-service", 1, sampleSurroundings, requestMessage⟩

/-- The request is delivered once more. Meanwhile the first execution processes it
at its second attempt, and the other consumer exhausts its attempt and marks it
FAILED for itself. -/
def deliveredAgain : List (Move JsError (Fin 3) Assignment) :=
  [.leave 1, .start 1 auditAssignment, .start 2 requestAssignment, .call 1 .ok,
   .call 0 (.rejected { message := "gateway timeout" }), .call 1 (.rejected { message := "audit log full" }),
   .call 2 .ok, .call 1 .ok, .call 0 .ok, .call 0 .ok]

theorem processed_permanent_sample :
    let q := sparingRequest.play onceProcessed deliveredAgain
    (q.workers 0).any (fun w => w.past.any fun answered => answered.1.processes) = true ∧
    q.shared.db.processedEvents.get? ("evt_1", "audit-service") ≠ none ∧ (q.workers 2).any (fun w => w.past ≠ []) = true ∧
    q.shared.db.isEventProcessed "evt_1" "payment-service" = true ∧
    ∀ i, onceProcessed.workers i = none → ∀ w, q.workers i = some w → w.job.Concerns "evt_1" "payment-service" →
      Unprocessing w.past := by
  intro q
  have passes : sparingRequest.passes (fun _ c o w => HealthyEnd c o && c.spares "evt_1" "payment-service" w) onceProcessed
      deliveredAgain = true := by
    decide +kernel
  have legal : sparingRequest.AllLegal onceProcessed deliveredAgain := by
    refine Machine.allLegal_of_passes (fun _ _ => trivial) ?_ (fun _ _ _ _ => trivial) passes
    intro i w c o s checked
    rw [Bool.and_eq_true, decide_eq_true_eq] at checked
    exact ⟨checked.1, sparing_of_spares checked.2⟩
  refine ⟨by decide +kernel, by decide +kernel, by decide +kernel, ?_⟩
  exact processed_permanent .none "evt_1" "payment-service" (Fin 3) onceProcessed q (Machine.steps_play legal)
    (by decide +kernel)

/-! ## An execution that exhausts its retries -/

/-- The first exhausts its retries, and the message is delivered once more. -/
def firstExhausts : List (Move JsError (Fin 3) Assignment) :=
  [.call 0 (.rejected { message := "gateway timeout" }), .call 0 (.rejected { message := "gateway timeout" }),
   .call 0 (.rejected { message := "gateway timeout" }), .call 0 .ok, .start 2 requestAssignment, .call 2 .ok, .call 2 .ok]

theorem onceProcessed_reachable : Reachable healthyDeliveries.system onceProcessed :=
  Machine.reachable_play (.start ⟨trivial, fun _ => rfl⟩) (allLegal_of_healthy (by decide +kernel))

def repeats (w : Worker JsError Answer Assignment Unit) : Bool :=
  w.job.consumerName = "payment-service" ∧
  (parseEnvelope w.job.env.uuid w.job.env.now (w.job.message.value.getD "")).any (fun e => e.eventId = "evt_1") ∧
  w.past.any fun answered => answered.1.processes

theorem repeats_iff {w : Worker JsError Answer Assignment Unit} (h : repeats w = true) :
    w.job.Concerns "evt_1" "payment-service" ∧ ¬Unprocessing w.past := by
  obtain ⟨name, event, processes⟩ := of_decide_eq_true h
  obtain ⟨e, parsed, id⟩ := (Option.any_eq_true _ _).mp event
  obtain ⟨answered, mem, processed⟩ := List.any_eq_true.mp processes
  refine ⟨⟨name, e, parsed, of_decide_eq_true id⟩, fun untouched => ?_⟩
  rw [untouched answered mem] at processed
  cases processed

def onceDowngraded : Instances (Fin 3) := healthyDeliveries.play onceProcessed firstExhausts

theorem firstExhausts_downgrades :
    onceProcessed.shared.db.isEventProcessed "evt_1" "payment-service" = true ∧
    onceDowngraded.shared.db.isEventProcessed "evt_1" "payment-service" = false := by
  decide +kernel

theorem firstExhausts_repeats : (onceProcessed.workers 2).isNone = true ∧ (onceDowngraded.workers 2).any repeats = true := by
  decide +kernel

/-- PROCESSED becomes FAILED, and a later delivery processes the event again. -/
theorem processed_downgraded : Reachable healthyDeliveries.system onceProcessed ∧
    ∃ q, Relation.ReflTransGen (PoolStep healthyDeliveries) onceProcessed q ∧
      onceProcessed.shared.db.isEventProcessed "evt_1" "payment-service" = true ∧
      q.shared.db.isEventProcessed "evt_1" "payment-service" = false ∧
      onceProcessed.workers 2 = none ∧
      ∃ w, q.workers 2 = some w ∧ w.job.Concerns "evt_1" "payment-service" ∧ ¬Unprocessing w.past := by
  have legal : healthyDeliveries.AllLegal onceProcessed firstExhausts := allLegal_of_healthy (by decide +kernel)
  obtain ⟨free, repeated⟩ := firstExhausts_repeats
  obtain ⟨w, busy, again⟩ := (Option.any_eq_true _ _).mp repeated
  exact ⟨onceProcessed_reachable, onceDowngraded, Machine.steps_play legal, firstExhausts_downgrades.1,
    firstExhausts_downgrades.2, Option.isNone_iff_eq_none.mp free, w, busy, repeats_iff again⟩

end Fulfillment
