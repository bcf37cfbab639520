import Fulfillment.Consumers.DeadLettering

/-!
# The outbox row of a dead letter

`markDLQOutboxPublished` marks a row that is PROCESSING, and nobody has claimed
the row that was just inserted. So it stays PENDING after the direct send.
-/

namespace Fulfillment

open Js Relational Effects

/-- The row is PUBLISHED and never claimed if the direct send succeeded, and is
PENDING and claimable if not. -/
structure OutboxReflects (sent : Prop) (id : String) (w : World) : Prop where
  published : sent → ∃ row, w.db.dlqOutbox.get? id = some row ∧ row.status = .published
  pending : ¬sent → ∃ row, w.db.dlqOutbox.get? id = some row ∧ row.status = .pending ∧ row.claimable w.clock = true
  unclaimed : sent → ∀ limit workerId seconds now locked,
    id ∉ (w.db.getPendingDLQOutboxEvents limit workerId seconds now locked).1.map Leased.id

variable {D : DomainWork} {f : Faults} {consumerName : String} {n : Nat} {env : Surroundings}
  {message : EachMessagePayload}

theorem persisted_outbox {w : World} {dlq : DlqMessage} (unused : w.db.dlqOutbox.get? (outboxId dlq) = none)
    (marksFailed : Bool) : (w.persistDeadLetter dlq marksFailed (outboxId dlq)).db.dlqOutbox.get? (outboxId dlq) =
      some (.fresh (outboxId dlq) ⟨dlq.id, Topics.dlq, dlq.payload.written⟩ w.clock) := by
  have inserted : (w.persistDeadLetter dlq marksFailed (outboxId dlq)).db.dlqOutbox =
      insertPending (outboxId dlq) ⟨dlq.id, Topics.dlq, dlq.payload.written⟩ w.clock w.db.dlqOutbox := by
    cases marksFailed <;> rfl
  rw [inserted, insertPending, Table.get?_insertOrIgnore, unused]
  exact if_pos rfl

/-- A mark changes nothing where the row is pending. -/
theorem markPublished_unclaimed {β : Type} {t : LeaseTable β} {id : String} {row : Leased β} (h : t.get? id = some row)
    (pending : row.status = .pending) (workerId : Option String) (now : Int) : (markPublished id workerId now t).2 = t := by
  have unheld : ∀ other ∈ t.rows, Leased.heldBy id workerId other = false := by
    intro other stored
    by_contra held
    simp only [Leased.heldBy, Bool.not_eq_false, decide_eq_true_eq] at held
    have same : t.get? id = some other := Table.get?_eq_some.mpr ⟨stored, held.1⟩
    cases h.symm.trans same
    rw [pending] at held
    cases held.2.1
  exact @Table.update_of_none _ _ _ t _ (Leased.publish now) (fun _ => rfl) unheld

/-- After the handler has returned the row is as it was inserted. -/
theorem outbox_after (leaves : D.Leaves fun w => (w.db.dlqOutbox, w.clock)) (healthy : f.Healthy) {w : World}
    (letters : DeadLetters (baseConsumer consumerName n) f env message w)
    (unused : w.db.dlqOutbox.get? (outboxId ((baseConsumer consumerName n).letter f env message)) = none) :
    let letter := (baseConsumer consumerName n).letter f env message
    let r := ((baseConsumer consumerName n).handleMessage env message).run (platform D) f.oracle [] w
    r.value = .ok () ∧ r.state.db.dlqOutbox.get? (outboxId letter) =
      some (.fresh (outboxId letter) ⟨letter.id, Topics.dlq, letter.payload.written⟩ w.clock) := by
  intro letter r
  obtain ⟨past, w', marksFailed, hrun, same, -⟩ := letters_run leaves healthy letters
  obtain ⟨outbox, clock⟩ := Prod.mk.injEq .. ▸ same
  obtain ⟨value, -, -, -, houtbox, -⟩ := @publishDeadLetter_healthy D f consumerName n healthy letter letters.fits
    marksFailed ((baseConsumer consumerName n).letterKey f env message) past w'
  have row := persisted_outbox (outbox ▸ unused : w'.db.dlqOutbox.get? (outboxId letter) = none) marksFailed
  rw [clock] at row houtbox
  rw [show r = _ from hrun]
  refine ⟨value, ?_⟩
  rcases houtbox with houtbox | houtbox
  · rw [houtbox, row]
  · rw [houtbox]
    rw [markPublished_unclaimed row rfl, row]

/-- The row of a dead letter says what became of the direct send exactly when it failed. -/
theorem dlq_outbox_reflects_send_iff (D : DomainWork) (leaves : D.Leaves fun w => (w.db.dlqOutbox, w.clock)) (f : Faults)
    (healthy : f.Healthy) (consumerName : String) (n : Nat) (env : Surroundings) (message : EachMessagePayload) (w : World)
    (letters : DeadLetters (baseConsumer consumerName n) f env message w)
    (unused : w.db.dlqOutbox.get? (outboxId ((baseConsumer consumerName n).letter f env message)) = none) :
    let r := ((baseConsumer consumerName n).handleMessage env message).run (platform D) f.oracle [] w
    r.value = .ok () ∧
    (OutboxReflects (f.send = .ok) (outboxId ((baseConsumer consumerName n).letter f env message)) r.state ↔
      f.send ≠ .ok) := by
  intro r
  obtain ⟨value, row⟩ := outbox_after leaves healthy letters unused
  refine ⟨value, ?_, ?_⟩
  · intro reflects sent
    obtain ⟨row', found, published⟩ := reflects.published sent
    rw [row] at found
    cases found
    cases published
  · intro failed
    exact ⟨fun sent => absurd sent failed, fun _ => ⟨_, row, rfl, rfl⟩, fun sent => absurd sent failed⟩

def malformedMessage : EachMessagePayload where
  topic := "payments.events"
  partition := 0
  offset := "7"
  value := some "payment"

def brokerDown : Faults := { Faults.none with send := .rejected { message := "broker unreachable" } }

theorem malformed_letters (f : Faults) : DeadLetters (baseConsumer "payment-service" 3) f sampleSurroundings
    malformedMessage .empty := by
  have malformed : parseEnvelope sampleSurroundings.uuid sampleSurroundings.now (malformedMessage.value.getD "") = none := by
    decide +kernel
  constructor
  · simp only [Consumer.letter, malformed]
    decide +kernel
  · intro e parsed
    rw [malformed] at parsed
    cases parsed

theorem dlq_outbox_reflects_failed_send :
    let r := ((baseConsumer "payment-service" 3).handleMessage sampleSurroundings malformedMessage).run
      (platform .none) brokerDown.oracle [] .empty
    OutboxReflects (brokerDown.send = .ok)
      (outboxId ((baseConsumer "payment-service" 3).letter brokerDown sampleSurroundings malformedMessage)) r.state :=
  (dlq_outbox_reflects_send_iff .none (fun _ _ _ => rfl) brokerDown ⟨rfl, fun _ => rfl, rfl, rfl⟩ _ _ _ _ _
    (malformed_letters _) rfl).2.mpr nofun

/-- The broker takes the letter and says so, and a relay claims it all the same. -/
theorem sent_letter_claimed :
    let r := ((baseConsumer "payment-service" 3).handleMessage sampleSurroundings malformedMessage).run
      (platform .none) Faults.none.oracle [] .empty
    Faults.none.send = .ok ∧ r.value = .ok () ∧
    (r.state.db.dlqOutbox.rows.map Leased.status = [.pending]) ∧
    (r.state.db.getPendingDLQOutboxEvents 50 "dlq-relay" 30 0 fun _ => false).1.map Leased.id =
      ["outbox_dlq_11111111"] := by
  decide +kernel

end Fulfillment
