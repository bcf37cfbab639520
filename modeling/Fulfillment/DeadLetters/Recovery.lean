import Fulfillment.Consumers.DlqOutbox
import Fulfillment.Contracts.Texts
import Fulfillment.DeadLetters.FailedReplay

/-!
# Which dead letters can be replayed

The letter of an event is published again as it was consumed. The letter of a
malformed message holds no event, and its replay fails.
-/

namespace Fulfillment

open Js Relational Effects

/-- A consumer takes every text of the event for what the message was: the same
event, or the same malformed text. -/
def TreatedAlike (env : Surroundings) (message : EachMessagePayload) (e' : EventEnvelope) : Prop :=
  match parseEnvelope env.uuid env.now (message.value.getD "") with
  | some e => ReadsBack e' e
  | none => (∃ text, Json.parse text = some e'.written.toJson) ∧
      ∀ text, Json.parse text = some e'.written.toJson → text = message.value.getD ""

/-- Nothing failing, a replay of the letter succeeds and publishes the message again. -/
structure ReplayedAlike (D : DomainWork) (env : Surroundings) (message : EachMessagePayload) (dlqId : String) (w : World) :
    Prop where
  succeeds : ∃ result, ((replayDLQ dlqId).run (dlqPlatform D) ReplayFaults.none.oracle [] w).value = .ok result ∧
    result.status = .success
  published : ∃ key e', ((replayDLQ dlqId).run (dlqPlatform D) ReplayFaults.none.oracle [] w).state.journal =
    .sent ⟨message.topic, key, .event e'⟩ true :: w.journal ∧ TreatedAlike env message e'

/-- The message is an event without infinite numbers, or a letter that has its identifier
already holds the same event. -/
def Recoverable (c : Consumer) (f : Faults) (env : Surroundings) (message : EachMessagePayload) (w : World) : Prop :=
  ∃ e, parseEnvelope env.uuid env.now (message.value.getD "") = some e ∧
    (w.db.getDLQMessage (c.letter f env message).id = none → e.written = e) ∧
    ∀ old, w.db.getDLQMessage (c.letter f env message).id = some old →
      old.status ≠ .discarded ∧ old.topic = message.topic ∧ ∃ e', old.payload.originalEvent = some e' ∧ ReadsBack e' e

variable {D : DomainWork} {f : Faults} {consumerName : String} {n : Nat} {env : Surroundings}
  {message : EachMessagePayload} {dlqId : String} {w : World} {r : DlqMessageRow}

/-- A malformed text is not the only text of any event. -/
theorem not_treatedAlike_malformed (malformed : parseEnvelope env.uuid env.now (message.value.getD "") = none)
    (e' : EventEnvelope) : ¬TreatedAlike env message e' := by
  rw [TreatedAlike, malformed]
  rintro ⟨⟨text, parsed⟩, only⟩
  have blank := only _ (Json.parse_blank parsed)
  rw [← only text parsed] at blank
  have sizes := congrArg String.length blank
  rw [String.length_append] at sizes
  have one : " ".length = 1 := rfl
  omega

/-- The letter of a message that was dead-lettered, in a row of its own or under an old one. -/
theorem letter_after (healthy : f.Healthy) (letters : DeadLetters (baseConsumer consumerName n) f env message w) :
    let letter := (baseConsumer consumerName n).letter f env message
    let after := (((baseConsumer consumerName n).handleMessage env message).run (platform D) f.oracle [] w).state
    ∃ row, after.db.getDLQMessage letter.id = some row ∧
      match w.db.getDLQMessage letter.id with
      | none => row.status = .unresolved ∧ row.topic = letter.topic ∧ row.payload = letter.payload.written
      | some old => row.status = old.status ∧ row.topic = old.topic ∧ row.payload = old.payload := by
  intro letter after
  have leaves : D.Leaves fun w => w.db.dlqMessages := fun e attempt w => D.keeps_dlqMessages e attempt w.db
  obtain ⟨past, w', marksFailed, hrun, same, -⟩ := letters_run leaves healthy letters
  obtain ⟨-, published, -⟩ := @publishDeadLetter_healthy D f consumerName n healthy letter letters.fits
    marksFailed ((baseConsumer consumerName n).letterKey f env message) past w'
  have recorded : after.db.dlqMessages = (w'.db.recordDLQMessage letter w'.clock).dlqMessages := by
    rw [show after = _ from congrArg Ran.state hrun, published]
    cases marksFailed <;> rfl
  have row := w'.db.dlqMessages.get?_upsert_self (letter.row w'.clock) (fun old => { old with
        attempts := old.attempts + 1
        errorMessage := letter.errorMessage
        failedAt := w'.clock }) fun _ => rfl
  refine ⟨_, (congrArg (Table.get? · letter.id) recorded).trans row, ?_⟩
  rw [show w.db.getDLQMessage letter.id = w'.db.dlqMessages.get? letter.id from by rw [same]; rfl]
  change match w'.db.dlqMessages.get? (letter.row w'.clock).key with | none => _ | some old => _
  cases w'.db.dlqMessages.get? (letter.row w'.clock).key with
  | none => exact ⟨rfl, rfl, rfl⟩
  | some old => exact ⟨rfl, rfl, rfl⟩

theorem replayDLQ_discarded {oracle : List DlqCall → DlqCall → Outcome JsError}
    (found : w.db.getDLQMessage dlqId = some r) (discarded : r.status = .discarded) :
    ∃ error, ((replayDLQ dlqId).run (dlqPlatform D) oracle [] w).value = .error error := by
  rw [replayDLQ, run_bind, request, run_await]
  rcases exec_cases (dlqPlatform D) (.getDLQMessage dlqId) (oracle [] (.getDLQMessage dlqId)) w with
    ⟨error, refused⟩ | ⟨answer, w', -, answered, exec⟩ | ⟨error, answer, w', -, -, exec⟩
  · rw [refused]
    exact ⟨error, rfl⟩
  · have read : answer = some r := by
      simp only [dlqPlatform] at answered
      split at answered
      · cases answered
        exact found
      · cases answered
    rw [exec, read]
    simp only [Ran.andThen, if_pos discarded]
    exact ⟨_, rfl⟩
  · rw [exec]
    exact ⟨error, rfl⟩

/-- What a replay does of which nothing fails. -/
theorem replayedAlike_iff (found : w.db.getDLQMessage dlqId = some r) (fits : fitsText dlqId = true) :
    ReplayedAlike D env message dlqId w ↔
      r.status ≠ .discarded ∧ r.topic = message.topic ∧
      ∃ e', r.payload.originalEvent = some e' ∧ TreatedAlike env message e' := by
  by_cases kept : r.status = .discarded
  · obtain ⟨error, thrown⟩ := @replayDLQ_discarded D dlqId w r ReplayFaults.none.oracle found kept
    constructor
    · intro replayed
      obtain ⟨result, returned, -⟩ := replayed.succeeds
      rw [thrown] at returned
      cases returned
    · intro fine
      exact absurd kept fine.1
  have ends := replayDLQ_found (D := D) (f := ReplayFaults.none) found fits kept
  cases original : r.payload.originalEvent with
  | none =>
    obtain ⟨failed, -⟩ := @tryReplayDLQ_unsent D ReplayFaults.none dlqId w r
      [.getDLQMessage dlqId] (.inr (.inr (.inl original)))
    constructor
    · intro replayed
      obtain ⟨result, returned, success⟩ := replayed.succeeds
      rcases ends with ⟨succeeded, -⟩ | ⟨-, ⟨error, value⟩, -⟩
      · exact absurd (failed.symm.trans succeeded) (by decide)
      · rw [value] at returned
        cases returned
        cases success
    · rintro ⟨-, -, e', held, -⟩
      cases held
  | some e' =>
    obtain ⟨succeeds, journal, -⟩ := @tryReplayDLQ_sent D ReplayFaults.none dlqId w r
      [.getDLQMessage dlqId] _ rfl rfl original rfl
    rcases ends with ⟨-, value, state⟩ | ⟨failed, -⟩
    · rw [← state] at journal
      constructor
      · intro replayed
        obtain ⟨key, e'', sent, alike⟩ := replayed.published
        have same := (List.cons.inj (journal.symm.trans sent)).1
        simp only [DlqMessageRow.replayed, Entry.sent.injEq, Message.mk.injEq, MessageValue.event.injEq] at same
        obtain ⟨⟨topic, -, rfl⟩, -⟩ := same
        exact ⟨kept, topic, e', rfl, alike⟩
      · rintro ⟨-, topic, e'', held, alike⟩
        cases held
        exact ⟨⟨_, value, rfl⟩, _, e', by rw [journal, ← topic]; rfl, alike⟩
    · exact absurd (failed.symm.trans (succeeds.mpr ⟨rfl, rfl⟩)) (by decide)

/-- The text of an event that was read is read as that event just if it has no infinite number. -/
theorem readsBack_written_iff {uuid now raw : String} {e : EventEnvelope} (parsed : parseEnvelope uuid now raw = some e) :
    ReadsBack e.written e ↔ e.written = e := by
  have again : e.written.written = e.written := by
    rw [EventEnvelope.written, EventEnvelope.written, writtenFields_written]
  obtain ⟨valid, writable⟩ := parseEnvelope_writable parsed
  constructor
  · intro reads
    have text : Json.parse e.toJson.stringify = some e.written.toJson := by
      rw [Json.parse_stringify writable, e.toJson_written]
    have read := readsBack_of_valid valid e.toJson.stringify "" "" text
    rw [reads e.toJson.stringify "" "" (by rw [again]; exact text)] at read
    exact (Option.some.inj read).symm
  · intro finite
    have reads := readsBack_of_valid valid
    rwa [finite] at reads ⊢

/-- A dead letter can be replayed exactly when its message is an event that its text can hold. -/
theorem dead_letter_replays_iff (D : DomainWork) (f : Faults) (healthy : f.Healthy) (consumerName : String) (n : Nat)
    (env : Surroundings) (message : EachMessagePayload) (w : World)
    (letters : DeadLetters (baseConsumer consumerName n) f env message w) :
    ReplayedAlike D env message ((baseConsumer consumerName n).letter f env message).id
      (((baseConsumer consumerName n).handleMessage env message).run (platform D) f.oracle [] w).state ↔
    Recoverable (baseConsumer consumerName n) f env message w := by
  obtain ⟨row, found, old⟩ := letter_after (D := D) healthy letters
  have fits := (DlqMessage.texts_fit letters.fits).1
  rw [replayedAlike_iff found fits]
  cases parsed : parseEnvelope env.uuid env.now (message.value.getD "") with
  | none =>
    constructor
    · rintro ⟨-, -, e', -, alike⟩
      exact absurd alike (not_treatedAlike_malformed parsed e')
    · rintro ⟨e, event, -⟩
      rw [parsed] at event
      cases event
  | some e =>
    simp only [TreatedAlike, parsed, Recoverable, Option.some.injEq, exists_eq_left']
    cases present : w.db.getDLQMessage ((baseConsumer consumerName n).letter f env message).id with
    | none =>
      rw [present] at old
      obtain ⟨status, topic, payload⟩ := old
      have held : row.payload.originalEvent = some e.written := by
        rw [payload, Consumer.letter, parsed]
        rfl
      have origin : row.topic = message.topic := by
        rw [topic, Consumer.letter, parsed]
        rfl
      have kept : row.status ≠ .discarded := by
        rw [status]
        simp
      simp only [held, origin, kept, Option.some.injEq, exists_eq_left', ne_eq, not_false_eq_true, true_and,
        readsBack_written_iff parsed, reduceCtorEq, false_implies, implies_true, and_true, true_implies]
    | some old' =>
      rw [present] at old
      obtain ⟨status, topic, payload⟩ := old
      simp only [Option.some.injEq, forall_eq', status, topic, payload, reduceCtorEq, false_implies, true_and]

theorem request_letters : DeadLetters (baseConsumer "payment-service" 3) processFails sampleSurroundings requestMessage
    .empty := by
  constructor
  · rw [Consumer.letter, request_parsed]
    decide +kernel
  · intro e _
    exact ⟨rfl, fun _ _ _ h => by cases h⟩

theorem dead_letter_replays_request : ReplayedAlike .none sampleSurroundings requestMessage
    ((baseConsumer "payment-service" 3).letter processFails sampleSurroundings requestMessage).id letteredWorld := by
  rw [letteredWorld_eq]
  refine (dead_letter_replays_iff .none processFails ⟨rfl, fun _ => rfl, rfl, rfl⟩ _ _ _ _ .empty request_letters).mpr
    ⟨requestEvent, request_parsed, fun _ => rfl, ?_⟩
  intro old present
  cases (show (none : Option DlqMessageRow) = some old from present)

/-- The letter of a text that is no event. -/
theorem malformed_letter_fails :
    let w := (((baseConsumer "payment-service" 3).handleMessage sampleSurroundings malformedMessage).run (platform .none)
      Faults.none.oracle [] .empty).state
    (w.db.dlqMessages.rows.map fun r => r.id) = ["dlq_11111111"] ∧
    ((replayDLQ "dlq_11111111").run (dlqPlatform .none) ReplayFaults.none.oracle [] w).value =
      .ok ⟨"payments.events", 0, .failed, none, some "Cannot read properties of undefined (reading 'aggregate_id')"⟩ := by
  decide +kernel

end Fulfillment
