import Fulfillment.Consumers.BaseConsumer

/-!
# What becomes of a consumed message

* `handleMessage_keeps_iff`: after a normal return of `handleMessage` the
  message is recorded or in a dead letter, exactly under `Unharmed`;
* `handleMessage_loses`: the errors that the dead-letter handlers swallow do
  lose messages.
-/

namespace Fulfillment

open Js Relational Effects

/-- How the calls of one `handleMessage` end, site by site; attempts count from 1. -/
structure Faults where
  dedup : Outcome JsError
  process : Nat → Outcome JsError
  mark : Nat → Outcome JsError
  persist : Outcome JsError
  send : Outcome JsError
  published : Outcome JsError

def Faults.oracle (f : Faults) (past : List Call) : Call → Outcome JsError
  | .isEventProcessed _ _ => f.dedup
  | .processEvent _ attempt => f.process attempt
  | .markEventProcessed _ _ =>
    match past with
    | .processEvent _ attempt :: _ => f.mark attempt
    | _ => .ok
  | .persistDeadLetter _ _ _ => f.persist
  | .send _ => f.send
  | .markDLQOutboxPublished _ _ => f.published
  | _ => .ok

/-- A consumer of which only the base class is modelled. -/
def baseConsumer (consumerName : String) (maxRetries : Nat) : Consumer where
  consumerName := consumerName
  maxRetries := maxRetries
  processEvent attempt _ e := await (.processEvent e attempt)

/-- The content of a dead letter that holds the message, malformed or not; of an event it
holds what `JSON` does. -/
def HoldsMessage (env : Surroundings) (message : EachMessagePayload) (content : DeadLetterContent) : Prop :=
  match parseEnvelope env.uuid env.now (message.value.getD ""), content with
  | none, .malformed raw => raw = message.value.getD ""
  | some e, .exhausted e' _ => e' = e.written
  | _, _ => False

def Lettered (env : Surroundings) (message : EachMessagePayload) (db : Db) : Prop :=
  ∃ r ∈ db.dlqMessages.rows, HoldsMessage env message r.payload.content

/-- The columns hold the key of a processed event as it is, with no blanks cut off. -/
def KeyHeld (consumerName : String) (e : EventEnvelope) : Prop :=
  e.eventId.length ≤ 100 ∧ consumerName.length ≤ 100

/-- The event is registered PROCESSED under its own key. -/
def Registered (consumerName : String) (e : EventEnvelope) (db : Db) : Prop :=
  KeyHeld consumerName e ∧ db.isEventProcessed e.eventId consumerName = true

/-- The message is not lost: its event is recorded PROCESSED for the consumer,
or a dead letter holds it. -/
def Kept (consumerName : String) (env : Surroundings) (message : EachMessagePayload) (db : Db) : Prop :=
  (∃ e, parseEnvelope env.uuid env.now (message.value.getD "") = some e ∧ Registered consumerName e db) ∨
  Lettered env message db

/-- The columns take the key of a processed event. -/
def KeyFits (consumerName : String) (e : EventEnvelope) : Prop :=
  fitsVarchar 100 e.eventId = true ∧ fitsVarchar 100 consumerName = true

/-- Attempt `i` ends normally. -/
def Faults.Succeeds (f : Faults) (consumerName : String) (e : EventEnvelope) (i : Nat) : Prop :=
  f.process i = .ok ∧ f.mark i = .ok ∧ KeyFits consumerName e

/-- Attempt `i` records the event, whether or not the consumer learns of it. -/
def Faults.Marks (f : Faults) (consumerName : String) (e : EventEnvelope) (i : Nat) : Prop :=
  f.process i = .ok ∧ (f.mark i).acted = true ∧ KeyFits consumerName e

/-- The duplicate check gets its answer. -/
def Faults.Checks (f : Faults) (consumerName : String) (e : EventEnvelope) : Prop :=
  f.dedup = .ok ∧ fitsText e.eventId = true ∧ fitsText consumerName = true

/-- The error of a failed attempt. -/
def Faults.attemptError (f : Faults) (i : Nat) : JsError :=
  match f.process i, f.mark i with
  | .rejected err, _ | .unacked err, _ => err
  | .ok, .rejected err | .ok, .unacked err => err
  | .ok, .ok => columnError

def Faults.lastError (f : Faults) (n : Nat) : JsError :=
  if n = 0 then { message := "Unknown processing error" } else f.attemptError n

/-- The transaction that persists a dead letter commits. -/
def Faults.Persists (f : Faults) (dlq : DlqMessage) : Prop :=
  f.persist.acted = true ∧ dlq.fits ("outbox_" ++ dlq.id) = true

/-- No dead letter has the identifier drawn for this one. -/
def FreshLetter (dlq : DlqMessage) (w : World) : Prop := w.db.dlqMessages.get? dlq.id = none

/-- The letter a consumer writes for a message that is no event. -/
def Consumer.malformedLetter (c : Consumer) (env : Surroundings) (message : EachMessagePayload) : DlqMessage :=
  c.deadLetter env message "malformed_event" env.parseError none (.malformed (message.value.getD ""))

def Consumer.exhaustedLetter (c : Consumer) (f : Faults) (env : Surroundings)
    (message : EachMessagePayload) (e : EventEnvelope) : DlqMessage :=
  c.deadLetter env message e.eventId (f.lastError c.maxRetries) (some e.correlationId)
    (.exhausted e c.maxRetries)

/-- When a message survives its handling: a letter holds it already, or its
malformed text is persisted under a new identifier, or, for an event, the
duplicate check fails (and Kafka redelivers), or the columns hold its key and it
is recorded, by an earlier handling, by an attempt that succeeds, or by one
whose mark went unacknowledged if no letter replaces it; or all attempts fail
and the letter is persisted under a new identifier. -/
def Unharmed (c : Consumer) (f : Faults) (env : Surroundings) (message : EachMessagePayload)
    (w : World) : Prop :=
  Lettered env message w.db ∨
  match parseEnvelope env.uuid env.now (message.value.getD "") with
  | none => f.Persists (c.malformedLetter env message) ∧ FreshLetter (c.malformedLetter env message) w
  | some e =>
    ¬f.Checks c.consumerName e ∨
    (KeyHeld c.consumerName e ∧
      (w.db.isEventProcessed e.eventId c.consumerName = true ∨
        (∃ i, 1 ≤ i ∧ i ≤ c.maxRetries ∧ f.Succeeds c.consumerName e i) ∨
        (¬f.Persists (c.exhaustedLetter f env message e) ∧
          ∃ i, 1 ≤ i ∧ i ≤ c.maxRetries ∧ f.Marks c.consumerName e i))) ∨
    (w.db.isEventProcessed e.eventId c.consumerName = false ∧
      (¬∃ i, 1 ≤ i ∧ i ≤ c.maxRetries ∧ f.Succeeds c.consumerName e i) ∧
      f.Persists (c.exhaustedLetter f env message e) ∧ FreshLetter (c.exhaustedLetter f env message e) w)

section run

variable {D : DomainWork} {f : Faults} {consumerName : String} {n : Nat} {env : Surroundings}
  {message : EachMessagePayload} {e : EventEnvelope}

/-- One attempt: it writes no letter, records the event exactly if `Marks`, and
returns exactly if `Succeeds`. -/
theorem tryProcess_run (D : DomainWork) (f : Faults) (consumerName : String) (n : Nat)
    (env : Surroundings) (e : EventEnvelope) (past : List Call) (w : World) (i : Nat) :
    let r := ((baseConsumer consumerName n).tryProcess env i e).run (platform D) f.oracle past w
    r.state.db.dlqMessages = w.db.dlqMessages ∧
    (r.state.db.isEventProcessed e.eventId consumerName = true ↔
      w.db.isEventProcessed e.eventId consumerName = true ∨ f.Marks consumerName e i) ∧
    (f.Succeeds consumerName e i → r.value = .ok ()) ∧
    (¬f.Succeeds consumerName e i → r.value = .error (f.attemptError i)) := by
  have fits : ∀ v, columnsFit (.markEventProcessed e.eventId consumerName) v = true ↔
      KeyFits consumerName e := fun v => by simp [columnsFit, KeyFits]
  have works : columnsFit (.processEvent e i) w = true := rfl
  have keeps := D.keeps_processedEvents e i w.db
  have keepsLetters := D.keeps_dlqMessages e i w.db
  have same := Db.isEventProcessed_congr keeps e.eventId consumerName
  simp only [Consumer.tryProcess, baseConsumer, run_bind, run_await, Faults.oracle, Ran.andThen,
    platform_exec_value, platform_exec_state, Faults.Marks, Faults.Succeeds, Faults.attemptError]
  cases hp : f.process i with
  | rejected err => simp [Outcome.acted]
  | unacked err => simp [Outcome.acted, columnsFit, carryOut, keepsLetters, same]
  | ok =>
    have recorded := isEventProcessed_markEventProcessed (D.effect e i w.db) e.eventId consumerName
      .processed none w.clock
    by_cases hk : KeyFits consumerName e
    · have hfit := (fits { w with db := D.effect e i w.db }).mpr hk
      cases hm : f.mark i <;>
        simp_all [Outcome.acted, carryOut, Db.markEventProcessed]
    · have hfit : columnsFit (.markEventProcessed e.eventId consumerName)
          { w with db := D.effect e i w.db } = false := Bool.eq_false_iff.mpr ((fits _).not.mpr hk)
      cases hm : f.mark i <;>
        simp_all [Outcome.acted, carryOut]

/-- The two tables that decide what became of a message. -/
def SameTables (w w' : World) : Prop :=
  w'.db.processedEvents = w.db.processedEvents ∧ w'.db.dlqMessages = w.db.dlqMessages

theorem exec_sameTables (o : Outcome JsError) (w : World) (c : Call)
    (h : ∀ acked v, SameTables v (carryOut D c acked v).2) :
    SameTables w ((platform D).exec c o w).2 := by
  rw [platform_exec_state]
  split
  · exact h _ _
  · exact ⟨rfl, rfl⟩

/-- What follows the transaction touches neither table. -/
theorem announce_run (past : List Call) (w : World) (m : Message) (outboxId : String) :
    SameTables w ((do
      await (.send m)
      await (.markDLQOutboxPublished outboxId consumerName) : Program Unit).run
        (platform D) f.oracle past w).state := by
  have sent : SameTables w ((platform D).exec (.send m) f.send w).2 :=
    exec_sameTables f.send w (.send m) fun _ _ => ⟨rfl, rfl⟩
  simp only [run_bind, run_await, Faults.oracle, Ran.andThen]
  split
  · obtain ⟨h₁, h₂⟩ := exec_sameTables f.published ((platform D).exec (.send m) f.send w).2
      (.markDLQOutboxPublished outboxId consumerName) fun _ _ => ⟨rfl, rfl⟩
    exact ⟨h₁.trans sent.1, h₂.trans sent.2⟩
  · exact sent

theorem logged_run (D : DomainWork) (p : Program Unit) (oracle : List Call → Call → Outcome JsError)
    (past : List Call) (w : World) :
    ((logged p).run (platform D) oracle past w).value = .ok () ∧
    ((logged p).run (platform D) oracle past w).state = (p.run (platform D) oracle past w).state := by
  rw [logged, run_bind, run_settle]
  exact ⟨rfl, rfl⟩

variable (D f consumerName n env message e)

theorem publishDeadLetter_run (past : List Call) (w : World) (dlq : DlqMessage) (marksFailed : Bool)
    (key : String) :
    let r := ((baseConsumer consumerName n).publishDeadLetter dlq marksFailed key).run
      (platform D) f.oracle past w
    r.value = .ok () ∧
    (f.Persists dlq → SameTables (w.persistDeadLetter dlq marksFailed ("outbox_" ++ dlq.id)) r.state) ∧
    (¬f.Persists dlq → SameTables w r.state) := by
  intro r
  obtain ⟨hvalue, hstate⟩ := logged_run D (do
    await (.persistDeadLetter dlq marksFailed ("outbox_" ++ dlq.id))
    await (.send ⟨Topics.dlq, key, .deadLetter dlq.payload⟩)
    await (.markDLQOutboxPublished ("outbox_" ++ dlq.id) consumerName)) f.oracle past w
  have state : ((platform D).exec (.persistDeadLetter dlq marksFailed ("outbox_" ++ dlq.id)) f.persist w).2 =
      if f.persist.acted && dlq.fits ("outbox_" ++ dlq.id) then
        w.persistDeadLetter dlq marksFailed ("outbox_" ++ dlq.id) else w := platform_exec_state ..
  have rest : SameTables
      ((platform D).exec (.persistDeadLetter dlq marksFailed ("outbox_" ++ dlq.id)) f.persist w).2 r.state := by
    refine hstate ▸ ?_
    rw [run_bind, run_await]
    simp only [Ran.andThen, Faults.oracle]
    split
    · exact announce_run ..
    · exact ⟨rfl, rfl⟩
  refine ⟨hvalue, fun h => ?_, fun h => ?_⟩
  · rwa [state, if_pos (by simpa [Faults.Persists] using h)] at rest
  · rwa [state, if_neg (by simpa [Faults.Persists] using h)] at rest

/-- The retry loop with `left` attempts to go. -/
theorem retryLoop_run (left : Nat) : ∀ (attempt : Nat) (lastError : Option JsError) (past : List Call) (w : World),
    let r := ((baseConsumer consumerName n).retryLoop env message e left attempt lastError).run
      (platform D) f.oracle past w
    let Marked := ∃ i, attempt < i ∧ i ≤ attempt + left ∧ f.Marks consumerName e i
    ((∃ i, attempt < i ∧ i ≤ attempt + left ∧ f.Succeeds consumerName e i) →
      r.value = .ok () ∧ r.state.db.dlqMessages = w.db.dlqMessages ∧
        r.state.db.isEventProcessed e.eventId consumerName = true) ∧
    ((∀ i, attempt < i → i ≤ attempt + left → ¬f.Succeeds consumerName e i) →
      ∃ past' w', r = ((baseConsumer consumerName n).handleExhaustedRetriesDLQ env message e
          (if left = 0 then lastError.getD { message := "Unknown processing error" }
            else f.attemptError (attempt + left)) (attempt + left)).run (platform D) f.oracle past' w' ∧
        w'.db.dlqMessages = w.db.dlqMessages ∧
        (w'.db.isEventProcessed e.eventId consumerName = true ↔
          w.db.isEventProcessed e.eventId consumerName = true ∨ Marked)) := by
  induction left with
  | zero =>
    intro attempt lastError past w
    constructor
    · rintro ⟨i, h, h', -⟩
      omega
    · refine fun _ => ⟨past, w, rfl, rfl, .inl, ?_⟩
      rintro (h | ⟨i, h, h', -⟩)
      · exact h
      · omega
  | succ left ih =>
    intro attempt lastError past w
    obtain ⟨letters, records, returns, throws⟩ := tryProcess_run D f consumerName n env e past w (attempt + 1)
    intro r Marked
    by_cases hs : f.Succeeds consumerName e (attempt + 1)
    · have unfolded : r = ⟨.ok (),
          (((baseConsumer consumerName n).tryProcess env (attempt + 1) e).run (platform D) f.oracle past w).state,
          (((baseConsumer consumerName n).tryProcess env (attempt + 1) e).run (platform D) f.oracle past w).past⟩ := by
        simp only [r, Consumer.retryLoop, run_bind, run_settle, Ran.andThen, returns hs]
        rfl
      refine ⟨fun _ => ?_, fun h => absurd hs (h _ (by omega) (by omega))⟩
      rw [unfolded]
      exact ⟨rfl, letters, records.mpr (.inr ⟨hs.1, by rw [hs.2.1]; rfl, hs.2.2⟩)⟩
    · have unfolded : r = ((baseConsumer consumerName n).retryLoop env message e left (attempt + 1)
            (some (f.attemptError (attempt + 1)))).run (platform D) f.oracle
          (((baseConsumer consumerName n).tryProcess env (attempt + 1) e).run (platform D) f.oracle past w).past
          (((baseConsumer consumerName n).tryProcess env (attempt + 1) e).run (platform D) f.oracle past w).state := by
        simp only [r, Consumer.retryLoop, run_bind, run_settle, Ran.andThen, throws hs]
      obtain ⟨succeeds, exhausts⟩ := ih (attempt + 1) (some (f.attemptError (attempt + 1)))
        (((baseConsumer consumerName n).tryProcess env (attempt + 1) e).run (platform D) f.oracle past w).past
        (((baseConsumer consumerName n).tryProcess env (attempt + 1) e).run (platform D) f.oracle past w).state
      rw [unfolded]
      constructor
      · rintro ⟨i, hlt, hle, hi⟩
        have hne : i ≠ attempt + 1 := fun he => hs (he ▸ hi)
        obtain ⟨value, same, recorded⟩ := succeeds ⟨i, by omega, by omega, hi⟩
        exact ⟨value, same.trans letters, recorded⟩
      · intro h
        obtain ⟨past', w', hr, same, recorded⟩ := exhausts fun i hlt hle => h i (by omega) (by omega)
        refine ⟨past', w', ?_, same.trans letters, recorded.trans ?_⟩
        · have herr : (if left = 0 then (some (f.attemptError (attempt + 1))).getD
              { message := "Unknown processing error" } else f.attemptError (attempt + 1 + left)) =
              f.attemptError (attempt + (left + 1)) := by
            cases left <;> simp [Nat.add_comm, Nat.add_left_comm]
          rw [herr, show attempt + 1 + left = attempt + (left + 1) by omega] at hr
          simpa using hr
        · rw [records]
          constructor
          · rintro ((h | h) | ⟨i, hlt, hle, hi⟩)
            · exact .inl h
            · exact .inr ⟨attempt + 1, by omega, by omega, h⟩
            · exact .inr ⟨i, by omega, by omega, hi⟩
          · rintro (h | ⟨i, hlt, hle, hi⟩)
            · exact .inl (.inl h)
            · by_cases he : i = attempt + 1
              · exact .inl (.inr (he ▸ hi))
              · exact .inr ⟨i, by omega, by omega, hi⟩

variable {env message e}

theorem lettered_congr {w w' : World} (h : w'.db.dlqMessages = w.db.dlqMessages) :
    Lettered env message w'.db ↔ Lettered env message w.db := by
  simp only [Lettered, h]

theorem persistDeadLetter_dlqMessages (w : World) (dlq : DlqMessage) (marksFailed : Bool) (outboxId : String) :
    (w.persistDeadLetter dlq marksFailed outboxId).db.dlqMessages =
      (w.db.recordDLQMessage dlq w.clock).dlqMessages := by
  cases marksFailed <;> rfl

/-- A letter under a new identifier is added; under a known one the old payload stays. -/
theorem lettered_persistDeadLetter (w : World) (dlq : DlqMessage) (marksFailed : Bool) (outboxId : String) :
    Lettered env message (w.persistDeadLetter dlq marksFailed outboxId).db ↔
      Lettered env message w.db ∨ FreshLetter dlq w ∧ HoldsMessage env message dlq.payload.written.content := by
  simp only [Lettered, persistDeadLetter_dlqMessages, Db.recordDLQMessage]
  by_cases fresh : FreshLetter dlq w
  · have hnone : w.db.dlqMessages.get? (dlq.row w.clock).key = none := fresh
    rw [Table.upsert_of_fresh hnone]
    simp [fresh, or_comm, DlqMessage.row]
  · have hsome : (w.db.dlqMessages.get? (dlq.row w.clock).key).isSome :=
      Option.isSome_iff_ne_none.mpr fresh
    rw [Table.upsert_of_present hsome]
    simp only [Table.mem_update, fresh, false_and, or_false]
    constructor
    · rintro ⟨r, ⟨old, hold, rfl⟩, h⟩
      refine ⟨old, hold, ?_⟩
      split at h <;> exact h
    · rintro ⟨old, hold, h⟩
      refine ⟨_, ⟨old, hold, rfl⟩, ?_⟩
      split <;> exact h

theorem malformed_keeps_iff (h : parseEnvelope env.uuid env.now (message.value.getD "") = none) (w : World) :
    let r := ((baseConsumer consumerName n).handleMessage env message).run (platform D) f.oracle [] w
    (r.value = .ok () → Kept consumerName env message r.state.db) ↔
      Unharmed (baseConsumer consumerName n) f env message w := by
  intro r
  have hr : r = ((baseConsumer consumerName n).publishDeadLetter
      ((baseConsumer consumerName n).malformedLetter env message) false
      ((baseConsumer consumerName n).malformedLetter env message).id).run (platform D) f.oracle [] w := by
    simp only [r, Consumer.handleMessage, h]
    rfl
  obtain ⟨value, persisted, lost⟩ := publishDeadLetter_run D f consumerName n [] w
    ((baseConsumer consumerName n).malformedLetter env message) false
    ((baseConsumer consumerName n).malformedLetter env message).id
  rw [← hr] at value persisted lost
  have holds : HoldsMessage env message
      ((baseConsumer consumerName n).malformedLetter env message).payload.written.content := by
    simp [HoldsMessage, h, Consumer.malformedLetter, Consumer.deadLetter, DlqPayload.written]
  simp only [value, true_implies, Kept, Unharmed, h, reduceCtorEq, false_and, exists_false, false_or]
  by_cases hp : f.Persists ((baseConsumer consumerName n).malformedLetter env message)
  · rw [lettered_congr (persisted hp).2, lettered_persistDeadLetter]
    simp only [hp, holds, and_true, true_and]
  · rw [lettered_congr (lost hp).2]
    simp only [hp, false_and, or_false]

/-- The duplicate check decides how an event is handled. -/
theorem handleEnvelope_run (w : World) :
    let c := baseConsumer consumerName n
    let r := (c.handleEnvelope env message e).run (platform D) f.oracle [] w
    (¬f.Checks consumerName e → r.value ≠ .ok ()) ∧
    (f.Checks consumerName e → w.db.isEventProcessed e.eventId consumerName = true →
      r.value = .ok () ∧ r.state = w) ∧
    (f.Checks consumerName e → w.db.isEventProcessed e.eventId consumerName = false →
      r = (c.retryLoop env message e n 0 none).run (platform D) f.oracle
        [.isEventProcessed e.eventId consumerName] w) := by
  have value := platform_exec_value D (.isEventProcessed e.eventId consumerName) f.dedup w
  have state : ((platform D).exec (.isEventProcessed e.eventId consumerName) f.dedup w).2 = w := by
    rw [platform_exec_state]
    split <;> rfl
  have fits : columnsFit (.isEventProcessed e.eventId consumerName) w = true ↔
      fitsText e.eventId = true ∧ fitsText consumerName = true := by simp [columnsFit]
  simp only [Consumer.handleEnvelope, run_bind, run_await, Faults.oracle, Ran.andThen, baseConsumer,
    state, value, Faults.Checks]
  refine ⟨fun h => ?_, fun ⟨hd, hf⟩ hp => ?_, fun ⟨hd, hf⟩ hp => ?_⟩
  · cases hd : f.dedup with
    | ok =>
      have hf : columnsFit (.isEventProcessed e.eventId consumerName) w ≠ true :=
        fun hf => h ⟨hd, fits.mp hf⟩
      simp [hf]
    | rejected err => simp
    | unacked err => simp
  · simp [hd, fits.mpr hf, carryOut, hp, Prog.run]
  · simp [hd, fits.mpr hf, carryOut, hp]

theorem persisted_processed (w : World) (dlq : DlqMessage) (outboxId : String) :
    (w.persistDeadLetter dlq true outboxId).db.isEventProcessed dlq.eventId dlq.consumerName = false :=
  isEventProcessed_markEventProcessed (w.db.recordDLQMessage dlq w.clock) dlq.eventId dlq.consumerName
    .failed (some dlq.errorMessage) w.clock

theorem event_keeps_iff (h : parseEnvelope env.uuid env.now (message.value.getD "") = some e) (w : World) :
    let r := ((baseConsumer consumerName n).handleMessage env message).run (platform D) f.oracle [] w
    (r.value = .ok () → Kept consumerName env message r.state.db) ↔
      Unharmed (baseConsumer consumerName n) f env message w := by
  intro r
  have hr : r = ((baseConsumer consumerName n).handleEnvelope env message e).run (platform D) f.oracle [] w := by
    simp only [r, Consumer.handleMessage, h]
  have kept : ∀ db, Kept consumerName env message db ↔
      (KeyHeld consumerName e ∧ db.isEventProcessed e.eventId consumerName = true) ∨ Lettered env message db := by
    simp [Kept, Registered, h]
  obtain ⟨unanswered, duplicate, handled⟩ :=
    @handleEnvelope_run D f consumerName n env message e w
  rw [← hr] at unanswered duplicate handled
  simp only [kept, Unharmed, h]
  by_cases hc : f.Checks consumerName e
  case neg => exact ⟨fun _ => .inr (.inl hc), fun _ hv => absurd hv (unanswered hc)⟩
  have checked : f.Checks (baseConsumer consumerName n).consumerName e := hc
  cases hp : w.db.isEventProcessed e.eventId consumerName with
  | true =>
    have processed : w.db.isEventProcessed e.eventId (baseConsumer consumerName n).consumerName = true := hp
    obtain ⟨value, state⟩ := duplicate hc hp
    rw [value, state, hp]
    simp only [processed, checked, not_true_eq_false, true_implies, true_or, and_true, Bool.true_eq_false, false_and,
      or_false, false_or]
    exact or_comm
  | false =>
    have unprocessed : w.db.isEventProcessed e.eventId (baseConsumer consumerName n).consumerName =
        false := hp
    obtain ⟨succeeds, exhausts⟩ := retryLoop_run D f consumerName n env message e n 0 none
      [.isEventProcessed e.eventId consumerName] w
    rw [← handled hc hp] at succeeds exhausts
    by_cases hs : ∃ i, 1 ≤ i ∧ i ≤ n ∧ f.Succeeds consumerName e i
    · obtain ⟨i, hle, hn, hi⟩ := hs
      obtain ⟨value, letters, recorded⟩ := succeeds ⟨i, by omega, by omega, hi⟩
      have settled : ∃ i, 1 ≤ i ∧ i ≤ (baseConsumer consumerName n).maxRetries ∧
          f.Succeeds (baseConsumer consumerName n).consumerName e i := ⟨i, hle, hn, hi⟩
      rw [value, recorded, lettered_congr letters]
      simp only [settled, checked, not_true_eq_false, true_implies, true_or, or_true, and_true, false_and, and_false,
        or_false, false_or]
      exact or_comm
    · obtain ⟨past', w', hr', letters, records⟩ := exhausts fun i hlt hle hi =>
        hs ⟨i, by omega, by omega, hi⟩
      set letter := (baseConsumer consumerName n).exhaustedLetter f env message e with hletter
      obtain ⟨value, persisted, lost⟩ := publishDeadLetter_run D f consumerName n past' w' letter true
        (orString e.aggregateId letter.id)
      have exhausted : r = ((baseConsumer consumerName n).publishDeadLetter letter true
          (orString e.aggregateId letter.id)).run (platform D) f.oracle past' w' := by
        rw [hr']
        simp only [Option.getD_none, Nat.zero_add]
        rfl
      rw [← exhausted] at value persisted lost
      have holds : HoldsMessage env message letter.payload.written.content := by
        simp [HoldsMessage, h, hletter, Consumer.exhaustedLetter, Consumer.deadLetter, DlqPayload.written]
      have fresh : FreshLetter letter w' ↔ FreshLetter letter w := by
        simp only [FreshLetter, letters]
      have marked : (∃ i, 0 < i ∧ i ≤ 0 + n ∧ f.Marks consumerName e i) ↔
          ∃ i, 1 ≤ i ∧ i ≤ n ∧ f.Marks consumerName e i := by rw [Nat.zero_add]; rfl
      rw [marked, hp] at records
      have unsettled : ¬∃ i, 1 ≤ i ∧ i ≤ (baseConsumer consumerName n).maxRetries ∧
          f.Succeeds (baseConsumer consumerName n).consumerName e i := hs
      simp only [value, true_implies, not_not.mpr checked, false_or, unsettled, unprocessed,
        Bool.false_eq_true, not_false_eq_true, true_and]
      by_cases hpers : f.Persists letter
      · have unrecorded : r.state.db.isEventProcessed e.eventId consumerName = false := by
          rw [Db.isEventProcessed_congr (persisted hpers).1]
          exact persisted_processed w' letter ("outbox_" ++ letter.id)
        rw [unrecorded, lettered_congr (persisted hpers).2, lettered_persistDeadLetter, fresh,
          lettered_congr letters]
        simp [hpers, holds]
      · rw [Db.isEventProcessed_congr (lost hpers).1, lettered_congr (lost hpers).2, records,
          lettered_congr letters]
        simp only [hpers, false_and, or_false, false_or, not_false_eq_true, true_and, Bool.false_eq_true]
        exact or_comm

/-- A handled message is kept exactly when it is unharmed. The errors that the
dead-letter handlers only log are what harms one. -/
theorem handleMessage_keeps_iff (env : Surroundings) (message : EachMessagePayload) (w : World) :
    let r := ((baseConsumer consumerName n).handleMessage env message).run (platform D) f.oracle [] w
    (r.value = .ok () → Kept consumerName env message r.state.db) ↔
      Unharmed (baseConsumer consumerName n) f env message w := by
  cases h : parseEnvelope env.uuid env.now (message.value.getD "") with
  | none => exact malformed_keeps_iff D f consumerName n h w
  | some e => exact event_keeps_iff D f consumerName n h w

end run

def Faults.none : Faults := ⟨.ok, fun _ => .ok, fun _ => .ok, .ok, .ok, .ok⟩

def sampleSurroundings : Surroundings where
  now := "2026-01-01T00:00:00.000Z"
  uuid := "00000000-0000-4000-8000-000000000000"
  parseError := { message := "Unexpected token" }
  attempt _ := ⟨fun _ => "2026-01-01T00:00:00.000Z", fun _ => "", fun _ => 0, false⟩
  dlqUuid := "11111111-0000-4000-8000-000000000000"
  failedAt := "2026-01-01T00:00:00.000Z"

/-- An event whose identifier has 101 characters. -/
def overlongEvent : EachMessagePayload where
  topic := "payments.events"
  partition := 0
  offset := "55"
  value := some ("\x7b\"event_id\":\"" ++ String.ofList (List.replicate 101 'x') ++
    "\",\"event_type\":\"PaymentRequested\",\"aggregate_id\":\"ord_1\",\"payload\":\x7b\x7d\x7d")

def overlongEnvelope : EventEnvelope where
  eventId := "xxxxxxxxxxxxxxxxxxxxxxxxxxxxxxxxxxxxxxxxxxxxxxxxxxxxxxxxxxxxxxxxxxxxxxxxxxxxxxxxxxxxxxxxxxxxxxxxxxxxx"
  eventType := .paymentRequested
  eventVersion := 1
  sequenceNumber := none
  aggregateId := "ord_1"
  aggregateType := "Order"
  occurredAt := "2026-01-01T00:00:00.000Z"
  producer := "legacy-producer"
  correlationId := "ord_1"
  causationId := "xxxxxxxxxxxxxxxxxxxxxxxxxxxxxxxxxxxxxxxxxxxxxxxxxxxxxxxxxxxxxxxxxxxxxxxxxxxxxxxxxxxxxxxxxxxxxxxxxxxxx"
  schemaVersion := 1
  payload := []

theorem overlong_parsed : parseEnvelope sampleSurroundings.uuid sampleSurroundings.now (overlongEvent.value.getD "") =
    some overlongEnvelope := by
  have text : Json.parse (overlongEvent.value.getD "") = _ := Json.parse_ofList (append_ofList (append_ofList rfl rfl) rfl)
  rw [parseEnvelope, text]
  decide +kernel

/-- No call fails of itself, yet neither the mark nor the letter fits its
columns, and the handler returns. -/
theorem handleMessage_loses : ¬∀ (D : DomainWork) (f : Faults) (consumerName : String)
    (env : Surroundings) (message : EachMessagePayload) (w : World),
    let r := ((baseConsumer consumerName 3).handleMessage env message).run (platform D) f.oracle [] w
    r.value = .ok () → Kept consumerName env message r.state.db := by
  intro h
  have kept := h .none .none "payment-service" sampleSurroundings overlongEvent .empty
  generalize hr : ((baseConsumer "payment-service" 3).handleMessage sampleSurroundings
    overlongEvent).run (platform .none) Faults.none.oracle [] .empty = r at kept
  obtain ⟨value, processed, letters⟩ : r.value = .ok () ∧ r.state.db.processedEvents.rows = [] ∧
      r.state.db.dlqMessages.rows = [] := by
    rw [Consumer.handleMessage, overlong_parsed] at hr
    subst hr
    decide +kernel
  rcases kept value with ⟨e, -, -, he⟩ | ⟨row, hrow, -⟩
  · simp [Db.isEventProcessed, Table.get?, processed] at he
  · rw [letters] at hrow
    cases hrow

end Fulfillment
