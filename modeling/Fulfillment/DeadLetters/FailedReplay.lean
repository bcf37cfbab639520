import Fulfillment.DeadLetters.ReplayDLQ
import Fulfillment.Consumers.DeadLettering

/-!
# A replay of a dead letter that fails

The catch block sets the letter to UNRESOLVED. It brings back neither another
status nor a marker, and takes back no message.
-/

namespace Fulfillment

open Js Relational Effects

/-- How the four effects of the try block end. -/
structure ReplayFaults where
  replaying : Outcome JsError
  reset : Outcome JsError
  send : Outcome JsError
  resolved : Outcome JsError

def ReplayFaults.none : ReplayFaults := ⟨.ok, .ok, .ok, .ok⟩

def ReplayFaults.oracle (f : ReplayFaults) (_ : List DlqCall) : DlqCall → Outcome JsError
  | .setDLQStatus _ .replaying => f.replaying
  | .resetProcessedEventForReplay _ _ => f.reset
  | .base (.send _) => f.send
  | .setDLQStatus _ .replayed => f.resolved
  | _ => .ok

/-- No marker would go. -/
def Unmarked (r : DlqMessageRow) (w : World) : Prop :=
  ∀ row ∈ w.db.processedEvents.rows, ¬(row.eventId = r.eventId ∧ (r.consumerName = "" ∨ row.consumerName = r.consumerName))

/-- The letter, the markers and the topics are as they were. -/
structure NothingChanged (dlqId : String) (w w' : World) : Prop where
  letter : ∀ r, w.db.getDLQMessage dlqId = some r →
    ∃ r', w'.db.getDLQMessage dlqId = some r' ∧ r'.status = r.status ∧ r'.resolvedAt = r.resolvedAt
  markers : w'.db.processedEvents.rows = w.db.processedEvents.rows
  topics : w'.journal = w.journal

/-- Nothing fails; or the letter was UNRESOLVED, and either the first update fails, or
no marker is deleted and nothing is published. -/
def Harmless (f : ReplayFaults) (r : DlqMessageRow) (w : World) : Prop :=
  f.replaying = .ok ∧ f.reset = .ok ∧ r.payload.originalEvent ≠ none ∧ f.send = .ok ∧ f.resolved = .ok ∨
  r.status = .unresolved ∧ (f.replaying ≠ .ok ∨
    (f.reset.acted = false ∨ Unmarked r w) ∧
      (f.reset ≠ .ok ∨ r.payload.originalEvent = none ∨ f.send.acted = false))

variable {D : DomainWork} {f : ReplayFaults} {dlqId : String} {w : World} {r : DlqMessageRow}

/-! ## The statements on the letter -/

theorem getDLQMessage_set (status : DlqStatus) (found : w.db.getDLQMessage dlqId = some r) :
    (w.setDLQStatus dlqId status).db.getDLQMessage dlqId = some { r with
      status
      resolvedAt := if status = .replayed ∨ status = .discarded then some w.clock else r.resolvedAt } := by
  obtain ⟨-, id⟩ := Table.get?_eq_some.mp found
  have same : r.id = dlqId := id
  have updated := w.db.dlqMessages.get?_update (fun r => r.id = dlqId)
    (fun r => { r with
      status
      resolvedAt := if status = .replayed ∨ status = .discarded then some w.clock else r.resolvedAt }) (fun _ => rfl) dlqId
  rw [show w.db.dlqMessages.get? dlqId = some r from found, Option.map_some, if_pos (decide_eq_true same)] at updated
  exact updated

theorem reset_markers (r : DlqMessageRow) (w : World) :
    (w.resetProcessedEventForReplay r.eventId r.consumerName).db.processedEvents.rows = w.db.processedEvents.rows ↔
      Unmarked r w := by
  change (w.db.processedEvents.rows.filter fun row => !decide (row.eventId = r.eventId ∧
    (r.consumerName = "" ∨ row.consumerName = r.consumerName))) = _ ↔ _
  rw [List.filter_eq_self]
  simp only [Bool.not_eq_true', decide_eq_false_iff_not, Unmarked]

/-- The world after the first update, if it is carried out. -/
def ReplayFaults.opened (f : ReplayFaults) (dlqId : String) (w : World) : World :=
  if f.replaying.acted then w.setDLQStatus dlqId .replaying else w

/-- The world before the send, or where the replay ends before it. -/
def ReplayFaults.prepared (f : ReplayFaults) (dlqId : String) (r : DlqMessageRow) (w : World) : World :=
  if f.replaying = .ok ∧ f.reset.acted then (f.opened dlqId w).resetProcessedEventForReplay r.eventId r.consumerName
  else f.opened dlqId w

theorem prepared_journal : (f.prepared dlqId r w).journal = w.journal := by
  unfold ReplayFaults.prepared ReplayFaults.opened
  split <;> split <;> rfl

theorem prepared_letter (found : w.db.getDLQMessage dlqId = some r) :
    ∃ r', (f.prepared dlqId r w).db.getDLQMessage dlqId = some r' ∧ r'.resolvedAt = r.resolvedAt := by
  have letter : ∃ r', (f.opened dlqId w).db.getDLQMessage dlqId = some r' ∧ r'.resolvedAt = r.resolvedAt := by
    unfold ReplayFaults.opened
    split
    · exact ⟨_, getDLQMessage_set .replaying found, rfl⟩
    · exact ⟨r, found, rfl⟩
  unfold ReplayFaults.prepared
  split <;> exact letter

theorem prepared_markers : (f.prepared dlqId r w).db.processedEvents.rows = w.db.processedEvents.rows ↔
    (f.replaying = .ok → f.reset.acted = true → Unmarked r w) := by
  have kept : (f.opened dlqId w).db.processedEvents = w.db.processedEvents := by
    unfold ReplayFaults.opened
    split <;> rfl
  unfold ReplayFaults.prepared
  by_cases both : f.replaying = .ok ∧ f.reset.acted = true
  · have markers := reset_markers r (f.opened dlqId w)
    rw [kept] at markers
    rw [if_pos both, markers]
    simp only [both, Unmarked, kept, true_implies]
  · rw [if_neg both, kept]
    constructor
    · intro _ replaying reset
      exact absurd ⟨replaying, reset⟩ both
    · intro _
      rfl

/-! ## The try block -/

theorem tryReplayDLQ_unsent (past : List DlqCall)
    (unsent : f.replaying ≠ .ok ∨ f.reset ≠ .ok ∨ r.payload.originalEvent = none ∨ f.send.acted = false) :
    let tried := (tryReplayDLQ dlqId r).run (dlqPlatform D) f.oracle past w
    tried.value.isOk = false ∧ tried.state = f.prepared dlqId r w := by
  obtain ⟨replaying, reset, send, resolved⟩ := f
  cases replaying with
  | rejected e => exact ⟨rfl, rfl⟩
  | unacked e => exact ⟨rfl, rfl⟩
  | ok =>
    cases reset with
    | rejected e => exact ⟨rfl, rfl⟩
    | unacked e => exact ⟨rfl, rfl⟩
    | ok =>
      simp only [tryReplayDLQ]
      cases original : r.payload.originalEvent with
      | none => exact ⟨rfl, rfl⟩
      | some e =>
        cases send with
        | rejected e => exact ⟨rfl, rfl⟩
        | ok => simp [original, Outcome.acted] at unsent
        | unacked e => simp [original, Outcome.acted] at unsent

theorem tryReplayDLQ_sent (past : List DlqCall) {e : EventEnvelope} (replaying : f.replaying = .ok) (reset : f.reset = .ok)
    (original : r.payload.originalEvent = some e) (sent : f.send.acted = true) :
    let tried := (tryReplayDLQ dlqId r).run (dlqPlatform D) f.oracle past w
    (tried.value.isOk = true ↔ f.send = .ok ∧ f.resolved = .ok) ∧
    tried.state.journal = .sent (r.replayed e) (f.send = .ok) :: w.journal ∧
    tried.state.db.processedEvents = (f.prepared dlqId r w).db.processedEvents := by
  obtain ⟨_, _, send, resolved⟩ := f
  cases replaying
  cases reset
  simp only [tryReplayDLQ, original]
  cases send with
  | rejected e => cases sent
  | unacked e => exact ⟨⟨nofun, nofun⟩, rfl, rfl⟩
  | ok =>
    cases resolved with
    | ok => exact ⟨⟨fun _ => ⟨rfl, rfl⟩, fun _ => rfl⟩, rfl, rfl⟩
    | rejected e => exact ⟨⟨nofun, nofun⟩, rfl, rfl⟩
    | unacked e => exact ⟨⟨nofun, nofun⟩, rfl, rfl⟩

/-! ## The replay -/

/-- A try block that fails leaves the letter UNRESOLVED. -/
theorem replayDLQ_found (found : w.db.getDLQMessage dlqId = some r) (fits : fitsText dlqId = true)
    (kept : r.status ≠ .discarded) :
    let tried := (tryReplayDLQ dlqId r).run (dlqPlatform D) f.oracle [.getDLQMessage dlqId] w
    let run := (replayDLQ dlqId).run (dlqPlatform D) f.oracle [] w
    (tried.value.isOk = true ∧ run.value = .ok ⟨r.topic, 1, .success, none, none⟩ ∧ run.state = tried.state) ∨
    (tried.value.isOk = false ∧ (∃ error, run.value = .ok ⟨r.topic, 0, .failed, none, some error⟩) ∧
      run.state = tried.state.setDLQStatus dlqId .unresolved) := by
  intro tried run
  have read : (dlqPlatform D).exec (.getDLQMessage dlqId) .ok w = (.ok (some r), w) := by
    simp only [Semantics.exec, dlqPlatform, fits, if_true, found]
  have ends : (∀ a, tried.value = .ok a → (replayDLQ dlqId).run (dlqPlatform D) f.oracle [] w =
        ⟨.ok ⟨r.topic, 1, .success, none, none⟩, tried.state, tried.past⟩) ∧
      ∀ error, tried.value = .error error → (replayDLQ dlqId).run (dlqPlatform D) f.oracle [] w =
        ⟨.ok ⟨r.topic, 0, .failed, none, some error.message⟩,
          tried.state.setDLQStatus dlqId .unresolved, .setDLQStatus dlqId .unresolved :: tried.past⟩ := by
    rw [replayDLQ, run_bind, request, run_await, show f.oracle [] (.getDLQMessage dlqId) = .ok from rfl, read]
    simp only [Ran.andThen, if_neg kept]
    rw [run_bind, run_settle]
    change (∀ a, _ → Ran.andThen _ _ ⟨.ok tried.value, tried.state, tried.past⟩ _ = _) ∧
      ∀ error, _ → Ran.andThen _ _ ⟨.ok tried.value, tried.state, tried.past⟩ _ = _
    constructor
    · intro a value
      rw [value]
      rfl
    · intro error value
      rw [value]
      rfl
  cases value : tried.value with
  | ok a =>
    rw [show run = _ from ends.1 a value]
    exact .inl ⟨rfl, rfl, rfl⟩
  | error error =>
    rw [show run = _ from ends.2 error value]
    exact .inr ⟨rfl, ⟨error.message, rfl⟩, rfl⟩

/-- What the catch block leaves when nothing was published. -/
theorem reverted_unchanged_iff (found : w.db.getDLQMessage dlqId = some r) :
    NothingChanged dlqId w ((f.prepared dlqId r w).setDLQStatus dlqId .unresolved) ↔
      r.status = .unresolved ∧ (f.replaying = .ok → f.reset.acted = true → Unmarked r w) := by
  obtain ⟨r', prepared, resolvedAt⟩ := prepared_letter (f := f) found
  have letter := getDLQMessage_set .unresolved prepared
  constructor
  · intro unchanged
    obtain ⟨r'', found', status, -⟩ := unchanged.letter r found
    rw [letter] at found'
    cases found'
    exact ⟨status.symm, prepared_markers.mp unchanged.markers⟩
  · rintro ⟨unresolved, unmarked⟩
    constructor
    · intro r₀ found₀
      cases found.symm.trans found₀
      exact ⟨_, letter, unresolved.symm, resolvedAt⟩
    · exact prepared_markers.mpr unmarked
    · exact prepared_journal

/-- A failed replay changes nothing exactly when the letter was UNRESOLVED and either its
first update failed or there was no marker to delete and nothing was published. -/
theorem failed_dlq_replay_changes_nothing_iff (D : DomainWork) (f : ReplayFaults) (dlqId : String) (w : World)
    (r : DlqMessageRow) (found : w.db.getDLQMessage dlqId = some r) (fits : fitsText dlqId = true)
    (kept : r.status ≠ .discarded) :
    let run := (replayDLQ dlqId).run (dlqPlatform D) f.oracle [] w
    ((∃ result, run.value = .ok result ∧ result.status = .failed) → NothingChanged dlqId w run.state) ↔
      Harmless f r w := by
  intro run
  have ends := replayDLQ_found (D := D) (f := f) found fits kept
  by_cases unsent : f.replaying ≠ .ok ∨ f.reset ≠ .ok ∨ r.payload.originalEvent = none ∨ f.send.acted = false
  · obtain ⟨failed, state⟩ := @tryReplayDLQ_unsent D f dlqId w r [.getDLQMessage dlqId] unsent
    rcases ends with ⟨succeeded, -⟩ | ⟨-, ⟨error, value⟩, final⟩
    · exact absurd (failed.symm.trans succeeded) (by decide)
    have failing : ∃ result, run.value = .ok result ∧ result.status = .failed := ⟨_, value, rfl⟩
    rw [show run.state = (f.prepared dlqId r w).setDLQStatus dlqId .unresolved from state ▸ final]
    simp only [failing, true_implies, reverted_unchanged_iff found, Harmless]
    constructor
    · rintro ⟨unresolved, unmarked⟩
      refine .inr ⟨unresolved, ?_⟩
      by_cases replaying : f.replaying = .ok
      · right
        constructor
        · by_cases reset : f.reset.acted = true
          · exact .inr (unmarked replaying reset)
          · exact .inl (Bool.eq_false_iff.mpr reset)
        · exact unsent.resolve_left (fun different => different replaying)
      · exact .inl replaying
    · rintro (⟨replaying, reset, original, send, -⟩ | ⟨unresolved, harmless⟩)
      · simp [replaying, reset, original, send, Outcome.acted] at unsent
      · refine ⟨unresolved, fun replaying acted => ?_⟩
        rcases harmless with different | ⟨unacted | unmarked, -⟩
        · exact absurd replaying different
        · exact absurd (acted.symm.trans unacted) (by decide)
        · exact unmarked
  · simp only [not_or, not_not, Bool.not_eq_false] at unsent
    obtain ⟨replaying, reset, original, sent⟩ := unsent
    obtain ⟨e, original⟩ := Option.ne_none_iff_exists'.mp original
    obtain ⟨succeeds, journal, -⟩ := @tryReplayDLQ_sent D f dlqId w r [.getDLQMessage dlqId] _ replaying reset original sent
    rcases ends with ⟨succeeded, value, -⟩ | ⟨failed, ⟨error, value⟩, final⟩
    · obtain ⟨send, resolved⟩ := succeeds.mp succeeded
      constructor
      · intro _
        exact .inl ⟨replaying, reset, by rw [original]; simp, send, resolved⟩
      · rintro - ⟨result, returned, failed⟩
        rw [value] at returned
        cases returned
        cases failed
    · constructor
      · intro unchanged
        have topics := (unchanged ⟨_, value, rfl⟩).topics
        rw [final] at topics
        exact absurd (journal.symm.trans topics) (List.cons_ne_self _ _)
      · rintro (⟨-, -, -, send, resolved⟩ | ⟨-, different | ⟨-, different | malformed | unsent⟩⟩)
        · exact absurd (failed.symm.trans (succeeds.mpr ⟨send, resolved⟩)) (by decide)
        · exact absurd replaying different
        · exact absurd reset different
        · rw [original] at malformed
          cases malformed
        · exact absurd (sent.symm.trans unsent) (by decide)

def ReplayFaults.brokerDown : ReplayFaults := { ReplayFaults.none with send := .rejected { message := "broker unreachable" } }

/-- The first update fails, and the letter stays as it was recorded. -/
theorem failed_dlq_replay_changes_nothing_sample :
    let f : ReplayFaults := { ReplayFaults.none with replaying := .rejected { message := "connection lost" } }
    let run := (replayDLQ "dlq_11111111").run (dlqPlatform .none) f.oracle [] letteredWorld
    (∃ result, run.value = .ok result ∧ result.status = .failed) → NothingChanged "dlq_11111111" letteredWorld run.state := by
  have lettered : (letteredWorld.db.getDLQMessage "dlq_11111111").map DlqMessageRow.status = some .unresolved := by
    decide +kernel
  obtain ⟨r, found, unresolved⟩ := Option.map_eq_some_iff.mp lettered
  exact (failed_dlq_replay_changes_nothing_iff .none _ _ _ r found (by decide +kernel) (by rw [unresolved]; nofun)).mpr
    (.inr ⟨unresolved, .inl nofun⟩)

/-- A letter that was replayed successfully. -/
def replayedWorld : World :=
  ((replayDLQ "dlq_11111111").run (dlqPlatform .none) ReplayFaults.none.oracle [] letteredWorld).state

/-- A replay that fails at the send deletes the FAILED marker. -/
example :
    let run := (replayDLQ "dlq_11111111").run (dlqPlatform .none) ReplayFaults.brokerDown.oracle [] letteredWorld
    run.value = .ok ⟨"payments.events", 0, .failed, none, some "broker unreachable"⟩ ∧
    letteredWorld.db.processedEvents.rows.map ProcessedEventRow.status = [.failed] ∧
    run.state.db.processedEvents.rows = [] := by
  decide +kernel

/-- A letter that was REPLAYED is UNRESOLVED after a replay that fails at the send. -/
theorem failed_replay_changes_letter :
    let run := (replayDLQ "dlq_11111111").run (dlqPlatform .none) ReplayFaults.brokerDown.oracle [] replayedWorld
    run.value = .ok ⟨"payments.events", 0, .failed, none, some "broker unreachable"⟩ ∧
    replayedWorld.db.dlqMessages.rows.map DlqMessageRow.status = [.replayed] ∧
    run.state.db.dlqMessages.rows.map DlqMessageRow.status = [.unresolved] := by
  decide +kernel

end Fulfillment
