import Fulfillment.Consumers.Handling
import Fulfillment.Saga.Handlers

/-!
# The history of an order

When the events of an order are handled one after another, every save and every
emission belongs to the event that caused it. `SagaLog` says which histories
there are; `handled_logged` and `delivered_logged` say that a run of the
orchestrator, however its calls end, adds only what `SagaLog` allows.
-/

namespace Fulfillment

open Js Effects SagaOrchestrator

/-- What was done, with the event it was done for. -/
abbrev Logged := EventEnvelope × Entry

/-- The histories of an order, newest entry first, with the saga they leave and
the messages its last save still owes. -/
inductive SagaLog (orderId : String) : Option SagaRow → List (Except JsError Message) → List Logged → Prop
  | start : SagaLog orderId none [] []
  | advance {saga owed log} (amb : Ambient) (e : EventEnvelope) (row : SagaRow)
      (emissions : List (Except JsError Message)) (before : SagaLog orderId saga owed log)
      (about : e.aggregateId = orderId) (reacts : react amb e saga = .ok (.advance row emissions)) :
    SagaLog orderId (some (row.mergedInto saga)) emissions ((e, .saved row) :: log)
  | report {s owed log} (amb : Ambient) (e : EventEnvelope) (action : String)
      (before : SagaLog orderId (some s) owed log) (about : e.aggregateId = orderId)
      (compensating : s.state = .compensating) (reports : reported e.eventType = some action) :
    SagaLog orderId (some (s.afterReport orderId action e.correlationId))
      ((cancelNotice s action).toList.map fun notice => .ok (orderCancelled amb e orderId notice))
      ((e, .saved (barrierRow s orderId action e.correlationId)) :: log)
  | emit {saga owed log} (e : EventEnvelope) (m : Message) (acked : Bool)
      (before : SagaLog orderId saga (.ok m :: owed) log) : SagaLog orderId saga owed ((e, .sent m acked) :: log)
  | deadLetter {saga owed log} (e : EventEnvelope) (key : String) (p : DlqPayload) (acked : Bool)
      (before : SagaLog orderId saga owed log) :
    SagaLog orderId saga owed ((e, .sent ⟨Topics.dlq, key, .deadLetter p⟩ acked) :: log)

structure SagaRun where
  world : World
  log : List Logged

/-- The entries a run added to the journal. -/
def newEntries (before after : List Entry) : List Entry := after.take (after.length - before.length)

theorem newEntries_append (news before : List Entry) : newEntries before (news ++ before) = news := by
  simp [newEntries]

/-- Runs a program that handles an event, and files what it did under the event. -/
def SagaRun.after (r : SagaRun) (e : EventEnvelope) (p : Program Unit)
    (oracle : List Call → Call → Outcome JsError) : SagaRun :=
  let w := (p.run roomyPlatform oracle [] r.world).state
  ⟨w, (newEntries r.world.journal w.journal).map (e, ·) ++ r.log⟩

/-- The stored saga has this history. -/
structure HasLog (orderId : String) (r : SagaRun) : Prop where
  keyed : r.world.db.WellKeyed
  journal : r.log.map Prod.snd = r.world.journal
  log : ∃ owed, SagaLog orderId (stored orderId r.world) owed r.log

/-- Nothing happened to the order yet. -/
structure Untouched (orderId : String) (r : SagaRun) : Prop where
  keyed : r.world.db.WellKeyed
  unstored : stored orderId r.world = none
  journal : r.world.journal = []
  log : r.log = []

theorem Untouched.hasLog {orderId : String} {r : SagaRun} (h : Untouched orderId r) : HasLog orderId r where
  keyed := h.keyed
  journal := by rw [h.log, h.journal]; rfl
  log := ⟨[], by rw [h.unstored, h.log]; exact .start⟩

/-! ## While an event is handled -/

section

variable {orderId : String} {r : SagaRun} {e : EventEnvelope}

/-- A world on the way from the run `r`, with the messages owed. -/
structure Owing (orderId : String) (r : SagaRun) (e : EventEnvelope) (owed : List (Except JsError Message))
    (w : World) : Prop where
  keyed : w.db.WellKeyed
  log : ∃ news, w.journal = news ++ r.world.journal ∧
    SagaLog orderId (stored orderId w) owed (news.map (e, ·) ++ r.log)

def Underway (orderId : String) (r : SagaRun) (e : EventEnvelope) (w : World) : Prop :=
  ∃ owed, Owing orderId r e owed w

theorem HasLog.underway (h : HasLog orderId r) (e : EventEnvelope) : Underway orderId r e r.world := by
  obtain ⟨owed, hlog⟩ := h.log
  exact ⟨owed, h.keyed, [], rfl, hlog⟩

theorem Underway.hasLog {p : Program Unit} {oracle : List Call → Call → Outcome JsError}
    (journal : r.log.map Prod.snd = r.world.journal)
    (h : Underway orderId r e (p.run roomyPlatform oracle [] r.world).state) :
    HasLog orderId (r.after e p oracle) := by
  obtain ⟨owed, keyed, news, hnews, hlog⟩ := h
  have hlog' : (r.after e p oracle).log = news.map (e, ·) ++ r.log := by
    simp only [SagaRun.after]
    rw [hnews, newEntries_append]
  refine ⟨keyed, ?_, owed, hlog' ▸ hlog⟩
  calc (r.after e p oracle).log.map Prod.snd
      = news ++ r.log.map Prod.snd := by simp [hlog', Function.comp_def]
    _ = (r.after e p oracle).world.journal := by rw [journal]; exact hnews.symm

theorem Owing.advance {owed emissions : List (Except JsError Message)} {w : World} (h : Owing orderId r e owed w)
    (about : e.aggregateId = orderId) {amb : Ambient} {row : SagaRow}
    (reacts : react amb e (stored orderId w) = .ok (.advance row emissions)) :
    Owing orderId r e emissions (w.saveSaga row) := by
  obtain ⟨keyed, news, hnews, hlog⟩ := h
  obtain ⟨target, types, -, ha⟩ := transition_of_react reacts
  have hrow : row.Keyed := ha.keyed fun s hs => about ▸ (getSaga_eq_some keyed hs).2
  obtain ⟨keyed', stored'⟩ := stored_save keyed hrow (ha.aggregateId.trans about)
  refine ⟨keyed', .saved row :: news, by simp [World.saveSaga, hnews], ?_⟩
  rw [stored']
  exact .advance amb e row emissions hlog about reacts

theorem Owing.report {owed : List (Except JsError Message)} {w : World} (h : Owing orderId r e owed w)
    (about : e.aggregateId = orderId) (amb : Ambient) {s : SagaRow} {action : String}
    (hs : stored orderId w = some s) (compensating : s.state = .compensating)
    (reports : reported e.eventType = some action) :
    Owing orderId r e ((cancelNotice s action).toList.map fun notice => .ok (orderCancelled amb e orderId notice))
      (w.saveSaga (barrierRow s orderId action e.correlationId)) := by
  obtain ⟨keyed, news, hnews, hlog⟩ := h
  obtain ⟨keyed', stored'⟩ := stored_report keyed hs action e.correlationId
  refine ⟨keyed', .saved (barrierRow s orderId action e.correlationId) :: news,
    by simp [World.saveSaga, hnews], ?_⟩
  rw [stored']
  rw [hs] at hlog
  exact .report amb e action hlog about compensating reports

theorem Owing.emit {owed : List (Except JsError Message)} {m : Message} {w : World}
    (h : Owing orderId r e (.ok m :: owed) w) (acked : Bool) : Owing orderId r e owed (w.take m acked) := by
  obtain ⟨keyed, news, hnews, hlog⟩ := h
  exact ⟨keyed, .sent m acked :: news, by simp [World.take, hnews], .emit e m acked hlog⟩

/-- A program alone, no matter how its calls end. -/
abbrev Keeping (Inv : World → Prop) (p : Program Unit) (w : World) : Prop :=
  Safe roomyPlatform (Contract.alone JsError World Call) (fun _ w => Inv w) p w

theorem send_underway {owed : List (Except JsError Message)} {m : Message} {w : World}
    (h : Owing orderId r e (.ok m :: owed) w) (o : Outcome JsError) :
    (o = .ok ∧ Owing orderId r e owed (roomyPlatform.exec (.send m) o w).2) ∨
    (∃ err, (roomyPlatform.exec (.send m) o w).1 = .error err) ∧
      Underway orderId r e (roomyPlatform.exec (.send m) o w).2 := by
  cases o with
  | ok => exact .inl ⟨rfl, h.emit true⟩
  | rejected err => exact .inr ⟨⟨err, rfl⟩, _, h⟩
  | unacked err => exact .inr ⟨⟨err, rfl⟩, _, h.emit false⟩

theorem sendAll_underway {emissions : List (Except JsError Message)} {w : World}
    (h : Owing orderId r e emissions w) : Keeping (Underway orderId r e) (sendAll emissions) w := by
  induction emissions generalizing w with
  | nil => exact ⟨_, h⟩
  | cons emission emissions ih =>
    cases emission with
    | error err => exact ⟨_, h⟩
    | ok m =>
      change Keeping (Underway orderId r e) (await (.send m) >>= fun _ => sendAll emissions) w
      refine Safe.bind (.await fun w' (hw : w = w') o _ => ⟨trivial, ?_⟩)
      subst hw
      rcases send_underway h o with ⟨rfl, h'⟩ | ⟨⟨err, hr⟩, h'⟩
      · exact ih h'
      · rw [hr]
        exact h'

theorem advance_underway {owed emissions : List (Except JsError Message)} {w : World}
    (h : Owing orderId r e owed w) (about : e.aggregateId = orderId) {amb : Ambient} {row : SagaRow}
    (reacts : react amb e (stored orderId w) = .ok (.advance row emissions)) :
    Keeping (Underway orderId r e) (SagaOrchestrator.perform amb e (.advance row emissions)) w := by
  refine Safe.bind (.await fun w' (hw : w = w') o _ => ⟨trivial, ?_⟩)
  subst hw
  cases o with
  | ok => exact sendAll_underway (h.advance about reacts)
  | rejected err => exact ⟨_, h⟩
  | unacked err => exact ⟨_, h.advance about reacts⟩

theorem report_underway {owed : List (Except JsError Message)} {w : World} (h : Owing orderId r e owed w)
    (about : e.aggregateId = orderId) (amb : Ambient) {s : SagaRow} {action : String}
    (hs : stored orderId w = some s) (compensating : s.state = .compensating)
    (reports : reported e.eventType = some action) :
    Keeping (Underway orderId r e) (SagaOrchestrator.perform amb e (.compensate s action)) w := by
  have hid : s.aggregateId = orderId := (getSaga_eq_some h.keyed hs).1
  have h' := h.report about amb hs compensating reports
  refine Safe.bind (.await fun w' (hw : w = w') o _ => ⟨trivial, ?_⟩)
  subst hw
  cases o with
  | ok =>
    rw [roomy_exec_ok, carryOut_barrier hs hid, if_pos compensating]
    cases hn : cancelNotice s action with
    | none => exact ⟨_, h'⟩
    | some notice =>
      rw [hn] at h'
      refine Safe.await fun w' (hw : _ = w') o _ => ⟨trivial, ?_⟩
      subst hw
      rw [hid]
      rcases send_underway h' o with ⟨-, h''⟩ | ⟨-, h''⟩
      · exact ⟨_, h''⟩
      · exact h''
  | rejected err => exact ⟨_, h⟩
  | unacked err =>
    have state : (roomyPlatform.exec (.compensationBarrier s action e.correlationId) (.unacked err) w).2 =
        w.saveSaga (barrierRow s orderId action e.correlationId) := by
      rw [roomy_exec_state]
      simp only [Outcome.acted, if_true, carryOut_barrier hs hid, if_pos compensating]
    rw [state]
    exact ⟨_, h'⟩

theorem processEvent_underway (amb : Ambient) (about : e.aggregateId = orderId) {w : World}
    (h : Underway orderId r e w) : Keeping (Underway orderId r e) (processEvent amb e) w := by
  obtain ⟨owed, h⟩ := h
  refine Safe.bind (.await fun w' (hw : w = w') o _ => ⟨trivial, ?_⟩)
  subst hw
  rcases roomy_exec_getSaga e.aggregateId o w with hx | ⟨err, hx⟩
  · rw [hx, about]
    simp only [After]
    cases hr : react amb e (w.db.getSagaByAggregateId orderId) with
    | error err => exact ⟨_, h⟩
    | ok reaction =>
      cases reaction with
      | ignore => exact ⟨_, h⟩
      | advance row emissions => exact advance_underway h about hr
      | compensate s action =>
        obtain ⟨hs, compensating, reports⟩ := report_of_react hr
        exact report_underway h about amb hs compensating reports
  · rw [hx]
    exact ⟨_, h⟩

theorem base_underway {consumerName : String} {call : Call} (hcall : BaseCall consumerName call) :
    Keeps roomyPlatform (Contract.alone JsError World Call) (Underway orderId r e) call := by
  rintro o w - ⟨owed, keyed, news, hnews, hlog⟩
  refine ⟨trivial, ?_⟩
  rw [roomy_exec_state]
  split
  · obtain ⟨hframe, hjournal⟩ := hcall.frame .none (decide (o = .ok)) w
    have hsaga : stored orderId (carryOut .none call (decide (o = .ok)) w).2 = stored orderId w := by
      simp only [stored, Db.getSagaByAggregateId, hframe]
    refine ⟨owed, by simpa only [Db.WellKeyed, hframe] using keyed, ?_⟩
    rw [hsaga]
    rcases hjournal with hj | ⟨key, p, hj⟩
    · exact ⟨news, hj.trans hnews, hlog⟩
    · exact ⟨.sent ⟨Topics.dlq, key, .deadLetter p⟩ _ :: news, by rw [hj, hnews]; rfl, .deadLetter e key p _ hlog⟩
  · exact ⟨owed, keyed, news, hnews, hlog⟩

/-- `processEvent` adds to the history only what `SagaLog` allows. -/
theorem handled_logged (h : HasLog orderId r) (amb : Ambient) (about : e.aggregateId = orderId)
    (oracle : List Call → Call → Outcome JsError) : HasLog orderId (r.after e (processEvent amb e) oracle) :=
  Underway.hasLog h.journal (safe_run (fun _ => rfl) (fun _ _ _ => trivial) [] (processEvent_underway amb about (h.underway e)))

/-- So does `handleMessage`, with its retries and its dead letters. -/
theorem delivered_logged (h : HasLog orderId r) (env : Surroundings) (message : EachMessagePayload)
    (parsed : parseEnvelope env.uuid env.now (message.value.getD "") = some e) (about : e.aggregateId = orderId)
    (oracle : List Call → Call → Outcome JsError) :
    HasLog orderId (r.after e (sagaOrchestrator.handleMessage env message) oracle) := by
  have handled : Keeping (Underway orderId r e) (sagaOrchestrator.handleEnvelope env message e) r.world :=
    sagaOrchestrator.handleEnvelope_safe env message e (fun w w' (hw : w = w') hv => hw ▸ hv)
      (fun _ => base_underway) (fun attempt _ hv => processEvent_underway _ about hv) (h.underway e)
  rw [Consumer.handleMessage_of_parsed parsed]
  exact Underway.hasLog h.journal (safe_run (fun _ => rfl) (fun _ _ _ => trivial) [] handled)

end

end Fulfillment
