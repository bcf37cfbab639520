import Fulfillment.Consumers.Handling
import Fulfillment.Consumers.NoLoss
import Fulfillment.Effects.Paths
import Fulfillment.Saga.Handlers

/-!
# The commands a transition owes

The saga is saved before its commands are sent, and a retry finds the saga
advanced and ignores the event; a save that the columns refuse is tried again.
`commands_sent_iff` says which runs of the retry loop lose a command,
`commands_lost` that some do.
-/

namespace Fulfillment

open Js Effects SagaOrchestrator

def isSend : Call → Bool
  | .send _ => true
  | _ => false

/-- Only sends fail; `sends k` is how the send after `k` others ends. -/
def sendFaults (sends : Nat → Outcome JsError) (past : List Call) : Call → Outcome JsError
  | .send _ => sends (past.countP isSend)
  | _ => .ok

/-- The messages owed by an event that brought the saga to a state. -/
def owed : EventType → SagaState → List EventType
  | .orderCreated, .paymentPending => [.paymentRequested]
  | .paymentAuthorized, .inventoryPending => [.inventoryReservationRequested]
  | .paymentRejected, .failed => [.orderFailed]
  | .inventoryReserved, .fraudPending => [.fraudCheckRequested]
  | .inventoryReservationFailed, .compensating => [.paymentRefundRequested]
  | .fraudApproved, .shippingPending => [.shipmentRequested]
  | .fraudRejected, .compensating => [.inventoryReleased, .paymentRefundRequested]
  | .shipmentCreated, .completed => [.orderCompleted, .notificationRequested]
  | .shipmentFailed, .compensating => [.inventoryReleased, .paymentRefundRequested]
  | .paymentRefunded, .cancelled => [.orderCancelled]
  | .inventoryReleased, .cancelled => [.orderCancelled]
  | _, _ => []

def sendsOwed : EventType → Nat
  | .fraudRejected | .shipmentCreated | .shipmentFailed => 2
  | _ => 1

/-- The broker acknowledged an event of the type about the order. -/
def Acknowledged (orderId : String) (t : EventType) (journal : List Entry) : Prop :=
  ∃ m, .sent m true ∈ journal ∧ m.Carries t orderId

/-- Every change of state in the journal has its messages acknowledged there. -/
def CommandsSent (e : EventEnvelope) (before : Option SagaRow) (journal : List Entry) : Prop :=
  ∀ saga, .saved saga ∈ journal → before.map SagaRow.state ≠ some saga.state →
    ∀ t ∈ owed e.eventType saga.state, Acknowledged e.aggregateId t journal

/-- The event changes the state of the saga it finds. -/
def MovesSaga (e : EventEnvelope) (saga : Option SagaRow) : Prop :=
  (transition e.eventType (saga.map SagaRow.state) ≠ none ∧ Worded e) ∨
  ∃ s action, saga = some s ∧ s.state = .compensating ∧ reported e.eventType = some action ∧
    allCompensationsCompleted s.context action = true

/-- The columns take what an attempt saves of the saga it finds. -/
def TakesSave (amb : Ambient) (e : EventEnvelope) (saga : Option SagaRow) : Prop :=
  match react amb e saga with
  | .ok (.advance row _) => row.fits = true
  | .ok (.compensate s action) => (barrierRow s e.aggregateId action e.correlationId).fits = true
  | _ => False

theorem owed_transition {t : EventType} {state : Option SagaState} {target : SagaState}
    {types : List EventType} (h : transition t state = some (target, types)) :
    owed t target = types ∧ types.length = sendsOwed t := by
  unfold transition at h
  split at h <;> cases h
  all_goals exact ⟨rfl, rfl⟩

theorem platform_exec_send (m : Message) (o : Outcome JsError) (w : World) :
    (o = .ok ∧ (platform .none).exec (.send m) o w = (.ok (), w.take m true)) ∨
    (o ≠ .ok ∧ ∃ err, (platform .none).exec (.send m) o w = (.error err, w)) ∨
    (o ≠ .ok ∧ ∃ err, (platform .none).exec (.send m) o w = (.error err, w.take m false)) := by
  cases o with
  | ok => exact .inl ⟨rfl, rfl⟩
  | rejected err => exact .inr (.inl ⟨by simp, err, rfl⟩)
  | unacked err => exact .inr (.inr ⟨by simp, err, rfl⟩)

/-- A read answers from the tables or fails; either way nothing changes. -/
theorem platform_exec_getSaga (aggregateId : String) (o : Outcome JsError) (w : World) :
    (platform .none).exec (.getSagaByAggregateId aggregateId) o w = (.ok (w.db.getSagaByAggregateId aggregateId), w) ∨
    ∃ err, (platform .none).exec (.getSagaByAggregateId aggregateId) o w = (.error err, w) := by
  have state : ((platform .none).exec (.getSagaByAggregateId aggregateId) o w).2 = w := by
    rw [platform_exec_state]
    split <;> rfl
  cases value : ((platform .none).exec (.getSagaByAggregateId aggregateId) o w).1 with
  | error err => exact .inr ⟨err, Prod.ext value state⟩
  | ok saga =>
    rw [platform_exec_value] at value
    split at value
    · split at value
      · exact .inl (Prod.ext (by rw [platform_exec_value, if_pos ‹_›]; rfl) state)
      · cases value
    · cases value
    · cases value

section

variable (sends : Nat → Outcome JsError)

abbrev runSends {α : Type} (p : Program α) (past : List Call) (w : World) : Ran JsError World Call α :=
  p.run (platform .none) (sendFaults sends) past w

/-- A call other than a send is answered if the columns take its values. -/
theorem runSends_await {α : Type} {c : Call} {w : World} (h : isSend c = false) (fits : columnsFit c w = true)
    (k : Answer c → Program α) (past : List Call) :
    runSends sends (await c >>= k) past w =
      runSends sends (k (carryOut .none c true w).1) (c :: past) (carryOut .none c true w).2 := by
  have ok : sendFaults sends past c = .ok := by cases c <;> first | rfl | cases h
  simp only [runSends, run_bind, run_await, Ran.andThen, ok, platform_exec_ok .none fits]

theorem runSends_refused {α : Type} {c : Call} {w : World} (h : isSend c = false) (unfit : columnsFit c w = false)
    (k : Answer c → Program α) (past : List Call) :
    runSends sends (await c >>= k) past w = ⟨.error columnError, w, c :: past⟩ := by
  have ok : sendFaults sends past c = .ok := by cases c <;> first | rfl | cases h
  simp only [runSends, run_bind, run_await, Ran.andThen, ok, platform_exec_refused .none unfit]

/-- All messages can be built and their sends succeed. -/
def AllSent (k : Nat) (emissions : List (Except JsError Message)) : Prop :=
  (∀ i < emissions.length, sends (k + i) = .ok) ∧ ∀ emission ∈ emissions, ∃ m, emission = .ok m

theorem allSent_cons {k : Nat} {m : Message} {emissions : List (Except JsError Message)} :
    AllSent sends k (.ok m :: emissions) ↔ sends k = .ok ∧ AllSent sends (k + 1) emissions := by
  constructor
  · rintro ⟨hs, hb⟩
    refine ⟨by simpa using hs 0 (by simp), fun i hi => ?_, fun x hx => hb x (List.mem_cons_of_mem _ hx)⟩
    have := hs (i + 1) (by simpa using hi)
    rwa [show k + (i + 1) = k + 1 + i by omega] at this
  · rintro ⟨h0, hs, hb⟩
    refine ⟨fun i hi => ?_, ?_⟩
    · cases i with
      | zero => exact h0
      | succ i =>
        have := hs i (by simpa using hi)
        rwa [show k + 1 + i = k + (i + 1) by omega] at this
    · rintro x hx
      rcases List.mem_cons.mp hx with rfl | hx
      · exact ⟨m, rfl⟩
      · exact hb x hx

/-- What `sendAll` leaves: the messages of all types acknowledged, or an error
and a type of which none is. -/
theorem sendAll_run {orderId : String} {emissions : List (Except JsError Message)} {types : List EventType}
    (owes : List.Forall₂ (Owes orderId) emissions types) (distinct : types.Nodup) :
    ∀ past w, ∃ news, (runSends sends (sendAll emissions) past w).state =
        { w with journal := news ++ w.journal } ∧
      (∀ saga, .saved saga ∉ news) ∧
      (((runSends sends (sendAll emissions) past w).value = .ok () ∧
          AllSent sends (past.countP isSend) emissions ∧ ∀ t ∈ types, Acknowledged orderId t news) ∨
        ((∃ err, (runSends sends (sendAll emissions) past w).value = .error err) ∧
          ¬AllSent sends (past.countP isSend) emissions ∧ ∃ t ∈ types, ¬Acknowledged orderId t news)) := by
  induction owes with
  | nil =>
    intro past w
    exact ⟨[], rfl, by simp, .inl ⟨rfl, ⟨by simp, by simp⟩, by simp⟩⟩
  | @cons emission t emissions types howes _ ih =>
    obtain ⟨hfresh, hrest⟩ := List.nodup_cons.mp distinct
    intro past w
    cases emission with
    | error err =>
      refine ⟨[], rfl, by simp, .inr ⟨⟨err, rfl⟩, fun h => ?_, t, by simp, ?_⟩⟩
      · obtain ⟨m, hm⟩ := h.2 (.error err) (by simp)
        cases hm
      · rintro ⟨m, hm, -⟩
        cases hm
    | ok m =>
      have hcarries := howes m rfl
      have start : runSends sends (sendAll (.ok m :: emissions)) past w =
          Ran.andThen (platform .none) (sendFaults sends)
            ⟨((platform .none).exec (.send m) (sends (past.countP isSend)) w).1,
              ((platform .none).exec (.send m) (sends (past.countP isSend)) w).2, .send m :: past⟩
            fun _ => sendAll emissions := by
        simp only [runSends, sendAll, Prog.ofExcept_ok, Prog.pure_bind, run_bind, run_await, sendFaults]
      rcases platform_exec_send m (sends (past.countP isSend)) w with ⟨ho, hx⟩ | ⟨ho, err, hx⟩ | ⟨ho, err, hx⟩
      · obtain ⟨news, hstate, hsaved, hcase⟩ := ih hrest (.send m :: past) (w.take m true)
        have hrun : runSends sends (sendAll (.ok m :: emissions)) past w =
            runSends sends (sendAll emissions) (.send m :: past) (w.take m true) := by
          rw [start, hx]
          rfl
        have hcount : (Call.send m :: past).countP isSend = past.countP isSend + 1 := by
          exact List.countP_cons_of_pos rfl
        rw [hrun, allSent_cons]
        rw [hcount] at hcase
        refine ⟨news ++ [.sent m true], ?_, by simpa using hsaved, ?_⟩
        · rw [hstate, List.append_assoc]
          rfl
        · rcases hcase with ⟨hv, hall, hack⟩ | ⟨herr, hnot, t', ht', hlost⟩
          · refine .inl ⟨hv, ⟨ho, hall⟩, fun t' ht' => ?_⟩
            rcases List.mem_cons.mp ht' with rfl | ht'
            · exact ⟨m, by simp, hcarries⟩
            · obtain ⟨m', hm', hc'⟩ := hack t' ht'
              exact ⟨m', List.mem_append_left _ hm', hc'⟩
          · refine .inr ⟨herr, fun h => hnot h.2, t', List.mem_cons_of_mem _ ht', ?_⟩
            rintro ⟨m', hm', hc'⟩
            rcases List.mem_append.mp hm' with hm' | hm'
            · exact hlost ⟨m', hm', hc'⟩
            · obtain rfl : m' = m := by simpa using hm'
              exact hfresh (hcarries.eventType_unique hc' ▸ ht')
      · have hrun : runSends sends (sendAll (.ok m :: emissions)) past w = ⟨.error err, w, .send m :: past⟩ := by
          rw [start, hx]
          rfl
        rw [hrun, allSent_cons]
        refine ⟨[], rfl, by simp, .inr ⟨⟨err, rfl⟩, fun h => ho h.1, t, by simp, ?_⟩⟩
        rintro ⟨m', hm', -⟩
        cases hm'
      · have hrun : runSends sends (sendAll (.ok m :: emissions)) past w =
            ⟨.error err, w.take m false, .send m :: past⟩ := by
          rw [start, hx]
          rfl
        rw [hrun, allSent_cons]
        refine ⟨[.sent m false], rfl, by simp, .inr ⟨⟨err, rfl⟩, fun h => ho h.1, t, by simp, ?_⟩⟩
        rintro ⟨m', hm', -⟩
        simp at hm'

/-- An event that the switch does not answer by a save leaves no save behind. -/
theorem quiet_run {env : Surroundings} {message : EachMessagePayload} {e : EventEnvelope} {w : World}
    (quiet : ∀ amb, react amb e (w.db.getSagaByAggregateId e.aggregateId) = .ok .ignore ∨
      ∃ err, react amb e (w.db.getSagaByAggregateId e.aggregateId) = .error err)
    (hj : ∀ saga, .saved saga ∉ w.journal) :
    ∀ saga, .saved saga ∉ (runSends sends (sagaOrchestrator.handleEnvelope env message e) [] w).state.journal := by
  have base : ∀ call, BaseCall consumerName call → Keeps (platform .none) (Contract.alone JsError World Call)
      (fun v => v.db.sagaInstances = w.db.sagaInstances ∧ ∀ saga, .saved saga ∉ v.journal) call := by
    rintro call hcall o v - ⟨hsagas, hsaves⟩
    refine ⟨trivial, ?_⟩
    rw [platform_exec_state]
    split
    · obtain ⟨hframe, hjournal | ⟨key, p, hjournal⟩⟩ := hcall.frame .none (decide (o = .ok)) v
      · exact ⟨hframe.trans hsagas, hjournal ▸ hsaves⟩
      · exact ⟨hframe.trans hsagas, by simpa [hjournal] using hsaves⟩
    · exact ⟨hsagas, hsaves⟩
  have handled := sagaOrchestrator.handleEnvelope_safe env message e
    (fun v v' (h : v = v') hv => h ▸ hv) base (fun attempt v hv => ?_) ⟨rfl, hj⟩
  · exact (safe_run (fun _ => rfl) (fun _ _ _ => trivial) [] handled).2
  · refine Safe.bind (.await fun v' (hv' : v = v') o _ => ⟨trivial, ?_⟩)
    subst hv'
    have hsaga : v.db.getSagaByAggregateId e.aggregateId = w.db.getSagaByAggregateId e.aggregateId := by
      simp only [Db.getSagaByAggregateId, hv.1]
    rcases platform_exec_getSaga e.aggregateId o v with hx | ⟨err, hx⟩
    · rw [hx]
      rcases quiet (env.attempt attempt) with hr | ⟨err, hr⟩
      · simp only [After, hsaga, hr, Prog.ofExcept_ok, Prog.pure_bind]
        exact hv
      · simp only [After, hsaga, hr, Prog.ofExcept_error, Prog.throw_bind]
        exact hv
    · rw [hx]
      exact hv

/-- The run of `processEvent` once the switch has decided. -/
theorem processEvent_run {amb : Ambient} {e : EventEnvelope} {reaction : Reaction} {w : World}
    (readable : fitsText e.aggregateId = true)
    (h : react amb e (w.db.getSagaByAggregateId e.aggregateId) = .ok reaction) (past : List Call) :
    runSends sends (processEvent amb e) past w =
      runSends sends (SagaOrchestrator.perform amb e reaction) (.getSagaByAggregateId e.aggregateId :: past) w := by
  have answered : columnsFit (.getSagaByAggregateId e.aggregateId) w = true := readable
  rw [SagaOrchestrator.processEvent, runSends_await sends rfl answered]
  simp only [carryOut, h, Prog.ofExcept_ok, Prog.pure_bind]

/-- A transition saves its row and then sends. -/
theorem advance_run {amb : Ambient} {e : EventEnvelope} {row : SagaRow}
    {emissions : List (Except JsError Message)} {w : World} {types : List EventType}
    (h : react amb e (w.db.getSagaByAggregateId e.aggregateId) = .ok (.advance row emissions))
    (readable : fitsText e.aggregateId = true) (fits : row.fits = true)
    (owes : List.Forall₂ (Owes e.aggregateId) emissions types) (distinct : types.Nodup)
    {past : List Call} (none_sent : past.countP isSend = 0) :
    let r := runSends sends (processEvent amb e) past w
    ∃ news, r.state = { w with db := w.db.saveSagaInstance row, journal := news ++ .saved row :: w.journal } ∧
      (∀ saga, .saved saga ∉ news) ∧
      ((r.value = .ok () ∧ AllSent sends 0 emissions ∧ ∀ t ∈ types, Acknowledged e.aggregateId t news) ∨
        ((∃ err, r.value = .error err) ∧ ¬AllSent sends 0 emissions ∧
          ∃ t ∈ types, ¬Acknowledged e.aggregateId t news)) := by
  intro r
  have saves : columnsFit (.saveSagaInstance row) w = true := fits
  have hr : r = runSends sends (sendAll emissions)
      (.saveSagaInstance row :: .getSagaByAggregateId e.aggregateId :: past) (w.saveSaga row) := by
    simp only [r]
    rw [processEvent_run sends readable h, SagaOrchestrator.perform, runSends_await sends rfl saves]
    rfl
  have hcount : (Call.saveSagaInstance row :: .getSagaByAggregateId e.aggregateId :: past).countP isSend = 0 := by
    simpa [isSend] using none_sent
  obtain ⟨news, hstate, hsaved, hcase⟩ := sendAll_run sends owes distinct
    (.saveSagaInstance row :: .getSagaByAggregateId e.aggregateId :: past) (w.saveSaga row)
  rw [hcount] at hcase
  rw [hr]
  exact ⟨news, hstate, hsaved, hcase⟩

/-- The barrier update of a stored saga that is compensating. -/
theorem barrier_of_stored {orderId : String} {s : SagaRow} {w : World} (hk : w.db.WellKeyed)
    (hs : w.db.getSagaByAggregateId orderId = some s) (hstate : s.state = .compensating) (action correlationId : String) :
    executeBarrierUpdate s action correlationId w.db =
      (some (barrierRow s orderId action correlationId), cancelNotice s action) := by
  simp only [executeBarrierUpdate, (getSaga_eq_some hk hs).1, hs, Option.getD_some, hstate, if_true]

/-- A barrier update saves the row of the saga it was called for. -/
theorem barrier_run {amb : Ambient} {e : EventEnvelope} {s : SagaRow} {action : String} {w : World}
    (hk : w.db.WellKeyed) (hs : w.db.getSagaByAggregateId e.aggregateId = some s) (hstate : s.state = .compensating)
    (h : react amb e (w.db.getSagaByAggregateId e.aggregateId) = .ok (.compensate s action))
    (readable : fitsText e.aggregateId = true)
    (fits : columnsFit (.compensationBarrier s action e.correlationId) w = true)
    {past : List Call} (none_sent : past.countP isSend = 0) :
    let r := runSends sends (processEvent amb e) past w
    let row := barrierRow s e.aggregateId action e.correlationId
    ∃ news, r.state = { w with db := w.db.saveSagaInstance row, journal := news ++ .saved row :: w.journal } ∧
      (∀ saga, .saved saga ∉ news) ∧
      ((r.value = .ok () ∧ (allCompensationsCompleted s.context action = true →
          sends 0 = .ok ∧ Acknowledged e.aggregateId .orderCancelled news)) ∨
        ((∃ err, r.value = .error err) ∧ allCompensationsCompleted s.context action = true ∧ sends 0 ≠ .ok ∧
          ¬Acknowledged e.aggregateId .orderCancelled news)) := by
  intro r row
  obtain ⟨hagg, hid⟩ := getSaga_eq_some hk hs
  have barrier := barrier_of_stored hk hs hstate action e.correlationId
  have carried : carryOut .none (.compensationBarrier s action e.correlationId) true w =
      (cancelNotice s action, w.saveSaga row) := by
    simp only [carryOut, barrier, row]
  have hr : (cancelNotice s action = none → r = runSends sends (pure ())
        (.compensationBarrier s action e.correlationId :: .getSagaByAggregateId e.aggregateId :: past)
        (w.saveSaga row)) ∧
      ∀ notice, cancelNotice s action = some notice → r = runSends sends
        (await (.send (orderCancelled amb e s.aggregateId notice)))
        (.compensationBarrier s action e.correlationId :: .getSagaByAggregateId e.aggregateId :: past)
        (w.saveSaga row) := by
    simp only [r]
    rw [processEvent_run sends readable h, SagaOrchestrator.perform, handleCompensationCompletion,
      runSends_await sends rfl fits, carried]
    constructor
    · intro silent
      rw [silent]
    · intro notice noticed
      rw [noticed]
  have hcount : (Call.compensationBarrier s action e.correlationId :: .getSagaByAggregateId e.aggregateId ::
      past).countP isSend = 0 := by
    simpa [isSend] using none_sent
  cases hall : allCompensationsCompleted s.context action with
  | false =>
    have hnone : cancelNotice s action = none := by simp [cancelNotice, hall]
    rw [hr.1 hnone]
    exact ⟨[], rfl, by simp, .inl ⟨rfl, fun h => by cases h⟩⟩
  | true =>
    obtain ⟨notice, hsome⟩ : ∃ notice, cancelNotice s action = some notice := by simp [cancelNotice, hall]
    have carries : (orderCancelled amb e s.aggregateId notice).Carries .orderCancelled e.aggregateId :=
      ⟨hagg, _, rfl, rfl, hagg⟩
    rw [hr.2 notice hsome]
    simp only [runSends, run_await, sendFaults, hcount]
    rcases platform_exec_send (orderCancelled amb e s.aggregateId notice) (sends 0) (w.saveSaga row) with
      ⟨ho, hx⟩ | ⟨ho, err, hx⟩ | ⟨ho, err, hx⟩
    · rw [hx]
      exact ⟨[_], rfl, by simp, .inl ⟨rfl, fun _ => ⟨ho, _, by simp, carries⟩⟩⟩
    · rw [hx]
      refine ⟨[], rfl, by simp, .inr ⟨⟨err, rfl⟩, trivial, ho, ?_⟩⟩
      rintro ⟨m, hm, -⟩
      cases hm
    · rw [hx]
      refine ⟨[.sent _ false], rfl, by simp, .inr ⟨⟨err, rfl⟩, trivial, ho, ?_⟩⟩
      rintro ⟨m, hm, -⟩
      simp at hm

theorem reported_owes {e : EventEnvelope} {action : String} (ha : reported e.eventType = some action)
    (saga : Option SagaRow) :
    sendsOwed e.eventType = 1 ∧ owed e.eventType .cancelled = [.orderCancelled] ∧ Addressed e saga := by
  cases he : e.eventType <;> simp [he, reported] at ha
  all_goals exact ⟨rfl, rfl, addressed_of_ne (by simp [he]) saga⟩

theorem acknowledged_append {orderId : String} {t : EventType} {news : List Entry} {row : SagaRow} :
    Acknowledged orderId t (news ++ [.saved row]) ↔ Acknowledged orderId t news := by
  simp [Acknowledged]

/-- A journal with one save in it. -/
theorem commandsSent_iff {e : EventEnvelope} {before : Option SagaRow} {news : List Entry} {row : SagaRow}
    (hsaved : ∀ saga, .saved saga ∉ news) (changed : before.map SagaRow.state ≠ some row.state) :
    CommandsSent e before (news ++ [.saved row]) ↔
      ∀ t ∈ owed e.eventType row.state, Acknowledged e.aggregateId t news := by
  simp only [CommandsSent, acknowledged_append]
  constructor
  · exact fun h => h row (by simp) changed
  · intro h saga hsaga _
    rcases List.mem_append.mp hsaga with hm | hm
    · exact absurd hm (hsaved saga)
    · obtain rfl : saga = row := by simpa using hm
      exact h

/-- After a transition its own event is ignored. -/
theorem react_after_save {e : EventEnvelope} {row : SagaRow} {db : Db} (hk : db.WellKeyed) (hrow : row.Keyed)
    (hagg : row.aggregateId = e.aggregateId) (settled : transition e.eventType (some row.state) = none)
    (silent : reported e.eventType = none ∨ row.state ≠ .compensating) (amb : Ambient) :
    react amb e ((db.saveSagaInstance row).getSagaByAggregateId e.aggregateId) = .ok .ignore := by
  rw [getSaga_save hk hrow, if_pos hagg.symm]
  refine react_ignores settled (silent.imp id fun h => ?_)
  simpa [SagaRow.mergedInto] using h

/-- An event that is recorded already leaves everything as it is. -/
theorem seen_run {env : Surroundings} {message : EachMessagePayload} {e : EventEnvelope} {w : World}
    (seen : w.db.isEventProcessed e.eventId consumerName = true) (hj : w.journal = []) :
    CommandsSent e (w.db.getSagaByAggregateId e.aggregateId)
      (runSends sends (sagaOrchestrator.handleEnvelope env message e) [] w).state.journal := by
  have same : (runSends sends (sagaOrchestrator.handleEnvelope env message e) [] w).state = w := by
    cases asked : columnsFit (.isEventProcessed e.eventId sagaOrchestrator.consumerName) w with
    | true =>
      rw [Consumer.handleEnvelope, runSends_await sends rfl asked]
      change (runSends sends (if w.db.isEventProcessed e.eventId consumerName = true then _ else _) _ w).state = w
      rw [if_pos seen]
      rfl
    | false => rw [Consumer.handleEnvelope, runSends_refused sends rfl asked]
  rw [same, hj]
  intro saga saved
  cases saved

/-! ## The retry loop -/

/-- What an attempt leaves behind: nothing if the columns refuse its save, and
otherwise a saved saga, with all commands sent or with one lost that no later
attempt sends. -/
inductive Attempted (e : EventEnvelope) (w : World) (taken sent : Prop) (r : Ran JsError World Call Unit) : Prop
  | refused (untaken : ¬taken) (throws : ∃ err, r.value = .error err) (unchanged : r.state = w)
    (none_sent : r.past.countP isSend = 0)
  | sent (accepted : taken) (returns : r.value = .ok ()) (all : sent)
    (commands : CommandsSent e (w.db.getSagaByAggregateId e.aggregateId) r.state.journal)
  | lost (accepted : taken) (throws : ∃ err, r.value = .error err) (some : ¬sent)
    (unmarked : r.state.db.processedEvents = w.db.processedEvents)
    (commands : ¬CommandsSent e (w.db.getSagaByAggregateId e.aggregateId) r.state.journal)
    (readable : fitsText e.aggregateId = true)
    (ignored : ∀ amb, react amb e (r.state.db.getSagaByAggregateId e.aggregateId) = .ok .ignore)

/-- The calls of a handler other than its own mark leave its event unprocessed. -/
theorem keeps_unprocessed {eventId : String} {c : Call}
    (h : ∀ acked w, w.db.isEventProcessed eventId consumerName = false →
      (carryOut .none c acked w).2.db.isEventProcessed eventId consumerName = false) :
    Keeps (platform .none) (Contract.alone JsError World Call)
      (fun w => w.db.isEventProcessed eventId consumerName = false) c := by
  intro o w _ unprocessed
  refine ⟨trivial, ?_⟩
  rw [platform_exec_state]
  split
  · exact h _ w unprocessed
  · exact unprocessed

theorem keeps_unprocessed_persist (eventId : String) (dlq : DlqMessage) (marksFailed : Bool) (outboxId : String) :
    Keeps (platform .none) (Contract.alone JsError World Call)
      (fun w => w.db.isEventProcessed eventId consumerName = false) (.persistDeadLetter dlq marksFailed outboxId) := by
  refine keeps_unprocessed fun _ w unprocessed => ?_
  cases marksFailed with
  | false => exact unprocessed
  | true =>
    by_cases same : (eventId, consumerName) = (dlq.eventId, dlq.consumerName)
    · obtain ⟨sameEvent, sameName⟩ := Prod.mk.inj same
      rw [sameEvent, sameName]
      exact isEventProcessed_markEventProcessed (w.db.recordDLQMessage dlq w.clock) dlq.eventId dlq.consumerName .failed
        (some dlq.errorMessage) w.clock
    · exact (isEventProcessed_mark_other (w.db.recordDLQMessage dlq w.clock) same .failed (some dlq.errorMessage)
        w.clock).trans unprocessed

theorem run_unprocessed {p : Program Unit} {w : World} {eventId : String}
    (h : Safe (platform .none) (Contract.alone JsError World Call)
      (fun _ w => w.db.isEventProcessed eventId consumerName = false) p w) (past : List Call) :
    (runSends sends p past w).state.db.isEventProcessed eventId consumerName = false :=
  safe_run (fun _ => rfl) (fun _ _ _ => trivial) past h

/-- Exhausted retries do not record the event. -/
theorem exhausted_unprocessed (env : Surroundings) (message : EachMessagePayload) {e : EventEnvelope} (err : JsError)
    (attempts : Nat) (past : List Call) {w : World} (unprocessed : w.db.isEventProcessed e.eventId consumerName = false) :
    (runSends sends (sagaOrchestrator.handleExhaustedRetriesDLQ env message e err attempts) past w).state.db.isEventProcessed
      e.eventId consumerName = false := by
  apply run_unprocessed
  refine sagaOrchestrator.publishDeadLetter_safe (fun _ _ same h => same ▸ h) _ _ _ ?_ ?_ ?_ unprocessed
  · exact keeps_unprocessed_persist e.eventId _ _ _
  · exact keeps_unprocessed fun _ _ h => h
  · exact keeps_unprocessed fun _ _ h => h

/-- An event whose mark the columns refuse is never recorded. -/
theorem unfit_unprocessed (env : Surroundings) (message : EachMessagePayload) {e : EventEnvelope} {w : World}
    (unfit : ¬KeyFits consumerName e) (unprocessed : w.db.isEventProcessed e.eventId consumerName = false) :
    (runSends sends (sagaOrchestrator.handleEnvelope env message e) [] w).state.db.isEventProcessed e.eventId
      consumerName = false := by
  have stable : ∀ v v' : World, v = v' → v.db.isEventProcessed e.eventId consumerName = false →
      v'.db.isEventProcessed e.eventId consumerName = false := fun _ _ same h => same ▸ h
  have base : ∀ call, BaseCall consumerName call → Keeps (platform .none) (Contract.alone JsError World Call)
      (fun v => v.db.isEventProcessed e.eventId consumerName = false) call := by
    intro call hcall
    cases hcall with
    | dedup | send | published => exact keeps_unprocessed fun _ _ h => h
    | persist dlq marksFailed outboxId => exact keeps_unprocessed_persist e.eventId dlq marksFailed outboxId
    | mark eventId =>
      by_cases same : eventId = e.eventId
      · intro o v _ h
        have refused : columnsFit (.markEventProcessed eventId consumerName) v = false :=
          Bool.eq_false_iff.mpr fun fits => unfit (by simpa [columnsFit, KeyFits, same] using fits)
        rw [platform_exec_state, refused, Bool.and_false]
        exact ⟨trivial, h⟩
      · exact keeps_unprocessed fun _ v h =>
          (isEventProcessed_mark_other v.db (fun key => same (Prod.mk.inj key).1.symm) .processed none v.clock).trans h
  refine run_unprocessed sends
    (sagaOrchestrator.handleEnvelope_safe env message e stable base (fun attempt v h => ?_) unprocessed) []
  have calls : (processEvent (env.attempt attempt) e).Calls fun c => ∀ acked v,
      v.db.isEventProcessed e.eventId consumerName = false →
      (carryOut .none c acked v).2.db.isEventProcessed e.eventId consumerName = false := by
    refine processEvent_calls (fun _ _ h => h) (fun _ _ _ h => h) (fun s action _ v h => ?_) fun _ _ _ _ h => h
    simp only [carryOut]
    split <;> exact h
  exact Safe.of_calls stable (fun c hc => keeps_unprocessed hc) calls h

/-- An attempt whose `processEvent` returned marks the event. -/
theorem retryLoop_returns {env : Surroundings} {message : EachMessagePayload} {e : EventEnvelope}
    (key : KeyFits consumerName e) {left attempt : Nat} {lastError : Option JsError} {past : List Call} {w : World}
    (h : (runSends sends (processEvent (env.attempt (attempt + 1)) e) past w).value = .ok ()) :
    let s := (runSends sends (processEvent (env.attempt (attempt + 1)) e) past w).state
    (runSends sends (sagaOrchestrator.retryLoop env message e (left + 1) attempt lastError) past w).state =
      { s with db := s.db.markEventProcessed e.eventId consumerName .processed none s.clock } := by
  intro s
  have marks : columnsFit (.markEventProcessed e.eventId consumerName) s = true := by
    simpa [columnsFit, KeyFits] using key
  have tried : ∃ past', runSends sends (sagaOrchestrator.tryProcess env (attempt + 1) e) past w =
      ⟨.ok (), { s with db := s.db.markEventProcessed e.eventId consumerName .processed none s.clock }, past'⟩ := by
    simp only [runSends, Consumer.tryProcess, sagaOrchestrator, run_bind, Ran.andThen]
    simp only [runSends] at h
    rw [h]
    simp only [run_await]
    have exec := platform_exec_ok .none marks
    simp only [sendFaults]
    rw [exec]
    exact ⟨_, rfl⟩
  obtain ⟨past', tried⟩ := tried
  simp only [runSends] at tried ⊢
  rw [Consumer.retryLoop, run_bind, run_settle, tried]
  rfl

theorem retryLoop_throws {env : Surroundings} {message : EachMessagePayload} {e : EventEnvelope}
    {left attempt : Nat} {lastError : Option JsError} {past : List Call} {w : World} {err : JsError}
    (h : (runSends sends (processEvent (env.attempt (attempt + 1)) e) past w).value = .error err) :
    let r := runSends sends (processEvent (env.attempt (attempt + 1)) e) past w
    runSends sends (sagaOrchestrator.retryLoop env message e (left + 1) attempt lastError) past w =
      runSends sends (sagaOrchestrator.retryLoop env message e left (attempt + 1) (some err)) r.past r.state := by
  intro r
  have tried : runSends sends (sagaOrchestrator.tryProcess env (attempt + 1) e) past w =
      ⟨.error err, r.state, r.past⟩ := by
    simp only [runSends, Consumer.tryProcess, sagaOrchestrator, run_bind, Ran.andThen]
    simp only [runSends] at h
    rw [h]
  simp only [runSends] at tried ⊢
  rw [Consumer.retryLoop, run_bind, run_settle, tried]
  rfl

/-- What remains of the retry loop loses a command exactly if a save is taken
before its last attempt and not everything is sent. -/
theorem retryLoop_sends {env : Surroundings} (message : EachMessagePayload) {e : EventEnvelope} {w : World}
    {taken : Nat → Prop} {sent : Prop} (key : KeyFits consumerName e)
    (unseen : w.db.isEventProcessed e.eventId consumerName = false)
    (attempts : ∀ i past, past.countP isSend = 0 →
      Attempted e w (taken i) sent (runSends sends (processEvent (env.attempt i) e) past w)) (left : Nat) :
    ∀ (attempt : Nat) (lastError : Option JsError) (past : List Call), past.countP isSend = 0 →
    let r := runSends sends (sagaOrchestrator.retryLoop env message e left attempt lastError) past w
    (r.state.db.isEventProcessed e.eventId consumerName = true →
      CommandsSent e (w.db.getSagaByAggregateId e.aggregateId) r.state.journal) ↔
      (∀ i, attempt < i → i < attempt + left → ¬taken i) ∨ sent := by
  induction left with
  | zero =>
    intro attempt lastError past _ r
    have unrecorded : r.state.db.isEventProcessed e.eventId consumerName = false := by
      simp only [r, Consumer.retryLoop]
      exact exhausted_unprocessed sends env message _ attempt past unseen
    simp only [unrecorded, Bool.false_eq_true, false_implies, true_iff]
    exact .inl fun i low high => absurd low (by omega)
  | succ left ih =>
    intro attempt lastError past none_sent r
    cases attempts (attempt + 1) past none_sent with
    | refused untaken throws unchanged still =>
      obtain ⟨err, throws⟩ := throws
      have later : r = _ := retryLoop_throws sends throws
      have rest := ih (attempt + 1) (some err) _ still
      rw [later, unchanged]
      refine rest.trans (or_congr ⟨fun h i low high => ?_, fun h i low high => h i (by omega) (by omega)⟩ Iff.rfl)
      by_cases first : i = attempt + 1
      · exact first ▸ untaken
      · exact h i (by omega) (by omega)
    | sent accepted returns all commands =>
      have marked : r.state = _ := retryLoop_returns sends key returns
      rw [marked]
      exact ⟨fun _ => .inr all, fun _ _ => commands⟩
    | lost accepted throws some unmarked commands readable ignored =>
      obtain ⟨err, throws⟩ := throws
      have later : r = _ := retryLoop_throws sends throws
      cases left with
      | zero =>
        have unrecorded : r.state.db.isEventProcessed e.eventId consumerName = false := by
          rw [later, Consumer.retryLoop]
          exact exhausted_unprocessed sends env message _ (attempt + 1) _
            ((Db.isEventProcessed_congr unmarked _ _).trans unseen)
        simp only [unrecorded, Bool.false_eq_true, false_implies, true_iff]
        exact .inl fun i low high => absurd low (by omega)
      | succ left =>
        -- the next attempt finds the saga advanced, ignores the event and returns
        have again := processEvent_run sends readable (ignored (env.attempt (attempt + 2)))
          (runSends sends (processEvent (env.attempt (attempt + 1)) e) past w).past
        have returns : (runSends sends (processEvent (env.attempt (attempt + 2)) e)
            (runSends sends (processEvent (env.attempt (attempt + 1)) e) past w).past
            (runSends sends (processEvent (env.attempt (attempt + 1)) e) past w).state).value = .ok () := by
          rw [again]
          rfl
        have marked : r.state = _ := later ▸ retryLoop_returns sends key returns
        rw [again] at marked
        rw [marked]
        constructor
        · exact fun h => absurd (h (isEventProcessed_markEventProcessed ..)) commands
        · rintro (h | h)
          · exact absurd accepted (h (attempt + 1) (by omega) (by omega))
          · exact absurd h some

/-- An event that was not seen before goes through the retry loop. -/
theorem handled_sends (env : Surroundings) (message : EachMessagePayload) {e : EventEnvelope} {w : World}
    {taken : Nat → Prop} {sent : Prop} (key : KeyFits consumerName e)
    (unseen : w.db.isEventProcessed e.eventId consumerName = false)
    (attempts : ∀ i past, past.countP isSend = 0 →
      Attempted e w (taken i) sent (runSends sends (processEvent (env.attempt i) e) past w)) :
    let r := runSends sends (sagaOrchestrator.handleEnvelope env message e) [] w
    (r.state.db.isEventProcessed e.eventId consumerName = true →
      CommandsSent e (w.db.getSagaByAggregateId e.aggregateId) r.state.journal) ↔
      (∀ i, 1 ≤ i → i < sagaOrchestrator.maxRetries → ¬taken i) ∨ sent := by
  intro r
  have asked : columnsFit (.isEventProcessed e.eventId sagaOrchestrator.consumerName) w = true := by
    have fits : KeyFits sagaOrchestrator.consumerName e := key
    simp only [KeyFits, fitsVarchar, Bool.and_eq_true] at fits
    simp [columnsFit, fits]
  have start : r = runSends sends (sagaOrchestrator.retryLoop env message e sagaOrchestrator.maxRetries 0 none)
      [.isEventProcessed e.eventId consumerName] w := by
    simp only [r]
    rw [Consumer.handleEnvelope, runSends_await sends rfl asked]
    change runSends sends (if w.db.isEventProcessed e.eventId consumerName = true then _ else _) _ w = _
    rw [if_neg (by simp [unseen])]
    rfl
  have loop := retryLoop_sends sends message key unseen attempts sagaOrchestrator.maxRetries 0 none
    [.isEventProcessed e.eventId consumerName] (by simp [isSend])
  rw [← start, Nat.zero_add] at loop
  exact loop

/-! ## The attempts -/

theorem unreadable_run {amb : Ambient} {e : EventEnvelope} (unread : fitsText e.aggregateId = false) (past : List Call)
    (w : World) : runSends sends (processEvent amb e) past w =
      ⟨.error columnError, w, .getSagaByAggregateId e.aggregateId :: past⟩ := by
  have unanswered : columnsFit (.getSagaByAggregateId e.aggregateId) w = false := unread
  rw [SagaOrchestrator.processEvent, runSends_refused sends rfl unanswered]

/-- An attempt at a transition. -/
theorem advance_attempted {amb : Ambient} {e : EventEnvelope} {w : World} {row : SagaRow}
    {emissions : List (Except JsError Message)} {target : SagaState} {types : List EventType}
    (hk : w.db.WellKeyed) (hj : w.journal = [])
    (ht : transition e.eventType ((w.db.getSagaByAggregateId e.aggregateId).map SagaRow.state) = some (target, types))
    (h : react amb e (w.db.getSagaByAggregateId e.aggregateId) = .ok (.advance row emissions))
    (hadv : Advances e (w.db.getSagaByAggregateId e.aggregateId) target types row emissions)
    {past : List Call} (none_sent : past.countP isSend = 0) :
    let saga := w.db.getSagaByAggregateId e.aggregateId
    Attempted e w (TakesSave amb e saga) ((∀ k < sendsOwed e.eventType, sends k = .ok) ∧ Addressed e saga)
      (runSends sends (processEvent amb e) past w) := by
  intro saga
  obtain ⟨settled, unreported, changed, distinct⟩ := transition_target ht
  obtain ⟨howed, hlength⟩ := owed_transition ht
  have takes : TakesSave amb e saga ↔ row.fits = true := by simp only [TakesSave, saga, h]
  have allSent : AllSent sends 0 emissions ↔ (∀ k < sendsOwed e.eventType, sends k = .ok) ∧ Addressed e saga := by
    rw [AllSent, hadv.built, hadv.owes.length_eq, hlength]
    simp
  have hrow : row.Keyed := hadv.keyed fun s hs => (getSaga_eq_some hk hs).2
  rw [← hadv.state] at settled changed howed
  by_cases fits : row.fits = true
  · have readable : fitsText e.aggregateId = true := hadv.aggregateId ▸ readable_of_fits fits
    obtain ⟨news, hstate, hsaved, hcase⟩ := advance_run sends h readable fits hadv.owes distinct none_sent
    have commands : CommandsSent e saga (runSends sends (processEvent amb e) past w).state.journal ↔
        ∀ t ∈ types, Acknowledged e.aggregateId t news := by
      rw [hstate, hj, ← howed]
      exact commandsSent_iff hsaved changed
    rcases hcase with ⟨returns, all, acked⟩ | ⟨throws, some, t, ht, unsent⟩
    · exact .sent (takes.mpr fits) returns (allSent.mp all) (commands.mpr acked)
    · refine .lost (takes.mpr fits) throws (fun all => some (allSent.mpr all)) (by rw [hstate]; rfl)
        (fun acked => unsent (commands.mp acked t ht)) readable fun amb => ?_
      rw [hstate]
      exact react_after_save hk hrow hadv.aggregateId settled (.inl unreported) amb
  · have untaken : ¬TakesSave amb e saga := fun taken => fits (takes.mp taken)
    cases readable : fitsText e.aggregateId with
    | false =>
      rw [unreadable_run sends readable]
      exact .refused untaken ⟨_, rfl⟩ rfl (by simpa [isSend] using none_sent)
    | true =>
      have unfit : columnsFit (.saveSagaInstance row) w = false := Bool.eq_false_iff.mpr fits
      rw [processEvent_run sends readable h, SagaOrchestrator.perform, runSends_refused sends rfl unfit]
      exact .refused untaken ⟨_, rfl⟩ rfl (by simpa [isSend] using none_sent)

/-- An attempt at a barrier update. -/
theorem barrier_attempted (amb : Ambient) {e : EventEnvelope} {w : World} {s : SagaRow} {action : String}
    (hk : w.db.WellKeyed) (hj : w.journal = []) (hs : w.db.getSagaByAggregateId e.aggregateId = some s)
    (hcomp : s.state = .compensating) (ha : reported e.eventType = some action)
    {past : List Call} (none_sent : past.countP isSend = 0) :
    Attempted e w (TakesSave amb e (w.db.getSagaByAggregateId e.aggregateId))
      (allCompensationsCompleted s.context action = true → sends 0 = .ok)
      (runSends sends (processEvent amb e) past w) := by
  have h : react amb e (w.db.getSagaByAggregateId e.aggregateId) = .ok (.compensate s action) :=
    hs ▸ react_report hcomp ha
  set row := barrierRow s e.aggregateId action e.correlationId with hrow_eq
  have takes : TakesSave amb e (w.db.getSagaByAggregateId e.aggregateId) ↔ row.fits = true := by
    simp only [TakesSave, h, row]
  obtain ⟨hagg, hid⟩ := getSaga_eq_some hk hs
  have barrier : columnsFit (.compensationBarrier s action e.correlationId) w =
      (fitsText e.aggregateId && row.fits) := by
    simp only [columnsFit, barrier_of_stored hk hs hcomp, Option.all_some, hagg, row]
  by_cases fits : row.fits = true
  · have readable : fitsText e.aggregateId = true := (readable_of_fits fits : fitsText row.aggregateId = true)
    obtain ⟨news, hstate, hsaved, hcase⟩ := barrier_run sends hk hs hcomp h readable
      (by rw [barrier, readable, fits]; rfl) none_sent
    have howed := (reported_owes ha none).2.1
    rcases hcase with ⟨returns, sent⟩ | ⟨throws, met, unsent, unacked⟩
    · refine .sent (takes.mpr fits) returns (fun met => (sent met).1) ?_
      rw [hstate, hj]
      intro saved hsaved' changed
      rcases List.mem_append.mp hsaved' with hm | hm
      · exact absurd hm (hsaved saved)
      · obtain rfl : saved = row := by simpa using hm
        cases met : allCompensationsCompleted s.context action with
        | true =>
          have cancelled : row.state = .cancelled := by simp [row, barrierRow, met]
          rw [cancelled, howed]
          rintro t ht
          obtain rfl : t = .orderCancelled := by simpa using ht
          exact acknowledged_append.mpr (sent met).2
        | false =>
          have still : row.state = .compensating := by simp [row, barrierRow, met]
          rw [hs] at changed
          exact absurd (by simp [still, hcomp]) changed
    · have cancelled : row.state = .cancelled := by simp [row, barrierRow, met]
      have changed : (w.db.getSagaByAggregateId e.aggregateId).map SagaRow.state ≠ some row.state := by
        rw [hs, cancelled]
        simp [hcomp]
      have hkeyed : row.Keyed := barrierRow_keyed hid action e.correlationId
      refine .lost (takes.mpr fits) throws (fun all => unsent (all met)) (by rw [hstate]; rfl) ?_ readable fun amb => ?_
      · rw [hstate, hj, commandsSent_iff hsaved changed, cancelled, howed]
        exact fun acked => unacked (acked _ (by simp))
      · rw [hstate]
        exact react_after_save hk hkeyed rfl (by rw [cancelled]; exact transition_cancelled _) (.inr (by simp [cancelled]))
          amb
  · have untaken : ¬TakesSave amb e (w.db.getSagaByAggregateId e.aggregateId) := fun taken => fits (takes.mp taken)
    cases readable : fitsText e.aggregateId with
    | false =>
      rw [unreadable_run sends readable]
      exact .refused untaken ⟨_, rfl⟩ rfl (by simpa [isSend] using none_sent)
    | true =>
      have unfit : columnsFit (.compensationBarrier s action e.correlationId) w = false := by
        rw [barrier, Bool.eq_false_iff.mpr fits, Bool.and_false]
      rw [processEvent_run sends readable h, SagaOrchestrator.perform, handleCompensationCompletion,
        runSends_refused sends rfl unfit]
      exact .refused untaken ⟨_, rfl⟩ rfl (by simpa [isSend] using none_sent)

/-- A processed event that moved the saga had its commands acknowledged exactly
if the columns took no save before the last attempt, or the attempt whose save
they took could build and send all of them. -/
theorem commands_sent_iff (env : Surroundings) (message : EachMessagePayload) (e : EventEnvelope)
    (w : World) (hk : w.db.WellKeyed) (hj : w.journal = []) :
    let saga := w.db.getSagaByAggregateId e.aggregateId
    let r := runSends sends (sagaOrchestrator.handleEnvelope env message e) [] w
    (Registered consumerName e r.state.db → CommandsSent e saga r.state.journal) ↔
      w.db.isEventProcessed e.eventId consumerName = true ∨ ¬KeyHeld consumerName e ∨ ¬KeyFits consumerName e ∨
        ¬MovesSaga e saga ∨ (∀ i, 1 ≤ i → i < sagaOrchestrator.maxRetries → ¬TakesSave (env.attempt i) e saga) ∨
        (∀ k < sendsOwed e.eventType, sends k = .ok) ∧ Addressed e saga := by
  intro saga r
  have quiet : (∀ amb, react amb e saga = .ok .ignore ∨ ∃ err, react amb e saga = .error err) →
      CommandsSent e saga r.state.journal := fun h =>
    fun s hs => absurd hs (quiet_run sends h (by simp [hj]) s)
  by_cases held : KeyHeld consumerName e
  case neg => simp [Registered, held]
  by_cases key : KeyFits consumerName e
  case neg =>
    cases unseen : w.db.isEventProcessed e.eventId consumerName with
    | true => exact ⟨fun _ => .inl rfl, fun _ _ => seen_run sends unseen hj⟩
    | false =>
      have unrecorded := unfit_unprocessed sends env message key unseen
      simp [Registered, key, r, unrecorded]
  have recorded : Registered consumerName e r.state.db ↔ r.state.db.isEventProcessed e.eventId consumerName = true :=
    and_iff_right held
  rw [recorded]
  simp only [held, key, not_true_eq_false, false_or]
  cases unseen : w.db.isEventProcessed e.eventId consumerName with
  | true => exact ⟨fun _ => .inl rfl, fun _ _ => seen_run sends unseen hj⟩
  | false =>
    simp only [Bool.false_eq_true, false_or]
    cases ht : transition e.eventType (saga.map SagaRow.state) with
    | some step =>
      obtain ⟨target, types⟩ := step
      by_cases hw : Worded e
      · have moves : MovesSaga e saga := .inl ⟨by simp [ht], hw⟩
        simp only [moves, not_true_eq_false, false_or]
        refine handled_sends sends env message key unseen fun i past none_sent => ?_
        obtain ⟨row, emissions, hreact, hadv⟩ := react_of_transition (env.attempt i) ht hw
        exact advance_attempted sends hk hj ht hreact hadv none_sent
      · have still : ¬MovesSaga e saga := by
          rintro (⟨-, h⟩ | ⟨s, action, -, -, ha, -⟩)
          · exact hw h
          · rw [(transition_target ht).2.1] at ha
            cases ha
        simp only [still, not_false_eq_true, true_or, iff_true]
        exact fun _ => quiet fun amb => .inr (react_of_not_worded (by simp [ht]) hw)
    | none =>
      by_cases hrep : ∃ s action, saga = some s ∧ s.state = .compensating ∧ reported e.eventType = some action
      · obtain ⟨s, action, hs, hcomp, ha⟩ := hrep
        obtain ⟨hone, -, haddressed⟩ := reported_owes ha saga
        have moves_iff : MovesSaga e saga ↔ allCompensationsCompleted s.context action = true := by
          constructor
          · rintro (⟨h, -⟩ | ⟨s', action', hs', -, ha', hall⟩)
            · exact absurd ht h
            · obtain rfl : s' = s := by simpa [hs'] using hs
              obtain rfl : action' = action := by simpa [ha'] using ha
              exact hall
          · exact fun hall => .inr ⟨s, action, hs, hcomp, ha, hall⟩
        have loop := handled_sends sends env message key unseen fun i past none_sent =>
          barrier_attempted sends (env.attempt i) hk hj hs hcomp ha none_sent
        rw [moves_iff]
        simp only [hone, haddressed, and_true, Nat.lt_one_iff, forall_eq]
        refine loop.trans ⟨?_, ?_⟩
        · rintro (untaken | sent)
          · exact .inr (.inl untaken)
          · by_cases met : allCompensationsCompleted s.context action = true
            · exact .inr (.inr (sent met))
            · exact .inl met
        · rintro (unmet | untaken | sent)
          · exact .inr fun met => absurd met unmet
          · exact .inl untaken
          · exact .inr fun _ => sent
      · have ignored : ∀ amb, react amb e saga = .ok .ignore := fun amb => by
          rcases react_of_none ht with h | ⟨s, action, hs, hstate, ha, -⟩
          · exact h
          · exact absurd ⟨s, action, hs, hstate, ha⟩ hrep
        have still : ¬MovesSaga e saga := by
          rintro (⟨h, -⟩ | ⟨s, action, hs, hstate, ha, -⟩)
          · exact h ht
          · exact hrep ⟨s, action, hs, hstate, ha⟩
        simp only [still, not_false_eq_true, true_or, iff_true]
        exact fun _ => quiet fun amb => .inl (ignored amb)

end

/-- A first event of an order. -/
def sampleOrderCreated : EventEnvelope :=
  sampleEvent "evt_1" .orderCreated
    [ ("order_id", .str "ord_1"),
      ("user_id", .str "usr_1"),
      ("items", .arr [.obj [("sku", .str "sku_1"), ("name", .str "Pen"), ("price", .num 2), ("quantity", .num 3)]]),
      ("total_amount", .num 6) ]

def sampleMessage : EachMessagePayload := ⟨Topics.orders, 0, "0", none⟩

theorem commands_sent_sample :
    let saga := World.empty.db.getSagaByAggregateId sampleOrderCreated.aggregateId
    let r := runSends (fun _ => .ok)
      (sagaOrchestrator.handleEnvelope sampleEnvironment sampleMessage sampleOrderCreated) [] .empty
    Registered consumerName sampleOrderCreated r.state.db → CommandsSent sampleOrderCreated saga r.state.journal :=
  (commands_sent_iff (fun _ => .ok) sampleEnvironment sampleMessage sampleOrderCreated .empty empty_wellKeyed rfl).mpr
    (.inr (.inr (.inr (.inr (.inr ⟨fun _ _ => rfl, addressed_of_ne (by decide) _⟩)))))

def firstSendRefused (k : Nat) : Outcome JsError :=
  if k = 0 then .rejected { message := "timeout" } else .ok

def lostRun : Ran JsError World Call Unit :=
  runSends firstSendRefused
    (sagaOrchestrator.handleEnvelope sampleEnvironment sampleMessage sampleOrderCreated) [] .empty

def lostRow : SagaRow where
  sagaId := "saga_ord_1"
  aggregateId := "ord_1"
  sagaType := "ORDER_FULFILLMENT"
  state := .paymentPending
  currentStep := "PAYMENT"
  correlationId := "ord_1"
  context :=
    { orderId := some (.str "ord_1")
      userId := sampleOrderCreated.payload.get "user_id"
      totalAmount := sampleOrderCreated.payload.get "total_amount"
      items := sampleOrderCreated.payload.get "items"
      currency := some (.str "USD")
      shippingAddress := some (.obj [])
      createdAt := some (.str "2026-01-01T00:00:00.000Z") }
  failureReason := none

theorem lostRun_ends : lostRun.state.db.isEventProcessed sampleOrderCreated.eventId consumerName = true ∧
    lostRun.state.journal = [.saved lostRow] := by
  decide +kernel

/-- The broker refuses one send, and the order waits for a payment nobody requested. -/
theorem commands_lost : ¬∀ (sends : Nat → Outcome JsError) (env : Surroundings)
    (message : EachMessagePayload) (e : EventEnvelope) (w : World), w.db.WellKeyed → w.journal = [] →
    let r := runSends sends (sagaOrchestrator.handleEnvelope env message e) [] w
    Registered consumerName e r.state.db → CommandsSent e (w.db.getSagaByAggregateId e.aggregateId) r.state.journal := by
  intro h
  obtain ⟨processed, journal⟩ := lostRun_ends
  have sent : CommandsSent sampleOrderCreated none lostRun.state.journal :=
    h firstSendRefused sampleEnvironment sampleMessage sampleOrderCreated .empty empty_wellKeyed rfl
      ⟨⟨by decide, by decide⟩, processed⟩
  rw [journal] at sent
  obtain ⟨m, hm, -⟩ := sent lostRow (by simp) (by simp) .paymentRequested (by decide)
  simp at hm

end Fulfillment
