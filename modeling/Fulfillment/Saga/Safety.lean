import Fulfillment.Saga.History
import Mathlib

/-!
# Safety of the saga over whole runs

`Facts` says what the state of a saga tells about its history: what was
accepted, what was emitted and what still may be. Every constructor of
`SagaLog` keeps it, and `saga_safety` reads the guarantees off.
-/

namespace Fulfillment

open Js Effects SagaOrchestrator

def SagaState.terminal : SagaState → Bool
  | .completed | .cancelled | .failed => true
  | _ => false

/-- No way forward is left. -/
def SagaState.closed (s : SagaState) : Bool := s = .compensating ∨ s.terminal

/-- The final event of a terminal state. -/
def SagaState.outcome : SagaState → Option EventType
  | .completed => some .orderCompleted
  | .failed => some .orderFailed
  | .cancelled => some .orderCancelled
  | _ => none

def outcomes : List EventType := [.orderCompleted, .orderFailed, .orderCancelled]

def forwardRequests : List EventType :=
  [.paymentRequested, .inventoryReservationRequested, .fraudCheckRequested, .shipmentRequested]

def compensationRequests : List EventType := [.paymentRefundRequested, .inventoryReleased]

/-- The events accepted on the way to a state, the last one first. -/
def acceptedBy : Option SagaState → List EventType
  | some .inventoryPending => [.paymentAuthorized]
  | some .fraudPending => [.inventoryReserved, .paymentAuthorized]
  | some .shippingPending => [.fraudApproved, .inventoryReserved, .paymentAuthorized]
  | some .completed => [.shipmentCreated, .fraudApproved, .inventoryReserved, .paymentAuthorized]
  | _ => []

/-- The messages a state may owe, in their order. -/
def mayEmit : Option SagaState → List EventType
  | some .paymentPending => [.paymentRequested]
  | some .inventoryPending => [.inventoryReservationRequested]
  | some .fraudPending => [.fraudCheckRequested]
  | some .shippingPending => [.shipmentRequested]
  | some .completed => [.orderCompleted, .notificationRequested]
  | some .failed => [.orderFailed]
  | some .compensating => [.inventoryReleased, .paymentRefundRequested]
  | some .cancelled => [.orderCancelled]
  | _ => []

/-- The events whose handling saved the saga, the last one first. -/
def accepted (log : List Logged) : List EventEnvelope :=
  log.filterMap fun
    | (e, .saved _) => some e
    | (_, .sent _ _) => none

def acceptedTypes (log : List Logged) : List EventType := (accepted log).map EventEnvelope.eventType

@[simp] theorem accepted_saved (e : EventEnvelope) (row : SagaRow) (log : List Logged) :
    accepted ((e, .saved row) :: log) = e :: accepted log := rfl

@[simp] theorem accepted_sent (e : EventEnvelope) (m : Message) (acked : Bool) (log : List Logged) :
    accepted ((e, .sent m acked) :: log) = accepted log := rfl

def timesLogged (orderId : String) (t : EventType) (log : List Logged) : Nat :=
  timesEmitted orderId t (log.map Prod.snd)

@[simp] theorem timesLogged_saved (orderId : String) (t : EventType) (e : EventEnvelope) (row : SagaRow)
    (log : List Logged) : timesLogged orderId t ((e, .saved row) :: log) = timesLogged orderId t log :=
  timesEmitted_saved orderId t row _

theorem carries_iff {m : Message} {t t' : EventType} {orderId : String} (h : m.Carries t orderId) :
    m.Carries t' orderId ↔ t = t' :=
  ⟨fun h' => h.eventType_unique h', fun ht => ht ▸ h⟩

theorem timesLogged_sent {orderId : String} {t : EventType} {m : Message} (h : m.Carries t orderId)
    (t' : EventType) (e : EventEnvelope) (acked : Bool) (log : List Logged) :
    timesLogged orderId t' ((e, .sent m acked) :: log) =
      timesLogged orderId t' log + if t = t' then 1 else 0 := by
  simp [timesLogged, carries_iff h]

/-! ## The tables agree with the machine -/

section

variable {t : EventType} {state : Option SagaState} {target : SagaState} {types : List EventType}

theorem acceptedBy_transition (h : transition t state = some (target, types)) :
    (acceptedBy (some target)).Sublist (t :: acceptedBy state) := by
  unfold transition at h
  split at h <;> cases h
  all_goals decide

theorem mayEmit_transition (h : transition t state = some (target, types)) :
    types <:+ mayEmit (some target) := by
  unfold transition at h
  split at h <;> cases h
  all_goals decide

theorem open_of_transition (h : transition t state = some (target, types)) : ∀ s ∈ state, s.closed = false := by
  unfold transition at h
  split at h <;> cases h
  all_goals simp [SagaState.closed, SagaState.terminal]

theorem outcome_count_transition (h : transition t state = some (target, types)) :
    ∀ t' ∈ outcomes, types.count t' ≤ if target.outcome = some t' then 1 else 0 := by
  unfold transition at h
  split at h <;> cases h
  all_goals decide

end

theorem forward_open (s : SagaState) :
    ∀ t ∈ forwardRequests, t ∈ mayEmit (some s) → s.closed = false := by
  cases s <;> decide

theorem compensation_closed (s : SagaState) : ∀ t ∈ compensationRequests, t ∈ mayEmit (some s) →
    s = .compensating := by
  cases s <;> decide

theorem owner_of_mayEmit (s : SagaState) :
    (.shipmentRequested ∈ mayEmit (some s) → s = .shippingPending) ∧
    (.orderCompleted ∈ mayEmit (some s) → s = .completed) := by
  cases s <;> decide

theorem outcome_of_terminal {s : SagaState} (h : s.closed = false) : s.outcome = none ∧ s.terminal = false := by
  cases s <;> first | exact ⟨rfl, rfl⟩ | cases h

theorem outcome_mem {s : SagaState} {t : EventType} (h : s.outcome = some t) : t ∈ outcomes := by
  cases s <;> cases h <;> decide

theorem outcome_inj {s s' : SagaState} {t : EventType} (h : s.outcome = some t) (h' : s'.outcome = some t) :
    s = s' := by
  cases s <;> cases h <;> cases s' <;> first | rfl | cases h'

theorem cancelled_owes : ∀ t ∈ outcomes, (mayEmit (some .cancelled)).count t ≤
    if (some SagaState.cancelled).bind SagaState.outcome = some t then 1 else 0 := by
  decide

/-! ## What a state tells -/

/-- What was done before an emission. -/
structure Preceded (orderId : String) (m : Message) (earlier : List Logged) : Prop where
  shipmentRequested : m.Carries .shipmentRequested orderId →
    [.fraudApproved, .inventoryReserved, .paymentAuthorized].Sublist (acceptedTypes earlier)
  orderCompleted : m.Carries .orderCompleted orderId →
    [.shipmentCreated, .fraudApproved, .inventoryReserved, .paymentAuthorized].Sublist (acceptedTypes earlier)
  forward : ∀ t ∈ forwardRequests, m.Carries t orderId →
    ∀ e row, (e, .saved row) ∈ earlier → row.state.closed = false

structure Facts (orderId : String) (state : Option SagaState) (types : List EventType) (log : List Logged) :
    Prop where
  owes : types <:+ mayEmit state
  path : (acceptedBy state).Sublist (acceptedTypes log)
  forward : (∀ s ∈ state, s.closed = false) → ∀ e row, (e, .saved row) ∈ log → row.state.closed = false
  outcome : ∀ t ∈ outcomes, timesLogged orderId t log + types.count t ≤
    if state.bind SagaState.outcome = some t then 1 else 0
  uncompensated : state ≠ some .compensating → state ≠ some .cancelled →
    ∀ t ∈ compensationRequests, timesLogged orderId t log = 0
  preceded : ∀ e m acked earlier, ((e, .sent m acked) :: earlier) <:+ log → Preceded orderId m earlier
  settled : ∀ e row earlier, ((e, .saved row) :: earlier) <:+ log → row.state.terminal = true →
    state = some row.state ∧ accepted log = e :: accepted earlier

section

variable {orderId : String} {state : Option SagaState} {types : List EventType} {log : List Logged}

theorem Facts.start (orderId : String) : Facts orderId none [] [] where
  owes := List.suffix_refl _
  path := .slnil
  forward _ _ _ h := absurd h List.not_mem_nil
  outcome _ _ := Nat.zero_le _
  uncompensated _ _ _ _ := rfl
  preceded _ _ _ _ h := absurd (List.suffix_nil.mp h) nofun
  settled _ _ _ h := absurd (List.suffix_nil.mp h) nofun

/-- No outcome was emitted before the saga is terminal. -/
theorem Facts.no_outcome (h : Facts orderId state types log) (hs : ∀ s ∈ state, s.outcome = none) :
    ∀ t ∈ outcomes, timesLogged orderId t log = 0 := by
  intro t ht
  have bound := h.outcome t ht
  have none_ : state.bind SagaState.outcome ≠ some t := by
    cases state with
    | none => nofun
    | some s => simp [hs s rfl]
  rw [if_neg none_] at bound
  omega

theorem Facts.preceded_saved (h : Facts orderId state types log) (e' : EventEnvelope) (row : SagaRow) :
    ∀ e m acked earlier, ((e, .sent m acked) :: earlier) <:+ ((e', .saved row) :: log) →
      Preceded orderId m earlier := by
  intro e m acked earlier hsuffix
  rcases List.suffix_cons_iff.mp hsuffix with heq | hsuffix
  · cases heq
  · exact h.preceded e m acked earlier hsuffix

/-- The first save of a terminal state is the last save. -/
theorem Facts.settled_saved (h : Facts orderId state types log) (hs : ∀ s ∈ state, s.terminal = false)
    (e' : EventEnvelope) (row' : SagaRow) :
    ∀ e row earlier, ((e, .saved row) :: earlier) <:+ ((e', .saved row') :: log) → row.state.terminal = true →
      some row'.state = some row.state ∧ accepted ((e', .saved row') :: log) = e :: accepted earlier := by
  intro e row earlier hsuffix terminal
  rcases List.suffix_cons_iff.mp hsuffix with heq | hsuffix
  · cases heq
    exact ⟨rfl, rfl⟩
  · have := hs row.state (h.settled e row earlier hsuffix terminal).1
    rw [terminal] at this
    cases this

theorem Facts.advance (h : Facts orderId state types log) {e : EventEnvelope} {row : SagaRow}
    {types' : List EventType} (moves : transition e.eventType state = some (row.state, types')) :
    Facts orderId (some row.state) types' ((e, .saved row) :: log) where
  owes := mayEmit_transition moves
  path := (acceptedBy_transition moves).trans (h.path.cons_cons _)
  forward hs e' row' hm := by
    rcases List.mem_cons.mp hm with heq | hm
    · cases heq
      exact hs _ rfl
    · exact h.forward (open_of_transition moves) e' row' hm
  outcome t ht := by
    have hs := open_of_transition moves
    rw [timesLogged_saved, h.no_outcome (fun s hs' => (outcome_of_terminal (hs s hs')).1) t ht, Nat.zero_add]
    exact outcome_count_transition moves t ht
  uncompensated _ _ t ht := by
    have hs := open_of_transition moves
    rw [timesLogged_saved]
    refine h.uncompensated (fun hc => ?_) (fun hc => ?_) t ht
    · exact absurd (hs _ hc) nofun
    · exact absurd (hs _ hc) nofun
  preceded := h.preceded_saved e row
  settled := h.settled_saved (fun s hs => (outcome_of_terminal (open_of_transition moves s hs)).2) e row

/-- A report to a saga that is compensating. -/
theorem Facts.report (h : Facts orderId (some .compensating) types log) {e : EventEnvelope} {row : SagaRow}
    {types' : List EventType} (owed : types' <:+ mayEmit (some row.state))
    (stays : row.state = .compensating ∧ types' = [] ∨ row.state = .cancelled) :
    Facts orderId (some row.state) types' ((e, .saved row) :: log) where
  owes := owed
  path := by
    rcases stays with ⟨hs, -⟩ | hs <;> rw [hs] <;> exact List.nil_sublist _
  forward hs := by
    have := hs _ rfl
    rcases stays with ⟨hc, -⟩ | hc <;> rw [hc] at this <;> cases this
  outcome t ht := by
    rw [timesLogged_saved, h.no_outcome (by simp [SagaState.outcome]) t ht, Nat.zero_add]
    rcases stays with ⟨hs, rfl⟩ | hs
    · exact Nat.zero_le _
    · have hcount : types'.count t ≤ (mayEmit (some row.state)).count t := owed.sublist.count_le t
      rw [hs] at hcount ⊢
      exact hcount.trans (cancelled_owes t ht)
  uncompensated hc hc' := by
    rcases stays with ⟨hs, -⟩ | hs
    · exact absurd (congrArg some hs) hc
    · exact absurd (congrArg some hs) hc'
  preceded := h.preceded_saved e row
  settled := h.settled_saved (by simp [SagaState.terminal]) e row

theorem Facts.emit {t : EventType} (h : Facts orderId state (t :: types) log) {m : Message}
    (carries : m.Carries t orderId) (e : EventEnvelope) (acked : Bool) :
    Facts orderId state types ((e, .sent m acked) :: log) := by
  have owed : t ∈ mayEmit state := h.owes.subset List.mem_cons_self
  obtain ⟨s, rfl⟩ : ∃ s, state = some s := by
    cases state with
    | none => simp [mayEmit] at owed
    | some s => exact ⟨s, rfl⟩
  refine ⟨(List.suffix_cons _ _).trans h.owes, h.path, fun hs e' row hm => ?_, fun t' ht' => ?_,
    fun hc hc' t' ht' => ?_, fun e' m' acked' earlier hsuffix => ?_, fun e' row earlier hsuffix terminal => ?_⟩
  · rcases List.mem_cons.mp hm with heq | hm
    · cases heq
    · exact h.forward hs e' row hm
  · have bound := h.outcome t' ht'
    rw [List.count_cons] at bound
    rw [timesLogged_sent carries]
    simpa [Nat.add_assoc, Nat.add_comm, Nat.add_left_comm] using bound
  · rw [timesLogged_sent carries, h.uncompensated hc hc' t' ht', if_neg]
    rintro rfl
    exact hc (congrArg some (compensation_closed s t ht' owed))
  · rcases List.suffix_cons_iff.mp hsuffix with heq | hsuffix
    · cases heq
      obtain ⟨shipping, completed⟩ := owner_of_mayEmit s
      constructor
      · intro hc
        obtain rfl := (carries_iff carries).mp hc
        obtain rfl := shipping owed
        exact h.path
      · intro hc
        obtain rfl := (carries_iff carries).mp hc
        obtain rfl := completed owed
        exact h.path
      · intro t' ht' hc
        obtain rfl := (carries_iff carries).mp hc
        exact h.forward (by simpa using forward_open s t ht' owed)
    · exact h.preceded e' m' acked' earlier hsuffix
  · rcases List.suffix_cons_iff.mp hsuffix with heq | hsuffix
    · cases heq
    · exact h.settled e' row earlier hsuffix terminal

theorem Facts.deadLetter (h : Facts orderId state types log) (e : EventEnvelope) (key : String) (p : DlqPayload)
    (acked : Bool) : Facts orderId state types ((e, .sent ⟨Topics.dlq, key, .deadLetter p⟩ acked) :: log) := by
  have silent : ∀ t, ¬(⟨Topics.dlq, key, .deadLetter p⟩ : Message).Carries t orderId := by
    rintro t ⟨-, e', he', -⟩
    cases he'
  have same : ∀ t, timesLogged orderId t ((e, .sent ⟨Topics.dlq, key, .deadLetter p⟩ acked) :: log) =
      timesLogged orderId t log := by
    intro t
    simp [timesLogged, silent]
  refine ⟨h.owes, h.path, fun hs e' row hm => ?_, fun t ht => ?_, fun hc hc' t ht => ?_,
    fun e' m acked' earlier hsuffix => ?_, fun e' row earlier hsuffix terminal => ?_⟩
  · rcases List.mem_cons.mp hm with heq | hm
    · cases heq
    · exact h.forward hs e' row hm
  · rw [same]
    exact h.outcome t ht
  · rw [same]
    exact h.uncompensated hc hc' t ht
  · rcases List.suffix_cons_iff.mp hsuffix with heq | hsuffix
    · cases heq
      exact ⟨fun hc => absurd hc (silent _), fun hc => absurd hc (silent _), fun t _ hc => absurd hc (silent t)⟩
    · exact h.preceded e' m acked' earlier hsuffix
  · rcases List.suffix_cons_iff.mp hsuffix with heq | hsuffix
    · cases heq
    · exact h.settled e' row earlier hsuffix terminal

theorem SagaLog.facts {saga : Option SagaRow} {owed : List (Except JsError Message)}
    (h : SagaLog orderId saga owed log) :
    ∃ types, List.Forall₂ (Owes orderId) owed types ∧ Facts orderId (saga.map SagaRow.state) types log := by
  induction h with
  | start => exact ⟨[], .nil, .start orderId⟩
  | advance amb e row emissions before about reacts ih =>
    obtain ⟨types, -, facts⟩ := ih
    obtain ⟨target, types', moves, ha⟩ := transition_of_react reacts
    obtain rfl := ha.state
    exact ⟨types', about ▸ ha.owes, facts.advance moves⟩
  | @report s owed log amb e action before about compensating reports ih =>
    obtain ⟨types, -, facts⟩ := ih
    rw [Option.map_some, compensating] at facts
    cases hall : allCompensationsCompleted s.context action with
    | false =>
      have state : (barrierRow s orderId action e.correlationId).state = .compensating := by
        simp [barrierRow, hall]
      exact ⟨[], by simp [cancelNotice, hall], facts.report (List.nil_suffix) (.inl ⟨state, rfl⟩)⟩
    | true =>
      have state : (barrierRow s orderId action e.correlationId).state = .cancelled := by
        simp [barrierRow, hall]
      have owes : List.Forall₂ (Owes orderId) ((cancelNotice s action).toList.map fun notice =>
          .ok (orderCancelled amb e orderId notice)) [.orderCancelled] := by
        simp only [cancelNotice, hall, if_true, Option.toList_some, List.map_cons, List.map_nil]
        exact .cons (owes_ok ⟨rfl, _, rfl, rfl, rfl⟩) .nil
      exact ⟨_, owes, facts.report (by rw [state]; exact List.suffix_refl _) (.inr state)⟩
  | emit e m acked before ih =>
    obtain ⟨types, howes, facts⟩ := ih
    cases howes with
    | cons hm howes => exact ⟨_, howes, facts.emit (hm _ rfl) e acked⟩
  | deadLetter e key p acked before ih =>
    obtain ⟨types, howes, facts⟩ := ih
    exact ⟨types, howes, facts.deadLetter e key p acked⟩

end

/-- An envelope of the order is delivered. Any call of its handling may fail,
also after it was carried out. -/
inductive Delivery (orderId : String) : SagaRun → SagaRun → Prop
  | deliver {r : SagaRun} (env : Surroundings) (message : EachMessagePayload) (e : EventEnvelope)
      (oracle : List Call → Call → Outcome JsError)
      (parsed : parseEnvelope env.uuid env.now (message.value.getD "") = some e)
      (about : e.aggregateId = orderId) :
    Delivery orderId r (r.after e (sagaOrchestrator.handleMessage env message) oracle)

theorem delivered {orderId : String} (r : SagaRun) {env : Surroundings} {message : EachMessagePayload}
    {e : EventEnvelope} (oracle : List Call → Call → Outcome JsError)
    (parsed : parseEnvelope env.uuid env.now (message.value.getD "") = some e) (about : e.aggregateId = orderId) :
    Delivery orderId r (r.after e (sagaOrchestrator.handleEnvelope env message e) oracle) := by
  rw [← Consumer.handleMessage_of_parsed parsed]
  exact .deliver env message e oracle parsed about

def deliveries (orderId : String) : System SagaRun where
  init := Untouched orderId
  step := Delivery orderId

theorem reachable_hasLog {orderId : String} {r : SagaRun} (h : Reachable (deliveries orderId) r) :
    HasLog orderId r := by
  refine h.invariant (HasLog orderId) ?_ ?_
  · exact fun r untouched => untouched.hasLog
  · rintro r r' - inv (step : Delivery orderId r r')
    cases step with
    | deliver env message e oracle parsed about => exact delivered_logged inv env message parsed about oracle

/-- Whatever is delivered and whatever fails: requests follow the acceptances
they rest on; nothing is accepted after a terminal state; at most one outcome is
emitted, that of the state; and compensations and forward requests exclude each
other as the states do. -/
theorem saga_safety {orderId : String} {r : SagaRun} (h : Reachable (deliveries orderId) r) :
    (∀ e m acked earlier, ((e, .sent m acked) :: earlier) <:+ r.log → Preceded orderId m earlier) ∧
    (∀ e row earlier, ((e, .saved row) :: earlier) <:+ r.log → row.state.terminal = true →
      (stored orderId r.world).map SagaRow.state = some row.state ∧ accepted r.log = e :: accepted earlier) ∧
    (timesEmitted orderId .orderCompleted r.world.journal + timesEmitted orderId .orderFailed r.world.journal +
      timesEmitted orderId .orderCancelled r.world.journal ≤ 1) ∧
    (∀ s t, SagaState.outcome s = some t → 0 < timesEmitted orderId t r.world.journal →
      (stored orderId r.world).map SagaRow.state = some s) ∧
    ((stored orderId r.world).map SagaRow.state = some .completed ∨
        (stored orderId r.world).map SagaRow.state = some .failed →
      timesEmitted orderId .paymentRefundRequested r.world.journal = 0 ∧
      timesEmitted orderId .inventoryReleased r.world.journal = 0) := by
  obtain ⟨-, hjournal, owed, hlog⟩ := reachable_hasLog h
  obtain ⟨types, -, facts⟩ := hlog.facts
  have logged : ∀ t, timesLogged orderId t r.log = timesEmitted orderId t r.world.journal := by
    intro t
    rw [timesLogged, hjournal]
  generalize (stored orderId r.world).map SagaRow.state = state at facts ⊢
  have bound : ∀ t ∈ outcomes, timesEmitted orderId t r.world.journal ≤
      if state.bind SagaState.outcome = some t then 1 else 0 :=
    fun t ht => (Nat.le_add_right _ _).trans (logged t ▸ facts.outcome t ht)
  refine ⟨facts.preceded, facts.settled, ?_, fun s t hs emitted => ?_, fun ended => ?_⟩
  · have completed := bound .orderCompleted (by decide)
    have failed := bound .orderFailed (by decide)
    have cancelled := bound .orderCancelled (by decide)
    rcases state with _ | s
    · simp at completed failed cancelled
      omega
    · cases s <;> simp [SagaState.outcome] at completed failed cancelled <;> omega
  · have emits : state.bind SagaState.outcome = some t := by
      by_contra hne
      have := bound t (outcome_mem hs)
      rw [if_neg hne] at this
      omega
    rcases state with _ | s'
    · cases emits
    · rw [outcome_inj hs emits]
  · have released : ∀ t ∈ compensationRequests, timesEmitted orderId t r.world.journal = 0 := by
      intro t ht
      rw [← logged]
      rcases ended with rfl | rfl <;> exact facts.uncompensated (by decide) (by decide) t ht
    exact ⟨released _ (by decide), released _ (by decide)⟩

def sampleText (eventId eventType : String) : EachMessagePayload where
  topic := "orders.events"
  partition := 0
  offset := "0"
  value := some ("\x7b\"event_id\":\"" ++ eventId ++ "\",\"event_type\":\"" ++ eventType ++
    "\",\"aggregate_id\":\"ord_1\",\"payload\":\x7b\x7d\x7d")

def undeliveredRun : SagaRun := ⟨.empty, []⟩

def createdRun : SagaRun :=
  undeliveredRun.after (sampleEvent "evt_1" .orderCreated [])
    (sagaOrchestrator.handleEnvelope sampleEnvironment (sampleText "evt_1" "OrderCreated")
      (sampleEvent "evt_1" .orderCreated [])) fun _ _ => .ok

def rejectedRun : SagaRun :=
  createdRun.after (sampleEvent "evt_2" .paymentRejected [])
    (sagaOrchestrator.handleEnvelope sampleEnvironment (sampleText "evt_2" "PaymentRejected")
      (sampleEvent "evt_2" .paymentRejected [])) fun _ _ => .ok

theorem sampleText_parsed :
    parseEnvelope sampleEnvironment.uuid sampleEnvironment.now ((sampleText "evt_1" "OrderCreated").value.getD "") =
      some (sampleEvent "evt_1" .orderCreated []) ∧
    parseEnvelope sampleEnvironment.uuid sampleEnvironment.now ((sampleText "evt_2" "PaymentRejected").value.getD "") =
      some (sampleEvent "evt_2" .paymentRejected []) := by
  decide +kernel

theorem rejectedRun_reachable : Reachable (deliveries "ord_1") rejectedRun := by
  obtain ⟨parsed₁, parsed₂⟩ := sampleText_parsed
  have start : Reachable (deliveries "ord_1") undeliveredRun := .start ⟨empty_wellKeyed, rfl, rfl, rfl⟩
  have created := delivered undeliveredRun (fun _ _ => .ok) parsed₁ rfl
  have rejected := delivered createdRun (fun _ _ => .ok) parsed₂ rfl
  exact (start.next created).next rejected

theorem saga_safety_sample : timesEmitted "ord_1" .orderFailed rejectedRun.world.journal = 1 ∧
    (stored "ord_1" rejectedRun.world).map SagaRow.state = some .failed ∧
    timesEmitted "ord_1" .paymentRefundRequested rejectedRun.world.journal = 0 := by
  obtain ⟨-, -, -, final, uncompensated⟩ := saga_safety rejectedRun_reachable
  have emitted : timesEmitted "ord_1" .orderFailed rejectedRun.world.journal = 1 := by decide +kernel
  have failed := final .failed .orderFailed rfl (by rw [emitted]; decide)
  exact ⟨emitted, failed, (uncompensated (.inr failed)).1⟩

end Fulfillment
