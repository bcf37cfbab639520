import Fulfillment.Consumers.Handling
import Fulfillment.Contracts.RoundTrip
import Fulfillment.Contracts.Texts
import Fulfillment.Pipeline.ClosedSystem

/-!
# One handler at a time

However a machine restricts the ends of calls, if a call may succeed and who is
done may leave, then a component may handle an event that the broker took while
no one else is there. `handOn` takes an order from one component to the next.
-/

namespace Fulfillment

open Js Relational Effects

/-- The call succeeds. -/
def Fitting (c : Call) (o : Outcome JsError) (w : World) : Prop := o = .ok ∧ columnsFit c w = true

instance (c : Call) (o : Outcome JsError) (w : World) : Decidable (Fitting c o w) := inferInstanceAs (Decidable (_ ∧ _))

/-- The event that the call sends, if it does, has a new identifier. -/
def Call.sendsNew (c : Call) (w : World) : Bool :=
  match c with
  | .send ⟨_, _, .event e⟩ =>
    w.journal.all (fun entry =>
      match entry with
      | .sent ⟨_, _, .event e'⟩ _ => e'.eventId != e.eventId
      | _ => true) &&
    w.db.outboxEvents.rows.all fun row => row.id != e.eventId
  | _ => true

/-- The call succeeds, and sends nothing that was sent before. -/
def Careful (c : Call) (o : Outcome JsError) (w : World) : Prop := Fitting c o w ∧ c.sendsNew w = true

instance (c : Call) (o : Outcome JsError) (w : World) : Decidable (Careful c o w) := inferInstanceAs (Decidable (_ ∧ _))

/-- The machine runs the components. Calls that succeed are among those it considers, and who is done may leave. -/
structure Runs {ι : Type} (M : Machine JsError World Answer ι Work Unit) (components : ι → Component)
    (read : Surroundings → Prop) : Prop where
  semantics : M.semantics = platform .none
  body : ∀ i work, M.body i work = (components i).perform work
  sweeps : ∀ i w, M.startable i .sweep w
  delivers : ∀ i env message e w, read env → message.topic ∈ (components i).topics → Delivers w message e →
    M.startable i (.deliver env message) w
  relays : ∀ i w c o s, (components i).consumer = none → Fitting c o s → M.allowed i w c o s
  consumers : ∀ i w c o s, Careful c o s → M.allowed i w c o s
  leaves : ∀ i w, w.rest.Finished → M.leaves i w

section
variable {ι : Type} [DecidableEq ι] {M : Machine JsError World Answer ι Work Unit} {components : ι → Component}
  {read : Surroundings → Prop} (runs : Runs M components read)
include runs

/-- A component that handles an event which the broker took, no one else being there. -/
theorem handed_steps {w : World} {m : Message} {acked : Bool} {e : EventEnvelope}
    (sent : .sent m acked ∈ w.journal) (value : m.value = .event e) (valid : e.Valid) (writable : e.toJson.Writable)
    (finite : e.written = e) {i : ι}
    {c : Consumer} (consumer : (components i).consumer = some c) (topic : m.topic ∈ (components i).topics)
    {env : Surroundings} (reads : read env) :
    let message : EachMessagePayload := ⟨m.topic, 0, "0", some e.toJson.stringify⟩
    (c.handleEnvelope env message e).Within (platform .none) (fun _ _ => .ok) Careful [] w →
    Relation.ReflTransGen (PoolStep M) ⟨w, fun _ => none⟩
      ⟨((c.handleEnvelope env message e).run (platform .none) (fun _ _ => .ok) [] w).state, fun _ => none⟩ := by
  intro message within
  have written : Json.parse e.toJson.stringify = some e.toJson := by
    rw [Json.parse_stringify writable, e.toJson_written, finite]
  have startable : M.startable i (.deliver env message) w :=
    runs.delivers i env message e w reads topic ⟨m, acked, _, sent, rfl, value, rfl, written⟩
  have body : M.body i (.deliver env message) = c.handleEnvelope env message e := by
    rw [runs.body]
    simp only [Component.perform, consumer]
    exact Consumer.handleMessage_of_parsed (by rw [← finite]; exact valid.reads writable env.uuid env.now)
  rw [← body, ← runs.semantics] at within ⊢
  exact M.steps_alone i _ startable Careful (runs.consumers i) (runs.leaves i) _ within

/-- A relay that sweeps while no one else is there. -/
theorem swept_steps {w : World} {i : ι} (relay : (components i).consumer = none)
    (within : ((components i).perform .sweep).Within (platform .none) (fun _ _ => .ok) Fitting [] w) :
    Relation.ReflTransGen (PoolStep M) ⟨w, fun _ => none⟩
      ⟨(((components i).perform .sweep).run (platform .none) (fun _ _ => .ok) [] w).state, fun _ => none⟩ := by
  rw [← runs.body, ← runs.semantics] at within ⊢
  exact M.steps_alone i .sweep (runs.sweeps i w) Fitting (fun w c o s => runs.relays i w c o s relay) (runs.leaves i) _
    within

end

/-! ## The newest event -/

def newestEvent : List Entry → Option (Message × Bool × EventEnvelope)
  | .sent ⟨topic, key, .event e⟩ acked :: _ => some (⟨topic, key, .event e⟩, acked, e)
  | _ :: journal => newestEvent journal
  | [] => none

theorem newestEvent_sent {journal : List Entry} {m : Message} {acked : Bool} {e : EventEnvelope}
    (h : newestEvent journal = some (m, acked, e)) : .sent m acked ∈ journal ∧ m.value = .event e := by
  fun_induction newestEvent journal with
  | case1 topic key e' acked' journal =>
    cases h
    exact ⟨List.mem_cons_self, rfl⟩
  | case2 entry journal other ih => exact ⟨List.mem_cons_of_mem _ (ih h).1, (ih h).2⟩
  | case3 => cases h

/-! ## An order that is cancelled -/

def fourComponents : Fin 4 → Component
  | 0 => .outboxRelay ⟨relayA, 50, 30⟩
  | 1 => .saga
  | 2 => .payment
  | 3 => .inventory

local instance fourNonzero : NeZero 4 := ⟨by decide⟩

/-- What is read besides the message in a turn: no two identifiers are the same, and chaos strikes the inventory. -/
def turnEnv (turn : Nat) (i : Fin 4) : Surroundings where
  now := "2026-01-05T10:00:00.000Z"
  uuid := "turn" ++ toString turn
  parseError := { message := "Unexpected token" }
  attempt n :=
    { now := fun _ => "2026-01-05T10:00:00.000Z"
      uuid := fun k => toString turn ++ "-" ++ toString n ++ "-" ++ toString k
      random := fun _ => 0
      shouldFail := i = 3 }
  dlqUuid := "turn" ++ toString turn
  failedAt := "2026-01-05T10:00:00.000Z"

/-- Hands the newest event to one component after the other. -/
def handOn : Nat → List (Fin 4) → World → Option World
  | _, [], w => some w
  | turn, i :: others, w => do
    let (m, _, e) ← newestEvent w.journal
    let c ← (fourComponents i).consumer
    let message : EachMessagePayload := ⟨m.topic, 0, "0", some e.toJson.stringify⟩
    let handling := c.handleEnvelope (turnEnv turn i) message e
    if e.Valid ∧ e.toJson.Writable ∧ e.written = e ∧ m.topic ∈ (fourComponents i).topics ∧
        handling.Within (platform .none) (fun _ _ => .ok) Careful [] w then
      handOn (turn + 1) others (handling.run (platform .none) (fun _ _ => .ok) [] w).state
    else none

/-- The world after the relay published the order. -/
def announcedOrder : World :=
  ((Component.perform (.outboxRelay ⟨relayA, 50, 30⟩) .sweep).run (platform .none) (fun _ _ => .ok) []
    { World.empty with db := (aliceCreates.createOrder 0 .allOk .empty).2 }).state

/-- The world after the saga asked for the payment. -/
def requestedOrder : World := (handOn 0 [1] announcedOrder).getD announcedOrder

/-- The world after the payment was authorized and the saga asked for the stock. -/
def reservingOrder : World := (handOn 1 [2, 1] requestedOrder).getD requestedOrder

/-- The payment is authorized, the reservation fails, and the payment is given back. -/
def cancelledOrder : World := (handOn 1 [2, 1, 3, 1, 2, 1] requestedOrder).getD requestedOrder

section
variable {M : Machine JsError World Answer (Fin 4) Work Unit} {read : Surroundings → Prop}
  (runs : Runs M fourComponents read)
include runs

theorem announced_steps :
    Relation.ReflTransGen (PoolStep M)
      ⟨{ World.empty with db := (aliceCreates.createOrder 0 .allOk .empty).2 }, fun _ => none⟩
      ⟨announcedOrder, fun _ => none⟩ :=
  swept_steps runs (i := 0) rfl (by decide +kernel)

variable (reads : ∀ turn i, read (turnEnv turn i))
include reads

theorem handOn_steps {turn : Nat} {turns : List (Fin 4)} {w w' : World} (h : handOn turn turns w = some w') :
    Relation.ReflTransGen (PoolStep M) ⟨w, fun _ => none⟩ ⟨w', fun _ => none⟩ := by
  induction turns generalizing turn w with
  | nil =>
    cases h
    exact .refl
  | cons i others ih =>
    rw [handOn] at h
    obtain ⟨⟨m, acked, e⟩, newest, h⟩ := Option.bind_eq_some_iff.mp h
    obtain ⟨c, consumer, h⟩ := Option.bind_eq_some_iff.mp h
    simp only at h
    split at h
    · rename_i fit
      obtain ⟨valid, writable, finite, topic, within⟩ := fit
      obtain ⟨sent, value⟩ := newestEvent_sent newest
      exact (handed_steps runs sent value valid writable finite consumer topic (reads turn i) within).trans (ih h)
    · cases h

theorem handOn_getD {turn : Nat} {turns : List (Fin 4)} {w : World} :
    Relation.ReflTransGen (PoolStep M) ⟨w, fun _ => none⟩
      ⟨(handOn turn turns w).getD w, fun _ => none⟩ := by
  cases done : handOn turn turns w with
  | none => exact .refl
  | some w' => exact handOn_steps runs reads done

end

/-- The order is cancelled, as its last event says. -/
theorem cancelledOrder_cancelled : (newestEvent cancelledOrder.journal).any fun sent =>
    decide (sent.2.2.eventType = .orderCancelled ∧ sent.2.2.aggregateId = aliceCreates.orderId) := by
  decide +kernel

theorem cancelledOrder_published : ∃ newer m acked earlier e, cancelledOrder.journal = newer ++ .sent m acked :: earlier ∧
    m.value = .event e ∧ e.eventType = .orderCancelled ∧ e.aggregateId = aliceCreates.orderId := by
  have cancelled := cancelledOrder_cancelled
  cases newest : newestEvent cancelledOrder.journal with
  | none =>
    rw [newest] at cancelled
    cases cancelled
  | some found =>
    obtain ⟨m, acked, e⟩ := found
    rw [newest] at cancelled
    obtain ⟨sent, value⟩ := newestEvent_sent newest
    obtain ⟨newer, earlier, journal⟩ := List.append_of_mem sent
    exact ⟨newer, m, acked, earlier, e, journal, value, of_decide_eq_true cancelled⟩

end Fulfillment
