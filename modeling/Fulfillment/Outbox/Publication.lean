import Fulfillment.Outbox.Exclusivity
import Fulfillment.Outbox.Relay
import Mathlib

/-!
# A published row was really published

* `exec_evolves`: no call loses a row, changes its body or touches a row that
  is `PUBLISHED` or `FAILED`;
* `processBatch_safe`: a relay marks a row only after the broker acknowledged
  the row's own message;
* `published_rows_were_sent`: both, for all runs of all relays.
-/

namespace Fulfillment

open Js Relational Effects

/-- The row is not touched again. -/
def Leased.Settled {β : Type} (r : Leased β) : Prop := r.status = .published ∨ r.status = .failed

/-- What a row may become. -/
structure Leased.Follows {β : Type} (r r' : Leased β) : Prop where
  id : r'.id = r.id
  body : r'.body = r.body
  createdAt : r'.createdAt = r.createdAt
  settled : r.Settled → r' = r

theorem Leased.Follows.refl {β : Type} (r : Leased β) : r.Follows r := ⟨rfl, rfl, rfl, fun _ => rfl⟩

theorem Leased.Follows.trans {β : Type} {a b c : Leased β} (h : a.Follows b) (h' : b.Follows c) :
    a.Follows c where
  id := h'.id.trans h.id
  body := h'.body.trans h.body
  createdAt := h'.createdAt.trans h.createdAt
  settled hs := by
    obtain rfl := h.settled hs
    exact h'.settled hs

/-- Every row of the first table has its successor in the second. -/
def RowsFollow {β : Type} (t t' : LeaseTable β) : Prop := ∀ r ∈ t.rows, ∃ r' ∈ t'.rows, r.Follows r'

theorem rowsFollow_update {β : Type} {t : LeaseTable β} {p : Leased β → Bool} (f : Leased β → Leased β)
    (keeps : ∀ r, (f r).id = r.id) (body : ∀ r, (f r).body = r.body)
    (createdAt : ∀ r, (f r).createdAt = r.createdAt) (unsettled : ∀ r ∈ t.rows, p r = true → ¬r.Settled) :
    RowsFollow t (t.update p f keeps) := by
  intro r hr
  refine ⟨_, (Table.mem_update keeps).mpr ⟨r, hr, rfl⟩, ?_⟩
  split
  · rename_i hp
    exact ⟨keeps r, body r, createdAt r, fun hs => absurd hs (unsettled r hr hp)⟩
  · exact .refl r

theorem rowsFollow_insert {β : Type} (t : LeaseTable β) (id : String) (body : β) (now : Int) :
    RowsFollow t (insertPending id body now t) :=
  fun r hr => ⟨r, Table.mem_insertOrIgnore.mpr (.inl hr), .refl r⟩

theorem not_settled_of_held {β : Type} {r : Leased β} {id : String} {w : Option String}
    (h : r.heldBy id w = true) : ¬r.Settled := by
  have hstatus : r.status = .processing := (of_decide_eq_true h).2.1
  rintro (hs | hs) <;> rw [hstatus] at hs <;> cases hs

theorem not_settled_of_claimable {β : Type} {r : Leased β} {now : Int} (h : r.claimable now = true) :
    ¬r.Settled := by
  rintro (hs | hs) <;> simp [Leased.claimable, hs] at h

/-- A row picked by a claim is one of its targets. -/
theorem mem_targets {β : Type} {limit : Nat} {now : Int} {locked : String → Bool} {t : LeaseTable β}
    {r : Leased β} (hr : r ∈ t.rows) (h : r.id ∈ (claimTargets limit now locked t).map Leased.id) :
    r ∈ claimTargets limit now locked t := by
  obtain ⟨target, htarget, hid⟩ := List.mem_map.mp h
  obtain rfl := Table.eq_of_key (mem_claimTargets htarget).1 hr hid
  exact htarget

theorem rowsFollow_claim {β : Type} (t : LeaseTable β) (limit : Nat) (w : String) (d now : Int)
    (locked : String → Bool) : RowsFollow t (claimPending limit w d now locked t).2 := by
  refine rowsFollow_update (Leased.claim w d now) (fun _ => rfl) (fun _ => rfl) (fun _ => rfl) fun r hr hp => ?_
  exact not_settled_of_claimable (mem_claimTargets (mem_targets hr (of_decide_eq_true hp))).2

/-- What the world may become, as far as the outbox and the broker go. -/
structure Evolves (w w' : World) : Prop where
  rows : RowsFollow w.db.outboxEvents w'.db.outboxEvents
  journal : w.journal <:+ w'.journal

theorem Evolves.refl (w : World) : Evolves w w := ⟨fun r hr => ⟨r, hr, .refl r⟩, List.suffix_refl _⟩

theorem Evolves.trans {a b c : World} (h : Evolves a b) (h' : Evolves b c) : Evolves a c where
  rows r hr := by
    obtain ⟨r', hr', hf⟩ := h.rows r hr
    obtain ⟨r'', hr'', hf'⟩ := h'.rows r' hr'
    exact ⟨r'', hr'', hf.trans hf'⟩
  journal := h.journal.trans h'.journal

theorem Evolves.of_outboxEvents {w w' : World} (h : w'.db.outboxEvents = w.db.outboxEvents)
    (hj : w.journal <:+ w'.journal) : Evolves w w' :=
  ⟨by rw [h]; exact (Evolves.refl w).rows, hj⟩

theorem Elsewhere.evolves {w w' : World} (h : Elsewhere w w') : Evolves w w' := by
  rcases h.outboxEvents with hout | ⟨id, body, now, hout⟩
  · exact .of_outboxEvents hout h.journal
  · exact ⟨by rw [hout]; exact rowsFollow_insert _ _ _ _, h.journal⟩

theorem carryOut_evolves (c : Call) (acked : Bool) (w : World) :
    Evolves w (carryOut .none c acked w).2 := by
  cases c with
  | getPendingOutboxEvents limit workerId d =>
    exact ⟨rowsFollow_claim _ _ _ _ _ _, List.suffix_refl _⟩
  | markOutboxEventPublished id workerId =>
    exact ⟨rowsFollow_update (Leased.publish w.clock) (fun _ => rfl) (fun _ => rfl) (fun _ => rfl) fun _ _ => not_settled_of_held, List.suffix_refl _⟩
  | markOutboxEventFailed id error workerId =>
    exact ⟨rowsFollow_update (Leased.fail error) (fun _ => rfl) (fun _ => rfl) (fun _ => rfl) fun _ _ => not_settled_of_held, List.suffix_refl _⟩
  | send m => exact .of_outboxEvents rfl (List.suffix_cons _ _)
  | saveSagaInstance saga => exact .of_outboxEvents rfl (List.suffix_cons _ _)
  | compensationBarrier sagaParam completedAction correlationId =>
    rcases h : executeBarrierUpdate sagaParam completedAction correlationId w.db with ⟨_ | row, notice⟩
    · simp only [carryOut, h]
      exact .refl w
    · simp only [carryOut, h]
      exact .of_outboxEvents rfl (List.suffix_cons _ _)
  | persistDeadLetter dlq marksFailed outboxId =>
    cases marksFailed <;> exact .of_outboxEvents rfl (List.suffix_refl _)
  | _ => exact .of_outboxEvents rfl (List.suffix_refl _)

theorem exec_evolves (c : Call) (o : Outcome JsError) (w : World) :
    Evolves w ((platform .none).exec c o w).2 := by
  rw [platform_exec_state]
  split
  · exact carryOut_evolves ..
  · exact .refl w

/-- The message carries the row: its topic, its key, and in the envelope its
identifier and columns. -/
structure Message.Publishes (m : Message) (id : String) (body : OutboxBody) : Prop where
  topic : m.topic = body.topic
  key : m.key = body.aggregateId
  value : ∃ e, m.value = .event e ∧ e.eventId = id ∧ e.eventType = body.eventType ∧
    e.eventVersion = body.eventVersion ∧ e.aggregateId = body.aggregateId ∧
    e.aggregateType = body.aggregateType ∧ e.correlationId = body.correlationId ∧
    e.causationId = body.causationId ∧ e.payload = body.payload

theorem publishes_message (relay : OutboxRelay) (event : OutboxEventRow) :
    (relay.message event).Publishes event.id event.body :=
  ⟨rfl, rfl, _, rfl, rfl, rfl, rfl, rfl, rfl, rfl, rfl, rfl⟩

/-- The broker acknowledged a message of the row. -/
def WasSent (journal : List Entry) (id : String) (body : OutboxBody) : Prop :=
  ∃ m, .sent m true ∈ journal ∧ m.Publishes id body

def PublishedWereSent (w : World) : Prop :=
  ∀ row ∈ w.db.outboxEvents.rows, row.status = .published → WasSent w.journal row.id row.body

/-- A row the relay holds a copy of, possibly an old one. -/
def Known (event : OutboxEventRow) (w : World) : Prop :=
  ∃ row ∈ w.db.outboxEvents.rows, row.id = event.id ∧ row.body = event.body

theorem WasSent.evolves {w w' : World} (h : Evolves w w') {id : String} {body : OutboxBody}
    (hs : WasSent w.journal id body) : WasSent w'.journal id body := by
  obtain ⟨m, hm, hp⟩ := hs
  exact ⟨m, h.journal.subset hm, hp⟩

theorem Known.evolves {w w' : World} (h : Evolves w w') {event : OutboxEventRow} (hk : Known event w) :
    Known event w' := by
  obtain ⟨row, hrow, hid, hbody⟩ := hk
  obtain ⟨row', hrow', hf⟩ := h.rows row hrow
  exact ⟨row', hrow', hf.id.trans hid, hf.body.trans hbody⟩

/-- The row with the identifier of a known one has its body. -/
theorem Known.body_eq {w : World} {event row : OutboxEventRow} (hk : Known event w)
    (hrow : row ∈ w.db.outboxEvents.rows) (hid : row.id = event.id) : row.body = event.body := by
  obtain ⟨known, hknown, hkid, hkbody⟩ := hk
  obtain rfl := Table.eq_of_key hrow hknown (hid.trans hkid.symm)
  exact hkbody

/-- Others evolve the world; a relay also marks nothing that was not sent. -/
def relayContract : Contract JsError World Call where
  allowed _ _ _ := True
  rely := Evolves
  guar w w' := Evolves w w' ∧ (PublishedWereSent w → PublishedWereSent w')

/-- An update publishes only rows that were sent. -/
theorem publishedWereSent_update {w : World} {p : OutboxEventRow → Bool}
    (f : OutboxEventRow → OutboxEventRow) (keeps : ∀ r, (f r).id = r.id) {table : OutboxTable}
    (htable : table = w.db.outboxEvents.update p f keeps) (body : ∀ r, (f r).body = r.body)
    (sent : ∀ r ∈ w.db.outboxEvents.rows, p r = true → (f r).status = .published →
      WasSent w.journal r.id r.body)
    (h : PublishedWereSent w) :
    PublishedWereSent { w with db := { w.db with outboxEvents := table } } := by
  subst htable
  intro row hrow hstatus
  obtain ⟨old, hold, rfl⟩ := (Table.mem_update keeps).mp hrow
  by_cases hp : p old = true
  · simp only [hp, if_true] at hstatus ⊢
    rw [keeps, body]
    exact sent old hold hp hstatus
  · simp only [hp, if_false, Bool.false_eq_true] at hstatus ⊢
    exact h old hold hstatus

theorem guar_of_carryOut {c : Call} {o : Outcome JsError} {w : World}
    (h : PublishedWereSent w → PublishedWereSent (carryOut .none c (o = .ok) w).2) :
    relayContract.guar w ((platform .none).exec c o w).2 := by
  refine ⟨exec_evolves c o w, fun hw => ?_⟩
  rw [platform_exec_state]
  split
  · exact h hw
  · exact hw

theorem send_guar (m : Message) (o : Outcome JsError) (w : World) :
    relayContract.guar w ((platform .none).exec (.send m) o w).2 :=
  guar_of_carryOut fun hw row hrow hstatus =>
    (hw row hrow hstatus).evolves (carryOut_evolves (.send m) (o = .ok) w)

theorem claim_guar (limit : Nat) (worker : String) (d : Int) (o : Outcome JsError) (w : World) :
    relayContract.guar w ((platform .none).exec (.getPendingOutboxEvents limit worker d) o w).2 :=
  guar_of_carryOut (publishedWereSent_update (Leased.claim worker (d * 1000) w.clock) (fun _ => rfl) rfl
    (fun _ => rfl) fun _ _ _ hstatus => by cases hstatus)

theorem markFailed_guar (id error worker : String) (o : Outcome JsError) (w : World) :
    relayContract.guar w ((platform .none).exec (.markOutboxEventFailed id error worker) o w).2 := by
  refine guar_of_carryOut (publishedWereSent_update (Leased.fail error) (fun _ => rfl) rfl (fun _ => rfl)
    fun r _ _ hstatus => ?_)
  simp only [Leased.fail] at hstatus
  split at hstatus <;> cases hstatus

theorem markPublished_guar {event : OutboxEventRow} {w : World} (known : Known event w)
    (sent : WasSent w.journal event.id event.body) (worker : String) (o : Outcome JsError) :
    relayContract.guar w ((platform .none).exec (.markOutboxEventPublished event.id worker) o w).2 := by
  refine guar_of_carryOut (publishedWereSent_update (Leased.publish w.clock) (fun _ => rfl) rfl (fun _ => rfl)
    fun r hr held _ => ?_)
  have hid : r.id = event.id := (of_decide_eq_true held).1
  rw [hid, known.body_eq hr hid]
  exact sent

theorem exec_send_ok {m : Message} {o : Outcome JsError} {w : World}
    (h : ((platform .none).exec (.send m) o w).1 = .ok ()) :
    .sent m true ∈ ((platform .none).exec (.send m) o w).2.journal := by
  cases o with
  | ok => exact List.mem_cons_self
  | rejected err => cases h
  | unacked err => cases h

theorem mem_of_claimed {β : Type} {limit : Nat} {w : String} {d now : Int} {locked : String → Bool}
    {t : LeaseTable β} {r : Leased β} (h : r ∈ (claimPending limit w d now locked t).1) :
    r ∈ (claimPending limit w d now locked t).2.rows := by
  obtain ⟨target, htarget, rfl⟩ := List.mem_map.mp h
  have picked : target.id ∈ (claimTargets limit now locked t).map Leased.id := List.mem_map_of_mem htarget
  exact List.mem_map.mpr ⟨target, (mem_claimTargets htarget).1, if_pos (decide_eq_true picked)⟩

/-- The rows a claim returns are rows of the table it leaves. -/
theorem claimed_stored {limit : Nat} {worker : String} {d : Int} {o : Outcome JsError} {w : World}
    {rows : List OutboxEventRow}
    (h : ((platform .none).exec (.getPendingOutboxEvents limit worker d) o w).1 = .ok rows) :
    ∀ event ∈ rows,
      event ∈ ((platform .none).exec (.getPendingOutboxEvents limit worker d) o w).2.db.outboxEvents.rows := by
  rw [platform_exec_value] at h
  cases o with
  | rejected err => cases h
  | unacked err => cases h
  | ok =>
    rw [platform_exec_state]
    simp only [Outcome.acted, Bool.true_and] at h ⊢
    split at h
    · rename_i hfit
      obtain rfl := Except.ok.inj h
      rw [if_pos hfit]
      exact fun event hevent => mem_of_claimed hevent
    · cases h

theorem claimed_known {limit : Nat} {worker : String} {d : Int} {o : Outcome JsError} {w : World}
    {rows : List OutboxEventRow}
    (h : ((platform .none).exec (.getPendingOutboxEvents limit worker d) o w).1 = .ok rows) :
    ∀ event ∈ rows, Known event ((platform .none).exec (.getPendingOutboxEvents limit worker d) o w).2 :=
  fun event hevent => ⟨event, claimed_stored h event hevent, rfl, rfl⟩

namespace OutboxRelay

variable (relay : OutboxRelay)

theorem tryPublish_safe {event : OutboxEventRow} {w : World} (known : Known event w) :
    Safe (platform .none) relayContract (fun _ w' => Evolves w w') (relay.tryPublish event) w := by
  refine Safe.bind (.await fun w₁ h₁ o _ => ⟨send_guar _ o w₁, ?_⟩)
  have h₂ := exec_evolves (.send (relay.message event)) o w₁
  cases hr : ((platform .none).exec (.send (relay.message event)) o w₁).1 with
  | error err => exact h₁.trans h₂
  | ok =>
    have sent : WasSent ((platform .none).exec (.send (relay.message event)) o w₁).2.journal event.id event.body :=
      ⟨_, exec_send_ok hr, publishes_message relay event⟩
    refine .await fun w₃ h₃ o' _ => ⟨?_, h₁.trans (h₂.trans (h₃.trans (exec_evolves ..)))⟩
    exact markPublished_guar (((known.evolves h₁).evolves h₂).evolves h₃) (sent.evolves h₃) _ o'

theorem publishEvent_safe {event : OutboxEventRow} {w : World} (known : Known event w) :
    Safe (platform .none) relayContract (fun _ w' => Evolves w w') (relay.publishEvent event) w := by
  refine Safe.bind (Safe.settle ((relay.tryPublish_safe known).mono fun r w₁ h₁ => ?_))
  cases r with
  | ok => exact h₁
  | error err =>
    refine Safe.bind (.await fun w₂ h₂ o _ => ⟨markFailed_guar .., ?_⟩)
    have h₃ := exec_evolves (.markOutboxEventFailed event.id err.message relay.workerId) o w₂
    cases ((platform .none).exec (.markOutboxEventFailed event.id err.message relay.workerId) o w₂).1 <;>
      exact h₁.trans (h₂.trans h₃)

theorem publishAll_safe {events : List OutboxEventRow} {n : Nat} {w : World}
    (known : ∀ event ∈ events, Known event w) :
    Safe (platform .none) relayContract (fun _ _ => True) (relay.publishAll events n) w := by
  induction events generalizing n w with
  | nil => trivial
  | cons event events ih =>
    obtain ⟨hevent, hevents⟩ := List.forall_mem_cons.mp known
    refine Safe.bind ((relay.publishEvent_safe hevent).mono fun r w' h => ?_)
    cases r with
    | error err => trivial
    | ok => exact ih fun event he => (hevents event he).evolves h

theorem processBatch_safe (w : World) :
    Safe (platform .none) relayContract (fun _ _ => True) relay.processBatch w := by
  refine Safe.bind (.await fun w' _ o _ => ⟨claim_guar .., ?_⟩)
  cases hr : ((platform .none).exec (.getPendingOutboxEvents relay.batchSize relay.workerId
      relay.leaseDurationSeconds) o w').1 with
  | error err => trivial
  | ok rows => exact relay.publishAll_safe (claimed_known hr)

end OutboxRelay

section

variable {ι : Type} [DecidableEq ι] {relays : ι → OutboxRelay}

theorem reachable_publishedWereSent {p : Pool JsError World Answer ι Unit Nat}
    (h : Reachable (relaying relays).system p) : PublishedWereSent p.shared := by
  refine ((relaying relays).relyGuarantee PublishedWereSent (fun _ => relayContract) (fun _ _ _ => True)
    (fun _ => Evolves.refl) (fun _ _ _ _ => Evolves.trans) (fun _ _ _ _ _ _ => trivial) ?_ ?_ ?_ ?_ ?_ h).1
  · exact fun w hw row hrow hstatus => absurd hstatus (hw row hrow)
  · exact fun w i _ _ _ => (relays i).processBatch_safe w
  · exact fun _ _ _ _ _ _ _ => trivial
  · exact fun _ w w' hw hg => ⟨hg.2 hw, fun _ _ => hg.1⟩
  · intro w w' hw moves
    refine ⟨fun row hrow hstatus => ?_, fun _ => moves.evolves⟩
    rcases moves.outboxEvents with hout | ⟨id, body, now, hout⟩
    · rw [hout] at hrow
      exact (hw row hrow hstatus).evolves moves.evolves
    · rw [hout] at hrow
      rcases Table.mem_insertOrIgnore.mp hrow with hrow | ⟨rfl, -⟩
      · exact (hw row hrow hstatus).evolves moves.evolves
      · cases hstatus

theorem step_evolves {p q : Pool JsError World Answer ι Unit Nat}
    (h : (relaying relays).system.step p q) : Evolves p.shared q.shared := by
  cases h with
  | start | leave => exact .refl _
  | call i w c k o busy next allowed => exact exec_evolves c o p.shared
  | environment w moves => exact moves.evolves

theorem steps_evolve {p q : Pool JsError World Answer ι Unit Nat}
    (h : Relation.ReflTransGen (relaying relays).system.step p q) : Evolves p.shared q.shared := by
  induction h with
  | refl => exact .refl _
  | tail _ hstep ih => exact ih.trans (step_evolves hstep)

/-- A `PUBLISHED` row has a message of its own that the broker acknowledged;
a row stays from then on with its identity and its body, and unchanged once it
is `PUBLISHED` or `FAILED`. -/
theorem published_rows_were_sent {p : Pool JsError World Answer ι Unit Nat}
    (h : Reachable (relaying relays).system p) :
    (∀ row ∈ p.shared.db.outboxEvents.rows, row.status = .published →
      ∃ m, .sent m true ∈ p.shared.journal ∧ m.Publishes row.id row.body) ∧
    ∀ q, Relation.ReflTransGen (relaying relays).system.step p q →
      ∀ row ∈ p.shared.db.outboxEvents.rows, ∃ row' ∈ q.shared.db.outboxEvents.rows,
        row'.id = row.id ∧ row'.body = row.body ∧ row'.createdAt = row.createdAt ∧
        (row.status = .published ∨ row.status = .failed → row' = row) := by
  refine ⟨reachable_publishedWereSent h, fun q hq row hrow => ?_⟩
  obtain ⟨row', hrow', hf⟩ := (steps_evolve hq).rows row hrow
  exact ⟨row', hrow', hf.id, hf.body, hf.createdAt, hf.settled⟩

end

def oneRelay (_ : Unit) : OutboxRelay := ⟨relayA, 50, 30⟩

/-- One relay publishes the only row: it claims it, sends it and marks it. -/
def publishing : Pool JsError World Answer Unit Unit Nat :=
  (relaying oneRelay).play
    ⟨{ World.empty with
        db := { Db.empty with outboxEvents := insertOutboxEvent "outbox_1" sampleBody 0 .empty }
        clock := 5000 },
      fun _ => none⟩
    [.start () (), .call () .ok, .call () .ok, .call () .ok]

theorem publishing_reachable : Reachable (relaying oneRelay).system publishing := by
  refine Machine.reachable_play (.start ⟨fun row hrow hstatus => ?_, fun _ => rfl⟩)
    ⟨trivial, fun _ _ _ _ _ => trivial, fun _ _ _ _ _ => trivial, fun _ _ _ _ _ => trivial, trivial⟩
  rcases Table.mem_insertOrIgnore.mp hrow with hrow | ⟨rfl, -⟩
  · cases hrow
  · cases hstatus

theorem published_rows_were_sent_sample :
    (publishing.shared.db.outboxEvents.rows.map fun row => (row.id, row.status)) = [("outbox_1", .published)] ∧
    ∀ row ∈ publishing.shared.db.outboxEvents.rows, row.status = .published →
      ∃ m, .sent m true ∈ publishing.shared.journal ∧ m.Publishes row.id row.body :=
  ⟨by decide +kernel, (published_rows_were_sent publishing_reachable).1⟩

end Fulfillment
