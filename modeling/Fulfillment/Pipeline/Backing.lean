import Fulfillment.Outbox.Stranding
import Fulfillment.Pipeline.Faultless

/-!
# What the shared world has to show

`Backed` is what the tables and the journal of the closed system have in common
while no call fails. Every call of a worker that keeps to its part keeps it.
-/

namespace Fulfillment

open Js Relational Effects SagaOrchestrator

/-! ## What one call does -/

section
variable {c : Call} {w : World}

/-- The world after a call that succeeds. -/
abbrev World.after (w : World) (c : Call) : World := (carryOut .none c true w).2

theorem reading_answer {P : String → Option SagaRow → Prop} (h : ∀ a, P a (stored a w)) :
    reading P c (carryOut .none c true w).1 := by
  cases c with
  | getSagaByAggregateId a => exact h a
  | _ => trivial

theorem claiming_answer {P : OutboxEventRow → Prop} (h : ∀ row, (∃ row' ∈ w.db.outboxEvents.rows, row'.id = row.id ∧
      row'.body = row.body) → P row) : claiming P c (carryOut .none c true w).1 := by
  cases c with
  | getPendingOutboxEvents limit workerId d =>
    intro row hrow
    obtain ⟨target, htarget, rfl⟩ := List.mem_map.mp hrow
    exact h _ ⟨target, (mem_claimTargets htarget).1, rfl, rfl⟩
  | _ => trivial

theorem journal_after : (∃ m, c = .send m ∧ (w.after c).journal = .sent m true :: w.journal) ∨
    ((∀ m, c ≠ .send m) ∧ ((w.after c).journal = w.journal ∨ ∃ saga, (w.after c).journal = .saved saga :: w.journal)) := by
  cases c with
  | send m => exact .inl ⟨m, rfl, rfl⟩
  | saveSagaInstance saga => exact .inr ⟨fun m h => (by cases h), .inr ⟨saga, rfl⟩⟩
  | compensationBarrier copy action correlationId =>
    right
    refine ⟨fun m h => (by cases h), ?_⟩
    rcases h : executeBarrierUpdate copy action correlationId w.db with ⟨_ | row, notice⟩
    · left
      simp only [World.after, carryOut, h]
    · right
      exact ⟨row, by simp only [World.after, carryOut, h]; rfl⟩
  | persistDeadLetter dlq marksFailed =>
    right
    refine ⟨fun m h => (by cases h), .inl ?_⟩
    cases marksFailed <;> rfl
  | _ => exact .inr ⟨fun m h => (by cases h), .inl rfl⟩

theorem publishedIn_after {e : EventEnvelope} : PublishedIn (w.after c).journal e ↔
    PublishedIn w.journal e ∨ ∃ m, c = .send m ∧ m.value = .event e := by
  rcases @journal_after c w with ⟨m, rfl, journal⟩ | ⟨other, journal⟩
  · constructor
    · rintro ⟨m', acked, sent, value⟩
      rw [journal] at sent
      rcases List.mem_cons.mp sent with same | earlier
      · cases same
        exact .inr ⟨m, rfl, value⟩
      · exact .inl ⟨m', acked, earlier, value⟩
    · rintro (⟨m', acked, sent, value⟩ | ⟨m', same, value⟩)
      · exact ⟨m', acked, journal ▸ List.mem_cons_of_mem _ sent, value⟩
      · cases same
        exact ⟨m, true, journal ▸ List.mem_cons_self, value⟩
  · have kept : ∀ m acked, .sent m acked ∈ (w.after c).journal ↔ .sent m acked ∈ w.journal := by
      intro m acked
      rcases journal with journal | ⟨saga, journal⟩ <;> rw [journal]
      simp
    simp only [PublishedIn, kept]
    exact ⟨.inl, fun h => h.elim id fun ⟨m, send, _⟩ => absurd send (other m)⟩

theorem marked_after {id name : String} (h : (w.after c).db.isEventProcessed id name = true) :
    w.db.isEventProcessed id name = true ∨ c = .markEventProcessed id name := by
  cases c with
  | markEventProcessed eventId consumerName =>
    by_cases same : (id, name) = (eventId, consumerName)
    · cases same
      exact .inr rfl
    · left
      have other := isEventProcessed_mark_other w.db same .processed none w.clock
      exact other ▸ h
  | persistDeadLetter dlq marksFailed outboxId =>
    left
    cases marksFailed with
    | false => exact h
    | true =>
      by_cases same : (id, name) = (dlq.eventId, dlq.consumerName)
      · cases same
        have failed := isEventProcessed_markEventProcessed (w.db.recordDLQMessage dlq w.clock) dlq.eventId
          dlq.consumerName .failed (some dlq.errorMessage) w.clock
        exact absurd (failed.symm.trans h) (by decide)
      · have other := isEventProcessed_mark_other (w.db.recordDLQMessage dlq w.clock) same .failed
          (some dlq.errorMessage) w.clock
        exact other ▸ h
  | compensationBarrier copy action correlationId =>
    left
    rcases barrier : executeBarrierUpdate copy action correlationId w.db with ⟨_ | row, notice⟩ <;>
      simp only [World.after, carryOut, barrier] at h
    · exact h
    · exact h
  | _ => exact .inl h

theorem orders_after : (w.after c).db.orders = w.db.orders := by
  cases c with
  | compensationBarrier copy action correlationId =>
    rcases barrier : executeBarrierUpdate copy action correlationId w.db with ⟨_ | row, notice⟩ <;>
      simp only [World.after, carryOut, barrier]
    rfl
  | persistDeadLetter dlq marksFailed => cases marksFailed <;> rfl
  | _ => rfl

/-- What a call does to the sagas. -/
inductive SagaEffect (w : World) (c : Call) : Prop
  | none (same : (w.after c).db.sagaInstances = w.db.sagaInstances) (unsaved : ∀ row, c ≠ .saveSagaInstance row)
    (unreported : ∀ copy action correlationId, c = .compensationBarrier copy action correlationId →
      ∀ s, stored copy.aggregateId w = some s → s.state ≠ .compensating)
  | save (row : SagaRow) (call : c = .saveSagaInstance row) (saved : w.after c = w.saveSaga row)
  | report (s copy : SagaRow) (action correlationId : String)
    (call : c = .compensationBarrier copy action correlationId) (found : stored copy.aggregateId w = some s)
    (compensating : s.state = .compensating)
    (saved : w.after c = w.saveSaga (barrierRow s copy.aggregateId action correlationId))

theorem sagaEffect (present : ∀ copy action correlationId, c = .compensationBarrier copy action correlationId →
    stored copy.aggregateId w ≠ .none) : SagaEffect w c := by
  cases c with
  | saveSagaInstance row => exact .save row rfl rfl
  | compensationBarrier copy action correlationId =>
    obtain ⟨s, hs⟩ := Option.ne_none_iff_exists'.mp (present copy action correlationId rfl)
    have barrier := carryOut_barrier hs rfl action correlationId true
    by_cases compensating : s.state = .compensating
    · rw [if_pos compensating] at barrier
      exact .report s copy action correlationId rfl hs compensating (by rw [World.after, barrier])
    · rw [if_neg compensating] at barrier
      refine .none (by rw [World.after, barrier]) (fun row h => by cases h) ?_
      rintro copy' action' correlationId' ⟨⟩ s' hs'
      obtain rfl := Option.some.inj (hs.symm.trans hs')
      exact compensating
  | persistDeadLetter dlq marksFailed =>
    refine .none ?_ (fun row h => by cases h) fun copy action correlationId h => by cases h
    cases marksFailed <;> rfl
  | _ => exact .none rfl (fun row h => by cases h) fun copy action correlationId h => by cases h

end

/-! ## What the calls of the others leave -/

/-- What a worker can rely on while others move. -/
structure World.GrowsTo (w w' : World) : Prop where
  published : ∀ e, PublishedIn w.journal e → PublishedIn w'.journal e
  rows : ∀ row ∈ w.db.outboxEvents.rows, ∃ row' ∈ w'.db.outboxEvents.rows, row'.id = row.id ∧ row'.body = row.body
  sagas : ∀ orderId, stored orderId w' = none → stored orderId w = none

theorem KeepsTo.grows {component : Component} {w w' : World} {rest : Program Unit} (h : KeepsTo component w rest)
    (grows : w.GrowsTo w') : KeepsTo component w' rest where
  handler := h.handler
  relay := h.relay
  marks id unpublished := h.marks id fun e published => unpublished e (grows.published e published)
  saves := h.saves
  barrier orderId unread := h.barrier orderId (grows.sagas orderId unread)
  known relay known rows := by
    apply h.known relay
    intro row hrow
    obtain ⟨row', hrow', id, body⟩ := grows.rows row hrow
    exact id ▸ body ▸ rows row' hrow'

/-! ## What a call leaves -/

section
variable {c : Call} {w : World} (fits : columnsFit c w = true)
include fits

theorem exec_after : (platform .none).exec c .ok w = (.ok (carryOut .none c true w).1, w.after c) := by
  simp [Semantics.exec, platform, fits]

theorem rows_after : ∀ row' ∈ (w.after c).db.outboxEvents.rows, ∃ row ∈ w.db.outboxEvents.rows,
    row.id = row'.id ∧ row.body = row'.body := by
  intro row' hrow'
  have back := exec_rows_back c .ok w row'
  rw [exec_after fits] at back
  obtain ⟨row, hrow, id, body, -⟩ := back hrow'
  exact ⟨row, hrow, id, body⟩

end

/-- A row that nobody claimed yet stays as it is, or the caller is to send it now. -/
theorem pending_after {c : Call} {w : World} {row : OutboxEventRow} (hrow : row ∈ w.db.outboxEvents.rows)
    (pending : row.status = .pending) : row ∈ (w.after c).db.outboxEvents.rows ∨
      Announces c (carryOut .none c true w).1 (SendsEvent row.id) := by
  have held : ∀ id workerId, row.heldBy id workerId = false := by
    intro id workerId
    simp [Leased.heldBy, pending]
  obtain ⟨-, same | ⟨limit, workerId, d, rfl, table⟩ | ⟨id, workerId, rfl, table⟩ | ⟨id, error, workerId, rfl, table⟩⟩ :=
    carryOut_outbox c true w
  · left
    rw [World.after, same]
    exact hrow
  · by_cases target : row.id ∈ (claimTargets limit w.clock w.locked w.db.outboxEvents).map Leased.id
    · right
      refine ⟨row.claim workerId (d * 1000) w.clock, ?_, rfl⟩
      exact List.mem_map_of_mem (mem_targets hrow target)
    · left
      rw [World.after, table]
      exact List.mem_map.mpr ⟨row, hrow, if_neg (by simpa using target)⟩
  · left
    rw [World.after, table]
    exact List.mem_map.mpr ⟨row, hrow, if_neg (by simp [held])⟩
  · left
    rw [World.after, table]
    exact List.mem_map.mpr ⟨row, hrow, if_neg (by simp [held])⟩

/-! ## The tables and the journal -/

structure Backed (w : World) : Prop where
  keyed : w.db.WellKeyed
  regular : ∀ orderId s, stored orderId w = some s → s.Regular
  marked : ∀ id name, w.db.isEventProcessed id name = true → ∃ e, PublishedIn w.journal e ∧ e.eventId = id
  rows : ∀ row ∈ w.db.outboxEvents.rows, row.body.eventType = .orderCreated ∧ row.body.topic = Topics.orders
  /-- Events with one identifier are of one type and about one order. -/
  unique : ∀ e e', PublishedIn w.journal e → PublishedIn w.journal e' → e.eventId = e'.eventId →
    e.eventType = e'.eventType ∧ e.aggregateId = e'.aggregateId
  own : ∀ row ∈ w.db.outboxEvents.rows, ∀ e, PublishedIn w.journal e → e.eventId = row.id →
    e.eventType = .orderCreated ∧ e.aggregateId = row.body.aggregateId

/-- A worker's own saves. -/
theorem stored_saved {orderId : String} {w : World} {row : SagaRow} (keyed : w.db.WellKeyed) (hrow : row.Keyed) :
    stored orderId (w.saveSaga row) =
      if orderId = row.aggregateId then some (row.mergedInto (stored orderId w)) else stored orderId w :=
  getSaga_save keyed hrow orderId

section
variable {component : Component} {w : World} {c : Call} {k : Except JsError (Answer c) → Program Unit}

/-- What is sent is new, or it is a row of the outbox. -/
theorem KeepsTo.sends {m : Message} {k : Except JsError Unit → Program Unit}
    (h : KeepsTo component w (.call (.send m) k))
    (fresh : ∀ e, m.value = .event e → component.consumer ≠ none → FreshId w e.eventId) :
    (∀ e, m.value = .event e → FreshId w e.eventId) ∨ ∃ row ∈ w.db.outboxEvents.rows, m.Publishes row.id row.body := by
  cases relay : component.consumer with
  | some consumer =>
    left
    exact fun e value => fresh e value (by simp [relay])
  | none =>
    right
    have sends := (h.known relay (fun id body => ∃ row ∈ w.db.outboxEvents.rows, row.id = id ∧ row.body = body)
      fun row hrow => ⟨row, hrow, rfl, rfl⟩).1
    obtain ⟨id, body, ⟨row, hrow, rfl, rfl⟩, publishes⟩ := sends m rfl
    exact ⟨row, hrow, publishes⟩

/-- The barrier is only asked about an order that has a saga. -/
theorem KeepsTo.effect (h : KeepsTo component w (.call c k)) : SagaEffect w c := by
  apply sagaEffect
  intro copy action correlationId call unread
  exact (h.barrier copy.aggregateId unread).1 ⟨copy, action, correlationId, call, rfl⟩

theorem KeepsTo.grows_after (h : KeepsTo component w (.call c k)) (inv : Backed w) : w.GrowsTo (w.after c) := by
  refine ⟨fun e published => publishedIn_after.mpr (.inl published), ?_, ?_⟩
  · intro row hrow
    obtain ⟨row', hrow', follows⟩ := (carryOut_evolves c true w).rows row hrow
    exact ⟨row', hrow', follows.id, follows.body⟩
  · intro orderId unread
    cases h.effect with
    | none same =>
      rw [stored, Db.getSagaByAggregateId, same] at unread
      exact unread
    | save row call saved =>
      rw [saved, stored_saved inv.keyed (h.saves.1 row call).1] at unread
      split at unread
      · cases unread
      · exact unread
    | report s copy action correlationId call found compensating saved =>
      have keyed := barrierRow_keyed (getSaga_eq_some inv.keyed found).2 action correlationId
      rw [saved, stored_saved inv.keyed keyed] at unread
      split at unread
      · cases unread
      · exact unread

/-- What a worker keeps to after a call of its own. -/
theorem KeepsTo.answered (h : KeepsTo component w (.call c k)) (inv : Backed w) :
    KeepsTo component (w.after c) (k (.ok (carryOut .none c true w).1)) := by
  have own : ∀ aggregateId, OwnSaga aggregateId (stored aggregateId w) := fun _ _ found => getSaga_eq_some inv.keyed found
  refine KeepsTo.grows (w := w) ?_ (h.grows_after inv)
  constructor
  · exact fun handler => (h.handler handler).2 _
  · exact fun relay => (h.relay relay).2 _
  · exact fun id unpublished => (h.marks id unpublished).2 _
  · exact (h.saves.2 _ (reading_answer own)).2
  · intro orderId unread
    refine ((h.barrier orderId unread).2 _ (reading_answer fun aggregateId => ⟨own aggregateId, ?_⟩)).2
    rintro rfl
    exact unread
  · intro relay known rows
    refine ((h.known relay known rows).2 _ (claiming_answer ?_)).2
    rintro row ⟨row', hrow', id, body⟩
    exact id ▸ body ▸ rows row' hrow'

/-- The saved rows of an order are regular. -/
theorem SagaEffect.regular (effect : SagaEffect w c) (h : KeepsTo component w (.call c k)) (inv : Backed w)
    (orderId : String) (s : SagaRow) (found : stored orderId (w.after c) = some s) : s.Regular := by
  cases effect with
  | none same =>
    apply inv.regular orderId
    rw [stored, Db.getSagaByAggregateId, same] at found
    exact found
  | save row call saved =>
    obtain ⟨keyed, regular⟩ := h.saves.1 row call
    rw [saved, stored_saved inv.keyed keyed] at found
    split at found
    · cases found
      exact ⟨regular.state, regular.pending, regular.opened⟩
    · exact inv.regular orderId s found
  | report t copy action correlationId call stored_t compensating saved =>
    have keyed := barrierRow_keyed (getSaga_eq_some inv.keyed stored_t).2 action correlationId
    rw [saved, stored_saved inv.keyed keyed] at found
    split at found
    · rename_i same
      have same : orderId = copy.aggregateId := same
      subst same
      rw [stored_t] at found
      cases found
      exact (inv.regular _ t stored_t).afterReport compensating
    · exact inv.regular orderId s found

theorem SagaEffect.keyed (effect : SagaEffect w c) (h : KeepsTo component w (.call c k)) (inv : Backed w) :
    (w.after c).db.WellKeyed := by
  cases effect with
  | none same =>
    intro row hrow
    rw [same] at hrow
    exact inv.keyed row hrow
  | save row call saved =>
    rw [saved]
    exact wellKeyed_save inv.keyed (h.saves.1 row call).1
  | report s copy action correlationId call found compensating saved =>
    rw [saved]
    exact wellKeyed_save inv.keyed (barrierRow_keyed (getSaga_eq_some inv.keyed found).2 action correlationId)

theorem Backed.call (inv : Backed w) (h : KeepsTo component w (.call c k)) (fits : columnsFit c w = true)
    (fresh : ∀ m e, c = .send m → m.value = .event e → component.consumer ≠ none → FreshId w e.eventId) :
    Backed (w.after c) := by
  have sends : ∀ m e, c = .send m → m.value = .event e → FreshId w e.eventId ∨
      ∃ row ∈ w.db.outboxEvents.rows, e.eventId = row.id ∧ e.eventType = row.body.eventType ∧
        e.aggregateId = row.body.aggregateId := by
    rintro m e rfl value
    rcases h.sends (fun e => fresh m e rfl) with new | ⟨row, hrow, publishes⟩
    · exact .inl (new e value)
    · obtain ⟨e', value', id, type, -, about, -⟩ := publishes.value
      rw [value] at value'
      cases value'
      exact .inr ⟨row, hrow, id, type, about⟩
  constructor
  · exact h.effect.keyed h inv
  · exact h.effect.regular h inv
  · intro id name marked
    rcases marked_after marked with before | rfl
    · obtain ⟨e, published, same⟩ := inv.marked id name before
      exact ⟨e, publishedIn_after.mpr (.inl published), same⟩
    · by_contra unpublished
      have unpublished : ∀ e, PublishedIn w.journal e → e.eventId ≠ id := fun e published same =>
        unpublished ⟨e, publishedIn_after.mpr (.inl published), same⟩
      exact (h.marks id unpublished).1 name rfl
  · intro row' hrow'
    obtain ⟨row, hrow, -, body⟩ := rows_after fits row' hrow'
    exact body ▸ inv.rows row hrow
  · -- a new event shares its identifier with the events of its own row alone
    have newest : ∀ m e e', c = .send m → m.value = .event e → PublishedIn w.journal e' → e.eventId = e'.eventId →
        e.eventType = e'.eventType ∧ e.aggregateId = e'.aggregateId := by
      intro m e e' call value published same
      rcases sends m e call value with new | ⟨row, hrow, id, type, about⟩
      · exact absurd same.symm (new.published e' published)
      · obtain ⟨type', about'⟩ := inv.own row hrow e' published (same.symm.trans id)
        exact ⟨(type.trans (inv.rows row hrow).1).trans type'.symm, about.trans about'.symm⟩
    intro e e' published published' same
    rcases publishedIn_after.mp published with old | ⟨m, call, value⟩
    · rcases publishedIn_after.mp published' with old' | ⟨m', call', value'⟩
      · exact inv.unique e e' old old' same
      · obtain ⟨type, about⟩ := newest m' e' e call' value' old same.symm
        exact ⟨type.symm, about.symm⟩
    · rcases publishedIn_after.mp published' with old' | ⟨m', call', value'⟩
      · exact newest m e e' call value old' same
      · rw [call] at call'
        cases call'
        rw [value] at value'
        cases value'
        exact ⟨rfl, rfl⟩
  · intro row' hrow' e published same
    obtain ⟨row, hrow, id, body⟩ := rows_after fits row' hrow'
    rw [← body]
    rcases publishedIn_after.mp published with old | ⟨m, call, value⟩
    · exact inv.own row hrow e old (same.trans id.symm)
    · rcases sends m e call value with new | ⟨source, hsource, id', type, about⟩
      · exact absurd (id.trans same.symm) (new.waiting row hrow)
      · obtain rfl := Table.eq_of_key hsource hrow (id'.symm.trans (same.trans id.symm))
        exact ⟨type.trans (inv.rows source hsource).1, about⟩

end

/-! ## Outside the components -/

theorem Blank.backed {w : World} (h : Blank w) : Backed w := by
  have unpublished : ∀ e, ¬PublishedIn w.journal e := by
    rintro e ⟨m, acked, sent, -⟩
    rw [h.journal] at sent
    cases sent
  constructor
  · intro row hrow
    rw [h.db] at hrow
    cases hrow
  · intro orderId s found
    rw [stored, h.db] at found
    cases found
  · intro id name marked
    rw [h.db] at marked
    cases marked
  · intro row hrow
    rw [h.db] at hrow
    cases hrow
  · exact fun e _ published => absurd published (unpublished e)
  · exact fun _ _ e published => absurd published (unpublished e)

/-- An order is created with both its rows, or not at all. -/
theorem createOrder_written {c : CreateOrder} {f : TxOutcomes JsError OrderStatement} {w w' : World}
    (h : w' = { w with db := (c.createOrder w.clock f w.db).2 }) :
    w' = w ∨ w' = { w with db := c.written w.clock w.db } := by
  rcases c.createOrder_run w.clock f w.db with ⟨-, -, run⟩ | ⟨err, -, -, run⟩ | ⟨-, err, run⟩
  · exact .inr (by rw [h, run])
  · exact .inr (by rw [h, run])
  · exact .inl (by rw [h, run])

theorem Backed.environment {w w' : World} (inv : Backed w) (moves : FreshOrders w w') : Backed w' ∧ w.GrowsTo w' := by
  cases moves with
  | time clock locked instant =>
    exact ⟨⟨inv.keyed, inv.regular, inv.marked, inv.rows, inv.unique, inv.own⟩,
      fun _ published => published, fun row hrow => ⟨row, hrow, rfl, rfl⟩, fun _ unread => unread⟩
  | createOrder c f conforms fresh =>
    rcases createOrder_written (c := c) (f := f) rfl with same | written
    · rw [same]
      exact ⟨inv, fun _ published => published, fun row hrow => ⟨row, hrow, rfl, rfl⟩, fun _ unread => unread⟩
    · rw [written]
      refine ⟨⟨inv.keyed, inv.regular, inv.marked, ?_, inv.unique, ?_⟩, fun _ published => published, ?_,
        fun _ unread => unread⟩
      · intro row hrow
        rcases Table.mem_insertOrIgnore.mp hrow with hrow | ⟨rfl, -⟩
        · exact inv.rows row hrow
        · exact ⟨rfl, rfl⟩
      · intro row hrow e published same
        rcases Table.mem_insertOrIgnore.mp hrow with hrow | ⟨rfl, -⟩
        · exact inv.own row hrow e published same
        · exact absurd same (fresh.published e published)
      · exact fun row hrow => ⟨row, Table.mem_insertOrIgnore.mpr (.inl hrow), rfl, rfl⟩

end Fulfillment
