import Fulfillment.Outbox.Publication

/-!
# The order of a relay's sends

A relay alone, batch after batch, on a database that answers: only sends fail.
`processBatch` goes on after a failed send, and the row that failed is claimed
again in the next batch, after younger rows have been sent.
-/

namespace Fulfillment

open Js Relational Effects

def Entry.acknowledgedId : Entry → Option String
  | .sent ⟨_, _, .event e⟩ true => some e.eventId
  | _ => none

/-- The rows whose sends the broker acknowledged, in the order of the sends. -/
def acknowledged (journal : List Entry) : List String := (journal.filterMap Entry.acknowledgedId).reverse

/-- How the sends of a batch end, row by row; the database answers. -/
def sendOracle (sends : String → Outcome JsError) (_ : List Call) : Call → Outcome JsError
  | .send ⟨_, _, .event e⟩ => sends e.eventId
  | _ => .ok

namespace OutboxRelay

variable (relay : OutboxRelay) (sends : String → Outcome JsError)

def batch (w : World) : World := (relay.processBatch.run roomyPlatform (sendOracle sends) [] w).state

def markedPublished (event : OutboxEventRow) (w : World) : World :=
  { w with db := { w.db with
    outboxEvents := (markOutboxEventPublished event.id (some relay.workerId.name) w.clock w.db.outboxEvents).2 } }

def markedFailed (event : OutboxEventRow) (err : JsError) (w : World) : World :=
  { w with db := { w.db with
    outboxEvents := (markOutboxEventFailed event.id err.message (some relay.workerId.name) w.db.outboxEvents).2 } }

/-- What `publishEvent` comes to. -/
def published (event : OutboxEventRow) (w : World) : World :=
  match sends event.id with
  | .ok => relay.markedPublished event (w.take (relay.message event) true)
  | .rejected err => relay.markedFailed event err w
  | .unacked err => relay.markedFailed event err (w.take (relay.message event) false)

def claimed (w : World) : List OutboxEventRow × World :=
  let claimed := getPendingOutboxEvents relay.batchSize relay.workerId.name relay.leaseDurationSeconds w.clock w.locked
    w.db.outboxEvents
  (claimed.1, { w with db := { w.db with outboxEvents := claimed.2 } })

variable {relay sends}

theorem publishEvent_run (event : OutboxEventRow) (past : List Call) (w : World) :
    let r := (relay.publishEvent event).run roomyPlatform (sendOracle sends) past w
    r.value = .ok () ∧ r.state = relay.published sends event w := by
  have asked (past : List Call) : sendOracle sends past (.send (relay.message event)) = sends event.id := rfl
  simp only [publishEvent, tryPublish, run_bind, run_settle, run_await, asked, published]
  cases sends event.id with
  | ok => exact ⟨rfl, rfl⟩
  | rejected err => exact ⟨rfl, rfl⟩
  | unacked err => exact ⟨rfl, rfl⟩

theorem publishAll_run (events : List OutboxEventRow) : ∀ (n : Nat) (past : List Call) (w : World),
    ((relay.publishAll events n).run roomyPlatform (sendOracle sends) past w).state =
      events.foldl (fun w event => relay.published sends event w) w := by
  induction events with
  | nil =>
    intro n past w
    rfl
  | cons event events ih =>
    intro n past w
    obtain ⟨value, state⟩ := @publishEvent_run relay sends event past w
    rw [publishAll, run_bind, Ran.andThen, value, List.foldl_cons, ← state]
    exact ih ..

/-- A batch claims rows and publishes them one after another. -/
theorem batch_eq (w : World) : relay.batch sends w =
    (relay.claimed w).1.foldl (fun w event => relay.published sends event w) (relay.claimed w).2 := by
  rw [batch, processBatch, run_bind, run_await]
  exact publishAll_run ..

end OutboxRelay

/-! ## What is in order during a batch -/

/-- A claim may take the row, now or later. -/
def Leased.Alive {β : Type} (row : Leased β) : Prop := ¬row.Settled ∧ row.attempts < 10

/-- All rows that were sent are older. -/
def InTurn (w : World) (row : OutboxEventRow) : Prop :=
  ∀ other ∈ w.db.outboxEvents.rows, other.id ∈ acknowledged w.journal → other.createdAt < row.createdAt

/-- The rows of `waiting` are the relay's, oldest first; what was sent was sent by age, and all that
may still be sent is younger. -/
structure Sent (relay : OutboxRelay) (w₀ : World) (waiting : List OutboxEventRow) (w : World) : Prop where
  distinct : (w.db.outboxEvents.rows.map Leased.createdAt).Nodup
  waits : ∀ event ∈ waiting, event ∈ w.db.outboxEvents.rows ∧ event.status = .processing ∧
    event.leaseOwner = some relay.workerId.name
  sorted : waiting.Pairwise fun a b => a.createdAt < b.createdAt
  sent : ∀ row ∈ w.db.outboxEvents.rows, row.status = .published →
    (∃ old ∈ w₀.db.outboxEvents.rows, old.id = row.id ∧ old.status = .published) ∨ row.id ∈ acknowledged w.journal
  published : ∀ id ∈ acknowledged w.journal, ∃ row ∈ w.db.outboxEvents.rows, row.id = id ∧ row.status = .published
  order : (acknowledged w.journal).Pairwise fun a b => ∀ r ∈ w.db.outboxEvents.rows, ∀ r' ∈ w.db.outboxEvents.rows,
    r.id = a → r'.id = b → r.createdAt < r'.createdAt
  alive : ∀ row ∈ w.db.outboxEvents.rows, row.Alive → InTurn w row
  turn : ∀ event ∈ waiting, InTurn w event

/-- The rows that wait are the oldest that may be sent. -/
def Foremost (waiting : List OutboxEventRow) (w : World) : Prop :=
  ∀ row ∈ w.db.outboxEvents.rows, row.Alive → row.id ∉ waiting.map Leased.id → ∀ event ∈ waiting, event.createdAt < row.createdAt

variable {relay : OutboxRelay} {sends : String → Outcome JsError} {w₀ w : World} {event : OutboxEventRow}
  {waiting : List OutboxEventRow}

theorem acknowledged_sent (relay : OutboxRelay) (event : OutboxEventRow) (journal : List Entry) :
    acknowledged (.sent (relay.message event) true :: journal) = acknowledged journal ++ [event.id] := by
  have acked : Entry.acknowledgedId (.sent (relay.message event) true) = some event.id := rfl
  rw [acknowledged, List.filterMap_cons_some acked, List.reverse_cons]
  rfl

theorem acknowledged_unacked (relay : OutboxRelay) (event : OutboxEventRow) (journal : List Entry) :
    acknowledged (.sent (relay.message event) false :: journal) = acknowledged journal := by
  have unacked : Entry.acknowledgedId (.sent (relay.message event) false) = none := rfl
  rw [acknowledged, List.filterMap_cons_none unacked]
  rfl

/-- An update of the one row that a worker holds under an identifier. -/
theorem mem_update_held {t : OutboxTable} (stored : event ∈ t.rows) {worker : Option String}
    (held : event.heldBy event.id worker = true) (f : OutboxEventRow → OutboxEventRow) (keeps : ∀ r, (f r).id = r.id)
    {row : OutboxEventRow} : row ∈ (t.update (Leased.heldBy event.id worker) f keeps).rows ↔
      row = f event ∨ row ∈ t.rows ∧ row.id ≠ event.id := by
  rw [Table.mem_update]
  constructor
  · rintro ⟨old, hold, rfl⟩
    by_cases same : old.id = event.id
    · obtain rfl := Table.eq_of_key hold stored same
      rw [if_pos held]
      exact .inl rfl
    · have unheld : old.heldBy event.id worker = false := by simp [Leased.heldBy, same]
      rw [unheld, if_neg Bool.false_ne_true]
      exact .inr ⟨hold, same⟩
  · rintro (rfl | ⟨hrow, other⟩)
    · exact ⟨event, stored, if_pos held⟩
    · have unheld : row.heldBy event.id worker = false := by simp [Leased.heldBy, other]
      exact ⟨row, hrow, by rw [unheld, if_neg Bool.false_ne_true]⟩

theorem createdAt_update {t : OutboxTable} {p : OutboxEventRow → Bool} {f : OutboxEventRow → OutboxEventRow}
    (keeps : ∀ r, (f r).id = r.id) (created : ∀ r, (f r).createdAt = r.createdAt) :
    (t.update p f keeps).rows.map Leased.createdAt = t.rows.map Leased.createdAt := by
  rw [Table.update, List.map_map]
  apply List.map_congr_left
  intro row _
  rw [Function.comp_apply]
  split
  · exact created row
  · rfl

theorem Sent.held (h : Sent relay w₀ (event :: waiting) w) :
    event.heldBy event.id (some relay.workerId.name) = true := by
  obtain ⟨-, status, owner⟩ := h.waits event List.mem_cons_self
  have named : workerParam (some relay.workerId.name) = some relay.workerId.name := by
    simp [workerParam, relay.workerId.nonempty]
  simp [Leased.heldBy, status, owner, named]

/-- One row was marked, the others are as they were. -/
structure Marked (event marked : OutboxEventRow) (w w' : World) : Prop where
  rows : ∀ row, row ∈ w'.db.outboxEvents.rows ↔ row = marked ∨ row ∈ w.db.outboxEvents.rows ∧ row.id ≠ event.id
  dates : w'.db.outboxEvents.rows.map Leased.createdAt = w.db.outboxEvents.rows.map Leased.createdAt
  id : marked.id = event.id
  createdAt : marked.createdAt = event.createdAt

section

variable {w' : World} {marked : OutboxEventRow}

/-- Every row was there before, with its identifier and its date. -/
theorem Marked.before (h : Marked event marked w w') (stored : event ∈ w.db.outboxEvents.rows) {row : OutboxEventRow}
    (hrow : row ∈ w'.db.outboxEvents.rows) :
    ∃ old ∈ w.db.outboxEvents.rows, old.id = row.id ∧ old.createdAt = row.createdAt := by
  rcases (h.rows row).mp hrow with rfl | ⟨hrow, -⟩
  · exact ⟨event, stored, h.id.symm, h.createdAt.symm⟩
  · exact ⟨row, hrow, rfl, rfl⟩

theorem Sent.waiting_ne (h : Sent relay w₀ (event :: waiting) w) {other : OutboxEventRow} (mem : other ∈ waiting) :
    other.id ≠ event.id := by
  intro same
  obtain ⟨hother, -⟩ := h.waits other (List.mem_cons_of_mem _ mem)
  obtain ⟨hevent, -⟩ := h.waits event List.mem_cons_self
  have younger := List.rel_of_pairwise_cons h.sorted mem
  rw [Table.eq_of_key hother hevent same] at younger
  omega

/-- The rows behind the first one go on waiting. -/
theorem Sent.waits_after (h : Sent relay w₀ (event :: waiting) w) (m : Marked event marked w w') :
    ∀ other ∈ waiting, other ∈ w'.db.outboxEvents.rows ∧ other.status = .processing ∧
      other.leaseOwner = some relay.workerId.name := by
  intro other mem
  obtain ⟨stored, mine⟩ := h.waits other (List.mem_cons_of_mem _ mem)
  exact ⟨(m.rows other).mpr (.inr ⟨stored, h.waiting_ne mem⟩), mine⟩

theorem Sent.published_after (h : Sent relay w₀ (event :: waiting) w) (m : Marked event marked w w') {id : String}
    (acked : id ∈ acknowledged w.journal) : ∃ row ∈ w'.db.outboxEvents.rows, row.id = id ∧ row.status = .published := by
  obtain ⟨row, hrow, rfl, status⟩ := h.published id acked
  obtain ⟨stored, processing, -⟩ := h.waits event List.mem_cons_self
  have other : row.id ≠ event.id := by
    intro same
    rw [Table.eq_of_key hrow stored same, processing] at status
    cases status
  exact ⟨row, (m.rows row).mpr (.inr ⟨hrow, other⟩), rfl, status⟩

theorem Sent.order_after (h : Sent relay w₀ (event :: waiting) w) (m : Marked event marked w w') :
    (acknowledged w.journal).Pairwise fun a b => ∀ r ∈ w'.db.outboxEvents.rows, ∀ r' ∈ w'.db.outboxEvents.rows,
      r.id = a → r'.id = b → r.createdAt < r'.createdAt := by
  obtain ⟨stored, -⟩ := h.waits event List.mem_cons_self
  apply h.order.imp
  intro a b older r hr r' hr' ha hb
  obtain ⟨old, hold, id, date⟩ := m.before stored hr
  obtain ⟨old', hold', id', date'⟩ := m.before stored hr'
  rw [← date, ← date']
  exact older old hold old' hold' (id.trans ha) (id'.trans hb)

/-- A row of the same date stays in turn while nothing is sent. -/
theorem InTurn.after (stored : event ∈ w.db.outboxEvents.rows) (m : Marked event marked w w') {row : OutboxEventRow}
    (h : InTurn w row) : ∀ other ∈ w'.db.outboxEvents.rows, other.id ∈ acknowledged w.journal →
      other.createdAt < row.createdAt := by
  intro other hother acked
  obtain ⟨old, hold, id, date⟩ := m.before stored hother
  rw [← date]
  exact h old hold (id ▸ acked)

/-- A send that failed. -/
theorem Sent.fails (h : Sent relay w₀ (event :: waiting) w) (m : Marked event marked w w')
    (unsent : acknowledged w'.journal = acknowledged w.journal) (unpublished : marked.status ≠ .published) :
    Sent relay w₀ waiting w' := by
  obtain ⟨stored, -⟩ := h.waits event List.mem_cons_self
  constructor
  · rw [m.dates]
    exact h.distinct
  · exact h.waits_after m
  · exact h.sorted.of_cons
  · intro row hrow status
    rw [unsent]
    rcases (m.rows row).mp hrow with rfl | ⟨hrow, -⟩
    · exact absurd status unpublished
    · exact h.sent row hrow status
  · intro id acked
    exact h.published_after m (unsent ▸ acked)
  · rw [unsent]
    exact h.order_after m
  · intro row hrow alive
    unfold InTurn
    rw [unsent]
    rcases (m.rows row).mp hrow with rfl | ⟨hrow, -⟩
    · rw [m.createdAt]
      exact (h.turn event List.mem_cons_self).after stored m
    · exact (h.alive row hrow alive).after stored m
  · intro other mem
    unfold InTurn
    rw [unsent]
    exact (h.turn other (List.mem_cons_of_mem _ mem)).after stored m

/-- A send that the broker acknowledged, of the oldest row that may be sent. -/
theorem Sent.succeeds (h : Sent relay w₀ (event :: waiting) w) (first : Foremost (event :: waiting) w)
    (m : Marked event marked w w') (acked : acknowledged w'.journal = acknowledged w.journal ++ [event.id])
    (published : marked.status = .published) : Sent relay w₀ waiting w' := by
  obtain ⟨stored, -⟩ := h.waits event List.mem_cons_self
  have dated {row} (hrow : row ∈ w'.db.outboxEvents.rows) (same : row.id = event.id) : row.createdAt = event.createdAt := by
    obtain ⟨old, hold, id, date⟩ := m.before stored hrow
    rw [← date, Table.eq_of_key hold stored (id.trans same)]
  have younger {row} (hrow : row ∈ w'.db.outboxEvents.rows)
      (old : ∀ other ∈ w'.db.outboxEvents.rows, other.id ∈ acknowledged w.journal → other.createdAt < row.createdAt)
      (last : event.createdAt < row.createdAt) : InTurn w' row := by
    intro other hother sent
    rw [acked, List.mem_append, List.mem_singleton] at sent
    rcases sent with sent | same
    · exact old other hother sent
    · rw [dated hother same]
      exact last
  constructor
  · rw [m.dates]
    exact h.distinct
  · exact h.waits_after m
  · exact h.sorted.of_cons
  · intro row hrow status
    rw [acked]
    rcases (m.rows row).mp hrow with rfl | ⟨hrow, -⟩
    · rw [m.id]
      exact .inr List.mem_concat_self
    · exact (h.sent row hrow status).imp_right fun sent => List.mem_append_left _ sent
  · intro id sent
    rw [acked, List.mem_append, List.mem_singleton] at sent
    rcases sent with sent | rfl
    · exact h.published_after m sent
    · exact ⟨marked, (m.rows marked).mpr (.inl rfl), m.id, published⟩
  · rw [acked, List.pairwise_append]
    refine ⟨h.order_after m, List.pairwise_singleton _ _, ?_⟩
    intro a sent b last r hr r' hr' ha hb
    rw [List.mem_singleton] at last
    rw [dated hr' (hb.trans last)]
    exact (h.turn event List.mem_cons_self).after stored m r hr (ha ▸ sent)
  · intro row hrow alive
    rcases (m.rows row).mp hrow with rfl | ⟨before, other⟩
    · exact absurd (.inl published) alive.1
    · apply younger hrow ((h.alive row before alive).after stored m)
      by_cases waits : row.id ∈ waiting.map Leased.id
      · obtain ⟨same, mem, id⟩ := List.mem_map.mp waits
        rw [← Table.eq_of_key (h.waits same (List.mem_cons_of_mem _ mem)).1 before id]
        exact List.rel_of_pairwise_cons h.sorted mem
      · apply first row before alive _ event List.mem_cons_self
        rw [List.map_cons, List.mem_cons]
        exact fun either => either.elim other waits
  · intro other mem
    apply younger (h.waits_after m other mem).1 ((h.turn other (List.mem_cons_of_mem _ mem)).after stored m)
    exact List.rel_of_pairwise_cons h.sorted mem

theorem Foremost.after (first : Foremost (event :: waiting) w) (m : Marked event marked w w') (dead : ¬marked.Alive) :
    Foremost waiting w' := by
  intro row hrow alive absent other mem
  rcases (m.rows row).mp hrow with rfl | ⟨hrow, different⟩
  · exact absurd alive dead
  · apply first row hrow alive _ other (List.mem_cons_of_mem _ mem)
    rw [List.map_cons, List.mem_cons]
    exact fun either => either.elim different absent

/-- The row that waits first is the one a mark of it finds. -/
theorem Sent.marks (h : Sent relay w₀ (event :: waiting) w) {f : OutboxEventRow → OutboxEventRow}
    (keeps : ∀ r, (f r).id = r.id) (created : ∀ r, (f r).createdAt = r.createdAt)
    (table : w'.db.outboxEvents =
      w.db.outboxEvents.update (Leased.heldBy event.id (some relay.workerId.name)) f keeps) :
    Marked event (f event) w w' := by
  obtain ⟨stored, -⟩ := h.waits event List.mem_cons_self
  constructor
  · intro row
    rw [table]
    exact mem_update_held stored h.held f keeps
  · rw [table]
    exact createdAt_update keeps created
  · exact keeps event
  · exact created event

theorem published_fails (h : Sent relay w₀ (event :: waiting) w) (failed : sends event.id ≠ .ok) :
    ∃ error, Marked event (event.fail error) w (relay.published sends event w) ∧
      acknowledged (relay.published sends event w).journal = acknowledged w.journal := by
  unfold OutboxRelay.published
  cases ends : sends event.id with
  | ok => exact absurd ends failed
  | rejected err => exact ⟨err.message, h.marks (fun _ => rfl) (fun _ => rfl) rfl, rfl⟩
  | unacked err => exact ⟨err.message, h.marks (fun _ => rfl) (fun _ => rfl) rfl, acknowledged_unacked ..⟩

theorem published_succeeds (h : Sent relay w₀ (event :: waiting) w) (acked : sends event.id = .ok) :
    Marked event (event.publish w.clock) w (relay.published sends event w) ∧
      acknowledged (relay.published sends event w).journal = acknowledged w.journal ++ [event.id] := by
  unfold OutboxRelay.published
  rw [acked]
  exact ⟨h.marks (fun _ => rfl) (fun _ => rfl) rfl, acknowledged_sent ..⟩

theorem fail_unpublished (event : OutboxEventRow) (error : String) : (event.fail error).status ≠ .published := by
  simp only [Leased.fail]
  split
  · intro h
    cases h
  · intro h
    cases h

/-- A row whose tenth attempt failed is FAILED. -/
theorem fail_dead {event : OutboxEventRow} (last : ¬event.attempts < 10) (error : String) : ¬(event.fail error).Alive := by
  intro alive
  exact last alive.2

/-- When no send of the batch succeeds any more. -/
theorem publish_failing (waiting : List OutboxEventRow) : ∀ w, Sent relay w₀ waiting w →
    (∀ event ∈ waiting, sends event.id ≠ .ok) →
    Sent relay w₀ [] (waiting.foldl (fun w event => relay.published sends event w) w) := by
  induction waiting with
  | nil =>
    intro w h _
    exact h
  | cons event waiting ih =>
    intro w h failing
    obtain ⟨failed, rest⟩ := List.forall_mem_cons.mp failing
    obtain ⟨error, m, unsent⟩ := published_fails h failed
    exact ih _ (h.fails m unsent (fail_unpublished event error)) rest

/-- After a failed send that the row survives, no send of the batch succeeds. -/
def Stops (sends : String → Outcome JsError) (events : List OutboxEventRow) : Prop :=
  events.Pairwise fun a b => sends a.id ≠ .ok → a.attempts < 10 → sends b.id ≠ .ok

theorem publish_in_order (waiting : List OutboxEventRow) : ∀ w, Sent relay w₀ waiting w → Foremost waiting w →
    Stops sends waiting → Sent relay w₀ [] (waiting.foldl (fun w event => relay.published sends event w) w) := by
  induction waiting with
  | nil =>
    intro w h _ _
    exact h
  | cons event waiting ih =>
    intro w h first stops
    by_cases acked : sends event.id = .ok
    · obtain ⟨m, sent⟩ := published_succeeds h acked
      have dead : ¬(event.publish w.clock).Alive := fun alive => alive.1 (.inl rfl)
      exact ih _ (h.succeeds first m sent rfl) (first.after m dead) stops.of_cons
    · obtain ⟨error, m, unsent⟩ := published_fails h acked
      have next := h.fails m unsent (fail_unpublished event error)
      by_cases survives : event.attempts < 10
      · apply publish_failing waiting _ next
        intro other mem
        exact List.rel_of_pairwise_cons stops mem acked survives
      · exact ih _ next (first.after m (fail_dead survives error)) stops.of_cons

/-! ## The claim of a batch -/

/-- The rows a claim takes are the oldest it may take, oldest first. -/
theorem claimTargets_oldest {limit : Nat} {now : Int} {t : OutboxTable}
    (distinct : (t.rows.map Leased.createdAt).Nodup) :
    (claimTargets limit now (fun _ => false) t).Pairwise (fun a b => a.createdAt < b.createdAt) ∧
    ∀ row ∈ t.rows, row.claimable now = true → row ∉ claimTargets limit now (fun _ => false) t →
      ∀ target ∈ claimTargets limit now (fun _ => false) t, target.createdAt < row.createdAt := by
  let claimable := t.rows.filter fun r => r.claimable now && !false
  let sorted := claimable.mergeSort fun a b => a.createdAt ≤ b.createdAt
  have ordered : sorted.Pairwise fun a b => a.createdAt ≤ b.createdAt := by
    have pairwise := @List.pairwise_mergeSort _ (fun a b : OutboxEventRow => decide (a.createdAt ≤ b.createdAt))
      (fun a b c => by simp only [decide_eq_true_eq]; omega) (fun a b => by simp only [Bool.or_eq_true, decide_eq_true_eq]; omega)
      claimable
    exact pairwise.imp of_decide_eq_true
  have dates : (sorted.map Leased.createdAt).Nodup := by
    have kept : (claimable.map Leased.createdAt).Nodup := distinct.sublist (List.filter_sublist.map _)
    exact ((List.mergeSort_perm claimable _).map _).nodup_iff.mpr kept
  have strict : sorted.Pairwise fun a b => a.createdAt < b.createdAt := by
    have different : sorted.Pairwise fun a b => a.createdAt ≠ b.createdAt := List.pairwise_map.mp dates
    exact (ordered.and different).imp Int.lt_iff_le_and_ne.mpr
  have parts := strict
  rw [← List.take_append_drop limit sorted, List.pairwise_append] at parts
  refine ⟨parts.1, ?_⟩
  intro row hrow may untaken target taken
  have mem : row ∈ sorted := by
    rw [List.mem_mergeSort, List.mem_filter]
    exact ⟨hrow, by simp [may]⟩
  rw [← List.take_append_drop limit sorted, List.mem_append] at mem
  exact parts.2.2 target taken row (mem.resolve_left untaken)

/-- Nobody else holds a row: none is locked, and no lease of a row that may be claimed again is alive. -/
structure Unheld (w : World) : Prop where
  unlocked : w.locked = fun _ => false
  expired : ∀ row ∈ w.db.outboxEvents.rows, row.status = .processing → row.attempts < 10 → row.claimable w.clock = true

theorem claimable_of_alive (unheld : Unheld w) {row : OutboxEventRow} (hrow : row ∈ w.db.outboxEvents.rows)
    (alive : row.Alive) : row.claimable w.clock = true := by
  obtain ⟨unsettled, few⟩ := alive
  cases status : row.status with
  | pending => simp [Leased.claimable, status, few]
  | processing => exact unheld.expired row hrow status few
  | published => exact absurd (.inl status) unsettled
  | failed => exact absurd (.inr status) unsettled

theorem alive_of_claimable {row : OutboxEventRow} {now : Int} (may : row.claimable now = true) : row.Alive :=
  ⟨not_settled_of_claimable may, (of_decide_eq_true may).2⟩

/-- The rows of a batch are the relay's, and the oldest that may be sent. -/
theorem Sent.claims (h : Sent relay w₀ [] w) (unheld : Unheld w) :
    Sent relay w₀ (relay.claimed w).1 (relay.claimed w).2 ∧ Foremost (relay.claimed w).1 (relay.claimed w).2 := by
  let d := relay.leaseDurationSeconds * 1000
  let targets := claimTargets relay.batchSize w.clock (fun _ => false) w.db.outboxEvents
  obtain ⟨sorted, oldest⟩ := @claimTargets_oldest relay.batchSize w.clock w.db.outboxEvents h.distinct
  have claimed : (relay.claimed w).1 = targets.map (Leased.claim relay.workerId.name d w.clock) := by
    simp only [OutboxRelay.claimed, getPendingOutboxEvents, claimPending, unheld.unlocked]
    rfl
  have ids : (relay.claimed w).1.map Leased.id = targets.map Leased.id := by
    rw [claimed, List.map_map]
    rfl
  have rows {row} (hrow : row ∈ (relay.claimed w).2.db.outboxEvents.rows) :
      (row ∈ w.db.outboxEvents.rows ∧ row.id ∉ targets.map Leased.id) ∨
      ∃ old ∈ targets, row = old.claim relay.workerId.name d w.clock := by
    simp only [OutboxRelay.claimed, getPendingOutboxEvents, unheld.unlocked] at hrow
    rcases mem_claimPending hrow with ⟨hrow, spared⟩ | ⟨old, hold, same, -⟩
    · refine .inl ⟨hrow, ?_⟩
      rw [← ids]
      simpa only [OutboxRelay.claimed, getPendingOutboxEvents, unheld.unlocked] using spared
    · exact .inr ⟨old, hold, same⟩
  have spared {row} (hrow : row ∈ w.db.outboxEvents.rows) (other : row.id ∉ targets.map Leased.id) :
      row ∈ (relay.claimed w).2.db.outboxEvents.rows := by
    simp only [OutboxRelay.claimed, getPendingOutboxEvents, claimPending, unheld.unlocked]
    exact List.mem_map.mpr ⟨row, hrow, if_neg fun taken => other (of_decide_eq_true taken)⟩
  have target {old} (hold : old ∈ targets) : old ∈ w.db.outboxEvents.rows ∧ old.Alive := by
    obtain ⟨hrow, may⟩ := mem_claimTargets hold
    exact ⟨hrow, alive_of_claimable may⟩
  have before {row} (hrow : row ∈ (relay.claimed w).2.db.outboxEvents.rows) :
      ∃ old ∈ w.db.outboxEvents.rows, old.id = row.id ∧ old.createdAt = row.createdAt := by
    rcases rows hrow with ⟨hrow, -⟩ | ⟨old, hold, rfl⟩
    · exact ⟨row, hrow, rfl, rfl⟩
    · exact ⟨old, (target hold).1, rfl, rfl⟩
  have inTurn {row} (turn : InTurn w row) : ∀ other ∈ (relay.claimed w).2.db.outboxEvents.rows,
      other.id ∈ acknowledged w.journal → other.createdAt < row.createdAt := by
    intro other hother acked
    obtain ⟨old, hold, id, date⟩ := before hother
    rw [← date]
    exact turn old hold (id ▸ acked)
  have unclaimed {row} (hrow : row ∈ w.db.outboxEvents.rows) (dead : ¬row.Alive) : row.id ∉ targets.map Leased.id := by
    intro taken
    obtain ⟨old, hold, same⟩ := List.mem_map.mp taken
    rw [← Table.eq_of_key (target hold).1 hrow same] at dead
    exact dead (target hold).2
  constructor
  · constructor
    · have dates : (relay.claimed w).2.db.outboxEvents.rows.map Leased.createdAt =
          w.db.outboxEvents.rows.map Leased.createdAt :=
        @createdAt_update w.db.outboxEvents _ (Leased.claim relay.workerId.name d w.clock) (fun _ => rfl) fun _ => rfl
      rw [dates]
      exact h.distinct
    · intro event mem
      have stored := mem_of_claimed mem
      rw [claimed] at mem
      obtain ⟨old, -, rfl⟩ := List.mem_map.mp mem
      exact ⟨stored, rfl, rfl⟩
    · rw [claimed, List.pairwise_map]
      exact sorted
    · intro row hrow status
      rcases rows hrow with ⟨hrow, -⟩ | ⟨old, -, rfl⟩
      · exact h.sent row hrow status
      · cases status
    · intro id acked
      obtain ⟨row, hrow, same, status⟩ := h.published id acked
      exact ⟨row, spared hrow (unclaimed hrow fun alive => alive.1 (.inl status)), same, status⟩
    · apply h.order.imp
      intro a b older r hr r' hr' ha hb
      obtain ⟨old, hold, id, date⟩ := before hr
      obtain ⟨old', hold', id', date'⟩ := before hr'
      rw [← date, ← date']
      exact older old hold old' hold' (id.trans ha) (id'.trans hb)
    · intro row hrow alive
      rcases rows hrow with ⟨hrow, -⟩ | ⟨old, hold, rfl⟩
      · exact inTurn (h.alive row hrow alive)
      · exact inTurn (h.alive old (target hold).1 (target hold).2)
    · intro event mem
      rw [claimed] at mem
      obtain ⟨old, hold, rfl⟩ := List.mem_map.mp mem
      exact inTurn (h.alive old (target hold).1 (target hold).2)
  · intro row hrow alive absent event mem
    rw [ids] at absent
    rw [claimed] at mem
    obtain ⟨old, hold, rfl⟩ := List.mem_map.mp mem
    rcases rows hrow with ⟨hrow, -⟩ | ⟨other, hother, rfl⟩
    · apply oldest row hrow (claimable_of_alive unheld hrow alive) _ old hold
      exact fun taken => absent (List.mem_map_of_mem taken)
    · exact absurd (List.mem_map_of_mem hother) absent

/-! ## Batch after batch -/

/-- Batches of one relay. Before each nobody else holds a row, and in none does a send succeed after
a failed one that its row survives. -/
inductive OrderlyRun (relay : OutboxRelay) (w₀ : World) : World → Prop
  | start : OrderlyRun relay w₀ w₀
  | batch {v : World} (so_far : OrderlyRun relay w₀ v) (clock : Int) (ends : String → Outcome JsError)
      (unheld : Unheld { v with clock }) (stops : Stops ends (relay.claimed { v with clock }).1) :
      OrderlyRun relay w₀ (relay.batch ends { v with clock })

theorem Sent.initial (unsent : w₀.journal = []) (distinct : (w₀.db.outboxEvents.rows.map Leased.createdAt).Nodup) :
    Sent relay w₀ [] w₀ := by
  have none : acknowledged w₀.journal = [] := by
    rw [unsent]
    rfl
  constructor
  · exact distinct
  · intro event mem
    cases mem
  · exact .nil
  · intro row hrow status
    exact .inl ⟨row, hrow, rfl, status⟩
  · intro id acked
    rw [none] at acked
    cases acked
  · rw [none]
    exact .nil
  · intro row _ _ other _ acked
    rw [none] at acked
    cases acked
  · intro event mem
    cases mem

theorem Sent.batch (h : Sent relay w₀ [] w) (unheld : Unheld w) (stops : Stops sends (relay.claimed w).1) :
    Sent relay w₀ [] (relay.batch sends w) := by
  obtain ⟨claimed, first⟩ := h.claims unheld
  rw [OutboxRelay.batch_eq]
  exact publish_in_order _ _ claimed first stops

theorem orderlyRun_sent (unsent : w₀.journal = []) (distinct : (w₀.db.outboxEvents.rows.map Leased.createdAt).Nodup)
    (run : OrderlyRun relay w₀ w) : Sent relay w₀ [] w := by
  induction run with
  | start => exact .initial unsent distinct
  | @batch v _ clock ends unheld stops ih =>
    have later : Sent relay w₀ [] { v with clock } := { ih with }
    exact later.batch unheld stops

/-- In a list in order, what is smaller comes first. -/
theorem idxOf_lt_of_pairwise {α : Type} [DecidableEq α] {l : List α} {R : α → α → Prop} (ordered : l.Pairwise R) {a b : α}
    (ha : a ∈ l) (hb : b ∈ l) (different : a ≠ b) (not_after : ¬R b a) : l.idxOf a < l.idxOf b := by
  have indexA := List.idxOf_lt_length_of_mem ha
  have indexB := List.idxOf_lt_length_of_mem hb
  rcases Nat.lt_trichotomy (l.idxOf a) (l.idxOf b) with before | same | after
  · exact before
  · have equal : l[l.idxOf a] = l[l.idxOf b] := by simp only [same]
    rw [List.getElem_idxOf, List.getElem_idxOf] at equal
    exact absurd equal different
  · have related := List.pairwise_iff_getElem.mp ordered _ _ indexB indexA after
    rw [List.getElem_idxOf, List.getElem_idxOf] at related
    exact absurd related not_after

/-- Two rows that the run published: the older was sent first. -/
theorem published_in_order (relay : OutboxRelay) (w₀ w : World) (unsent : w₀.journal = [])
    (distinct : (w₀.db.outboxEvents.rows.map Leased.createdAt).Nodup) (run : OrderlyRun relay w₀ w) :
    ∀ r ∈ w.db.outboxEvents.rows, ∀ r' ∈ w.db.outboxEvents.rows, r.status = .published → r'.status = .published →
      (∀ old ∈ w₀.db.outboxEvents.rows, old.id = r.id ∨ old.id = r'.id → old.status ≠ .published) →
      r.createdAt < r'.createdAt →
      r.id ∈ acknowledged w.journal ∧ r'.id ∈ acknowledged w.journal ∧
        (acknowledged w.journal).idxOf r.id < (acknowledged w.journal).idxOf r'.id := by
  intro r hr r' hr' status status' unpublished older
  have h := orderlyRun_sent unsent distinct run
  have sent : r.id ∈ acknowledged w.journal := by
    apply (h.sent r hr status).resolve_left
    rintro ⟨old, hold, same, already⟩
    exact unpublished old hold (.inl same) already
  have sent' : r'.id ∈ acknowledged w.journal := by
    apply (h.sent r' hr' status').resolve_left
    rintro ⟨old, hold, same, already⟩
    exact unpublished old hold (.inr same) already
  refine ⟨sent, sent', idxOf_lt_of_pairwise h.order sent sent' ?_ ?_⟩
  · intro same
    rw [Table.eq_of_key hr hr' same] at older
    omega
  · intro later
    have := later r' hr' r hr rfl rfl
    omega

end

/-- A batch whose claim takes the given rows. -/
theorem batch_of_targets {relay : OutboxRelay} {sends : String → Outcome JsError} {w : World} {targets : List OutboxEventRow}
    (taken : claimTargets relay.batchSize w.clock w.locked w.db.outboxEvents = targets) :
    let claim := Leased.claim relay.workerId.name (relay.leaseDurationSeconds * 1000) w.clock
    relay.batch sends w = (targets.map claim).foldl (fun w event => relay.published sends event w)
      { w with db := { w.db with
        outboxEvents := w.db.outboxEvents.update (fun r => r.id ∈ targets.map Leased.id) claim fun _ => rfl } } := by
  subst taken
  exact OutboxRelay.batch_eq w

def twoRows : World :=
  { World.empty with
    db := { Db.empty with
      outboxEvents := insertOutboxEvent "outbox_2" sampleBody 1 (insertOutboxEvent "outbox_1" sampleBody 0 .empty) }
    clock := 5000 }

def olderRow : OutboxEventRow := .fresh "outbox_1" sampleBody 0

def youngerRow : OutboxEventRow := .fresh "outbox_2" sampleBody 1

theorem twoRows_targets : claimTargets (oneRelay ()).batchSize twoRows.clock twoRows.locked twoRows.db.outboxEvents =
    [olderRow, youngerRow] := by
  have claimable : (twoRows.db.outboxEvents.rows.filter fun r => r.claimable twoRows.clock && !twoRows.locked r.id) =
      [youngerRow, olderRow] := by
    decide +kernel
  unfold claimTargets
  rw [claimable]
  simp [List.mergeSort, olderRow, youngerRow, Leased.fresh, oneRelay]

def allSent : World := (oneRelay ()).batch (fun _ => .ok) twoRows

/-- One batch publishes both rows, the older one first. -/
theorem two_rows_in_order :
    (allSent.db.outboxEvents.rows.map fun row => (row.id, row.status)) = [("outbox_2", .published), ("outbox_1", .published)] ∧
    ∀ r ∈ allSent.db.outboxEvents.rows, ∀ r' ∈ allSent.db.outboxEvents.rows, r.status = .published → r'.status = .published →
      r.createdAt < r'.createdAt → (acknowledged allSent.journal).idxOf r.id < (acknowledged allSent.journal).idxOf r'.id := by
  constructor
  · rw [allSent, batch_of_targets twoRows_targets]
    decide +kernel
  · have unpublished : ∀ old ∈ twoRows.db.outboxEvents.rows, old.status ≠ .published := by decide +kernel
    have unheld : Unheld twoRows := by
      refine ⟨rfl, fun row hrow processing => ?_⟩
      have pending : ∀ row ∈ twoRows.db.outboxEvents.rows, row.status = .pending := by decide +kernel
      rw [pending row hrow] at processing
      cases processing
    have stops : Stops (fun _ => .ok) ((oneRelay ()).claimed twoRows).1 :=
      List.pairwise_of_forall fun _ _ failed => absurd rfl failed
    have run : OrderlyRun (oneRelay ()) twoRows allSent := .batch .start 5000 (fun _ => .ok) unheld stops
    intro r hr r' hr' status status' older
    exact (published_in_order (oneRelay ()) twoRows allSent rfl (by decide +kernel) run r hr r' hr' status status'
      (fun old hold _ => unpublished old hold) older).2.2

/-- The first send of the older row fails. -/
def olderFails (id : String) : Outcome JsError :=
  if id = "outbox_1" then .rejected { message := "broker not available" } else .ok

/-- The younger row is sent in the same batch, and the older one in the next. -/
def overtaking : World := (oneRelay ()).batch (fun _ => .ok) ((oneRelay ()).batch olderFails twoRows)

/-- Both rows end PUBLISHED, and the younger one was sent first. -/
theorem younger_row_overtakes :
    (overtaking.db.outboxEvents.rows.map fun row => (row.id, row.status, row.createdAt)) =
      [("outbox_2", .published, 1), ("outbox_1", .published, 0)] ∧
    acknowledged overtaking.journal = ["outbox_2", "outbox_1"] := by
  rw [overtaking, batch_of_targets twoRows_targets]
  decide +kernel

end Fulfillment
