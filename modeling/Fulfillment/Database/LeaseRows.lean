import Fulfillment.Database.LeaseHistory
import Fulfillment.Database.Service
import Mathlib

/-!
# The rows of the lease tables

Which lease columns can stand together, for `outbox_events` and `dlq_outbox`
alike, and that attempts are only counted up.
-/

namespace Fulfillment

open Relational Effects

def Db.markDLQOutboxFailed (id error : String) (workerId : Option String) (db : Db) : Db :=
  { db with dlqOutbox := (markFailed id error workerId db.dlqOutbox).2 }

variable {β : Type}

structure Leased.Coherent (r : Leased β) : Prop where
  attempts : r.attempts ≤ 10
  pending : r.status = .pending → r.attempts ≤ 9 ∧ r.leaseOwner = none ∧ r.leaseExpiresAt = none
  processing : r.status = .processing →
    1 ≤ r.attempts ∧ r.leaseOwner.isSome = true ∧ r.leaseExpiresAt.isSome = true
  published : r.status = .published →
    1 ≤ r.attempts ∧ r.leaseOwner = none ∧ r.leaseExpiresAt = none ∧ r.publishedAt.isSome = true
  failed : r.status = .failed →
    r.attempts = 10 ∧ r.leaseOwner = none ∧ r.leaseExpiresAt = none ∧ r.lastError.isSome = true

/-- No row goes, and none is counted down. -/
def AttemptsGrow (t t' : LeaseTable β) : Prop := ∀ r ∈ t.rows, ∃ r' ∈ t'.rows, r'.id = r.id ∧ r.attempts ≤ r'.attempts

/-- A statement on one of the tables. -/
inductive LeaseStatement : LeaseTable β → LeaseTable β → Prop
  | insert (t : LeaseTable β) (id : String) (body : β) (now : Int) : LeaseStatement t (insertPending id body now t)
  | claim (t : LeaseTable β) (limit : Nat) (workerId : String) (leaseDuration now : Int) (locked : String → Bool) :
    LeaseStatement t (claimPending limit workerId leaseDuration now locked t).2
  | markPublished (t : LeaseTable β) (id : String) (workerId : Option String) (now : Int) :
    LeaseStatement t (markPublished id workerId now t).2
  | markFailed (t : LeaseTable β) (id error : String) (workerId : Option String) :
    LeaseStatement t (markFailed id error workerId t).2

theorem Leased.Coherent.fresh (id : String) (body : β) (now : Int) : (Leased.fresh id body now).Coherent :=
  ⟨Nat.zero_le _, fun _ => ⟨Nat.zero_le _, rfl, rfl⟩, nofun, nofun, nofun⟩

theorem Leased.Coherent.claim {r : Leased β} {now : Int} (claimable : r.claimable now = true) (workerId : String)
    (leaseDuration : Int) : (r.claim workerId leaseDuration now).Coherent := by
  have below : r.attempts < 10 := (of_decide_eq_true claimable).2
  constructor
  · exact below
  · nofun
  · exact fun _ => ⟨Nat.succ_pos _, rfl, rfl⟩
  · nofun
  · nofun

theorem Leased.processing_of_held {r : Leased β} {id : String} {workerId : Option String}
    (held : r.heldBy id workerId = true) : r.status = .processing := (of_decide_eq_true held).2.1

theorem Leased.Coherent.publish {r : Leased β} (h : r.Coherent) (processing : r.status = .processing) (now : Int) :
    (r.publish now).Coherent := by
  obtain ⟨claimed, -, -⟩ := h.processing processing
  exact ⟨h.attempts, nofun, nofun, fun _ => ⟨claimed, rfl, rfl, rfl⟩, nofun⟩

theorem Leased.Coherent.fail {r : Leased β} (h : r.Coherent) (error : String) : (r.fail error).Coherent := by
  have bound := h.attempts
  have status : (r.fail error).status = if 10 ≤ r.attempts then .failed else .pending := rfl
  constructor
  · exact bound
  · intro pending
    rw [status] at pending
    by_cases last : 10 ≤ r.attempts
    · rw [if_pos last] at pending
      cases pending
    · exact ⟨Nat.le_of_lt_succ (Nat.not_le.mp last), rfl, rfl⟩
  · intro processing
    rw [status] at processing
    split at processing <;> cases processing
  · intro published
    rw [status] at published
    split at published <;> cases published
  · intro failed
    rw [status] at failed
    by_cases last : 10 ≤ r.attempts
    · exact ⟨Nat.le_antisymm bound last, rfl, rfl, rfl⟩
    · rw [if_neg last] at failed
      cases failed

theorem LeaseStatement.coherent {t t' : LeaseTable β} (h : LeaseStatement t t') (coherent : ∀ r ∈ t.rows, r.Coherent) :
    ∀ r ∈ t'.rows, r.Coherent := by
  intro r hr
  cases h with
  | insert id body now =>
    rcases Table.mem_insertOrIgnore.mp hr with hr | ⟨rfl, -⟩
    · exact coherent r hr
    · exact .fresh id body now
  | claim limit workerId leaseDuration now locked =>
    rcases mem_claimPending hr with ⟨hr, -⟩ | ⟨old, target, rfl, -⟩
    · exact coherent r hr
    · exact .claim (mem_claimTargets target).2 workerId leaseDuration
  | markPublished id workerId now =>
    have updated : r ∈ (t.update (Leased.heldBy id workerId) (Leased.publish now) fun _ => rfl).rows := hr
    obtain ⟨old, hold, rfl⟩ := (Table.mem_update _).mp updated
    split
    · rename_i held
      exact (coherent old hold).publish (Leased.processing_of_held held) now
    · exact coherent old hold
  | markFailed id error workerId =>
    have updated : r ∈ (t.update (Leased.heldBy id workerId) (Leased.fail error) fun _ => rfl).rows := hr
    obtain ⟨old, hold, rfl⟩ := (Table.mem_update _).mp updated
    split
    · exact (coherent old hold).fail error
    · exact coherent old hold

theorem AttemptsGrow.refl (t : LeaseTable β) : AttemptsGrow t t := fun r hr => ⟨r, hr, rfl, Nat.le_refl _⟩

theorem AttemptsGrow.trans {a b c : LeaseTable β} (h : AttemptsGrow a b) (h' : AttemptsGrow b c) : AttemptsGrow a c := by
  intro r hr
  obtain ⟨r', hr', id, attempts⟩ := h r hr
  obtain ⟨r'', hr'', id', attempts'⟩ := h' r' hr'
  exact ⟨r'', hr'', id'.trans id, Nat.le_trans attempts attempts'⟩

theorem attemptsGrow_update {t : LeaseTable β} {p : Leased β → Bool} (f : Leased β → Leased β)
    (keeps : ∀ r, (f r).id = r.id) (attempts : ∀ r, r.attempts ≤ (f r).attempts) : AttemptsGrow t (t.update p f keeps) := by
  intro r hr
  refine ⟨_, (Table.mem_update keeps).mpr ⟨r, hr, rfl⟩, ?_⟩
  split
  · exact ⟨keeps r, attempts r⟩
  · exact ⟨rfl, Nat.le_refl _⟩

theorem LeaseStatement.attemptsGrow {t t' : LeaseTable β} (h : LeaseStatement t t') : AttemptsGrow t t' := by
  cases h with
  | insert id body now => exact fun r hr => ⟨r, Table.mem_insertOrIgnore.mpr (.inl hr), rfl, Nat.le_refl _⟩
  | claim limit workerId leaseDuration now locked =>
    exact attemptsGrow_update (Leased.claim workerId leaseDuration now) (fun _ => rfl) fun _ => Nat.le_succ _
  | markPublished id workerId now =>
    exact attemptsGrow_update (Leased.publish now) (fun _ => rfl) fun _ => Nat.le_refl _
  | markFailed id error workerId =>
    exact attemptsGrow_update (Leased.fail error) (fun _ => rfl) fun _ => Nat.le_refl _

/-! ## Both tables -/

/-- The statements of the database service on the two tables. -/
inductive OutboxStatement : Db → Db → Prop
  | insertOutboxEvent (db : Db) (id : String) (body : OutboxBody) (now : Int) :
    OutboxStatement db { db with outboxEvents := insertOutboxEvent id body now db.outboxEvents }
  | getPendingOutboxEvents (db : Db) (limit : Nat) (workerId : String) (leaseDurationSeconds now : Int)
      (locked : String → Bool) :
    OutboxStatement db { db with
      outboxEvents := (getPendingOutboxEvents limit workerId leaseDurationSeconds now locked db.outboxEvents).2 }
  | markOutboxEventPublished (db : Db) (id : String) (workerId : Option String) (now : Int) :
    OutboxStatement db { db with outboxEvents := (markOutboxEventPublished id workerId now db.outboxEvents).2 }
  | markOutboxEventFailed (db : Db) (id error : String) (workerId : Option String) :
    OutboxStatement db { db with outboxEvents := (markOutboxEventFailed id error workerId db.outboxEvents).2 }
  | insertDLQOutboxEvent (db : Db) (id : String) (body : DlqOutboxBody) (now : Int) :
    OutboxStatement db (db.insertDLQOutboxEvent id body now)
  | getPendingDLQOutboxEvents (db : Db) (limit : Nat) (workerId : String) (leaseDurationSeconds now : Int)
      (locked : String → Bool) :
    OutboxStatement db (db.getPendingDLQOutboxEvents limit workerId leaseDurationSeconds now locked).2
  | markDLQOutboxPublished (db : Db) (id : String) (workerId : Option String) (now : Int) :
    OutboxStatement db (db.markDLQOutboxPublished id workerId now)
  | markDLQOutboxFailed (db : Db) (id error : String) (workerId : Option String) :
    OutboxStatement db (db.markDLQOutboxFailed id error workerId)

def outboxStatements : System Db where
  init db := db = .empty
  step := OutboxStatement

/-- A statement works on one of the tables. -/
theorem OutboxStatement.tables {db db' : Db} (h : OutboxStatement db db') :
    LeaseStatement db.outboxEvents db'.outboxEvents ∧ db'.dlqOutbox = db.dlqOutbox ∨
    db'.outboxEvents = db.outboxEvents ∧ LeaseStatement db.dlqOutbox db'.dlqOutbox := by
  cases h with
  | insertOutboxEvent id body now => exact .inl ⟨.insert .., rfl⟩
  | getPendingOutboxEvents limit workerId d now locked => exact .inl ⟨.claim .., rfl⟩
  | markOutboxEventPublished id workerId now => exact .inl ⟨.markPublished .., rfl⟩
  | markOutboxEventFailed id error workerId => exact .inl ⟨.markFailed .., rfl⟩
  | insertDLQOutboxEvent id body now => exact .inr ⟨rfl, .insert ..⟩
  | getPendingDLQOutboxEvents limit workerId d now locked => exact .inr ⟨rfl, .claim ..⟩
  | markDLQOutboxPublished id workerId now => exact .inr ⟨rfl, .markPublished ..⟩
  | markDLQOutboxFailed id error workerId => exact .inr ⟨rfl, .markFailed ..⟩

theorem reachable_coherent {db : Db} (h : Reachable outboxStatements db) :
    (∀ r ∈ db.outboxEvents.rows, r.Coherent) ∧ ∀ r ∈ db.dlqOutbox.rows, r.Coherent := by
  apply h.invariant (fun db => (∀ r ∈ db.outboxEvents.rows, r.Coherent) ∧ ∀ r ∈ db.dlqOutbox.rows, r.Coherent)
  · rintro db rfl
    constructor <;> intro r hr <;> cases hr
  · rintro db db' - ⟨outbox, dlq⟩ step
    rcases OutboxStatement.tables step with ⟨statement, same⟩ | ⟨same, statement⟩
    · exact ⟨statement.coherent outbox, same ▸ dlq⟩
    · exact ⟨same ▸ outbox, statement.coherent dlq⟩

theorem statements_attemptsGrow {db db' : Db} (h : Relation.ReflTransGen OutboxStatement db db') :
    AttemptsGrow db.outboxEvents db'.outboxEvents ∧ AttemptsGrow db.dlqOutbox db'.dlqOutbox := by
  induction h with
  | refl => exact ⟨.refl _, .refl _⟩
  | tail _ step ih =>
    obtain ⟨outbox, dlq⟩ := ih
    rcases step.tables with ⟨statement, same⟩ | ⟨same, statement⟩
    · exact ⟨outbox.trans statement.attemptsGrow, same ▸ dlq⟩
    · exact ⟨same ▸ outbox, dlq.trans statement.attemptsGrow⟩

/-- In every reachable state the columns of every row go together, and no later
state has fewer attempts for it. -/
theorem lease_rows_coherent (db : Db) (reachable : Reachable outboxStatements db) :
    (∀ r ∈ db.outboxEvents.rows, r.Coherent) ∧ (∀ r ∈ db.dlqOutbox.rows, r.Coherent) ∧
    ∀ db', Relation.ReflTransGen OutboxStatement db db' →
      AttemptsGrow db.outboxEvents db'.outboxEvents ∧ AttemptsGrow db.dlqOutbox db'.dlqOutbox := by
  obtain ⟨outbox, dlq⟩ := reachable_coherent reachable
  exact ⟨outbox, dlq, fun _ later => statements_attemptsGrow later⟩

def storedLetter : Db :=
  Db.empty.insertDLQOutboxEvent "outbox_dlq_1" ⟨"dlq_1", "platform.dlq",
    { dlqId := "dlq_1"
      originalTopic := "payments.events"
      originalPartition := 0
      originalOffset := "7"
      consumerName := "payment-service"
      errorMessage := "Unexpected token"
      stackTrace := none
      failedAt := "2026-01-01T10:00:00.000Z"
      content := .malformed "payment" }⟩ 0

def orderBody : OutboxBody where
  aggregateId := "ord_1"
  aggregateType := "Order"
  eventType := .orderCreated
  eventVersion := 1
  payload := []
  correlationId := "corr_1"
  causationId := "cause_1"
  topic := "orders.events"

def Db.claimOutboxEvents (workerId : String) (now : Int) (db : Db) : Db :=
  { db with outboxEvents := (getPendingOutboxEvents 50 workerId 30 now (fun _ => false) db.outboxEvents).2 }

/-- A row that a relay claims and publishes, and a row that it claims and fails to send. -/
def triedTables : Db :=
  let first := { storedLetter with outboxEvents := insertOutboxEvent "evt_1" orderBody 0 storedLetter.outboxEvents }
  let claimed := first.claimOutboxEvents "relay_a" 1000
  let published := { claimed with
    outboxEvents := (markOutboxEventPublished "evt_1" (some "relay_a") 1000 claimed.outboxEvents).2 }
  let second := { published with outboxEvents := insertOutboxEvent "evt_2" orderBody 1000 published.outboxEvents }
  let reclaimed := second.claimOutboxEvents "relay_a" 2000
  { reclaimed with
    outboxEvents := (markOutboxEventFailed "evt_2" "Broker not available" (some "relay_a") reclaimed.outboxEvents).2 }

/-- The letter is claimed, and the second row once more. -/
def workedTables : Db :=
  (triedTables.getPendingDLQOutboxEvents 50 "default-dlq-worker" 30 3000 fun _ => false).2.claimOutboxEvents "relay_b" 3000

theorem lease_rows_coherent_worked :
    (∀ r ∈ workedTables.outboxEvents.rows, r.Coherent) ∧ (∀ r ∈ workedTables.dlqOutbox.rows, r.Coherent) ∧
    AttemptsGrow triedTables.outboxEvents workedTables.outboxEvents ∧
    workedTables.outboxEvents.rows.map (fun r => (r.id, r.status, r.attempts)) =
      [("evt_2", .processing, 2), ("evt_1", .published, 1)] ∧
    workedTables.dlqOutbox.rows.map (fun r => (r.status, r.attempts)) = [(.processing, 1)] := by
  have inserted : Relation.ReflTransGen OutboxStatement .empty storedLetter := .single (.insertDLQOutboxEvent ..)
  have steps : Relation.ReflTransGen OutboxStatement storedLetter triedTables :=
    (((((Relation.ReflTransGen.single (.insertOutboxEvent ..)).tail (.getPendingOutboxEvents ..)).tail
      (.markOutboxEventPublished ..)).tail (.insertOutboxEvent ..)).tail (.getPendingOutboxEvents ..)).tail
        (.markOutboxEventFailed ..)
  have tried : Reachable outboxStatements triedTables := Reachable.steps (.start rfl) (inserted.trans steps)
  have later : Relation.ReflTransGen OutboxStatement triedTables workedTables :=
    .tail (.single (.getPendingDLQOutboxEvents ..)) (.getPendingOutboxEvents ..)
  obtain ⟨-, -, grow⟩ := lease_rows_coherent triedTables tried
  obtain ⟨outbox, dlq, -⟩ := lease_rows_coherent workedTables (tried.steps later)
  exact ⟨outbox, dlq, (grow workedTables later).1, by decide +kernel, by decide +kernel⟩

end Fulfillment
