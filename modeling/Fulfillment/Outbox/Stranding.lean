import Fulfillment.Outbox.Publication

/-!
# Rows that no relay will claim again

A claim counts an attempt, and only a failure mark makes a row `FAILED`. A row
whose tenth claim ends in neither mark stays `PROCESSING`, and no claim takes
it.

* `stranded_iff`: which rows a state has lost;
* `none_stranded_iff_punctual`: a run loses no row just when every tenth lease
  is settled before it runs out;
* `stays_stranded`: a lost row that no relay is working on stays as it is.
-/

namespace Fulfillment

open Js Relational Effects

/-- A claim of enough rows, made while nothing is locked, returns the row. -/
def Returned (row : OutboxEventRow) (now : Int) (t : OutboxTable) : Prop :=
  ∃ enough, ∀ limit, enough ≤ limit → ∀ workerId leaseDurationSeconds,
    row.id ∈ (getPendingOutboxEvents limit workerId leaseDurationSeconds now (fun _ => false) t).1.map Leased.id

def LeaseExpired (row : OutboxEventRow) (now : Int) : Prop := row.leaseExpiresAt.all (· < now) = true

/-- The row is done with, or a claim will return it, once its lease has expired
if it has one. -/
def NotStranded (w : World) (row : OutboxEventRow) : Prop :=
  row.status = .published ∨ row.status = .failed ∨
  (row.status = .pending ∧ Returned row w.clock w.db.outboxEvents) ∨
  (row.status = .processing ∧ (LeaseExpired row w.clock → Returned row w.clock w.db.outboxEvents))

def NoneStranded (w : World) : Prop := ∀ row ∈ w.db.outboxEvents.rows, NotStranded w row

/-- The relays over an outbox that starts empty. -/
def outboxRuns {ι : Type} (relays : ι → OutboxRelay) : Machine JsError World Answer ι Unit Nat :=
  { relaying relays with init := fun w => w.db.outboxEvents = .empty }

/-- A claim that takes a row for the tenth time and leaves its lease expired. -/
def ClaimsOverdue (c : Call) (o : Outcome JsError) (w : World) : Prop :=
  ∃ limit workerId d, c = .getPendingOutboxEvents limit workerId d ∧
    o.acted = true ∧ columnsFit c w = true ∧ d < 0 ∧
    ∃ row ∈ claimTargets limit w.clock w.locked w.db.outboxEvents, row.attempts = 9

/-- Time that runs past the lease of a row claimed for the tenth time. -/
def RunsOut (w w' : World) : Prop :=
  ∃ row ∈ w.db.outboxEvents.rows, row.status = .processing ∧ row.attempts = 10 ∧
    row.leaseExpiresAt.all (· < w'.clock) = true

/-- The runs in which every tenth lease is settled in time. -/
def punctual {ι : Type} (relays : ι → OutboxRelay) : Machine JsError World Answer ι Unit Nat :=
  { outboxRuns relays with
    allowed := fun _ _ c o w => ¬ClaimsOverdue c o w
    environment := fun w w' => Elsewhere w w' ∧ ¬RunsOut w w' }

theorem mem_ids_of_claimable {t : OutboxTable} {row : OutboxEventRow} {now : Int} (hr : row ∈ t.rows)
    (h : row.claimable now = true) {limit : Nat} (enough : t.rows.length ≤ limit) (workerId : String) (d : Int) :
    row.id ∈ (getPendingOutboxEvents limit workerId d now (fun _ => false) t).1.map Leased.id := by
  have all : claimTargets limit now (fun _ => false) t =
      (t.rows.filter fun r => r.claimable now && !false).mergeSort fun a b => a.createdAt ≤ b.createdAt := by
    unfold claimTargets
    apply List.take_of_length_le
    rw [List.length_mergeSort]
    exact Nat.le_trans (List.length_filter_le _ _) enough
  have taken : row ∈ claimTargets limit now (fun _ => false) t := by
    rw [all, List.mem_mergeSort]
    simp [hr, h]
  simp only [getPendingOutboxEvents, claimPending, List.map_map]
  exact List.mem_map.mpr ⟨row, taken, rfl⟩

theorem returned_iff {t : OutboxTable} {row : OutboxEventRow} {now : Int} (hr : row ∈ t.rows) :
    Returned row now t ↔ row.claimable now = true := by
  constructor
  · rintro ⟨enough, h⟩
    have taken := h enough (Nat.le_refl _) "" 0
    simp only [getPendingOutboxEvents, claimPending, List.map_map] at taken
    obtain ⟨target, htarget, hid⟩ := List.mem_map.mp taken
    obtain ⟨hmem, hclaimable⟩ := mem_claimTargets htarget
    obtain rfl := Table.eq_of_key hmem hr hid
    exact hclaimable
  · intro h
    exact ⟨t.rows.length, fun limit enough workerId d => mem_ids_of_claimable hr h enough workerId d⟩

theorem claimable_iff {β : Type} {r : Leased β} {now : Int} : r.claimable now = true ↔
    (r.status = .pending ∨ r.status = .processing ∧ r.leaseExpiresAt.all (· < now) = true) ∧ r.attempts < 10 := by
  simp [Leased.claimable]

/-- What the claims and marks keep true of a row. -/
structure Counted (row : OutboxEventRow) : Prop where
  atMost : row.attempts ≤ 10
  pending : row.status = .pending → row.attempts < 10

/-- The lost rows are the `PROCESSING` ones whose tenth lease has expired. -/
theorem stranded_iff {w : World} {row : OutboxEventRow} (hr : row ∈ w.db.outboxEvents.rows) (counted : Counted row) :
    ¬NotStranded w row ↔ row.status = .processing ∧ row.attempts = 10 ∧ LeaseExpired row w.clock := by
  have atMost := counted.atMost
  have pending := counted.pending
  unfold NotStranded
  rw [returned_iff hr, claimable_iff]
  cases hs : row.status with
  | pending => simp [pending hs]
  | published => simp
  | failed => simp
  | processing =>
    simp only [reduceCtorEq, false_or, false_and, true_and, Classical.not_imp, LeaseExpired]
    constructor
    · rintro ⟨expired, h⟩
      have : ¬row.attempts < 10 := fun few => h ⟨expired, few⟩
      exact ⟨by omega, expired⟩
    · rintro ⟨ten, expired⟩
      exact ⟨expired, fun h => by omega⟩

/-! ## What a call does to the outbox -/

/-- The statements that write the table are claims and marks, and none moves the clock. -/
theorem carryOut_outbox (c : Call) (acked : Bool) (w : World) :
    let w' := (carryOut .none c acked w).2
    w'.clock = w.clock ∧
    (w'.db.outboxEvents = w.db.outboxEvents ∨
      (∃ limit workerId d, c = .getPendingOutboxEvents limit workerId d ∧
        w'.db.outboxEvents = (claimPending limit workerId (d * 1000) w.clock w.locked w.db.outboxEvents).2) ∨
      (∃ id workerId, c = .markOutboxEventPublished id workerId ∧
        w'.db.outboxEvents = (markPublished id (some workerId) w.clock w.db.outboxEvents).2) ∨
      ∃ id error workerId, c = .markOutboxEventFailed id error workerId ∧
        w'.db.outboxEvents = (markFailed id error (some workerId) w.db.outboxEvents).2) := by
  cases c with
  | getPendingOutboxEvents limit workerId d => exact ⟨rfl, .inr (.inl ⟨limit, workerId, d, rfl, rfl⟩)⟩
  | markOutboxEventPublished id workerId => exact ⟨rfl, .inr (.inr (.inl ⟨id, workerId, rfl, rfl⟩))⟩
  | markOutboxEventFailed id error workerId =>
    exact ⟨rfl, .inr (.inr (.inr ⟨id, error, workerId, rfl, rfl⟩))⟩
  | compensationBarrier sagaParam completedAction correlationId =>
    rcases h : executeBarrierUpdate sagaParam completedAction correlationId w.db with ⟨_ | row, notice⟩
    · simp [carryOut, h]
    · simp [carryOut, h, World.saveSaga, Db.saveSagaInstance]
  | persistDeadLetter dlq marksFailed outboxId => cases marksFailed <;> exact ⟨rfl, .inl rfl⟩
  | _ => exact ⟨rfl, .inl rfl⟩

theorem attempts_of_target {β : Type} {limit : Nat} {now : Int} {locked : String → Bool} {t : LeaseTable β}
    {r : Leased β} (h : r ∈ claimTargets limit now locked t) : r.attempts < 10 :=
  (claimable_iff.mp (mem_claimTargets h).2).2

/-- The rows after a call are old ones, claimed ones and marked ones. -/
theorem mem_exec_outbox {c : Call} {o : Outcome JsError} {w : World} {row : OutboxEventRow}
    (h : row ∈ ((platform .none).exec c o w).2.db.outboxEvents.rows) :
    row ∈ w.db.outboxEvents.rows ∨
    (∃ limit workerId d, c = .getPendingOutboxEvents limit workerId d ∧ o.acted = true ∧ columnsFit c w = true ∧
      ∃ old ∈ claimTargets limit w.clock w.locked w.db.outboxEvents, row = old.claim workerId (d * 1000) w.clock) ∨
    ∃ old ∈ w.db.outboxEvents.rows, row = old.publish w.clock ∨ ∃ error, row = old.fail error := by
  rw [platform_exec_state] at h
  split at h
  case isFalse => exact .inl h
  rename_i acted
  obtain ⟨hacted, hfits⟩ := Bool.and_eq_true_iff.mp acted
  obtain ⟨-, same | ⟨limit, workerId, d, hc, ht⟩ | ⟨id, workerId, hc, ht⟩ | ⟨id, error, workerId, hc, ht⟩⟩ :=
    carryOut_outbox c (o = .ok) w
  · rw [same] at h
    exact .inl h
  · rw [ht] at h
    rcases mem_claimPending h with ⟨hold, -⟩ | ⟨old, hold, rfl, -⟩
    · exact .inl hold
    · exact .inr (.inl ⟨limit, workerId, d, hc, hacted, hfits, old, hold, rfl⟩)
  · rw [ht] at h
    obtain ⟨old, hold, rfl⟩ := List.mem_map.mp h
    split
    · exact .inr (.inr ⟨old, hold, .inl rfl⟩)
    · exact .inl hold
  · rw [ht] at h
    obtain ⟨old, hold, rfl⟩ := List.mem_map.mp h
    split
    · exact .inr (.inr ⟨old, hold, .inr ⟨error, rfl⟩⟩)
    · exact .inl hold

theorem exec_clock (c : Call) (o : Outcome JsError) (w : World) :
    ((platform .none).exec c o w).2.clock = w.clock := by
  rw [platform_exec_state]
  split
  · exact (carryOut_outbox c (o = .ok) w).1
  · rfl

theorem counted_claim {old : OutboxEventRow} (few : old.attempts < 10) (workerId : String) (d now : Int) :
    Counted (old.claim workerId d now) where
  atMost := few
  pending h := LeaseStatus.noConfusion h

theorem counted_fail {old : OutboxEventRow} (counted : Counted old) (error : String) : Counted (old.fail error) where
  atMost := counted.atMost
  pending h := by
    simp only [Leased.fail] at h ⊢
    by_cases ten : 10 ≤ old.attempts
    · simp [ten] at h
    · omega

theorem counted_publish {old : OutboxEventRow} (counted : Counted old) (now : Int) : Counted (old.publish now) where
  atMost := counted.atMost
  pending h := LeaseStatus.noConfusion h

theorem counted_exec {c : Call} {o : Outcome JsError} {w : World}
    (inv : ∀ row ∈ w.db.outboxEvents.rows, Counted row) :
    ∀ row ∈ ((platform .none).exec c o w).2.db.outboxEvents.rows, Counted row := by
  intro row hrow
  rcases mem_exec_outbox hrow with hold | ⟨limit, workerId, d, -, -, -, old, hold, rfl⟩ |
    ⟨old, hold, rfl | ⟨error, rfl⟩⟩
  · exact inv row hold
  · exact counted_claim (attempts_of_target hold) workerId (d * 1000) w.clock
  · exact counted_publish (inv old hold) w.clock
  · exact counted_fail (inv old hold) error

theorem mem_elsewhere {w w' : World} (h : Elsewhere w w') {row : OutboxEventRow}
    (hr : row ∈ w'.db.outboxEvents.rows) :
    row ∈ w.db.outboxEvents.rows ∨ row.status = .pending ∧ row.attempts = 0 := by
  rcases h.outboxEvents with same | ⟨id, body, now, inserted⟩
  · rw [same] at hr
    exact .inl hr
  · rw [inserted] at hr
    rcases Table.mem_insertOrIgnore.mp hr with hold | ⟨rfl, -⟩
    · exact .inl hold
    · exact .inr ⟨rfl, rfl⟩

theorem counted_elsewhere {w w' : World} (h : Elsewhere w w')
    (inv : ∀ row ∈ w.db.outboxEvents.rows, Counted row) : ∀ row ∈ w'.db.outboxEvents.rows, Counted row := by
  intro row hrow
  rcases mem_elsewhere h hrow with hold | ⟨-, none⟩
  · exact inv row hold
  · exact ⟨by omega, fun _ => by omega⟩

/-! ## Runs -/

section

variable {ι : Type} [DecidableEq ι] {relays : ι → OutboxRelay}

theorem reachable_counted {p : Pool JsError World Answer ι Unit Nat}
    (h : Reachable (outboxRuns relays).system p) : ∀ row ∈ p.shared.db.outboxEvents.rows, Counted row := by
  apply h.invariant fun p => ∀ row ∈ p.shared.db.outboxEvents.rows, Counted row
  · intro p hp row hrow
    rw [show p.shared.db.outboxEvents = .empty from hp.1] at hrow
    cases hrow
  · intro p q _ inv step
    cases step with
    | start | leave => exact inv
    | call i w c k o busy next allowed => exact counted_exec inv
    | environment w moves => exact counted_elsewhere moves inv

/-- Every step of a punctual run is a step of the relays. -/
theorem punctual_step {p q : Pool JsError World Answer ι Unit Nat} (h : (punctual relays).system.step p q) :
    (outboxRuns relays).system.step p q := by
  cases h with
  | start i job free startable => exact .start i job free startable
  | call i w c k o busy next allowed => exact .call i w c k o busy next trivial
  | leave i w busy leaves => exact .leave i w busy leaves
  | environment w moves => exact .environment w moves.1

theorem punctual_reachable {p : Pool JsError World Answer ι Unit Nat} (h : Reachable (punctual relays).system p) :
    Reachable (outboxRuns relays).system p := by
  induction h with
  | start hs => exact .start hs
  | next _ step ih => exact .next ih (punctual_step step)

/-- No row has an expired tenth lease. -/
def InTime (w : World) : Prop :=
  ∀ row ∈ w.db.outboxEvents.rows, row.status = .processing → row.attempts = 10 → ¬LeaseExpired row w.clock

theorem inTime_exec {c : Call} {o : Outcome JsError} {w : World} (inv : InTime w) (allowed : ¬ClaimsOverdue c o w) :
    InTime ((platform .none).exec c o w).2 := by
  intro row hrow hstatus ten
  rw [exec_clock]
  rcases mem_exec_outbox hrow with hold | ⟨limit, workerId, d, hc, hacted, hfits, old, hold, rfl⟩ |
    ⟨old, hold, rfl | ⟨error, rfl⟩⟩
  · exact inv row hold hstatus ten
  · intro expired
    have nine : old.attempts = 9 := by
      have : old.attempts + 1 = 10 := ten
      omega
    have past : w.clock + d * 1000 < w.clock := by simpa [LeaseExpired, Leased.claim] using expired
    exact allowed ⟨limit, workerId, d, hc, hacted, hfits, by omega, old, hold, nine⟩
  · cases hstatus
  · simp only [Leased.fail] at hstatus
    split at hstatus <;> cases hstatus

theorem reachable_inTime {p : Pool JsError World Answer ι Unit Nat} (h : Reachable (punctual relays).system p) :
    InTime p.shared := by
  apply h.invariant fun p => InTime p.shared
  · intro p hp row hrow
    rw [show p.shared.db.outboxEvents = .empty from hp.1] at hrow
    cases hrow
  · intro p q _ inv step
    cases step with
    | start | leave => exact inv
    | call i w c k o busy next allowed => exact inTime_exec inv allowed
    | environment w moves =>
      intro row hrow hstatus ten expired
      rcases mem_elsewhere moves.1 hrow with hold | ⟨pending, -⟩
      · exact moves.2 ⟨row, hold, hstatus, ten, expired⟩
      · rw [pending] at hstatus
        cases hstatus

theorem noneStranded_iff {w : World} (counted : ∀ row ∈ w.db.outboxEvents.rows, Counted row) :
    NoneStranded w ↔ InTime w := by
  constructor
  · intro h row hrow hstatus ten expired
    exact (stranded_iff hrow (counted row hrow)).mpr ⟨hstatus, ten, expired⟩ (h row hrow)
  · intro h row hrow
    by_contra stranded
    obtain ⟨hstatus, ten, expired⟩ := (stranded_iff hrow (counted row hrow)).mp stranded
    exact h row hrow hstatus ten expired

theorem elsewhere_mem {w w' : World} (h : Elsewhere w w') {row : OutboxEventRow}
    (hr : row ∈ w.db.outboxEvents.rows) : row ∈ w'.db.outboxEvents.rows := by
  rcases h.outboxEvents with same | ⟨id, body, now, inserted⟩
  · rw [same]
    exact hr
  · rw [inserted]
    exact Table.mem_insertOrIgnore.mpr (.inl hr)

/-- A claim that is overdue at once strands its row. -/
theorem claimsOverdue_strands {c : Call} {o : Outcome JsError} {w : World} (h : ClaimsOverdue c o w) :
    ¬InTime ((platform .none).exec c o w).2 := by
  obtain ⟨limit, workerId, d, rfl, hacted, hfits, negative, row, htarget, nine⟩ := h
  intro inTime
  have picked : row.id ∈ (claimTargets limit w.clock w.locked w.db.outboxEvents).map Leased.id :=
    List.mem_map_of_mem htarget
  have claimed : row.claim workerId (d * 1000) w.clock ∈
      ((platform .none).exec (.getPendingOutboxEvents limit workerId d) o w).2.db.outboxEvents.rows := by
    rw [platform_exec_state, hacted, hfits]
    exact List.mem_map.mpr ⟨row, (mem_claimTargets htarget).1, if_pos (decide_eq_true picked)⟩
  apply inTime _ claimed rfl (congrArg (· + 1) nine)
  rw [exec_clock]
  have past : w.clock + d * 1000 < w.clock := by omega
  simpa [LeaseExpired, Leased.claim] using past

/-- No row is stranded along a run just when no tenth lease runs out: as long as
time passes no lease of a row claimed for the tenth time, every row is settled
or will be claimed, and the first step that does not keep to this strands a row. -/
theorem none_stranded_iff_punctual :
    (∀ p, Reachable (punctual relays).system p → NoneStranded p.shared) ∧
    ∀ p q, Reachable (outboxRuns relays).system p → (outboxRuns relays).system.step p q →
      ¬(punctual relays).system.step p q → ¬NoneStranded q.shared := by
  constructor
  · intro p h
    exact (noneStranded_iff (reachable_counted (punctual_reachable h))).mpr (reachable_inTime h)
  · intro p q h step late
    rw [noneStranded_iff (reachable_counted (h.next step))]
    cases step with
    | start i job free startable => exact absurd (.start i job free startable) late
    | leave i w busy leaves => exact absurd (.leave i w busy leaves) late
    | call i w c k o busy next allowed =>
      by_cases overdue : ClaimsOverdue c o p.shared
      · exact claimsOverdue_strands overdue
      · exact absurd (.call i w c k o busy next overdue) late
    | environment w moves =>
      by_cases out : RunsOut p.shared w
      · obtain ⟨row, hrow, hstatus, ten, expired⟩ := out
        intro inTime
        exact inTime row (elsewhere_mem moves hrow) hstatus ten expired
      · exact absurd (.environment w ⟨moves, out⟩) late

end

/-! ## A stranded row stays -/

/-- The row is past its tenth claim and was not marked. -/
def Abandoned (row : OutboxEventRow) : Prop := row.status = .processing ∧ row.attempts = 10

/-- The call marks the row with this identifier. -/
def Call.Marks (id : String) : Call → Prop
  | .markOutboxEventPublished id' _ => id' = id
  | .markOutboxEventFailed id' _ _ => id' = id
  | _ => False

/-- Nobody touches the row. -/
def leavesAlone (row : OutboxEventRow) : Contract JsError World Call where
  allowed _ _ _ := True
  rely w w' := row ∈ w.db.outboxEvents.rows → row ∈ w'.db.outboxEvents.rows
  guar w w' := row ∈ w.db.outboxEvents.rows → row ∈ w'.db.outboxEvents.rows

theorem not_claimable_of_abandoned {row : OutboxEventRow} (h : Abandoned row) (now : Int) :
    row.claimable now = false := by
  simp [Leased.claimable, h.2]

/-- A claim takes other rows only. -/
theorem id_ne_of_target {row target : OutboxEventRow} {w : World} (abandoned : Abandoned row)
    (hr : row ∈ w.db.outboxEvents.rows) {limit : Nat}
    (h : target ∈ claimTargets limit w.clock w.locked w.db.outboxEvents) : target.id ≠ row.id := by
  intro same
  obtain ⟨hmem, hclaimable⟩ := mem_claimTargets h
  obtain rfl := Table.eq_of_key hmem hr same
  rw [not_claimable_of_abandoned abandoned] at hclaimable
  cases hclaimable

theorem exec_keeps {row : OutboxEventRow} (abandoned : Abandoned row) {c : Call} (o : Outcome JsError) (w : World)
    (other : ¬c.Marks row.id) :
    (leavesAlone row).guar w ((platform .none).exec c o w).2 := by
  intro hr
  rw [platform_exec_state]
  split
  case isFalse => exact hr
  obtain ⟨-, same | ⟨limit, workerId, d, hc, ht⟩ | ⟨id, workerId, hc, ht⟩ | ⟨id, error, workerId, hc, ht⟩⟩ :=
    carryOut_outbox c (o = .ok) w
  · rw [same]
    exact hr
  · rw [ht]
    refine List.mem_map.mpr ⟨row, hr, if_neg fun picked => ?_⟩
    obtain ⟨target, htarget, hid⟩ := List.mem_map.mp (of_decide_eq_true picked)
    exact id_ne_of_target abandoned hr htarget hid
  · rw [ht]
    refine List.mem_map.mpr ⟨row, hr, if_neg fun held => ?_⟩
    subst hc
    exact other (of_decide_eq_true held).1.symm
  · rw [ht]
    refine List.mem_map.mpr ⟨row, hr, if_neg fun held => ?_⟩
    subst hc
    exact other (of_decide_eq_true held).1.symm

namespace OutboxRelay

variable {row : OutboxEventRow} (relay : OutboxRelay)

theorem publishEvent_leaves (abandoned : Abandoned row) {event : OutboxEventRow} (other : event.id ≠ row.id) (w : World) :
    Safe (platform .none) (leavesAlone row) (fun _ _ => True) (relay.publishEvent event) w := by
  apply Safe.bind
  apply Safe.settle
  apply Safe.mono (Q := fun _ _ => True)
  · intro r t _
    cases r with
    | ok => trivial
    | error err =>
      apply Safe.bind
      apply Safe.await
      intro t' _ o _
      constructor
      · exact exec_keeps abandoned o t' other
      · cases ((platform .none).exec (.markOutboxEventFailed event.id err.message relay.workerId) o t').1 <;> trivial
  · apply Safe.bind
    apply Safe.await
    intro t _ o _
    constructor
    · exact exec_keeps abandoned o t id
    · cases ((platform .none).exec (.send (relay.message event)) o t).1 with
      | error err => trivial
      | ok =>
        apply Safe.await
        intro t' _ o' _
        constructor
        · exact exec_keeps abandoned o' t' other
        · trivial

theorem publishAll_leaves (abandoned : Abandoned row) {events : List OutboxEventRow}
    (others : ∀ event ∈ events, event.id ≠ row.id) (n : Nat) (w : World) :
    Safe (platform .none) (leavesAlone row) (fun _ _ => True) (relay.publishAll events n) w := by
  induction events generalizing n w with
  | nil => trivial
  | cons event events ih =>
    obtain ⟨hevent, hevents⟩ := List.forall_mem_cons.mp others
    apply Safe.bind
    apply (relay.publishEvent_leaves abandoned hevent w).mono
    intro r t _
    cases r with
    | error err => trivial
    | ok => exact ih hevents (n + 1) t

/-- A batch holds other rows only, so its marks are for other rows. -/
theorem processBatch_leaves (abandoned : Abandoned row) {w : World} (hr : row ∈ w.db.outboxEvents.rows) :
    Safe (platform .none) (leavesAlone row) (fun _ _ => True) relay.processBatch w := by
  apply Safe.bind
  apply Safe.await
  intro t ht o _
  constructor
  · exact exec_keeps abandoned o t id
  · rw [platform_exec_value]
    cases o with
    | rejected err | unacked err => trivial
    | ok =>
      dsimp only
      split
      · apply relay.publishAll_leaves abandoned
        intro event hevent
        obtain ⟨target, htarget, rfl⟩ := List.mem_map.mp hevent
        have other : target.id ≠ row.id := id_ne_of_target abandoned (ht hr) htarget
        exact other
      · trivial

end OutboxRelay

section

variable {ι : Type} [DecidableEq ι] {relays : ι → OutboxRelay}

/-- The relays from a given world on. -/
def relaysFrom (relays : ι → OutboxRelay) (w : World) : Machine JsError World Answer ι Unit Nat :=
  { outboxRuns relays with init := fun w' => w' = w }

theorem reachable_from {p q : Pool JsError World Answer ι Unit Nat} (idle : ∀ i, p.workers i = none)
    (h : Relation.ReflTransGen (outboxRuns relays).system.step p q) :
    Reachable (relaysFrom relays p.shared).system q := by
  induction h with
  | refl => exact .start ⟨rfl, idle⟩
  | tail _ step ih =>
    apply ih.next
    cases step with
    | start i job free startable => exact .start i job free startable
    | call i w c k o busy next allowed => exact .call i w c k o busy next allowed
    | leave i w busy leaves => exact .leave i w busy leaves
    | environment w moves => exact .environment w moves

/-- Once every relay that claimed it is gone, a row past its tenth claim is
never claimed and never marked. -/
theorem stays_stranded {p q : Pool JsError World Answer ι Unit Nat} (idle : ∀ i, p.workers i = none)
    {row : OutboxEventRow} (hr : row ∈ p.shared.db.outboxEvents.rows) (abandoned : Abandoned row)
    (h : Relation.ReflTransGen (outboxRuns relays).system.step p q) : row ∈ q.shared.db.outboxEvents.rows := by
  apply ((relaysFrom relays p.shared).relyGuarantee (fun w => row ∈ w.db.outboxEvents.rows)
    (fun _ => leavesAlone row) (fun _ _ _ => True) _ _ _ _ _ _ _ _ (reachable_from idle h)).1
  · exact fun _ _ => id
  · exact fun _ _ _ _ hab hbc ha => hbc (hab ha)
  · exact fun _ _ _ _ _ _ => trivial
  · rintro w rfl
    exact hr
  · exact fun w i _ hw _ => (relays i).processBatch_leaves abandoned hw
  · exact fun _ _ _ _ _ _ _ => trivial
  · exact fun _ w w' hw kept => ⟨kept hw, fun _ _ => kept⟩
  · exact fun w w' hw moves => ⟨elsewhere_mem moves hw, fun _ => elsewhere_mem moves⟩

end

/-! ## Ten crashes -/

/-- The only row after so many claims, one a minute. -/
def crashedRow : Nat → OutboxEventRow
  | 0 => .fresh "outbox_1" sampleBody 0
  | k + 1 => (crashedRow k).claim "relay_a" 30000 ((k + 1) * 60000)

/-- One relay that claimed the row so many times and died right after each claim. -/
def crashed (k : Nat) : Pool JsError World Answer Unit Unit Nat :=
  ⟨{ World.empty with
      db := { Db.empty with outboxEvents := ⟨[crashedRow k], by simp⟩ }
      clock := k * 60000 },
    fun _ => none⟩

theorem crashedRow_attempts (k : Nat) : (crashedRow k).attempts = k := by
  induction k with
  | zero => rfl
  | succ k ih => exact congrArg (· + 1) ih

theorem crashedRow_expires (k : Nat) :
    (crashedRow (k + 1)).leaseExpiresAt = some (((k : Int) + 1) * 60000 + 30000) := rfl

theorem crashedRow_claimable {k : Nat} (few : k < 10) : (crashedRow k).claimable ((k + 1) * 60000) = true := by
  rw [claimable_iff, crashedRow_attempts]
  refine ⟨?_, few⟩
  cases k with
  | zero => exact .inl rfl
  | succ k =>
    refine .inr ⟨rfl, ?_⟩
    rw [crashedRow_expires, Option.all_some, decide_eq_true_eq]
    omega

/-- The world when the relay claims the row again. -/
def beforeClaim (k : Nat) : World := { (crashed k).shared with clock := (k + 1) * 60000 }

theorem claimTargets_crashed {k : Nat} (few : k < 10) :
    claimTargets 50 ((k + 1) * 60000) (fun _ => false) (crashed k).shared.db.outboxEvents = [crashedRow k] := by
  simp [claimTargets, crashed, crashedRow_claimable few]

theorem claim_crashed {k : Nat} (few : k < 10) :
    ((platform .none).exec (.getPendingOutboxEvents 50 "relay_a" 30) .ok (beforeClaim k)).2 =
      (crashed (k + 1)).shared := by
  have fits : columnsFit (.getPendingOutboxEvents 50 "relay_a" 30) (beforeClaim k) = true := by
    change fitsVarchar 100 "relay_a" = true
    decide
  have table : (claimPending 50 "relay_a" 30000 ((k + 1) * 60000) (fun _ => false)
      (crashed k).shared.db.outboxEvents).2 = (crashed (k + 1)).shared.db.outboxEvents := by
    apply Table.ext
    simp only [claimPending, claimTargets_crashed few]
    simp [Table.update, crashed, crashedRow]
  rw [platform_exec_state, fits]
  change ({ beforeClaim k with
    db := { (crashed k).shared.db with
      outboxEvents := (claimPending 50 "relay_a" 30000 ((k + 1) * 60000) (fun _ => false)
        (crashed k).shared.db.outboxEvents).2 } } : World) = _
  rw [table]
  simp [beforeClaim, crashed]

/-- The relay claims and dies. -/
theorem claimThenDie {w : World} (h : Reachable (outboxRuns oneRelay).system ⟨w, fun _ => none⟩) :
    Reachable (outboxRuns oneRelay).system
      ⟨((platform .none).exec (.getPendingOutboxEvents 50 "relay_a" 30) .ok w).2, fun _ => none⟩ := by
  have started := h.next (.start () () rfl trivial)
  have claimed := started.next (.call () _ (.getPendingOutboxEvents 50 "relay_a" 30) _ .ok rfl rfl trivial)
  have died := claimed.next (.leave () _ rfl trivial)
  convert died using 2
  · rfl
  · funext i
    rfl

theorem crash_reachable {k : Nat} (few : k < 10) (h : Reachable (outboxRuns oneRelay).system (crashed k)) :
    Reachable (outboxRuns oneRelay).system (crashed (k + 1)) := by
  have waited : Reachable (outboxRuns oneRelay).system ⟨beforeClaim k, fun _ => none⟩ :=
    h.next (.environment (beforeClaim k) ⟨.inl rfl, List.suffix_refl _⟩)
  have died := claimThenDie waited
  rw [claim_crashed few] at died
  exact died

theorem crashed_reachable {k : Nat} (few : k ≤ 10) : Reachable (outboxRuns oneRelay).system (crashed k) := by
  induction k with
  | zero =>
    have empty : Reachable (outboxRuns oneRelay).system ⟨World.empty, fun _ => none⟩ := .start ⟨rfl, fun _ => rfl⟩
    exact empty.next (.environment (crashed 0).shared ⟨.inr ⟨"outbox_1", sampleBody, 0, rfl⟩, List.suffix_refl _⟩)
  | succ k ih => exact crash_reachable (by omega) (ih (by omega))

/-- Ten crashes strand the row for good: its lease has expired, no claim returns
it, and it is the same row in every later state. -/
theorem outbox_row_stranded : ∃ p, Reachable (outboxRuns oneRelay).system p ∧ ¬NoneStranded p.shared ∧
    ∃ row ∈ p.shared.db.outboxEvents.rows, row.status = .processing ∧ LeaseExpired row p.shared.clock ∧
      ¬Returned row p.shared.clock p.shared.db.outboxEvents ∧
      ∀ q, Relation.ReflTransGen (outboxRuns oneRelay).system.step p q → row ∈ q.shared.db.outboxEvents.rows := by
  have reached : Reachable (outboxRuns oneRelay).system ⟨beforeClaim 10, (crashed 10).workers⟩ :=
    (crashed_reachable (Nat.le_refl 10)).next (.environment (beforeClaim 10) ⟨.inl rfl, List.suffix_refl _⟩)
  have member : crashedRow 10 ∈ (beforeClaim 10).db.outboxEvents.rows := List.mem_singleton.mpr rfl
  have abandoned : Abandoned (crashedRow 10) := ⟨rfl, crashedRow_attempts 10⟩
  have expired : LeaseExpired (crashedRow 10) (beforeClaim 10).clock := by
    unfold LeaseExpired
    decide
  have counted := reachable_counted reached (crashedRow 10) member
  refine ⟨_, reached, ?_, crashedRow 10, member, rfl, expired, ?_, ?_⟩
  · intro none
    exact (stranded_iff member counted).mpr ⟨abandoned.1, abandoned.2, expired⟩ (none _ member)
  · rw [returned_iff member, not_claimable_of_abandoned abandoned]
    exact Bool.false_ne_true
  · intro q later
    have idle : ∀ i, (⟨beforeClaim 10, (crashed 10).workers⟩ : Pool JsError World Answer Unit Unit Nat).workers i = none :=
      fun _ => rfl
    exact stays_stranded idle member abandoned later

/-- The relay claims the row and dies; the lease has not run out yet. -/
theorem none_stranded_sample : ∃ p, Reachable (punctual oneRelay).system p ∧
    p.shared.db.outboxEvents.rows.map Leased.status = [.processing] ∧ NoneStranded p.shared := by
  have empty : Reachable (punctual oneRelay).system ⟨World.empty, fun _ => none⟩ := .start ⟨rfl, fun _ => rfl⟩
  have inserted : Elsewhere World.empty (crashed 0).shared :=
    ⟨.inr ⟨"outbox_1", sampleBody, 0, rfl⟩, List.suffix_refl _⟩
  have early : ¬RunsOut World.empty (crashed 0).shared := fun ⟨_, hrow, _⟩ => absurd hrow List.not_mem_nil
  have ready := empty.next (.environment (crashed 0).shared ⟨inserted, early⟩)
  have legal : (punctual oneRelay).AllLegal ⟨(crashed 0).shared, fun _ => none⟩ [.start () (), .call () .ok] := by
    refine ⟨trivial, ?_, trivial⟩
    rintro w c k busy next ⟨limit, workerId, d, hc, -, -, negative, -⟩
    cases busy
    cases next
    cases hc
    exact absurd negative (by decide)
  have claimed := Machine.reachable_play ready legal
  refine ⟨_, claimed, ?_, none_stranded_iff_punctual.1 _ claimed⟩
  decide +kernel

end Fulfillment
