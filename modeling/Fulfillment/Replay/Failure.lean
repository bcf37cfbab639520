import Fulfillment.Effects.Sequence
import Fulfillment.Replay.Rebuild

/-!
# A replay that fails

Every statement of the reset and every application is committed by itself, so
a replay that fails leaves what it did until then.
-/

namespace Fulfillment

open Js Effects

/-- The statements of the reset. -/
def resetCalls (aggregateId : String) : List ProjectionCall :=
  [ .deleteOrderReadModel aggregateId, .deletePaymentReadModel aggregateId, .deleteShipmentReadModel aggregateId,
    .deleteAppliedEvents aggregateId ]

/-- What a replay does after the reset. -/
def rebuildCalls (aggregateId : String) (events : List EventEnvelope) : List ProjectionCall :=
  events.map .applyHistoricalEvent ++ [.getOrder aggregateId]

/-- The calls of a replay. -/
def replayCalls (pg : Postgres) (aggregateId : String) (s : EventStore) : List ProjectionCall :=
  .getEventsByAggregateId aggregateId ::
    (resetCalls aggregateId ++ rebuildCalls aggregateId (getEventsByAggregateId pg aggregateId s))

/-- The call finds no row to delete, or an event that was applied before. -/
def HasNothingToDo (w : ProjectionWorld) : ProjectionCall → Prop
  | .deleteOrderReadModel aggregateId => w.projection.models (.order aggregateId) = none
  | .deletePaymentReadModel aggregateId =>
    ∀ k row, w.projection.models (.payment k) = some row → row.orderId ≠ aggregateId
  | .deleteShipmentReadModel aggregateId =>
    ∀ k row, w.projection.models (.shipment k) = some row → row.orderId ≠ aggregateId
  | .deleteAppliedEvents aggregateId => ∀ key row, w.projection.applied key = some row → row.aggregateId ≠ aggregateId
  | .applyHistoricalEvent e => w.projection.isProjectionEventApplied e.eventId = true
  | .getEventsByAggregateId _ | .getOrder _ => True
  | .base _ | .appendToEventStore _ | .recordEvent _ _ _ => False

variable (pg : Postgres)

/-- The call raises, whatever else might fail. -/
def Raises (w : ProjectionWorld) (c : ProjectionCall) : Prop :=
  ∃ err, (projectionPlatform pg).effect c true w = .error err

/-- Up to the first call that fails, every call that is carried out has nothing to do. -/
def QuietUntilFailure (oracle : List ProjectionCall → ProjectionCall → Outcome JsError) (w : ProjectionWorld) :
    List ProjectionCall → List ProjectionCall → Prop
  | [], _ => True
  | c :: calls, past =>
    match oracle past c with
    | .rejected _ => True
    | .unacked _ => Raises pg w c ∨ HasNothingToDo w c
    | .ok => Raises pg w c ∨ HasNothingToDo w c ∧ QuietUntilFailure oracle w calls (c :: past)

variable {pg}

/-! ## A replay as a list of calls -/

theorem resetReadModelForAggregate_performs (aggregateId : String) :
    Performs (resetReadModelForAggregate aggregateId) (resetCalls aggregateId) :=
  .await_bind fun _ => .await_bind fun _ => .await_bind fun _ => .await _

theorem applyAll_performs (events : List EventEnvelope) :
    Performs (applyAll events) (events.map .applyHistoricalEvent) := by
  induction events with
  | nil => exact .done ()
  | cons e events ih => exact .await_bind fun _ => ih

variable {oracle : List ProjectionCall → ProjectionCall → Outcome JsError}

theorem tryReplay_execAll (aggregateId : String) (w : ProjectionWorld) :
    let r := (tryReplay aggregateId).run (projectionPlatform pg) oracle [] w
    let all := (projectionPlatform pg).execAll oracle (replayCalls pg aggregateId w.store) [] w
    r.state = all.2 ∧ r.value.toBool = all.1 := by
  intro r all
  rcases hfetch : (projectionPlatform pg).exec (.getEventsByAggregateId aggregateId)
    (oracle [] (.getEventsByAggregateId aggregateId)) w with ⟨err | events, t⟩
  · have hall : all = (false, t) := by
      simp only [all, replayCalls, Semantics.execAll, hfetch]
    have hr : r = ⟨.error err, t, [.getEventsByAggregateId aggregateId]⟩ := run_await_error hfetch _
    rw [hall, hr]
    exact ⟨rfl, rfl⟩
  · have fetched : events = getEventsByAggregateId pg aggregateId w.store ∧ t = w := by
      rcases exec_cases (projectionPlatform pg) (.getEventsByAggregateId aggregateId)
        (oracle [] (.getEventsByAggregateId aggregateId)) w with ⟨e, hexec⟩ | ⟨r', t', -, heffect, hexec⟩ |
        ⟨e, r', t', -, -, hexec⟩
      · rw [hexec] at hfetch
        cases hfetch
      · rw [hexec] at hfetch
        cases hfetch
        simp only [projectionPlatform, guarded] at heffect
        split at heffect
        · cases heffect
          exact ⟨rfl, rfl⟩
        · cases heffect
      · rw [hexec] at hfetch
        cases hfetch
    obtain ⟨rfl, rfl⟩ := fetched
    have hall : all = (projectionPlatform pg).execAll oracle
        (resetCalls aggregateId ++ rebuildCalls aggregateId (getEventsByAggregateId pg aggregateId t.store))
        [.getEventsByAggregateId aggregateId] t := by
      simp only [all, replayCalls, Semantics.execAll, hfetch]
    rw [hall, show r = _ from run_await_ok hfetch _]
    apply Performs.run
    apply (resetReadModelForAggregate_performs aggregateId).bind
    intro _
    apply (applyAll_performs _).bind
    intro _
    exact .await_bind fun _ => .done _

/-- A replay leaves what its calls leave, and fails when one of them does. -/
theorem replay_execAll (aggregateId : String) (w : ProjectionWorld) :
    let r := (replayAggregate aggregateId).run (projectionPlatform pg) oracle [] w
    r.state = ((projectionPlatform pg).execAll oracle (replayCalls pg aggregateId w.store) [] w).2 := by
  intro r
  obtain ⟨hstate, -⟩ := @tryReplay_execAll pg oracle aggregateId w
  rw [← hstate]
  simp only [r, replayAggregate, run_bind, run_settle, Ran.andThen]
  cases ((tryReplay aggregateId).run (projectionPlatform pg) oracle [] w).value with
  | error err => rfl
  | ok result => rfl

/-! ## What one call leaves -/

/-- A call of a replay is carried out, or it leaves everything alone. -/
theorem exec_carried (c : ProjectionCall) (o : Outcome JsError) (w : ProjectionWorld)
    (plain : (projectionPlatform pg).effect c false w = (projectionPlatform pg).effect c true w) :
    ((projectionPlatform pg).exec c o w).2 = w ∨
    ∃ r, (projectionPlatform pg).effect c true w = .ok (r, ((projectionPlatform pg).exec c o w).2) := by
  rcases exec_cases (projectionPlatform pg) c o w with ⟨e, hexec⟩ | ⟨r, t, -, heffect, hexec⟩ |
    ⟨e, r, t, -, heffect, hexec⟩
  · exact .inl (by rw [hexec])
  · exact .inr ⟨r, by rw [hexec]; exact heffect⟩
  · exact .inr ⟨r, by rw [hexec, ← plain]; exact heffect⟩

/-- The tables after a deletion are part of the tables before; what is missing of
the markers was written before `clock`. -/
structure Below (clock : Int) (db db' : ProjectionDb) : Prop where
  models : ∀ k, db.models k = none ∨ db.models k = db'.models k
  applied : ∀ key, db.applied key = db'.applied key ∨
    db.applied key = none ∧ ∀ row, db'.applied key = some row → row.appliedAt < clock

theorem Below.refl {clock : Int} (db : ProjectionDb) : Below clock db db := ⟨fun _ => .inr rfl, fun _ => .inl rfl⟩

theorem Below.trans {clock : Int} {a b c : ProjectionDb} (hab : Below clock a b) (hbc : Below clock b c) :
    Below clock a c := by
  constructor
  · intro k
    rcases hab.models k with hnone | hsame
    · exact .inl hnone
    · rw [hsame]
      exact hbc.models k
  · intro key
    rcases hab.applied key with hsame | ⟨hnone, hold⟩
    · rw [hsame]
      exact hbc.applied key
    · rcases hbc.applied key with hsame | ⟨hnone', hold'⟩
      · rw [← hsame]
        exact .inr ⟨hnone, hold⟩
      · exact .inr ⟨hnone, hold'⟩

theorem Below.antisymm {clock : Int} {a b : ProjectionDb} (hab : Below clock a b) (hba : Below clock b a) : a = b := by
  obtain ⟨models, applied⟩ := a
  obtain ⟨models', applied'⟩ := b
  have hmodels : models = models' := by
    funext k
    rcases hab.models k with hnone | hsame
    · rcases hba.models k with hnone' | hsame'
      · exact hnone.trans hnone'.symm
      · exact hsame'.symm
    · exact hsame
  have happlied : applied = applied' := by
    funext key
    rcases hab.applied key with hsame | ⟨hnone, -⟩
    · exact hsame
    · rcases hba.applied key with hsame' | ⟨hnone', -⟩
      · exact hsame'.symm
      · exact hnone.trans hnone'.symm
  rw [hmodels, happlied]

/-- No marker of the aggregate was written at the present moment or later. -/
def MarkedEarlier (aggregateId : String) (w : ProjectionWorld) : Prop :=
  ∀ key row, w.projection.applied key = some row → row.aggregateId = aggregateId → row.appliedAt < w.clock

theorem filter_cases {α : Type} (p : α → Bool) (x : Option α) : x.filter p = none ∨ x.filter p = x := by
  cases x with
  | none => exact .inl rfl
  | some a =>
    rw [Option.filter_some]
    split
    · exact .inr rfl
    · exact .inl rfl

theorem deleteAppliedEvents_eq_self {aggregateId : String} {db : ProjectionDb} :
    ProjectionWorld.deleteAppliedEvents aggregateId db = db ↔
      ∀ key row, db.applied key = some row → row.aggregateId ≠ aggregateId := by
  constructor
  · intro h key row hrow
    have hkey := congrFun (congrArg ProjectionDb.applied h) key
    exact of_decide_eq_true (ReadModels.filter_eq_self.mp hkey row hrow)
  · intro h
    have happlied : (ProjectionWorld.deleteAppliedEvents aggregateId db).applied = db.applied := by
      funext key
      exact ReadModels.filter_eq_self.mpr fun row hrow => decide_eq_true (h key row hrow)
    exact congrArg (fun applied => ({ db with applied } : ProjectionDb)) happlied

/-- A statement of the reset that changes nothing had nothing to do. -/
theorem nothing_of_unchanged {aggregateId : String} {c : ProjectionCall} (hc : c ∈ resetCalls aggregateId)
    {w t : ProjectionWorld} {r : ProjectionAnswer c} (h : (projectionPlatform pg).effect c true w = .ok (r, t))
    (same : t.projection = w.projection) : HasNothingToDo w c := by
  simp only [resetCalls, List.mem_cons, List.not_mem_nil, or_false] at hc
  rcases hc with rfl | rfl | rfl | rfl
  · cases guarded_returns h
    exact ReadModels.deleteOrder_eq_self.mp (congrArg ProjectionDb.models same)
  · cases guarded_returns h
    exact ReadModels.deletePayments_eq_self.mp (congrArg ProjectionDb.models same)
  · cases guarded_returns h
    exact ReadModels.deleteShipments_eq_self.mp (congrArg ProjectionDb.models same)
  · cases guarded_returns h
    exact deleteAppliedEvents_eq_self.mp same

/-- A statement of the reset only takes rows away, and markers of the aggregate only. -/
theorem reset_below {aggregateId : String} {c : ProjectionCall} (hc : c ∈ resetCalls aggregateId)
    {w t : ProjectionWorld} {r : ProjectionAnswer c} (earlier : MarkedEarlier aggregateId w)
    (h : (projectionPlatform pg).effect c true w = .ok (r, t)) :
    Below w.clock t.projection w.projection ∧ t.clock = w.clock := by
  simp only [resetCalls, List.mem_cons, List.not_mem_nil, or_false] at hc
  rcases hc with rfl | rfl | rfl | rfl
  · cases guarded_returns h
    refine ⟨⟨fun k => ?_, fun _ => .inl rfl⟩, rfl⟩
    by_cases same : k = .order aggregateId
    · subst same
      exact .inl (Function.update_self ..)
    · exact .inr (Function.update_of_ne same ..)
  · cases guarded_returns h
    refine ⟨⟨fun k => ?_, fun _ => .inl rfl⟩, rfl⟩
    cases k with
    | payment k => exact filter_cases _ _
    | order _ | inventory _ | shipment _ => exact .inr rfl
  · cases guarded_returns h
    refine ⟨⟨fun k => ?_, fun _ => .inl rfl⟩, rfl⟩
    cases k with
    | shipment k => exact filter_cases _ _
    | order _ | inventory _ | payment _ => exact .inr rfl
  · cases guarded_returns h
    refine ⟨⟨fun _ => .inr rfl, fun key => ?_⟩, rfl⟩
    cases hrow : w.projection.applied key with
    | none => exact .inl (by simp [ProjectionWorld.deleteAppliedEvents, hrow])
    | some row =>
      by_cases own : row.aggregateId = aggregateId
      · refine .inr ⟨by simp [ProjectionWorld.deleteAppliedEvents, hrow, own], ?_⟩
        rintro row' hrow'
        cases hrow'
        exact earlier key row hrow own
      · exact .inl (by simp [ProjectionWorld.deleteAppliedEvents, hrow, own])

theorem reset_effect {aggregateId : String} {c : ProjectionCall} (hc : c ∈ resetCalls aggregateId)
    {w t : ProjectionWorld} {r : ProjectionAnswer c} (earlier : MarkedEarlier aggregateId w)
    (h : (projectionPlatform pg).effect c true w = .ok (r, t)) :
    Below w.clock t.projection w.projection ∧ t.clock = w.clock ∧ MarkedEarlier aggregateId t := by
  obtain ⟨hbelow, hclock⟩ := reset_below hc earlier h
  refine ⟨hbelow, hclock, ?_⟩
  intro key row hrow own
  rw [hclock]
  rcases hbelow.applied key with hsame | ⟨hnone, -⟩
  · exact earlier key row (hsame ▸ hrow) own
  · rw [hnone] at hrow
    cases hrow

theorem reset_plain {aggregateId : String} {c : ProjectionCall} (hc : c ∈ resetCalls aggregateId)
    {w : ProjectionWorld} : (projectionPlatform pg).effect c false w = (projectionPlatform pg).effect c true w := by
  simp only [resetCalls, List.mem_cons, List.not_mem_nil, or_false] at hc
  rcases hc with rfl | rfl | rfl | rfl <;> rfl

theorem reset_exec {aggregateId : String} {c : ProjectionCall} (hc : c ∈ resetCalls aggregateId) (o : Outcome JsError)
    {w : ProjectionWorld} (earlier : MarkedEarlier aggregateId w) :
    let t := ((projectionPlatform pg).exec c o w).2
    t = w ∨ Below w.clock t.projection w.projection ∧ t.clock = w.clock ∧ MarkedEarlier aggregateId t := by
  rcases @exec_carried pg c o w (reset_plain hc) with hsame | ⟨r, heffect⟩
  · exact .inl hsame
  · exact .inr (reset_effect hc earlier heffect)

/-- A call that has nothing to do does nothing. -/
theorem idle_of_nothing {c : ProjectionCall} {w t : ProjectionWorld} {r : ProjectionAnswer c}
    (nothing : HasNothingToDo w c) (h : (projectionPlatform pg).effect c true w = .ok (r, t)) : t = w := by
  cases c with
  | base _ | appendToEventStore _ | recordEvent _ _ _ => exact nothing.elim
  | getEventsByAggregateId _ | getOrder _ =>
    cases guarded_returns h
    rfl
  | deleteOrderReadModel aggregateId =>
    cases guarded_returns h
    rw [ReadModels.deleteOrder_eq_self.mpr nothing]
  | deletePaymentReadModel aggregateId =>
    cases guarded_returns h
    rw [ReadModels.deletePayments_eq_self.mpr nothing]
  | deleteShipmentReadModel aggregateId =>
    cases guarded_returns h
    rw [ReadModels.deleteShipments_eq_self.mpr nothing]
  | deleteAppliedEvents aggregateId =>
    cases guarded_returns h
    rw [deleteAppliedEvents_eq_self.mpr nothing]
  | applyHistoricalEvent e =>
    obtain ⟨db', once, rfl⟩ := application_returns h
    rw [applyOnce_marked once nothing]

/-! ## A replay that changes nothing -/

/-- An application marks its event, unless it was marked before, and keeps every marker. -/
theorem application_marks {e : EventEnvelope} {w t : ProjectionWorld} {r : Unit}
    (h : (projectionPlatform pg).effect (.applyHistoricalEvent e) true w = .ok (r, t)) :
    t.clock = w.clock ∧ (∀ key row, w.projection.applied key = some row → t.projection.applied key = some row) ∧
    (HasNothingToDo w (.applyHistoricalEvent e) ∨
      w.projection.applied (markerOf e.eventId) = none ∧
      t.projection.applied (markerOf e.eventId) = some ⟨e.aggregateId, w.clock⟩) := by
  obtain ⟨db', once, rfl⟩ := application_returns h
  cases hm : w.projection.isProjectionEventApplied e.eventId with
  | true =>
    rw [applyOnce_marked once hm]
    exact ⟨rfl, fun _ _ hrow => hrow, .inl hm⟩
  | false =>
    have fresh : w.projection.applied (markerOf e.eventId) = none := by
      simpa [ProjectionDb.isProjectionEventApplied] using hm
    have happlied := (applyOnce_unmarked once hm).2
    refine ⟨rfl, fun key row hrow => ?_, .inr ⟨fresh, ?_⟩⟩
    · have hne : key ≠ markerOf e.eventId := by
        rintro rfl
        rw [fresh] at hrow
        cases hrow
      rw [happlied, Function.update_of_ne hne]
      exact hrow
    · rw [happlied, Function.update_self]

/-- What a call of the rebuilding part leaves. -/
theorem rebuild_exec {aggregateId : String} {events : List EventEnvelope} {c : ProjectionCall}
    (hc : c ∈ rebuildCalls aggregateId events) (o : Outcome JsError) (w : ProjectionWorld) :
    let t := ((projectionPlatform pg).exec c o w).2
    t = w ∨ (∃ e r, c = .applyHistoricalEvent e ∧
      (projectionPlatform pg).effect (.applyHistoricalEvent e) true w = .ok (r, t)) := by
  intro t
  rcases List.mem_append.mp hc with hc | hc
  · obtain ⟨e, -, rfl⟩ := List.mem_map.mp hc
    rcases @exec_carried pg (.applyHistoricalEvent e) o w rfl with hsame | ⟨r, heffect⟩
    · exact .inl hsame
    · exact .inr ⟨e, r, rfl, heffect⟩
  · obtain rfl := List.mem_singleton.mp hc
    rcases @exec_carried pg (.getOrder aggregateId) o w rfl with hsame | ⟨r, heffect⟩
    · exact .inl hsame
    · exact .inl (congrArg Prod.snd (guarded_returns heffect)).symm

/-- Markers stay while events are applied. -/
theorem rebuild_keeps {aggregateId : String} {events : List EventEnvelope} {calls past : List ProjectionCall}
    (hcalls : ∀ c ∈ calls, c ∈ rebuildCalls aggregateId events) {w : ProjectionWorld} {key : String × String}
    {row : AppliedEvent} (hrow : w.projection.applied key = some row) :
    ((projectionPlatform pg).execAll oracle calls past w).2.projection.applied key = some row := by
  induction calls generalizing past w with
  | nil => exact hrow
  | cons c calls ih =>
    have kept : ((projectionPlatform pg).exec c (oracle past c) w).2.projection.applied key = some row := by
      rcases @rebuild_exec pg _ _ _ (hcalls c List.mem_cons_self) (oracle past c) w with hsame | ⟨e, r, -, heffect⟩
      · rw [hsame]
        exact hrow
      · exact (application_marks heffect).2.1 key row hrow
    rcases execAll_cons_state (projectionPlatform pg) oracle c calls past w with hstate | hstate
    · rw [hstate]
      exact kept
    · rw [hstate]
      exact ih (fun c' hc' => hcalls c' (List.mem_cons_of_mem _ hc')) kept

/-- Applications do not bring deleted rows back unnoticed: a marker they set is newer than any deleted one. -/
theorem rebuild_tail {aggregateId : String} {events : List EventEnvelope} {calls past : List ProjectionCall}
    (hcalls : ∀ c ∈ calls, c ∈ rebuildCalls aggregateId events) {w : ProjectionWorld} {db : ProjectionDb}
    (below : Below w.clock w.projection db)
    (h : ((projectionPlatform pg).execAll oracle calls past w).2.projection = db) : w.projection = db := by
  induction calls generalizing past w with
  | nil => exact h
  | cons c calls ih =>
    have hrest : ∀ c' ∈ calls, c' ∈ rebuildCalls aggregateId events :=
      fun c' hc' => hcalls c' (List.mem_cons_of_mem _ hc')
    have hcons := execAll_cons_state (projectionPlatform pg) oracle c calls past w
    rcases @rebuild_exec pg _ _ _ (hcalls c List.mem_cons_self) (oracle past c) w with hsame | ⟨e, r, rfl, heffect⟩
    · rw [hsame] at hcons
      rcases hcons with hstate | hstate
      · rwa [hstate] at h
      · exact ih hrest below (hstate ▸ h)
    · obtain ⟨-, -, hnothing | ⟨hnone, hnew⟩⟩ := application_marks heffect
      · rw [idle_of_nothing hnothing heffect] at hcons
        rcases hcons with hstate | hstate
        · rwa [hstate] at h
        · exact ih hrest below (hstate ▸ h)
      · -- the new marker is still there at the end, and none as new was there before
        have hlast : db.applied (markerOf e.eventId) = some ⟨e.aggregateId, w.clock⟩ := by
          rw [← h]
          rcases hcons with hstate | hstate
          · rw [hstate]
            exact hnew
          · rw [hstate]
            exact rebuild_keeps hrest hnew
        rcases below.applied (markerOf e.eventId) with hsame | ⟨-, hold⟩
        · rw [hsame, hlast] at hnone
          cases hnone
        · exact absurd (hold _ hlast) (Int.lt_irrefl _)

theorem reset_tail {aggregateId : String} {events : List EventEnvelope} {calls past : List ProjectionCall}
    (hcalls : ∀ c ∈ calls, c ∈ resetCalls aggregateId) {w : ProjectionWorld} {db : ProjectionDb}
    (earlier : MarkedEarlier aggregateId w) (below : Below w.clock w.projection db)
    (h : ((projectionPlatform pg).execAll oracle (calls ++ rebuildCalls aggregateId events) past w).2.projection = db) :
    w.projection = db := by
  induction calls generalizing past w with
  | nil => exact rebuild_tail (fun _ hc => hc) below h
  | cons c calls ih =>
    have hc := hcalls c List.mem_cons_self
    have hcons := execAll_cons_state (projectionPlatform pg) oracle c (calls ++ rebuildCalls aggregateId events) past w
    rcases @reset_exec pg _ _ hc (oracle past c) _ earlier with hsame | ⟨hbelow, hclock, hearlier⟩
    · rw [hsame] at hcons
      rcases hcons with hstate | hstate
      · rwa [List.cons_append, hstate] at h
      · exact ih (fun c' hc' => hcalls c' (List.mem_cons_of_mem _ hc')) earlier below (hstate ▸ h)
    · generalize ((projectionPlatform pg).exec c (oracle past c) w).2 = t at hcons hbelow hclock hearlier
      have hback : t.projection = db := by
        rcases hcons with hstate | hstate
        · rwa [List.cons_append, hstate] at h
        · exact ih (fun c' hc' => hcalls c' (List.mem_cons_of_mem _ hc')) hearlier (hclock ▸ hbelow.trans below)
            (hstate ▸ h)
      exact below.antisymm (hback ▸ hbelow)

/-- One call at a time: `carried` is asked of a call that is carried out. -/
theorem quiet_cons {c : ProjectionCall} {calls past : List ProjectionCall} {w : ProjectionWorld}
    (plain : (projectionPlatform pg).effect c false w = (projectionPlatform pg).effect c true w)
    (carried : ∀ r t, (projectionPlatform pg).effect c true w = .ok (r, t) →
      t.projection = w.projection ∨
        ((projectionPlatform pg).execAll oracle calls (c :: past) t).2.projection = w.projection →
      HasNothingToDo w c)
    (rest : ((projectionPlatform pg).execAll oracle calls (c :: past) w).2.projection = w.projection →
      QuietUntilFailure pg oracle w calls (c :: past))
    (h : ((projectionPlatform pg).execAll oracle (c :: calls) past w).2.projection = w.projection) :
    QuietUntilFailure pg oracle w (c :: calls) past := by
  rw [QuietUntilFailure]
  cases ho : oracle past c with
  | rejected err => trivial
  | unacked err =>
    cases heffect : (projectionPlatform pg).effect c true w with
    | error err' => exact .inl ⟨err', heffect⟩
    | ok r =>
      refine .inr (carried r.1 r.2 heffect (.inl ?_))
      simpa only [Semantics.execAll, Semantics.exec, ho, plain, heffect] using h
  | ok =>
    cases heffect : (projectionPlatform pg).effect c true w with
    | error err' => exact .inl ⟨err', heffect⟩
    | ok r =>
      have hrest : ((projectionPlatform pg).execAll oracle calls (c :: past) r.2).2.projection = w.projection := by
        simpa only [Semantics.execAll, Semantics.exec, ho, heffect] using h
      have nothing := carried r.1 r.2 heffect (.inr hrest)
      rw [idle_of_nothing nothing heffect] at hrest
      exact .inr ⟨nothing, rest hrest⟩

theorem quiet_rebuild {aggregateId : String} {events : List EventEnvelope} {calls past : List ProjectionCall}
    (hcalls : ∀ c ∈ calls, c ∈ rebuildCalls aggregateId events) {w : ProjectionWorld}
    (h : ((projectionPlatform pg).execAll oracle calls past w).2.projection = w.projection) :
    QuietUntilFailure pg oracle w calls past := by
  induction calls generalizing past with
  | nil => trivial
  | cons c calls ih =>
    have hrest : ∀ c' ∈ calls, c' ∈ rebuildCalls aggregateId events :=
      fun c' hc' => hcalls c' (List.mem_cons_of_mem _ hc')
    have hc := hcalls c List.mem_cons_self
    rcases List.mem_append.mp hc with hc | hc
    · obtain ⟨e, -, rfl⟩ := List.mem_map.mp hc
      refine quiet_cons rfl ?_ (ih hrest) h
      intro r t heffect hback
      obtain ⟨-, -, hnothing | ⟨hnone, hnew⟩⟩ := application_marks heffect
      · exact hnothing
      · rcases hback with hsame | hsame
        · rw [hsame, hnone] at hnew
          cases hnew
        · have hlast := @rebuild_keeps pg oracle _ _ _ (.applyHistoricalEvent e :: past) hrest _ _ _ hnew
          rw [hsame, hnone] at hlast
          cases hlast
    · obtain rfl := List.mem_singleton.mp hc
      exact quiet_cons rfl (fun _ _ _ _ => trivial) (ih hrest) h

theorem quiet_reset {aggregateId : String} {events : List EventEnvelope} {calls past : List ProjectionCall}
    (hcalls : ∀ c ∈ calls, c ∈ resetCalls aggregateId) {w : ProjectionWorld} (earlier : MarkedEarlier aggregateId w)
    (h : ((projectionPlatform pg).execAll oracle (calls ++ rebuildCalls aggregateId events) past w).2.projection =
      w.projection) :
    QuietUntilFailure pg oracle w (calls ++ rebuildCalls aggregateId events) past := by
  induction calls generalizing past with
  | nil => exact quiet_rebuild (fun _ hc => hc) h
  | cons c calls ih =>
    have hc := hcalls c List.mem_cons_self
    have hrest : ∀ c' ∈ calls, c' ∈ resetCalls aggregateId := fun c' hc' => hcalls c' (List.mem_cons_of_mem _ hc')
    refine quiet_cons (reset_plain hc) ?_ (ih hrest) h
    intro r t heffect hback
    obtain ⟨hbelow, hclock, hearlier⟩ := reset_effect hc earlier heffect
    rcases hback with hsame | hsame
    · exact nothing_of_unchanged hc heffect hsame
    · exact nothing_of_unchanged hc heffect (reset_tail hrest hearlier (hclock ▸ hbelow) hsame)

/-- Calls that have nothing to do leave everything as it was. -/
theorem unchanged_of_quiet {calls past : List ProjectionCall} {w : ProjectionWorld}
    (plain : ∀ c ∈ calls, (projectionPlatform pg).effect c false w = (projectionPlatform pg).effect c true w)
    (quiet : QuietUntilFailure pg oracle w calls past) :
    ((projectionPlatform pg).execAll oracle calls past w).2 = w := by
  induction calls generalizing past with
  | nil => rfl
  | cons c calls ih =>
    rw [QuietUntilFailure] at quiet
    cases ho : oracle past c with
    | rejected err => simp only [Semantics.execAll, Semantics.exec, ho]
    | unacked err =>
      rw [ho] at quiet
      rcases quiet with ⟨err', heffect⟩ | nothing
      · simp only [Semantics.execAll, Semantics.exec, ho, plain c List.mem_cons_self, heffect]
      · cases heffect : (projectionPlatform pg).effect c true w with
        | error err' => simp only [Semantics.execAll, Semantics.exec, ho, plain c List.mem_cons_self, heffect]
        | ok r =>
          simp only [Semantics.execAll, Semantics.exec, ho, plain c List.mem_cons_self, heffect]
          exact idle_of_nothing nothing heffect
    | ok =>
      rw [ho] at quiet
      cases heffect : (projectionPlatform pg).effect c true w with
      | error err' => simp only [Semantics.execAll, Semantics.exec, ho, heffect]
      | ok r =>
        rcases quiet with ⟨err', hraises⟩ | ⟨nothing, hrest⟩
        · rw [heffect] at hraises
          cases hraises
        · simp only [Semantics.execAll, Semantics.exec, ho, heffect]
          rw [idle_of_nothing nothing heffect]
          exact ih (fun c' hc' => plain c' (List.mem_cons_of_mem _ hc')) hrest

theorem replayCalls_plain {aggregateId : String} {s : EventStore} {w : ProjectionWorld} :
    ∀ c ∈ replayCalls pg aggregateId s,
      (projectionPlatform pg).effect c false w = (projectionPlatform pg).effect c true w := by
  intro c hc
  rcases List.mem_cons.mp hc with rfl | hc
  · rfl
  · rcases List.mem_append.mp hc with hc | hc
    · exact reset_plain hc
    · rcases List.mem_append.mp hc with hc | hc
      · obtain ⟨e, -, rfl⟩ := List.mem_map.mp hc
        rfl
      · obtain rfl := List.mem_singleton.mp hc
        rfl

/-- A replay that returns `FAILED` has left the read models and the markers as
they were just when every call that was carried out up to the failure had nothing
to do: no row or marker to delete, no event to apply. -/
theorem failed_replay_unchanged_iff (aggregateId : String) (w : ProjectionWorld)
    (oracle : List ProjectionCall → ProjectionCall → Outcome JsError) (earlier : MarkedEarlier aggregateId w) :
    (∃ result, ((replayAggregate aggregateId).run (projectionPlatform pg) oracle [] w).value = .ok result ∧
      result.status = .failed) →
    (((replayAggregate aggregateId).run (projectionPlatform pg) oracle [] w).state.projection = w.projection ↔
      QuietUntilFailure pg oracle w (replayCalls pg aggregateId w.store) []) := by
  intro _
  rw [replay_execAll]
  constructor
  · intro h
    refine quiet_cons rfl (fun _ _ _ _ => trivial) ?_ h
    intro hrest
    exact quiet_reset (fun _ hc => hc) earlier hrest
  · intro quiet
    rw [unchanged_of_quiet replayCalls_plain quiet]

/-! ## An order with an event that cannot be applied -/

/-- The authorization names no amount, so its application raised and it was dead-lettered. -/
def poisonedWorld : ProjectionWorld where
  world := { World.empty with clock := 1 }
  projection :=
    { models := ReadModels.upsert (.order "ord_1")
        { userId := "usr_1", status := "cancelled", totalAmount := 100, currency := "USD", items := .arr [],
          paymentId := none, reservationId := none, fraudCheckId := none, shipmentId := none,
          trackingNumber := none, failureReason := some "CARD_DECLINED", createdAt := 1767261600000,
          updatedAt := 1767261600000, version := 1 } id .empty
      applied := fun key => if key = markerOf "evt_1" ∨ key = markerOf "evt_3" then some ⟨"ord_1", 0⟩ else none }
  store :=
    { events :=
        [ sampleStored "evt_3" .orderCancelled 3 [("reason", .str "CARD_DECLINED")],
          sampleStored "evt_2" .paymentAuthorized 2 [("payment_id", .str "pay_1")],
          sampleStored "evt_1" .orderCreated 1 [("user_id", .str "usr_1"), ("total_amount", .num 100)] ]
      uniqueId := by decide
      uniquePosition := by decide }
  orderEvents := []

/-- The replay when nothing fails of itself. -/
def poisonedReplay : Ran JsError ProjectionWorld ProjectionCall ReplayResult :=
  (replayAggregate "ord_1").run (projectionPlatform .sample) (fun _ _ => .ok) [] poisonedWorld

theorem poisoned_replay_keeps_iff :
    poisonedReplay.state.projection = poisonedWorld.projection ↔
      QuietUntilFailure .sample (fun _ _ => .ok) poisonedWorld (replayCalls .sample "ord_1" poisonedWorld.store) [] := by
  apply failed_replay_unchanged_iff "ord_1" poisonedWorld fun _ _ => .ok
  · intro key row hrow _
    simp only [poisonedWorld] at hrow
    split at hrow
    · cases hrow
      decide
    · cases hrow
  · apply status_of_toOption
    decide +kernel

/-- The replay deletes the order, creates it again and stops at the authorization. -/
theorem cancelled_order_pending_again :
    poisonedReplay.value.toOption.map (·.status) = some .failed ∧
    (poisonedWorld.projection.models (.order "ord_1")).map (·.status) = some "cancelled" ∧
    (poisonedReplay.state.projection.models (.order "ord_1")).map (·.status) = some "pending" ∧
    poisonedReplay.state.projection ≠ poisonedWorld.projection := by
  have after : (poisonedReplay.state.projection.models (.order "ord_1")).map (·.status) = some "pending" := by decide +kernel
  refine ⟨by decide +kernel, by decide +kernel, after, ?_⟩
  intro same
  rw [same] at after
  revert after
  decide +kernel

end Fulfillment
