import Fulfillment.Projection.Agreement
import Fulfillment.Replay.Interleaving
import Mathlib

/-!
# A replay that is not disturbed

A live event that is applied between the fetch and the deletion of the markers
is lost if it was not fetched, and one that is applied before the replay has
caught up is out of order. Where neither happens, the row is the fold of all
stored events when both sides have finished.
-/

namespace Fulfillment

open Js Effects

variable {ι : Type} {pg : Postgres} {orderId : String} {p : Sides ι}

/-! ## The condition, phase by phase -/

theorem performed_iff {w : SideWorker} {c : ProjectionCall} : Performed w c ↔ c ∈ w.past.map Sigma.fst := by
  simp [Performed, List.mem_map, Sigma.exists]

theorem Resetting.timely {w : SideWorker} {n : Nat} {fetched : List EventEnvelope} (stage : Resetting orderId w n fetched)
    (busy : p.workers .replay = some w) {e : EventEnvelope} (timely : Timely pg orderId p e) :
    p.shared.projection.isProjectionEventApplied e.eventId = true ∨ orderWrite pg e = none ∨
      e.eventId ∈ fetched.map EventEnvelope.eventId ∧ (1 ≤ n → orderStep pg none e = none) := by
  have under := stage.under
  rcases timely with marked | silent | rest
  · exact .inl marked
  · exact .inr (.inl silent)
  · rcases rest w fetched busy stage.fetch with ⟨reset, -⟩ | ⟨-, known, absent⟩
    · rw [performed_iff, stage.past] at reset
      interval_cases n <;> simp [resetCalls] at reset
    · refine .inr (.inr ⟨known, fun deleted => absent ?_⟩)
      rw [performed_iff, stage.past]
      interval_cases n <;> simp [resetCalls]

theorem Reapplying.timely {w : SideWorker} {left : List EventEnvelope} (stage : Reapplying orderId w left)
    (busy : p.workers .replay = some w) {e : EventEnvelope} (timely : Timely pg orderId p e) {stored : StoredEvent}
    (hstored : stored ∈ p.shared.store.events) (isOf : stored.IsOf e) :
    p.shared.projection.isProjectionEventApplied e.eventId = true ∨ orderWrite pg e = none ∨
      InPlace pg stored p.shared.store p.shared.projection := by
  obtain ⟨fetched, fetch⟩ := stage.fetch
  rcases timely with marked | silent | rest
  · exact .inl marked
  · exact .inr (.inl silent)
  · rcases rest w fetched busy fetch with ⟨-, inPlace⟩ | ⟨pending, -⟩
    · exact .inr (.inr (inPlace stored hstored isOf.eventId))
    · exact absurd stage.reset pending

/-! ## The replay moves -/

/-- The next statement of the reset, and where it leaves the replay. -/
theorem Resetting.call {w : SideWorker} {n : Nat} {fetched : List EventEnvelope} (stage : Resetting orderId w n fetched)
    {c : ProjectionCall} {k : Except JsError (ProjectionAnswer c) → ProjectionProgram (Option ReplayResult)}
    (next : w.rest = .call c k) (r : ProjectionAnswer c) :
    (resetCalls orderId)[n]? = some c ∧
    (n < 3 → Resetting orderId (w.answered c k (.ok r)) (n + 1) fetched) ∧
    (n = 3 → Reapplying orderId (w.answered c k (.ok r)) fetched) := by
  obtain ⟨under, follows, fetch, past⟩ := stage
  rw [next] at follows
  have kept : Fetched orderId (w.answered c k (.ok r)) fetched := List.mem_cons_of_mem _ fetch
  interval_cases n
  case «3» =>
    cases follows with
    | call _ _ _ onward =>
      refine ⟨rfl, by omega, fun _ => ⟨.inl (onward r), ⟨fetched, kept⟩, ⟨.ok r, List.mem_cons_self⟩⟩⟩
  all_goals
    cases follows with
    | call _ _ _ onward =>
      refine ⟨rfl, fun _ => ⟨by omega, onward r, kept, ?_⟩, by omega⟩
      simp [Worker.answered, past, resetCalls]

/-- Neither side moves. -/
theorem SideBySide.still {s : ProjectionWorld} (h : SideBySide pg orderId p) (store : s.store = p.shared.store)
    (projection : s.projection = p.shared.projection) : SideBySide pg orderId (⟨s, p.workers⟩ : Sides ι) := by
  have pending : Pending (⟨s, p.workers⟩ : Sides ι) = Pending p := by
    funext stored
    simp [Pending, store]
  constructor
  · change Sound pg s.store s.projection
    rw [store, projection]
    exact h.sound
  · intro i w hw
    change LiveStage orderId s.store w
    rw [store]
    exact h.live i w hw
  · cases h.phase with
    | waiting idle => exact .waiting idle
    | resetting w n fetched busy stage gap =>
      apply Phase.resetting w n fetched
      · exact busy
      · exact stage
      · rw [pending, store, projection]
        exact gap
    | rebuilding w left busy stage rebuilt =>
      apply Phase.rebuilding w left
      · exact busy
      · exact stage
      · rw [pending, store, projection]
        exact rebuilt

theorem answered_ne (w : SideWorker) (c : ProjectionCall)
    (k : Except JsError (ProjectionAnswer c) → ProjectionProgram (Option ReplayResult))
    (r : Except JsError (ProjectionAnswer c)) : w.answered c k r ≠ w := by
  intro same
  have longer : (⟨c, r⟩ :: w.past).length = w.past.length := congrArg (fun v => v.past.length) same
  simp at longer

section
variable [DecidableEq ι]

theorem pending_replay {σ : ProjectionWorld} (store : σ.store = p.shared.store) (x : Option SideWorker) :
    Pending (⟨σ, Function.update p.workers .replay x⟩ : Sides ι) = Pending p := by
  funext stored
  simp [Pending, store]

theorem SideBySide.replays {σ : ProjectionWorld} (h : SideBySide pg orderId p) (store : σ.store = p.shared.store)
    (sound : Sound pg p.shared.store σ.projection) {x : Option SideWorker}
    (phase : Phase pg orderId (⟨σ, Function.update p.workers .replay x⟩ : Sides ι)) :
    SideBySide pg orderId (⟨σ, Function.update p.workers .replay x⟩ : Sides ι) := by
  refine ⟨?_, ?_, phase⟩
  · change Sound pg σ.store σ.projection
    rwa [store]
  · intro i w hw
    have hw : p.workers (.live i) = some w := hw
    change LiveStage orderId σ.store w
    rw [store]
    exact h.live i w hw

/-- A call that only reads, with what it reads. -/
theorem fetch_returns {aggregateId : String} {w w' : ProjectionWorld} {events : List EventEnvelope}
    (h : (projectionPlatform pg).effect (.getEventsByAggregateId aggregateId) true w = .ok (events, w')) :
    events = getEventsByAggregateId pg aggregateId w.store ∧ w' = w := by
  have same := guarded_returns h
  cases same
  exact ⟨rfl, rfl⟩

/-- Right after the fetch everything stored is fetched. -/
theorem fetched_gap {pending : StoredEvent → Prop} {s : EventStore} {db : ProjectionDb} :
    Gap pg orderId (getEventsByAggregateId pg orderId s) (1 ≤ 0) pending s db := by
  have all : ∀ e ∈ s.events, e.aggregateId = orderId → e.envelope pg ∈ getEventsByAggregateId pg orderId s :=
    fun e he own => List.mem_map_of_mem (mem_inOrder.mpr ⟨he, own⟩)
  constructor
  · intro e he
    obtain ⟨stored, hstored, rfl⟩ := List.mem_map.mp he
    obtain ⟨hmem, hown⟩ := mem_inOrder.mp hstored
    exact ⟨stored, hmem, hown, rfl⟩
  · intro e he own
    exact .inl (all e he own)
  · intro e he own notFetched
    exact absurd (all e he own) notFetched
  · intro deleted
    omega

/-- A statement of the reset. -/
theorem reset_call {w : SideWorker} {n : Nat} {fetched : List EventEnvelope} {c : ProjectionCall}
    {k : Except JsError (ProjectionAnswer c) → ProjectionProgram (Option ReplayResult)} {r : ProjectionAnswer c}
    {σ : ProjectionWorld} (h : SideBySide pg orderId p) (stage : Resetting orderId w n fetched)
    (gap : Gap pg orderId fetched (1 ≤ n) (Pending p) p.shared.store p.shared.projection)
    (next : w.rest = .call c k) (effect : (projectionPlatform pg).effect c true p.shared = .ok (r, σ)) :
    SideBySide pg orderId (⟨σ, Function.update p.workers .replay (some (w.answered c k (.ok r)))⟩ : Sides ι) := by
  obtain ⟨hcall, later, last⟩ := stage.call next r
  have busy : Function.update p.workers .replay (some (w.answered c k (.ok r))) .replay =
      some (w.answered c k (.ok r)) := Function.update_self ..
  have under := stage.under
  interval_cases n
  case «0» =>
    cases hcall
    cases guarded_returns effect
    apply h.replays
    · rfl
    · exact h.sound.congr rfl
    · apply Phase.resetting _ 1 fetched busy (later (by omega))
      rw [pending_replay]
      · exact gap.congr rfl fun _ => by simp [orderRow, ReadModels.deleteOrder]
      · rfl
  case «3» =>
    cases hcall
    cases guarded_returns effect
    apply h.replays
    · rfl
    · exact h.sound.deleteAppliedEvents
    · apply Phase.rebuilding _ fetched busy (last rfl)
      rw [pending_replay]
      · exact gap.deleteAppliedEvents h.sound (by omega)
      · rfl
  all_goals
    cases hcall
    cases guarded_returns effect
    apply h.replays
    · rfl
    · exact h.sound.congr rfl
    · apply Phase.resetting _ _ fetched busy (later (by omega))
      rw [pending_replay]
      · exact gap.congr rfl fun _ => gap.gone (by omega)
      · rfl

/-- An event that is applied again, or the order that is read at the end. -/
theorem reapply_call {w : SideWorker} {left : List EventEnvelope} {c : ProjectionCall}
    {k : Except JsError (ProjectionAnswer c) → ProjectionProgram (Option ReplayResult)} {r : ProjectionAnswer c}
    {σ : ProjectionWorld} (h : SideBySide pg orderId p) (busy : p.workers .replay = some w)
    (stage : Reapplying orderId w left)
    (rebuilt : Rebuilt pg orderId left (Pending p) p.shared.store p.shared.projection)
    (next : w.rest = .call c k) (effect : (projectionPlatform pg).effect c true p.shared = .ok (r, σ))
    (meets : Meets pg orderId p c) :
    SideBySide pg orderId (⟨σ, Function.update p.workers .replay (some (w.answered c k (.ok r)))⟩ : Sides ι) := by
  have answered : Function.update p.workers .replay (some (w.answered c k (.ok r))) .replay =
      some (w.answered c k (.ok r)) := Function.update_self ..
  obtain ⟨fetched, fetch⟩ := stage.fetch
  obtain ⟨answer, reset⟩ := stage.reset
  have kept : ∃ fetched, Fetched orderId (w.answered c k (.ok r)) fetched := ⟨fetched, List.mem_cons_of_mem _ fetch⟩
  have done : Performed (w.answered c k (.ok r)) (.deleteAppliedEvents orderId) := ⟨answer, List.mem_cons_of_mem _ reset⟩
  have follows := stage.next
  rw [next] at follows
  cases left with
  | nil =>
    rcases follows with follows | ⟨-, follows⟩
    · cases follows with
      | call _ _ _ onward =>
        cases guarded_returns effect
        apply h.replays
        · rfl
        · exact h.sound
        · apply Phase.rebuilding _ [] answered ⟨.inr ⟨rfl, onward _⟩, kept, done⟩
          rw [pending_replay]
          · exact rebuilt
          · rfl
    · cases follows
  | cons e left =>
    rcases follows with follows | ⟨hnil, -⟩
    · cases follows with
      | call _ _ _ onward =>
        obtain ⟨db', once, rfl⟩ := application_returns effect
        obtain ⟨stored, hstored, own, rfl⟩ := rebuilt.members e List.mem_cons_self
        have isOf : stored.IsOf (stored.envelope pg) := ⟨rfl, rfl, rfl, rfl⟩
        have timely := stage.timely busy meets hstored isOf
        apply h.replays
        · rfl
        · exact (h.sound.apply once hstored isOf).1
        · apply Phase.rebuilding _ left answered ⟨.inl (onward _), kept, done⟩
          rw [pending_replay]
          · apply rebuilt.apply h.sound once own hstored isOf (fun _ pending => .inl pending)
              (fun _ hx => List.mem_cons_of_mem _ hx) ?_ timely
            intro x hx hleft
            rcases List.mem_cons.mp hleft with same | hleft
            · have hid : x.eventId = stored.eventId := congrArg EventEnvelope.eventId same
              exact .inr (stored_eq hx hstored hid)
            · exact .inl hleft
          · rfl
    · cases hnil

theorem replay_call {w : SideWorker} {c : ProjectionCall} {k : Except JsError (ProjectionAnswer c) → ProjectionProgram (Option ReplayResult)}
    {r : ProjectionAnswer c} {σ : ProjectionWorld} (h : SideBySide pg orderId p) (busy : p.workers .replay = some w)
    (next : w.rest = .call c k) (effect : (projectionPlatform pg).effect c true p.shared = .ok (r, σ))
    (meets : Meets pg orderId p c) :
    SideBySide pg orderId (⟨σ, Function.update p.workers .replay (some (w.answered c k (.ok r)))⟩ : Sides ι) := by
  have answered : Function.update p.workers .replay (some (w.answered c k (.ok r))) .replay =
      some (w.answered c k (.ok r)) := Function.update_self ..
  cases h.phase with
  | waiting idle =>
    obtain ⟨rest, past⟩ := idle w busy
    obtain ⟨k', hfetch, follows⟩ := replay_fetches orderId
    rw [next, hfetch] at rest
    cases rest
    obtain ⟨rfl, rfl⟩ := fetch_returns effect
    apply h.replays
    · rfl
    · exact h.sound
    · apply Phase.resetting _ 0 (getEventsByAggregateId pg orderId p.shared.store) answered
      · refine ⟨by omega, follows _, List.mem_cons_self, ?_⟩
        simp [Worker.answered, past]
      · rw [pending_replay]
        · exact fetched_gap
        · rfl
  | resetting w' n fetched busy' stage gap =>
    rw [busy] at busy'
    cases busy'
    exact reset_call h stage gap next effect
  | rebuilding w' left busy' stage rebuilt =>
    rw [busy] at busy'
    cases busy'
    exact reapply_call h busy stage rebuilt next effect meets

/-! ## A live worker moves -/

theorem LiveStage.grow {s s' : EventStore} (kept : ∀ e ∈ s.events, e ∈ s'.events) {w : SideWorker}
    (h : LiveStage orderId s w) : LiveStage orderId s' w := by
  cases h with
  | appending e job about next => exact .appending e job about next
  | recording e job about next stored hstored isOf => exact .recording e job about next stored (kept stored hstored) isOf
  | applying e job about next stored hstored isOf => exact .applying e job about next stored (kept stored hstored) isOf
  | finished done => exact .finished done

/-- The pool after a live worker's move. -/
def afterLive (p : Sides ι) (i : ι) (σ : ProjectionWorld) (x : Option SideWorker) : Sides ι :=
  ⟨σ, Function.update p.workers (.live i) x⟩

/-- A live worker's event stays pending unless it is this worker's own. -/
theorem pending_live {i : ι} (σ : ProjectionWorld) {x : Option SideWorker}
    (kept : ∀ e ∈ p.shared.store.events, e ∈ σ.store.events) {stored : StoredEvent} (h : Pending p stored) :
    Pending (afterLive p i σ x) stored ∨
      ∃ w, p.workers (.live i) = some w ∧ About p.shared.store w stored := by
  obtain ⟨j, w, hw, about⟩ := h
  by_cases same : j = i
  · subst same
    exact .inr ⟨w, hw, about⟩
  · refine .inl ⟨j, w, ?_, kept stored about.member, about.event⟩
    have other : Slot.live j ≠ Slot.live i := fun hslot => same (Slot.live.inj hslot)
    exact (Function.update_of_ne other ..).trans hw

theorem SideBySide.lives {i : ι} {σ : ProjectionWorld} {x : Option SideWorker} (h : SideBySide pg orderId p)
    (kept : ∀ e ∈ p.shared.store.events, e ∈ σ.store.events) (sound : Sound pg σ.store σ.projection)
    (stage : ∀ w, x = some w → LiveStage orderId σ.store w)
    (phase : Phase pg orderId (afterLive p i σ x)) :
    SideBySide pg orderId (afterLive p i σ x) := by
  refine ⟨sound, ?_, phase⟩
  intro j w hw
  rcases update_eq_some hw with ⟨-, hx⟩ | ⟨-, hw⟩
  · exact stage w hx
  · exact (h.live j w hw).grow kept

theorem Phase.beside {i : ι} {σ : ProjectionWorld} {x : Option SideWorker} (h : Phase pg orderId p)
    (gap : ∀ w n fetched, p.workers .replay = some w → Resetting orderId w n fetched →
      Gap pg orderId fetched (1 ≤ n) (Pending p) p.shared.store p.shared.projection →
      Gap pg orderId fetched (1 ≤ n) (Pending (afterLive p i σ x)) σ.store σ.projection)
    (rebuilt : ∀ w left, p.workers .replay = some w → Reapplying orderId w left →
      Rebuilt pg orderId left (Pending p) p.shared.store p.shared.projection →
      Rebuilt pg orderId left (Pending (afterLive p i σ x)) σ.store σ.projection) :
    Phase pg orderId (afterLive p i σ x) := by
  have same : (afterLive p i σ x).workers .replay = p.workers .replay := rfl
  cases h with
  | waiting idle => exact .waiting (same ▸ idle)
  | resetting w n fetched busy stage hgap =>
    exact .resetting w n fetched (same.trans busy) stage (gap w n fetched busy stage hgap)
  | rebuilding w left busy stage hrebuilt =>
    exact .rebuilding w left (same.trans busy) stage (rebuilt w left busy stage hrebuilt)

/-- The store and the projection stay, and what was pending still is. -/
theorem Phase.still {i : ι} {σ : ProjectionWorld} {x : Option SideWorker} (h : Phase pg orderId p)
    (store : σ.store = p.shared.store) (projection : σ.projection = p.shared.projection)
    (still : ∀ e, Pending p e → Pending (afterLive p i σ x) e) : Phase pg orderId (afterLive p i σ x) := by
  have none : Grows p.shared.store σ.store p.shared.projection (Pending (afterLive p i σ x)) := by
    rw [store]
    exact ⟨fun _ he => he, fun _ he => .inl he⟩
  apply h.beside
  · intro w n fetched _ _ gap
    rw [projection]
    exact gap.grow none still
  · intro w left _ _ rebuilt
    rw [projection]
    apply rebuilt.grow none still
    rw [store]
    exact rebuilt.reflects

theorem append_call {i : ι} {w : SideWorker} {e : EventEnvelope} {σ : ProjectionWorld} {x : SideWorker}
    (h : SideBySide pg orderId p) (busy : p.workers (.live i) = some w)
    (idle : ∀ stored, ¬About p.shared.store w stored) (about : e.aggregateId = orderId) (job : x.job = .process e)
    (next : x.rest = recordAndApply e)
    (effect : (projectionPlatform pg).effect (.appendToEventStore e) true p.shared = .ok ((), σ))
    (meets : Meets pg orderId p (.appendToEventStore e)) : SideBySide pg orderId (afterLive p i σ (some x)) := by
  obtain ⟨store, appended, rfl⟩ := append_returns effect
  obtain ⟨sound, stored, hstored, isOf, grows⟩ := h.sound.append appended meets
  have own : Pending (afterLive p i { p.shared with store } (some x)) stored :=
    ⟨i, x, Function.update_self .., hstored, e, job, isOf, .inl next⟩
  have grown := grows (Pending (afterLive p i { p.shared with store } (some x))) own
  have still : ∀ e, Pending p e →
      Pending (afterLive p i { p.shared with store } (some x)) e := by
    intro e hpending
    rcases pending_live { p.shared with store } grown.kept hpending with hpending | ⟨w', hw', hmine⟩
    · exact hpending
    · rw [busy] at hw'
      cases hw'
      exact absurd hmine (idle e)
  have unmarked : e.eventId ∉ p.shared.store.events.map StoredEvent.eventId →
      p.shared.projection.isProjectionEventApplied e.eventId = false := by
    intro fresh
    by_contra marked
    exact fresh (h.sound.stored _ (Bool.not_eq_false _ ▸ marked))
  apply h.lives grown.kept sound
  · intro w' hw'
    cases hw'
    exact .recording e job about next stored hstored isOf
  · apply h.phase.beside
    · intro _ _ _ _ _ gap
      exact gap.grow grown still
    · intro _ _ _ _ rebuilt
      exact rebuilt.grow grown still (rebuilt.reflects.append appended unmarked)

theorem apply_call {i : ι} {w : SideWorker} {e : EventEnvelope} {σ : ProjectionWorld} {x : SideWorker}
    (h : SideBySide pg orderId p) (busy : p.workers (.live i) = some w) (job : w.job = .process e)
    (about : e.aggregateId = orderId) {stored : StoredEvent} (hstored : stored ∈ p.shared.store.events)
    (isOf : stored.IsOf e) (done : x.rest = .pure none)
    (effect : (projectionPlatform pg).effect (.applyHistoricalEvent e) true p.shared = .ok ((), σ))
    (meets : Meets pg orderId p (.applyHistoricalEvent e)) :
    SideBySide pg orderId (afterLive p i σ (some x)) := by
  obtain ⟨db', once, rfl⟩ := application_returns effect
  have still : ∀ y, Pending p y →
      Pending (afterLive p i { p.shared with projection := db' } (some x)) y ∨
        y = stored := by
    intro y hpending
    rcases pending_live { p.shared with projection := db' } (fun _ he => he) hpending with
      hpending | ⟨w', hw', hmem, e', job', isOf', -⟩
    · exact .inl hpending
    · rw [busy] at hw'
      cases hw'
      rw [job] at job'
      cases job'
      exact .inr (stored_eq hmem hstored (isOf'.eventId.trans isOf.eventId.symm))
  apply h.lives
  · exact fun _ he => he
  · exact (h.sound.apply once hstored isOf).1
  · intro w' hw'
    cases hw'
    exact .finished done
  · apply h.phase.beside
    · intro w' n fetched hw' stage gap
      apply gap.apply h.sound once about hstored isOf still
      rcases stage.timely hw' meets with marked | silent | ⟨known, absent⟩
      · exact .inl marked
      · exact .inr (.inl silent)
      · refine .inr (.inr ⟨?_, absent⟩)
        obtain ⟨y, hy, hid⟩ := List.mem_map.mp known
        obtain ⟨stored', hstored', -, rfl⟩ := gap.members y hy
        obtain rfl := stored_eq hstored' hstored (hid.trans isOf.eventId.symm)
        exact hy
    · intro w' left hw' stage rebuilt
      apply rebuilt.apply h.sound once about hstored isOf still (fun _ hx => hx) (fun _ _ hleft => .inl hleft)
      exact stage.timely hw' meets hstored isOf

theorem live_call {i : ι} {w : SideWorker} {c : ProjectionCall}
    {k : Except JsError (ProjectionAnswer c) → ProjectionProgram (Option ReplayResult)} {r : ProjectionAnswer c}
    {σ : ProjectionWorld} (h : SideBySide pg orderId p) (busy : p.workers (.live i) = some w)
    (next : w.rest = .call c k) (effect : (projectionPlatform pg).effect c true p.shared = .ok (r, σ))
    (meets : Meets pg orderId p c) :
    SideBySide pg orderId (afterLive p i σ (some (w.answered c k (.ok r)))) := by
  cases h.live i w busy with
  | appending e job about rest =>
    rw [next] at rest
    cases rest
    apply append_call h busy
    · rintro stored ⟨-, e', -, -, hpending⟩
      rw [next] at hpending
      rcases hpending with hpending | hpending <;> cases hpending
    · exact about
    · exact job
    · rfl
    · exact effect
    · exact meets
  | recording e job about rest stored hstored isOf =>
    rw [next] at rest
    cases rest
    cases guarded_returns effect
    apply h.lives
    · exact fun _ he => he
    · exact h.sound
    · intro w' hw'
      cases hw'
      exact .applying e job about rfl stored hstored isOf
    · apply h.phase.still
      · rfl
      · rfl
      · intro y hpending
        rcases pending_live { p.shared with
            orderEvents := ⟨e.aggregateId, e.eventType.name, orString e.producer "system", p.shared.clock⟩ ::
              p.shared.orderEvents } (fun _ he => he) hpending with hpending | ⟨w', hw', hmem, e', job', isOf', -⟩
        · exact hpending
        · rw [busy] at hw'
          cases hw'
          rw [job] at job'
          cases job'
          exact ⟨i, _, Function.update_self .., hmem, e, job, isOf', .inr rfl⟩
  | applying e job about rest stored hstored isOf =>
    rw [next] at rest
    cases rest
    exact apply_call h busy job about hstored isOf rfl effect meets
  | finished done =>
    rw [next] at done
    cases done

/-- A slot that nobody pending holds is filled or freed. -/
theorem SideBySide.refill {i : ι} {x : Option SideWorker} (h : SideBySide pg orderId p)
    (idle : ∀ w, p.workers (.live i) = some w → ∀ stored, ¬About p.shared.store w stored)
    (stage : ∀ w, x = some w → LiveStage orderId p.shared.store w) :
    SideBySide pg orderId (afterLive p i p.shared x) := by
  apply h.lives (fun _ he => he) h.sound stage
  apply h.phase.still rfl rfl
  intro e hpending
  rcases pending_live p.shared (fun _ he => he) hpending with hpending | ⟨w, hw, hmine⟩
  · exact hpending
  · exact absurd hmine (idle w hw e)

theorem sideBySide {p : Sides ι} (h : Reachable (timelyRuns pg orderId ι) p) : SideBySide pg orderId p := by
  apply h.invariant (SideBySide pg orderId)
  · rintro p ⟨sound, idle⟩
    refine ⟨sound, ?_, .waiting ?_⟩
    · intro i w hw
      rw [idle] at hw
      cases hw
    · intro w hw
      rw [idle] at hw
      cases hw
  · rintro p q - inv ⟨step, meets⟩
    cases step with
    | start i job free startable =>
      cases i with
      | replay =>
        cases job with
        | process e => cases startable
        | replay =>
          apply inv.replays rfl inv.sound
          apply Phase.waiting
          intro w hw
          have fresh := hw.symm.trans (Function.update_self .replay _ p.workers)
          cases fresh
          exact ⟨rfl, rfl⟩
      | live i =>
        cases job with
        | replay => cases startable
        | process e =>
          apply inv.refill
          · intro w hw
            rw [free] at hw
            cases hw
          · intro w hw
            cases hw
            exact .appending e rfl startable rfl
    | call i w c k o busy next allowed =>
      obtain ⟨rfl, hok⟩ := allowed
      obtain ⟨⟨r, σ⟩, effect⟩ := ok_of_isOk hok
      have exec : (projectionPlatform pg).exec c .ok p.shared = (.ok r, σ) := exec_ok effect
      have condition : Meets pg orderId p c := by
        apply meets i w c k busy next
        rw [busy]
        intro same
        exact answered_ne w c k _ (Option.some.inj ((Function.update_self i _ p.workers).symm.trans same))
      change SideBySide pg orderId ⟨((projectionPlatform pg).exec c .ok p.shared).2, Function.update p.workers i
        (some (w.answered c k ((projectionPlatform pg).exec c .ok p.shared).1))⟩
      rw [exec]
      cases i with
      | replay => exact replay_call inv busy next effect condition
      | live i => exact live_call inv busy next effect condition
    | leave i w busy leaves =>
      cases i with
      | replay => exact absurd rfl leaves.1
      | live i =>
        apply inv.refill
        · rintro w' hw' stored ⟨-, e, -, -, hpending⟩
          rw [busy] at hw'
          cases hw'
          have finished := leaves.2
          rcases hpending with hpending | hpending
          all_goals
            rw [hpending] at finished
            exact finished
        · intro w hw
          cases hw
    | environment s moves =>
      exact inv.still moves.1 moves.2

end

/-! ## Schedules -/

/-- The call that a side makes next. -/
def nextCall (p : Sides ι) (slot : Slot ι) : Option ProjectionCall :=
  (p.workers slot).bind fun w =>
    match w.rest with
    | .call c _ => some c
    | _ => none

theorem nextCall_eq {slot : Slot ι} {w : SideWorker} {c : ProjectionCall}
    {k : Except JsError (ProjectionAnswer c) → ProjectionProgram (Option ReplayResult)}
    (busy : p.workers slot = some w) (next : w.rest = .call c k) : nextCall p slot = some c := by
  rw [nextCall, busy, Option.bind_some, next]

/-- Enough for the condition on a call: the stored ids are others, nothing that is
marked has a later number, and the replay is not there or has deleted the markers. -/
def meetsNow (orderId : String) (p : Sides ι) : ProjectionCall → Bool
  | .appendToEventStore e => e.eventId ∉ p.shared.store.events.map StoredEvent.eventId
  | .applyHistoricalEvent e => (p.workers .replay).all fun w =>
    .deleteAppliedEvents orderId ∈ w.past.map Sigma.fst ∧
      ∀ s ∈ p.shared.store.events, s.eventId = e.eventId → ∀ t ∈ p.shared.store.events,
        s.sequenceNumber < t.sequenceNumber → p.shared.projection.isProjectionEventApplied t.eventId = false
  | _ => true

theorem meets_of {c : ProjectionCall} (h : meetsNow orderId p c = true) : Meets pg orderId p c := by
  cases c with
  | appendToEventStore e =>
    intro s hs hid
    exact absurd (hid ▸ List.mem_map_of_mem hs) (of_decide_eq_true h)
  | applyHistoricalEvent e =>
    refine .inr (.inr ?_)
    intro w events busy fetched
    rw [meetsNow, busy] at h
    obtain ⟨reset, unmarked⟩ := of_decide_eq_true h
    refine .inl ⟨performed_iff.mpr reset, ?_⟩
    intro s hs hid t ht _ later marked
    rw [unmarked s hs hid t ht later] at marked
    cases marked
  | _ => trivial

/-- The moves of a run in which nothing fails. -/
def legalMove (pg : Postgres) (orderId : String) (p : Sides ι) : Move JsError (Slot ι) Task → Bool
  | .start .replay .replay => true
  | .start (.live _) (.process e) => e.aggregateId = orderId
  | .call slot .ok => (nextCall p slot).all fun c => ((projectionPlatform pg).effect c true p.shared).isOk
  | .leave (.live i) => (p.workers (.live i)).all fun w => w.rest.Finished
  | _ => false

theorem legal_of {m : Move JsError (Slot ι) Task} (h : legalMove pg orderId p m = true) :
    (replayBesideLive pg orderId ι).Legal p m := by
  cases m with
  | start slot job =>
    cases slot with
    | replay =>
      cases job with
      | replay => trivial
      | process e => cases h
    | live i =>
      cases job with
      | replay => cases h
      | process e =>
        have about : e.aggregateId = orderId := of_decide_eq_true h
        exact about
  | call slot o =>
    intro w c k busy next
    cases o with
    | ok =>
      rw [legalMove, nextCall_eq busy next] at h
      exact ⟨rfl, h⟩
    | _ => cases h
  | leave slot =>
    intro w busy
    cases slot with
    | replay => cases h
    | live i =>
      rw [legalMove, busy] at h
      exact ⟨nofun, of_decide_eq_true h⟩

variable [DecidableEq ι]

def meetsMove (orderId : String) (p : Sides ι) : Move JsError (Slot ι) Task → Bool
  | .call slot _ => (nextCall p slot).all (meetsNow orderId p)
  | _ => true

/-- Every move of the schedule is one of a run without failures, and `meets`. -/
def plays (pg : Postgres) (orderId : String) (meets : Sides ι → Move JsError (Slot ι) Task → Bool) :
    Sides ι → List (Move JsError (Slot ι) Task) → Bool
  | _, [] => true
  | p, m :: moves => legalMove pg orderId p m && meets p m &&
    plays pg orderId meets ((replayBesideLive pg orderId ι).move p m) moves

theorem allLegal_of_plays {meets : Sides ι → Move JsError (Slot ι) Task → Bool} {moves : List (Move JsError (Slot ι) Task)}
    (h : plays pg orderId meets p moves = true) : (replayBesideLive pg orderId ι).AllLegal p moves := by
  induction moves generalizing p with
  | nil => trivial
  | cons m moves ih =>
    simp only [plays, Bool.and_eq_true] at h
    exact ⟨legal_of h.1.1, ih h.2⟩

theorem moved_slot {i slot : Slot ι} {x : Option SideWorker} (moved : Function.update p.workers slot x i ≠ p.workers i) :
    i = slot := by
  by_contra other
  exact moved (Function.update_of_ne other ..)

theorem timely_move (h : Reachable (timelyRuns pg orderId ι) p) {m : Move JsError (Slot ι) Task}
    (legal : legalMove pg orderId p m = true) (meets : meetsMove orderId p m = true) :
    Reachable (timelyRuns pg orderId ι) ((replayBesideLive pg orderId ι).move p m) := by
  have legal := legal_of legal
  cases m with
  | start slot job =>
    rw [Machine.move]
    split
    · rename_i free
      apply h.next ⟨.start slot job free legal, ?_⟩
      intro i w c k busy _ moved
      rw [moved_slot moved, free] at busy
      cases busy
    · exact h
  | call slot o =>
    rw [Machine.move]
    split
    · rename_i w busy
      split
      · rename_i c k next
        apply h.next ⟨.call slot w c k o busy next (legal w c k busy next), ?_⟩
        intro i w' c' k' busy' next' moved
        have first := nextCall_eq busy' next'
        rw [moved_slot moved] at first
        rw [meetsMove, first] at meets
        exact meets_of meets
      · exact h
    · exact h
  | leave slot =>
    rw [Machine.move]
    split
    · rename_i w busy
      apply h.next ⟨.leave slot w busy (legal w busy), ?_⟩
      intro i w' c k busy' next moved
      rw [moved_slot moved, busy] at busy'
      cases busy'
      have finished := (legal w busy).2
      rw [next] at finished
      cases finished
    · exact h

theorem timely_of_plays {moves : List (Move JsError (Slot ι) Task)} (h : Reachable (timelyRuns pg orderId ι) p)
    (played : plays pg orderId (meetsMove orderId) p moves = true) :
    Reachable (timelyRuns pg orderId ι) ((replayBesideLive pg orderId ι).play p moves) := by
  induction moves generalizing p with
  | nil => exact h
  | cons m moves ih =>
    simp only [plays, Bool.and_eq_true] at played
    exact ih (timely_move h played.1.1 played.1.2) played.2

/-- The order is created, the replay fetches its one event, the payment is
authorized, and the replay goes on. -/
def authorizedAmidReplay : List (Move JsError (Slot Unit) Task) :=
  .start (.live ()) (.process createdEvent) :: List.replicate 3 (.call (.live ()) .ok) ++
  .leave (.live ()) :: .start .replay .replay :: .call .replay .ok ::
  .start (.live ()) (.process authorizedEvent) :: List.replicate 3 (.call (.live ()) .ok) ++
  List.replicate 6 (.call .replay .ok)

/-- The payment is authorized when the replay has re-created the order. -/
def authorizedAfterReplay : List (Move JsError (Slot Unit) Task) :=
  .start (.live ()) (.process createdEvent) :: List.replicate 3 (.call (.live ()) .ok) ++
  .leave (.live ()) :: .start .replay .replay :: List.replicate 6 (.call .replay .ok) ++
  .start (.live ()) (.process authorizedEvent) :: List.replicate 3 (.call (.live ()) .ok) ++
  [.call .replay .ok]

def nobodyYet : Sides Unit := ⟨unprojected, fun _ => none⟩

def afterMoves (moves : List (Move JsError (Slot Unit) Task)) : Sides Unit :=
  (replayBesideLive .sample "ord_1" Unit).play nobodyYet moves

theorem nobodyYet_init : (replayBesideLive .sample "ord_1" Unit).system.init nobodyYet := by
  refine ⟨⟨?_, ?_, ?_, ?_⟩, fun _ => rfl⟩
  · intro _ marked
    cases marked
  all_goals
    intro _ stored
    cases stored

def bothFinished (p : Sides Unit) : Bool :=
  ((p.workers .replay).any fun w =>
    match w.rest with
    | .pure (some _) => true
    | _ => false) &&
  (p.workers (.live ())).all fun w => w.rest.Finished

theorem finished_of {p : Sides Unit} (h : bothFinished p = true) :
    (∃ w result, p.workers .replay = some w ∧ w.rest = .pure (some result)) ∧
    ∀ i w, p.workers (.live i) = some w → w.rest.Finished := by
  obtain ⟨replay, live⟩ := Bool.and_eq_true_iff.mp h
  constructor
  · obtain ⟨w, busy, done⟩ := (Option.any_eq_true _ _).mp replay
    split at done
    · rename_i result hrest
      exact ⟨w, result, busy, hrest⟩
    · cases done
  · intro i w busy
    rw [show p.workers (.live ()) = some w from busy] at live
    exact of_decide_eq_true live

end Fulfillment
