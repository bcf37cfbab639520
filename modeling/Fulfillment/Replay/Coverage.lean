import Fulfillment.Projection.OrderFold
import Fulfillment.Replay.EventReplayService

/-!
# What a replay still owes

Of every stored event of the order, either its application is done with, or
the replay still has to apply it, or someone else is about to. `Gap` is that
between the fetch and the deletion of the markers, `Rebuilt` after it.
-/

namespace Fulfillment

open Js Relational

variable (pg : Postgres) (orderId : String)

/-- The markers are those of stored events, and what is marked could be applied. -/
structure Sound (s : EventStore) (db : ProjectionDb) : Prop where
  stored : ∀ eventId, db.isProjectionEventApplied eventId = true → eventId ∈ s.events.map StoredEvent.eventId
  owned : ∀ e ∈ s.events, ∀ row, db.applied (markerOf e.eventId) = some row → row.aggregateId = e.aggregateId
  readable : ∀ e ∈ s.events, (pg.readTimestamp (pg.isoString e.occurredAt)).isOk = true
  applies : ∀ e ∈ s.events, db.isProjectionEventApplied e.eventId = true → Applies pg (e.envelope pg)

/-- Nothing more has to become of the event. -/
def Settles (db : ProjectionDb) (e : StoredEvent) : Prop :=
  Applies pg (e.envelope pg) ∧ (db.isProjectionEventApplied e.eventId = true ∨ orderWrite pg (e.envelope pg) = none)

/-- The replay has fetched the events and not deleted the markers yet; `deleted` says
whether it has deleted the row. -/
structure Gap (fetched : List EventEnvelope) (deleted : Prop) (pending : StoredEvent → Prop) (s : EventStore)
    (db : ProjectionDb) : Prop where
  members : ∀ e ∈ fetched, ∃ stored ∈ s.events, stored.aggregateId = orderId ∧ e = stored.envelope pg
  covered : ∀ e ∈ s.events, e.aggregateId = orderId → e.envelope pg ∈ fetched ∨ pending e ∨
    Applies pg (e.envelope pg) ∧ orderWrite pg (e.envelope pg) = none
  unfetched : ∀ e ∈ s.events, e.aggregateId = orderId → e.envelope pg ∉ fetched →
    orderWrite pg (e.envelope pg) ≠ none → db.isProjectionEventApplied e.eventId = false
  gone : deleted → orderRow orderId db = none

/-- The markers are deleted, and the events `left` are still to be applied again. -/
structure Rebuilt (left : List EventEnvelope) (pending : StoredEvent → Prop) (s : EventStore) (db : ProjectionDb) :
    Prop where
  members : ∀ e ∈ left, ∃ stored ∈ s.events, stored.aggregateId = orderId ∧ e = stored.envelope pg
  covered : ∀ e ∈ s.events, e.aggregateId = orderId → Settles pg db e ∨ e.envelope pg ∈ left ∨ pending e
  reflects : Reflects pg orderId s db

variable {pg orderId} {s s' : EventStore} {db db' : ProjectionDb} {pending pending' : StoredEvent → Prop}
  {fetched left : List EventEnvelope} {deleted : Prop}

/-! ## An event is stored -/

/-- The store grows by events that are not marked and that are pending. -/
structure Grows (s s' : EventStore) (db : ProjectionDb) (pending' : StoredEvent → Prop) : Prop where
  kept : ∀ e ∈ s.events, e ∈ s'.events
  added : ∀ e ∈ s'.events, e ∈ s.events ∨ db.isProjectionEventApplied e.eventId = false ∧ pending' e

theorem Sound.append {e : EventEnvelope} (h : Sound pg s db) (appended : appendToEventStore pg e s = .ok s')
    (named : ∀ stored ∈ s.events, stored.eventId = e.eventId → stored.IsOf e) :
    Sound pg s' db ∧ ∃ stored ∈ s'.events, stored.IsOf e ∧ ∀ pending' : StoredEvent → Prop, pending' stored →
      Grows s s' db pending' := by
  obtain ⟨-, time, htime, ⟨known, rfl⟩ | ⟨fresh, hevents⟩⟩ := appendToEventStore_returns appended
  · obtain ⟨stored, hstored, hid⟩ := List.mem_map.mp known
    exact ⟨h, stored, hstored, named stored hstored hid, fun _ _ => ⟨fun _ he => he, fun _ he => .inl he⟩⟩
  · have unmarked : db.isProjectionEventApplied e.eventId = false := by
      by_contra marked
      exact fresh (h.stored _ (Bool.not_eq_false _ ▸ marked))
    have none : db.applied (markerOf e.eventId) = none := by
      simpa [ProjectionDb.isProjectionEventApplied] using unmarked
    generalize hnew : e.stored ((sequenceParam e.sequenceNumber).getD (s.nextSequence e.aggregateId)) time = new at hevents
    have isOf : new.IsOf e := by
      subst hnew
      exact ⟨rfl, rfl, rfl, rfl⟩
    have instant : new.occurredAt = time := by
      subst hnew
      rfl
    refine ⟨⟨?_, ?_, ?_, ?_⟩, new, by simp [hevents], isOf, ?_⟩
    · intro eventId marked
      rw [hevents, List.map_cons]
      exact List.mem_cons_of_mem _ (h.stored eventId marked)
    · rw [hevents, List.forall_mem_cons]
      refine ⟨fun row hrow => ?_, h.owned⟩
      rw [isOf.eventId, none] at hrow
      cases hrow
    · rw [hevents, List.forall_mem_cons, instant]
      exact ⟨readTimestamp_isoString htime, h.readable⟩
    · rw [hevents, List.forall_mem_cons]
      refine ⟨fun marked => ?_, h.applies⟩
      rw [isOf.eventId, unmarked] at marked
      cases marked
    · intro pending' hpending
      constructor
      · intro x hx
        rw [hevents]
        exact List.mem_cons_of_mem _ hx
      · intro x hx
        rw [hevents] at hx
        rcases List.mem_cons.mp hx with rfl | hx
        · exact .inr ⟨by rw [isOf.eventId, unmarked], hpending⟩
        · exact .inl hx

theorem Gap.grow (h : Gap pg orderId fetched deleted pending s db) (grows : Grows s s' db pending')
    (still : ∀ e, pending e → pending' e) : Gap pg orderId fetched deleted pending' s' db := by
  constructor
  · intro e he
    obtain ⟨stored, hstored, own⟩ := h.members e he
    exact ⟨stored, grows.kept stored hstored, own⟩
  · intro e he own
    rcases grows.added e he with he | ⟨-, hpending⟩
    · rcases h.covered e he own with hfetched | hpending | silent
      · exact .inl hfetched
      · exact .inr (.inl (still e hpending))
      · exact .inr (.inr silent)
    · exact .inr (.inl hpending)
  · intro e he own notFetched writes
    rcases grows.added e he with he | ⟨unmarked, -⟩
    · exact h.unfetched e he own notFetched writes
    · exact unmarked
  · exact h.gone

theorem Rebuilt.grow (h : Rebuilt pg orderId left pending s db) (grows : Grows s s' db pending')
    (still : ∀ e, pending e → pending' e) (reflects : Reflects pg orderId s' db) :
    Rebuilt pg orderId left pending' s' db := by
  constructor
  · intro e he
    obtain ⟨stored, hstored, own⟩ := h.members e he
    exact ⟨stored, grows.kept stored hstored, own⟩
  · intro e he own
    rcases grows.added e he with he | ⟨-, hpending⟩
    · rcases h.covered e he own with settles | hleft | hpending
      · exact .inl settles
      · exact .inr (.inl hleft)
      · exact .inr (.inr (still e hpending))
    · exact .inr (.inr hpending)
  · exact reflects

/-! ## An event is applied -/

theorem isOf_applies {stored : StoredEvent} {e : EventEnvelope} (isOf : stored.IsOf e)
    (readable : (pg.readTimestamp (pg.isoString stored.occurredAt)).isOk = true) (h : Applies pg e) :
    Applies pg (stored.envelope pg) :=
  applies_retime h isOf.eventId isOf.eventType isOf.aggregateId isOf.payload readable

/-- An application marks the event and no other. -/
theorem marked_iff {e : EventEnvelope} {clock : Int} (once : applyOnce pg clock e db = .ok db') (eventId : String) :
    db'.isProjectionEventApplied eventId = true ↔ db.isProjectionEventApplied eventId = true ∨ eventId = e.eventId := by
  cases marked : db.isProjectionEventApplied e.eventId with
  | true =>
    rw [applyOnce_marked once marked]
    constructor
    · exact .inl
    · rintro (h | rfl)
      · exact h
      · exact marked
  | false =>
    rw [congrFun (marked_update (applyOnce_unmarked once marked).2) eventId, Bool.or_eq_true, decide_eq_true_eq]

theorem Sound.apply {e : EventEnvelope} {clock : Int} (h : Sound pg s db) (once : applyOnce pg clock e db = .ok db')
    {stored : StoredEvent} (hstored : stored ∈ s.events) (isOf : stored.IsOf e) :
    Sound pg s db' ∧ Applies pg (stored.envelope pg) := by
  have applies : Applies pg (stored.envelope pg) := by
    cases marked : db.isProjectionEventApplied e.eventId with
    | true => exact h.applies stored hstored (by rw [isOf.eventId, marked])
    | false => exact isOf_applies isOf (h.readable stored hstored) ((applies_iff marked).mpr ⟨_, once⟩)
  have only : ∀ x ∈ s.events, x.eventId = e.eventId → x = stored :=
    fun x hx hid => stored_eq hx hstored (hid.trans isOf.eventId.symm)
  refine ⟨⟨?_, ?_, h.readable, ?_⟩, applies⟩
  · intro eventId marked
    rcases (marked_iff once eventId).mp marked with marked | rfl
    · exact h.stored eventId marked
    · exact isOf.eventId ▸ List.mem_map_of_mem hstored
  · intro x hx row hrow
    cases marked : db.isProjectionEventApplied e.eventId with
    | true =>
      rw [applyOnce_marked once marked] at hrow
      exact h.owned x hx row hrow
    | false =>
      rw [(applyOnce_unmarked once marked).2] at hrow
      by_cases same : x.eventId = e.eventId
      · obtain rfl := only x hx same
        rw [same, Function.update_self, Option.some.injEq] at hrow
        rw [← hrow, isOf.aggregateId]
      · rw [Function.update_of_ne fun hm => same (markerOf_inj.mp hm)] at hrow
        exact h.owned x hx row hrow
  · intro x hx marked
    rcases (marked_iff once x.eventId).mp marked with marked | same
    · exact h.applies x hx marked
    · rw [only x hx same]
      exact applies

/-- The row after an application that takes effect. -/
theorem applyOnce_orderRow {e : EventEnvelope} {clock : Int} (once : applyOnce pg clock e db = .ok db')
    (unmarked : db.isProjectionEventApplied e.eventId = false) (about : e.aggregateId = orderId) :
    orderRow orderId db' = orderStep pg (orderRow orderId db) e := by
  have hmutate := (applyOnce_unmarked once unmarked).1
  rw [mutate_eq] at hmutate
  cases hchanges : changesOfEvent pg e with
  | error err =>
    rw [hchanges] at hmutate
    cases hmutate
  | ok changes =>
    rw [hchanges] at hmutate
    have hmodels : applyChanges changes db.models = db'.models := Except.ok.inj hmutate
    rw [orderRow, ← hmodels]
    exact changes_orderRow hchanges about _

/-- In the gap only what was fetched may write, and not before the row is there again. -/
theorem Gap.apply {e : EventEnvelope} {clock : Int} (h : Gap pg orderId fetched deleted pending s db) (sound : Sound pg s db)
    (once : applyOnce pg clock e db = .ok db') (about : e.aggregateId = orderId) {stored : StoredEvent}
    (hstored : stored ∈ s.events) (isOf : stored.IsOf e)
    (still : ∀ x, pending x → pending' x ∨ x = stored)
    (timely : db.isProjectionEventApplied e.eventId = true ∨ orderWrite pg e = none ∨
      stored.envelope pg ∈ fetched ∧ (deleted → orderStep pg none e = none)) :
    Gap pg orderId fetched deleted pending' s db' := by
  have applies := (sound.apply once hstored isOf).2
  have own : stored.aggregateId = orderId := isOf.aggregateId.trans about
  -- the event needs no further care once it is applied
  have done : stored.envelope pg ∈ fetched ∨ orderWrite pg (stored.envelope pg) = none := by
    by_contra neither
    obtain ⟨notFetched, writes⟩ := not_or.mp neither
    rcases timely with marked | silent | ⟨hfetched, -⟩
    · have unmarked := h.unfetched stored hstored own notFetched writes
      rw [isOf.eventId, marked] at unmarked
      cases unmarked
    · exact writes (isOf.orderWrite.trans silent)
    · exact notFetched hfetched
  refine ⟨h.members, ?_, ?_, ?_⟩
  · intro x hx hown
    rcases h.covered x hx hown with hfetched | hpending | silent
    · exact .inl hfetched
    · rcases still x hpending with hpending | rfl
      · exact .inr (.inl hpending)
      · rcases done with hfetched | silent
        · exact .inl hfetched
        · exact .inr (.inr ⟨applies, silent⟩)
    · exact .inr (.inr silent)
  · intro x hx hown notFetched writes
    apply Bool.eq_false_iff.mpr
    intro marked
    rcases (marked_iff once x.eventId).mp marked with marked | same
    · rw [h.unfetched x hx hown notFetched writes] at marked
      cases marked
    · obtain rfl := stored_eq hx hstored (same.trans isOf.eventId.symm)
      rcases done with hfetched | silent
      · exact notFetched hfetched
      · exact writes silent
  · intro hdeleted
    cases marked : db.isProjectionEventApplied e.eventId with
    | true =>
      rw [applyOnce_marked once marked]
      exact h.gone hdeleted
    | false =>
      rw [applyOnce_orderRow once marked about, h.gone hdeleted]
      rcases timely with hmarked | silent | ⟨-, absent⟩
      · rw [marked] at hmarked
        cases hmarked
      · rw [orderStep, silent, writeOrder]
      · exact absent hdeleted

theorem Rebuilt.apply {e : EventEnvelope} {clock : Int} {left' : List EventEnvelope}
    (h : Rebuilt pg orderId left pending s db) (sound : Sound pg s db) (once : applyOnce pg clock e db = .ok db')
    (about : e.aggregateId = orderId) {stored : StoredEvent} (hstored : stored ∈ s.events) (isOf : stored.IsOf e)
    (still : ∀ x, pending x → pending' x ∨ x = stored) (fewer : ∀ x ∈ left', x ∈ left)
    (others : ∀ x ∈ s.events, x.envelope pg ∈ left → x.envelope pg ∈ left' ∨ x = stored)
    (timely : db.isProjectionEventApplied e.eventId = true ∨ orderWrite pg e = none ∨ InPlace pg stored s db) :
    Rebuilt pg orderId left' pending' s db' := by
  have settled : Settles pg db' stored :=
    ⟨(sound.apply once hstored isOf).2, .inl ((marked_iff once _).mpr (.inr isOf.eventId))⟩
  refine ⟨fun x hx => h.members x (fewer x hx), ?_, h.reflects.apply once about hstored isOf timely⟩
  intro x hx hown
  rcases h.covered x hx hown with ⟨applies, marked | silent⟩ | hleft | hpending
  · exact .inl ⟨applies, .inl ((marked_iff once _).mpr (.inl marked))⟩
  · exact .inl ⟨applies, .inr silent⟩
  · rcases others x hx hleft with hleft | rfl
    · exact .inr (.inl hleft)
    · exact .inl settled
  · rcases still x hpending with hpending | rfl
    · exact .inr (.inr hpending)
    · exact .inl settled

/-! ## The reset -/

theorem isApplied_congr (same : db'.applied = db.applied) (eventId : String) :
    db'.isProjectionEventApplied eventId = db.isProjectionEventApplied eventId := by
  rw [ProjectionDb.isProjectionEventApplied, ProjectionDb.isProjectionEventApplied, same]

theorem Sound.congr (h : Sound pg s db) (same : db'.applied = db.applied) : Sound pg s db' := by
  obtain ⟨stored, owned, readable, applies⟩ := h
  refine ⟨?_, ?_, readable, ?_⟩
  · simpa only [isApplied_congr same] using stored
  · rwa [same]
  · simpa only [isApplied_congr same] using applies

theorem Gap.congr {deleted' : Prop} (h : Gap pg orderId fetched deleted pending s db) (same : db'.applied = db.applied)
    (gone : deleted' → orderRow orderId db' = none) : Gap pg orderId fetched deleted' pending s db' := by
  obtain ⟨members, covered, unfetched, -⟩ := h
  refine ⟨members, covered, ?_, gone⟩
  simpa only [isApplied_congr same] using unfetched

/-- The markers that are left are not those of stored events of the order. -/
theorem deleteAppliedEvents_unmarked (h : Sound pg s db) {e : StoredEvent} (he : e ∈ s.events)
    (own : e.aggregateId = orderId) :
    (ProjectionWorld.deleteAppliedEvents orderId db).isProjectionEventApplied e.eventId = false := by
  change ((db.applied (markerOf e.eventId)).filter fun row => row.aggregateId ≠ orderId).isSome = false
  cases hrow : db.applied (markerOf e.eventId) with
  | none => rfl
  | some row =>
    have owned := (h.owned e he row hrow).trans own
    simp [owned]

theorem deleteAppliedEvents_sub {eventId : String}
    (h : (ProjectionWorld.deleteAppliedEvents orderId db).isProjectionEventApplied eventId = true) :
    db.isProjectionEventApplied eventId = true := by
  change ((db.applied (markerOf eventId)).filter fun row => row.aggregateId ≠ orderId).isSome = true at h
  change (db.applied (markerOf eventId)).isSome = true
  cases hrow : db.applied (markerOf eventId) with
  | none =>
    rw [hrow] at h
    exact h
  | some row => rfl

theorem Sound.deleteAppliedEvents (h : Sound pg s db) : Sound pg s (ProjectionWorld.deleteAppliedEvents orderId db) := by
  refine ⟨?_, ?_, h.readable, ?_⟩
  · intro eventId marked
    exact h.stored eventId (deleteAppliedEvents_sub marked)
  · intro e he row hrow
    exact h.owned e he row (Option.eq_some_of_filter_eq_some hrow)
  · intro e he marked
    exact h.applies e he (deleteAppliedEvents_sub marked)

/-- With the markers gone and the row gone, the fold starts again. -/
theorem Gap.deleteAppliedEvents (h : Gap pg orderId fetched deleted pending s db) (sound : Sound pg s db)
    (hdeleted : deleted) :
    Rebuilt pg orderId fetched pending s (ProjectionWorld.deleteAppliedEvents orderId db) := by
  refine ⟨h.members, ?_, ?_⟩
  · intro e he own
    rcases h.covered e he own with hfetched | hpending | ⟨applies, silent⟩
    · exact .inr (.inl hfetched)
    · exact .inr (.inr hpending)
    · exact .inl ⟨applies, .inr silent⟩
  · have none : appliedEvents orderId s (ProjectionWorld.deleteAppliedEvents orderId db) = [] := by
      rw [appliedEvents, List.filter_eq_nil_iff]
      intro e he
      obtain ⟨hmem, hown⟩ := mem_inOrder.mp he
      rw [deleteAppliedEvents_unmarked sound hmem hown]
      exact Bool.false_ne_true
    rw [Reflects, none]
    exact h.gone hdeleted

/-- When nothing is left, the row is the fold of the whole store. -/
theorem Rebuilt.complete (h : Rebuilt pg orderId [] pending s db) (idle : ∀ e, ¬pending e) :
    ∃ m, foldEvents pg (getEventsByAggregateId pg orderId s) .empty = .ok m ∧
      orderRow orderId db = (m (.order orderId)).map OrderView.timeless := by
  have settles : ∀ e ∈ s.inOrder orderId, Settles pg db e := by
    intro e he
    obtain ⟨hmem, hown⟩ := mem_inOrder.mp he
    rcases h.covered e hmem hown with settles | hleft | hpending
    · exact settles
    · cases hleft
    · exact absurd hpending (idle e)
  have applies : ∀ e ∈ getEventsByAggregateId pg orderId s, Applies pg e := by
    intro e he
    obtain ⟨stored, hstored, rfl⟩ := List.mem_map.mp he
    exact (settles stored hstored).1
  have about : ∀ e ∈ getEventsByAggregateId pg orderId s, e.aggregateId = orderId := by
    intro e he
    obtain ⟨stored, hstored, rfl⟩ := List.mem_map.mp he
    exact (mem_inOrder.mp hstored).2
  obtain ⟨m, hm⟩ := foldEvents_of_applies applies .empty
  refine ⟨m, hm, ?_⟩
  rw [foldEvents_orderRow hm about]
  have reflects := reflects_iff.mp h.reflects
  rw [reflects, getEventsByAggregateId, List.foldl_map]
  apply foldl_filter_eq (p := fun e : StoredEvent => db.isProjectionEventApplied e.eventId)
  intro e he unmarked row
  rcases (settles e he).2 with marked | silent
  · rw [unmarked] at marked
    cases marked
  · rw [storedStep, orderStep, silent, writeOrder]

end Fulfillment
