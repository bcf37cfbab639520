import Fulfillment.Projection.Rows
import Fulfillment.Replay.Stock
import Mathlib

/-!
# One event applied by several transactions at once

The marker is looked up by a plain `SELECT` and set by the last statement, so
every transaction that looks before the first one commits applies the event.
-/

namespace Fulfillment

open Js Effects

/-- Every session applies the event. -/
def opening (ι : Type) (e : EventEnvelope) (db : ProjectionDb) : ProjectionServer ι where
  committed := db.rows
  sessions _ := some ⟨executeInTx e, fun _ => none⟩

variable {pg : Postgres}

/-! ## A session that applies the event -/

/-- What a session has made of the read models when it has performed the statements `done`. -/
structure Mutated (pg : Postgres) (e : EventEnvelope) (committed : Rows ProjectionRow) (s : ProjectionSession)
    (done : List Mutation) : Prop where
  view : ∃ changes, changesOf pg done = .ok changes ∧
    ∀ k, s.view committed (.model k) = applyChanges changes (projectionDb committed).models k
  /-- A row that was left alone is not one of the event's, or nothing of the event touches it as it is. -/
  free : ∀ k, s.own (.model k) = none →
    (∀ m ∈ done, ∀ change, m.change pg = .ok change → ∀ x, change.locks k x = false) ∨
    ∀ m ∈ mutations e, ∀ change, m.change pg = .ok change → change.locks k (committed (.model k)) = false

theorem applyChanges_unlocked {ms : List Mutation} {changes : List Change} (h : changesOf pg ms = .ok changes)
    {k : ModelKey} {m : ReadModels} (free : ∀ c ∈ ms, ∀ change, c.change pg = .ok change → change.locks k (m k) = false) :
    applyChanges changes m k = m k := by
  induction ms generalizing changes m with
  | nil =>
    cases h
    rfl
  | cons c ms ih =>
    obtain ⟨change, hchange, h⟩ := bind_returns h
    obtain ⟨rest, hrest, h⟩ := bind_returns h
    cases h
    have first : change.apply m k = m k := change_unlocked (free c List.mem_cons_self change hchange)
    refine (ih hrest ?_).trans first
    intro c' hc' change' hchange'
    change change'.locks k (change.apply m k) = false
    rw [first]
    exact free c' (List.mem_cons_of_mem _ hc') change' hchange'

theorem changesOf_append {ms ms' : List Mutation} {changes changes' : List Change} (h : changesOf pg ms = .ok changes)
    (h' : changesOf pg ms' = .ok changes') : changesOf pg (ms ++ ms') = .ok (changes ++ changes') := by
  induction ms generalizing changes with
  | nil =>
    cases h
    exact h'
  | cons m ms ih =>
    obtain ⟨change, hchange, h⟩ := bind_returns h
    obtain ⟨rest, hrest, h⟩ := bind_returns h
    cases h
    rw [List.cons_append, changesOf, hchange, ih hrest]
    rfl

/-- Another session that has applied the whole event commits. -/
theorem Mutated.other_commits {e : EventEnvelope} {committed : Rows ProjectionRow} {s t : ProjectionSession}
    {done : List Mutation} (sub : ∀ m ∈ done, m ∈ mutations e) (h : Mutated pg e committed s done)
    (other : Mutated pg e committed t (mutations e)) (exclusive : ∀ k, s.own k = none ∨ t.own k = none) :
    Mutated pg e (t.view committed) s done := by
  obtain ⟨changes, hchanges, hview⟩ := h.view
  obtain ⟨all, hall, hother⟩ := other.view
  -- a row that the session left alone, and that the event does not touch, stays what it was
  have untouched : ∀ k, (∀ m ∈ mutations e, ∀ change, m.change pg = .ok change →
      change.locks k (committed (.model k)) = false) → t.view committed (.model k) = committed (.model k) := by
    intro k free
    rw [hother k]
    exact applyChanges_unlocked hall free
  constructor
  · refine ⟨changes, hchanges, ?_⟩
    intro k
    cases hown : s.own (.model k) with
    | some x =>
      have hfree : t.own (.model k) = none := by
        rcases exclusive (.model k) with hnone | hnone
        · rw [hown] at hnone
          cases hnone
        · exact hnone
      have hsame : t.view committed (.model k) = committed (.model k) := Session.view_of_free hfree committed
      rw [Session.view_of_locked hown, ← Session.view_of_locked hown committed, hview k]
      exact applyChanges_congr changes hsame.symm
    | none =>
      rw [Session.view_of_free hown]
      have idle : ∀ m ∈ done, ∀ change, m.change pg = .ok change →
          change.locks k ((projectionDb (t.view committed)).models k) = false := by
        intro m hm change hchange
        rcases h.free k hown with never | free
        · exact never m hm change hchange _
        · change change.locks k (t.view committed (.model k)) = false
          rw [untouched k free]
          exact free m (sub m hm) change hchange
      exact (applyChanges_unlocked hchanges idle).symm
  · intro k hown
    rcases h.free k hown with never | free
    · exact .inl never
    · refine .inr fun m hm change hchange => ?_
      rw [untouched k free]
      exact free m hm change hchange

/-- The session performs one more statement. -/
theorem Mutated.statement {e : EventEnvelope} {committed : Rows ProjectionRow} {s : ProjectionSession}
    {done : List Mutation} (h : Mutated pg e committed s done) {m : Mutation} (hm : m ∈ mutations e)
    {clock : Int} {r : Unit} {v : Rows ProjectionRow}
    (effect : (rowStatements pg clock).effect (.mutation m) (s.view committed) = .ok (r, v))
    (rest : Transaction Unit) :
    Mutated pg e committed
      (s.wrote rest ((rowStatements pg clock).locks (.mutation m) (s.view committed)) v) (done ++ [m]) := by
  obtain ⟨changes, hchanges, hview⟩ := h.view
  have hnew := Session.view_wrote (rowStatements pg clock) effect rest
  simp only [rowStatements, projectionStatements] at effect
  cases hchange : m.change pg with
  | error err =>
    rw [hchange] at effect
    cases effect
  | ok change =>
    rw [hchange] at effect
    cases effect
    have hmodels : (projectionDb (s.view committed)).models = applyChanges changes (projectionDb committed).models :=
      funext hview
    constructor
    · refine ⟨changes ++ [change], changesOf_append hchanges (by rw [changesOf, hchange]; rfl), ?_⟩
      intro k
      rw [hnew]
      change change.apply (projectionDb (s.view committed)).models k = _
      rw [hmodels, applyChanges, applyChanges, List.foldl_append]
      rfl
    · intro k hown
      simp only [Session.wrote, rowStatements, statementLocks, hchange] at hown
      split at hown
      · cases hown
      · rename_i hlock
        have hfree : change.locks k (s.view committed (.model k)) = false := Bool.eq_false_iff.mpr hlock
        rw [Session.view_of_free hown] at hfree
        rcases h.free k hown with never | free
        · by_cases locks : ∃ x, change.locks k x = true
          · obtain ⟨x, locks⟩ := locks
            exact .inr fun m' hm' change' hchange' => locks_uniform hm hm' hchange hchange' locks hfree
          · refine .inl fun m' hm' change' hchange' x => ?_
            rcases List.mem_append.mp hm' with hm' | hm'
            · exact never m' hm' change' hchange' x
            · obtain rfl := List.mem_singleton.mp hm'
              rw [hchange] at hchange'
              cases hchange'
              by_contra hlocks
              exact locks ⟨x, Bool.not_eq_false _ ▸ hlocks⟩
        · exact .inr free

/-- Between the lookup of the marker and the commit. -/
inductive Applying (pg : Postgres) (e : EventEnvelope) (committed : Rows ProjectionRow) (s : ProjectionSession) : Prop
  | mutating (done left : List Mutation) (split : mutations e = done ++ left)
      (next : s.rest = (performMutations left >>= fun _ => query (.markProjectionEventApplied e.eventId e.aggregateId)))
      (mutated : Mutated pg e committed s done)
  | marked (finished : s.rest = .pure ()) (mutated : Mutated pg e committed s (mutations e))
      (fits : markerFits e.eventId e.aggregateId = true)
      (marker : (s.view committed (.marker (markerOf e.eventId))).isSome = true)

/-- What is left to do when a session is ready to commit. -/
theorem Applying.ready {e : EventEnvelope} {committed : Rows ProjectionRow} {s : ProjectionSession} {a : Unit}
    (h : Applying pg e committed s) (done : s.rest = .pure a) :
    Mutated pg e committed s (mutations e) ∧ markerFits e.eventId e.aggregateId = true ∧
      (s.view committed (.marker (markerOf e.eventId))).isSome = true := by
  cases h with
  | mutating _ left _ next _ =>
    rw [done] at next
    cases left <;> cases next
  | marked _ mutated fits marker => exact ⟨mutated, fits, marker⟩

/-- The next statement of a session that applies the event. -/
theorem Applying.statement {e : EventEnvelope} {committed : Rows ProjectionRow} {s : ProjectionSession}
    (h : Applying pg e committed s) {clock : Int} {c : ProjectionStatement}
    {k : Except JsError c.Answer → Transaction Unit} (next : s.rest = .call c k) {r : c.Answer}
    {v : Rows ProjectionRow} (effect : (rowStatements pg clock).effect c (s.view committed) = .ok (r, v)) :
    Applying pg e committed (s.wrote (k (.ok r)) ((rowStatements pg clock).locks c (s.view committed)) v) := by
  cases h with
  | mutating done left split hnext mutated =>
    rw [next] at hnext
    cases left with
    | nil =>
      -- the marker is all that is left
      cases hnext
      have hview := Session.view_wrote (rowStatements pg clock) effect (.pure ())
      have whole : done = mutations e := by rw [split, List.append_nil]
      subst whole
      simp only [rowStatements, projectionStatements] at effect
      split at effect
      · rename_i fits
        cases effect
        refine .marked rfl ⟨?_, ?_⟩ fits ?_
        · obtain ⟨changes, hchanges, hmodels⟩ := mutated.view
          refine ⟨changes, hchanges, fun k => ?_⟩
          rw [← hmodels k]
          exact congrFun hview (.model k)
        · exact mutated.free
        · have hmarker := congrFun hview (.marker (markerOf e.eventId))
          rw [Prog.ofExcept_ok, hmarker]
          simp [ProjectionDb.rows, ProjectionDb.markProjectionEventApplied]
      · cases effect
    | cons m left =>
      cases hnext
      have own : m ∈ mutations e := by simp [split]
      refine .mutating (done ++ [m]) left (by simp [split]) ?_ (mutated.statement own effect _)
      rfl
  | marked finished =>
    rw [next] at finished
    cases finished

theorem Applying.other_commits {e : EventEnvelope} {committed : Rows ProjectionRow} {s t : ProjectionSession}
    (h : Applying pg e committed s) (other : Mutated pg e committed t (mutations e))
    (exclusive : ∀ k, s.own k = none ∨ t.own k = none)
    (marker : (t.view committed (.marker (markerOf e.eventId))).isSome = true) :
    Applying pg e (t.view committed) s := by
  cases h with
  | mutating done left split next mutated =>
    refine .mutating done left split next (mutated.other_commits (fun m hm => ?_) other exclusive)
    rw [split]
    exact List.mem_append_left _ hm
  | marked finished mutated fits own =>
    refine .marked finished (mutated.other_commits (fun _ hm => hm) other exclusive) fits ?_
    cases hown : s.own (.marker (markerOf e.eventId)) with
    | none => rwa [Session.view_of_free hown]
    | some x =>
      rw [Session.view_of_locked hown] at own ⊢
      exact own

/-! ## A run -/

variable {ι : Type} [DecidableEq ι]

/-- The sessions that look for the marker before it is there. -/
def appliers (e : EventEnvelope) (db : ProjectionDb) (acts : List (Act ι)) : Finset ι :=
  if db.isProjectionEventApplied e.eventId then ∅ else early acts

/-- Those of them that have committed. -/
def committers (e : EventEnvelope) (db : ProjectionDb) (acts : List (Act ι)) (p : ProjectionServer ι) : Finset ι :=
  (appliers e db acts).filter fun i => (p.sessions i).isNone

/-- A session that found the marker. -/
def skipped : ProjectionSession := ⟨.pure (), fun _ => none⟩

structure Running (pg : Postgres) (e : EventEnvelope) (db : ProjectionDb) (acts : List (Act ι))
    (p : ProjectionServer ι) : Prop where
  unread : ∀ i, (∀ a ∈ acts, a.session ≠ i) → p.sessions i = some ⟨executeInTx e, fun _ => none⟩
  applying : ∀ i s, p.sessions i = some s → i ∈ appliers e db acts → Applying pg e p.committed s
  skipping : ∀ i s, p.sessions i = some s → (∃ a ∈ acts, a.session = i) → i ∉ appliers e db acts → s = skipped
  ended : ∀ i, p.sessions i = none → Act.commit i ∈ acts
  text : acts ≠ [] → fitsText e.eventId = true
  begun : acts ≠ [] → (early acts).Nonempty
  marker : (p.committed (.marker (markerOf e.eventId))).isSome = true ↔
    db.isProjectionEventApplied e.eventId = true ∨ Commits acts
  models : (committers e db acts p = ∅ ∧ (projectionDb p.committed).models = db.models) ∨
    markerFits e.eventId e.aggregateId = true ∧ ∃ changes, changesOfEvent pg e = .ok changes ∧
      (projectionDb p.committed).models = (applyChanges changes)^[(committers e db acts p).card] db.models

theorem mem_appliers {e : EventEnvelope} {db : ProjectionDb} {acts : List (Act ι)} {i : ι} :
    i ∈ appliers e db acts ↔ db.isProjectionEventApplied e.eventId = false ∧ i ∈ early acts := by
  unfold appliers
  split <;> simp_all

theorem acted_of_applier {e : EventEnvelope} {db : ProjectionDb} {acts : List (Act ι)} {i : ι}
    (h : i ∈ appliers e db acts) : ∃ a ∈ acts, a.session = i :=
  acted_of_early (mem_appliers.mp h).2

theorem Running.start (e : EventEnvelope) (db : ProjectionDb) : Running pg e db [] (opening ι e db) where
  unread _ _ := rfl
  applying i s hs hi := by
    obtain ⟨a, ha, -⟩ := acted_of_applier hi
    cases ha
  skipping i s hs acted _ := by
    obtain ⟨a, ha, -⟩ := acted
    cases ha
  ended i hi := by cases hi
  text h := absurd rfl h
  begun h := absurd rfl h
  marker := by
    change db.isProjectionEventApplied e.eventId = true ↔ _
    simp [Commits]
  models := by
    refine .inl ⟨?_, rfl⟩
    simp [committers, appliers, early]

/-- A statement of one session; what it made of that session is left to show. -/
theorem Running.moves {e : EventEnvelope} {db : ProjectionDb} {acts : List (Act ι)} {p : ProjectionServer ι}
    (h : Running pg e db acts p) {i : ι} (busy : p.sessions i ≠ none) (text : fitsText e.eventId = true)
    {s : ProjectionSession} (applying : i ∈ appliers e db (acts ++ [.statement i]) → Applying pg e p.committed s)
    (skipping : i ∉ appliers e db (acts ++ [.statement i]) → s = skipped) :
    Running pg e db (acts ++ [.statement i]) ⟨p.committed, Function.update p.sessions i (some s)⟩ := by
  have others : ∀ j, j ≠ i → (j ∈ appliers e db (acts ++ [.statement i]) ↔ j ∈ appliers e db acts) := by
    intro j hne
    rw [mem_appliers, mem_appliers, mem_early_append_statement acts hne]
  have same : committers e db (acts ++ [.statement i]) ⟨p.committed, Function.update p.sessions i (some s)⟩ =
      committers e db acts p := by
    ext j
    by_cases hj : j = i
    · subst hj
      simp [committers, busy]
    · simp [committers, others j hj, hj]
  constructor
  · intro j hj
    have hne : j ≠ i := fun same => hj _ (List.mem_append_right _ (List.mem_singleton_self _)) same.symm
    exact (Function.update_of_ne hne ..).trans (h.unread j fun a ha => hj a (List.mem_append_left _ ha))
  · intro j t ht hj
    rcases session_update ht with ⟨rfl, hs⟩ | ⟨hne, ht⟩
    · cases hs
      exact applying hj
    · exact h.applying j t ht ((others j hne).mp hj)
  · intro j t ht acted hj
    rcases session_update ht with ⟨rfl, hs⟩ | ⟨hne, ht⟩
    · cases hs
      exact skipping hj
    · obtain ⟨a, ha, hsession⟩ := acted
      rcases List.mem_append.mp ha with ha | ha
      · exact h.skipping j t ht ⟨a, ha, hsession⟩ fun hmem => hj ((others j hne).mpr hmem)
      · obtain rfl := List.mem_singleton.mp ha
        exact absurd hsession.symm hne
  · intro j hj
    by_cases hne : j = i
    · subst hne
      simp at hj
    · exact List.mem_append_left _ (h.ended j ((Function.update_of_ne hne ..).symm.trans hj))
  · intro _
    exact text
  · intro _
    by_cases commits : Commits acts
    · obtain ⟨j, hj⟩ := commits
      rw [early_append_of_commits ⟨j, hj⟩]
      exact h.begun (List.ne_nil_of_mem hj)
    · rw [early_append_statement commits]
      exact Finset.insert_nonempty ..
  · rw [commits_append]
    exact h.marker
  · rw [same]
    exact h.models

/-- The first statement of a session looks up the marker. -/
theorem Running.reads {e : EventEnvelope} {db : ProjectionDb} {acts : List (Act ι)} {p : ProjectionServer ι}
    (h : Running pg e db acts p) {i : ι} (fresh : ∀ a ∈ acts, a.session ≠ i) {s : ProjectionSession}
    (busy : p.sessions i = some s) {clock : Int} {c : ProjectionStatement}
    {k : Except JsError c.Answer → Transaction Unit} (next : s.rest = .call c k) {r : c.Answer}
    {v : Rows ProjectionRow} (effect : (rowStatements pg clock).effect c (s.view p.committed) = .ok (r, v)) :
    Running pg e db (acts ++ [.statement i]) ⟨p.committed, Function.update p.sessions i
      (some (s.wrote (k (.ok r)) ((rowStatements pg clock).locks c (s.view p.committed)) v))⟩ := by
  have opened := h.unread i fresh
  rw [busy] at opened
  cases opened
  cases next
  have hview : (⟨executeInTx e, fun _ => none⟩ : ProjectionSession).view p.committed = p.committed := rfl
  rw [hview] at effect
  simp only [rowStatements, projectionStatements] at effect
  split at effect
  · rename_i text
    cases effect
    have notYet : i ∉ early acts := by
      intro hi
      obtain ⟨a, ha, hsession⟩ := acted_of_early hi
      exact fresh a ha hsession
    apply h.moves (by rw [busy]; exact Option.some_ne_none _) text
    · intro hi
      obtain ⟨unmarked, hi⟩ := mem_appliers.mp hi
      have before : ¬Commits acts := by
        intro commits
        rw [early_append_of_commits commits] at hi
        exact notYet hi
      have absent : (projectionDb p.committed).isProjectionEventApplied e.eventId = false := by
        apply Bool.eq_false_iff.mpr
        intro present
        rcases h.marker.mp present with marked | commits
        · rw [unmarked] at marked
          cases marked
        · exact before commits
      rw [absent]
      refine .mutating [] (mutations e) rfl rfl ⟨⟨[], rfl, fun _ => rfl⟩, fun k _ => .inl ?_⟩
      intro m hm
      cases hm
    · intro hi
      have present : (projectionDb p.committed).isProjectionEventApplied e.eventId = true := by
        apply h.marker.mpr
        by_contra neither
        obtain ⟨unmarked, before⟩ := not_or.mp neither
        apply hi
        rw [mem_appliers, early_append_statement before]
        exact ⟨Bool.eq_false_iff.mpr unmarked, Finset.mem_insert_self ..⟩
      rw [present]
      rfl
  · cases effect

theorem Running.statement {e : EventEnvelope} {db : ProjectionDb} {acts : List (Act ι)} {p : ProjectionServer ι}
    (h : Running pg e db acts p) {i : ι} {s : ProjectionSession}
    (busy : p.sessions i = some s) {clock : Int} {c : ProjectionStatement}
    {k : Except JsError c.Answer → Transaction Unit} (next : s.rest = .call c k) {r : c.Answer}
    {v : Rows ProjectionRow} (effect : (rowStatements pg clock).effect c (s.view p.committed) = .ok (r, v)) :
    Running pg e db (acts ++ [.statement i]) ⟨p.committed, Function.update p.sessions i
      (some (s.wrote (k (.ok r)) ((rowStatements pg clock).locks c (s.view p.committed)) v))⟩ := by
  by_cases acted : ∃ a ∈ acts, a.session = i
  · by_cases applier : i ∈ appliers e db acts
    · have later : i ∈ appliers e db (acts ++ [.statement i]) := by
        obtain ⟨unmarked, hi⟩ := mem_appliers.mp applier
        exact mem_appliers.mpr ⟨unmarked, mem_early_mono hi⟩
      have text : fitsText e.eventId = true := by
        obtain ⟨a, ha, -⟩ := acted
        exact h.text (List.ne_nil_of_mem ha)
      apply h.moves (by rw [busy]; exact Option.some_ne_none _) text
      · intro _
        exact (h.applying i s busy applier).statement next effect
      · intro hi
        exact absurd later hi
    · have idle := h.skipping i s busy acted applier
      subst idle
      cases next
  · have fresh : ∀ a ∈ acts, a.session ≠ i := fun a ha same => acted ⟨a, ha, same⟩
    exact h.reads fresh busy next effect

theorem Running.iterated {e : EventEnvelope} {db : ProjectionDb} {acts : List (Act ι)} {p : ProjectionServer ι}
    (h : Running pg e db acts p) {changes : List Change} (ok : changesOfEvent pg e = .ok changes) :
    (projectionDb p.committed).models = (applyChanges changes)^[(committers e db acts p).card] db.models := by
  rcases h.models with ⟨none, same⟩ | ⟨-, changes', ok', same⟩
  · rw [none, same]
    rfl
  · rw [ok] at ok'
    cases ok'
    exact same

theorem appliers_append_commit (e : EventEnvelope) (db : ProjectionDb) (acts : List (Act ι)) (i : ι) :
    appliers e db (acts ++ [.commit i]) = appliers e db acts := by
  simp only [appliers, early_append_commit]

/-- One session commits; what this makes of the rows is left to show. -/
theorem Running.leaves {e : EventEnvelope} {db : ProjectionDb} {acts : List (Act ι)} {p : ProjectionServer ι}
    (h : Running pg e db acts p) {i : ι} (acted : ∃ a ∈ acts, a.session = i) {committed : Rows ProjectionRow}
    (applying : ∀ j t, j ≠ i → p.sessions j = some t → j ∈ appliers e db acts → Applying pg e committed t)
    (marker : (committed (.marker (markerOf e.eventId))).isSome = true)
    (models : ∀ {n}, (committers e db (acts ++ [.commit i]) ⟨committed, Function.update p.sessions i none⟩).card = n →
      (n = 0 ∧ (projectionDb committed).models = db.models) ∨
      markerFits e.eventId e.aggregateId = true ∧ ∃ changes, changesOfEvent pg e = .ok changes ∧
        (projectionDb committed).models = (applyChanges changes)^[n] db.models) :
    Running pg e db (acts ++ [.commit i]) ⟨committed, Function.update p.sessions i none⟩ := by
  have here : Act.commit i ∈ acts ++ [.commit i] := List.mem_append_right _ (List.mem_singleton_self _)
  have others : ∀ {j t}, Function.update p.sessions i none j = some t → j ≠ i ∧ p.sessions j = some t := by
    intro j t ht
    rcases session_update ht with ⟨-, hs⟩ | other
    · cases hs
    · exact other
  constructor
  · intro j hj
    have hne : j ≠ i := fun same => hj _ here same.symm
    exact (Function.update_of_ne hne ..).trans (h.unread j fun a ha => hj a (List.mem_append_left _ ha))
  · intro j t ht hj
    rw [appliers_append_commit] at hj
    obtain ⟨hne, ht⟩ := others ht
    exact applying j t hne ht hj
  · intro j t ht hacted hj
    rw [appliers_append_commit] at hj
    obtain ⟨hne, ht⟩ := others ht
    obtain ⟨a, ha, hsession⟩ := hacted
    rcases List.mem_append.mp ha with ha | ha
    · exact h.skipping j t ht ⟨a, ha, hsession⟩ hj
    · obtain rfl := List.mem_singleton.mp ha
      exact absurd hsession.symm hne
  · intro j hj
    by_cases hne : j = i
    · subst hne
      exact here
    · exact List.mem_append_left _ (h.ended j ((Function.update_of_ne hne ..).symm.trans hj))
  · intro _
    obtain ⟨a, ha, -⟩ := acted
    exact h.text (List.ne_nil_of_mem ha)
  · intro _
    obtain ⟨a, ha, -⟩ := acted
    rw [early_append_commit]
    exact h.begun (List.ne_nil_of_mem ha)
  · exact iff_of_true marker (.inr ⟨i, here⟩)
  · rcases models rfl with ⟨none, same⟩ | applied
    · exact .inl ⟨Finset.card_eq_zero.mp none, same⟩
    · exact .inr applied

theorem Running.commit {e : EventEnvelope} {db : ProjectionDb} {acts : List (Act ι)} {p : ProjectionServer ι}
    (h : Running pg e db acts p) (exclusive : p.Exclusive) {i : ι} {s : ProjectionSession} {a : Unit}
    (busy : p.sessions i = some s) (done : s.rest = .pure a) :
    Running pg e db (acts ++ [.commit i]) ⟨s.view p.committed, Function.update p.sessions i none⟩ := by
  have acted : ∃ a ∈ acts, a.session = i := by
    by_contra never
    have opened := h.unread i fun a ha same => never ⟨a, ha, same⟩
    rw [busy] at opened
    cases opened
    cases done
  by_cases applier : i ∈ appliers e db acts
  · obtain ⟨mutated, fits, marker⟩ := (h.applying i s busy applier).ready done
    apply h.leaves acted ?_ marker
    · intro n hn
      obtain ⟨changes, ok, hview⟩ := mutated.view
      have more : committers e db (acts ++ [.commit i]) ⟨s.view p.committed, Function.update p.sessions i none⟩ =
          insert i (committers e db acts p) := by
        ext j
        by_cases hj : j = i
        · subst hj
          simp [committers, appliers_append_commit, applier]
        · simp [committers, appliers_append_commit, hj]
      have first : i ∉ committers e db acts p := by simp [committers, busy]
      rw [more, Finset.card_insert_of_notMem first] at hn
      refine .inr ⟨fits, changes, ok, ?_⟩
      rw [← hn, Function.iterate_succ_apply', ← h.iterated ok]
      exact funext hview
    · intro j t hne ht hj
      exact (h.applying j t ht hj).other_commits mutated (exclusive j i t s hne ht busy) marker
  · have idle := h.skipping i s busy acted applier
    subst idle
    have marked : (p.committed (.marker (markerOf e.eventId))).isSome = true := by
      apply h.marker.mpr
      by_contra neither
      obtain ⟨unmarked, before⟩ := not_or.mp neither
      apply applier
      obtain ⟨a, ha, rfl⟩ := acted
      exact mem_appliers.mpr ⟨Bool.eq_false_iff.mpr unmarked, early_of_acted before ha⟩
    apply h.leaves acted ?_ marked
    · intro n hn
      have same : committers e db (acts ++ [.commit i]) ⟨p.committed, Function.update p.sessions i none⟩ =
          committers e db acts p := by
        ext j
        by_cases hj : j = i
        · subst hj
          simp [committers, appliers_append_commit, applier]
        · simp [committers, appliers_append_commit, hj]
      rw [same] at hn
      subst hn
      rcases h.models with ⟨none, unchanged⟩ | applied
      · exact .inl ⟨Finset.card_eq_zero.mpr none, unchanged⟩
      · exact .inr applied
    · intro j t hne ht hj
      exact h.applying j t ht hj

/-- Each session of a run has its own transaction time. -/
theorem running {clocks : ι → Int} {e : EventEnvelope} {db : ProjectionDb} {acts : List (Act ι)}
    {p : ProjectionServer ι} (run : ServerRun (fun i => rowStatements pg (clocks i)) (opening ι e db) acts p) :
    Running pg e db acts p := by
  induction run with
  | start => exact .start e db
  | step before step ih =>
    have unlocked : ∀ i s, (opening ι e db).sessions i = some s → ∀ k, s.own k = none := by
      intro i s hs k
      cases hs
      rfl
    cases step with
    | statement i s c k r v busy next waits effect => exact ih.statement busy next effect
    | commit i s a busy done => exact ih.commit (before.exclusive unlocked) busy done

theorem returns_performMutations {clock : Int} {ms : List Mutation} {changes : List Change}
    (h : changesOf pg ms = .ok changes) {f : Unit → Transaction Unit} {v w : Rows ProjectionRow}
    (rest : Returns (rowStatements pg clock) (f ())
      { projectionDb v with models := applyChanges changes (projectionDb v).models }.rows () w) :
    Returns (rowStatements pg clock) (performMutations ms >>= f) v () w := by
  induction ms generalizing changes v with
  | nil =>
    cases h
    have same : (projectionDb v).rows = v := by
      funext k
      cases k <;> rfl
    rw [← same]
    exact rest
  | cons m ms ih =>
    obtain ⟨change, hchange, h⟩ := bind_returns h
    obtain ⟨changes, hchanges, h⟩ := bind_returns h
    cases h
    apply @Returns.call _ _ _ _ _ _ _ _ _ () v { projectionDb v with models := change.apply (projectionDb v).models }.rows
    · simp only [rowStatements, projectionStatements, hchange]
      rfl
    · exact ih hchanges rest

/-- What a session that missed the marker still has to do. -/
theorem returns_applying {clock : Int} {e : EventEnvelope} (applies : Applies pg e) (v : Rows ProjectionRow) :
    ∃ w, Returns (rowStatements pg clock)
      (performMutations (mutations e) >>= fun _ => query (.markProjectionEventApplied e.eventId e.aggregateId))
      v () w := by
  obtain ⟨-, hok, fits⟩ := applies
  obtain ⟨changes, ok⟩ := ok_of_isOk hok
  have effect : (rowStatements pg clock).effect (.markProjectionEventApplied e.eventId e.aggregateId)
      { projectionDb v with models := applyChanges changes (projectionDb v).models }.rows =
      .ok ((), (ProjectionDb.markProjectionEventApplied e.eventId e.aggregateId clock
        { projectionDb v with models := applyChanges changes (projectionDb v).models }).rows) := by
    simp only [rowStatements, projectionStatements, fits, if_true]
    rfl
  exact ⟨_, returns_performMutations ok (.call _ _ () effect (.pure () _))⟩

/-- A session that has just missed the marker. -/
def missed (e : EventEnvelope) : ProjectionSession :=
  ⟨performMutations (mutations e) >>= fun _ => query (.markProjectionEventApplied e.eventId e.aggregateId),
    fun _ => none⟩

theorem misses {ι : Type} [DecidableEq ι] {clocks : ι → Int} {e : EventEnvelope} {db : ProjectionDb}
    (text : fitsText e.eventId = true) (unmarked : db.isProjectionEventApplied e.eventId = false)
    (sessions : ι → Option ProjectionSession) {i : ι} (unread : sessions i = some ⟨executeInTx e, fun _ => none⟩) :
    ServerStep (fun i => rowStatements pg (clocks i)) ⟨db.rows, sessions⟩ (.statement i)
      ⟨db.rows, Function.update sessions i (some (missed e))⟩ := by
  have effect : (rowStatements pg (clocks i)).effect (.isProjectionEventApplied e.eventId) db.rows =
      .ok (false, db.rows) := by
    change ((if fitsText e.eventId = true then .ok (db.isProjectionEventApplied e.eventId, db) else .error columnError :
      Except JsError (Bool × ProjectionDb)).map fun r => (r.1, r.2.rows)) = _
    rw [if_pos text, unmarked]
    rfl
  have step := ServerStep.statement (S := fun i => rowStatements pg (clocks i)) (p := ⟨db.rows, sessions⟩) i
    ⟨executeInTx e, fun _ => none⟩ (.isProjectionEventApplied e.eventId) _ false db.rows unread rfl
    (fun _ _ _ _ _ locks => by cases locks) effect
  exact step

/-- Both transactions look up the marker before either commits. -/
theorem overlapping {e : EventEnvelope} {db : ProjectionDb} (applies : Applies pg e)
    (unmarked : db.isProjectionEventApplied e.eventId = false) (clocks : Bool → Int) :
    ∃ acts p, ServerRun (fun i => rowStatements pg (clocks i)) (opening Bool e db)
      ([.statement false, .statement true] ++ acts) p ∧ ∀ i, p.sessions i = none := by
  have looked : ServerRun (fun i => rowStatements pg (clocks i)) (opening Bool e db)
      [.statement false, .statement true] ⟨db.rows, fun _ => some (missed e)⟩ := by
    have first := @misses pg Bool _ clocks e db applies.1 unmarked (opening Bool e db).sessions false rfl
    have second := @misses pg Bool _ clocks e db applies.1 unmarked
      (Function.update (opening Bool e db).sessions false (some (missed e))) true rfl
    have both : Function.update (Function.update (opening Bool e db).sessions false (some (missed e))) true
        (some (missed e)) = fun _ => some (missed e) := by
      funext i
      cases i <;> rfl
    rw [both] at second
    exact (ServerRun.start.step first).step second
  have unlocked : ∀ {sessions : Bool → Option ProjectionSession}, (∀ j t, sessions j = some t → t = missed e) →
      ∀ i j t, j ≠ i → sessions j = some t → ∀ k, t.own k = none := by
    intro sessions all i j t _ ht k
    rw [all j t ht]
    rfl
  obtain ⟨w, returns⟩ := @returns_applying pg (clocks false) _ applies db.rows
  obtain ⟨acts, run⟩ := ServerRun.solo (S := fun i => rowStatements pg (clocks i)) (i := false) (s := missed e)
    (p := ⟨db.rows, fun _ => some (missed e)⟩) rfl
    (unlocked (fun j t ht => (Option.some.inj ht).symm) false) returns
  obtain ⟨w', returns'⟩ := @returns_applying pg (clocks true) _ applies w
  obtain ⟨acts', run'⟩ := ServerRun.solo (S := fun i => rowStatements pg (clocks i)) (i := true) (s := missed e)
    (p := ⟨w, Function.update (fun _ => some (missed e)) false none⟩) rfl
    (unlocked (fun j t ht => by cases j <;> cases ht; rfl) true) returns'
  refine ⟨acts ++ acts', _, List.append_assoc .. ▸ (looked.trans run).trans run', ?_⟩
  intro i
  cases i <;> rfl

end Fulfillment
