import Fulfillment.Saga.Handlers
import Mathlib

/-!
# The compensation barrier under concurrency

Reports of completed compensations are handled side by side. Each handler reads
the saga unlocked, updates it under the row lock and cancels the order if its
update was the one that met the barrier. `BarrierKept` is what should hold in
every interleaving, and `compensation_barrier` says for which reports it does:
those whose correlation id fits its column.
-/

namespace Fulfillment

open Js Effects SagaOrchestrator

/-- Reports about an order that is `COMPENSATING`, one slot each, every call
succeeding. -/
def reporting {ι : Type} (orderId : String) (pending : List String) (jobs : ι → Handling) :
    Machine JsError World Answer ι Handling Unit where
  semantics := platform .none
  body _ job := processEvent job.amb job.event
  init w := w.db.WellKeyed ∧ w.journal = [] ∧ ∃ s, stored orderId w = some s ∧ s.state = .compensating ∧
    s.context.compensationsPending = some pending ∧ s.context.compensationsCompleted = some [] ∧ s.fits = true
  startable i job _ := job = jobs i
  allowed _ _ _ o _ := o = .ok
  environment _ _ := False
  leaves _ _ := False

/-! ## One update of the barrier -/

theorem mem_withCompleted {s : SagaRow} {action a : String} :
    a ∈ withCompleted s.context action ↔ a ∈ s.completedList ∨ a = action := by
  simp only [withCompleted, SagaRow.completedList]
  split
  · rename_i h
    exact ⟨.inl, fun h' => h'.elim id fun h' => h' ▸ h⟩
  · simp

theorem prefix_withCompleted (s : SagaRow) (action : String) :
    s.completedList <+: withCompleted s.context action := by
  simp only [withCompleted, SagaRow.completedList]
  split
  · exact List.prefix_refl _
  · exact List.prefix_append _ _

theorem nodup_withCompleted {s : SagaRow} (h : s.completedList.Nodup) (action : String) :
    (withCompleted s.context action).Nodup := by
  simp only [withCompleted]
  split
  · exact h
  · rename_i fresh
    refine List.nodup_append.mpr ⟨h, List.nodup_singleton _, ?_⟩
    rintro a ha b hb rfl
    exact fresh (List.mem_singleton.mp hb ▸ ha)

/-! ## What the columns take of it -/

theorem context_fits {ctx : SagaContext} {completed : List String} (h : fitsJsonb ctx.toJson = true)
    (texts : ∀ a ∈ completed, fitsJsonbText a = true) :
    fitsJsonb { ctx with compensationsCompleted := some completed }.toJson = true := by
  simp only [SagaContext.toJson, fitsJsonb, fieldsFitJsonb_record] at h ⊢
  have new : ∀ v, Option.map (fun xs => Json.arr (xs.map .str)) (some completed) = some v →
      fitsJsonbText "compensations_completed" = true ∧ fitsJsonb v = true := by
    rintro v hv
    cases hv
    refine ⟨by decide, ?_⟩
    rw [fitsJsonb, elementsFitJsonb_iff]
    rintro x hx
    obtain ⟨a, ha, rfl⟩ := List.mem_map.mp hx
    exact texts a ha
  simp only [List.forall_mem_cons] at h ⊢
  tauto

theorem completed_fit {s : SagaRow} (h : s.fits = true) : ∀ a ∈ s.completedList, fitsJsonbText a = true := by
  intro a ha
  simp only [SagaRow.fits, Bool.and_eq_true, SagaContext.toJson, fitsJsonb, fieldsFitJsonb_record] at h
  cases completed : s.context.compensationsCompleted with
  | none => simp [SagaRow.completedList, completed] at ha
  | some xs =>
    have fit := h.1.2 ("compensations_completed", s.context.compensationsCompleted.map fun xs => .arr (xs.map .str))
      (by simp) (.arr (xs.map .str)) (by simp [completed])
    rw [fitsJsonb, elementsFitJsonb_iff] at fit
    have member : a ∈ xs := by simpa [SagaRow.completedList, completed] using ha
    exact fit.2 (.str a) (List.mem_map_of_mem member)

/-- The columns take a barrier update of a stored saga exactly if they take its correlation id. -/
theorem barrierRow_fits {s : SagaRow} {orderId action : String} {t : EventType} (h : s.fits = true)
    (about : s.aggregateId = orderId) (id : s.sagaId = sagaIdOf orderId) (reports : reported t = some action)
    (correlationId : String) :
    (barrierRow s orderId action correlationId).fits = fitsVarchar 100 correlationId := by
  have named : fitsJsonbText action = true ∧ fitsVarchar 50 ("COMPENSATING_WAITING_" ++ action) = true := by
    unfold reported at reports
    split at reports <;> cases reports <;> decide
  have texts : ∀ a ∈ withCompleted s.context action, fitsJsonbText a = true := by
    intro a ha
    rcases mem_withCompleted.mp ha with ha | rfl
    · exact completed_fit h a ha
    · exact named.1
  have present : s.sagaId ≠ "" := id ▸ sagaIdOf_ne_empty orderId
  have kind : fitsVarchar 100 (orString s.sagaType "ORDER_FULFILLMENT") = true := by
    simp only [SagaRow.fits, Bool.and_eq_true] at h
    simp only [orString]
    split
    · decide
    · exact h.1.1.1.1.2
  have step : fitsVarchar 50 (barrierRow s orderId action correlationId).currentStep = true := by
    simp only [barrierRow]
    split
    · decide
    · exact named.2
  simp only [SagaRow.fits, Bool.and_eq_true] at h
  obtain ⟨⟨⟨⟨⟨⟨sagaId, aggregateId⟩, -⟩, -⟩, -⟩, context⟩, reason⟩ := h
  have stays : fitsJsonb (barrierRow s orderId action correlationId).context.toJson = true := context_fits context texts
  rw [about] at aggregateId
  simp only [SagaRow.fits, step, stays]
  simp only [barrierRow, orString, if_neg present, sagaId, aggregateId, reason, Bool.true_and, Bool.and_true]
  simp only [orString] at kind
  rw [kind, Bool.true_and]

theorem mergedInto_fits {row old : SagaRow} (h : row.fits = true) (hold : old.fits = true) :
    (row.mergedInto (some old)).fits = true := by
  simp only [SagaRow.fits, Bool.and_eq_true] at h hold
  obtain ⟨⟨⟨⟨⟨⟨sagaId, aggregateId⟩, -⟩, step⟩, -⟩, context⟩, reason⟩ := h
  have told : (orNull row.failureReason).all fitsText = true := by
    cases text : row.failureReason with
    | none => rfl
    | some r =>
      rw [text] at reason
      simp only [orNull]
      split
      · rfl
      · exact reason
  simp only [SagaRow.fits, SagaRow.mergedInto, Option.elim, Bool.and_eq_true]
  exact ⟨⟨⟨⟨⟨⟨sagaId, aggregateId⟩, hold.1.1.1.1.2⟩, step⟩, hold.1.1.2⟩, context⟩, told⟩

/-! ## What a row says while reports come in -/

section

variable {ι : Type} {orderId : String} {pending : List String} {jobs : ι → Handling}

/-- The event reports the action. -/
def Handling.Reports (job : Handling) (action : String) : Prop :=
  reported job.event.eventType = some action

structure SagaRow.Barred (s : SagaRow) (pending : List String) (jobs : ι → Handling) : Prop where
  awaits : s.context.compensationsPending = some pending
  nodup : s.completedList.Nodup
  reported : ∀ a ∈ s.completedList, ∃ i, (jobs i).Reports a
  state : s.state = .compensating ∨ s.state = .cancelled
  barrier : s.state = .cancelled ↔ ∀ a ∈ pending, a ∈ s.completedList
  fits : s.fits = true

/-- What a stored row may become. -/
structure SagaRow.GrowsTo (s s' : SagaRow) : Prop where
  completed : s.completedList <+: s'.completedList
  cancelled : s.state = .cancelled → s' = s

theorem SagaRow.GrowsTo.refl (s : SagaRow) : s.GrowsTo s := ⟨List.prefix_refl _, fun _ => rfl⟩

theorem SagaRow.GrowsTo.trans {a b c : SagaRow} (h : a.GrowsTo b) (h' : b.GrowsTo c) : a.GrowsTo c where
  completed := h.completed.trans h'.completed
  cancelled ha := by
    obtain rfl := h.cancelled ha
    exact h'.cancelled ha

theorem barred_afterReport {s : SagaRow} (h : s.Barred pending jobs) (about : s.aggregateId = orderId)
    (id : s.sagaId = sagaIdOf orderId) {i : ι} {action : String} (hi : (jobs i).Reports action) {correlationId : String}
    (taken : fitsVarchar 100 correlationId = true) :
    (s.afterReport orderId action correlationId).Barred pending jobs where
  awaits := h.awaits
  nodup := nodup_withCompleted h.nodup action
  reported a ha := by
    rcases mem_withCompleted.mp ha with ha | rfl
    · exact h.reported a ha
    · exact ⟨i, hi⟩
  state := by
    simp only [SagaRow.afterReport, SagaRow.mergedInto, barrierRow]
    split <;> simp
  barrier := by
    simp only [SagaRow.afterReport, SagaRow.mergedInto, barrierRow, SagaRow.completedList, Option.getD_some]
    rw [← allCompleted_iff h.awaits]
    cases allCompensationsCompleted s.context action <;> simp
  fits := mergedInto_fits ((barrierRow_fits h.fits about id hi correlationId).trans taken) h.fits

theorem growsTo_afterReport {s : SagaRow} (h : s.state = .compensating) (action correlationId : String) :
    s.GrowsTo (s.afterReport orderId action correlationId) where
  completed := prefix_withCompleted s action
  cancelled hc := by
    rw [h] at hc
    cases hc

/-! ## How far a handler is -/

/-- The report of the job is in the row, or no longer needed. -/
def Accounted (orderId : String) (job : Handling) (w : World) : Prop :=
  ∃ s, stored orderId w = some s ∧ (s.state = .cancelled ∨ ∀ a, job.Reports a → a ∈ s.completedList)

inductive Stage (orderId : String) (job : Handling) (w : World) : Program Unit → Prop
  | reading : Stage orderId job w (processEvent job.amb job.event)
  | resolving (copy : SagaRow) (action : String) (about : copy.aggregateId = orderId)
      (reports : job.Reports action) :
    Stage orderId job w (handleCompensationCompletion job.amb job.event copy action)
  | sending (m : Message) (carries : m.Carries .orderCancelled orderId)
      (accounted : Accounted orderId job w) : Stage orderId job w (await (.send m))
  | done (accounted : Accounted orderId job w) : Stage orderId job w (.pure ())

/-- The next call is the emission. -/
def Sending (rest : Program Unit) : Prop := ∃ m k, rest = .call (.send m) k

def WorldGrows (orderId : String) (w w' : World) : Prop :=
  ∀ s, stored orderId w = some s → ∃ s', stored orderId w' = some s' ∧ s.GrowsTo s'

theorem WorldGrows.refl (w : World) : WorldGrows orderId w w := fun s hs => ⟨s, hs, .refl s⟩

theorem WorldGrows.trans {a b c : World} (h : WorldGrows orderId a b) (h' : WorldGrows orderId b c) :
    WorldGrows orderId a c := by
  intro s hs
  obtain ⟨s', hs', hg⟩ := h s hs
  obtain ⟨s'', hs'', hg'⟩ := h' s' hs'
  exact ⟨s'', hs'', hg.trans hg'⟩

theorem Accounted.grows {job : Handling} {w w' : World} (hw : WorldGrows orderId w w')
    (h : Accounted orderId job w) : Accounted orderId job w' := by
  obtain ⟨s, hs, h⟩ := h
  obtain ⟨s', hs', hg⟩ := hw s hs
  refine ⟨s', hs', ?_⟩
  rcases h with hc | ha
  · exact .inl (hg.cancelled hc ▸ hc)
  · exact .inr fun a hr => hg.completed.subset (ha a hr)

theorem Stage.grows {job : Handling} {w w' : World} (hw : WorldGrows orderId w w') {rest : Program Unit}
    (h : Stage orderId job w rest) : Stage orderId job w' rest := by
  cases h with
  | reading => exact .reading
  | resolving copy action about reports => exact .resolving copy action about reports
  | sending m carries accounted => exact .sending m carries (accounted.grows hw)
  | done accounted => exact .done (accounted.grows hw)

/-- The three things a call of a handler can do: leave the world alone, update
the row and decide who emits, or emit. -/
inductive Advance (orderId : String) (job : Handling) (w : World) (s : SagaRow) (rest : Program Unit) :
    World → Program Unit → Prop
  | quiet {rest'} (next : Stage orderId job w rest') (silent : ¬Sending rest) (silent' : ¬Sending rest') :
    Advance orderId job w s rest w rest'
  | report {rest'} (action correlationId : String) (reports : job.Reports action)
      (taken : fitsVarchar 100 correlationId = true)
      (compensating : s.state = .compensating)
      (next : Stage orderId job (w.saveSaga (barrierRow s orderId action correlationId)) rest')
      (silent : ¬Sending rest)
      (decides : Sending rest' ↔ (s.afterReport orderId action correlationId).state = .cancelled) :
    Advance orderId job w s rest (w.saveSaga (barrierRow s orderId action correlationId)) rest'
  | emit (m : Message) (carries : m.Carries .orderCancelled orderId)
      (accounted : Accounted orderId job w) (sends : Sending rest) :
    Advance orderId job w s rest (w.take m true) (.pure ())

theorem not_sending_processEvent (amb : Ambient) (e : EventEnvelope) : ¬Sending (processEvent amb e) := by
  rintro ⟨m, k, h⟩
  cases h

theorem reading_advances {job : Handling} {w : World} {s : SagaRow} (keyed : w.db.WellKeyed)
    (hs : stored orderId w = some s) (hstate : s.state = .compensating ∨ s.state = .cancelled)
    {action : String} (reports : job.Reports action) :
    Advance orderId job w s (processEvent job.amb job.event) w
      (Prog.ofExcept (react job.amb job.event (some s)) >>= SagaOrchestrator.perform job.amb job.event) := by
  have silent := not_sending_processEvent job.amb job.event
  rcases hstate with hc | hc
  · rw [react_report hc reports]
    refine .quiet (.resolving s action (getSaga_eq_some keyed hs).1 reports) silent ?_
    rintro ⟨m, k, h⟩
    cases h
  · have ignored : react job.amb job.event (some s) = .ok .ignore := by
      refine react_ignores ?_ (.inr (by simp [hc]))
      simpa [hc] using transition_cancelled _
    rw [ignored]
    refine .quiet (.done ⟨s, hs, .inl hc⟩) silent ?_
    rintro ⟨m, k, h⟩
    cases h

/-- The columns take the update of a handler if they take its correlation id. -/
theorem barrier_taken {job : Handling} {w : World} {s copy : SagaRow} (keyed : w.db.WellKeyed)
    (hs : stored orderId w = some s) (row : s.Barred pending jobs) (about : copy.aggregateId = orderId)
    {action : String} (reports : job.Reports action) (taken : fitsVarchar 100 job.event.correlationId = true) :
    columnsFit (.compensationBarrier copy action job.event.correlationId) w = true := by
  have hs' : w.db.getSagaByAggregateId orderId = some s := hs
  obtain ⟨about', id⟩ := getSaga_eq_some keyed hs
  have readable : fitsText orderId = true := about' ▸ readable_of_fits row.fits
  simp only [columnsFit, executeBarrierUpdate, about, readable, hs', Option.getD_some, Bool.true_and]
  split
  · exact (barrierRow_fits row.fits about' id reports _).trans taken
  · rfl

theorem resolving_advances {job : Handling} {w : World} {s copy : SagaRow} (keyed : w.db.WellKeyed)
    (hs : stored orderId w = some s) (row : s.Barred pending jobs) (about : copy.aggregateId = orderId)
    {action : String} (reports : job.Reports action) (taken : fitsVarchar 100 job.event.correlationId = true) :
    let r := (platform .none).exec (.compensationBarrier copy action job.event.correlationId) .ok w
    Advance orderId job w s (handleCompensationCompletion job.amb job.event copy action) r.2
      (Prog.ofExcept r.1 >>= fun notice : Option CancelNotice =>
        match notice with
        | none => pure ()
        | some notice => await (.send (orderCancelled job.amb job.event copy.aggregateId notice))) := by
  intro r
  have silent : ¬Sending (handleCompensationCompletion job.amb job.event copy action) := by
    rintro ⟨m, k, h⟩
    cases h
  have hr : r = _ := platform_exec_ok .none (barrier_taken keyed hs row about reports taken)
  rw [hr, carryOut_barrier hs about action job.event.correlationId]
  by_cases hc : s.state = .compensating
  · rw [if_pos hc]
    have accounted : Accounted orderId job (w.saveSaga (barrierRow s orderId action job.event.correlationId)) := by
      refine ⟨_, (stored_report keyed hs action _).2, .inr fun a ha => ?_⟩
      obtain rfl : a = action := by
        have := ha.symm.trans reports
        simpa using this
      exact mem_withCompleted.mpr (.inr rfl)
    cases hall : allCompensationsCompleted s.context action with
    | false =>
      have hnone : cancelNotice s action = none := by simp [cancelNotice, hall]
      rw [hnone]
      refine .report action _ reports taken hc (.done accounted) silent ?_
      constructor
      · rintro ⟨m, k, h⟩
        cases h
      · intro h
        simp [SagaRow.afterReport, SagaRow.mergedInto, barrierRow, hall] at h
    | true =>
      obtain ⟨notice, hsome⟩ : ∃ notice, cancelNotice s action = some notice := by simp [cancelNotice, hall]
      rw [hsome]
      refine .report action _ reports taken hc (.sending _ ⟨about, _, rfl, rfl, about⟩ accounted) silent ?_
      refine ⟨fun _ => ?_, fun _ => ⟨_, _, rfl⟩⟩
      simp [SagaRow.afterReport, SagaRow.mergedInto, barrierRow, hall]
  · rw [if_neg hc]
    refine .quiet (.done ⟨s, hs, .inl (row.state.resolve_left hc)⟩) silent ?_
    rintro ⟨m, k, h⟩
    cases h

theorem call_advances {job : Handling} {w : World} {s : SagaRow} (keyed : w.db.WellKeyed)
    (hs : stored orderId w = some s) (row : s.Barred pending jobs) (about : job.event.aggregateId = orderId)
    {action : String} (reports : job.Reports action) (taken : fitsVarchar 100 job.event.correlationId = true)
    {rest : Program Unit} (stage : Stage orderId job w rest)
    {c : Call} {k : Except JsError (Answer c) → Program Unit} (next : rest = .call c k) :
    Advance orderId job w s rest ((platform .none).exec c .ok w).2 (k ((platform .none).exec c .ok w).1) := by
  cases stage with
  | reading =>
    have advances := reading_advances keyed hs row.state reports
    rw [SagaOrchestrator.processEvent] at next
    cases next
    have hs' : w.db.getSagaByAggregateId job.event.aggregateId = some s := about ▸ hs
    have readable : columnsFit (.getSagaByAggregateId job.event.aggregateId) w = true := by
      have stored := readable_of_fits row.fits
      rwa [(getSaga_eq_some keyed hs).1, ← about] at stored
    have read : (platform .none).exec (.getSagaByAggregateId job.event.aggregateId) .ok w = (.ok (some s), w) := by
      simp only [platform_exec_ok .none readable, carryOut, hs']
    rw [read]
    exact advances
  | resolving copy action' about' reports' =>
    have advances := resolving_advances keyed hs row about' reports' taken
    cases next
    exact advances
  | sending m carries accounted =>
    cases next
    exact .emit m carries accounted ⟨_, _, rfl⟩
  | done accounted => cases next

/-! ## Who emits -/

variable [DecidableEq ι]

def Sends (p : Handlers ι) (i : ι) : Prop := ∃ w, p.workers i = some w ∧ Sending w.rest

theorem sends_update {p : Handlers ι} {i j : ι} {w : Worker JsError Answer Handling Unit} {world : World} :
    Sends ⟨world, Function.update p.workers i (some w)⟩ j ↔ (j = i ∧ Sending w.rest) ∨ (j ≠ i ∧ Sends p j) := by
  by_cases hj : j = i
  · subst hj
    simp [Sends]
  · simp [Sends, hj]

/-- As long as the saga is compensating nobody emits; the handler whose update
cancelled it emits once. -/
structure Balance (orderId : String) (p : Handlers ι) (s : SagaRow) : Prop where
  compensating : s.state = .compensating →
    timesEmitted orderId .orderCancelled p.shared.journal = 0 ∧ ∀ i, ¬Sends p i
  cancelled : s.state = .cancelled →
    (timesEmitted orderId .orderCancelled p.shared.journal = 1 ∧ ∀ i, ¬Sends p i) ∨
    (timesEmitted orderId .orderCancelled p.shared.journal = 0 ∧ ∃ i, Sends p i ∧ ∀ j, Sends p j → j = i)

/-- Calls that decide nothing leave the balance as it is. -/
theorem Balance.update {p : Handlers ι} {s : SagaRow} (h : Balance orderId p s) {i : ι}
    {w : Worker JsError Answer Handling Unit} (silent : ¬Sends p i) (silent' : ¬Sending w.rest) :
    Balance orderId ⟨p.shared, Function.update p.workers i (some w)⟩ s := by
  have same : ∀ j, Sends ⟨p.shared, Function.update p.workers i (some w)⟩ j ↔ Sends p j := by
    intro j
    rw [sends_update]
    by_cases hj : j = i
    · subst hj
      simp [silent, silent']
    · simp [hj]
  constructor
  · intro hc
    simpa only [same] using h.compensating hc
  · intro hc
    simpa only [same] using h.cancelled hc

def CancelledSaved (orderId : String) (journal : List Entry) : Prop :=
  ∃ saga, .saved saga ∈ journal ∧ saga.aggregateId = orderId ∧ saga.state = .cancelled

theorem CancelledSaved.cons {journal : List Entry} (h : CancelledSaved orderId journal) (entry : Entry) :
    CancelledSaved orderId (entry :: journal) := by
  obtain ⟨saga, hm, hsaga⟩ := h
  exact ⟨saga, List.mem_cons_of_mem _ hm, hsaga⟩

/-- Every emission comes after a save of the cancelled saga. -/
def EmittedAfterSave (orderId : String) (journal : List Entry) : Prop :=
  ∀ later m acked earlier, journal = later ++ .sent m acked :: earlier → m.Carries .orderCancelled orderId →
    CancelledSaved orderId earlier

theorem EmittedAfterSave.cons {journal : List Entry} (h : EmittedAfterSave orderId journal) (entry : Entry)
    (new : ∀ m acked, entry = .sent m acked → m.Carries .orderCancelled orderId → CancelledSaved orderId journal) :
    EmittedAfterSave orderId (entry :: journal) := by
  intro later m acked earlier split carries
  cases later with
  | nil =>
    obtain ⟨rfl, rfl⟩ := List.cons_eq_cons.mp split
    exact new m acked rfl carries
  | cons _ later => exact h later m acked earlier (List.cons_eq_cons.mp split).2 carries

structure BarrierInv (orderId : String) (pending : List String) (jobs : ι → Handling) (p : Handlers ι) : Prop where
  keyed : p.shared.db.WellKeyed
  row : ∃ s, stored orderId p.shared = some s ∧ s.Barred pending jobs ∧ Balance orderId p s ∧
    (s.state = .cancelled → CancelledSaved orderId p.shared.journal)
  ordered : EmittedAfterSave orderId p.shared.journal
  stages : ∀ i w, p.workers i = some w → w.job = jobs i ∧ Stage orderId w.job p.shared w.rest

theorem stages_update {p : Handlers ι} {i : ι} {w' : Worker JsError Answer Handling Unit} {world : World}
    (grows : WorldGrows orderId p.shared world) (job : w'.job = jobs i) (stage : Stage orderId w'.job world w'.rest)
    (h : ∀ j v, p.workers j = some v → v.job = jobs j ∧ Stage orderId v.job p.shared v.rest) :
    ∀ j v, Function.update p.workers i (some w') j = some v → v.job = jobs j ∧ Stage orderId v.job world v.rest := by
  intro j v hv
  rcases update_eq_some hv with ⟨rfl, hself⟩ | ⟨-, hother⟩
  · obtain rfl := Option.some.inj hself
    exact ⟨job, stage⟩
  · obtain ⟨hjob, hstage⟩ := h j v hother
    exact ⟨hjob, hstage.grows grows⟩

theorem grows_report {w : World} {s : SagaRow} (keyed : w.db.WellKeyed) (hs : stored orderId w = some s)
    (compensating : s.state = .compensating) (action correlationId : String) :
    WorldGrows orderId w (w.saveSaga (barrierRow s orderId action correlationId)) := by
  intro s' hs'
  obtain rfl : s = s' := Option.some.inj (hs.symm.trans hs')
  exact ⟨_, (stored_report keyed hs action correlationId).2, growsTo_afterReport compensating action correlationId⟩

theorem BarrierInv.quiet {p : Handlers ι} (inv : BarrierInv orderId pending jobs p) {i : ι}
    {w : Worker JsError Answer Handling Unit} (job : w.job = jobs i) (next : Stage orderId w.job p.shared w.rest)
    (silent : ¬Sends p i) (silent' : ¬Sending w.rest) :
    BarrierInv orderId pending jobs ⟨p.shared, Function.update p.workers i (some w)⟩ := by
  obtain ⟨s, hs, hrow, hbal, hsaved⟩ := inv.row
  exact ⟨inv.keyed, ⟨s, hs, hrow, hbal.update silent silent', hsaved⟩, inv.ordered,
    stages_update (.refl _) job next inv.stages⟩

/-- The update of a saga that is compensating. -/
theorem BarrierInv.report {p : Handlers ι} (inv : BarrierInv orderId pending jobs p) {i : ι} {s : SagaRow}
    {w w' : Worker JsError Answer Handling Unit} (busy : p.workers i = some w) (job : w'.job = w.job)
    (hs : stored orderId p.shared = some s) {action correlationId : String} (reports : w.job.Reports action)
    (taken : fitsVarchar 100 correlationId = true) (compensating : s.state = .compensating)
    (next : Stage orderId w'.job (p.shared.saveSaga (barrierRow s orderId action correlationId)) w'.rest)
    (decides : Sending w'.rest ↔ (s.afterReport orderId action correlationId).state = .cancelled) :
    BarrierInv orderId pending jobs ⟨p.shared.saveSaga (barrierRow s orderId action correlationId),
      Function.update p.workers i (some w')⟩ := by
  obtain ⟨s', hs', hrow, hbal, -⟩ := inv.row
  obtain rfl : s = s' := Option.some.inj (hs.symm.trans hs')
  obtain ⟨none_sent, none_sends⟩ := hbal.compensating compensating
  have wjob := (inv.stages i w busy).1
  have hrow' : (s.afterReport orderId action correlationId).Barred pending jobs :=
    barred_afterReport hrow (getSaga_eq_some inv.keyed hs).1 (getSaga_eq_some inv.keyed hs).2 (wjob ▸ reports) taken
  obtain ⟨keyed', stored'⟩ := stored_report inv.keyed hs action correlationId
  have only : ∀ j, Sends ⟨p.shared.saveSaga (barrierRow s orderId action correlationId),
      Function.update p.workers i (some w')⟩ j ↔ j = i ∧ Sending w'.rest := by
    intro j
    rw [sends_update]
    simp [none_sends j]
  have none_sent' : timesEmitted orderId .orderCancelled
      (p.shared.saveSaga (barrierRow s orderId action correlationId)).journal = 0 := by
    rw [World.saveSaga, timesEmitted_saved, none_sent]
  refine ⟨keyed', ⟨_, stored', hrow', ⟨fun hc => ?_, fun hc => ?_⟩, fun hc => ?_⟩, ?_, ?_⟩
  · refine ⟨none_sent', fun j hj => ?_⟩
    have := decides.mp ((only j).mp hj).2
    rw [hc] at this
    cases this
  · exact .inr ⟨none_sent', i, (only i).mpr ⟨rfl, decides.mpr hc⟩, fun j hj => ((only j).mp hj).1⟩
  · exact ⟨barrierRow s orderId action correlationId, List.mem_cons_self, rfl, hc⟩
  · exact inv.ordered.cons (.saved _) fun _ _ hentry => Entry.noConfusion hentry
  · exact stages_update (grows_report inv.keyed hs compensating _ _) (job.trans wjob) next inv.stages

theorem BarrierInv.emit {p : Handlers ι} (inv : BarrierInv orderId pending jobs p) {i : ι}
    {w w' : Worker JsError Answer Handling Unit} (busy : p.workers i = some w) (job : w'.job = w.job)
    {m : Message} (carries : m.Carries .orderCancelled orderId) (accounted : Accounted orderId w.job p.shared)
    (sends : Sending w.rest) (finished : w'.rest = .pure ()) :
    BarrierInv orderId pending jobs ⟨p.shared.take m true, Function.update p.workers i (some w')⟩ := by
  obtain ⟨s, hs, hrow, hbal, hsaved⟩ := inv.row
  have emitter : Sends p i := ⟨w, busy, sends⟩
  have cancelled : s.state = .cancelled :=
    hrow.state.resolve_left fun hc => (hbal.compensating hc).2 i emitter
  obtain ⟨none_sent, i', -, only⟩ := (hbal.cancelled cancelled).resolve_left fun h => h.2 i emitter
  have wjob := (inv.stages i w busy).1
  refine ⟨inv.keyed, ⟨s, hs, hrow, ⟨fun hc => ?_, fun _ => .inl ⟨?_, fun j hj => ?_⟩⟩, fun hc => (hsaved hc).cons _⟩,
    inv.ordered.cons _ fun _ _ _ _ => hsaved cancelled, ?_⟩
  · rw [cancelled] at hc
    cases hc
  · rw [World.take, timesEmitted_sent, if_pos carries, none_sent]
  · rcases sends_update.mp hj with ⟨-, m', k', hk⟩ | ⟨hne, hj⟩
    · rw [finished] at hk
      cases hk
    · exact hne ((only j hj).trans (only i emitter).symm)
  · refine stages_update (.refl _) (job.trans wjob) ?_ inv.stages
    rw [finished, job]
    exact .done accounted

theorem BarrierInv.advance {p : Handlers ι} (inv : BarrierInv orderId pending jobs p) {i : ι} {s : SagaRow}
    {w w' : Worker JsError Answer Handling Unit} {world : World} {rest : Program Unit}
    (busy : p.workers i = some w) (hs : stored orderId p.shared = some s)
    (h : Advance orderId w.job p.shared s w.rest world rest) (job : w'.job = w.job) (hrest : w'.rest = rest) :
    BarrierInv orderId pending jobs ⟨world, Function.update p.workers i (some w')⟩ ∧
      WorldGrows orderId p.shared world := by
  cases h with
  | quiet next silent silent' =>
    subst hrest
    refine ⟨inv.quiet (job.trans (inv.stages i w busy).1) (job ▸ next) ?_ silent', .refl _⟩
    rintro ⟨v, hv, sending⟩
    obtain rfl : w = v := Option.some.inj (busy.symm.trans hv)
    exact silent sending
  | report action correlationId reports taken compensating next silent decides =>
    subst hrest
    exact ⟨inv.report busy job hs reports taken compensating (job ▸ next) decides,
      grows_report inv.keyed hs compensating _ _⟩
  | emit m carries accounted sends =>
    exact ⟨inv.emit busy job carries accounted sends hrest, .refl _⟩

/-- All events are reports about the order. -/
def AllReports (orderId : String) (jobs : ι → Handling) : Prop :=
  ∀ i, (jobs i).event.aggregateId = orderId ∧ ∃ action, (jobs i).Reports action

/-- The columns take the correlation ids of all events. -/
def AllTaken (jobs : ι → Handling) : Prop := ∀ i, fitsVarchar 100 (jobs i).event.correlationId = true

theorem step_barrierInv (events : AllReports orderId jobs) (taken : AllTaken jobs) {p q : Handlers ι}
    (inv : BarrierInv orderId pending jobs p) (h : (reporting orderId pending jobs).system.step p q) :
    BarrierInv orderId pending jobs q ∧ WorldGrows orderId p.shared q.shared := by
  cases h with
  | start i job free startable =>
    obtain rfl : job = jobs i := startable
    refine ⟨inv.quiet rfl .reading ?_ (not_sending_processEvent _ _), .refl _⟩
    rintro ⟨v, hv, -⟩
    rw [free] at hv
    cases hv
  | call i w c k o busy next allowed =>
    obtain rfl : o = .ok := allowed
    obtain ⟨s, hs, hrow, -⟩ := inv.row
    obtain ⟨hjob, stage⟩ := inv.stages i w busy
    obtain ⟨about, action, reports⟩ := events i
    have advances := call_advances inv.keyed hs hrow (hjob ▸ about) (hjob ▸ reports) (hjob ▸ taken i) stage next
    exact inv.advance busy hs advances rfl rfl
  | leave i w busy leaves => cases leaves
  | environment w moves => cases moves

theorem reachable_barrierInv (pending_ne : pending ≠ []) (events : AllReports orderId jobs) (taken : AllTaken jobs)
    {p : Handlers ι} (h : Reachable (reporting orderId pending jobs).system p) : BarrierInv orderId pending jobs p := by
  refine h.invariant _ ?_ fun p q _ inv step => (step_barrierInv events taken inv step).1
  rintro p ⟨⟨keyed, hjournal, s, hs, hstate, hpending, hcompleted, fits⟩, idle⟩
  have hlist : s.completedList = [] := by simp [SagaRow.completedList, hcompleted]
  have open_ : s.state ≠ .cancelled := by simp [hstate]
  refine ⟨keyed, ⟨s, hs, ⟨hpending, ?_, ?_, .inl hstate, ?_, fits⟩, ⟨fun _ => ⟨?_, ?_⟩, fun hc => absurd hc open_⟩,
    fun hc => absurd hc open_⟩, ?_, ?_⟩
  · simp [hlist]
  · simp [hlist]
  · obtain ⟨a, ha⟩ := List.exists_mem_of_ne_nil _ pending_ne
    exact ⟨fun hc => absurd hc open_, fun h => by simpa [hlist] using h a ha⟩
  · simp [hjournal, timesEmitted]
  · rintro i ⟨w, hw, -⟩
    simp [idle i] at hw
  · intro later m acked earlier split
    simp [hjournal] at split
  · intro i w hw
    simp [idle i] at hw

theorem steps_grow (pending_ne : pending ≠ []) (events : AllReports orderId jobs) (taken : AllTaken jobs)
    {p q : Handlers ι}
    (h : Reachable (reporting orderId pending jobs).system p)
    (steps : Relation.ReflTransGen (reporting orderId pending jobs).system.step p q) :
    Reachable (reporting orderId pending jobs).system q ∧ WorldGrows orderId p.shared q.shared := by
  induction steps with
  | refl => exact ⟨h, .refl _⟩
  | tail _ step ih =>
    obtain ⟨hr, hg⟩ := ih
    exact ⟨hr.next step, hg.trans (step_barrierInv events taken (reachable_barrierInv pending_ne events taken hr) step).2⟩

/-- The handler's next call is the barrier update. -/
def TakesLock (rest : Program Unit) : Prop :=
  ∃ copy action correlationId k, rest = .call (.compensationBarrier copy action correlationId) k

theorem report_kept (taken : AllTaken jobs) {p : Handlers ι} (inv : BarrierInv orderId pending jobs p) {i : ι}
    {w : Worker JsError Answer Handling Unit} (busy : p.workers i = some w) (lock : TakesLock w.rest) {s : SagaRow}
    (hs : stored orderId p.shared = some s) (compensating : s.state = .compensating) {action : String}
    (reports : (jobs i).Reports action) :
    ∃ s', stored orderId ((reporting orderId pending jobs).move p (.call i .ok)).shared = some s' ∧
      action ∈ s'.completedList := by
  obtain ⟨hjob, stage⟩ := inv.stages i w busy
  obtain ⟨copy, action', correlationId, k, next⟩ := lock
  rw [Machine.move_call _ busy next]
  generalize w.rest = rest at stage next
  cases stage with
  | resolving copy' action'' about reports' =>
    cases next
    obtain rfl : action' = action := by
      have := (hjob ▸ reports').symm.trans reports
      simpa using this
    refine ⟨s.afterReport orderId action' w.job.event.correlationId, ?_, mem_withCompleted.mpr (.inr rfl)⟩
    have barrier := carryOut_barrier hs about action' w.job.event.correlationId true
    rw [if_pos compensating] at barrier
    obtain ⟨s', hs', hrow, -⟩ := inv.row
    obtain rfl : s = s' := Option.some.inj (hs.symm.trans hs')
    have fits := barrier_taken inv.keyed hs hrow about reports' (hjob ▸ taken i)
    simp only [reporting, platform_exec_ok .none fits, barrier]
    exact (stored_report inv.keyed hs action' _).2
  | reading => cases next
  | sending => cases next
  | done => cases next

omit [DecidableEq ι] in
theorem quiescent_accounted {p : Handlers ι} (inv : BarrierInv orderId pending jobs p) (quiescent : p.Quiescent)
    (i : ι) : Accounted orderId (jobs i) p.shared ∧ ¬Sends p i := by
  obtain ⟨w, busy, finished⟩ := quiescent i
  obtain ⟨hjob, stage⟩ := inv.stages i w busy
  rw [← hjob]
  constructor
  · generalize w.rest = rest at stage finished
    cases stage with
    | reading | resolving | sending => cases finished
    | done accounted => exact accounted
  · rintro ⟨v, hv, m, k, sending⟩
    obtain rfl : w = v := Option.some.inj (busy.symm.trans hv)
    rw [sending] at finished
    cases finished

/-- What should hold in every state reached: `OrderCancelled` was emitted at
most once, and after the cancelled saga was saved; completions are not repeated
and none is lost, in particular not one that takes the lock while the saga is
compensating; and when all handlers are done the order is cancelled exactly if
every pending action was reported, with one `OrderCancelled` emitted. -/
structure BarrierKept (orderId : String) (pending : List String) (jobs : ι → Handling) (p : Handlers ι) : Prop where
  once : timesEmitted orderId .orderCancelled p.shared.journal ≤ 1
  ordered : EmittedAfterSave orderId p.shared.journal
  grows : ∀ q, Relation.ReflTransGen (reporting orderId pending jobs).system.step p q →
    ∃ s s', stored orderId p.shared = some s ∧ stored orderId q.shared = some s' ∧
      s.completedList <+: s'.completedList ∧ s'.completedList.Nodup
  kept : ∀ i w s action, p.workers i = some w → TakesLock w.rest → stored orderId p.shared = some s →
    s.state = .compensating → (jobs i).Reports action →
    ∀ q, Relation.ReflTransGen (reporting orderId pending jobs).system.step
      ((reporting orderId pending jobs).move p (.call i .ok)) q →
      ∃ s', stored orderId q.shared = some s' ∧ action ∈ s'.completedList
  ends : p.Quiescent → ∃ s, stored orderId p.shared = some s ∧
    (s.state = .cancelled ↔ ∀ a ∈ pending, ∃ i, (jobs i).Reports a) ∧
    (s.state = .cancelled → timesEmitted orderId .orderCancelled p.shared.journal = 1)

theorem barrier_kept (pending_ne : pending ≠ []) (events : AllReports orderId jobs) (taken : AllTaken jobs)
    {p : Handlers ι} (h : Reachable (reporting orderId pending jobs).system p) : BarrierKept orderId pending jobs p := by
  have inv := reachable_barrierInv pending_ne events taken h
  obtain ⟨s, hs, hrow, hbal, -⟩ := inv.row
  refine ⟨?_, inv.ordered, fun q steps => ?_, fun i w s action busy lock hs compensating reports q steps => ?_,
    fun quiescent => ⟨s, hs, ⟨fun hc a ha => ?_, fun all => ?_⟩, fun hc => ?_⟩⟩
  · rcases hrow.state with hc | hc
    · exact (hbal.compensating hc).1.trans_le (Nat.zero_le 1)
    · rcases hbal.cancelled hc with ⟨hone, -⟩ | ⟨hzero, -⟩
      · exact hone.le
      · exact hzero.trans_le (Nat.zero_le 1)
  · obtain ⟨hq, grows⟩ := steps_grow pending_ne events taken h steps
    obtain ⟨s', hs', hg⟩ := grows s hs
    obtain ⟨s'', hs'', hrow', -⟩ := (reachable_barrierInv pending_ne events taken hq).row
    obtain rfl : s' = s'' := Option.some.inj (hs'.symm.trans hs'')
    exact ⟨s, s', hs, hs', hg.completed, hrow'.nodup⟩
  · have legal : (reporting orderId pending jobs).Legal p (.call i .ok) := fun _ _ _ _ _ => rfl
    obtain ⟨-, grows⟩ := steps_grow pending_ne events taken (Machine.reachable_move h legal) steps
    obtain ⟨s₁, hs₁, kept⟩ := report_kept taken inv busy lock hs compensating reports
    obtain ⟨s₂, hs₂, hg⟩ := grows s₁ hs₁
    exact ⟨s₂, hs₂, hg.completed.subset kept⟩
  · exact hrow.reported a (hrow.barrier.mp hc a ha)
  · by_contra open_
    refine open_ (hrow.barrier.mpr fun a ha => ?_)
    obtain ⟨i, hi⟩ := all a ha
    obtain ⟨s', hs', hacc⟩ := (quiescent_accounted inv quiescent i).1
    obtain rfl : s = s' := Option.some.inj (hs.symm.trans hs')
    exact hacc.resolve_left open_ a hi
  · rcases hbal.cancelled hc with ⟨hone, -⟩ | ⟨-, i, hi, -⟩
    · exact hone
    · exact absurd hi (quiescent_accounted inv quiescent i).2

/-- A handler that has read the saga while it was compensating. -/
def resolvingPool (start : Handlers ι) (i : ι) (job : Handling) (s : SagaRow) (action : String) : Handlers ι :=
  ⟨start.shared, Function.update start.workers i (some
    ⟨job, handleCompensationCompletion job.amb job.event s action,
      [⟨.getSagaByAggregateId job.event.aggregateId, .ok (some s)⟩]⟩)⟩

theorem resolving_reached {start : Handlers ι} {i : ι} {s : SagaRow} {action : String}
    (idle : start.workers i = none) (about : (jobs i).event.aggregateId = orderId) (readable : fitsText orderId = true)
    (hs : stored orderId start.shared = some s) (compensating : s.state = .compensating)
    (reports : (jobs i).Reports action) :
    Relation.ReflTransGen (reporting orderId pending jobs).system.step start
      (resolvingPool start i (jobs i) s action) := by
  have answered : columnsFit (.getSagaByAggregateId (jobs i).event.aggregateId) start.shared = true := by
    rw [about]
    exact readable
  have hs' : start.shared.db.getSagaByAggregateId (jobs i).event.aggregateId = some s := by
    rw [about]
    exact hs
  have exec : (reporting orderId pending jobs).semantics.exec (.getSagaByAggregateId (jobs i).event.aggregateId) .ok
      start.shared = (.ok (some s), start.shared) := by
    simp only [reporting, platform_exec_ok .none answered, carryOut, hs']
  have started := PoolStep.start (M := reporting orderId pending jobs) (p := start) i (jobs i) idle rfl
  refine .head started (.single ?_)
  have read := PoolStep.call (M := reporting orderId pending jobs)
    (p := ⟨start.shared, Function.update start.workers i
      (some ⟨jobs i, (reporting orderId pending jobs).body i (jobs i), []⟩)⟩)
    i _ _ _ .ok (Function.update_self ..) rfl rfl
  rw [exec, Function.update_idem] at read
  have reacts : react (jobs i).amb (jobs i).event (some s) = .ok (.compensate s action) :=
    react_report compensating reports
  have rest : (Prog.ofExcept (react (jobs i).amb (jobs i).event (some s)) >>=
      SagaOrchestrator.perform (jobs i).amb (jobs i).event) =
      handleCompensationCompletion (jobs i).amb (jobs i).event s action := by
    rw [reacts]
    rfl
  rw [resolvingPool, ← rest]
  exact read

/-- A report whose correlation id the columns refuse takes the lock, fails, and is lost. -/
theorem unfit_report_lost (events : AllReports orderId jobs) {start : Handlers ι}
    (init : (reporting orderId pending jobs).system.init start) {i : ι}
    (unfit : fitsVarchar 100 (jobs i).event.correlationId ≠ true) :
    ¬∀ p, Relation.ReflTransGen (reporting orderId pending jobs).system.step start p →
      BarrierKept orderId pending jobs p := by
  obtain ⟨⟨keyed, -, s, hs, compensating, -, completed, fits⟩, idle⟩ := init
  obtain ⟨about, action, reports⟩ := events i
  obtain ⟨about', id⟩ := getSaga_eq_some keyed hs
  have readable : fitsText orderId = true := about' ▸ readable_of_fits fits
  intro kept
  have busy : (resolvingPool start i (jobs i) s action).workers i = some _ := Function.update_self ..
  obtain ⟨s', hs', recorded⟩ := (kept _ (resolving_reached (idle i) about readable hs compensating reports)).kept i _ s action
    busy ⟨s, action, _, _, rfl⟩ hs compensating reports _ .refl
  have refused : columnsFit (.compensationBarrier s action (jobs i).event.correlationId) start.shared = false := by
    have hs'' : start.shared.db.getSagaByAggregateId orderId = some s := hs
    have row := barrierRow_fits fits about' id reports (jobs i).event.correlationId
    rw [Bool.eq_false_iff.mpr unfit] at row
    simp only [columnsFit, executeBarrierUpdate, about', hs'', Option.getD_some, compensating, if_true, Option.all_some,
      row, Bool.and_false]
  rw [Machine.move_call _ busy rfl] at hs'
  change stored orderId ((platform .none).exec _ .ok start.shared).2 = some s' at hs'
  rw [platform_exec_refused .none refused] at hs'
  obtain rfl : s = s' := Option.some.inj (hs.symm.trans hs')
  simp [SagaRow.completedList, completed] at recorded

/-- What should hold in every interleaving of some reports does hold, exactly if
the columns take the correlation id of each of them. -/
theorem compensation_barrier (awaited : pending = ["PAYMENT_REFUND"] ∨ pending = bothCompensations)
    (events : AllReports orderId jobs) {start : Handlers ι} (init : (reporting orderId pending jobs).system.init start) :
    (∀ p, Relation.ReflTransGen (reporting orderId pending jobs).system.step start p →
      BarrierKept orderId pending jobs p) ↔ AllTaken jobs := by
  constructor
  · intro kept i
    by_contra unfit
    exact unfit_report_lost events init unfit kept
  · intro taken p steps
    have pending_ne : pending ≠ [] := by
      rcases awaited with rfl | rfl <;> simp [bothCompensations]
    exact barrier_kept pending_ne events taken (Reachable.steps (.start init) steps)

end

def sampleCompensating : SagaRow where
  sagaId := "saga_ord_1"
  aggregateId := "ord_1"
  sagaType := "ORDER_FULFILLMENT"
  state := .compensating
  currentStep := "COMPENSATING_FRAUD"
  correlationId := "corr_1"
  context := { compensationsPending := some bothCompensations, compensationsCompleted := some [] }
  failureReason := some "Fraud risk check rejected: HIGH_RISK_SCORE"

def twoReports : Bool → Handling
  | false => ⟨sampleAmbient, sampleEvent "evt_1" .paymentRefunded []⟩
  | true => ⟨sampleAmbient, sampleEvent "evt_2" .inventoryReleased []⟩

def compensatingStart : Handlers Bool :=
  ⟨{ World.empty with db := World.empty.db.saveSagaInstance sampleCompensating }, fun _ => none⟩

/-- Two handlers read the saga before either of them updates it. -/
def cancelling : Handlers Bool :=
  (reporting "ord_1" bothCompensations twoReports).play compensatingStart
    [ .start false (twoReports false), .start true (twoReports true), .call false .ok, .call true .ok,
      .call true .ok, .call false .ok, .call false .ok ]

theorem compensatingStart_init (jobs : Bool → Handling) :
    (reporting "ord_1" bothCompensations jobs).system.init compensatingStart := by
  have id : sampleCompensating.sagaId = sagaIdOf sampleCompensating.aggregateId := by decide
  have keyed : compensatingStart.shared.db.WellKeyed := wellKeyed_save empty_wellKeyed id
  have saga : stored "ord_1" compensatingStart.shared = some sampleCompensating := by decide +kernel
  exact ⟨⟨keyed, rfl, sampleCompensating, saga, rfl, rfl, rfl, by decide +kernel⟩, fun _ => rfl⟩

theorem cancelling_reached : Relation.ReflTransGen (reporting "ord_1" bothCompensations twoReports).system.step
    compensatingStart cancelling :=
  Machine.steps_play
    ⟨rfl, rfl, fun _ _ _ _ _ => rfl, fun _ _ _ _ _ => rfl, fun _ _ _ _ _ => rfl, fun _ _ _ _ _ => rfl,
      fun _ _ _ _ _ => rfl, trivial⟩

theorem cancelling_quiescent : cancelling.Quiescent := by
  have done : ∀ i, (cancelling.workers i).any (fun w => w.rest.Finished) = true := by decide +kernel
  intro i
  obtain ⟨w, hw, hf⟩ := (Option.any_eq_true _ _).mp (done i)
  exact ⟨w, hw, of_decide_eq_true hf⟩

theorem twoReports_all : AllReports "ord_1" twoReports := by
  intro i
  cases i with
  | false => exact ⟨rfl, _, rfl⟩
  | true => exact ⟨rfl, _, rfl⟩

theorem compensation_barrier_sample : ∃ s, stored "ord_1" cancelling.shared = some s ∧ s.state = .cancelled ∧
    timesEmitted "ord_1" .orderCancelled cancelling.shared.journal = 1 := by
  have taken : AllTaken twoReports := by
    intro i
    cases i <;> decide +kernel
  have kept := (compensation_barrier (.inr rfl) twoReports_all (compensatingStart_init twoReports)).mpr taken cancelling
    cancelling_reached
  obtain ⟨s, hs, cancelled_iff, once⟩ := kept.ends cancelling_quiescent
  have reported : ∀ a ∈ bothCompensations, ∃ i, (twoReports i).Reports a := by
    simp only [bothCompensations, List.forall_mem_cons]
    exact ⟨⟨true, rfl⟩, ⟨false, rfl⟩, by simp⟩
  exact ⟨s, hs, cancelled_iff.mpr reported, once (cancelled_iff.mpr reported)⟩

/-- The refund is reported under a correlation id of 101 characters. -/
def overlongReports : Bool → Handling
  | false =>
    ⟨sampleAmbient, { sampleEvent "evt_1" .paymentRefunded [] with
      correlationId := String.ofList (List.replicate 101 'x') }⟩
  | true => twoReports true

/-- Its handler takes the lock while the saga is compensating and fails, and the refund stays unrecorded. -/
theorem overlong_report_lost : ¬∀ p,
    Relation.ReflTransGen (reporting "ord_1" bothCompensations overlongReports).system.step compensatingStart p →
      BarrierKept "ord_1" bothCompensations overlongReports p := by
  have events : AllReports "ord_1" overlongReports := by
    intro i
    cases i with
    | false => exact ⟨rfl, _, rfl⟩
    | true => exact ⟨rfl, _, rfl⟩
  exact unfit_report_lost (i := false) events (compensatingStart_init overlongReports) (by decide +kernel)

end Fulfillment
