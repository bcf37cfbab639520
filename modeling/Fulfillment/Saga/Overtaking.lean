import Fulfillment.Database.Parameters
import Fulfillment.Saga.Safety
import Fulfillment.Saga.Cancellation

/-!
# Handlers that overtake each other

A handler reads the saga, and later its save replaces whatever is stored by
then. As long as that is what it read, the saga never moves backwards.

* `Saves`: what a handler saves, given what it read;
* `AtMostOnce`: a request is owed by one handler, or was sent;
* `saga_never_backwards`: both, in every interleaving;
* `saga_set_back`: a save that comes too late.
-/

namespace Fulfillment

open Js Effects SagaOrchestrator

/-- The arrows of the state diagram. -/
inductive DocumentedStep : SagaState → SagaState → Prop
  | paymentRequested : DocumentedStep .created .paymentPending
  | paymentAuthorized : DocumentedStep .paymentPending .paymentApproved
  | paymentRejected : DocumentedStep .paymentPending .failed
  | inventoryReservationRequested : DocumentedStep .paymentApproved .inventoryPending
  | inventoryReserved : DocumentedStep .inventoryPending .inventoryReserved
  | inventoryReservationFailed : DocumentedStep .inventoryPending .compensating
  | fraudCheckRequested : DocumentedStep .inventoryReserved .fraudPending
  | fraudApproved : DocumentedStep .fraudPending .fraudApproved
  | fraudRejected : DocumentedStep .fraudPending .compensating
  | shipmentRequested : DocumentedStep .fraudApproved .shippingPending
  | shipmentCreated : DocumentedStep .shippingPending .completed
  | shipmentFailed : DocumentedStep .shippingPending .compensating
  | barrierSatisfied : DocumentedStep .compensating .cancelled

def SagaState.Precedes : SagaState → SagaState → Prop := Relation.TransGen DocumentedStep

/-- Every arrow leads to a higher rank. -/
def SagaState.rank : SagaState → Nat
  | .created => 0
  | .paymentPending => 1
  | .paymentApproved => 2
  | .inventoryPending => 3
  | .inventoryReserved => 4
  | .fraudPending => 5
  | .fraudApproved => 6
  | .shippingPending => 7
  | .shipped => 8
  | .completed | .compensating | .failed => 9
  | .cancelled => 10

theorem SagaState.Precedes.rank_lt {s s' : SagaState} (h : s.Precedes s') : s.rank < s'.rank := by
  have step : ∀ {a b : SagaState}, DocumentedStep a b → a.rank < b.rank := by
    intro a b h
    cases h <;> decide
  induction h with
  | single h => exact step h
  | tail _ h ih => exact ih.trans (step h)

/-- What a save may make of the stored saga. -/
structure SagaRow.Progresses (s s' : SagaRow) : Prop where
  state : ¬s'.state.Precedes s.state
  paymentId : ∀ v, s.context.paymentId = some v → s'.context.paymentId = some v
  reservationId : ∀ v, s.context.reservationId = some v → s'.context.reservationId = some v
  fraudCheckId : ∀ v, s.context.fraudCheckId = some v → s'.context.fraudCheckId = some v
  completed : ∀ a ∈ s.completedList, a ∈ s'.completedList

theorem SagaRow.Progresses.refl (s : SagaRow) : s.Progresses s where
  state h := absurd h.rank_lt (Nat.lt_irrefl _)
  paymentId _ h := h
  reservationId _ h := h
  fraudCheckId _ h := h
  completed _ h := h

/-- What a saga has not got before the step that brings it. -/
structure SagaRow.Unfilled (s : SagaRow) : Prop where
  paymentId : s.state.rank < 3 → s.context.paymentId = none
  reservationId : s.state.rank < 5 → s.context.reservationId = none
  fraudCheckId : s.state.rank < 7 → s.context.fraudCheckId = none
  completed : s.state.rank < 9 → s.completedList = []

/-! ## One save -/

/-- What a handler saves over the saga it read. -/
structure Saves (saga : Option SagaRow) (row : SagaRow) : Prop where
  unfilled : row.Unfilled
  progresses : ∀ s, saga = some s → s.Progresses row

/-- A save keeps what the context has, except where its own step is the one that brings it. -/
theorem saved_saves {s : SagaRow} (before : s.Unfilled) {e : EventEnvelope} {target : SagaState} {step : String}
    {ctx : SagaContext} {reason : Option String} (rank : s.state.rank < target.rank)
    (paymentId : ctx.paymentId = s.context.paymentId ∨ s.state.rank < 3 ∧ 3 ≤ target.rank)
    (reservationId : ctx.reservationId = s.context.reservationId ∨ s.state.rank < 5 ∧ 5 ≤ target.rank)
    (fraudCheckId : ctx.fraudCheckId = s.context.fraudCheckId ∨ s.state.rank < 7 ∧ 7 ≤ target.rank)
    (completed : ctx.compensationsCompleted = s.context.compensationsCompleted ∨ s.state.rank < 9 ∧ 9 ≤ target.rank) :
    Saves (some s) (savedAs s e target step ctx reason) := by
  have none_yet : ∀ {α : Type} {n : Nat} {a b d : α}, (s.state.rank < n → a = d) →
      (b = a ∨ s.state.rank < n ∧ n ≤ target.rank) → target.rank < n → b = d := by
    intro α n a b d empty kept early
    rcases kept with rfl | ⟨-, late⟩
    · exact empty (by omega)
    · omega
  have kept_some : ∀ {n : Nat} {a b : Option Json}, (s.state.rank < n → a = none) →
      (b = a ∨ s.state.rank < n ∧ n ≤ target.rank) → ∀ v, a = some v → b = some v := by
    intro n a b empty kept v present
    rcases kept with rfl | ⟨early, -⟩
    · exact present
    · rw [empty early] at present
      cases present
  constructor
  · constructor
    · exact none_yet before.paymentId paymentId
    · exact none_yet before.reservationId reservationId
    · exact none_yet before.fraudCheckId fraudCheckId
    · exact none_yet before.completed (completed.imp (congrArg (Option.getD · [])) id)
  · rintro s ⟨⟩
    constructor
    · intro backwards
      have := backwards.rank_lt
      simp only [savedAs] at this
      omega
    · exact kept_some before.paymentId paymentId
    · exact kept_some before.reservationId reservationId
    · exact kept_some before.fraudCheckId fraudCheckId
    · intro a ha
      rcases completed with same | ⟨early, -⟩
      · simpa only [savedAs, SagaRow.completedList, same] using ha
      · rw [before.completed early] at ha
        cases ha

theorem react_saves {amb : Ambient} {e : EventEnvelope} {saga : Option SagaRow} {row : SagaRow}
    {emissions : List (Except JsError Message)} (unfilled : ∀ s, saga = some s → s.Unfilled)
    (h : react amb e saga = .ok (.advance row emissions)) : Saves saga row := by
  obtain ⟨reaction, switched, h⟩ := react_switched h
  cases switched with
  | orderCreated saga type =>
    simp only [onOrderCreated, Except.ok.injEq] at h
    split at h
    · cases h
    · rename_i created
      cases h
      constructor
      · exact ⟨fun _ => rfl, fun _ => rfl, fun _ => rfl, fun _ => rfl⟩
      · rintro s rfl
        have state : s.state = .created := by simpa using created
        have first : s.state.rank = 0 := by rw [state]; rfl
        have empty := unfilled s rfl
        constructor
        · intro backwards
          have := backwards.rank_lt
          omega
        · simp [empty.paymentId (by omega)]
        · simp [empty.reservationId (by omega)]
        · simp [empty.fraudCheckId (by omega)]
        · simp [empty.completed (by omega)]
  | paymentAuthorized s type state | inventoryReserved s type state | fraudApproved s type state
  | shipmentCreated s type state =>
    cases h
    apply saved_saves (unfilled s rfl) <;> simp [state, SagaState.rank]
  | paymentRejected s type state | inventoryReservationFailed s type state | fraudRejected s type state
  | shipmentFailed s type state =>
    obtain ⟨reason, -, h⟩ := bind_returns h
    cases h
    apply saved_saves (unfilled s rfl) <;> simp [state, SagaState.rank]

/-- An update of the barrier keeps the context, and cancels the order at most. -/
theorem report_saves {s : SagaRow} (compensating : s.state = .compensating) (orderId action correlationId : String) :
    s.state.rank ≤ (barrierRow s orderId action correlationId).state.rank ∧
    Saves (some s) (barrierRow s orderId action correlationId) := by
  have before : s.state.rank = 9 := by rw [compensating]; rfl
  have after : 9 ≤ (barrierRow s orderId action correlationId).state.rank := by
    simp only [barrierRow]
    split <;> decide
  refine ⟨by omega, ?_, ?_⟩
  · constructor <;> intro early <;> omega
  · rintro s ⟨⟩
    constructor
    · intro backwards
      have := backwards.rank_lt
      omega
    · exact fun _ h => h
    · exact fun _ h => h
    · exact fun _ h => h
    · exact fun a ha => mem_withCompleted.mpr (.inl ha)

/-- The rank of the state in which a forward request is sent. -/
def entered : EventType → Nat
  | .paymentRequested => 1
  | .inventoryReservationRequested => 3
  | .fraudCheckRequested => 5
  | .shipmentRequested => 7
  | _ => 0

/-- A transition sends a forward request only where it enters the state of the request. -/
theorem transition_enters {t : EventType} {state : Option SagaState} {target : SagaState} {types : List EventType}
    (h : transition t state = some (target, types)) :
    (∀ s ∈ state, s.rank < target.rank) ∧
    ∀ f ∈ forwardRequests, types.count f ≤ 1 ∧ (f ∈ types → (∀ s ∈ state, s.rank < entered f) ∧ entered f ≤ target.rank) := by
  unfold transition at h
  split at h <;> cases h
  all_goals decide

/-! ## At most once -/

section
variable {ι : Type} {emitted : Nat} {owed owed' : ι → Nat}

/-- It was emitted, or one handler owes it, or neither. -/
def AtMostOnce (emitted : Nat) (owed : ι → Nat) : Prop :=
  (emitted ≤ 1 ∧ ∀ i, owed i = 0) ∨ (emitted = 0 ∧ ∃ i, owed i = 1 ∧ ∀ j, j ≠ i → owed j = 0)

theorem AtMostOnce.emitted_le (h : AtMostOnce emitted owed) : emitted ≤ 1 := by
  rcases h with ⟨once, -⟩ | ⟨never, -⟩ <;> omega

theorem AtMostOnce.owed_le (h : AtMostOnce emitted owed) (i : ι) : owed i ≤ 1 := by
  rcases h with ⟨-, none⟩ | ⟨-, k, one, others⟩
  · exact (none i).trans_le (Nat.zero_le 1)
  · by_cases same : i = k
    · exact (same ▸ one).le
    · exact (others i same).trans_le (Nat.zero_le 1)

theorem AtMostOnce.less (h : AtMostOnce emitted owed) (less : ∀ i, owed' i ≤ owed i) : AtMostOnce emitted owed' := by
  rcases h with ⟨once, none⟩ | ⟨never, i, one, others⟩
  · exact .inl ⟨once, fun i => Nat.le_zero.mp (none i ▸ less i)⟩
  · have others' : ∀ j, j ≠ i → owed' j = 0 := fun j hj => Nat.le_zero.mp (others j hj ▸ less j)
    have bound := less i
    by_cases settled : owed' i = 0
    · left
      refine ⟨by omega, fun j => ?_⟩
      by_cases hj : j = i
      · rw [hj, settled]
      · exact others' j hj
    · exact .inr ⟨never, i, by omega, others'⟩

theorem AtMostOnce.owe (none : ∀ i, owed i = 0) (i : ι) (bound : owed' i ≤ 1)
    (others : ∀ j, j ≠ i → owed' j = owed j) : AtMostOnce 0 owed' := by
  have others' : ∀ j, j ≠ i → owed' j = 0 := fun j hj => (others j hj).trans (none j)
  by_cases settled : owed' i = 0
  · left
    refine ⟨Nat.zero_le 1, fun j => ?_⟩
    by_cases hj : j = i
    · rw [hj, settled]
    · exact others' j hj
  · exact .inr ⟨rfl, i, by omega, others'⟩

/-- The handler that owes it emits it. -/
theorem AtMostOnce.emit (h : AtMostOnce emitted owed) {i : ι} (owes : owed i = owed' i + 1)
    (others : ∀ j, j ≠ i → owed' j = owed j) : AtMostOnce (emitted + 1) owed' := by
  rcases h with ⟨-, none⟩ | ⟨never, k, one, others_k⟩
  · rw [none i] at owes
    cases owes
  · obtain rfl : i = k := by
      by_contra other
      rw [others_k i other] at owes
      cases owes
    left
    refine ⟨by omega, fun j => ?_⟩
    by_cases hj : j = i
    · subst hj
      omega
    · rw [others j hj, others_k j hj]

end

/-! ## Handlers -/

/-- What a handler read of the saga, when it goes on from there. -/
def readSaga : List (Σ c, Except JsError (Answer c)) → Option SagaRow
  | ⟨.getSagaByAggregateId _, .ok saga⟩ :: _ => saga
  | _ => none

/-- A handler saves the saga only while that is stored which it read. -/
def SavesWhatItRead (orderId : String) (w : Worker JsError Answer Handling Unit) (c : Call) (s : World) : Prop :=
  ∀ row, c = .saveSagaInstance row → readSaga w.past = stored orderId s

/-- Any number of handlers, each with an event of the order. Any call may fail, also after it
was carried out, and a handler may stop between two calls. -/
def handling (ι : Type) (orderId : String) (allowed : Worker JsError Answer Handling Unit → Call → World → Prop) :
    Machine JsError World Answer ι Handling Unit where
  semantics := platform .none
  body _ job := processEvent job.amb job.event
  init w := w.db.WellKeyed ∧ stored orderId w = none ∧ w.journal = []
  startable _ job _ := job.event.aggregateId = orderId
  allowed _ w c _ s := allowed w c s
  environment _ _ := False
  leaves _ _ := True

/-- A call fails and changes nothing, or it is carried out, and then its answer may be lost. -/
theorem platform_exec_cases (c : Call) (o : Outcome JsError) (w : World) :
    (∃ err, (platform .none).exec c o w = (.error err, w)) ∨
    (platform .none).exec c o w = (.ok (carryOut .none c true w).1, (carryOut .none c true w).2) ∨
    ∃ err, (platform .none).exec c o w = (.error err, (carryOut .none c false w).2) := by
  by_cases fits : columnsFit c w = true
  · cases o with
    | ok => exact .inr (.inl (by simp [Semantics.exec, platform, fits]))
    | rejected err => exact .inl ⟨err, rfl⟩
    | unacked err => exact .inr (.inr ⟨err, by simp [Semantics.exec, platform, fits]⟩)
  · cases o with
    | ok => exact .inl ⟨columnError, by simp [Semantics.exec, platform, fits]⟩
    | rejected err => exact .inl ⟨err, rfl⟩
    | unacked err => exact .inl ⟨err, by simp [Semantics.exec, platform, fits]⟩

section
variable {ι : Type} {orderId : String}

/-- How far a handler is, and which messages it owes. -/
inductive Along (orderId : String) (world : World) : Worker JsError Answer Handling Unit → List EventType → Prop
  | reading (job : Handling) : Along orderId world ⟨job, processEvent job.amb job.event, []⟩ []
  | saving (job : Handling) (row : SagaRow) (emissions : List (Except JsError Message))
      (past : List (Σ c, Except JsError (Answer c)))
      (reacts : react job.amb job.event (readSaga past) = .ok (.advance row emissions)) :
    Along orderId world ⟨job, await (.saveSagaInstance row) >>= fun _ => sendAll emissions, past⟩ []
  | resolving (job : Handling) (copy : SagaRow) (action : String) (past : List (Σ c, Except JsError (Answer c)))
      (about : copy.aggregateId = orderId) (started : (stored orderId world).isSome) :
    Along orderId world ⟨job, handleCompensationCompletion job.amb job.event copy action, past⟩ []
  | sending (job : Handling) (emissions : List (Except JsError Message)) (types : List EventType)
      (past : List (Σ c, Except JsError (Answer c))) (owes : List.Forall₂ (Owes orderId) emissions types) :
    Along orderId world ⟨job, sendAll emissions, past⟩ types
  | cancelling (job : Handling) (m : Message) (past : List (Σ c, Except JsError (Answer c)))
      (carries : m.Carries .orderCancelled orderId) : Along orderId world ⟨job, await (.send m), past⟩ []
  | done (job : Handling) (rest : Program Unit) (past : List (Σ c, Except JsError (Answer c)))
      (finished : rest.Finished) : Along orderId world ⟨job, rest, past⟩ []

/-- What a call of a handler does. -/
inductive Moves (orderId : String) (world : World) (types : List EventType) (w' : Worker JsError Answer Handling Unit) :
    World → List EventType → Prop
  | quiet {types'} (next : Along orderId world w' types') (less : ∀ f, types'.count f ≤ types.count f) :
    Moves orderId world types w' world types'
  | save {types'} (row : SagaRow) (saves : Saves (stored orderId world) row) (keyed : row.Keyed)
      (about : row.aggregateId = orderId) (rank : ∀ s, stored orderId world = some s → s.state.rank ≤ row.state.rank)
      (enters : ∀ f ∈ forwardRequests, types'.count f ≤ 1 ∧ (f ∈ types' →
        (∀ s, stored orderId world = some s → s.state.rank < entered f) ∧ entered f ≤ row.state.rank))
      (next : Along orderId (world.saveSaga row) w' types') :
    Moves orderId world types w' (world.saveSaga row) types'
  | emit {t : EventType} {types' : List EventType} (m : Message) (acked : Bool) (carries : m.Carries t orderId)
      (owed : t ∈ forwardRequests → types'.count t < types.count t) (less : ∀ f, types'.count f ≤ types.count f)
      (next : Along orderId (world.take m acked) w' types') :
    Moves orderId world types w' (world.take m acked) types'

theorem Along.started {world world' : World} (h : (stored orderId world).isSome → (stored orderId world').isSome)
    {w : Worker JsError Answer Handling Unit} {types : List EventType} (along : Along orderId world w types) :
    Along orderId world' w types := by
  cases along with
  | reading => exact .reading _
  | saving job row emissions past reacts => exact .saving job row emissions past reacts
  | resolving job copy action past about started => exact .resolving job copy action past about (h started)
  | sending job emissions types past owes => exact .sending job emissions types past owes
  | cancelling job m past carries => exact .cancelling job m past carries
  | done job rest past finished => exact .done job rest past finished

/-- A handler that got no answer is done. -/
theorem Along.failed {world : World} (job : Handling) (err : JsError) (past : List (Σ c, Except JsError (Answer c))) :
    Along orderId world ⟨job, .throw err, past⟩ [] := .done job (.throw err) past trivial

variable {world : World} (keyed : world.db.WellKeyed)
include keyed

theorem reading_moves (job : Handling) (about : job.event.aggregateId = orderId) {c : Call}
    {k : Except JsError (Answer c) → Program Unit} (next : processEvent job.amb job.event = .call c k)
    (o : Outcome JsError) : ∃ types', Moves orderId world [] ⟨job, k ((platform .none).exec c o world).1,
      [⟨c, ((platform .none).exec c o world).1⟩]⟩ ((platform .none).exec c o world).2 types' := by
  cases next
  have failed : ∀ err, Moves orderId world [] ⟨job, .throw err, [⟨.getSagaByAggregateId job.event.aggregateId, .error err⟩]⟩
      world [] := fun err => .quiet (.failed job err _) fun _ => le_rfl
  rcases platform_exec_cases (.getSagaByAggregateId job.event.aggregateId) o world with ⟨err, h⟩ | h | ⟨err, h⟩
  · rw [h]
    exact ⟨_, failed err⟩
  · rw [h]
    refine ⟨[], .quiet ?_ fun _ => le_rfl⟩
    change Along orderId world ⟨job, Prog.ofExcept (react job.amb job.event (world.db.getSagaByAggregateId
      job.event.aggregateId)) >>= SagaOrchestrator.perform job.amb job.event, _⟩ []
    cases reacts : react job.amb job.event (world.db.getSagaByAggregateId job.event.aggregateId) with
    | error err => exact .failed job err _
    | ok reaction =>
      cases reaction with
      | ignore => exact .done job _ _ trivial
      | advance row emissions => exact .saving job row emissions _ reacts
      | compensate s action =>
        obtain ⟨read, -, -⟩ := report_of_react reacts
        rw [about] at read
        have own := (getSaga_eq_some keyed read).1
        exact .resolving job s action _ own (Option.isSome_iff_exists.mpr ⟨s, read⟩)
  · rw [h]
    exact ⟨_, failed err⟩

theorem saving_moves (unfilled : ∀ s, stored orderId world = some s → s.Unfilled) (job : Handling)
    (about : job.event.aggregateId = orderId) {row : SagaRow} {emissions : List (Except JsError Message)}
    {past : List (Σ c, Except JsError (Answer c))}
    (reacts : react job.amb job.event (readSaga past) = .ok (.advance row emissions))
    (undisturbed : readSaga past = stored orderId world) {c : Call} {k : Except JsError (Answer c) → Program Unit}
    (next : (await (.saveSagaInstance row) >>= fun _ => sendAll emissions) = .call c k) (o : Outcome JsError) :
    ∃ types', Moves orderId world [] ⟨job, k ((platform .none).exec c o world).1,
      ⟨c, ((platform .none).exec c o world).1⟩ :: past⟩ ((platform .none).exec c o world).2 types' := by
  cases next
  rw [undisturbed] at reacts
  obtain ⟨target, types, moves, advances⟩ := transition_of_react reacts
  obtain ⟨ranks, enters⟩ := transition_enters moves
  have saves := react_saves unfilled reacts
  have row_keyed : row.Keyed := advances.keyed fun s hs => about ▸ (getSaga_eq_some keyed hs).2
  have reaches : ∀ {s}, stored orderId world = some s → s.state ∈ (stored orderId world).map SagaRow.state := by
    intro s hs
    rw [hs]
    rfl
  have rank : ∀ s, stored orderId world = some s → s.state.rank ≤ row.state.rank := by
    intro s hs
    rw [advances.state]
    exact (ranks s.state (reaches hs)).le
  have saved : ∀ {w' : Worker JsError Answer Handling Unit} {types' : List EventType},
      types' = types ∨ types' = [] → Along orderId (world.saveSaga row) w' types' →
      Moves orderId world [] w' (world.saveSaga row) types' := by
    intro w' types' owed along
    refine .save row saves row_keyed (advances.aggregateId.trans about) rank ?_ along
    intro f hf
    rcases owed with rfl | rfl
    · obtain ⟨once, entering⟩ := enters f hf
      refine ⟨once, fun owes => ?_⟩
      obtain ⟨before, after⟩ := entering owes
      exact ⟨fun s hs => before s.state (reaches hs), advances.state ▸ after⟩
    · exact ⟨Nat.zero_le 1, nofun⟩
  rcases platform_exec_cases (.saveSagaInstance row) o world with ⟨err, h⟩ | h | ⟨err, h⟩
  · rw [h]
    exact ⟨[], .quiet (.failed job err _) fun _ => le_rfl⟩
  · rw [h]
    exact ⟨types, saved (.inl rfl) (.sending job emissions types _ (about ▸ advances.owes))⟩
  · rw [h]
    exact ⟨[], saved (.inr rfl) (.failed job err _)⟩

omit keyed in
/-- What is sent next, and what is owed after that. -/
theorem sending_moves (job : Handling) {emissions : List (Except JsError Message)} {types : List EventType}
    {past : List (Σ c, Except JsError (Answer c))} (owes : List.Forall₂ (Owes orderId) emissions types) {c : Call}
    {k : Except JsError (Answer c) → Program Unit} (next : sendAll emissions = .call c k) (o : Outcome JsError) :
    ∃ types', Moves orderId world types ⟨job, k ((platform .none).exec c o world).1,
      ⟨c, ((platform .none).exec c o world).1⟩ :: past⟩ ((platform .none).exec c o world).2 types' := by
  cases owes with
  | nil => cases next
  | cons first rest =>
    rename_i emission t emissions types
    cases emission with
    | error err => cases next
    | ok m =>
      have carries : m.Carries t orderId := first m rfl
      have less : ∀ f, types.count f ≤ (t :: types).count f := fun f => List.count_le_count_cons
      have owed : types.count t < (t :: types).count t := by simp
      have none_less : ∀ f, ([] : List EventType).count f ≤ (t :: types).count f := fun f => Nat.zero_le _
      cases next
      rcases platform_exec_cases (.send m) o world with ⟨err, h⟩ | h | ⟨err, h⟩
      · rw [h]
        exact ⟨[], .quiet (.failed job err _) none_less⟩
      · rw [h]
        exact ⟨types, .emit m true carries (fun _ => owed) less (.sending job emissions types _ rest)⟩
      · rw [h]
        exact ⟨[], .emit m false carries (fun _ => by simp) none_less (.failed job err _)⟩

theorem resolving_moves (job : Handling) {copy : SagaRow}
    {action : String} (about : copy.aggregateId = orderId) (started : (stored orderId world).isSome)
    {past : List (Σ c, Except JsError (Answer c))} {c : Call} {k : Except JsError (Answer c) → Program Unit}
    (next : handleCompensationCompletion job.amb job.event copy action = .call c k) (o : Outcome JsError) :
    ∃ types', Moves orderId world [] ⟨job, k ((platform .none).exec c o world).1,
      ⟨c, ((platform .none).exec c o world).1⟩ :: past⟩ ((platform .none).exec c o world).2 types' := by
  cases next
  obtain ⟨s, hs⟩ := Option.isSome_iff_exists.mp started
  have barrier := carryOut_barrier hs about action job.event.correlationId
  have saved : s.state = .compensating → ∀ {w' : Worker JsError Answer Handling Unit},
      Along orderId (world.saveSaga (barrierRow s orderId action job.event.correlationId)) w' [] →
      Moves orderId world [] w' (world.saveSaga (barrierRow s orderId action job.event.correlationId)) [] := by
    intro compensating w' along
    obtain ⟨rank, saves⟩ := report_saves compensating orderId action job.event.correlationId
    have keyed' := barrierRow_keyed (getSaga_eq_some keyed hs).2 action job.event.correlationId
    refine .save _ (hs ▸ saves) keyed' rfl ?_ (fun f _ => ⟨Nat.zero_le 1, fun h => by cases h⟩) along
    intro s' hs'
    obtain rfl : s = s' := Option.some.inj (hs.symm.trans hs')
    exact rank
  rcases platform_exec_cases (.compensationBarrier copy action job.event.correlationId) o world with
    ⟨err, h⟩ | h | ⟨err, h⟩
  · rw [h]
    exact ⟨[], .quiet (.failed job err _) fun _ => le_rfl⟩
  · rw [h, barrier true]
    split
    · rename_i compensating
      refine ⟨[], saved compensating ?_⟩
      cases cancelNotice s action with
      | none => exact .done job _ _ trivial
      | some notice => exact .cancelling job _ _ ⟨about, _, rfl, rfl, about⟩
    · exact ⟨[], .quiet (.done job _ _ trivial) fun _ => le_rfl⟩
  · rw [h, barrier false]
    split
    · rename_i compensating
      exact ⟨[], saved compensating (.failed job err _)⟩
    · exact ⟨[], .quiet (.failed job err _) fun _ => le_rfl⟩

omit keyed in
theorem cancelling_moves (job : Handling) {m : Message} (carries : m.Carries .orderCancelled orderId)
    {past : List (Σ c, Except JsError (Answer c))} {c : Call} {k : Except JsError (Answer c) → Program Unit}
    (next : (await (.send m) : Program Unit) = .call c k) (o : Outcome JsError) :
    ∃ types', Moves orderId world [] ⟨job, k ((platform .none).exec c o world).1,
      ⟨c, ((platform .none).exec c o world).1⟩ :: past⟩ ((platform .none).exec c o world).2 types' := by
  cases next
  rcases platform_exec_cases (.send m) o world with ⟨err, h⟩ | h | ⟨err, h⟩
  · rw [h]
    exact ⟨[], .quiet (.failed job err _) fun _ => le_rfl⟩
  · rw [h]
    exact ⟨[], .emit m true carries (fun f => absurd f (by decide)) (fun _ => le_rfl) (.done job _ _ trivial)⟩
  · rw [h]
    exact ⟨[], .emit m false carries (fun f => absurd f (by decide)) (fun _ => le_rfl) (.failed job err _)⟩

end

/-! ## Any number of handlers -/

section
variable {ι : Type} {orderId : String} {owed : ι → List EventType} {p : Handlers ι}

/-- A request was sent, or is owed, once the saga is as far as the request. -/
structure Requested (orderId : String) (world : World) (owed : ι → List EventType) (f : EventType) : Prop where
  once : AtMostOnce (timesEmitted orderId f world.journal) fun i => (owed i).count f
  reached : (∀ s, stored orderId world = some s → s.state.rank < entered f) →
    timesEmitted orderId f world.journal = 0 ∧ ∀ i, (owed i).count f = 0

structure Overtaking (orderId : String) (owed : ι → List EventType) (p : Handlers ι) : Prop where
  keyed : p.shared.db.WellKeyed
  unfilled : ∀ s, stored orderId p.shared = some s → s.Unfilled
  idle : ∀ i, p.workers i = none → owed i = []
  about : ∀ i w, p.workers i = some w → w.job.event.aggregateId = orderId
  along : ∀ i w, p.workers i = some w → Along orderId p.shared w (owed i)
  requested : ∀ f ∈ forwardRequests, Requested orderId p.shared owed f

/-- A handler that owes less than before. -/
theorem Requested.less {world : World} {f : EventType} (h : Requested orderId world owed f) {owed' : ι → List EventType}
    (less : ∀ i, (owed' i).count f ≤ (owed i).count f) : Requested orderId world owed' f where
  once := h.once.less less
  reached early := by
    obtain ⟨never, none⟩ := h.reached early
    exact ⟨never, fun i => Nat.le_zero.mp (none i ▸ less i)⟩

theorem stored_some_of_save {world : World} (keyed : world.db.WellKeyed) {row : SagaRow} (row_keyed : row.Keyed)
    (about : row.aggregateId = orderId) : (stored orderId (world.saveSaga row)).isSome := by
  rw [(stored_save keyed row_keyed about).2]
  rfl

variable [DecidableEq ι]

theorem count_update (i : ι) (types : List EventType) (f : EventType) (j : ι) :
    (Function.update owed i types j).count f = if j = i then types.count f else (owed j).count f := by
  by_cases hj : j = i
  · subst hj
    simp
  · simp [hj]

theorem Moves.requested {world world' : World} (keyed : world.db.WellKeyed) {i : ι}
    {w' : Worker JsError Answer Handling Unit} {types : List EventType}
    (moves : Moves orderId world (owed i) w' world' types) {f : EventType} (forward : f ∈ forwardRequests)
    (h : Requested orderId world owed f) : Requested orderId world' (Function.update owed i types) f := by
  have less_of : types.count f ≤ (owed i).count f →
      ∀ j, (Function.update owed i types j).count f ≤ (owed j).count f := by
    intro less j
    rw [count_update]
    split
    · rename_i same
      exact same ▸ less
    · exact le_rfl
  cases moves with
  | quiet next less => exact h.less (less_of (less f))
  | save row saves row_keyed about rank enters next =>
    obtain ⟨-, stored'⟩ := stored_save keyed row_keyed about
    obtain ⟨bound, entering⟩ := enters f forward
    have early_before : row.state.rank < entered f → ∀ s, stored orderId world = some s → s.state.rank < entered f :=
      fun early s hs => (rank s hs).trans_lt early
    by_cases owes : f ∈ types
    · obtain ⟨before, after⟩ := entering owes
      obtain ⟨never, none⟩ := h.reached before
      constructor
      · simp only [World.saveSaga, timesEmitted_saved, never]
        refine .owe none i ?_ ?_
        · simpa using bound
        · intro j hj
          simp [hj]
      · intro early
        have := early _ stored'
        exact absurd this (by simp only [SagaRow.mergedInto]; omega)
    · have settled : types.count f = 0 := List.count_eq_zero.mpr owes
      have less := h.less (less_of (by omega))
      constructor
      · simpa only [World.saveSaga, timesEmitted_saved] using less.once
      · intro early
        simp only [World.saveSaga, timesEmitted_saved]
        exact less.reached (early_before (early (row.mergedInto (stored orderId world)) stored'))
  | emit m acked carries owes less next =>
    rename_i t
    by_cases same : t = f
    · subst same
      have fewer := owes forward
      have sent : timesEmitted orderId t (world.take m acked).journal = timesEmitted orderId t world.journal + 1 := by
        simp [World.take, carries]
      constructor
      · rw [sent]
        refine h.once.emit (i := i) ?_ ?_
        · have single := h.once.owed_le i
          simp only [Function.update_self]
          omega
        · intro j hj
          simp [hj]
      · intro early
        obtain ⟨-, none⟩ := h.reached early
        have := none i
        omega
    · have kept : timesEmitted orderId f (world.take m acked).journal = timesEmitted orderId f world.journal := by
        simp [World.take, carries_iff carries, same]
      have rest := h.less (less_of (less f))
      constructor
      · rw [kept]
        exact rest.once
      · rw [kept]
        exact rest.reached

/-- What the other handlers are up to does not depend on the move. -/
theorem Moves.grows {world world' : World} (keyed : world.db.WellKeyed) {types types' : List EventType}
    {w' : Worker JsError Answer Handling Unit} (moves : Moves orderId world types w' world' types') :
    world'.db.WellKeyed ∧ Along orderId world' w' types' ∧
    ((stored orderId world).isSome → (stored orderId world').isSome) ∧
    ((∀ s, stored orderId world = some s → s.Unfilled) → ∀ s, stored orderId world' = some s → s.Unfilled) ∧
    ∀ s, stored orderId world = some s → ∃ s', stored orderId world' = some s' ∧ s.Progresses s' := by
  cases moves with
  | quiet next less => exact ⟨keyed, next, id, id, fun s hs => ⟨s, hs, .refl s⟩⟩
  | emit m acked carries owes less next => exact ⟨keyed, next, id, id, fun s hs => ⟨s, hs, .refl s⟩⟩
  | save row saves row_keyed about rank enters next =>
    obtain ⟨keyed', stored'⟩ := stored_save keyed row_keyed about
    refine ⟨keyed', next, fun _ => stored_some_of_save keyed row_keyed about, ?_, ?_⟩
    · intro _ s hs
      obtain rfl := Option.some.inj (stored'.symm.trans hs)
      obtain ⟨paymentId, reservationId, fraudCheckId, completed⟩ := saves.unfilled
      exact ⟨paymentId, reservationId, fraudCheckId, completed⟩
    · intro s hs
      obtain ⟨state, paymentId, reservationId, fraudCheckId, completed⟩ := saves.progresses s hs
      exact ⟨_, stored', state, paymentId, reservationId, fraudCheckId, completed⟩

omit [DecidableEq ι] in
/-- A call of a handler is one of the moves. -/
theorem call_moves {world : World} (keyed : world.db.WellKeyed)
    (unfilled : ∀ s, stored orderId world = some s → s.Unfilled) {w : Worker JsError Answer Handling Unit}
    (about : w.job.event.aggregateId = orderId) {types : List EventType} (along : Along orderId world w types)
    {c : Call} {k : Except JsError (Answer c) → Program Unit} (next : w.rest = .call c k)
    (undisturbed : SavesWhatItRead orderId w c world) (o : Outcome JsError) :
    ∃ types', Moves orderId world types (w.answered c k ((platform .none).exec c o world).1)
      ((platform .none).exec c o world).2 types' := by
  cases along with
  | reading job => exact reading_moves keyed job about next o
  | saving job row emissions past reacts =>
    have reads : readSaga past = stored orderId world := by
      cases next
      exact undisturbed row rfl
    exact saving_moves keyed unfilled job about reacts reads next o
  | resolving job copy action past about' started => exact resolving_moves keyed job about' started next o
  | sending job emissions types past owes => exact sending_moves job owes next o
  | cancelling job m past carries => exact cancelling_moves job carries next o
  | done job rest past finished =>
    rw [show rest = .call c k from next] at finished
    cases finished

omit [DecidableEq ι] in
theorem overtaking_start (keyed : p.shared.db.WellKeyed) (empty : stored orderId p.shared = none)
    (silent : p.shared.journal = []) (free : ∀ i, p.workers i = none) : Overtaking orderId (fun _ => []) p where
  keyed := keyed
  unfilled s hs := by rw [empty] at hs; cases hs
  idle _ _ := rfl
  about i w busy := by rw [free i] at busy; cases busy
  along i w busy := by rw [free i] at busy; cases busy
  requested f _ := by
    have never : timesEmitted orderId f p.shared.journal = 0 := by rw [silent]; rfl
    refine ⟨.inl ⟨?_, fun _ => rfl⟩, fun _ => ⟨never, fun _ => rfl⟩⟩
    omega

theorem Overtaking.step (inv : Overtaking orderId owed p) {q : Handlers ι}
    (step : PoolStep (handling ι orderId (SavesWhatItRead orderId)) p q) :
    (∃ owed', Overtaking orderId owed' q) ∧
    ∀ s, stored orderId p.shared = some s → ∃ s', stored orderId q.shared = some s' ∧ s.Progresses s' := by
  cases step with
  | start i job free about =>
    refine ⟨⟨owed, inv.keyed, inv.unfilled, ?_, ?_, ?_, inv.requested⟩, fun s hs => ⟨s, hs, .refl s⟩⟩
    · intro j idle
      by_cases hj : j = i
      · exact inv.idle j (hj ▸ free)
      · exact inv.idle j (by simpa [hj] using idle)
    · intro j w busy
      rcases update_eq_some busy with ⟨-, self⟩ | ⟨-, other⟩
      · cases self
        exact about
      · exact inv.about j w other
    · intro j w busy
      rcases update_eq_some busy with ⟨rfl, self⟩ | ⟨-, other⟩
      · cases self
        rw [inv.idle j free]
        exact .reading job
      · exact inv.along j w other
  | call i w c k o busy next allowed =>
    obtain ⟨types, moves⟩ :=
      call_moves inv.keyed inv.unfilled (inv.about i w busy) (inv.along i w busy) next allowed o
    obtain ⟨keyed, own, started, unfilled, progresses⟩ := moves.grows inv.keyed
    refine ⟨⟨Function.update owed i types, keyed, unfilled inv.unfilled, ?_, ?_, ?_, ?_⟩, progresses⟩
    · intro j idle
      by_cases hj : j = i
      · subst hj
        simp at idle
      · simpa [hj] using inv.idle j (by simpa [hj] using idle)
    · intro j v busy'
      rcases update_eq_some busy' with ⟨-, self⟩ | ⟨-, other⟩
      · cases self
        exact inv.about i w busy
      · exact inv.about j v other
    · intro j v busy'
      rcases update_eq_some busy' with ⟨rfl, self⟩ | ⟨hj, other⟩
      · cases self
        rw [Function.update_self]
        exact own
      · rw [Function.update_of_ne hj]
        exact (inv.along j v other).started started
    · exact fun f forward => moves.requested inv.keyed forward (inv.requested f forward)
  | leave i w busy =>
    have less : ∀ f j, (Function.update owed i [] j).count f ≤ (owed j).count f := by
      intro f j
      rw [count_update]
      split <;> simp
    refine ⟨⟨Function.update owed i [], inv.keyed, inv.unfilled, ?_, ?_, ?_, ?_⟩, fun s hs => ⟨s, hs, .refl s⟩⟩
    · intro j idle
      by_cases hj : j = i
      · simp [hj]
      · simpa [hj] using inv.idle j (by simpa [hj] using idle)
    · intro j v busy'
      rcases update_eq_some busy' with ⟨-, none⟩ | ⟨-, other⟩
      · cases none
      · exact inv.about j v other
    · intro j v busy'
      rcases update_eq_some busy' with ⟨-, none⟩ | ⟨hj, other⟩
      · cases none
      · simpa [hj] using inv.along j v other
    · exact fun f forward => (inv.requested f forward).less (less f)
  | environment s moves => exact moves.elim

theorem reachable_overtaking (h : Reachable (handling ι orderId (SavesWhatItRead orderId)).system p) :
    ∃ owed, Overtaking orderId owed p := by
  refine h.invariant (fun p => ∃ owed, Overtaking orderId owed p) ?_ ?_
  · rintro p ⟨⟨keyed, empty, silent⟩, free⟩
    exact ⟨_, overtaking_start keyed empty silent free⟩
  · rintro p q - ⟨owed, inv⟩ step
    exact (inv.step step).1

/-- While every save finds what its handler read, no save moves the saga
backwards or loses what it recorded, and no request is sent twice. -/
theorem saga_never_backwards (h : Reachable (handling ι orderId (SavesWhatItRead orderId)).system p) :
    (∀ f ∈ forwardRequests, timesEmitted orderId f p.shared.journal ≤ 1) ∧
    ∀ q, (handling ι orderId (SavesWhatItRead orderId)).system.step p q →
      ∀ s, stored orderId p.shared = some s → ∃ s', stored orderId q.shared = some s' ∧ s.Progresses s' := by
  obtain ⟨owed, inv⟩ := reachable_overtaking h
  exact ⟨fun f forward => (inv.requested f forward).once.emitted_le, fun q step => (inv.step step).2⟩

end

def handlingCreated : Handling :=
  ⟨sampleAmbient, sampleEvent "evt_1" .orderCreated [("user_id", .str "usr_1")]⟩

def handlingAuthorized : Handling :=
  ⟨sampleAmbient, sampleEvent "evt_2" .paymentAuthorized [("payment_id", .str "pay_1")]⟩

def handlingReserved : Handling :=
  ⟨sampleAmbient, sampleEvent "evt_3" .inventoryReserved [("reservation_id", .str "res_1")]⟩

def noOrders : Handlers (Fin 4) := ⟨World.empty, fun _ => none⟩

theorem noOrders_reachable (allowed : Worker JsError Answer Handling Unit → Call → World → Prop) :
    Reachable (handling (Fin 4) "ord_1" allowed).system noOrders :=
  .start ⟨⟨empty_wellKeyed, rfl, rfl⟩, fun _ => rfl⟩

/-- Whether a save finds what its handler read. -/
def findsWhatItRead (orderId : String) (w : Worker JsError Answer Handling Unit) (c : Call) (s : World) : Bool :=
  match c with
  | .saveSagaInstance _ => readSaga w.past = stored orderId s
  | _ => true

theorem savesWhatItRead_of_finds {orderId : String} {w : Worker JsError Answer Handling Unit} {c : Call} {s : World}
    (h : findsWhatItRead orderId w c s = true) : SavesWhatItRead orderId w c s := by
  rintro row rfl
  exact of_decide_eq_true h

/-- Two handlers side by side. The second reads the saga between the save and the
send of the first, and saves after it. -/
def twoHandlers : List (Move JsError (Fin 4) Handling) :=
  [ .start 0 handlingCreated, .start 1 handlingAuthorized, .call 0 .ok, .call 0 .ok, .call 1 .ok, .call 0 .ok,
    .call 1 .ok, .call 1 .ok ]

def bothSaved : Handlers (Fin 4) := (handling (Fin 4) "ord_1" (SavesWhatItRead "ord_1")).play noOrders twoHandlers

theorem saga_never_backwards_both :
    (stored "ord_1" bothSaved.shared).map SagaRow.state = some .inventoryPending ∧
    timesEmitted "ord_1" .paymentRequested bothSaved.shared.journal ≤ 1 ∧
    timesEmitted "ord_1" .inventoryReservationRequested bothSaved.shared.journal ≤ 1 := by
  have run : Reachable (handling (Fin 4) "ord_1" (SavesWhatItRead "ord_1")).system bothSaved := by
    apply Machine.reachable_play (noOrders_reachable _)
    have finds : (handling (Fin 4) "ord_1" (SavesWhatItRead "ord_1")).passes
        (fun w c _ s => findsWhatItRead "ord_1" w c s) noOrders twoHandlers = true := by
      decide +kernel
    refine Machine.allLegal_of_passes (fun _ _ => trivial) (fun _ _ _ _ _ => savesWhatItRead_of_finds) ?_ finds
    intro i job started s
    simp only [twoHandlers, List.mem_cons, Move.start.injEq, List.not_mem_nil, or_false, reduceCtorEq] at started
    rcases started with ⟨-, rfl⟩ | ⟨-, rfl⟩
    · rfl
    · rfl
  obtain ⟨once, -⟩ := saga_never_backwards run
  exact ⟨by decide +kernel, once _ (by decide), once _ (by decide)⟩

/-- Every save is allowed. -/
def anySave (_ : Worker JsError Answer Handling Unit) (_ : Call) (_ : World) : Prop := True

/-- Two handlers of one `PaymentAuthorized` read the saga; one of them pauses
there while the other goes on and the next event is handled too. -/
def oneAhead : Handlers (Fin 4) :=
  (handling (Fin 4) "ord_1" anySave).play noOrders
    [ .start 0 handlingCreated, .call 0 .ok, .call 0 .ok, .call 0 .ok,
      .start 1 handlingAuthorized, .start 2 handlingAuthorized, .call 1 .ok, .call 2 .ok, .call 2 .ok, .call 2 .ok,
      .start 3 handlingReserved, .call 3 .ok, .call 3 .ok, .call 3 .ok ]

/-- The paused handler saves, and sends. -/
def setBack : Handlers (Fin 4) := (handling (Fin 4) "ord_1" anySave).move oneAhead (.call 1 .ok)

def sentTwice : Handlers (Fin 4) := (handling (Fin 4) "ord_1" anySave).move setBack (.call 1 .ok)

theorem anySave_legal (p : Handlers (Fin 4)) (i : Fin 4) :
    (handling (Fin 4) "ord_1" anySave).Legal p (.call i .ok) :=
  fun _ _ _ _ _ => trivial

theorem oneAhead_reachable : Reachable (handling (Fin 4) "ord_1" anySave).system oneAhead := by
  have free := anySave_legal
  exact Machine.reachable_play (noOrders_reachable _)
    ⟨rfl, free _ _, free _ _, free _ _, rfl, rfl, free _ _, free _ _, free _ _, free _ _, rfl, free _ _,
      free _ _, free _ _, trivial⟩

theorem setBack_rows :
    (stored "ord_1" oneAhead.shared).map (fun s => (s.state, s.context.reservationId)) =
      some (.fraudPending, some (.str "res_1")) ∧
    (stored "ord_1" setBack.shared).map (fun s => (s.state, s.context.reservationId)) =
      some (.inventoryPending, none) := by
  decide +kernel

theorem sentTwice_requests :
    timesEmitted "ord_1" .inventoryReservationRequested setBack.shared.journal = 1 ∧
    timesEmitted "ord_1" .inventoryReservationRequested sentTwice.shared.journal = 2 := by
  decide +kernel

/-- `INVENTORY_PENDING` replaces `FRAUD_PENDING`, the reservation is forgotten,
and the request for it is sent again. -/
theorem saga_set_back :
    Reachable (handling (Fin 4) "ord_1" anySave).system oneAhead ∧
    (handling (Fin 4) "ord_1" anySave).system.step oneAhead setBack ∧
    (handling (Fin 4) "ord_1" anySave).system.step setBack sentTwice ∧
    SagaState.inventoryPending.Precedes .fraudPending ∧
    (∃ s s', stored "ord_1" oneAhead.shared = some s ∧ stored "ord_1" setBack.shared = some s' ∧
      s.state = .fraudPending ∧ s'.state = .inventoryPending ∧
      s.context.reservationId = some (.str "res_1") ∧ s'.context.reservationId = none) ∧
    timesEmitted "ord_1" .inventoryReservationRequested sentTwice.shared.journal = 2 := by
  obtain ⟨before, after⟩ := setBack_rows
  obtain ⟨once, twice⟩ := sentTwice_requests
  refine ⟨oneAhead_reachable, ?_, ?_, .tail (.single .inventoryReserved) .fraudCheckRequested, ?_, twice⟩
  · rcases Machine.move_step (anySave_legal oneAhead 1) with same | step
    · rw [show setBack = oneAhead from same, before] at after
      cases after
    · exact step
  · rcases Machine.move_step (anySave_legal setBack 1) with same | step
    · rw [show sentTwice = setBack from same, once] at twice
      cases twice
    · exact step
  · obtain ⟨s, hs, before⟩ := Option.map_eq_some_iff.mp before
    obtain ⟨s', hs', after⟩ := Option.map_eq_some_iff.mp after
    simp only [Prod.mk.injEq] at before after
    exact ⟨s, s', hs, hs', before.1, after.1, before.2, after.2⟩

end Fulfillment
