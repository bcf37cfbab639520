import Fulfillment.Pipeline.Resolution

/-!
# Where the next step of an order is

While no call fails, an order that is not done has its next step in one place:
its outbox row, a worker that owes the next message, or a message that was
published and not yet processed. `Live` says so of every order, and every step
of the closed system keeps it.
-/

namespace Fulfillment

open Js Relational Effects SagaOrchestrator

/-! ## Where the next step is -/

section
variable {ι : Type}

/-- The message was published, and none marks its event for the consumer without coming to the goal. -/
structure Waits (p : Crew ι) (name : String) (state : Option SagaState) (t : EventType) (orderId : String)
    (goal : Call → Prop) (m : Message) (e : EventEnvelope) : Prop where
  sent : ∃ acked, .sent m acked ∈ p.shared.journal
  value : m.value = .event e
  eventType : e.eventType = t
  aggregateId : e.aggregateId = orderId
  topic : m.topic = t.topic
  unprocessed : p.shared.db.isEventProcessed e.eventId name = false
  resolves : Resolves name state t orderId goal
  handled : ∀ i w, p.workers i = some w →
    w.rest.Meets (Seeing state orderId) goal (· = .markEventProcessed e.eventId name) fun _ => True

def InTransit (p : Crew ι) (name : String) (state : Option SagaState) (t : EventType) (orderId : String)
    (goal : Call → Prop) : Prop := ∃ m e, Waits p name state t orderId goal m e

def SomeoneOwes (p : Crew ι) (goal : Call → Prop) : Prop := ∃ i w, p.workers i = some w ∧ w.rest.Owes goal

/-- What is waited for is on its way. -/
inductive Upheld (p : Crew ι) (orderId : String) (state : Option SagaState) (d : Duty) : Prop
  | owed (owes : SomeoneOwes p (Publishes d.request orderId))
  | requested (service : Service) (serves : d.service = some service)
    (transit : InTransit p service.consumerName state d.request orderId (SendsAnswer d.answers orderId))
  | answered (t : EventType) (answers : t ∈ d.answers)
    (transit : InTransit p SagaOrchestrator.consumerName state t orderId (d.acts orderId))

/-- The row was not sent. -/
def Unsent (w : World) (row : OutboxEventRow) : Prop := ∀ e, PublishedIn w.journal e → e.eventId ≠ row.id

/-- Where an order is. -/
inductive Pursued (p : Crew ι) (orderId : String) : Prop
  | unsent (unread : stored orderId p.shared = none) (row : OutboxEventRow) (waiting : row ∈ p.shared.db.outboxEvents.rows)
    (about : row.body.aggregateId = orderId) (unsent : Unsent p.shared row)
  | created (unread : stored orderId p.shared = none)
    (transit : InTransit p SagaOrchestrator.consumerName none .orderCreated orderId (Starts orderId))
  | started (s : SagaRow) (found : stored orderId p.shared = some s)
    (upheld : ∀ d ∈ s.duties, Upheld p orderId (some s.state) d)

/-- A row that was not sent is as it was created, or who claimed it still owes it. -/
def Sendable (p : Crew ι) (row : OutboxEventRow) : Prop :=
  ¬Unsent p.shared row ∨ (row.status = .pending ∧ row.attempts = 0) ∨ SomeoneOwes p (SendsEvent row.id)

/-- There is such an order. -/
def Placed (orderId : String) (w : World) : Prop :=
  (∃ order ∈ w.db.orders.rows, order.id = orderId) ∨ stored orderId w ≠ none

structure Live (components : ι → Component) (p : Crew ι) : Prop where
  backed : Backed p.shared
  keeps : ∀ i w, p.workers i = some w → KeepsTo (components i) p.shared w.rest
  rows : ∀ row ∈ p.shared.db.outboxEvents.rows, Sendable p row
  orders : ∀ orderId, Placed orderId p.shared → Pursued p orderId

/-! ## A call of one worker -/

variable [DecidableEq ι]

/-- The pool after a call of the worker that succeeds. -/
def Crew.after (p : Crew ι) (i : ι) (w : Worker JsError Answer Work Unit) (c : Call)
    (k : Except JsError (Answer c) → Program Unit) : Crew ι :=
  ⟨p.shared.after c, Function.update p.workers i (some (w.answered c k (.ok (carryOut .none c true p.shared).1)))⟩

variable {components : ι → Component} {p : Crew ι} {i : ι} {w : Worker JsError Answer Work Unit} {c : Call}
  {k : Except JsError (Answer c) → Program Unit} {name : String} {state : Option SagaState} {t : EventType}
  {orderId : String} {goal : Call → Prop} {m : Message} {e : EventEnvelope}

theorem Waits.call (h : Waits p name state t orderId goal m e) (busy : p.workers i = some w) (next : w.rest = .call c k)
    (shows : Shows state orderId (stored orderId p.shared)) (unreached : ¬goal c) :
    Waits (Crew.after p i w c k) name state t orderId goal m e := by
  have answer : Seeing state orderId c (carryOut .none c true p.shared).1 := by
    apply reading_answer
    rintro aggregateId rfl
    exact shows
  have handled := h.handled i w busy
  rw [next] at handled
  obtain ⟨unmarked, rest⟩ := handled.answered unreached answer
  obtain ⟨acked, sent⟩ := h.sent
  refine ⟨⟨acked, (carryOut_evolves c true p.shared).journal.subset sent⟩, h.value, h.eventType, h.aggregateId, h.topic,
    ?_, h.resolves, ?_⟩
  · by_contra marked
    rcases marked_after (Bool.not_eq_false _ ▸ marked) with before | call
    · rw [h.unprocessed] at before
      cases before
    · exact unmarked call
  · intro j v hv
    rcases update_eq_some hv with ⟨rfl, same⟩ | ⟨-, other⟩
    · cases same
      exact rest
    · exact h.handled j v other

/-- A new message waits for whoever resolves it. -/
theorem Waits.sent_now (live : Live components p) (busy : p.workers i = some w) {k : Except JsError Unit → Program Unit}
    (next : w.rest = .call (.send m) k) (value : m.value = .event e) (type : e.eventType = t)
    (about : e.aggregateId = orderId) (topic : m.topic = t.topic)
    (unpublished : ∀ e', PublishedIn p.shared.journal e' → e'.eventId ≠ e.eventId)
    (resolves : Resolves name state t orderId goal) :
    Waits (Crew.after p i w (.send m) k) name state t orderId goal m e := by
  refine ⟨⟨true, List.mem_cons_self⟩, value, type, about, topic, ?_, resolves, ?_⟩
  · by_contra marked
    rcases marked_after (Bool.not_eq_false _ ▸ marked) with before | call
    · obtain ⟨e', published, same⟩ := live.backed.marked _ _ before
      exact unpublished e' published same
    · cases call
  · have unmarked : ∀ j v, p.workers j = some v → v.rest.Calls fun c => ¬c = .markEventProcessed e.eventId name := by
      intro j v hv
      exact ((live.keeps j v hv).marks e.eventId unpublished).mono fun c other => other name
    intro j v hv
    apply Prog.Meets.of_calls _ fun _ => trivial
    rcases update_eq_some hv with ⟨rfl, same⟩ | ⟨-, other⟩
    · cases same
      have calls := unmarked j w busy
      rw [next] at calls
      exact calls.2 _
    · exact unmarked j v other

theorem SomeoneOwes.call (h : SomeoneOwes p goal) (busy : p.workers i = some w) (next : w.rest = .call c k)
    (unreached : ¬goal c) : SomeoneOwes (Crew.after p i w c k) goal := by
  obtain ⟨j, v, hv, owes⟩ := h
  by_cases same : j = i
  · subst same
    rw [busy] at hv
    cases hv
    rw [next] at owes
    exact ⟨j, _, Function.update_self .., (Prog.Meets.answered owes unreached trivial).2⟩
  · exact ⟨j, v, (Function.update_of_ne same ..).trans hv, owes⟩

/-- What a call may send in the system without faults. -/
def SendsFresh (component : Component) (w : World) (c : Call) : Prop :=
  ∀ m e, c = .send m → m.value = .event e → component.consumer ≠ none → FreshId w e.eventId

omit [DecidableEq ι] in
/-- What a handler publishes is new. -/
theorem Live.unpublished (live : Live components p) (busy : p.workers i = some w)
    {k : Except JsError Unit → Program Unit} (next : w.rest = .call (.send m) k)
    (fresh : SendsFresh (components i) p.shared (.send m)) (value : m.value = .event e) (type : e.eventType ≠ .orderCreated) :
    ∀ e', PublishedIn p.shared.journal e' → e'.eventId ≠ e.eventId := by
  have keeps := live.keeps i w busy
  rw [next] at keeps
  rcases keeps.sends fun e => fresh m e rfl with new | ⟨row, hrow, publishes⟩
  · exact (new e value).published
  · obtain ⟨e', value', -, type', -⟩ := publishes.value
    rw [value] at value'
    cases value'
    exact absurd (type'.trans (live.backed.rows row hrow).1) type

theorem Live.sent_now (live : Live components p) (busy : p.workers i = some w) (next : w.rest = .call c k)
    (fresh : SendsFresh (components i) p.shared c) (publishes : Publishes t orderId c) (other : t ≠ .orderCreated)
    (resolves : Resolves name state t orderId goal) : InTransit (Crew.after p i w c k) name state t orderId goal := by
  obtain ⟨m, rfl, ⟨-, e, value, type, about⟩, topic⟩ := publishes
  have unpublished := live.unpublished busy next fresh value (type ▸ other)
  exact ⟨m, e, .sent_now live busy next value type about topic unpublished resolves⟩

theorem Upheld.call {s : SagaRow} {d : Duty} (h : Upheld p orderId (some s.state) d) (live : Live components p)
    (busy : p.workers i = some w) (next : w.rest = .call c k) (fresh : SendsFresh (components i) p.shared c)
    (found : stored orderId p.shared = some s) (hd : d ∈ s.duties) (idle : ¬d.acts orderId c) :
    Upheld (Crew.after p i w c k) orderId (some s.state) d := by
  have shows : Shows (some s.state) orderId (stored orderId p.shared) := by
    constructor
    · rw [found]
      rfl
    · exact fun s' found' => getSaga_eq_some live.backed.keyed found'
  obtain ⟨request, answers, itself, -⟩ := SagaRow.duties_types hd
  have regular := live.backed.regular orderId s found
  cases h with
  | owed owes =>
    by_cases publishes : Publishes d.request orderId c
    · cases serves : d.service with
      | some service =>
        exact .requested service serves
          (live.sent_now busy next fresh publishes request (SagaRow.resolves_request hd serves orderId _))
      | none =>
        have answer := itself serves
        exact .answered d.request answer
          (live.sent_now busy next fresh publishes request (SagaRow.resolves_answer regular hd answer orderId))
    · exact .owed (owes.call busy next publishes)
  | requested service serves transit =>
    obtain ⟨m, e, waits⟩ := transit
    by_cases sends : SendsAnswer d.answers orderId c
    · obtain ⟨t, ht, publishes⟩ := sends
      have other : t ≠ .orderCreated := fun same => answers (same ▸ ht)
      exact .answered t ht (live.sent_now busy next fresh publishes other (SagaRow.resolves_answer regular hd ht orderId))
    · exact .requested service serves ⟨m, e, waits.call busy next shows sends⟩
  | answered t ht transit =>
    obtain ⟨m, e, waits⟩ := transit
    exact .answered t ht ⟨m, e, waits.call busy next shows idle⟩

/-- The row of an order, until its saga starts. -/
theorem Pursued.unsent_call (live : Live components p) (busy : p.workers i = some w) (next : w.rest = .call c k)
    (fits : columnsFit c p.shared = true) (fresh : SendsFresh (components i) p.shared c)
    (unread : stored orderId (p.shared.after c) = none) {row : OutboxEventRow}
    (waiting : row ∈ p.shared.db.outboxEvents.rows) (about : row.body.aggregateId = orderId)
    (unsent : Unsent p.shared row) : Pursued (Crew.after p i w c k) orderId := by
  have keeps := live.keeps i w busy
  rw [next] at keeps
  obtain ⟨row', hrow', id, body⟩ := (keeps.grows_after live.backed).rows row waiting
  by_cases still : Unsent (p.shared.after c) row'
  · exact .unsent unread row' hrow' (body ▸ about) still
  · -- the row was sent just now
    have sent : ∃ e, PublishedIn (p.shared.after c).journal e ∧ e.eventId = row.id := by
      by_contra none
      exact still fun e published same => none ⟨e, published, same.trans id⟩
    obtain ⟨e, published, same⟩ := sent
    rcases publishedIn_after.mp published with old | ⟨m, rfl, value⟩
    · exact absurd same (unsent e old)
    · rcases keeps.sends fun e => fresh m e rfl with new | ⟨source, hsource, publishes⟩
      · exact absurd same.symm ((new e value).waiting row waiting)
      · obtain ⟨e', value', id', type, -, order, -⟩ := publishes.value
        rw [value] at value'
        cases value'
        obtain rfl := Table.eq_of_key hsource waiting (id'.symm.trans same)
        obtain ⟨created, topic⟩ := live.backed.rows source hsource
        have unpublished : ∀ e', PublishedIn p.shared.journal e' → e'.eventId ≠ e.eventId := fun e' old =>
          same ▸ unsent e' old
        exact .created unread ⟨m, e, .sent_now live busy next value (type.trans created) (order.trans about)
          (publishes.topic.trans topic) unpublished (resolves_created orderId)⟩

omit [DecidableEq ι] in
/-- What a call does to the saga of an order. -/
theorem stored_after {component : Component} {world : World} (keeps : KeepsTo component world (.call c k))
    (inv : Backed world) (orderId : String) :
    (stored orderId (world.after c) = stored orderId world ∧ ¬Starts orderId c ∧
      ∀ s, stored orderId world = some s → s.state = .compensating → ∀ action, ¬ReportsTo action orderId c) ∨
    (∃ row, c = .saveSagaInstance row ∧ row.aggregateId = orderId ∧
      stored orderId (world.after c) = some (row.mergedInto (stored orderId world))) ∨
    ∃ s copy action correlationId, c = .compensationBarrier copy action correlationId ∧ copy.aggregateId = orderId ∧
      stored orderId world = some s ∧ s.state = .compensating ∧
      stored orderId (world.after c) = some (s.afterReport orderId action correlationId) := by
  cases keeps.effect with
  | none same unsaved unreported =>
    left
    refine ⟨by rw [stored, Db.getSagaByAggregateId, same]; rfl, ?_, ?_⟩
    · rintro ⟨row, call, -⟩
      exact unsaved row call
    · rintro s found compensating action ⟨copy, correlationId, call, about⟩
      subst about
      exact unreported copy action correlationId call s found compensating
  | save row call saved =>
    have keyed := (keeps.saves.1 row call).1
    by_cases about : row.aggregateId = orderId
    · right
      left
      refine ⟨row, call, about, ?_⟩
      rw [saved]
      exact (stored_save inv.keyed keyed about).2
    · left
      refine ⟨?_, ?_, ?_⟩
      · rw [saved, stored_saved inv.keyed keyed, if_neg fun same => about same.symm]
      · rintro ⟨row', call', about'⟩
        rw [call] at call'
        cases call'
        exact about about'
      · rintro s - - action ⟨copy, correlationId, call', -⟩
        rw [call] at call'
        cases call'
  | report s copy action correlationId call found compensating saved =>
    by_cases about : copy.aggregateId = orderId
    · subst about
      exact .inr (.inr ⟨s, copy, action, correlationId, call, rfl, found, compensating,
        saved ▸ (stored_report inv.keyed found action correlationId).2⟩)
    · left
      have keyed := barrierRow_keyed (getSaga_eq_some inv.keyed found).2 action correlationId
      refine ⟨?_, ?_, ?_⟩
      · rw [saved, stored_saved inv.keyed keyed]
        exact if_neg fun same => about same.symm
      · rintro ⟨row, call', -⟩
        rw [call] at call'
        cases call'
      · rintro t - - action' ⟨copy', correlationId', call', about'⟩
        rw [call] at call'
        cases call'
        exact about about'

theorem Pursued.call (live : Live components p) (busy : p.workers i = some w) (next : w.rest = .call c k)
    (fits : columnsFit c p.shared = true) (fresh : SendsFresh (components i) p.shared c)
    (placed : Placed orderId (p.shared.after c)) : Pursued (Crew.after p i w c k) orderId := by
  have keeps := live.keeps i w busy
  rw [next] at keeps
  rcases stored_after keeps live.backed orderId with ⟨same, idle, unreported⟩ |
    ⟨row, rfl, rfl, saved⟩ | ⟨s, copy, action, correlationId, rfl, rfl, found, compensating, saved⟩
  · rw [Placed, orders_after, same] at placed
    cases live.orders orderId placed with
    | unsent unread row waiting about unsent =>
      exact .unsent_call live busy next fits fresh (same.trans unread) waiting about unsent
    | created unread transit =>
      obtain ⟨m, e, waits⟩ := transit
      refine .created (same.trans unread) ⟨m, e, waits.call busy next ⟨by rw [unread]; rfl, ?_⟩ idle⟩
      exact fun s found => getSaga_eq_some live.backed.keyed found
    | started s found upheld =>
      refine .started s (same.trans found) fun d hd => (upheld d hd).call live busy next fresh found hd fun acts => ?_
      rcases SagaRow.acts_cases hd acts with starts | ⟨compensating, reports⟩
      · exact idle starts
      · rw [SagaRow.duties, compensating] at hd
        obtain ⟨action, -, rfl⟩ := List.mem_map.mp hd
        exact unreported s found compensating action (reports action rfl)
  · -- who saved the row owes what it waits for
    refine .started _ saved fun d hd => .owed ⟨i, _, Function.update_self .., ?_⟩
    exact (keeps.saves.2 _ (reading_answer fun _ s found => getSaga_eq_some live.backed.keyed found)).1 _ ⟨row, d, rfl, hd, rfl⟩
  · refine .started _ saved fun d hd => ?_
    obtain ⟨state, hd, a, other, rfl⟩ := duties_afterReport compensating hd
    rw [state, ← compensating]
    have upheld : ∀ d ∈ s.duties, Upheld p copy.aggregateId (some s.state) d := by
      cases live.orders copy.aggregateId (.inr (by simp [found])) with
      | unsent unread | created unread =>
        rw [unread] at found
        cases found
      | started s' found' upheld =>
        rw [found] at found'
        cases found'
        exact upheld
    refine (upheld _ hd).call live busy next fresh found hd fun acts => ?_
    rcases SagaRow.acts_cases hd acts with ⟨row, call, -⟩ | ⟨-, reports⟩
    · cases call
    · obtain ⟨copy', correlationId', call, -⟩ := reports a rfl
      cases call
      exact other rfl

theorem Sendable.call {row row' : OutboxEventRow} (h : Sendable p row) (live : Live components p)
    (busy : p.workers i = some w) (next : w.rest = .call c k) (hrow : row ∈ p.shared.db.outboxEvents.rows)
    (hrow' : row' ∈ (p.shared.after c).db.outboxEvents.rows) (same : row.id = row'.id) :
    Sendable (Crew.after p i w c k) row' := by
  rcases h with sent | ⟨pending, first⟩ | owes
  · left
    intro unsent
    exact sent fun e published => same ▸ unsent e (publishedIn_after.mpr (.inl published))
  · rcases pending_after hrow pending with stays | announces
    · obtain rfl := Table.eq_of_key stays hrow' same
      exact .inr (.inl ⟨pending, first⟩)
    · have keeps := live.keeps i w busy
      rw [next] at keeps
      have relay : (components i).consumer = none := by
        by_contra handler
        have calls := (keeps.handler handler).1
        cases c <;> first | exact calls | exact announces
      have honours := keeps.known relay (fun id body => ∃ row ∈ p.shared.db.outboxEvents.rows, row.id = id ∧ row.body = body)
        fun row hrow => ⟨row, hrow, rfl, rfl⟩
      have owes := (honours.2 _ (claiming_answer fun row known => known)).1 _ announces
      exact .inr (.inr ⟨i, _, Function.update_self .., same ▸ owes⟩)
  · by_cases sends : SendsEvent row.id c
    · left
      obtain ⟨m, e, call, value, id⟩ := sends
      exact fun unsent => unsent e (publishedIn_after.mpr (.inr ⟨m, call, value⟩)) (id.trans same)
    · exact .inr (.inr (same ▸ owes.call busy next sends))

theorem Live.call (live : Live components p) (busy : p.workers i = some w) (next : w.rest = .call c k)
    (fits : columnsFit c p.shared = true) (fresh : SendsFresh (components i) p.shared c) :
    Live components (Crew.after p i w c k) := by
  have keeps := live.keeps i w busy
  rw [next] at keeps
  constructor
  · exact live.backed.call keeps fits fresh
  · intro j v hv
    rcases update_eq_some hv with ⟨rfl, same⟩ | ⟨-, other⟩
    · cases same
      exact keeps.answered live.backed
    · exact (live.keeps j v other).grows (keeps.grows_after live.backed)
  · intro row' hrow'
    obtain ⟨row, hrow, same, -⟩ := rows_after fits row' hrow'
    exact (live.rows row hrow).call live busy next hrow hrow' same
  · exact fun orderId placed => .call live busy next fits fresh placed

/-! ## The other steps -/

/-- A step that moves no worker and publishes nothing. -/
structure Calm (p q : Crew ι) : Prop where
  journal : q.shared.journal = p.shared.journal
  processedEvents : q.shared.db.processedEvents = p.shared.db.processedEvents
  sagas : q.shared.db.sagaInstances = p.shared.db.sagaInstances
  rows : ∀ row ∈ p.shared.db.outboxEvents.rows, row ∈ q.shared.db.outboxEvents.rows
  owes : ∀ i w, p.workers i = some w → q.workers i = some w ∨ w.rest.Finished
  handles : ∀ e, PublishedIn p.shared.journal e → ∀ name state goal,
    Resolves name state e.eventType e.aggregateId goal → ∀ i w, q.workers i = some w → p.workers i = some w ∨
      w.rest.Meets (Seeing state e.aggregateId) goal (· = .markEventProcessed e.eventId name) fun _ => True

section
variable {q : Crew ι}

omit [DecidableEq ι]

theorem InTransit.calm (h : InTransit p name state t orderId goal) (calm : Calm p q) :
    InTransit q name state t orderId goal := by
  obtain ⟨m, e, ⟨acked, sent⟩, value, rfl, rfl, topic, unprocessed, resolves, handled⟩ := h
  refine ⟨m, e, ⟨acked, calm.journal ▸ sent⟩, value, rfl, rfl, topic, ?_, resolves, ?_⟩
  · rw [Db.isEventProcessed_congr calm.processedEvents]
    exact unprocessed
  · intro i w busy
    rcases calm.handles e ⟨m, acked, sent, value⟩ name state goal resolves i w busy with before | meets
    · exact handled i w before
    · exact meets

theorem SomeoneOwes.calm (h : SomeoneOwes p goal) (calm : Calm p q) : SomeoneOwes q goal := by
  obtain ⟨i, w, busy, owes⟩ := h
  rcases calm.owes i w busy with still | finished
  · exact ⟨i, w, still, owes⟩
  · exact absurd finished owes.not_finished

theorem Calm.stored_eq (calm : Calm p q) (orderId : String) : stored orderId q.shared = stored orderId p.shared := by
  rw [stored, Db.getSagaByAggregateId, calm.sagas]
  rfl

theorem Pursued.calm (h : Pursued p orderId) (calm : Calm p q) : Pursued q orderId := by
  have same := calm.stored_eq orderId
  cases h with
  | unsent unread row waiting about unsent =>
    exact .unsent (same.trans unread) row (calm.rows row waiting) about fun e published =>
      unsent e (calm.journal ▸ published)
  | created unread transit => exact .created (same.trans unread) (transit.calm calm)
  | started s found upheld =>
    refine .started s (same.trans found) fun d hd => ?_
    cases upheld d hd with
    | owed owes => exact .owed (owes.calm calm)
    | requested service serves transit => exact .requested service serves (transit.calm calm)
    | answered t answers transit => exact .answered t answers (transit.calm calm)

theorem Sendable.calm {row : OutboxEventRow} (h : Sendable p row) (calm : Calm p q) : Sendable q row := by
  rcases h with sent | pending | owes
  · exact .inl fun unsent => sent fun e published => unsent e (calm.journal ▸ published)
  · exact .inr (.inl pending)
  · exact .inr (.inr (owes.calm calm))

theorem Live.calm (live : Live components p) (calm : Calm p q) (backed : Backed q.shared)
    (keeps : ∀ i w, q.workers i = some w → KeepsTo (components i) q.shared w.rest)
    (rows : q.shared.db.outboxEvents = p.shared.db.outboxEvents) (orders : q.shared.db.orders = p.shared.db.orders) :
    Live components q where
  backed := backed
  keeps := keeps
  rows row hrow := (live.rows row (rows ▸ hrow)).calm calm
  orders orderId placed := by
    rw [Placed, orders, calm.stored_eq] at placed
    exact (live.orders orderId placed).calm calm

end

/-- Whoever starts to work comes to the goal before it marks the event. -/
theorem Component.perform_meets (component : Component) {world : World} (inv : Conforming world) (backed : Backed world)
    {work : Work} (startable : ∀ env message, work = .deliver env message → ∃ e, Delivers world message e)
    (published : PublishedIn world.journal e) (resolves : Resolves name state e.eventType e.aggregateId goal) :
    (component.perform work).Meets (Seeing state e.aggregateId) goal (· = .markEventProcessed e.eventId name)
      fun _ => True := by
  cases work with
  | sweep =>
    cases component with
    | saga | payment | inventory | fraud | shipping | notification => trivial
    | outboxRelay relay =>
      apply Prog.Meets.of_calls _ fun _ => trivial
      have unmarked : relay.processBatch.Calls fun c => ¬c = .markEventProcessed e.eventId name :=
        relay.processBatch_calls (fun h => by cases h) (fun _ h => by cases h) (fun _ h => by cases h) fun _ _ h => by cases h
      exact unmarked.bind fun _ => trivial
  | deliver env message =>
    obtain ⟨delivered, delivers⟩ := startable env message rfl
    obtain ⟨conforms, known, reads⟩ := inv.reads delivers
    cases hc : component.consumer with
    | none =>
      simp only [Component.perform, hc]
      trivial
    | some consumer =>
      simp only [Component.perform, hc, reads]
      by_cases own : delivered.eventId = e.eventId ∧ consumer.consumerName = name
      · obtain ⟨id, rfl⟩ := own
        obtain ⟨type, about⟩ := backed.unique delivered e known published id
        have retries : 0 < consumer.maxRetries := by
          cases component <;> cases hc <;> decide
        refine (Consumer.handleEnvelope_meets retries (fun h => by cases h) fun n => ?_).mono (fun _ _ h => h) (fun _ h => h)
          (fun _ => .inr) fun _ _ => trivial
        exact resolves component consumer hc rfl n _ _ conforms.plain type about _ fun _ h => by cases h
      · apply Prog.Meets.of_calls _ fun _ => trivial
        refine (component.handleEnvelope_marks hc env message delivered.plain).mono ?_
        rintro call marks rfl
        obtain ⟨id, named⟩ := marks e.eventId name rfl
        exact own ⟨id.symm, named.symm⟩

theorem Live.start (live : Live components p) (inv : Conforming p.shared) (free : p.workers i = none) {work : Work}
    (startable : ∀ env message, work = .deliver env message → ∃ e, Delivers p.shared message e) :
    Live components ⟨p.shared, Function.update p.workers i (some ⟨work, (components i).perform work, []⟩)⟩ := by
  have calm : Calm p ⟨p.shared, Function.update p.workers i (some ⟨work, (components i).perform work, []⟩)⟩ := by
    refine ⟨rfl, rfl, rfl, fun _ hrow => hrow, ?_, ?_⟩
    · intro j v hv
      left
      have other : j ≠ i := by
        rintro rfl
        rw [free] at hv
        cases hv
      exact (Function.update_of_ne other ..).trans hv
    · intro e published name state goal resolves j v hv
      rcases update_eq_some hv with ⟨rfl, same⟩ | ⟨-, other⟩
      · cases same
        exact .inr ((components j).perform_meets inv live.backed startable published resolves)
      · exact .inl other
  refine live.calm calm live.backed ?_ rfl rfl
  intro j v hv
  rcases update_eq_some hv with ⟨rfl, same⟩ | ⟨-, other⟩
  · cases same
    exact (components j).perform_keepsTo inv startable
  · exact live.keeps j v other

theorem Live.leave (live : Live components p) (busy : p.workers i = some w) (finished : w.rest.Finished) :
    Live components ⟨p.shared, Function.update p.workers i none⟩ := by
  have calm : Calm p ⟨p.shared, Function.update p.workers i none⟩ := by
    refine ⟨rfl, rfl, rfl, fun _ hrow => hrow, ?_, ?_⟩
    · intro j v hv
      by_cases same : j = i
      · subst same
        rw [busy] at hv
        cases hv
        exact .inr finished
      · exact .inl ((Function.update_of_ne same ..).trans hv)
    · intro e _ name state goal _ j v hv
      rcases update_eq_some hv with ⟨-, none⟩ | ⟨-, other⟩
      · cases none
      · exact .inl other
  refine live.calm calm live.backed ?_ rfl rfl
  intro j v hv
  rcases update_eq_some hv with ⟨-, none⟩ | ⟨-, other⟩
  · cases none
  · exact live.keeps j v other

omit [DecidableEq ι] in
theorem Live.environment (live : Live components p) {world : World} (moves : FreshOrders p.shared world) :
    Live components ⟨world, p.workers⟩ := by
  obtain ⟨backed, grows⟩ := live.backed.environment moves
  have keeps : ∀ j v, p.workers j = some v → KeepsTo (components j) world v.rest := fun j v hv =>
    (live.keeps j v hv).grows grows
  have calm : world.journal = p.shared.journal → world.db.processedEvents = p.shared.db.processedEvents →
      world.db.sagaInstances = p.shared.db.sagaInstances →
      (∀ row ∈ p.shared.db.outboxEvents.rows, row ∈ world.db.outboxEvents.rows) → Calm p ⟨world, p.workers⟩ := by
    intro journal processed sagas rows
    exact ⟨journal, processed, sagas, rows, fun _ _ hv => .inl hv, fun _ _ _ _ _ _ _ _ hv => .inl hv⟩
  cases moves with
  | time clock locked instant => exact live.calm (calm rfl rfl rfl fun _ hrow => hrow) backed keeps rfl rfl
  | createOrder c f conforms fresh =>
    rcases createOrder_written (c := c) (f := f) (w := p.shared) rfl with same | written
    · rw [same] at backed keeps calm ⊢
      exact live.calm (calm rfl rfl rfl fun _ hrow => hrow) backed keeps rfl rfl
    · rw [written] at backed keeps calm ⊢
      have calm := calm rfl rfl rfl fun row hrow => Table.mem_insertOrIgnore.mpr (.inl hrow)
      refine ⟨backed, keeps, ?_, ?_⟩
      · intro row hrow
        rcases Table.mem_insertOrIgnore.mp hrow with hrow | ⟨rfl, -⟩
        · exact (live.rows row hrow).calm calm
        · exact .inr (.inl ⟨rfl, rfl⟩)
      · intro orderId placed
        by_cases before : Placed orderId p.shared
        · exact (live.orders orderId before).calm calm
        · have unread : stored orderId p.shared = none := by
            by_contra found
            exact before (.inr found)
          rcases placed with ⟨order, horder, rfl⟩ | found
          · have new : order.id = c.orderId := by
              rcases Table.of_mem_upsert horder with rfl | old | ⟨old, hold, same, rfl⟩
              · rfl
              · exact absurd (.inl ⟨order, old, rfl⟩) before
              · exact same
            exact .unsent unread (Leased.fresh c.eventId c.outboxBody p.shared.clock)
              (Table.mem_insertOrIgnore.mpr (.inr ⟨rfl, Table.get?_eq_none.mpr fresh.waiting⟩)) new.symm fresh.published
          · exact absurd unread found

theorem reachable_live (h : Reachable (faultless components).system p) : Live components p := by
  induction h with
  | @start p init =>
    obtain ⟨blank, free⟩ := init
    have noRows : p.shared.db.outboxEvents.rows = [] := by
      rw [blank.db]
      rfl
    refine ⟨blank.backed, ?_, ?_, ?_⟩
    · intro i w busy
      rw [free i] at busy
      cases busy
    · intro row hrow
      rw [noRows] at hrow
      cases hrow
    · rintro orderId (⟨order, horder, -⟩ | found)
      · rw [blank.db] at horder
        cases horder
      · rw [stored, blank.db] at found
        exact absurd rfl found
  | @next p q reachable step live =>
    have inv := reachable_conforming (timely_of_faultless reachable)
    have step : PoolStep (faultless components) p q := step
    cases step with
    | start i work free startable =>
      apply live.start inv free
      rintro env message rfl
      exact startable.1.2
    | call i w c k o busy next allowed =>
      obtain ⟨rfl, fits, fresh⟩ := allowed
      have live := live.call busy next fits fresh
      rw [Crew.after] at live
      simpa only [faultless, timelySystem, closedSystem, exec_after fits] using live
    | leave i w busy finished => exact live.leave busy finished
    | environment world moves => exact live.environment moves

end

end Fulfillment
