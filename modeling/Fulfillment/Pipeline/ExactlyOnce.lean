import Fulfillment.Pipeline.Exclusion

/-!
# What happens exactly once

A service whose sends are acknowledged or refused, whose marks succeed and that
finishes what it took answers a request once. With one instance of each
component, every stage of an order is then published exactly once.
-/

namespace Fulfillment

open Js Relational Effects SagaOrchestrator

/-- An event published under the name in answer to the event. -/
def Entry.isAnswer (name eventId : String) : Entry → Bool
  | .saved _ => false
  | .sent m _ =>
    match m.value with
    | .event e => e.producer = name ∧ e.causationId = eventId
    | .deadLetter _ => false

def timesAnswered (name eventId : String) (journal : List Entry) : Nat := journal.countP (Entry.isAnswer name eventId)

/-- Nothing is published or marked under the name. -/
structure Separate (name : String) (w w' : World) : Prop where
  answered : ∀ id, timesAnswered name id w'.journal = timesAnswered name id w.journal
  processed : ∀ id, w'.db.isEventProcessed id name = w.db.isEventProcessed id name

/-- What was answered is processed, and was answered once. -/
def Tidy (name : String) (w : World) : Prop :=
  ∀ id, timesAnswered name id w.journal ≤ (w.db.isEventProcessed id name).toNat

/-- Tidy but for the event at hand, which was answered no more than `n` times. -/
structure Answering (name eventId : String) (n : Nat) (w : World) : Prop where
  own : timesAnswered name eventId w.journal ≤ n
  others : ∀ id, id ≠ eventId → timesAnswered name id w.journal ≤ (w.db.isEventProcessed id name).toNat

/-- A send is acknowledged or refused, and the mark of an event succeeds. -/
def Clear (c : Call) (o : Outcome JsError) (w : World) : Prop :=
  match c with
  | .send _ => ∀ err, o ≠ .unacked err
  | .markEventProcessed _ _ => Fitting c o w
  | _ => True

def serviceContract (name : String) : Contract JsError World Call where
  allowed := Clear
  rely := Separate name
  guar _ w := ∀ id, timesAnswered name id w.journal ≤ 1

/-- What the others owe to the service. -/
def apartContract (name : String) : Contract JsError World Call where
  allowed _ _ _ := True
  rely _ _ := True
  guar := Separate name

section
variable {name eventId : String} {w w' : World} {n : Nat}

theorem Separate.refl (name : String) (w : World) : Separate name w w := ⟨fun _ => rfl, fun _ => rfl⟩

theorem Separate.trans {a b c : World} (h : Separate name a b) (h' : Separate name b c) : Separate name a c :=
  ⟨fun id => (h'.answered id).trans (h.answered id), fun id => (h'.processed id).trans (h.processed id)⟩

theorem Tidy.apart (h : Tidy name w) (apart : Separate name w w') : Tidy name w' := by
  intro id
  rw [apart.answered, apart.processed]
  exact h id

theorem Tidy.once (h : Tidy name w) (id : String) : timesAnswered name id w.journal ≤ 1 :=
  (h id).trans (Bool.toNat_le _)

/-- Nothing is published under the name, and nothing but the event at hand is marked. -/
theorem Answering.frame (h : Answering name eventId n w)
    (answered : ∀ id, timesAnswered name id w'.journal = timesAnswered name id w.journal)
    (processed : ∀ id, id ≠ eventId → w'.db.isEventProcessed id name = w.db.isEventProcessed id name) :
    Answering name eventId n w' := by
  constructor
  · rw [answered]
    exact h.own
  · intro id other
    rw [answered, processed id other]
    exact h.others id other

theorem Answering.apart (h : Answering name eventId n w) (apart : Separate name w w') : Answering name eventId n w' :=
  h.frame apart.answered fun id _ => apart.processed id

theorem Answering.once (h : Answering name eventId n w) (few : n ≤ 1) (id : String) :
    timesAnswered name id w.journal ≤ 1 := by
  by_cases same : id = eventId
  · subst same
    exact h.own.trans few
  · exact (h.others id same).trans (Bool.toNat_le _)

/-- An event that is not processed was not answered. -/
theorem Tidy.answering (h : Tidy name w) (fresh : w.db.isEventProcessed eventId name = false) :
    Answering name eventId 0 w := by
  refine ⟨?_, fun id _ => h id⟩
  have bound := h eventId
  rwa [fresh] at bound

theorem Answering.tidy (h : Answering name eventId 0 w) : Tidy name w := by
  intro id
  by_cases same : id = eventId
  · subst same
    exact h.own.trans (Nat.zero_le _)
  · exact h.others id same

theorem timesAnswered_saved (id : String) (saga : SagaRow) (journal : List Entry) :
    timesAnswered name id (.saved saga :: journal) = timesAnswered name id journal :=
  List.countP_cons_of_neg (by simp [Entry.isAnswer])

theorem timesAnswered_letter (id : String) {m : Message} {p : DlqPayload} (letter : m.value = .deadLetter p) (acked : Bool)
    (journal : List Entry) : timesAnswered name id (.sent m acked :: journal) = timesAnswered name id journal :=
  List.countP_cons_of_neg (by simp [Entry.isAnswer, letter])

theorem timesAnswered_sent (id : String) {m : Message} {e : EventEnvelope} (value : m.value = .event e) (acked : Bool)
    (journal : List Entry) : timesAnswered name id (.sent m acked :: journal) =
      timesAnswered name id journal + if e.producer = name ∧ e.causationId = id then 1 else 0 := by
  rw [timesAnswered, List.countP_cons]
  simp only [Entry.isAnswer, value, decide_eq_true_eq]
  rfl

end

/-! ## Calls under other names -/

def Outlying (name : String) (c : Call) : Prop :=
  match c with
  | .markEventProcessed _ marker => marker ≠ name
  | .persistDeadLetter dlq marksFailed _ => marksFailed = true → dlq.consumerName ≠ name
  | .send m => ∀ e, m.value = .event e → e.producer ≠ name
  | _ => True

theorem Outlying.apart {name : String} {c : Call} (h : Outlying name c) (o : Outcome JsError) (w : World) :
    Separate name w ((platform .none).exec c o w).2 := by
  rw [platform_exec_state]
  split
  · cases c with
    | markEventProcessed eventId marker =>
      refine ⟨fun _ => rfl, fun id => isEventProcessed_mark_other w.db ?_ .processed none w.clock⟩
      exact fun same => h (Prod.mk.inj same).2.symm
    | persistDeadLetter dlq marksFailed outboxId =>
      cases marksFailed with
      | false => exact ⟨fun _ => rfl, fun _ => rfl⟩
      | true =>
        refine ⟨fun _ => rfl, fun id => ?_⟩
        have other : (id, name) ≠ (dlq.eventId, dlq.consumerName) := fun same => h rfl (Prod.mk.inj same).2.symm
        exact isEventProcessed_mark_other (w.db.recordDLQMessage dlq w.clock) other .failed (some dlq.errorMessage) w.clock
    | send m =>
      refine ⟨fun id => ?_, fun _ => rfl⟩
      simp only [carryOut, World.take]
      cases value : m.value with
      | deadLetter p => exact timesAnswered_letter id value _ _
      | event e => rw [timesAnswered_sent id value, if_neg fun own => h e value own.1, Nat.add_zero]
    | saveSagaInstance saga => exact ⟨fun id => timesAnswered_saved id saga _, fun _ => rfl⟩
    | compensationBarrier saga action correlationId =>
      simp only [carryOut]
      split
      · exact ⟨fun id => timesAnswered_saved id _ _, fun _ => rfl⟩
      · exact .refl name w
    | _ => exact ⟨fun _ => rfl, fun _ => rfl⟩
  · exact .refl name w

/-! ## The service -/

section
variable {s : Service} {e : EventEnvelope} {w : World} {n : Nat}

/-- The consumer base answers nothing, and what it marks is the event at hand. -/
theorem OwnCall.answering {name eventId : String} {c : Call} (h : OwnCall eventId name c) (o : Outcome JsError)
    (answering : Answering name eventId n w) : Answering name eventId n ((platform .none).exec c o w).2 := by
  rw [platform_exec_state]
  split
  · cases h with
    | dedup => exact answering
    | published => exact answering.frame (fun _ => rfl) fun _ _ => rfl
    | mark =>
      refine answering.frame (fun _ => rfl) fun id other => ?_
      exact isEventProcessed_mark_other w.db (fun same => other (Prod.mk.inj same).1) .processed none w.clock
    | persist dlq outboxId about named =>
      refine answering.frame (fun _ => rfl) fun id other => ?_
      exact isEventProcessed_mark_other (w.db.recordDLQMessage dlq w.clock)
        (fun same => other ((Prod.mk.inj same).1.trans about)) .failed (some dlq.errorMessage) w.clock
    | send key p => exact answering.frame (fun id => timesAnswered_letter id rfl _ _) fun _ _ => rfl
  · exact answering

theorem send_answering {m : Message} (answer : m.AnswerOf s e) (h : Answering s.consumerName e.eventId 0 w) :
    Safe (platform .none) (serviceContract s.consumerName)
      (fun r => Answering s.consumerName e.eventId (if r = .ok () then 1 else 0)) (await (.send m)) w := by
  apply Safe.await
  intro v apart o clear
  have h := h.apart apart
  cases o with
  | unacked err => exact absurd rfl (clear err)
  | rejected err => exact ⟨h.once (Nat.zero_le _), h⟩
  | ok =>
    have answered : Answering s.consumerName e.eventId 1 (v.take m true) := by
      cases value : m.value with
      | deadLetter p =>
        exact ⟨(timesAnswered_letter _ value _ _).trans_le (h.own.trans (Nat.zero_le _)),
          fun id other => (timesAnswered_letter id value _ _).trans_le (h.others id other)⟩
      | event e' =>
        have causationId : e'.causationId = e.eventId := (answer.replies.answers e' value).2.2.2
        constructor
        · rw [World.take, timesAnswered_sent _ value, if_pos ⟨answer.producer e' value, causationId⟩]
          exact Nat.add_le_add_right h.own 1
        · intro id other
          rw [World.take, timesAnswered_sent _ value, if_neg fun own => other (own.2.symm.trans causationId)]
          exact h.others id other
    exact ⟨answered.once (Nat.le_refl _), answered⟩

/-- An attempt that fails has answered nothing. -/
theorem processEvent_answering
    (service : s ∈ [paymentService, inventoryService, fraudService, shippingService, notificationService]) (amb : Ambient)
    (h : Answering s.consumerName e.eventId 0 w) :
    Safe (platform .none) (serviceContract s.consumerName)
      (fun r => Answering s.consumerName e.eventId (if r = .ok () then 1 else 0)) (s.processEvent amb e) w := by
  have more : Answering s.consumerName e.eventId 1 w := ⟨h.own.trans (Nat.zero_le _), h.others⟩
  unfold Service.processEvent
  cases answer : s.answer amb e with
  | error err => exact h
  | ok answered =>
    cases answered with
    | none => exact more
    | some m => exact send_answering (services_reply service answer).1 h

/-- A mark that is made leaves everything tidy. -/
theorem mark_tidy {name eventId : String} (h : Answering name eventId 1 w) :
    Safe (platform .none) (serviceContract name) (fun r w => r = .ok () ∧ Tidy name w)
      (await (.markEventProcessed eventId name)) w := by
  apply Safe.await
  rintro v apart o ⟨rfl, fits⟩
  have marked := (OwnCall.mark : OwnCall eventId name _).answering .ok (h.apart apart)
  refine ⟨marked.once (Nat.le_refl _), ?_, ?_⟩
  · simp [platform_exec_value, fits]
  · intro id
    by_cases same : id = eventId
    · subst same
      refine marked.own.trans (le_of_eq ?_)
      rw [platform_exec_state, if_pos (by simp [Outcome.acted, fits])]
      simp only [carryOut]
      rw [isEventProcessed_markEventProcessed]
      rfl
    · exact marked.others id same

variable {env : Surroundings} {message : EachMessagePayload}

theorem tryProcess_tidy
    (service : s ∈ [paymentService, inventoryService, fraudService, shippingService, notificationService]) (attempt : Nat)
    (h : Answering s.consumerName e.eventId 0 w) :
    Safe (platform .none) (serviceContract s.consumerName)
      (fun r w => if r = .ok () then Tidy s.consumerName w else Answering s.consumerName e.eventId 0 w)
      (s.consumer.tryProcess env attempt e) w := by
  apply Safe.bind
  refine (processEvent_answering service (env.attempt attempt) h).mono ?_
  rintro (err | done) v answering
  · exact answering
  · refine (mark_tidy answering).mono ?_
    rintro r u ⟨rfl, tidy⟩
    exact tidy

theorem retryLoop_tidy
    (service : s ∈ [paymentService, inventoryService, fraudService, shippingService, notificationService])
    (left attempt : Nat) (lastError : Option JsError) (h : Answering s.consumerName e.eventId 0 w) :
    Safe (platform .none) (serviceContract s.consumerName) (fun _ => Tidy s.consumerName)
      (s.consumer.retryLoop env message e left attempt lastError) w := by
  induction left generalizing attempt lastError w with
  | zero =>
    have calls : (s.consumer.retryLoop env message e 0 attempt lastError).Calls (OwnCall e.eventId s.consumerName) :=
      Consumer.letter_calls (c := s.consumer) (e := e) (fun _ own => own) rfl rfl _
    have safe : Safe (platform .none) (serviceContract s.consumerName) (fun _ => Answering s.consumerName e.eventId 0)
        (s.consumer.retryLoop env message e 0 attempt lastError) w := by
      refine Safe.of_calls (fun u v apart answering => Answering.apart answering apart) ?_ calls h
      intro c own o v _ answering
      have after := own.answering o answering
      exact ⟨after.once (Nat.zero_le _), after⟩
    exact safe.mono fun _ v answering => answering.tidy
  | succ left ih =>
    apply Safe.bind
    apply Safe.settle
    refine (tryProcess_tidy service (attempt + 1) h).mono ?_
    rintro (err | done) v after
    · exact ih _ _ after
    · exact after

theorem dedup_answer {name eventId : String} {o : Outcome JsError} {processed : Bool}
    (h : ((platform .none).exec (.isEventProcessed eventId name) o w).1 = .ok processed) :
    w.db.isEventProcessed eventId name = processed := by
  rw [platform_exec_value] at h
  cases o with
  | rejected err => cases h
  | unacked err => cases h
  | ok =>
    simp only at h
    split at h
    · exact Except.ok.inj h
    · cases h

/-- Whatever message comes, the service leaves everything tidy. -/
theorem service_tidy
    (service : s ∈ [paymentService, inventoryService, fraudService, shippingService, notificationService])
    (h : Tidy s.consumerName w) :
    Safe (platform .none) (serviceContract s.consumerName) (fun _ => Tidy s.consumerName)
      (s.consumer.handleMessage env message) w := by
  unfold Consumer.handleMessage
  dsimp only
  cases parseEnvelope env.uuid env.now (message.value.getD "") with
  | none =>
    have calls : (s.consumer.handleNonRetryableDLQ env message (message.value.getD "") env.parseError).Calls
        (Outlying s.consumerName) :=
      Consumer.deadLetter_calls (fun marked => by cases marked) (fun e value => nomatch value) trivial
    refine Safe.of_calls (fun u v apart tidy => Tidy.apart tidy apart) ?_ calls h
    intro c foreign o v _ tidy
    have after := tidy.apart (foreign.apart o v)
    exact ⟨after.once, after⟩
  | some e =>
    apply Safe.bind
    apply Safe.await
    intro v apart o _
    have h := h.apart apart
    have unchanged : ((platform .none).exec (.isEventProcessed e.eventId s.consumer.consumerName) o v).2 = v := by
      rw [platform_exec_state]
      split <;> rfl
    rw [unchanged]
    refine ⟨h.once, ?_⟩
    cases answer : ((platform .none).exec (.isEventProcessed e.eventId s.consumer.consumerName) o v).1 with
    | error err => exact h
    | ok processed =>
      cases processed with
      | true => exact h
      | false =>
        exact retryLoop_tidy service _ _ _ (h.answering (dedup_answer answer))

end

/-! ## The others -/

theorem Component.same_of_name {component component' : Component} {c c' : Consumer} (h : component.consumer = some c)
    (h' : component'.consumer = some c') (same : c.consumerName = c'.consumerName) : component = component' := by
  cases component <;> cases h <;> cases component' <;> cases h' <;> first | rfl | exact absurd same (by decide)

theorem Service.processEvent_foreign {s s' : Service}
    (service : s' ∈ [paymentService, inventoryService, fraudService, shippingService, notificationService])
    (other : s'.consumerName ≠ s.consumerName) (amb : Ambient) (e : EventEnvelope) :
    (s'.processEvent amb e).Calls (Outlying s.consumerName) := by
  apply Service.processEvent_calls
  intro m answer e' value
  rw [(services_reply service answer).1.producer e' value]
  exact other

theorem OwnCall.foreign {eventId name name' : String} {c : Call} (h : OwnCall eventId name' c) (other : name' ≠ name) :
    Outlying name c := by
  cases h with
  | dedup | published => trivial
  | mark => exact other
  | persist dlq outboxId about named => exact fun _ => named ▸ other
  | send key p => exact fun e value => nomatch value

theorem SagaOrchestrator.processEvent_foreign {name : String} (other : SagaOrchestrator.consumerName ≠ name) (amb : Ambient)
    (e : EventEnvelope) : (SagaOrchestrator.processEvent amb e).Calls (Outlying name) := by
  apply SagaOrchestrator.processEvent_calls trivial (fun _ => trivial) fun _ _ => trivial
  intro m sends e' value
  cases sends with
  | emitted _ saga row emissions reacts emits =>
    obtain ⟨e'', value', producer, -⟩ := react_emits reacts m emits
    cases value.symm.trans value'
    exact producer ▸ other
  | cancelled orderId notice =>
    cases value
    exact other

/-- A relay publishes under a name that begins otherwise. -/
theorem OutboxRelay.producer_ne (relay : OutboxRelay) (event : OutboxEventRow) {name : String}
    (other : name.toList.head? ≠ some 'o') : (relay.envelope event).producer ≠ name := by
  rintro rfl
  exact other (by simp [OutboxRelay.envelope])

/-- What a component does is done under its own name. -/
theorem Component.perform_foreign {component : Component} {s : Service}
    (service : s ∈ [paymentService, inventoryService, fraudService, shippingService, notificationService])
    (other : ∀ c, component.consumer = some c → c.consumerName ≠ s.consumerName) (work : Work) :
    (component.perform work).Calls (Outlying s.consumerName) := by
  cases work with
  | sweep =>
    cases component with
    | outboxRelay relay =>
      refine Prog.Calls.bind (relay.processBatch_calls trivial ?_ (fun _ => trivial) fun _ _ => trivial) fun _ => trivial
      rintro event e ⟨⟩
      apply relay.producer_ne
      simp only [List.mem_cons, List.not_mem_nil, or_false] at service
      rcases service with rfl | rfl | rfl | rfl | rfl <;> decide
    | saga | payment | inventory | fraud | shipping | notification => trivial
  | deliver env message =>
    cases hc : component.consumer with
    | none =>
      simp only [Component.perform, hc]
      trivial
    | some c =>
      have name := other c hc
      have process : ∀ n amb e, (c.processEvent n amb e).Calls (Outlying s.consumerName) := by
        intro n amb e
        cases component with
        | outboxRelay relay => cases hc
        | saga =>
          cases hc
          exact SagaOrchestrator.processEvent_foreign name amb e
        | payment | inventory | fraud | shipping | notification =>
          cases hc
          exact Service.processEvent_foreign (by simp) name amb e
      simp only [Component.perform, hc]
      unfold Consumer.handleMessage
      dsimp only
      cases parseEnvelope env.uuid env.now (message.value.getD "") with
      | none => exact Consumer.deadLetter_calls (fun marked => by cases marked) (fun e value => by cases value) trivial
      | some e => exact Consumer.handleEnvelope_calls (fun _ own => own.foreign name) fun n amb => process n amb e

/-! ## One instance of each component -/

def Component.isService : Component → Bool
  | .outboxRelay _ | .saga => false
  | _ => true

section
variable {ι : Type} (components : ι → Component)

/-- The closed system in which the sends of a service are acknowledged or refused, its marks succeed and it finishes what
it took. Anything may happen to the relays and to the orchestrator, and to the other calls of a service. -/
def orderly : Machine JsError World Answer ι Work Unit :=
  supervised components (fun i _ c o w => (components i).isService = true → Clear c o w)
    fun i w => (components i).isService = true → w.rest.Finished

/-- There is one instance of each consumer. -/
def OneOfEach : Prop := ∀ i j, components i = components j → (components i).consumer ≠ none → i = j

/-- The component goes by the name. -/
def Component.Named (name : String) (component : Component) : Prop := component.consumer.map Consumer.consumerName = some name

instance (name : String) (component : Component) : Decidable (component.Named name) :=
  inferInstanceAs (Decidable (_ = _))

variable {components} {p : Pool JsError World Answer ι Work Unit} {s : Service}

theorem OneOfEach.named (one : OneOfEach components) {name : String} {i j : ι} (hi : (components i).Named name)
    (hj : (components j).Named name) : i = j := by
  obtain ⟨c, hc, named⟩ := Option.map_eq_some_iff.mp hi
  obtain ⟨c', hc', named'⟩ := Option.map_eq_some_iff.mp hj
  exact one i j (Component.same_of_name hc hc' (named.trans named'.symm)) (by rw [hc]; nofun)

theorem Component.named_service {component : Component}
    (service : s ∈ [paymentService, inventoryService, fraudService, shippingService, notificationService])
    (named : component.Named s.consumerName) : component.consumer = some s.consumer ∧ component.isService = true := by
  obtain ⟨c, hc, named⟩ := Option.map_eq_some_iff.mp named
  simp only [List.mem_cons, List.not_mem_nil, or_false] at service
  rcases service with rfl | rfl | rfl | rfl | rfl <;> cases component <;> cases hc <;>
    first | exact ⟨rfl, rfl⟩ | exact absurd named (by decide)

/-- What the component owes to the service of the name, which may be itself. -/
def Component.owed (name : String) (component : Component) : Contract JsError World Call :=
  if component.Named name then serviceContract name else apartContract name

theorem Component.owed_own {name : String} {component : Component} (named : component.Named name) :
    component.owed name = serviceContract name := if_pos named

theorem Component.owed_other {name : String} {component : Component} (other : ¬component.Named name) :
    component.owed name = apartContract name := if_neg other

/-- The service itself, tidy when it begins and when it is done, and the others. -/
theorem Component.perform_owed {component : Component}
    (service : s ∈ [paymentService, inventoryService, fraudService, shippingService, notificationService]) (work : Work)
    {w : World} (free : component.Named s.consumerName → Tidy s.consumerName w) :
    Safe (platform .none) (component.owed s.consumerName) (fun _ w => component.Named s.consumerName → Tidy s.consumerName w)
      (component.perform work) w := by
  by_cases named : component.Named s.consumerName
  · obtain ⟨consumer, -⟩ := Component.named_service service named
    rw [Component.owed_own named]
    cases work with
    | sweep =>
      cases component with
      | outboxRelay relay => cases consumer
      | saga | payment | inventory | fraud | shipping | notification => exact free
    | deliver env message =>
      simp only [Component.perform, consumer]
      exact (service_tidy service (free named)).mono fun _ _ tidy _ => tidy
  · have foreign : (component.perform work).Calls (Outlying s.consumerName) := by
      apply Component.perform_foreign service
      rintro c hc same
      exact named (by rw [Component.Named, hc, Option.map_some, same])
    rw [Component.owed_other named]
    refine Safe.of_calls (fun _ _ _ _ own => absurd own named) ?_ foreign free
    exact fun c foreign o w _ _ => ⟨foreign.apart o w, fun own => absurd own named⟩

variable [DecidableEq ι]

/-- A service answers no event twice. -/
theorem reachable_answered (one : OneOfEach components)
    (service : s ∈ [paymentService, inventoryService, fraudService, shippingService, notificationService])
    (h : Reachable (orderly components).system p) (id : String) :
    timesAnswered s.consumerName id p.shared.journal ≤ 1 := by
  refine ((orderly components).handedBack (fun w => ∀ id, timesAnswered s.consumerName id w.journal ≤ 1)
    (fun i => (components i).owed s.consumerName)
    (fun i w => (components i).Named s.consumerName → Tidy s.consumerName w) ?_ ?_ ?_ ?_ ?_ ?_ ?_ ?_ ?_ h).1 id
  · intro i w
    unfold Component.owed
    split
    · exact Separate.refl _ w
    · trivial
  · intro i a b c
    unfold Component.owed
    split
    · exact Separate.trans
    · exact fun _ _ => trivial
  · intro i a b rely free named
    rw [Component.owed_own named] at rely
    exact Tidy.apart (free named) rely
  · rintro w ⟨⟨journal, -⟩, -⟩
    have none : ∀ id, timesAnswered s.consumerName id w.journal = 0 := by
      intro id
      rw [journal]
      rfl
    exact ⟨fun id => (none id).trans_le (Nat.zero_le _), fun i _ id => (none id).trans_le (Nat.zero_le _)⟩
  · exact fun w i work _ free _ => Component.perform_owed service work free
  · intro w i worker leaves safe named
    have finished := leaves (Component.named_service service named).2
    cases rest : worker.rest with
    | call c k =>
      rw [rest] at finished
      exact finished.elim
    | pure a =>
      rw [rest] at safe
      exact safe named
    | throw err =>
      rw [rest] at safe
      exact safe named
  · intro i worker c o w _ allowed
    unfold Component.owed
    split
    · rename_i named
      exact allowed (Component.named_service service named).2
    · trivial
  · intro i w w' inv guar
    by_cases named : (components i).Named s.consumerName
    · rw [Component.owed_own named] at guar
      refine ⟨guar, fun j other => ?_⟩
      rw [Component.owed_other fun named' => other (one.named named' named)]
      trivial
    · rw [Component.owed_other named] at guar
      have apart : Separate s.consumerName w w' := guar
      refine ⟨fun id => (apart.answered id).trans_le (inv id), fun j _ => ?_⟩
      unfold Component.owed
      split
      · exact apart
      · trivial
  · intro w w' inv outside
    have apart : Separate s.consumerName w w' := by
      cases outside with
      | time clock locked => exact ⟨fun _ => rfl, fun _ => rfl⟩
      | createOrder c f =>
        rcases c.createOrder_run w.clock f w.db with ⟨-, -, run⟩ | ⟨err, -, -, run⟩ | ⟨-, err, run⟩ <;>
        · rw [run]
          exact ⟨fun _ => rfl, fun _ => rfl⟩
    refine ⟨fun id => (apart.answered id).trans_le (inv id), fun i => ?_⟩
    unfold Component.owed
    split
    · exact apart
    · trivial

end

/-! ## Requests and stages -/

/-- The services that answer the requests. -/
theorem serviceRequests_service : ∀ t ∈ serviceRequests,
    ∃ s ∈ [paymentService, inventoryService, fraudService, shippingService, notificationService],
      ∀ t' ∈ t.effects, t'.producer = s.consumerName := by
  intro t request
  simp only [serviceRequests, List.mem_cons, List.not_mem_nil, or_false] at request
  rcases request with rfl | rfl | rfl | rfl | rfl | rfl
  · exact ⟨paymentService, by simp, by decide⟩
  · exact ⟨paymentService, by simp, by decide⟩
  · exact ⟨inventoryService, by simp, by decide⟩
  · exact ⟨fraudService, by simp, by decide⟩
  · exact ⟨shippingService, by simp, by decide⟩
  · exact ⟨notificationService, by simp, by decide⟩

/-- An answer answers one kind of request. -/
theorem EventType.request_unique {t request : EventType} (h : request ∈ serviceRequests) (ht : t ∈ request.effects)
    {cause : EventType} (hc : t ∈ cause.effects) : cause = request := by
  simp only [serviceRequests, List.mem_cons, List.not_mem_nil, or_false] at h
  cases cause
  case other name => cases hc
  all_goals
    revert t
    rcases h with rfl | rfl | rfl | rfl | rfl | rfl <;> decide

theorem serviceRequests_own : ∀ t ∈ serviceRequests, t.producer = SagaOrchestrator.consumerName ∧ t ≠ .orderCreated := by
  decide

/-- An event is published by the orchestrator, or it answers a request. -/
theorem EventType.effect_kind {cause t : EventType} (h : t ∈ cause.effects) :
    t.producer = SagaOrchestrator.consumerName ∨ cause ∈ serviceRequests := by
  revert h
  cases cause
  case other name => exact fun h => nomatch h
  all_goals
    revert t
    decide

/-- The published events of the type about the order are all the same one. -/
theorem Protocol.same_event {w : World} (inv : Protocol w) {orderId : String} {t : EventType}
    (once : timesEmitted orderId t w.journal ≤ 1) {e e' : EventEnvelope} (published : PublishedIn w.journal e)
    (published' : PublishedIn w.journal e') (type : e.eventType = t) (type' : e'.eventType = t) (about : e.aggregateId = orderId)
    (about' : e'.aggregateId = orderId) : e = e' := by
  obtain ⟨m, acked, sent, value⟩ := published
  obtain ⟨m', acked', sent', value'⟩ := published'
  have emitted : Entry.sent m acked ∈ w.journal.filter (Entry.isEmission orderId t) :=
    List.mem_filter.mpr ⟨sent, decide_eq_true ⟨(inv.keys m acked e sent value).trans about, e, value, type, about⟩⟩
  have emitted' : Entry.sent m' acked' ∈ w.journal.filter (Entry.isEmission orderId t) :=
    List.mem_filter.mpr ⟨sent', decide_eq_true ⟨(inv.keys m' acked' e' sent' value').trans about', e', value', type', about'⟩⟩
  rw [timesEmitted, List.countP_eq_length_filter] at once
  cases emissions : w.journal.filter (Entry.isEmission orderId t) with
  | nil =>
    rw [emissions] at emitted
    cases emitted
  | cons only others =>
    cases others with
    | nil =>
      rw [emissions, List.mem_singleton] at emitted emitted'
      cases emitted.trans emitted'.symm
      cases value.symm.trans value'
      rfl
    | cons other others =>
      rw [emissions] at once
      simp only [List.length_cons] at once
      omega

/-- How often a request about the order was answered, one way or another. -/
def timesReplied (orderId : String) (request : EventType) (journal : List Entry) : Nat :=
  journal.countP fun entry => request.effects.any fun t => Entry.isEmission orderId t entry

theorem timesEmitted_le_replied (orderId : String) {t request : EventType} (h : t ∈ request.effects) (journal : List Entry) :
    timesEmitted orderId t journal ≤ timesReplied orderId request journal :=
  List.countP_mono_left fun _ _ emitted => List.any_eq_true.mpr ⟨t, h, emitted⟩

/-- The request that an answer was given to. -/
theorem Protocol.request {w : World} (inv : Protocol w) {request : EventType} (requested : request ∈ serviceRequests)
    {e : EventEnvelope} (published : PublishedIn w.journal e) (answers : e.eventType ∈ request.effects) :
    ∃ cause, PublishedIn w.journal cause ∧ cause.eventType = request ∧ cause.aggregateId = e.aggregateId ∧
      e.causationId = cause.eventId ∧ e.producer = e.eventType.producer := by
  obtain ⟨m, acked, sent, value⟩ := published
  obtain ⟨newer, earlier, journal⟩ := List.append_of_mem sent
  cases inv.events newer m acked earlier e journal value with
  | created eventType =>
    rw [eventType] at answers
    have created : ∀ t ∈ serviceRequests, EventType.orderCreated ∉ t.effects := by decide
    exact absurd answers (created request requested)
  | caused cause published causes effect producer refunded =>
    obtain ⟨m', acked', sent', value'⟩ := published
    have further : .sent m' acked' ∈ w.journal := by
      rw [journal]
      exact List.mem_append_right _ (List.mem_cons_of_mem _ sent')
    exact ⟨cause, ⟨m', acked', further, value'⟩, EventType.request_unique requested answers effect, causes.aggregateId,
      causes.causationId, producer⟩

theorem OneOfEach.orchestrator {ι : Type} {components : ι → Component} (one : OneOfEach components) :
    ∀ i j, components i = .saga → components j = .saga → i = j :=
  fun i j hi hj => one i j (hi.trans hj.symm) (by rw [hi]; nofun)

section
variable {ι : Type} [DecidableEq ι] {components : ι → Component} {p : Pool JsError World Answer ι Work Unit}
  (one : OneOfEach components) (h : Reachable (orderly components).system p)
include one h

/-- The answers to a request are answers to one event. -/
theorem reachable_replied (orderId : String) {request : EventType} (requested : request ∈ serviceRequests) :
    timesReplied orderId request p.shared.journal ≤ 1 := by
  have closed := supervised_reachable h
  have inv := reachable_protocol closed
  obtain ⟨own, later⟩ := serviceRequests_own request requested
  have once : timesEmitted orderId request p.shared.journal ≤ 1 :=
    (reachable_sentBy one.orchestrator closed orderId request own later).trans
      (List.nodup_iff_count_le_one.mp (sentBy_nodup _) request)
  -- what an entry that counts tells
  have told : ∀ entry ∈ p.shared.journal, (request.effects.any fun t => Entry.isEmission orderId t entry) = true →
      ∃ m acked e, entry = .sent m acked ∧ m.value = .event e ∧ e.eventType ∈ request.effects ∧ e.aggregateId = orderId := by
    intro entry _ counts
    obtain ⟨t, answers, emitted⟩ := List.any_eq_true.mp counts
    cases entry with
    | saved row => cases emitted
    | sent m acked =>
      obtain ⟨-, e, value, rfl, about⟩ : m.Carries t orderId := of_decide_eq_true emitted
      exact ⟨m, acked, e, rfl, value, answers, about⟩
  by_cases unanswered : timesReplied orderId request p.shared.journal = 0
  · omega
  · obtain ⟨entry, stored, counts⟩ := List.countP_pos_iff.mp (Nat.pos_of_ne_zero unanswered)
    obtain ⟨m, acked, e, rfl, value, answers, about⟩ := told entry stored counts
    obtain ⟨cause, published, type, about', -, -⟩ := inv.request requested ⟨m, acked, stored, value⟩ answers
    obtain ⟨s, service, producers⟩ := serviceRequests_service request requested
    calc timesReplied orderId request p.shared.journal
        ≤ timesAnswered s.consumerName cause.eventId p.shared.journal := by
          refine List.countP_mono_left fun entry stored counts => ?_
          obtain ⟨m', acked', e', rfl, value', answers', order⟩ := told entry stored counts
          obtain ⟨cause', published', type', about'', causationId, producer⟩ :=
            inv.request requested ⟨m', acked', stored, value'⟩ answers'
          have same := inv.same_event once published published' type type' (about'.trans about) (about''.trans order)
          have named : e'.producer = s.consumerName := producer.trans (producers _ answers')
          simp [Entry.isAnswer, value', named, causationId, same]
      _ ≤ 1 := reachable_answered one service h cause.eventId

theorem reachable_once (orderId : String) {t : EventType} (later : t ≠ .orderCreated) :
    timesEmitted orderId t p.shared.journal ≤ 1 := by
  have closed := supervised_reachable h
  by_cases unpublished : timesEmitted orderId t p.shared.journal = 0
  · omega
  · obtain ⟨entry, stored, emitted⟩ := List.countP_pos_iff.mp (Nat.pos_of_ne_zero unpublished)
    cases entry with
    | saved row => cases emitted
    | sent m acked =>
      obtain ⟨-, e, value, rfl, about⟩ : m.Carries t orderId := of_decide_eq_true emitted
      obtain ⟨newer, earlier, journal⟩ := List.append_of_mem stored
      cases (reachable_protocol closed).events newer m acked earlier e journal value with
      | created eventType => exact absurd eventType later
      | caused cause published causes effect producer refunded =>
        rcases EventType.effect_kind effect with own | requested
        · exact (reachable_sentBy one.orchestrator closed orderId _ own later).trans
            (List.nodup_iff_count_le_one.mp (sentBy_nodup _) _)
        · exact (timesEmitted_le_replied orderId effect _).trans (reachable_replied one h orderId requested)

end

/-- A request of an order is answered once at most: by one event, of one of the kinds that answer it. -/
theorem requests_answered_once {ι : Type} [DecidableEq ι] (components : ι → Component) (one : OneOfEach components)
    (p : Pool JsError World Answer ι Work Unit) (h : Reachable (orderly components).system p) (orderId : String)
    (request : EventType) (requested : request ∈ serviceRequests) : timesReplied orderId request p.shared.journal ≤ 1 :=
  reachable_replied one h orderId requested

theorem fourComponents_each : OneOfEach fourComponents := by
  intro i j same _
  match i, j with
  | 0, 0 | 1, 1 | 2, 2 | 3, 3 => rfl
  | 0, 1 | 0, 2 | 0, 3 | 1, 0 | 1, 2 | 1, 3 | 2, 0 | 2, 1 | 2, 3 | 3, 0 | 3, 1 | 3, 2 => cases same

/-- Nothing fails in an orderly system that everything goes well in. -/
theorem obliging_orderly {ι : Type} (components : ι → Component) :
    Obliging (fun i (_ : Worker JsError Answer Work Unit) c o w => (components i).isService = true → Clear c o w)
      fun i w => (components i).isService = true → w.rest.Finished := by
  refine ⟨?_, fun _ _ finished _ => finished⟩
  rintro i worker c o w fitting -
  cases c with
  | send m =>
    rintro err rfl
    cases fitting.1
  | markEventProcessed eventId name => exact fitting
  | _ => trivial

theorem requests_answered_once_cancelled :
    timesReplied aliceCreates.orderId .inventoryReservationRequested cancelledOrder.journal ≤ 1 :=
  requests_answered_once fourComponents fourComponents_each _ (cancelledOrder_reachable (obliging_orderly _)) _ _ (by decide)

/-- Apart from its creation, which the outbox may publish again, no event of an order is published twice; and whatever
event of it is published, each stage before that was published exactly once. -/
theorem stages_exactly_once {ι : Type} [DecidableEq ι] (components : ι → Component) (one : OneOfEach components)
    (p : Pool JsError World Answer ι Work Unit) (h : Reachable (orderly components).system p) (orderId : String)
    (t : EventType) (later : t ≠ .orderCreated) :
    timesEmitted orderId t p.shared.journal ≤ 1 ∧
    ∀ e, PublishedIn p.shared.journal e → e.aggregateId = orderId → t ∈ e.eventType.stages →
      timesEmitted orderId t p.shared.journal = 1 := by
  have once := reachable_once one h orderId later
  refine ⟨once, fun e published about stage => Nat.le_antisymm once ?_⟩
  have inv := reachable_protocol (supervised_reachable h)
  exact inv.emitted_of_announced (inv.announced_stage ⟨e, published, rfl, about⟩ stage)

theorem stages_exactly_once_cancelled :
    timesEmitted aliceCreates.orderId .paymentAuthorized cancelledOrder.journal = 1 := by
  obtain ⟨newer, m, acked, earlier, e, journal, value, type, about⟩ := cancelledOrder_published
  exact (stages_exactly_once fourComponents fourComponents_each _ (cancelledOrder_reachable (obliging_orderly _)) _
    .paymentAuthorized nofun).2 e ⟨m, acked, by simp [journal], value⟩ about (by rw [type]; decide)

end Fulfillment
