import Fulfillment.Outbox.Polling
import Fulfillment.Pipeline.Provenance

/-!
# Relays that poll

The closed system has a slot for the batch of each relay. A deployment has the
relay itself there, with its timers and flags, which may be triggered, stopped,
started again or lost at any time. What it reaches, the closed system reaches.
-/

namespace Fulfillment

open Js Relational Effects

def Component.isRelay : Component → Bool
  | .outboxRelay _ => true
  | _ => false

/-- The batch that a relay begins. -/
def Component.newBatch (component : Component) : Worker JsError Answer Work Unit :=
  ⟨.sweep, component.perform .sweep, []⟩

abbrev Relay := Polling (Worker JsError Answer Work Unit)

abbrev Batches := List (Caller × Worker JsError Answer Work Unit)

structure Deployment (ι : Type) where
  world : World
  handlers : ι → Option (Worker JsError Answer Work Unit)
  relays : ι → Relay

section
variable {ι : Type} (components : ι → Component)
  (allowed : ι → Worker JsError Answer Work Unit → Call → Outcome JsError → World → Prop)
  (leaves : ι → Worker JsError Answer Work Unit → Prop)

/-- The pool in which the slot of a relay is that of its batch. -/
def Deployment.pool (p : Deployment ι) : Pool JsError World Answer ι Work Unit where
  shared := p.world
  workers i := if (components i).isRelay then (p.relays i).batches.head?.map Prod.snd else p.handlers i

variable [DecidableEq ι]

inductive DeploymentStep : Deployment ι → Deployment ι → Prop
  | others {p} (w : World) (handlers : ι → Option (Worker JsError Answer Work Unit))
      (step : PoolStep (supervised components allowed leaves) ⟨p.world, p.handlers⟩ ⟨w, handlers⟩)
      (relays : ∀ i, (components i).isRelay = true → handlers i = none) :
    DeploymentStep p ⟨w, handlers, p.relays⟩
  | control {p} (i : ι) (relay : (components i).isRelay = true) (a : Polling.Action) (q : Relay)
      (step : Polling.Step (components i).newBatch a (p.relays i) q) (outside : a ≠ .progress ∧ a ≠ .finish) :
    DeploymentStep p ⟨p.world, p.handlers, Function.update p.relays i q⟩
  | call {p} (i : ι) (relay : (components i).isRelay = true) (earlier later : Batches) (caller : Caller)
      (w : Worker JsError Answer Work Unit) (under : (p.relays i).batches = earlier ++ (caller, w) :: later) (c : Call)
      (k : Except JsError (Answer c) → Program Unit) (o : Outcome JsError) (next : w.rest = .call c k)
      (hallowed : allowed i w c o p.world) :
    DeploymentStep p ⟨((platform .none).exec c o p.world).2, p.handlers, Function.update p.relays i
      { p.relays i with
        batches := earlier ++ (caller, w.answered c k ((platform .none).exec c o p.world).1) :: later }⟩
  | finish {p} (i : ι) (relay : (components i).isRelay = true) (earlier later : Batches) (caller : Caller)
      (w : Worker JsError Answer Work Unit) (under : (p.relays i).batches = earlier ++ (caller, w) :: later)
      (finished : w.rest.Finished) :
    DeploymentStep p ⟨p.world, p.handlers, Function.update p.relays i
      ({ p.relays i with isProcessing := false, batches := earlier ++ later }.returned caller)⟩
  | crash {p} (i : ι) (relay : (components i).isRelay = true)
      (dies : ∀ caller w, (caller, w) ∈ (p.relays i).batches → leaves i w) :
    DeploymentStep p ⟨p.world, p.handlers, Function.update p.relays i .initial⟩

def deployed : System (Deployment ι) where
  init p := Unbegun p.world ∧ (∀ i, p.handlers i = none) ∧ ∀ i, p.relays i = .initial
  step := DeploymentStep components allowed leaves

end

section
variable {ι : Type} [DecidableEq ι] {components : ι → Component}
  {allowed : ι → Worker JsError Answer Work Unit → Call → Outcome JsError → World → Prop}
  {leaves : ι → Worker JsError Answer Work Unit → Prop} {p : Deployment ι}

/-- The relays poll, and the other slots of their components are free. -/
structure Deployment.Valid (components : ι → Component) (p : Deployment ι) : Prop where
  relays : ∀ i, (p.relays i).Valid
  handlers : ∀ i, (components i).isRelay = true → p.handlers i = none

theorem Deployment.Valid.relay {i : ι} {relay : Relay} (valid : p.Valid components) (hrelay : relay.Valid) (w : World) :
    Deployment.Valid components ⟨w, p.handlers, Function.update p.relays i relay⟩ := by
  refine ⟨fun j => ?_, valid.handlers⟩
  by_cases same : j = i
  · subst same
    simpa only [Function.update_self] using hrelay
  · simpa only [Function.update_of_ne same] using valid.relays j

theorem reachable_deployment (h : Reachable (deployed components allowed leaves) p) : p.Valid components := by
  refine h.invariant (Deployment.Valid components) ?_ ?_
  · rintro p ⟨-, handlers, relays⟩
    exact ⟨fun i => relays i ▸ Polling.initial_valid, fun i _ => handlers i⟩
  · rintro p q - valid (step : DeploymentStep components allowed leaves p q)
    cases step with
    | others w handlers step relays => exact ⟨valid.relays, relays⟩
    | control i relay a q step outside => exact valid.relay (Polling.step_valid (valid.relays i) step) _
    | call i relay earlier later caller w under c k o next hallowed =>
      exact valid.relay ((valid.relays i).progress under _) _
    | finish i relay earlier later caller w under finished =>
      exact valid.relay ((valid.relays i).finish under) _
    | crash i relay dies => exact valid.relay Polling.initial_valid _

theorem pool_update {i : ι} (relay : (components i).isRelay = true) (w : World) (q : Relay) :
    Deployment.pool components ⟨w, p.handlers, Function.update p.relays i q⟩ =
      ⟨w, Function.update (p.pool components).workers i (q.batches.head?.map Prod.snd)⟩ := by
  refine congrArg (Pool.mk w) (funext fun j => ?_)
  by_cases same : j = i
  · subst same
    simp only [relay, if_true, Function.update_self]
  · simp only [Deployment.pool, Function.update_of_ne same]

/-- A relay with the batch it had. -/
theorem pool_kept {i : ι} (relay : (components i).isRelay = true) {q : Relay} (same : q.batches = (p.relays i).batches) :
    Deployment.pool components ⟨p.world, p.handlers, Function.update p.relays i q⟩ = p.pool components := by
  have slot : (p.pool components).workers i = q.batches.head?.map Prod.snd := by
    rw [same]
    exact if_pos relay
  rw [pool_update relay, ← slot, Function.update_eq_self]
  rfl

theorem pool_handlers {i : ι} (other : ¬ (components i).isRelay = true) (w : World)
    (x : Option (Worker JsError Answer Work Unit)) :
    Deployment.pool components ⟨w, Function.update p.handlers i x, p.relays⟩ =
      ⟨w, Function.update (p.pool components).workers i x⟩ := by
  refine congrArg (Pool.mk w) (funext fun j => ?_)
  by_cases same : j = i
  · subst same
    simp only [other, Bool.false_eq_true, if_false, Function.update_self]
  · simp only [Deployment.pool, Function.update_of_ne same]

/-- What the other components do, they do in the pool. -/
theorem pool_others (valid : p.Valid components) {w : World} {handlers : ι → Option (Worker JsError Answer Work Unit)}
    (step : PoolStep (supervised components allowed leaves) ⟨p.world, p.handlers⟩ ⟨w, handlers⟩)
    (relays : ∀ i, (components i).isRelay = true → handlers i = none) :
    PoolStep (supervised components allowed leaves) (p.pool components)
      (Deployment.pool components ⟨w, handlers, p.relays⟩) := by
  have taken : ∀ {i : ι} {v : Worker JsError Answer Work Unit}, p.handlers i = some v → ¬ (components i).isRelay = true := by
    intro i v busy relay
    rw [valid.handlers i relay] at busy
    cases busy
  have slot : ∀ {i : ι}, ¬ (components i).isRelay = true → (p.pool components).workers i = p.handlers i := fun other => if_neg other
  cases step with
  | start i job free startable =>
    have other : ¬ (components i).isRelay = true := by
      intro relay
      have none := relays i relay
      rw [Function.update_self] at none
      cases none
    rw [pool_handlers other]
    exact .start i job ((slot other).trans free) startable
  | call i v c k o busy next hallowed =>
    have other := taken busy
    rw [pool_handlers other]
    exact .call i v c k o ((slot other).trans busy) next hallowed
  | leave i v busy hleaves =>
    have other := taken busy
    rw [pool_handlers other]
    exact .leave i v ((slot other).trans busy) hleaves
  | environment _ moves => exact .environment _ moves

/-- Relays that poll refine the slots of the closed system, if who is finished may leave: however timers, triggers,
starts, stops and crashes fall, what a deployment reaches is reached by batches that follow each other. -/
theorem polled_relays_refine {ι : Type} [DecidableEq ι] (components : ι → Component)
    (allowed : ι → Worker JsError Answer Work Unit → Call → Outcome JsError → World → Prop)
    (leaves : ι → Worker JsError Answer Work Unit → Prop) (finished : ∀ i w, w.rest.Finished → leaves i w)
    (p : Deployment ι) (h : Reachable (deployed components allowed leaves) p) :
    Reachable (supervised components allowed leaves).system (p.pool components) := by
  refine h.map (N := (supervised components allowed leaves).system) (Deployment.pool components) ?_ ?_
  · rintro p ⟨unbegun, handlers, relays⟩
    refine ⟨unbegun, fun i => ?_⟩
    simp only [Deployment.pool, handlers i, relays i, Polling.initial, List.head?_nil, Option.map_none, ite_self]
  · intro p q reachable (step : DeploymentStep components allowed leaves p q)
    have valid := reachable_deployment reachable
    have slot : ∀ {i : ι}, (components i).isRelay = true →
        (p.pool components).workers i = (p.relays i).batches.head?.map Prod.snd := fun relay => if_pos relay
    cases step with
    | others w handlers step relays => exact .inr (pool_others valid step relays)
    | control i relay a q step outside =>
      rcases Polling.control_batches (valid.relays i) step outside with same | ⟨idle, caller, begun⟩
      · exact .inl (pool_kept relay same)
      · right
        rw [pool_update relay, begun]
        have free : (p.pool components).workers i = none := by rw [slot relay, idle, List.head?_nil, Option.map_none]
        exact PoolStep.start (M := supervised components allowed leaves) i .sweep free trivial
    | call i relay earlier later caller w under c k o next hallowed =>
      obtain ⟨rfl, rfl⟩ := Polling.batch_alone (valid.relays i) under
      right
      rw [pool_update relay]
      have busy : (p.pool components).workers i = some w := by
        rw [slot relay, under, List.nil_append, List.head?_cons, Option.map_some]
      exact PoolStep.call i w c k o busy next hallowed
    | finish i relay earlier later caller w under done =>
      obtain ⟨rfl, rfl⟩ := Polling.batch_alone (valid.relays i) under
      right
      have busy : (p.pool components).workers i = some w := by
        rw [slot relay, under, List.nil_append, List.head?_cons, Option.map_some]
      rw [pool_update relay]
      cases caller with
      | schedulePoll => exact PoolStep.leave i w busy (finished i w done)
      | trigger => exact PoolStep.leave i w busy (finished i w done)
    | crash i relay dies =>
      cases under : (p.relays i).batches with
      | nil => exact .inl (pool_kept relay under.symm)
      | cons batch later =>
        right
        have busy : (p.pool components).workers i = some batch.2 := by
          rw [slot relay, under, List.head?_cons, Option.map_some]
        rw [pool_update relay]
        exact PoolStep.leave i batch.2 busy (dies batch.1 batch.2 (under ▸ List.mem_cons_self))

/-- A relay that is started, and whose timer goes off while a batch runs that was triggered. -/
theorem polled_relays_refine_triggered :
    ∃ p : Deployment (Fin 4), Reachable (deployed fourComponents (fun _ _ _ _ _ => True) fun _ _ => True) p ∧
      (p.relays 0).isProcessing = true ∧ (p.relays 0).batches ≠ [] ∧
      Reachable (supervised fourComponents (fun _ _ _ _ _ => True) fun _ _ => True).system (p.pool fourComponents) := by
  have reached : Reachable (deployed fourComponents (fun _ _ _ _ _ => True) fun _ _ => True)
      ⟨World.empty, fun _ => none, fun _ => .initial⟩ := .start ⟨⟨⟨rfl, rfl⟩, rfl⟩, fun _ => rfl, fun _ => rfl⟩
  have started := reached.next (.control 0 rfl .start _ (.start _) (by decide))
  have connected := started.next (.control 0 rfl .connected _ (.connected _ (by decide)) (by decide))
  have triggered := connected.next (.control 0 rfl .trigger _ (.trigger _) (by decide))
  have fired := triggered.next (.control 0 rfl .fire _ (.fire _ 0 List.mem_cons_self) (by decide))
  exact ⟨_, fired, rfl, List.cons_ne_nil _ _,
    polled_relays_refine fourComponents _ _ (fun _ _ _ => trivial) _ fired⟩

end

end Fulfillment
