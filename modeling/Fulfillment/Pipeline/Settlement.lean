import Fulfillment.Pipeline.ExactlyOnce

/-!
# How orders are settled

In an orderly system a completed order was paid for, reserved and shipped
once, a failed one cost nothing, and a cancelled one got everything back.
-/

namespace Fulfillment

open Js Relational Effects

variable {orderId : String} {t t' : EventType}

theorem announced_of_emitted {journal : List Entry} (h : timesEmitted orderId t journal ≠ 0) : Announced journal t orderId := by
  obtain ⟨entry, logged, emitted⟩ := List.countP_pos_iff.mp (Nat.pos_of_ne_zero h)
  cases entry with
  | saved row => cases emitted
  | sent m acked =>
    obtain ⟨-, e, value, type, about⟩ : m.Carries t orderId := of_decide_eq_true emitted
    exact ⟨e, ⟨m, acked, logged, value⟩, type, about⟩

/-- Answers of two kinds are two answers. -/
theorem timesEmitted_add_le_replied (orderId : String) {request : EventType} (ht : t ∈ request.effects) (ht' : t' ∈ request.effects) (other : t ≠ t')
    (journal : List Entry) :
    timesEmitted orderId t journal + timesEmitted orderId t' journal ≤ timesReplied orderId request journal := by
  induction journal with
  | nil => exact Nat.le_refl 0
  | cons entry journal ih =>
    have replied : ∀ u ∈ request.effects, Entry.isEmission orderId u entry = true →
        (request.effects.any fun t => Entry.isEmission orderId t entry) = true :=
      fun u hu emitted => List.any_eq_true.mpr ⟨u, hu, emitted⟩
    have apart : Entry.isEmission orderId t entry = true → Entry.isEmission orderId t' entry = false := by
      intro emitted
      cases entry with
      | saved row => cases emitted
      | sent m acked => exact decide_eq_false fun carries => other ((carries_iff (of_decide_eq_true emitted)).mp carries)
    simp only [timesEmitted, timesReplied, List.countP_cons] at ih ⊢
    cases first : Entry.isEmission orderId t entry with
    | true =>
      simp only [replied t ht first, apart first, if_true, Bool.false_eq_true, if_false]
      omega
    | false =>
      cases second : Entry.isEmission orderId t' entry with
      | true =>
        simp only [replied t' ht' second, if_true, Bool.false_eq_true, if_false]
        omega
      | false =>
        simp only [Bool.false_eq_true, if_false]
        omega

section
variable {ι : Type} [DecidableEq ι] {components : ι → Component} {p : Pool JsError World Answer ι Work Unit}
  (one : OneOfEach components) (h : Reachable (orderly components).system p)
include one h

theorem announced_once (announced : Announced p.shared.journal t orderId) (later : t ≠ .orderCreated) :
    timesEmitted orderId t p.shared.journal = 1 :=
  Nat.le_antisymm (reachable_once one h orderId later)
    ((reachable_protocol (supervised_reachable h)).emitted_of_announced announced)

/-- A request that was answered one way is not answered another way. -/
theorem answers_exclude (request : EventType) (requested : request ∈ serviceRequests) (ht : t ∈ request.effects) (ht' : t' ∈ request.effects)
    (other : t ≠ t') (announced : Announced p.shared.journal t orderId) : ¬Announced p.shared.journal t' orderId := by
  intro announced'
  have inv := reachable_protocol (supervised_reachable h)
  have first := inv.emitted_of_announced announced
  have second := inv.emitted_of_announced announced'
  have both := timesEmitted_add_le_replied orderId ht ht' other p.shared.journal
  have once := reachable_replied one h orderId requested
  omega

end

/-- How the ends of an order are settled: a completed order was paid for, reserved and shipped exactly once and got
nothing back; a failed order was charged nothing; a cancelled order was charged once and refunded once, what was
reserved for it was released, and nothing was shipped. -/
theorem orders_settled {ι : Type} [DecidableEq ι] (components : ι → Component) (one : OneOfEach components)
    (p : Pool JsError World Answer ι Work Unit) (h : Reachable (orderly components).system p) (orderId : String)
    (s : SagaRow) (found : stored orderId p.shared = some s) :
    (s.state = .completed →
      timesEmitted orderId .paymentAuthorized p.shared.journal = 1 ∧
      timesEmitted orderId .inventoryReserved p.shared.journal = 1 ∧
      timesEmitted orderId .shipmentCreated p.shared.journal = 1 ∧
      timesEmitted orderId .paymentRefunded p.shared.journal = 0 ∧
      timesEmitted orderId .inventoryReleased p.shared.journal = 0) ∧
    (s.state = .failed →
      timesEmitted orderId .paymentAuthorized p.shared.journal = 0 ∧
      timesEmitted orderId .inventoryReserved p.shared.journal = 0 ∧
      timesEmitted orderId .shipmentCreated p.shared.journal = 0) ∧
    (s.state = .cancelled →
      timesEmitted orderId .paymentAuthorized p.shared.journal = 1 ∧
      timesEmitted orderId .paymentRefunded p.shared.journal = 1 ∧
      timesEmitted orderId .inventoryReleased p.shared.journal =
        timesEmitted orderId .inventoryReserved p.shared.journal ∧
      timesEmitted orderId .shipmentCreated p.shared.journal = 0) := by
  have closed := supervised_reachable h
  have inv := reachable_protocol closed
  have evidenced := inv.sagas s (List.mem_of_find?_eq_some found)
  rw [← stored_about found]
  have once : ∀ {t}, t ≠ .orderCreated → Announced p.shared.journal t s.aggregateId →
      timesEmitted s.aggregateId t p.shared.journal = 1 := fun later announced => announced_once one h announced later
  have never : ∀ {t}, ¬Announced p.shared.journal t s.aggregateId → timesEmitted s.aggregateId t p.shared.journal = 0 :=
    fun unannounced => by_contra fun emitted => unannounced (announced_of_emitted emitted)
  have sent := reachable_sentBy one.orchestrator closed s.aggregateId
  rw [stored_about found, found, ← stored_about found, Option.map_some] at sent
  refine ⟨fun completed => ?_, fun failed => ?_, fun cancelled => ?_⟩
  · have shipped : Announced p.shared.journal .shipmentCreated s.aggregateId := evidenced.entered _ (by rw [completed]; rfl)
    rw [completed] at sent
    have released := sent .inventoryReleased rfl nofun
    have requested := sent .paymentRefundRequested rfl nofun
    refine ⟨once (by decide) (inv.announced_stage shipped (by decide)), once (by decide) (inv.announced_stage shipped (by decide)),
      once (by decide) shipped, never fun refunded => ?_, Nat.le_zero.mp released⟩
    have asked := inv.emitted_of_announced (inv.announced_stage refunded (List.mem_append_right authorizedStages (List.mem_singleton.mpr rfl)))
    exact absurd (Nat.lt_of_lt_of_le asked requested) (by decide)
  · have rejected : Announced p.shared.journal .paymentRejected s.aggregateId := evidenced.entered _ (by rw [failed]; rfl)
    have unpaid : ¬Announced p.shared.journal .paymentAuthorized s.aggregateId :=
      answers_exclude one h .paymentRequested (by decide) (by decide) (by decide) (by decide) rejected
    exact ⟨never unpaid, never fun reserved => unpaid (inv.announced_stage reserved (by decide)),
      never fun shipped => unpaid (inv.announced_stage shipped (by decide))⟩
  · have refunded := evidenced.refunded cancelled
    have paid : Announced p.shared.journal .paymentAuthorized s.aggregateId := inv.announced_stage refunded (by decide)
    suffices settled : (Announced p.shared.journal .inventoryReleased s.aggregateId ↔
        Announced p.shared.journal .inventoryReserved s.aggregateId) ∧
        ¬Announced p.shared.journal .shipmentCreated s.aggregateId by
      refine ⟨once (by decide) paid, once (by decide) refunded, ?_, never settled.2⟩
      by_cases reserved : Announced p.shared.journal .inventoryReserved s.aggregateId
      · rw [once (by decide) reserved, once (by decide) (settled.1.mpr reserved)]
      · rw [never reserved, never (mt settled.1.mp reserved)]
    obtain ⟨t, announced, refund, reason⟩ := evidenced.pending (.inr cancelled)
    rcases reason with rfl | ⟨failure, release⟩
    · have unreserved : ¬Announced p.shared.journal .inventoryReserved s.aggregateId :=
        answers_exclude one h .inventoryReservationRequested (by decide) (by decide) (by decide) (by decide) announced
      exact ⟨⟨fun released => inv.announced_stage released (by decide), fun reserved => absurd reserved unreserved⟩,
        fun shipped => unreserved (inv.announced_stage shipped (by decide))⟩
    · have released := evidenced.completed _ (evidenced.cancelled cancelled _ release) .inventoryReleased rfl
      refine ⟨⟨fun _ => inv.announced_stage released (by decide), fun _ => released⟩, fun shipped => ?_⟩
      rcases failure with rfl | rfl
      · have cleared : Announced p.shared.journal .fraudApproved s.aggregateId := inv.announced_stage shipped (by decide)
        exact answers_exclude one h .fraudCheckRequested (by decide) (by decide) (by decide) (by decide) announced cleared
      · exact answers_exclude one h .shipmentRequested (by decide) (by decide) (by decide) (by decide) announced shipped

theorem orders_settled_cancelled :
    timesEmitted aliceCreates.orderId .paymentRefunded cancelledOrder.journal = 1 ∧
    timesEmitted aliceCreates.orderId .inventoryReleased cancelledOrder.journal =
      timesEmitted aliceCreates.orderId .inventoryReserved cancelledOrder.journal := by
  obtain ⟨s, found, cancelled⟩ := Option.map_eq_some_iff.mp cancelledOrder_stored
  obtain ⟨-, -, settled⟩ := orders_settled fourComponents fourComponents_each _
    (cancelledOrder_reachable (obliging_orderly _)) aliceCreates.orderId s found
  exact ⟨(settled cancelled).2.1, (settled cancelled).2.2.1⟩

end Fulfillment
