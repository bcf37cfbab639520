import Fulfillment.Projection.Appends

/-!
# The numbers of an aggregate have no gaps

Whoever holds the lock of an aggregate is the only one to add to its rows, so
the number it takes is one more than there are rows, also at its commit.
-/

namespace Fulfillment

open Js Effects

/-! ## Counting down -/

def countdown (n : Nat) : List Nat := (List.range' 1 n).reverse

theorem countdown_succ (n : Nat) : countdown (n + 1) = (n + 1) :: countdown n := by
  rw [countdown, List.range'_concat, List.reverse_append, countdown, Nat.one_mul, Nat.add_comm 1 n]
  rfl

theorem mem_countdown {n k : Nat} : k ∈ countdown n ↔ 1 ≤ k ∧ k ≤ n := by
  rw [countdown, List.mem_reverse, List.mem_range'_1]
  omega

theorem foldl_max_countdown (n : Nat) : (countdown n).foldl max 0 = n := by
  have from_top : ∀ n a, n ≤ a → (countdown n).foldl max a = a := by
    intro n
    induction n with
    | zero =>
      intro a _
      rfl
    | succ n ih =>
      intro a hle
      rw [countdown_succ, List.foldl_cons, max_eq_left hle]
      exact ih a (by omega)
  cases n with
  | zero => rfl
  | succ n =>
    rw [countdown_succ, List.foldl_cons, max_eq_right (Nat.zero_le _)]
    exact from_top n (n + 1) (Nat.le_succ n)

/-! ## The invariant -/

variable {ι κ : Type} {pg : Postgres} {hashtext : String → κ}

/-- The committed rows, counted within each aggregate. -/
structure Numbered (p : AppendServer ι) : Prop where
  numbers : ∀ a, (p.ofAggregate a).map (fun c => c.2.sequenceNumber) = countdown (p.ofAggregate a).length
  ordered : ∀ a, ((p.ofAggregate a).map Prod.fst).Pairwise (· > ·)
  past : ∀ c ∈ p.committed, c.1 < p.tickets
  ids : (p.rows.map StoredEvent.eventId).Nodup

/-- A session among the committed rows. -/
structure Standing (p : AppendServer ι) (s : AppendSession) : Prop where
  unnumbered : sequenceParam s.event.sequenceNumber = none
  issued : ∀ ticket, s.ticket = some ticket →
    ticket < p.tickets ∧ ∀ c ∈ p.ofAggregate s.event.aggregateId, c.1 < ticket
  own : ∀ row, s.own = some row → row.eventId = s.event.eventId ∧ row.eventId ∉ p.rows.map StoredEvent.eventId ∧
    row.aggregateId = s.event.aggregateId ∧ row.sequenceNumber = (p.ofAggregate s.event.aggregateId).length + 1

/-- Two sessions that do not get in each other's way. -/
structure Apart (hashtext : String → κ) (s t : AppendSession) : Prop where
  locks : s.ticket ≠ none → t.ticket ≠ none → hashtext s.event.aggregateId ≠ hashtext t.event.aggregateId
  ids : ∀ row row', s.own = some row → t.own = some row' → row.eventId ≠ row'.eventId

structure GapFree (hashtext : String → κ) (p : AppendServer ι) : Prop where
  numbered : Numbered p
  standing : ∀ i s, p.sessions i = some s → Standing p s
  apart : ∀ i j s t, i ≠ j → p.sessions i = some s → p.sessions j = some t → Apart hashtext s t
  unbroken : p.violations = 0

theorem Apart.symm {s t : AppendSession} (h : Apart hashtext s t) : Apart hashtext t s :=
  ⟨fun ht hs => (h.locks hs ht).symm, fun row row' hrow hrow' => (h.ids row' row hrow' hrow).symm⟩

theorem Apart.of_unwritten {e : EventEnvelope} {stage : AppendStage} {t : AppendSession}
    (locks : (⟨e, stage⟩ : AppendSession).ticket ≠ none → t.ticket ≠ none →
      hashtext e.aggregateId ≠ hashtext t.event.aggregateId)
    (unwritten : (⟨e, stage⟩ : AppendSession).own = none := by rfl) : Apart hashtext ⟨e, stage⟩ t := by
  refine ⟨locks, ?_⟩
  intro row row' hrow
  rw [unwritten] at hrow
  cases hrow

theorem Standing.waiting {p : AppendServer ι} {e : EventEnvelope} (unnumbered : sequenceParam e.sequenceNumber = none) :
    Standing p ⟨e, .waiting⟩ := by
  refine ⟨unnumbered, ?_, ?_⟩
  · intro ticket ht
    cases ht
  · intro row hrow
    cases hrow

theorem Standing.locked {p : AppendServer ι} {e : EventEnvelope} (unnumbered : sequenceParam e.sequenceNumber = none)
    {ticket : Nat} (taken : ticket < p.tickets) (after : ∀ c ∈ p.ofAggregate e.aggregateId, c.1 < ticket) :
    Standing p ⟨e, .locked ticket⟩ := by
  refine ⟨unnumbered, ?_, ?_⟩
  · intro ticket' ht
    cases ht
    exact ⟨taken, after⟩
  · intro row hrow
    cases hrow

theorem ticket_of_own {s : AppendSession} {row : StoredEvent} (h : s.own = some row) : s.ticket ≠ none := by
  obtain ⟨e, stage⟩ := s
  cases stage with
  | inserted ticket own => exact Option.some_ne_none ticket
  | _ => cases h

theorem rows_ofAggregate (p : AppendServer ι) (a : String) :
    p.rows.filter (fun e => e.aggregateId = a) = (p.ofAggregate a).map Prod.snd := by
  rw [AppendServer.rows, AppendServer.ofAggregate, List.filter_map]
  rfl

/-- The next number is one more than there are rows. -/
theorem Numbered.numberAfter {p : AppendServer ι} (h : Numbered p) (a : String) :
    numberAfter a p.rows = (p.ofAggregate a).length + 1 := by
  rw [Fulfillment.numberAfter, rows_ofAggregate, List.map_map]
  have numbers := h.numbers a
  change ((p.ofAggregate a).map fun c => c.2.sequenceNumber).foldl max 0 + 1 = _
  rw [numbers, foldl_max_countdown]

/-- So the `INSERT` never meets its own position. -/
theorem Numbered.free {p : AppendServer ι} (h : Numbered p) (a : String) :
    (a, (p.ofAggregate a).length + 1) ∉ p.rows.map StoredEvent.position := by
  intro taken
  obtain ⟨row, hrow, hposition⟩ := List.mem_map.mp taken
  obtain ⟨c, hc, rfl⟩ := List.mem_map.mp hrow
  have own : c.2.aggregateId = a := congrArg Prod.fst hposition
  have number : c.2.sequenceNumber = (p.ofAggregate a).length + 1 := congrArg Prod.snd hposition
  have mem : c.2.sequenceNumber ∈ (p.ofAggregate a).map (fun c => c.2.sequenceNumber) :=
    List.mem_map_of_mem (List.mem_filter.mpr ⟨hc, decide_eq_true own⟩)
  rw [h.numbers a, mem_countdown] at mem
  omega

variable [DecidableEq ι]

/-! ## The steps -/

/-- A session is replaced, and a ticket may be handed out. -/
theorem GapFree.replace {p : AppendServer ι} (h : GapFree hashtext p) (i : ι) {x : Option AppendSession} {tickets : Nat}
    (later : p.tickets ≤ tickets)
    (standing : ∀ s, x = some s → Standing { p with tickets := tickets } s)
    (apart : ∀ s, x = some s → ∀ j t, j ≠ i → p.sessions j = some t → Apart hashtext s t) :
    GapFree hashtext { p with sessions := Function.update p.sessions i x, tickets := tickets } := by
  constructor
  · exact ⟨h.numbered.numbers, h.numbered.ordered, fun c hc => (h.numbered.past c hc).trans_le later, h.numbered.ids⟩
  · intro j s hs
    have kept : Standing { p with tickets := tickets } s → Standing
        { p with sessions := Function.update p.sessions i x, tickets := tickets } s := fun k => ⟨k.unnumbered, k.issued, k.own⟩
    rcases update_eq_some hs with ⟨-, hx⟩ | ⟨-, hs⟩
    · exact kept (standing s hx)
    · obtain ⟨unnumbered, issued, own⟩ := h.standing j s hs
      exact kept ⟨unnumbered, fun ticket ht => ⟨(issued ticket ht).1.trans_le later, (issued ticket ht).2⟩, own⟩
  · intro j k s t hne hs ht
    rcases update_eq_some hs with ⟨hj, hx⟩ | ⟨hj, hs⟩
    · rcases update_eq_some ht with ⟨hk, -⟩ | ⟨hk, ht⟩
      · exact absurd (hj.trans hk.symm) hne
      · exact apart s hx k t hk ht
    · rcases update_eq_some ht with ⟨-, hx⟩ | ⟨-, ht⟩
      · exact (apart t hx j s hj hs).symm
      · exact h.apart j k s t hne hs ht
  · exact h.unbroken

/-- The row that an `INSERT` adds. -/
theorem insertEvent_added {e : EventEnvelope} {rows : List StoredEvent} {row : StoredEvent}
    (h : insertEvent pg e rows = .added row) :
    e.eventId ∉ rows.map StoredEvent.eventId ∧ ∃ time, row = e.stored (e.numberIn rows) time := by
  unfold insertEvent at h
  split at h
  · cases h
  · rename_i time _
    split at h
    · cases h
    · split at h
      · cases h
      · split at h
        · cases h
        · rename_i fresh _
          cases h
          exact ⟨fresh, time, rfl⟩

/-- The session after its `INSERT`, if it goes on. -/
theorem session_of_insertion {r : Insertion} {e : EventEnvelope} {ticket : Nat} {s : AppendSession}
    (h : r.session e ticket = some s) :
    s.event = e ∧ s.ticket = some ticket ∧ ∀ row, s.own = some row → r = .added row := by
  cases r with
  | added row =>
    cases h
    refine ⟨rfl, rfl, ?_⟩
    intro row' hrow
    exact congrArg Insertion.added (Option.some.inj hrow)
  | conflict =>
    cases h
    exact ⟨rfl, rfl, nofun⟩
  | violation | refused => cases h

theorem GapFree.insert {p : AppendServer ι} (h : GapFree hashtext p) {i : ι} {e : EventEnvelope} {ticket : Nat}
    (busy : p.sessions i = some ⟨e, .locked ticket⟩)
    (waits : ∀ j t row, j ≠ i → p.sessions j = some t → t.own = some row →
      row.eventId ≠ e.eventId ∧ row.position ≠ (e.aggregateId, e.numberIn p.rows)) :
    insertEvent pg e p.rows ≠ .violation ∧
    GapFree hashtext { p with sessions := Function.update p.sessions i ((insertEvent pg e p.rows).session e ticket) } := by
  have here := h.standing i _ busy
  have unnumbered : sequenceParam e.sequenceNumber = none := here.unnumbered
  have number : e.numberIn p.rows = (p.ofAggregate e.aggregateId).length + 1 := by
    rw [EventEnvelope.numberIn, unnumbered, Option.getD_none, h.numbered.numberAfter]
  constructor
  · intro violates
    have free := h.numbered.free e.aggregateId
    rw [← number] at free
    unfold insertEvent at violates
    split at violates
    · cases violates
    · simp only [free, if_false] at violates
      split at violates
      · cases violates
      · split at violates <;> cases violates
  · generalize hinsert : insertEvent pg e p.rows = r
    apply h.replace i (Nat.le_refl p.tickets)
    · intro s hs
      obtain ⟨rfl, hticket, hown⟩ := session_of_insertion hs
      refine ⟨unnumbered, fun t ht => here.issued t (hticket.symm.trans ht ▸ rfl), ?_⟩
      intro row hrow
      obtain ⟨fresh, time, rfl⟩ := insertEvent_added (hinsert.trans (hown row hrow))
      exact ⟨rfl, fresh, rfl, number⟩
    · intro s hs j t hj ht
      obtain ⟨rfl, hticket, hown⟩ := session_of_insertion hs
      have apart := h.apart i j _ t (Ne.symm hj) busy ht
      refine ⟨fun _ => apart.locks (Option.some_ne_none ticket), ?_⟩
      intro row row' hrow hrow'
      obtain ⟨-, time, rfl⟩ := insertEvent_added (hinsert.trans (hown row hrow))
      exact (waits j t row' hj ht hrow').1.symm

/-- The server after a session with the row `r` has committed. -/
def committing (p : AppendServer ι) (i : ι) (ticket : Nat) (r : StoredEvent) : AppendServer ι :=
  { p with
    committed := (ticket, r) :: p.committed
    sessions := Function.update p.sessions i none }

theorem ofAggregate_committing (p : AppendServer ι) (i : ι) (ticket : Nat) (r : StoredEvent) (a : String) :
    (committing p i ticket r).ofAggregate a =
      if r.aggregateId = a then (ticket, r) :: p.ofAggregate a else p.ofAggregate a := by
  simp only [AppendServer.ofAggregate, committing, List.filter_cons, decide_eq_true_eq]

theorem Numbered.commit {p : AppendServer ι} (h : Numbered p) (i : ι) {s : AppendSession} (here : Standing p s)
    {ticket : Nat} {r : StoredEvent} (issued : s.ticket = some ticket) (own : s.own = some r) :
    Numbered (committing p i ticket r) := by
  obtain ⟨-, fresh, about, number⟩ := here.own r own
  obtain ⟨taken, after⟩ := here.issued ticket issued
  constructor
  · intro a
    rw [ofAggregate_committing]
    by_cases same : r.aggregateId = a
    · subst same
      rw [if_pos rfl, List.map_cons, List.length_cons, countdown_succ, h.numbers, number, about]
    · rw [if_neg same, h.numbers]
  · intro a
    rw [ofAggregate_committing]
    by_cases same : r.aggregateId = a
    · subst same
      rw [if_pos rfl, List.map_cons, List.pairwise_cons]
      refine ⟨?_, h.ordered r.aggregateId⟩
      intro t ht
      obtain ⟨c, hc, rfl⟩ := List.mem_map.mp ht
      rw [about] at hc
      exact after c hc
    · rw [if_neg same]
      exact h.ordered a
  · intro c hc
    rcases List.mem_cons.mp hc with rfl | hc
    · exact taken
    · exact h.past c hc
  · exact List.nodup_cons.mpr ⟨fresh, h.ids⟩

/-- Who holds another lock does not notice. -/
theorem Standing.commit {p : AppendServer ι} {s t : AppendSession} (h : Standing p t) (i : ι) (here : Standing p s)
    (apart : Apart hashtext s t) {ticket : Nat} {r : StoredEvent} (issued : s.ticket = some ticket)
    (own : s.own = some r) : Standing (committing p i ticket r) t := by
  obtain ⟨-, -, about, -⟩ := here.own r own
  have holds : s.ticket ≠ none := issued ▸ Option.some_ne_none ticket
  have same : t.ticket ≠ none → (committing p i ticket r).ofAggregate t.event.aggregateId =
      p.ofAggregate t.event.aggregateId := by
    intro ht
    rw [ofAggregate_committing, if_neg]
    intro heq
    exact apart.locks holds ht (congrArg hashtext (about.symm.trans heq))
  constructor
  · exact h.unnumbered
  · intro ticket' ht
    rw [same (ht ▸ Option.some_ne_none ticket')]
    exact h.issued ticket' ht
  · intro row hrow
    obtain ⟨same_id, fresh, about', number⟩ := h.own row hrow
    rw [same (ticket_of_own hrow)]
    refine ⟨same_id, ?_, about', number⟩
    intro known
    rcases List.mem_cons.mp known with heq | known
    · exact apart.ids r row own hrow heq.symm
    · exact fresh known

theorem GapFree.commit {p : AppendServer ι} (h : GapFree hashtext p) {i : ι} {e : EventEnvelope} {ticket : Nat}
    {r : StoredEvent} (busy : p.sessions i = some ⟨e, .inserted ticket (some r)⟩) :
    GapFree hashtext (committing p i ticket r) := by
  have here := h.standing i _ busy
  constructor
  · exact h.numbered.commit i here rfl rfl
  · intro j t ht
    rcases update_eq_some ht with ⟨-, hnone⟩ | ⟨hj, ht⟩
    · cases hnone
    · exact (h.standing j t ht).commit i here (h.apart i j _ t (Ne.symm hj) busy ht) rfl rfl
  · intro j k s t hne hs ht
    rcases update_eq_some hs with ⟨-, hnone⟩ | ⟨-, hs⟩
    · cases hnone
    · rcases update_eq_some ht with ⟨-, hnone⟩ | ⟨-, ht⟩
      · cases hnone
      · exact h.apart j k s t hne hs ht
  · exact h.unbroken

theorem GapFree.leave {p : AppendServer ι} (h : GapFree hashtext p) (i : ι) :
    GapFree hashtext { p with sessions := Function.update p.sessions i none } := by
  apply h.replace i (Nat.le_refl p.tickets)
  · intro s hs
    cases hs
  · intro s hs
    cases hs

theorem GapFree.step {p q : AppendServer ι} (h : GapFree hashtext p) {a : AppendAct ι}
    (step : AppendStep pg hashtext p a q) : GapFree hashtext q := by
  cases step with
  | start i e free unnumbered =>
    apply h.replace i (Nat.le_refl p.tickets)
    · intro s hs
      cases hs
      exact .waiting unnumbered
    · intro s hs j t _ _
      cases hs
      exact .of_unwritten fun holds => absurd rfl holds
  | lock i e busy waits =>
    have here := h.standing i _ busy
    apply h.replace i (Nat.le_succ p.tickets)
    · intro s hs
      cases hs
      apply Standing.locked here.unnumbered (Nat.lt_succ_self p.tickets)
      intro c hc
      exact h.numbered.past c (List.mem_filter.mp hc).1
    · intro s hs j t hj ht
      cases hs
      apply Apart.of_unwritten
      · intro _ holds
        exact (waits j t hj ht holds).symm
      · rfl
  | insert i e ticket busy waits =>
    obtain ⟨kept, next⟩ := h.insert busy waits
    rw [if_neg kept]
    exact next
  | commit i e ticket row busy =>
    cases row with
    | none => exact h.leave i
    | some r => exact h.commit busy
  | rollback i s busy => exact h.leave i

theorem gapFree {p : AppendServer ι} (h : Reachable (appends pg hashtext) p) : GapFree hashtext p := by
  apply h.invariant (GapFree hashtext)
  · rintro p ⟨empty, unbroken, idle⟩
    have none : ∀ a, p.ofAggregate a = [] := by
      intro a
      rw [AppendServer.ofAggregate, empty, List.filter_nil]
    refine ⟨⟨?_, ?_, ?_, ?_⟩, ?_, ?_, unbroken⟩
    · intro a
      rw [none]
      rfl
    · intro a
      rw [none]
      exact .nil
    · intro c hc
      rw [empty] at hc
      cases hc
    · rw [AppendServer.rows, empty]
      exact .nil
    · intro i s hs
      rw [idle] at hs
      cases hs
    · intro i j s t _ hs
      rw [idle] at hs
      cases hs
  · rintro p q - inv ⟨a, step⟩
    exact inv.step step

theorem committed_suffix {p q : AppendServer ι} (h : Relation.ReflTransGen (appends pg hashtext).step p q) :
    p.committed <:+ q.committed := by
  induction h with
  | refl => exact List.suffix_refl _
  | tail _ step ih =>
    obtain ⟨a, step⟩ := step
    apply ih.trans
    cases step with
    | commit i e ticket row busy => exact List.suffix_append ..
    | _ => exact List.suffix_refl _

def appended (eventId : String) : EventEnvelope where
  eventId := eventId
  eventType := .paymentRequested
  eventVersion := 1
  sequenceNumber := none
  aggregateId := "ord_1"
  aggregateType := "Payment"
  occurredAt := "2026-01-01T10:00:00.000Z"
  producer := "saga-orchestrator"
  correlationId := "corr_1"
  causationId := "evt_0"
  schemaVersion := 1
  payload := []

end Fulfillment
