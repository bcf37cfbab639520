import Fulfillment.Database.Lease
import Fulfillment.Effects.System

/-!
# Leases and what their holders were told

A lease table is used by workers that know only the answers to their own
statements. `told` collects these answers, newest first, and the row of an id
is always the one its newest answer describes (`Consistent`).
-/

namespace Fulfillment

open Relational Effects

/-- A worker id as a relay has it: the constructor replaces an empty one. -/
structure WorkerId where
  name : String
  nonempty : name ≠ ""

instance : CoeOut WorkerId String := ⟨WorkerId.name⟩

inductive LeaseAnswer
  | claimed (id worker : String) (time leaseDuration : Int)
  | published (id worker : String)
  | failed (id worker : String)
  deriving DecidableEq, Repr

def LeaseAnswer.id : LeaseAnswer → String
  | .claimed id _ _ _ => id
  | .published id _ => id
  | .failed id _ => id

structure LeaseLog (β : Type) where
  table : LeaseTable β
  now : Int
  told : List LeaseAnswer

variable {β : Type}

/-- The rows a claim returned to its worker. -/
def claimAnswers (rows : List (Leased β)) (worker : String) (leaseDuration now : Int) :
    List LeaseAnswer :=
  rows.map fun r => .claimed r.id worker now leaseDuration

inductive LeaseStep : LeaseLog β → LeaseLog β → Prop
  | insert {s : LeaseLog β} (id : String) (body : β) (time : Int) (later : s.now ≤ time) :
    LeaseStep s ⟨insertPending id body time s.table, time, s.told⟩
  | claim {s : LeaseLog β} (w : WorkerId) (limit : Nat) (leaseDuration time : Int)
      (locked : String → Bool) (later : s.now ≤ time) :
    LeaseStep s ⟨(claimPending limit w leaseDuration time locked s.table).2, time,
      claimAnswers (claimPending limit w leaseDuration time locked s.table).1 w leaseDuration time
        ++ s.told⟩
  | markPublished {s : LeaseLog β} (w : WorkerId) (id : String) (time : Int) (later : s.now ≤ time) :
    LeaseStep s ⟨(markPublished id (some w.name) time s.table).2, time,
      if (markPublished id (some w.name) time s.table).1 then .published id w :: s.told else s.told⟩
  | markFailed {s : LeaseLog β} (w : WorkerId) (id error : String) (time : Int) (later : s.now ≤ time) :
    LeaseStep s ⟨(markFailed id error (some w.name) s.table).2, time,
      if (markFailed id error (some w.name) s.table).1 then .failed id w :: s.told else s.told⟩

/-- Any number of workers over a table that starts empty. -/
def leasing (β : Type) : System (LeaseLog β) where
  init s := s.table = .empty ∧ s.told = []
  step := LeaseStep

/-- The newest answer about a row. -/
def latest (id : String) (told : List LeaseAnswer) : Option LeaseAnswer :=
  told.find? fun a => a.id = id

/-- What the newest answer about a row says of its columns. -/
def Leased.Described (r : Leased β) : Option LeaseAnswer → Prop
  | none => r.status = .pending
  | some (.claimed _ w t d) =>
    r.status = .processing ∧ r.leaseOwner = some w ∧ r.leaseExpiresAt = some (t + d)
  | some (.published _ _) => r.status = .published
  | some (.failed _ _) => r.status = .pending ∨ r.status = .failed

structure Consistent (s : LeaseLog β) : Prop where
  described : ∀ r ∈ s.table.rows, r.Described (latest r.id s.told)
  known : ∀ a ∈ s.told, ∃ r ∈ s.table.rows, r.id = a.id

theorem mem_claimTargets {limit : Nat} {now : Int} {locked : String → Bool} {t : LeaseTable β}
    {r : Leased β} (h : r ∈ claimTargets limit now locked t) :
    r ∈ t.rows ∧ r.claimable now = true := by
  have hm := List.mem_of_mem_take h
  rw [List.mem_mergeSort, List.mem_filter, Bool.and_eq_true] at hm
  exact ⟨hm.1, hm.2.1⟩

/-- A claim takes exactly the rows it returns. -/
theorem mem_claimPending {limit : Nat} {w : String} {d now : Int} {locked : String → Bool}
    {t : LeaseTable β} {r : Leased β} (h : r ∈ (claimPending limit w d now locked t).2.rows) :
    (r ∈ t.rows ∧ r.id ∉ (claimPending limit w d now locked t).1.map Leased.id) ∨
    ∃ old ∈ claimTargets limit now locked t, r = old.claim w d now ∧
      r ∈ (claimPending limit w d now locked t).1 := by
  obtain ⟨old, hold, rfl⟩ := List.mem_map.mp h
  have ids : (claimPending limit w d now locked t).1.map Leased.id =
      (claimTargets limit now locked t).map Leased.id := by
    rw [claimPending, List.map_map]
    rfl
  split
  · rename_i taken
    obtain ⟨old', hold', hid⟩ := List.mem_map.mp (of_decide_eq_true taken)
    obtain rfl := Table.eq_of_key (mem_claimTargets hold').1 hold hid
    exact .inr ⟨old', hold', rfl, List.mem_map_of_mem hold'⟩
  · rename_i spared
    exact .inl ⟨hold, fun hm => spared (by simpa [ids] using hm)⟩

theorem latest_cons_self {id : String} {a : LeaseAnswer} (h : a.id = id) (told : List LeaseAnswer) :
    latest id (a :: told) = some a := by
  simp [latest, h]

theorem latest_cons_ne {id : String} {a : LeaseAnswer} (h : a.id ≠ id) (told : List LeaseAnswer) :
    latest id (a :: told) = latest id told := by
  simp [latest, h]

theorem latest_claimAnswers_of_mem {rows : List (Leased β)} {id : String}
    (h : id ∈ rows.map Leased.id) (w : String) (d now : Int) (told : List LeaseAnswer) :
    latest id (claimAnswers rows w d now ++ told) = some (.claimed id w now d) := by
  induction rows with
  | nil => cases h
  | cons r rs ih =>
    by_cases hr : r.id = id
    · subst hr
      exact latest_cons_self rfl _
    · have other : (LeaseAnswer.claimed r.id w now d).id ≠ id := hr
      exact (latest_cons_ne other _).trans (ih ((List.mem_cons.mp h).resolve_left fun he => hr he.symm))

theorem latest_claimAnswers_of_not_mem {rows : List (Leased β)} {id : String}
    (h : id ∉ rows.map Leased.id) (w : String) (d now : Int) (told : List LeaseAnswer) :
    latest id (claimAnswers rows w d now ++ told) = latest id told := by
  induction rows with
  | nil => rfl
  | cons r rs ih =>
    obtain ⟨hr, hrs⟩ := not_or.mp (List.mem_cons.not.mp h)
    have other : (LeaseAnswer.claimed r.id w now d).id ≠ id := fun he => hr he.symm
    exact (latest_cons_ne other _).trans (ih hrs)

theorem latest_eq_some {id : String} {told : List LeaseAnswer} {a : LeaseAnswer}
    (h : latest id told = some a) : a ∈ told ∧ a.id = id :=
  ⟨List.mem_of_find?_eq_some h, by simpa using List.find?_some h⟩

/-- The newest answer about a row stands before all others about it. -/
theorem latest_split {id : String} {told : List LeaseAnswer} {a : LeaseAnswer} :
    latest id told = some a ↔
      a.id = id ∧ ∃ later earlier, told = later ++ a :: earlier ∧ ∀ b ∈ later, b.id ≠ id := by
  simp [latest, List.find?_eq_some_iff_append]

theorem heldBy_iff {id : String} {w : WorkerId} {r : Leased β} :
    r.heldBy id (some w.name) = true ↔
      r.id = id ∧ r.status = .processing ∧ r.leaseOwner = some w.name := by
  simp [Leased.heldBy, workerParam, w.nonempty]

/-- A mark that finds no row of its own leaves the table alone. -/
theorem update_unheld {t : LeaseTable β} {id : String} {w : Option String} (f : Leased β → Leased β)
    (keeps : ∀ r, (f r).id = r.id) (h : t.rows.any (Leased.heldBy id w) = false) :
    t.update (Leased.heldBy id w) f keeps = t :=
  Table.update_of_none (by simpa using h)

/-- Both marks: the row is the worker's, and it becomes what the answer describes. -/
theorem Consistent.mark {s : LeaseLog β} (h : Consistent s) {w : WorkerId} {id : String} {time : Int}
    (f : Leased β → Leased β) (keeps : ∀ r, (f r).id = r.id) {a : LeaseAnswer} (ha : a.id = id)
    (describes : ∀ r, (f r).Described (some a)) :
    Consistent ⟨s.table.update (Leased.heldBy id (some w.name)) f keeps, time,
      if s.table.rows.any (Leased.heldBy id (some w.name)) then a :: s.told else s.told⟩ := by
  cases held : s.table.rows.any (Leased.heldBy id (some w.name)) with
  | false =>
    rw [update_unheld f keeps held]
    exact ⟨h.described, h.known⟩
  | true =>
    obtain ⟨r₀, hr₀, hheld⟩ := List.any_eq_true.mp held
    have hid := (heldBy_iff.mp hheld).1
    constructor
    · intro r hr
      obtain ⟨old, hold, rfl⟩ := (Table.mem_update keeps).mp hr
      by_cases same : old.id = id
      · obtain rfl := Table.eq_of_key hold hr₀ (same.trans hid.symm)
        simp only [hheld, if_true, keeps, latest_cons_self (ha.trans same.symm)]
        exact describes old
      · have unheld : ¬ old.heldBy id (some w.name) = true := fun hh => same (heldBy_iff.mp hh).1
        simp only [if_neg unheld, if_true,
          latest_cons_ne (a := a) (fun he => same (he.symm.trans ha)) s.told]
        exact h.described old hold
    · intro b hb
      rcases List.mem_cons.mp hb with rfl | hb
      · exact ⟨f r₀, (Table.mem_update keeps).mpr ⟨r₀, hr₀, if_pos hheld⟩,
          (keeps r₀).trans (hid.trans ha.symm)⟩
      · obtain ⟨r, hr, hrb⟩ := h.known b hb
        refine ⟨_, (Table.mem_update keeps).mpr ⟨r, hr, rfl⟩, ?_⟩
        split
        · exact (keeps r).trans hrb
        · exact hrb

theorem Consistent.insert {s : LeaseLog β} (h : Consistent s) (id : String) (body : β) (time : Int) :
    Consistent ⟨insertPending id body time s.table, time, s.told⟩ := by
  constructor
  · intro r hr
    rcases Table.mem_insertOrIgnore.mp hr with hr | ⟨rfl, fresh⟩
    · exact h.described r hr
    · have untold : latest id s.told = none := by
        cases hl : latest id s.told with
        | none => rfl
        | some a =>
          obtain ⟨ha, hid⟩ := latest_eq_some hl
          obtain ⟨r, hr, hra⟩ := h.known a ha
          exact absurd (hra.trans hid) (Table.get?_eq_none.mp fresh r hr)
      change Leased.Described _ (latest id s.told)
      rw [untold]
      rfl
  · intro a ha
    obtain ⟨r, hr, hra⟩ := h.known a ha
    exact ⟨r, Table.mem_insertOrIgnore.mpr (.inl hr), hra⟩

theorem Consistent.claim {s : LeaseLog β} (h : Consistent s) (w : String) (limit : Nat)
    (leaseDuration time : Int) (locked : String → Bool) :
    Consistent ⟨(claimPending limit w leaseDuration time locked s.table).2, time,
      claimAnswers (claimPending limit w leaseDuration time locked s.table).1 w leaseDuration time
        ++ s.told⟩ := by
  constructor
  · intro r hr
    rcases mem_claimPending hr with ⟨hold, spared⟩ | ⟨old, -, rfl, taken⟩
    · simp only [latest_claimAnswers_of_not_mem spared]
      exact h.described r hold
    · simp only [latest_claimAnswers_of_mem (List.mem_map_of_mem taken)]
      exact ⟨rfl, rfl, rfl⟩
  · intro a ha
    rcases List.mem_append.mp ha with ha | ha
    · obtain ⟨r, hr, rfl⟩ := List.mem_map.mp ha
      obtain ⟨old, hold, rfl⟩ := List.mem_map.mp hr
      exact ⟨_, List.mem_map.mpr ⟨old, (mem_claimTargets hold).1,
        if_pos (decide_eq_true (List.mem_map_of_mem hold))⟩, rfl⟩
    · obtain ⟨r, hr, hra⟩ := h.known a ha
      refine ⟨_, List.mem_map.mpr ⟨r, hr, rfl⟩, ?_⟩
      split
      · exact hra
      · exact hra

theorem step_consistent {s t : LeaseLog β} (h : LeaseStep s t) (hs : Consistent s) : Consistent t := by
  cases h with
  | insert id body time => exact hs.insert id body time
  | claim w limit d time locked => exact hs.claim w limit d time locked
  | markPublished w id time => exact hs.mark (Leased.publish time) (fun _ => rfl) rfl fun _ => rfl
  | markFailed w id error time =>
    refine hs.mark (Leased.fail error) (fun _ => rfl) rfl fun r => ?_
    simp only [Leased.fail, Leased.Described]
    split
    · exact .inr rfl
    · exact .inl rfl

theorem reachable_consistent {s : LeaseLog β} (h : Reachable (leasing β) s) : Consistent s := by
  refine h.invariant Consistent ?_ fun _ _ _ hs hst => step_consistent hst hs
  rintro ⟨table, now, told⟩ ⟨rfl, rfl⟩
  exact ⟨nofun, nofun⟩

end Fulfillment
