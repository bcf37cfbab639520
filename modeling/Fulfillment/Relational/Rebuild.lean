import Mathlib

/-!
# Rebuilding the rows of one owner

A table is a partial function from keys to rows. `Rebuilds` relates a table to
the one it was (`before`) and to one that started without rows (`folded`): the
rows of the owner are those of the second, the rows of all others those of the
first. Statements that keep to the owner's rows keep the relation.
-/

namespace Relational

variable {κ ρ ω : Type}

structure Rebuilds (owner : ρ → ω) (a : ω) (before folded current : κ → Option ρ) : Prop where
  own : ∀ k row, current k = some row ∧ owner row = a ↔ folded k = some row
  others : ∀ k row, owner row ≠ a → (current k = some row ↔ before k = some row)

namespace Rebuilds

variable {owner : ρ → ω} {a : ω} {before folded current : κ → Option ρ}

/-- After the owner's rows were deleted. -/
theorem start [DecidableEq ω] : Rebuilds owner a before (fun _ => none)
    fun k => (before k).filter fun row => owner row ≠ a := by
  constructor
  · intro k row
    simp
  · intro k row other
    simp [other]

/-- The two tables agree on a key that no row of another owner had. -/
theorem agrees (h : Rebuilds owner a before folded current) {k : κ}
    (free : ∀ row, before k = some row → owner row = a) : current k = folded k := by
  apply Option.ext
  intro row
  rw [← h.own k row]
  constructor
  · intro hrow
    refine ⟨hrow, ?_⟩
    by_contra other
    exact other (free row ((h.others k row other).mp hrow))
  · exact And.left

theorem owned (h : Rebuilds owner a before folded current) {k : κ} {row : ρ} (hrow : folded k = some row) :
    owner row = a := ((h.own k row).mpr hrow).2

/-- `UPDATE ... WHERE` the row is of the owner. -/
theorem updateOwned [DecidableEq ω] (h : Rebuilds owner a before folded current) {f : ρ → ρ}
    (keeps : ∀ old, owner (f old) = owner old) :
    Rebuilds owner a before (fun k => (folded k).map fun row => if owner row = a then f row else row)
      (fun k => (current k).map fun row => if owner row = a then f row else row) := by
  have owner_set : ∀ row, owner (if owner row = a then f row else row) = owner row := by
    intro row
    split
    · exact keeps row
    · rfl
  constructor
  · intro k row
    simp only [Option.map_eq_some_iff]
    constructor
    · rintro ⟨⟨old, hold, rfl⟩, owned⟩
      exact ⟨old, (h.own k old).mp ⟨hold, (owner_set old).symm.trans owned⟩, rfl⟩
    · rintro ⟨old, hold, rfl⟩
      obtain ⟨hcurrent, owned⟩ := (h.own k old).mpr hold
      exact ⟨⟨old, hcurrent, rfl⟩, (owner_set old).trans owned⟩
  · intro k row other
    rw [← h.others k row other, Option.map_eq_some_iff]
    constructor
    · rintro ⟨old, hold, rfl⟩
      rw [owner_set] at other
      rwa [if_neg other]
    · intro hrow
      exact ⟨row, hrow, if_neg other⟩

variable [DecidableEq κ]

/-- A new row of the owner at a key that no other owner had. -/
theorem set (h : Rebuilds owner a before folded current) {k : κ} {row : ρ}
    (free : ∀ row, before k = some row → owner row = a) (owned : owner row = a) :
    Rebuilds owner a before (Function.update folded k (some row)) (Function.update current k (some row)) := by
  constructor
  · intro k' row'
    by_cases same : k' = k
    · subst same
      simp only [Function.update_self, Option.some.injEq]
      constructor
      · exact And.left
      · rintro rfl
        exact ⟨rfl, owned⟩
    · rw [Function.update_of_ne same, Function.update_of_ne same]
      exact h.own k' row'
  · intro k' row' other
    by_cases same : k' = k
    · subst same
      simp only [Function.update_self, Option.some.injEq]
      constructor
      · rintro rfl
        exact absurd owned other
      · intro hrow
        exact absurd (free row' hrow) other
    · rw [Function.update_of_ne same]
      exact h.others k' row' other

/-- `INSERT ... ON CONFLICT DO UPDATE` of a row of the owner. -/
theorem upsert (h : Rebuilds owner a before folded current) {k : κ} {row : ρ} {merge : ρ → ρ}
    (free : ∀ row, before k = some row → owner row = a) (owned : owner row = a)
    (keeps : ∀ old, owner (merge old) = owner old) :
    Rebuilds owner a before (Function.update folded k (some ((folded k).elim row merge)))
      (Function.update current k (some ((current k).elim row merge))) := by
  rw [h.agrees free]
  apply h.set free
  cases hk : folded k with
  | none => exact owned
  | some old => exact (keeps old).trans (h.owned hk)

end Rebuilds

end Relational
