import Mathlib

/-!
# Clamped shifts

A counter is moved by an amount, and lifted to a floor if it ends below. One
such move after another is one again, so whether two of them commute can be
read off their floors.
-/

namespace Relational

structure ClampedShift where
  floor : Option Int
  shift : Int
  deriving DecidableEq, Repr

namespace ClampedShift

def apply (c : ClampedShift) (x : Int) : Int :=
  match c.floor with
  | none => x + c.shift
  | some floor => max floor (x + c.shift)

def id : ClampedShift := ⟨none, 0⟩

/-- The floor of the second, and that of the first where the second moves it to. -/
def andThen (c d : ClampedShift) : ClampedShift where
  floor :=
    match c.floor, d.floor with
    | none, floor => floor
    | some floor, none => some (floor + d.shift)
    | some floor, some floor' => some (max floor' (floor + d.shift))
  shift := c.shift + d.shift

@[simp] theorem apply_id (x : Int) : id.apply x = x := Int.add_zero x

theorem apply_andThen (c d : ClampedShift) (x : Int) : (c.andThen d).apply x = d.apply (c.apply x) := by
  obtain ⟨floor, shift⟩ := c
  obtain ⟨floor', shift'⟩ := d
  cases floor <;> cases floor' <;> simp only [apply, andThen] <;> omega

/-- The counter is not lifted. -/
def Clears (c : ClampedShift) (x : Int) : Prop := ∀ floor, c.floor = some floor → floor ≤ x + c.shift

theorem apply_of_clears {c : ClampedShift} {x : Int} (h : c.Clears x) : c.apply x = x + c.shift := by
  unfold apply
  split
  · rfl
  · rename_i floor hfloor
    have := h floor hfloor
    omega

theorem clears_of_apply {c : ClampedShift} {x : Int} (h : c.apply x = x + c.shift) : c.Clears x := by
  intro floor hfloor
  rw [apply, hfloor] at h
  simp only at h
  omega

/-- A lifted counter stands at the floor. -/
theorem floor_of_lifted {c : ClampedShift} {x : Int} (h : c.apply x ≠ x + c.shift) : c.floor = some (c.apply x) := by
  obtain ⟨floor, shift⟩ := c
  cases floor with
  | none => exact absurd rfl h
  | some floor =>
    simp only [apply] at *
    rw [Option.some.injEq]
    omega

/-- Both end at the same place: by the same amount, at one floor, or one at its floor and the other beside it. -/
inductive AgreeAt (c d : ClampedShift) (x : Int) : Prop
  | clear (clears : c.Clears x) (clears' : d.Clears x) (same : c.shift = d.shift)
  | lifted (lifts : ¬c.Clears x) (lifts' : ¬d.Clears x) (same : c.floor = d.floor)
  | first (lifts : ¬c.Clears x) (clears : d.Clears x) (same : c.floor = some (x + d.shift))
  | second (clears : c.Clears x) (lifts : ¬d.Clears x) (same : d.floor = some (x + c.shift))

theorem apply_of_lifts {c : ClampedShift} {x : Int} (h : ¬c.Clears x) : c.floor = some (c.apply x) :=
  floor_of_lifted fun clears => h (clears_of_apply clears)

theorem agreeAt_iff (c d : ClampedShift) (x : Int) : c.AgreeAt d x ↔ c.apply x = d.apply x := by
  constructor
  · intro h
    cases h with
    | clear clears clears' same => rw [apply_of_clears clears, apply_of_clears clears', same]
    | lifted lifts lifts' same =>
      rw [apply_of_lifts lifts, apply_of_lifts lifts'] at same
      exact Option.some.inj same
    | first lifts clears same =>
      rw [apply_of_lifts lifts, ← apply_of_clears clears] at same
      exact Option.some.inj same
    | second clears lifts same =>
      rw [apply_of_lifts lifts, ← apply_of_clears clears] at same
      exact (Option.some.inj same).symm
  · intro h
    by_cases clears : c.Clears x
    · by_cases clears' : d.Clears x
      · rw [apply_of_clears clears, apply_of_clears clears'] at h
        exact .clear clears clears' (Int.add_left_cancel h)
      · exact .second clears clears' (by rw [apply_of_lifts clears', ← h, apply_of_clears clears])
    · by_cases clears' : d.Clears x
      · exact .first clears clears' (by rw [apply_of_lifts clears, h, apply_of_clears clears'])
      · exact .lifted clears clears' (by rw [apply_of_lifts clears, apply_of_lifts clears', h])

/-- Two moves by the same amount agree if they have one floor, or if neither lifts the counter. -/
theorem apply_eq_iff {c d : ClampedShift} (same : c.shift = d.shift) (x : Int) :
    c.apply x = d.apply x ↔ c.floor = d.floor ∨ (c.Clears x ∧ d.Clears x) := by
  constructor
  · intro h
    by_cases clears : c.apply x = x + c.shift
    · right
      constructor
      · exact clears_of_apply clears
      · apply clears_of_apply
        rw [← h, clears, same]
    · left
      have clears' : d.apply x ≠ x + d.shift := by rwa [← h, ← same]
      rw [floor_of_lifted clears, floor_of_lifted clears', h]
  · rintro (floors | ⟨clears, clears'⟩)
    · obtain ⟨floor, shift⟩ := c
      obtain ⟨floor', shift'⟩ := d
      cases floors
      cases same
      rfl
    · rw [apply_of_clears clears, apply_of_clears clears', same]

/-- Either order lifts the counter to the same floor, or neither lifts it. -/
def CommuteAt (c d : ClampedShift) (x : Int) : Prop :=
  (c.andThen d).floor = (d.andThen c).floor ∨ ((c.andThen d).Clears x ∧ (d.andThen c).Clears x)

theorem commuteAt_iff (c d : ClampedShift) (x : Int) : c.CommuteAt d x ↔ d.apply (c.apply x) = c.apply (d.apply x) := by
  rw [← apply_andThen, ← apply_andThen]
  exact (apply_eq_iff (Int.add_comm ..) x).symm

end ClampedShift

end Relational
