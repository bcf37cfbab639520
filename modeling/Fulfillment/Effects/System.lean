import Mathlib

/-! Runs of a transition system, and the induction every safety argument uses. -/

namespace Effects

structure System (σ : Type) where
  init : σ → Prop
  step : σ → σ → Prop

variable {σ : Type}

inductive Reachable (M : System σ) : σ → Prop
  | start {s} : M.init s → Reachable M s
  | next {s t} : Reachable M s → M.step s t → Reachable M t

/-- What holds at the start and is kept by every step from a reachable state
holds in every reachable state. -/
theorem Reachable.invariant {M : System σ} (inv : σ → Prop) (start : ∀ s, M.init s → inv s)
    (step : ∀ s t, Reachable M s → inv s → M.step s t → inv t) {s : σ} (h : Reachable M s) :
    inv s := by
  induction h with
  | start hs => exact start _ hs
  | next hr hst ih => exact step _ _ hr ih hst

theorem Reachable.steps {M : System σ} {s t : σ} (h : Reachable M s) (steps : Relation.ReflTransGen M.step s t) :
    Reachable M t := by
  induction steps with
  | refl => exact h
  | tail _ step ih => exact ih.next step

/-- A system whose every step is a step of another, or none, stays within what the other reaches. -/
theorem Reachable.map {τ : Type} {M : System σ} {N : System τ} (f : σ → τ) (start : ∀ s, M.init s → N.init (f s))
    (step : ∀ s t, Reachable M s → M.step s t → f t = f s ∨ N.step (f s) (f t)) {s : σ} (h : Reachable M s) :
    Reachable N (f s) := by
  induction h with
  | start hs => exact .start (start _ hs)
  | next hr hst ih =>
    rcases step _ _ hr hst with same | next
    · rw [same]
      exact ih
    · exact ih.next next

end Effects
