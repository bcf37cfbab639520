import Mathlib

/-!
# A sorted log, part of which is applied

A row is the fold of the applied entries of a log. Applying one entry more does
to the row what it does to the fold, if no applied entry after it writes.
-/

namespace Relational

variable {α β : Type} {write : β → α → β}

/-- Entries that do not write leave the fold alone. -/
theorem foldl_idle {l : List α} (idle : ∀ x ∈ l, ∀ b, write b x = b) (b : β) : l.foldl write b = b := by
  induction l with
  | nil => rfl
  | cons x l ih =>
    rw [List.foldl_cons, idle x List.mem_cons_self]
    exact ih fun y hy => idle y (List.mem_cons_of_mem _ hy)

/-- What is not applied and does not write can be put in. -/
theorem foldl_filter_eq {p : α → Bool} {l : List α} (idle : ∀ x ∈ l, p x = false → ∀ b, write b x = b) (b : β) :
    (l.filter p).foldl write b = l.foldl write b := by
  induction l generalizing b with
  | nil => rfl
  | cons x l ih =>
    have rest := ih fun y hy => idle y (List.mem_cons_of_mem _ hy)
    cases hp : p x with
    | true => rw [List.filter_cons_of_pos hp, List.foldl_cons, List.foldl_cons, rest]
    | false =>
      rw [List.filter_cons_of_neg (by simp [hp]), List.foldl_cons, idle x List.mem_cons_self hp, rest]

/-- Entries that are not in the list are all the same to a filter. -/
theorem filter_or_eq_of_notMem [DecidableEq α] {l : List α} {e : α} (h : e ∉ l) (p : α → Bool) :
    (l.filter fun x => p x || x = e) = l.filter p := by
  apply List.filter_congr
  intro x hx
  have other : x ≠ e := fun same => h (same ▸ hx)
  simp [other]

theorem foldl_filter_insert [DecidableEq α] {before : α → α → Prop} {l : List α} (sorted : l.Pairwise before)
    (distinct : l.Nodup) {e : α} (he : e ∈ l) {p : α → Bool}
    (later : ∀ x ∈ l, before e x → x ≠ e → p x = true → ∀ b, write b x = b) (b : β) :
    (l.filter fun x => p x || x = e).foldl write b = if p e then (l.filter p).foldl write b
      else write ((l.filter p).foldl write b) e := by
  obtain ⟨pre, post, rfl⟩ := List.append_of_mem he
  obtain ⟨-, tail, across⟩ := List.pairwise_append.mp sorted
  obtain ⟨-, rest, apart⟩ := List.nodup_append.mp distinct
  have notBefore : e ∉ pre := fun hmem => apart e hmem e List.mem_cons_self rfl
  have notAfter : e ∉ post := (List.nodup_cons.mp rest).1
  have idle : ∀ x ∈ post.filter p, ∀ b, write b x = b := by
    intro x hx
    obtain ⟨hx, happlied⟩ := List.mem_filter.mp hx
    have other : x ≠ e := fun same => notAfter (same ▸ hx)
    exact later x (by simp [hx]) ((List.pairwise_cons.mp tail).1 x hx) other happlied
  simp only [List.filter_append, List.filter_cons, filter_or_eq_of_notMem notBefore, filter_or_eq_of_notMem notAfter,
    decide_true, Bool.or_true, if_true, List.foldl_append]
  cases p e with
  | true => rfl
  | false => simp only [Bool.false_eq_true, if_false, List.foldl_cons, foldl_idle idle]

/-- Applying an entry that does not write changes nothing. -/
theorem foldl_filter_silent [DecidableEq α] {e : α} (silent : ∀ b, write b e = b) (l : List α) (p : α → Bool) (b : β) :
    (l.filter fun x => p x || x = e).foldl write b = (l.filter p).foldl write b := by
  induction l generalizing b with
  | nil => rfl
  | cons x l ih =>
    by_cases same : x = e
    · subst same
      cases hp : p x <;> simp [hp, ih, silent]
    · cases hp : p x <;> simp [hp, ih, same]

/-- An entry that is not applied does not show, wherever the sort puts it. -/
theorem filter_orderedInsert {r : α → α → Prop} [DecidableRel r] {p : α → Bool} {x : α} (hx : p x = false)
    (l : List α) : (l.orderedInsert r x).filter p = l.filter p := by
  induction l with
  | nil => simp [hx]
  | cons y l ih =>
    rw [List.orderedInsert_cons]
    split
    · simp [hx]
    · simp only [List.filter_cons, ih]

end Relational
