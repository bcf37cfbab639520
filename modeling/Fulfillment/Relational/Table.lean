import Mathlib

/-!
# Tables with a primary key

A table is a list of rows, newest first, no two with the same key. The
statements are the ones SQL has for such a table: `INSERT ... ON CONFLICT DO
NOTHING`, `INSERT ... ON CONFLICT DO UPDATE`, `UPDATE ... WHERE` and
`DELETE ... WHERE`. Each has a `get?` lemma, and `get?_eq_some` turns a lookup
into membership.
-/

namespace Relational

structure Table {ρ κ : Type} (key : ρ → κ) where
  rows : List ρ
  unique : (rows.map key).Nodup

namespace Table

variable {ρ κ : Type} {key : ρ → κ}

def empty : Table key := ⟨[], List.nodup_nil⟩

@[ext] theorem ext {t u : Table key} (h : t.rows = u.rows) : t = u := by
  cases t; cases u; simp_all

theorem eq_of_key {t : Table key} {r r' : ρ} (hr : r ∈ t.rows) (hr' : r' ∈ t.rows)
    (h : key r = key r') : r = r' :=
  List.inj_on_of_nodup_map t.unique hr hr' h

/-- `UPDATE ... SET f WHERE p`; no statement of this kind rewrites the key. -/
def update (t : Table key) (p : ρ → Bool) (f : ρ → ρ) (keeps : ∀ r, key (f r) = key r) : Table key where
  rows := t.rows.map fun r => if p r then f r else r
  unique := by
    have h : key ∘ (fun r => if p r then f r else r) = key := by
      funext r
      simp only [Function.comp]
      split
      · exact keeps r
      · rfl
    rw [List.map_map, h]
    exact t.unique

@[simp] theorem mem_update {t : Table key} {p : ρ → Bool} {f : ρ → ρ} (keeps : ∀ r, key (f r) = key r)
    {r : ρ} : r ∈ (t.update p f keeps).rows ↔ ∃ old ∈ t.rows, (if p old then f old else old) = r := by
  simp [update]

theorem update_of_none {t : Table key} {p : ρ → Bool} {f : ρ → ρ} {keeps : ∀ r, key (f r) = key r}
    (h : ∀ r ∈ t.rows, p r = false) : t.update p f keeps = t := by
  apply ext
  calc t.rows.map (fun r => if p r then f r else r)
      = t.rows.map id := List.map_congr_left fun r hr => by simp [h r hr]
    _ = t.rows := List.map_id _

theorem update_of_fixed {t : Table key} {p : ρ → Bool} {f : ρ → ρ} {keeps : ∀ r, key (f r) = key r}
    (h : ∀ r ∈ t.rows, p r = true → f r = r) : t.update p f keeps = t := by
  apply ext
  calc t.rows.map (fun r => if p r then f r else r)
      = t.rows.map id := by
        apply List.map_congr_left
        intro r hr
        split
        · rename_i hp
          exact h r hr hp
        · rfl
    _ = t.rows := List.map_id _

/-- `DELETE ... WHERE p`. -/
def delete (t : Table key) (p : ρ → Bool) : Table key where
  rows := t.rows.filter fun r => !p r
  unique := t.unique.sublist (List.filter_sublist.map key)

variable [DecidableEq κ]

def get? (t : Table key) (k : κ) : Option ρ := t.rows.find? fun r => key r = k

/-- `INSERT ... ON CONFLICT (key) DO NOTHING`. -/
def insertOrIgnore (t : Table key) (r : ρ) : Table key :=
  if h : key r ∈ t.rows.map key then t
  else ⟨r :: t.rows, List.nodup_cons.mpr ⟨h, t.unique⟩⟩

/-- `INSERT ... ON CONFLICT (key) DO UPDATE SET merge`. -/
def upsert (t : Table key) (r : ρ) (merge : ρ → ρ) (keeps : ∀ old, key (merge old) = key old) :
    Table key :=
  if key r ∈ t.rows.map key then t.update (fun old => key old = key r) merge keeps
  else t.insertOrIgnore r

theorem get?_eq_some {t : Table key} {k : κ} {r : ρ} :
    t.get? k = some r ↔ r ∈ t.rows ∧ key r = k := by
  constructor
  · intro h
    exact ⟨List.mem_of_find?_eq_some h, by simpa using List.find?_some h⟩
  · rintro ⟨hr, rfl⟩
    cases h : t.rows.find? (fun x => key x = key r) with
    | none => simpa using List.find?_eq_none.mp h r hr
    | some x =>
      have hx : key x = key r := by simpa using List.find?_some h
      rw [get?, h, eq_of_key (List.mem_of_find?_eq_some h) hr hx]

theorem get?_eq_none {t : Table key} {k : κ} : t.get? k = none ↔ ∀ r ∈ t.rows, key r ≠ k := by
  simp [get?]

theorem mem_keys {t : Table key} {k : κ} : k ∈ t.rows.map key ↔ (t.get? k).isSome := by
  simp [get?, List.find?_isSome]

@[simp] theorem get?_empty (k : κ) : (empty : Table key).get? k = none := rfl

theorem get?_update (t : Table key) (p : ρ → Bool) (f : ρ → ρ) (keeps : ∀ r, key (f r) = key r)
    (k : κ) : (t.update p f keeps).get? k = (t.get? k).map fun r => if p r then f r else r := by
  have hkey : ∀ r, key (if p r then f r else r) = key r := by
    intro r
    split
    · exact keeps r
    · rfl
  cases h : t.get? k with
  | none =>
    simp only [Option.map_none, get?_eq_none, mem_update]
    rintro r ⟨old, hold, rfl⟩
    rw [hkey]
    exact get?_eq_none.mp h old hold
  | some r =>
    obtain ⟨hr, rfl⟩ := get?_eq_some.mp h
    exact get?_eq_some.mpr ⟨(mem_update keeps).mpr ⟨r, hr, rfl⟩, hkey r⟩

theorem get?_delete (t : Table key) (p : ρ → Bool) (k : κ) :
    (t.delete p).get? k = (t.get? k).filter fun r => !p r := by
  cases h : t.get? k with
  | none =>
    simp only [Option.filter_none, get?_eq_none, delete, List.mem_filter]
    exact fun r hr => get?_eq_none.mp h r hr.1
  | some r =>
    obtain ⟨hr, rfl⟩ := get?_eq_some.mp h
    cases hp : p r with
    | false =>
      rw [Option.filter_some]
      simp only [hp, Bool.not_false, if_true]
      exact get?_eq_some.mpr ⟨by simp [delete, hr, hp], rfl⟩
    | true =>
      rw [Option.filter_some]
      simp only [hp, Bool.not_true, Bool.false_eq_true, if_false, get?_eq_none, delete,
        List.mem_filter]
      rintro x ⟨hx, hpx⟩ hk
      rw [eq_of_key hx hr hk, hp] at hpx
      cases hpx

theorem mem_insertOrIgnore {t : Table key} {r x : ρ} :
    x ∈ (t.insertOrIgnore r).rows ↔ x ∈ t.rows ∨ x = r ∧ t.get? (key r) = none := by
  unfold insertOrIgnore
  split
  · rename_i h
    have hs := mem_keys.mp h
    constructor
    · exact .inl
    · rintro (hx | ⟨-, hn⟩)
      · exact hx
      · simp [hn] at hs
  · rename_i h
    have hn : t.get? (key r) = none := by simpa using mem_keys.not.mp h
    simp only [List.mem_cons, hn, and_true]
    exact or_comm

theorem get?_insertOrIgnore (t : Table key) (r : ρ) (k : κ) :
    (t.insertOrIgnore r).get? k = if k = key r then some ((t.get? k).getD r) else t.get? k := by
  unfold insertOrIgnore
  split
  · rename_i h
    obtain ⟨x, hx⟩ := Option.isSome_iff_exists.mp (mem_keys.mp h)
    split
    · rename_i hk
      rw [hk, hx, Option.getD_some]
    · rfl
  · rename_i h
    have hn : t.get? (key r) = none := by simpa using mem_keys.not.mp h
    by_cases hk : k = key r
    · rw [if_pos hk, hk, hn]
      simp [get?]
    · have hk' : ¬ key r = k := fun h => hk h.symm
      simp [get?, hk, hk']

theorem get?_upsert (t : Table key) (r : ρ) (merge : ρ → ρ) (keeps : ∀ old, key (merge old) = key old)
    (k : κ) : (t.upsert r merge keeps).get? k =
      if k = key r then some ((t.get? k).elim r merge) else t.get? k := by
  unfold upsert
  split
  · rename_i h
    obtain ⟨x, hx⟩ := Option.isSome_iff_exists.mp (mem_keys.mp h)
    rw [get?_update]
    split
    · rename_i hk
      rw [hk, hx]
      simp [(get?_eq_some.mp hx).2]
    · rename_i hk
      cases h : t.get? k with
      | none => rfl
      | some y => simp [(get?_eq_some.mp h).2, hk]
  · rename_i h
    have hn : t.get? (key r) = none := by simpa using mem_keys.not.mp h
    rw [get?_insertOrIgnore]
    split
    · rename_i hk
      rw [hk, hn]
      rfl
    · rfl

theorem insertOrIgnore_of_present {t : Table key} {r : ρ} (h : (t.get? (key r)).isSome = true) :
    t.insertOrIgnore r = t :=
  dif_pos (mem_keys.mpr h)

theorem upsert_of_fresh {t : Table key} {r : ρ} (h : t.get? (key r) = none) (merge : ρ → ρ)
    (keeps : ∀ old, key (merge old) = key old) : (t.upsert r merge keeps).rows = r :: t.rows := by
  have hn : key r ∉ t.rows.map key := by simp [mem_keys, h]
  simp [upsert, insertOrIgnore, hn]

theorem upsert_of_present {t : Table key} {r : ρ} (h : (t.get? (key r)).isSome) (merge : ρ → ρ)
    (keeps : ∀ old, key (merge old) = key old) :
    t.upsert r merge keeps = t.update (fun old => key old = key r) merge keeps := by
  rw [upsert, if_pos (mem_keys.mpr h)]

theorem of_mem_upsert {t : Table key} {r x : ρ} {merge : ρ → ρ} {keeps : ∀ old, key (merge old) = key old}
    (h : x ∈ (t.upsert r merge keeps).rows) :
    x = r ∨ x ∈ t.rows ∨ ∃ old ∈ t.rows, key old = key r ∧ x = merge old := by
  cases hr : t.get? (key r) with
  | none =>
    rw [upsert_of_fresh hr] at h
    rcases List.mem_cons.mp h with rfl | h
    · exact .inl rfl
    · exact .inr (.inl h)
  | some old =>
    rw [upsert_of_present (by rw [hr]; rfl)] at h
    obtain ⟨y, hy, rfl⟩ := (mem_update keeps).mp h
    split
    · rename_i hk
      exact .inr (.inr ⟨y, hy, of_decide_eq_true hk, rfl⟩)
    · exact .inr (.inl hy)

theorem get?_upsert_self (t : Table key) (r : ρ) (merge : ρ → ρ)
    (keeps : ∀ old, key (merge old) = key old) :
    (t.upsert r merge keeps).get? (key r) = some ((t.get? (key r)).elim r merge) := by
  rw [get?_upsert, if_pos rfl]

theorem get?_upsert_ne (t : Table key) (r : ρ) (merge : ρ → ρ)
    (keeps : ∀ old, key (merge old) = key old) {k : κ} (hk : k ≠ key r) :
    (t.upsert r merge keeps).get? k = t.get? k := by
  rw [get?_upsert, if_neg hk]

end Table

end Relational
