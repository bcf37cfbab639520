import Fulfillment.Effects.Program
import Mathlib

/-!
# Transactions at READ COMMITTED

A statement sees the committed rows and what its own transaction wrote. The
rows it writes stay locked until its transaction commits, and it waits for
rows that another transaction holds locked.
-/

namespace Effects

variable {ε C κ ι α : Type} {R : C → Type} {Row : κ → Type}

abbrev Rows (Row : κ → Type) := (k : κ) → Option (Row k)

/-- Statements on rows; `locks` names the rows that one writes among the rows it sees. -/
structure RowSemantics (ε : Type) (Row : κ → Type) {C : Type} (R : C → Type) where
  effect : (c : C) → Rows Row → Except ε (R c × Rows Row)
  locks : (c : C) → Rows Row → κ → Bool
  frame : ∀ {c v r v' k}, effect c v = .ok (r, v') → locks c v k = false → v' k = v k

/-- A transaction under way. -/
structure Session (ε : Type) {κ : Type} (Row : κ → Type) {C : Type} (R : C → Type) (α : Type) where
  rest : Prog ε R α
  /-- The rows it wrote and holds locked. -/
  own : (k : κ) → Option (Option (Row k))

namespace Session

def view (s : Session ε Row R α) (committed : Rows Row) : Rows Row := fun k => (s.own k).getD (committed k)

/-- The session after a statement that wrote the rows `locks` and left the view `v`. -/
def wrote (s : Session ε Row R α) (rest : Prog ε R α) (locks : κ → Bool) (v : Rows Row) : Session ε Row R α :=
  ⟨rest, fun k => if locks k then some (v k) else s.own k⟩

theorem view_of_locked {s : Session ε Row R α} {k : κ} {x : Option (Row k)} (h : s.own k = some x)
    (committed : Rows Row) : s.view committed k = x := by
  rw [view, h, Option.getD_some]

theorem view_of_free {s : Session ε Row R α} {k : κ} (h : s.own k = none) (committed : Rows Row) :
    s.view committed k = committed k := by
  rw [view, h, Option.getD_none]

/-- A session's view after a statement is what the statement left. -/
theorem view_wrote (S : RowSemantics ε Row R) {s : Session ε Row R α} {committed : Rows Row} {c : C} {r : R c}
    {v : Rows Row} (h : S.effect c (s.view committed) = .ok (r, v)) (rest : Prog ε R α) :
    (s.wrote rest (S.locks c (s.view committed)) v).view committed = v := by
  funext k
  cases hlock : S.locks c (s.view committed) k with
  | true => exact view_of_locked (by simp only [wrote, hlock, if_true]) committed
  | false =>
    have hsame : (s.wrote rest (S.locks c (s.view committed)) v).own k = s.own k := by
      simp only [wrote, hlock, Bool.false_eq_true, if_false]
    rw [view, hsame]
    exact (S.frame h hlock).symm

end Session

/-- The sessions that have not committed yet, over the committed rows. -/
structure Server (ε : Type) {κ : Type} (Row : κ → Type) {C : Type} (R : C → Type) (ι α : Type) where
  committed : Rows Row
  sessions : ι → Option (Session ε Row R α)

/-- What a session does next. -/
inductive Act (ι : Type)
  | statement (i : ι)
  | commit (i : ι)
  deriving DecidableEq

def Act.session : Act ι → ι
  | .statement i | .commit i => i

variable [DecidableEq ι]

/-- A statement that fails is no step: its transaction is given up. -/
inductive ServerStep (S : ι → RowSemantics ε Row R) : Server ε Row R ι α → Act ι → Server ε Row R ι α → Prop
  | statement {p} (i : ι) (s : Session ε Row R α) (c : C) (k : Except ε (R c) → Prog ε R α) (r : R c) (v : Rows Row)
      (busy : p.sessions i = some s) (next : s.rest = .call c k)
      (waits : ∀ j t key, j ≠ i → p.sessions j = some t → (S i).locks c (s.view p.committed) key = true →
        t.own key = none)
      (effect : (S i).effect c (s.view p.committed) = .ok (r, v)) :
    ServerStep S p (.statement i) ⟨p.committed,
      Function.update p.sessions i (some (s.wrote (k (.ok r)) ((S i).locks c (s.view p.committed)) v))⟩
  | commit {p} (i : ι) (s : Session ε Row R α) (a : α) (busy : p.sessions i = some s) (done : s.rest = .pure a) :
    ServerStep S p (.commit i) ⟨s.view p.committed, Function.update p.sessions i none⟩

/-- A run and its steps, oldest first. -/
inductive ServerRun (S : ι → RowSemantics ε Row R) (start : Server ε Row R ι α) :
    List (Act ι) → Server ε Row R ι α → Prop
  | start : ServerRun S start [] start
  | step {acts p a q} (run : ServerRun S start acts p) (step : ServerStep S p a q) : ServerRun S start (acts ++ [a]) q

/-- No two sessions hold a lock on the same row. -/
def Server.Exclusive (p : Server ε Row R ι α) : Prop :=
  ∀ i j s t, i ≠ j → p.sessions i = some s → p.sessions j = some t → ∀ k, s.own k = none ∨ t.own k = none

/-- The sessions after one was replaced. -/
theorem session_update {f : ι → Option (Session ε Row R α)} {i j : ι} {x : Option (Session ε Row R α)}
    {s : Session ε Row R α} (h : Function.update f i x j = some s) : (j = i ∧ x = some s) ∨ (j ≠ i ∧ f j = some s) := by
  by_cases same : j = i
  · subst same
    exact .inl ⟨rfl, by simpa using h⟩
  · exact .inr ⟨same, by simpa [same] using h⟩

theorem ServerStep.exclusive {S : ι → RowSemantics ε Row R} {p q : Server ε Row R ι α} {a : Act ι}
    (h : ServerStep S p a q) (exclusive : p.Exclusive) : q.Exclusive := by
  cases h with
  | statement i s c k r v busy next waits effect =>
    -- the locks of the session that moved against those of any other
    have moved : ∀ j t, j ≠ i → p.sessions j = some t → ∀ key,
        (s.wrote (k (.ok r)) ((S i).locks c (s.view p.committed)) v).own key = none ∨ t.own key = none := by
      intro j t hne ht key
      cases hlock : (S i).locks c (s.view p.committed) key with
      | true => exact .inr (waits j t key hne ht hlock)
      | false =>
        simp only [Session.wrote, hlock, Bool.false_eq_true, if_false]
        exact exclusive i j s t hne.symm busy ht key
    intro j₁ j₂ t₁ t₂ hne h₁ h₂ key
    rcases session_update h₁ with ⟨rfl, first⟩ | ⟨hne₁, first⟩
    · rcases session_update h₂ with ⟨rfl, -⟩ | ⟨hne₂, second⟩
      · exact absurd rfl hne
      · cases first
        exact moved j₂ t₂ hne₂ second key
    · rcases session_update h₂ with ⟨rfl, second⟩ | ⟨hne₂, second⟩
      · cases second
        exact (moved j₁ t₁ hne₁ first key).symm
      · exact exclusive j₁ j₂ t₁ t₂ hne first second key
  | commit i s a busy done =>
    intro j₁ j₂ t₁ t₂ hne h₁ h₂ key
    rcases session_update h₁ with ⟨-, first⟩ | ⟨-, first⟩
    · cases first
    · rcases session_update h₂ with ⟨-, second⟩ | ⟨-, second⟩
      · cases second
      · exact exclusive j₁ j₂ t₁ t₂ hne first second key

theorem ServerRun.exclusive {S : ι → RowSemantics ε Row R} {start p : Server ε Row R ι α} {acts : List (Act ι)}
    (unlocked : ∀ i s, start.sessions i = some s → ∀ k, s.own k = none) (h : ServerRun S start acts p) :
    p.Exclusive := by
  induction h with
  | start =>
    intro i j s t _ hs _ k
    exact .inl (unlocked i s hs k)
  | step run step ih => exact step.exclusive ih

/-! ## Before the first commit -/

def Commits (acts : List (Act ι)) : Prop := ∃ i, Act.commit i ∈ acts

/-- The sessions that perform a statement before any session commits. -/
def early : List (Act ι) → Finset ι
  | [] => ∅
  | .statement i :: acts => insert i (early acts)
  | .commit _ :: _ => ∅

theorem early_append_commit (acts : List (Act ι)) (i : ι) : early (acts ++ [.commit i]) = early acts := by
  induction acts with
  | nil => rfl
  | cons a acts ih =>
    cases a with
    | statement j => rw [List.cons_append, early, early, ih]
    | commit j => rfl

theorem early_append_of_commits {acts : List (Act ι)} (h : Commits acts) (a : Act ι) :
    early (acts ++ [a]) = early acts := by
  induction acts with
  | nil =>
    obtain ⟨i, hi⟩ := h
    cases hi
  | cons b acts ih =>
    cases b with
    | statement j =>
      obtain ⟨i, hi⟩ := h
      rcases List.mem_cons.mp hi with hi | hi
      · cases hi
      · rw [List.cons_append, early, early, ih ⟨i, hi⟩]
    | commit j => rfl

theorem early_append_statement {acts : List (Act ι)} (h : ¬Commits acts) (i : ι) :
    early (acts ++ [.statement i]) = insert i (early acts) := by
  induction acts with
  | nil => rfl
  | cons b acts ih =>
    cases b with
    | statement j =>
      have hrest : ¬Commits acts := fun ⟨i, hi⟩ => h ⟨i, List.mem_cons_of_mem _ hi⟩
      rw [List.cons_append, early, early, ih hrest, Finset.insert_comm]
    | commit j => exact absurd ⟨j, List.mem_cons_self⟩ h

theorem mem_early_append_statement (acts : List (Act ι)) {i j : ι} (h : j ≠ i) :
    j ∈ early (acts ++ [.statement i]) ↔ j ∈ early acts := by
  by_cases commits : Commits acts
  · rw [early_append_of_commits commits]
  · rw [early_append_statement commits, Finset.mem_insert]
    exact or_iff_right h

theorem mem_early_mono {acts : List (Act ι)} {i j : ι} (h : j ∈ early acts) : j ∈ early (acts ++ [.statement i]) := by
  by_cases commits : Commits acts
  · rwa [early_append_of_commits commits]
  · rw [early_append_statement commits]
    exact Finset.mem_insert_of_mem h

omit [DecidableEq ι] in
theorem commits_append (acts : List (Act ι)) (i : ι) : Commits (acts ++ [.statement i]) ↔ Commits acts := by
  simp [Commits]

theorem acted_of_early {acts : List (Act ι)} {i : ι} (h : i ∈ early acts) : ∃ a ∈ acts, a.session = i := by
  induction acts with
  | nil => simp [early] at h
  | cons b acts ih =>
    cases b with
    | statement j =>
      rcases Finset.mem_insert.mp h with rfl | h
      · exact ⟨_, List.mem_cons_self, rfl⟩
      · obtain ⟨a, ha, hsession⟩ := ih h
        exact ⟨a, List.mem_cons_of_mem _ ha, hsession⟩
    | commit j => simp [early] at h

theorem early_of_acted {acts : List (Act ι)} (h : ¬Commits acts) {a : Act ι} (ha : a ∈ acts) : a.session ∈ early acts := by
  induction acts with
  | nil => cases ha
  | cons b acts ih =>
    cases b with
    | statement j =>
      have hrest : ¬Commits acts := fun ⟨i, hi⟩ => h ⟨i, List.mem_cons_of_mem _ hi⟩
      rcases List.mem_cons.mp ha with rfl | ha
      · exact Finset.mem_insert_self ..
      · exact Finset.mem_insert_of_mem (ih hrest ha)
    | commit j => exact absurd ⟨j, List.mem_cons_self⟩ h

/-! ## One session at a time -/

/-- The program returns when it runs alone from these rows, no statement failing. -/
inductive Returns (S : RowSemantics ε Row R) : Prog ε R α → Rows Row → α → Rows Row → Prop
  | pure (a : α) (v : Rows Row) : Returns S (.pure a) v a v
  | call (c : C) (k : Except ε (R c) → Prog ε R α) (r : R c) {v v' w : Rows Row} {a : α}
      (effect : S.effect c v = .ok (r, v')) (rest : Returns S (k (.ok r)) v' a w) : Returns S (.call c k) v a w

theorem ServerRun.trans {S : ι → RowSemantics ε Row R} {p q r : Server ε Row R ι α} {acts acts' : List (Act ι)}
    (first : ServerRun S p acts q) (second : ServerRun S q acts' r) : ServerRun S p (acts ++ acts') r := by
  induction second with
  | start => rwa [List.append_nil]
  | step run step ih =>
    rw [← List.append_assoc]
    exact .step ih step

/-- A session that no other stands in the way of finishes as if it were alone. -/
theorem ServerRun.solo {S : ι → RowSemantics ε Row R} {p : Server ε Row R ι α} {i : ι} {s : Session ε Row R α} {a : α}
    {w : Rows Row} (busy : p.sessions i = some s)
    (unlocked : ∀ j t, j ≠ i → p.sessions j = some t → ∀ k, t.own k = none)
    (returns : Returns (S i) s.rest (s.view p.committed) a w) :
    ∃ acts, ServerRun S p acts ⟨w, Function.update p.sessions i none⟩ := by
  generalize hrest : s.rest = rest at returns
  generalize hview : s.view p.committed = v at returns
  induction returns generalizing p s with
  | pure a v =>
    subst hview
    exact ⟨_, .step .start (.commit i s a busy hrest)⟩
  | call c k r effect rest ih =>
    rename_i v' _ _
    subst hview
    have step := ServerStep.statement (S := S) i s c k r v' busy hrest
      (fun j t key hne ht _ => unlocked j t hne ht key) effect
    generalize hs' : s.wrote (k (.ok r)) ((S i).locks c (s.view p.committed)) v' = s' at step
    have hview : s'.view p.committed = v' := hs' ▸ Session.view_wrote (S i) effect _
    have others : ∀ j t, j ≠ i → Function.update p.sessions i (some s') j = some t → ∀ key, t.own key = none := by
      intro j t hne ht
      rw [Function.update_of_ne hne] at ht
      exact unlocked j t hne ht
    obtain ⟨acts, hacts⟩ := ih (p := ⟨p.committed, Function.update p.sessions i (some s')⟩) (Function.update_self ..)
      others (hs' ▸ rfl) hview
    rw [Function.update_idem] at hacts
    exact ⟨_, (ServerRun.start.step step).trans hacts⟩

end Effects
