import Fulfillment.Effects.Program
import Fulfillment.Effects.System
import Mathlib

/-!
# Programs run side by side

A pool has a slot for every worker. A worker takes a job, performs its calls
one at a time, others moving in between, and may stop.

* `Machine.noninterference`: each worker keeps an assertion of its own, which
  the calls of the others leave true;
* `Machine.relyGuarantee`: each worker runs a program that is `Safe` under a
  contract, and the contracts fit together;
* `Machine.play` follows a schedule, and `reachable_play` says that what it
  ends in is reachable.
-/

namespace Effects

variable {ε σ C ι J α : Type} {R : C → Type}

/-- A program under way, with its answered calls, newest first. -/
structure Worker (ε : Type) {C : Type} (R : C → Type) (J α : Type) where
  job : J
  rest : Prog ε R α
  past : List (Σ c, Except ε (R c))

structure Pool (ε σ : Type) {C : Type} (R : C → Type) (ι J α : Type) where
  shared : σ
  workers : ι → Option (Worker ε R J α)

structure Machine (ε σ : Type) {C : Type} (R : C → Type) (ι J α : Type) where
  semantics : Semantics ε σ R
  body : ι → J → Prog ε R α
  init : σ → Prop
  startable : ι → J → σ → Prop
  /-- The ends of a call that are considered. -/
  allowed : ι → Worker ε R J α → C → Outcome ε → σ → Prop
  /-- What happens without any worker. -/
  environment : σ → σ → Prop
  /-- A worker that may leave its slot, done or not. -/
  leaves : ι → Worker ε R J α → Prop

/-- A worker after an answered call. -/
def Worker.answered (w : Worker ε R J α) (c : C) (k : Except ε (R c) → Prog ε R α)
    (r : Except ε (R c)) : Worker ε R J α :=
  ⟨w.job, k r, ⟨c, r⟩ :: w.past⟩

variable [DecidableEq ι]

inductive PoolStep (M : Machine ε σ R ι J α) : Pool ε σ R ι J α → Pool ε σ R ι J α → Prop
  | start {p} (i : ι) (job : J) (free : p.workers i = none) (startable : M.startable i job p.shared) :
    PoolStep M p ⟨p.shared, Function.update p.workers i (some ⟨job, M.body i job, []⟩)⟩
  | call {p} (i : ι) (w : Worker ε R J α) (c : C) (k : Except ε (R c) → Prog ε R α) (o : Outcome ε)
      (busy : p.workers i = some w) (next : w.rest = .call c k) (allowed : M.allowed i w c o p.shared) :
    PoolStep M p ⟨(M.semantics.exec c o p.shared).2,
      Function.update p.workers i (some (w.answered c k (M.semantics.exec c o p.shared).1))⟩
  | leave {p} (i : ι) (w : Worker ε R J α) (busy : p.workers i = some w) (leaves : M.leaves i w) :
    PoolStep M p ⟨p.shared, Function.update p.workers i none⟩
  | environment {p} (s : σ) (moves : M.environment p.shared s) : PoolStep M p ⟨s, p.workers⟩

def Machine.system (M : Machine ε σ R ι J α) : System (Pool ε σ R ι J α) where
  init p := M.init p.shared ∧ ∀ i, p.workers i = none
  step := PoolStep M

/-- The worker in a slot after one slot was refilled. -/
theorem update_eq_some {β : Type} {f : ι → Option β} {i j : ι} {x : Option β} {b : β}
    (h : Function.update f i x j = some b) : (j = i ∧ x = some b) ∨ (j ≠ i ∧ f j = some b) := by
  by_cases hj : j = i
  · subst hj
    exact .inl ⟨rfl, by simpa using h⟩
  · exact .inr ⟨hj, by simpa [hj] using h⟩

/-- A slot that is free after one slot was refilled. -/
theorem update_eq_none {β : Type} {f : ι → Option β} {i j : ι} {x : Option β}
    (h : Function.update f i x j = none) : (j = i ∧ x = none) ∨ (j ≠ i ∧ f j = none) := by
  by_cases hj : j = i
  · subst hj
    exact .inl ⟨rfl, by simpa using h⟩
  · exact .inr ⟨hj, by simpa [hj] using h⟩

/-- Assertions that no other worker's call invalidates hold throughout. -/
theorem Machine.noninterference (M : Machine ε σ R ι J α) (Inv : σ → Prop)
    (Own : ι → Worker ε R J α → σ → Prop)
    (init : ∀ s, M.init s → Inv s)
    (start : ∀ s i job, Inv s → M.startable i job s → Own i ⟨job, M.body i job, []⟩ s)
    (call : ∀ s i w c k o, Inv s → Own i w s → w.rest = .call c k → M.allowed i w c o s →
      Inv (M.semantics.exec c o s).2 ∧
      Own i (w.answered c k (M.semantics.exec c o s).1) (M.semantics.exec c o s).2 ∧
      ∀ j v, j ≠ i → Own j v s → Own j v (M.semantics.exec c o s).2)
    (environment : ∀ s t, Inv s → M.environment s t → Inv t ∧ ∀ i w, Own i w s → Own i w t)
    {p : Pool ε σ R ι J α} (h : Reachable M.system p) :
    Inv p.shared ∧ ∀ i w, p.workers i = some w → Own i w p.shared := by
  refine h.invariant (fun p => Inv p.shared ∧ ∀ i w, p.workers i = some w → Own i w p.shared) ?_ ?_
  · rintro p ⟨hp, idle⟩
    refine ⟨init _ hp, fun i w hw => ?_⟩
    rw [idle i] at hw
    cases hw
  · rintro p q - ⟨hinv, hown⟩ (step : PoolStep M p q)
    cases step with
    | start i job free startable =>
      refine ⟨hinv, fun j w hw => ?_⟩
      rcases update_eq_some hw with ⟨rfl, hself⟩ | ⟨-, hother⟩
      · cases hself
        exact start _ _ _ hinv startable
      · exact hown j w hother
    | call i w c k o busy next allowed =>
      obtain ⟨hinv', hself, hothers⟩ := call _ i w c k o hinv (hown i w busy) next allowed
      refine ⟨hinv', fun j v hv => ?_⟩
      rcases update_eq_some hv with ⟨rfl, hsame⟩ | ⟨hne, hother⟩
      · cases hsame
        exact hself
      · exact hothers j v hne (hown j v hother)
    | leave i w =>
      refine ⟨hinv, fun j v hv => ?_⟩
      rcases update_eq_some hv with ⟨-, hnone⟩ | ⟨-, hother⟩
      · cases hnone
      · exact hown j v hother
    | environment s moves =>
      obtain ⟨hinv', hothers⟩ := environment _ _ hinv moves
      exact ⟨hinv', fun i w hw => hothers i w (hown i w hw)⟩

/-- Safe programs whose contracts fit together stay safe. -/
theorem Machine.relyGuarantee (M : Machine ε σ R ι J α) (Inv : σ → Prop) (K : ι → Contract ε σ C)
    (Q : ι → Except ε α → σ → Prop)
    (refl : ∀ i s, (K i).rely s s)
    (trans : ∀ i {a b c}, (K i).rely a b → (K i).rely b c → (K i).rely a c)
    (stable : ∀ i r {a b}, (K i).rely a b → Q i r a → Q i r b)
    (init : ∀ s, M.init s → Inv s)
    (start : ∀ s i job, Inv s → M.startable i job s → Safe M.semantics (K i) (Q i) (M.body i job) s)
    (allowed : ∀ i w c o s, Inv s → M.allowed i w c o s → (K i).allowed c o s)
    (guarantee : ∀ i s t, Inv s → (K i).guar s t → Inv t ∧ ∀ j, j ≠ i → (K j).rely s t)
    (environment : ∀ s t, Inv s → M.environment s t → Inv t ∧ ∀ i, (K i).rely s t)
    {p : Pool ε σ R ι J α} (h : Reachable M.system p) :
    Inv p.shared ∧ ∀ i w, p.workers i = some w → Safe M.semantics (K i) (Q i) w.rest p.shared := by
  refine M.noninterference Inv (fun i w s => Safe M.semantics (K i) (Q i) w.rest s) init start ?_ ?_ h
  · intro s i w c k o hinv hsafe next hall
    rw [next] at hsafe
    obtain ⟨hguar, hrest⟩ := hsafe s (refl i s) o (allowed i w c o s hinv hall)
    obtain ⟨hinv', hrely⟩ := guarantee i _ _ hinv hguar
    exact ⟨hinv', hrest, fun j v hne hv => Safe.rely (trans j) (stable j) hv (hrely j hne)⟩
  · intro s t hinv moves
    obtain ⟨hinv', hrely⟩ := environment s t hinv moves
    exact ⟨hinv', fun i w hw => Safe.rely (trans i) (stable i) hw (hrely i)⟩

/-- A slot that is free keeps a condition: whoever takes the slot may rely on it, and hands it back. -/
theorem Machine.handedBack (M : Machine ε σ R ι J α) (Inv : σ → Prop) (K : ι → Contract ε σ C) (Free : ι → σ → Prop)
    (refl : ∀ i s, (K i).rely s s)
    (trans : ∀ i {a b c}, (K i).rely a b → (K i).rely b c → (K i).rely a c)
    (stable : ∀ i {a b}, (K i).rely a b → Free i a → Free i b)
    (init : ∀ s, M.init s → Inv s ∧ ∀ i, Free i s)
    (start : ∀ s i job, Inv s → Free i s → M.startable i job s →
      Safe M.semantics (K i) (fun _ => Free i) (M.body i job) s)
    (leave : ∀ s i w, M.leaves i w → Safe M.semantics (K i) (fun _ => Free i) w.rest s → Free i s)
    (allowed : ∀ i w c o s, Inv s → M.allowed i w c o s → (K i).allowed c o s)
    (guarantee : ∀ i s t, Inv s → (K i).guar s t → Inv t ∧ ∀ j, j ≠ i → (K j).rely s t)
    (environment : ∀ s t, Inv s → M.environment s t → Inv t ∧ ∀ i, (K i).rely s t)
    {p : Pool ε σ R ι J α} (h : Reachable M.system p) :
    Inv p.shared ∧ (∀ i, p.workers i = none → Free i p.shared) ∧
      ∀ i w, p.workers i = some w → Safe M.semantics (K i) (fun _ => Free i) w.rest p.shared := by
  refine h.invariant (fun p => Inv p.shared ∧ (∀ i, p.workers i = none → Free i p.shared) ∧
    ∀ i w, p.workers i = some w → Safe M.semantics (K i) (fun _ => Free i) w.rest p.shared) ?_ ?_
  · rintro p ⟨hp, idle⟩
    obtain ⟨inv, free⟩ := init _ hp
    refine ⟨inv, fun i _ => free i, fun i w hw => ?_⟩
    rw [idle i] at hw
    cases hw
  · rintro p q - ⟨hinv, hfree, hsafe⟩ (step : PoolStep M p q)
    cases step with
    | start i job free startable =>
      refine ⟨hinv, fun j hj => ?_, fun j w hw => ?_⟩
      · rcases update_eq_none hj with ⟨-, taken⟩ | ⟨-, hother⟩
        · cases taken
        · exact hfree j hother
      · rcases update_eq_some hw with ⟨rfl, hself⟩ | ⟨-, hother⟩
        · cases hself
          exact start _ _ _ hinv (hfree _ free) startable
        · exact hsafe j w hother
    | call i w c k o busy next hallowed =>
      have safe := hsafe i w busy
      rw [next] at safe
      obtain ⟨hguar, hrest⟩ := safe _ (refl i _) o (allowed i w c o _ hinv hallowed)
      obtain ⟨hinv', hrely⟩ := guarantee i _ _ hinv hguar
      refine ⟨hinv', fun j hj => ?_, fun j v hv => ?_⟩
      · rcases update_eq_none hj with ⟨-, taken⟩ | ⟨hne, hother⟩
        · cases taken
        · exact stable j (hrely j hne) (hfree j hother)
      · rcases update_eq_some hv with ⟨rfl, hsame⟩ | ⟨hne, hother⟩
        · cases hsame
          exact hrest
        · exact Safe.rely (trans j) (fun _ _ _ => stable j) (hsafe j v hother) (hrely j hne)
    | leave i w busy leaves =>
      refine ⟨hinv, fun j hj => ?_, fun j v hv => ?_⟩
      · rcases update_eq_none hj with ⟨rfl, -⟩ | ⟨-, hother⟩
        · exact leave _ _ w leaves (hsafe _ w busy)
        · exact hfree j hother
      · rcases update_eq_some hv with ⟨-, hnone⟩ | ⟨-, hother⟩
        · cases hnone
        · exact hsafe j v hother
    | environment s moves =>
      obtain ⟨hinv', hrely⟩ := environment _ _ hinv moves
      exact ⟨hinv', fun i hi => stable i (hrely i) (hfree i hi),
        fun i w hw => Safe.rely (trans i) (fun _ _ _ => stable i) (hsafe i w hw) (hrely i)⟩

/-- One decision of a schedule. -/
inductive Move (ε ι J : Type)
  | start (i : ι) (job : J)
  | call (i : ι) (o : Outcome ε)
  | leave (i : ι)

/-- The pool after a move; a move that cannot be made changes nothing. -/
def Machine.move (M : Machine ε σ R ι J α) (p : Pool ε σ R ι J α) : Move ε ι J → Pool ε σ R ι J α
  | .start i job =>
    match p.workers i with
    | none => ⟨p.shared, Function.update p.workers i (some ⟨job, M.body i job, []⟩)⟩
    | some _ => p
  | .call i o =>
    match p.workers i with
    | some w =>
      match w.rest with
      | .call c k =>
        ⟨(M.semantics.exec c o p.shared).2,
          Function.update p.workers i (some (w.answered c k (M.semantics.exec c o p.shared).1))⟩
      | _ => p
    | none => p
  | .leave i =>
    match p.workers i with
    | some _ => ⟨p.shared, Function.update p.workers i none⟩
    | none => p

theorem Machine.move_call (M : Machine ε σ R ι J α) {p : Pool ε σ R ι J α} {i : ι} {w : Worker ε R J α} {c : C}
    {k : Except ε (R c) → Prog ε R α} (busy : p.workers i = some w) (next : w.rest = .call c k) (o : Outcome ε) :
    M.move p (.call i o) = ⟨(M.semantics.exec c o p.shared).2,
      Function.update p.workers i (some (w.answered c k (M.semantics.exec c o p.shared).1))⟩ := by
  simp only [Machine.move, busy]
  split
  · rename_i c' k' next'
    rw [next] at next'
    cases next'
    rfl
  · rename_i other
    exact absurd next (other c k)

/-- No worker has a call left. -/
def Pool.Quiescent (p : Pool ε σ R ι J α) : Prop := ∀ i, ∃ w, p.workers i = some w ∧ w.rest.Finished

def Machine.Legal (M : Machine ε σ R ι J α) (p : Pool ε σ R ι J α) : Move ε ι J → Prop
  | .start i job => M.startable i job p.shared
  | .call i o => ∀ w c k, p.workers i = some w → w.rest = .call c k → M.allowed i w c o p.shared
  | .leave i => ∀ w, p.workers i = some w → M.leaves i w

def Machine.play (M : Machine ε σ R ι J α) : Pool ε σ R ι J α → List (Move ε ι J) → Pool ε σ R ι J α
  | p, [] => p
  | p, m :: moves => M.play (M.move p m) moves

def Machine.AllLegal (M : Machine ε σ R ι J α) : Pool ε σ R ι J α → List (Move ε ι J) → Prop
  | _, [] => True
  | p, m :: moves => M.Legal p m ∧ M.AllLegal (M.move p m) moves

/-- A legal move is a step, or it changes nothing. -/
theorem Machine.move_step {M : Machine ε σ R ι J α} {p : Pool ε σ R ι J α} {m : Move ε ι J} (legal : M.Legal p m) :
    M.move p m = p ∨ PoolStep M p (M.move p m) := by
  cases m with
  | start i job =>
    rw [Machine.move]
    split
    · rename_i free
      exact .inr (.start i job free legal)
    · exact .inl rfl
  | call i o =>
    rw [Machine.move]
    split
    · rename_i w busy
      split
      · rename_i c k next
        exact .inr (.call i w c k o busy next (legal w c k busy next))
      · exact .inl rfl
    · exact .inl rfl
  | leave i =>
    rw [Machine.move]
    split
    · rename_i w busy
      exact .inr (.leave i w busy (legal w busy))
    · exact .inl rfl

theorem Machine.reachable_move {M : Machine ε σ R ι J α} {p : Pool ε σ R ι J α}
    (h : Reachable M.system p) {m : Move ε ι J} (legal : M.Legal p m) :
    Reachable M.system (M.move p m) := by
  rcases Machine.move_step legal with same | step
  · rw [same]
    exact h
  · exact h.next step

theorem Machine.reachable_play {M : Machine ε σ R ι J α} {p : Pool ε σ R ι J α}
    (h : Reachable M.system p) {moves : List (Move ε ι J)} (legal : M.AllLegal p moves) :
    Reachable M.system (M.play p moves) := by
  induction moves generalizing p with
  | nil => exact h
  | cons m moves ih => exact ih (reachable_move h legal.1) legal.2

/-- Whether the calls of a schedule pass a check. -/
def Machine.passes (M : Machine ε σ R ι J α) (check : Worker ε R J α → C → Outcome ε → σ → Bool) :
    Pool ε σ R ι J α → List (Move ε ι J) → Bool
  | _, [] => true
  | p, m :: moves =>
    (match m with
    | .call i o => (p.workers i).all fun w =>
        match w.rest with
        | .call c _ => check w c o p.shared
        | _ => true
    | _ => true) &&
    M.passes check (M.move p m) moves

/-- A schedule is legal if its calls pass, and its jobs may start at any time. -/
theorem Machine.allLegal_of_passes {M : Machine ε σ R ι J α} {check : Worker ε R J α → C → Outcome ε → σ → Bool}
    (leaves : ∀ i w, M.leaves i w) (allowed : ∀ i w c o s, check w c o s = true → M.allowed i w c o s)
    {p : Pool ε σ R ι J α} {moves : List (Move ε ι J)} (startable : ∀ i job, .start i job ∈ moves → ∀ s, M.startable i job s)
    (h : M.passes check p moves = true) : M.AllLegal p moves := by
  induction moves generalizing p with
  | nil => trivial
  | cons m moves ih =>
    simp only [Machine.passes, Bool.and_eq_true] at h
    refine ⟨?_, ih (fun i job mem => startable i job (List.mem_cons_of_mem _ mem)) h.2⟩
    cases m with
    | start i job => exact startable i job List.mem_cons_self _
    | leave i => exact fun w _ => leaves i w
    | call i o =>
      intro w c k busy next
      have checked := h.1
      simp only [busy, Option.all_some, next] at checked
      exact allowed i w c o _ checked

theorem Machine.steps_play {M : Machine ε σ R ι J α} {p : Pool ε σ R ι J α} {moves : List (Move ε ι J)}
    (legal : M.AllLegal p moves) : Relation.ReflTransGen (PoolStep M) p (M.play p moves) := by
  induction moves generalizing p with
  | nil => exact .refl
  | cons m moves ih =>
    have rest : Relation.ReflTransGen (PoolStep M) (M.move p m) (M.play p (m :: moves)) := ih legal.2
    rcases Machine.move_step legal.1 with same | step
    · rwa [same] at rest
    · exact .head step rest

/-- The calls of a run pass a check. -/
def Prog.Within (S : Semantics ε σ R) (oracle : List C → C → Outcome ε) (check : C → Outcome ε → σ → Prop) :
    Prog ε R α → List C → σ → Prop
  | .call c k, past, s =>
    check c (oracle past c) s ∧
      let r := S.exec c (oracle past c) s
      (k r.1).Within S oracle check (c :: past) r.2
  | _, _, _ => True

instance Prog.decidableWithin (S : Semantics ε σ R) (oracle : List C → C → Outcome ε) (check : C → Outcome ε → σ → Prop)
    [∀ c o s, Decidable (check c o s)] : ∀ (p : Prog ε R α) past s, Decidable (p.Within S oracle check past s)
  | .call c k, past, s =>
    have := Prog.decidableWithin S oracle check (k (S.exec c (oracle past c) s).1) (c :: past)
      (S.exec c (oracle past c) s).2
    inferInstanceAs (Decidable (_ ∧ _))
  | .pure _, _, _ | .throw _, _, _ => isTrue trivial

/-- A worker that has the rest of its program to itself. -/
theorem Machine.steps_finish {M : Machine ε σ R ι J α} {i : ι} {check : C → Outcome ε → σ → Prop}
    (allowed : ∀ w c o s, check c o s → M.allowed i w c o s) (leaves : ∀ w, w.rest.Finished → M.leaves i w)
    (oracle : List C → C → Outcome ε) (job : J) (rest : Prog ε R α) (calls : List C) (past : List (Σ c, Except ε (R c)))
    (s : σ) (within : rest.Within M.semantics oracle check calls s) :
    Relation.ReflTransGen (PoolStep M) ⟨s, Function.update (fun _ => none) i (some ⟨job, rest, past⟩)⟩
      ⟨(rest.run M.semantics oracle calls s).state, fun _ => none⟩ := by
  have busy : ∀ w, Function.update (fun _ : ι => (none : Option (Worker ε R J α))) i (some w) i = some w :=
    fun w => Function.update_self ..
  have gone : ∀ (p : Prog ε R α) past s, p.Finished → Relation.ReflTransGen (PoolStep M)
      ⟨s, Function.update (fun _ => none) i (some ⟨job, p, past⟩)⟩ ⟨s, fun _ => none⟩ := by
    intro p past s finished
    have step := PoolStep.leave (M := M) (p := ⟨s, Function.update (fun _ => none) i (some ⟨job, p, past⟩)⟩) i _ (busy _)
      (leaves _ finished)
    rw [Function.update_idem, Function.update_eq_self] at step
    exact .single step
  induction rest generalizing calls past s with
  | pure a => exact gone _ past s trivial
  | throw e => exact gone _ past s trivial
  | call c k ih =>
    obtain ⟨passes, others⟩ := within
    have step := PoolStep.call (M := M) (p := ⟨s, Function.update (fun _ => none) i (some ⟨job, .call c k, past⟩)⟩) i _ c k
      (oracle calls c) (busy _) rfl (allowed _ _ _ _ passes)
    rw [Function.update_idem] at step
    exact .head step (ih _ _ _ _ others)

/-- A job done while no one else is there. -/
theorem Machine.steps_alone (M : Machine ε σ R ι J α) (i : ι) (job : J) {s : σ} (startable : M.startable i job s)
    (check : C → Outcome ε → σ → Prop) (allowed : ∀ w c o s, check c o s → M.allowed i w c o s)
    (leaves : ∀ w, w.rest.Finished → M.leaves i w) (oracle : List C → C → Outcome ε)
    (within : (M.body i job).Within M.semantics oracle check [] s) :
    Relation.ReflTransGen (PoolStep M) ⟨s, fun _ => none⟩
      ⟨((M.body i job).run M.semantics oracle [] s).state, fun _ => none⟩ :=
  .head (.start i job rfl startable) (Machine.steps_finish allowed leaves oracle job _ [] [] s within)

end Effects
