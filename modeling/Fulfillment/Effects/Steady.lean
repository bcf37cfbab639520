import Fulfillment.Effects.Pool

/-!
# Programs that keep an invariant

The state grows in some order, and every call of everyone keeps an invariant.
A program is `Steady` at a state if its calls do so from there on, so what it
relies on may be any fact that growing states keep.
-/

namespace Effects

/-- An invariant, and the order in which states grow. -/
structure Regime (σ : Type) where
  Inv : σ → Prop
  Grows : σ → σ → Prop
  refl : ∀ s, Grows s s
  trans : ∀ {a b c}, Grows a b → Grows b c → Grows a c

variable {ε σ C ι J α β : Type} {R : C → Type}

/-- A step by anyone. -/
def Regime.Step (G : Regime σ) (s t : σ) : Prop := G.Grows s t ∧ (G.Inv s → G.Inv t)

def Regime.contract (G : Regime σ) (ε C : Type) : Contract ε σ C where
  allowed _ _ _ := True
  rely := G.Step
  guar := G.Step

variable (S : Semantics ε σ R) (G : Regime σ)

def Steady (p : Prog ε R α) (s : σ) : Prop :=
  ∀ t, G.Grows s t → G.Inv t → Safe S (G.contract ε C) (fun _ _ => True) p t

/-- From here on the call keeps the invariant, however it ends. -/
def Keeps (c : C) (s : σ) : Prop :=
  ∀ t, G.Grows s t → G.Inv t → ∀ o, G.Grows t (S.exec c o t).2 ∧ G.Inv (S.exec c o t).2

variable {S G}

theorem Steady.pure (a : α) (s : σ) : Steady S G (Prog.pure a) s := fun _ _ _ => trivial

theorem Steady.throw (e : ε) (s : σ) : Steady S G (Prog.throw e : Prog ε R α) s := fun _ _ _ => trivial

theorem Steady.ofExcept (x : Except ε α) (s : σ) : Steady S G (Prog.ofExcept x : Prog ε R α) s := by
  cases x with
  | ok a => exact .pure a s
  | error e => exact .throw e s

/-- A call, and then what the program makes of its answer. -/
theorem Steady.call {c : C} {k : Except ε (R c) → Prog ε R α} {s : σ} (keeps : Keeps S G c s)
    (rest : ∀ t o, G.Grows s t → G.Inv t → Steady S G (k (S.exec c o t).1) (S.exec c o t).2) :
    Steady S G (Prog.call c k) s := by
  intro t grows inv u step o _
  have inv' : G.Inv u := step.2 inv
  have grows' : G.Grows s u := G.trans grows step.1
  obtain ⟨after, kept⟩ := keeps u grows' inv' o
  exact ⟨⟨after, fun _ => kept⟩, rest u o grows' inv' _ (G.refl _) kept⟩

theorem Steady.bind {p : Prog ε R α} {f : α → Prog ε R β} {s : σ} (first : Steady S G p s)
    (second : ∀ a, Steady S G (f a) s) : Steady S G (p >>= f) s := by
  intro t grows inv
  have safe := first t grows inv
  clear first
  induction p generalizing t with
  | pure a => exact second a t grows inv
  | throw e => trivial
  | call c k ih =>
    intro u step o _
    have inv' : G.Inv u := step.2 inv
    obtain ⟨⟨after, kept⟩, rest⟩ := safe u step o trivial
    exact ⟨⟨after, kept⟩, ih _ _ (G.trans (G.trans grows step.1) after) (kept inv') rest⟩

theorem Steady.settle {p : Prog ε R α} {s : σ} (h : Steady S G p s) : Steady S G p.settle s :=
  fun t grows inv => Safe.settle (h t grows inv)

/-- A call whose answer is passed on. -/
theorem Steady.await_bind {c : C} {f : R c → Prog ε R α} {s : σ} (keeps : Keeps S G c s)
    (rest : ∀ t o a, G.Grows s t → G.Inv t → (S.exec c o t).1 = .ok a → Steady S G (f a) (S.exec c o t).2) :
    Steady S G (Prog.await c >>= f) s := by
  rw [Prog.await_bind]
  apply Steady.call keeps
  intro t o grows inv
  cases answer : (S.exec c o t).1 with
  | error e => exact .throw e _
  | ok a => exact rest t o a grows inv answer

theorem Steady.await {c : C} {s : σ} (keeps : Keeps S G c s) : Steady S G (Prog.await c) s := by
  apply Steady.call keeps
  intro t o _ _
  exact .ofExcept _ _

variable [DecidableEq ι]

/-- Steady programs keep the invariant together. -/
theorem Machine.steady (M : Machine ε σ R ι J α) (G : Regime σ) (init : ∀ s, M.init s → G.Inv s)
    (start : ∀ s i job, G.Inv s → M.startable i job s → Steady M.semantics G (M.body i job) s)
    (environment : ∀ s t, G.Inv s → M.environment s t → G.Grows s t ∧ G.Inv t)
    {p : Pool ε σ R ι J α} (h : Reachable M.system p) : G.Inv p.shared := by
  refine (M.relyGuarantee G.Inv (fun _ => G.contract ε C) (fun _ _ _ => True) ?_ ?_ ?_ init ?_ ?_ ?_ ?_ h).1
  · exact fun _ s => ⟨G.refl s, id⟩
  · exact fun _ _ _ _ first second => ⟨G.trans first.1 second.1, second.2 ∘ first.2⟩
  · exact fun _ _ _ _ _ done => done
  · exact fun s i job inv startable => start s i job inv startable s (G.refl s) inv
  · exact fun _ _ _ _ _ _ _ => trivial
  · exact fun _ s t inv step => ⟨step.2 inv, fun _ _ => step⟩
  · intro s t inv moves
    obtain ⟨grows, kept⟩ := environment s t inv moves
    exact ⟨kept, fun _ => ⟨grows, fun _ => kept⟩⟩

end Effects
