import Fulfillment.Effects.Program

/-!
# Calls expanded to programs

A handler says which program carries out each call of another. What the handler
of every call keeps, the expanded program keeps.
-/

namespace Effects

variable {ε C C' : Type} {R : C → Type} {R' : C' → Type} {α β : Type}

namespace Prog

def expand (handler : (c : C) → Prog ε R' (R c)) : Prog ε R α → Prog ε R' α
  | .pure a => .pure a
  | .throw e => .throw e
  | .call c k => (handler c).settle >>= fun r => (k r).expand handler

/-- Every call that the program can perform is one of these. -/
def Calls (P : C → Prop) : Prog ε R α → Prop
  | .call c k => P c ∧ ∀ r, (k r).Calls P
  | _ => True

variable {P : C → Prop}

theorem Calls.mono {P' : C → Prop} (h : ∀ c, P c → P' c) {p : Prog ε R α} (hp : p.Calls P) : p.Calls P' := by
  induction p with
  | pure a => trivial
  | throw e => trivial
  | call c k ih => exact ⟨h c hp.1, fun r => ih r (hp.2 r)⟩

theorem Calls.bind {p : Prog ε R α} {f : α → Prog ε R β} (hp : p.Calls P) (hf : ∀ a, (f a).Calls P) :
    (p >>= f).Calls P := by
  induction p with
  | pure a => exact hf a
  | throw e => trivial
  | call c k ih => exact ⟨hp.1, fun r => ih r (hp.2 r)⟩

theorem Calls.settle {p : Prog ε R α} (hp : p.Calls P) : p.settle.Calls P := by
  induction p with
  | pure a => trivial
  | throw e => trivial
  | call c k ih => exact ⟨hp.1, fun r => ih r (hp.2 r)⟩

theorem Calls.await {c : C} (hc : P c) : (await c : Prog ε R (R c)).Calls P := by
  refine ⟨hc, fun r => ?_⟩
  cases r <;> trivial

end Prog

variable {σ : Type} {S : Semantics ε σ R'} {K : Contract ε σ C'} {I : σ → Prop}

theorem Safe.expand {P : C → Prop} {handler : (c : C) → Prog ε R' (R c)}
    (keeps : ∀ c, P c → ∀ s, I s → Safe S K (fun _ s => I s) (handler c) s) {p : Prog ε R α} (calls : p.Calls P) {s : σ}
    (hs : I s) : Safe S K (fun _ s => I s) (p.expand handler) s := by
  induction p generalizing s with
  | pure a => exact hs
  | throw e => exact hs
  | call c k ih =>
    apply Safe.andThen
    · exact (keeps c calls.1 s hs).settle
    · intro r t ht
      exact ih r (calls.2 r) ht

end Effects
