import Mathlib

/-!
# Programs that await calls

A program performs calls `c : C` one after another. Each call is answered by
an `R c` or by an error of type `ε`, and the program goes on from the answer:

* `Prog.run` executes a program alone, an oracle deciding how every call ends;
* `Safe` says that whatever the oracle decides, and whatever the others allowed
  by the contract do between two calls, every step keeps the guarantee and the
  program ends in the postcondition;
* `safe_run` reads a `Safe` fact back as a fact about `run`.
-/

namespace Effects

/-- How the environment ends one call. An `unacked` call was carried out but
its answer was lost, so the caller sees an error all the same. -/
inductive Outcome (ε : Type)
  | ok
  | rejected (e : ε)
  | unacked (e : ε)
  deriving DecidableEq, Repr

/-- The call took effect, whether or not the caller learned of it. -/
def Outcome.acted {ε : Type} : Outcome ε → Bool
  | .ok => true
  | .rejected _ => false
  | .unacked _ => true

inductive Prog (ε : Type) {C : Type} (R : C → Type) (α : Type)
  | pure (a : α)
  | throw (e : ε)
  | call (c : C) (k : Except ε (R c) → Prog ε R α)

namespace Prog

variable {ε C : Type} {R : C → Type} {α β γ : Type}

def bind : Prog ε R α → (α → Prog ε R β) → Prog ε R β
  | .pure a, f => f a
  | .throw e, _ => .throw e
  | .call c k, f => .call c fun r => (k r).bind f

instance : Monad (Prog ε R) where
  pure := .pure
  bind := .bind

@[simp] theorem pure_def (a : α) : (Pure.pure a : Prog ε R α) = .pure a := rfl

@[simp] theorem pure_bind (a : α) (f : α → Prog ε R β) : (Prog.pure a >>= f) = f a := rfl

@[simp] theorem throw_bind (e : ε) (f : α → Prog ε R β) :
    ((Prog.throw e : Prog ε R α) >>= f) = .throw e := rfl

@[simp] theorem call_bind (c : C) (k : Except ε (R c) → Prog ε R α) (f : α → Prog ε R β) :
    (Prog.call c k >>= f) = .call c fun r => k r >>= f := rfl

theorem bind_assoc (p : Prog ε R α) (f : α → Prog ε R β) (g : β → Prog ε R γ) :
    (p >>= f) >>= g = p >>= fun a => f a >>= g := by
  induction p with
  | pure | throw => rfl
  | call c k ih => simp only [call_bind, ih]

theorem bind_pure (p : Prog ε R α) : (p >>= fun a => Prog.pure a) = p := by
  induction p with
  | pure | throw => rfl
  | call c k ih => simp only [call_bind, ih]

instance : LawfulMonad (Prog ε R) := LawfulMonad.mk' _ bind_pure (fun _ _ => rfl) bind_assoc

/-- Answers become values and errors become exceptions. -/
def ofExcept : Except ε α → Prog ε R α
  | .ok a => .pure a
  | .error e => .throw e

@[simp] theorem ofExcept_ok (a : α) : (ofExcept (.ok a) : Prog ε R α) = .pure a := rfl

@[simp] theorem ofExcept_error (e : ε) : (ofExcept (.error e) : Prog ε R α) = .throw e := rfl

/-- Performs one call and waits for its answer. -/
def await (c : C) : Prog ε R (R c) := .call c ofExcept

theorem await_bind (c : C) (f : R c → Prog ε R β) :
    (await c >>= f) = .call c fun r => ofExcept r >>= f := rfl

/-- The body of a try block: its exception becomes a value. -/
def settle : Prog ε R α → Prog ε R (Except ε α)
  | .pure a => .pure (.ok a)
  | .throw e => .pure (.error e)
  | .call c k => .call c fun r => (k r).settle

/-- A finished program performs no further call. -/
def Finished : Prog ε R α → Prop
  | .call _ _ => False
  | _ => True

instance : ∀ p : Prog ε R α, Decidable p.Finished
  | .call _ _ => inferInstanceAs (Decidable False)
  | .pure _ => inferInstanceAs (Decidable True)
  | .throw _ => inferInstanceAs (Decidable True)

end Prog

/-- What calls do to a state `σ`. A call can also fail by itself, and then it
leaves the state alone. The flag tells whether the caller will learn of a success. -/
structure Semantics (ε σ : Type) {C : Type} (R : C → Type) where
  effect : (c : C) → (acked : Bool) → σ → Except ε (R c × σ)

section
variable {ε σ C : Type} {R : C → Type} {α β : Type}

def Semantics.exec (S : Semantics ε σ R) (c : C) (o : Outcome ε) (s : σ) : Except ε (R c) × σ :=
  match o with
  | .rejected e => (.error e, s)
  | .ok =>
    match S.effect c true s with
    | .ok (r, t) => (.ok r, t)
    | .error e => (.error e, s)
  | .unacked e =>
    match S.effect c false s with
    | .ok (_, t) => (.error e, t)
    | .error _ => (.error e, s)

@[simp] theorem exec_rejected (S : Semantics ε σ R) (c : C) (e : ε) (s : σ) :
    S.exec c (.rejected e) s = (.error e, s) := rfl

/-- Either the call did nothing and its error is reported, or it was carried out. -/
theorem exec_cases (S : Semantics ε σ R) (c : C) (o : Outcome ε) (s : σ) :
    (∃ e, S.exec c o s = (.error e, s)) ∨
    (∃ r t, o = .ok ∧ S.effect c true s = .ok (r, t) ∧ S.exec c o s = (.ok r, t)) ∨
    (∃ e r t, o = .unacked e ∧ S.effect c false s = .ok (r, t) ∧ S.exec c o s = (.error e, t)) := by
  cases o with
  | rejected e => exact .inl ⟨e, rfl⟩
  | ok =>
    cases h : S.effect c true s with
    | ok p => exact .inr (.inl ⟨p.1, p.2, rfl, rfl, by simp [Semantics.exec, h]⟩)
    | error e => exact .inl ⟨e, by simp [Semantics.exec, h]⟩
  | unacked e =>
    cases h : S.effect c false s with
    | ok p => exact .inr (.inr ⟨e, p.1, p.2, rfl, rfl, by simp [Semantics.exec, h]⟩)
    | error e' => exact .inl ⟨e, by simp [Semantics.exec, h]⟩

/-- The result of a run: what the program returned, the state it left and the
calls performed so far, newest first. -/
structure Ran (ε σ C α : Type) where
  value : Except ε α
  state : σ
  past : List C

/-- Runs a program alone. The oracle sees the earlier calls and the next one. -/
def Prog.run (S : Semantics ε σ R) (oracle : List C → C → Outcome ε) :
    Prog ε R α → List C → σ → Ran ε σ C α
  | .pure a, past, s => ⟨.ok a, s, past⟩
  | .throw e, past, s => ⟨.error e, s, past⟩
  | .call c k, past, s =>
    let r := S.exec c (oracle past c) s
    (k r.1).run S oracle (c :: past) r.2

/-- Continues a run with what follows a normal return. -/
def Ran.andThen (S : Semantics ε σ R) (oracle : List C → C → Outcome ε)
    (r : Ran ε σ C α) (f : α → Prog ε R β) : Ran ε σ C β :=
  match r.value with
  | .ok a => (f a).run S oracle r.past r.state
  | .error e => ⟨.error e, r.state, r.past⟩

theorem run_bind (S : Semantics ε σ R) (oracle : List C → C → Outcome ε)
    (p : Prog ε R α) (f : α → Prog ε R β) (past : List C) (s : σ) :
    (p >>= f).run S oracle past s = (p.run S oracle past s).andThen S oracle f := by
  induction p generalizing past s with
  | pure | throw => rfl
  | call c k ih => exact ih _ _ _

theorem run_settle (S : Semantics ε σ R) (oracle : List C → C → Outcome ε)
    (p : Prog ε R α) (past : List C) (s : σ) :
    p.settle.run S oracle past s =
      ⟨.ok (p.run S oracle past s).value, (p.run S oracle past s).state,
        (p.run S oracle past s).past⟩ := by
  induction p generalizing past s with
  | pure | throw => rfl
  | call c k ih => exact ih _ _ _

theorem run_await (S : Semantics ε σ R) (oracle : List C → C → Outcome ε)
    (c : C) (past : List C) (s : σ) :
    (Prog.await c).run S oracle past s =
      ⟨(S.exec c (oracle past c) s).1, (S.exec c (oracle past c) s).2, c :: past⟩ := by
  simp only [Prog.await, Prog.run]
  cases (S.exec c (oracle past c) s).1 <;> rfl

/-- What a program may expect of others and what it owes them: which ends of a
call are considered, what others may do between two calls, and what each of
its own calls does. -/
structure Contract (ε σ C : Type) where
  allowed : C → Outcome ε → σ → Prop
  rely : σ → σ → Prop
  guar : σ → σ → Prop

/-- A program alone, every end of every call considered. -/
def Contract.alone (ε σ C : Type) : Contract ε σ C :=
  ⟨fun _ _ _ => True, Eq, fun _ _ => True⟩

def Safe (S : Semantics ε σ R) (K : Contract ε σ C) (Q : Except ε α → σ → Prop) :
    Prog ε R α → σ → Prop
  | .pure a, s => Q (.ok a) s
  | .throw e, s => Q (.error e) s
  | .call c k, s => ∀ t, K.rely s t → ∀ o, K.allowed c o t →
      K.guar t (S.exec c o t).2 ∧ Safe S K Q (k (S.exec c o t).1) (S.exec c o t).2

variable {S : Semantics ε σ R} {K : Contract ε σ C}

theorem Safe.mono {Q Q' : Except ε α → σ → Prop} (hq : ∀ r s, Q r s → Q' r s)
    {p : Prog ε R α} {s : σ} (h : Safe S K Q p s) : Safe S K Q' p s := by
  induction p generalizing s with
  | pure a => exact hq _ _ h
  | throw e => exact hq _ _ h
  | call c k ih =>
    intro t ht o ho
    obtain ⟨hg, hk⟩ := h t ht o ho
    exact ⟨hg, ih _ hk⟩

/-- What must hold after the first part of a sequence. -/
def After (S : Semantics ε σ R) (K : Contract ε σ C) (Q : Except ε β → σ → Prop)
    (f : α → Prog ε R β) : Except ε α → σ → Prop
  | .ok a, s => Safe S K Q (f a) s
  | .error e, s => Q (.error e) s

theorem Safe.bind {Q : Except ε β → σ → Prop} {p : Prog ε R α} {f : α → Prog ε R β} {s : σ}
    (h : Safe S K (After S K Q f) p s) : Safe S K Q (p >>= f) s := by
  induction p generalizing s with
  | pure | throw => exact h
  | call c k ih =>
    intro t ht o ho
    obtain ⟨hg, hk⟩ := h t ht o ho
    exact ⟨hg, ih _ hk⟩

theorem Safe.settle {Q : Except ε (Except ε α) → σ → Prop} {p : Prog ε R α} {s : σ}
    (h : Safe S K (fun r s => Q (.ok r) s) p s) : Safe S K Q p.settle s := by
  induction p generalizing s with
  | pure | throw => exact h
  | call c k ih =>
    intro t ht o ho
    obtain ⟨hg, hk⟩ := h t ht o ho
    exact ⟨hg, ih _ hk⟩

theorem Safe.await {Q : Except ε (R c) → σ → Prop} {s : σ}
    (h : ∀ t, K.rely s t → ∀ o, K.allowed c o t →
      K.guar t (S.exec c o t).2 ∧ Q (S.exec c o t).1 (S.exec c o t).2) :
    Safe S K Q (Prog.await c) s := by
  intro t ht o ho
  obtain ⟨hg, hq⟩ := h t ht o ho
  refine ⟨hg, ?_⟩
  cases hr : (S.exec c o t).1 <;> rw [hr] at hq <;> exact hq

/-- An invariant that both parts of a sequence keep. -/
theorem Safe.andThen {I : σ → Prop} {p : Prog ε R α} {f : α → Prog ε R β} {s : σ}
    (hp : Safe S K (fun _ s => I s) p s) (hf : ∀ a s, I s → Safe S K (fun _ s => I s) (f a) s) :
    Safe S K (fun _ s => I s) (p >>= f) s := by
  refine Safe.bind (hp.mono ?_)
  rintro (e | a) t ht
  · exact ht
  · exact hf a t ht

/-- Interference before a program starts is interference it was ready for. -/
theorem Safe.rely {Q : Except ε α → σ → Prop} (trans : ∀ {a b c}, K.rely a b → K.rely b c → K.rely a c)
    (stable : ∀ r {a b}, K.rely a b → Q r a → Q r b) {p : Prog ε R α} {s t : σ}
    (h : Safe S K Q p s) (hst : K.rely s t) : Safe S K Q p t := by
  cases p with
  | pure a => exact stable _ hst h
  | throw e => exact stable _ hst h
  | call c k => exact fun u hu o ho => h u (trans hst hu) o ho

/-- A safe program run alone, under any oracle that stays within the contract,
ends in its postcondition. -/
theorem safe_run {Q : Except ε α → σ → Prop} (refl : ∀ s, K.rely s s)
    {oracle : List C → C → Outcome ε} (within : ∀ past c s, K.allowed c (oracle past c) s)
    {p : Prog ε R α} (past : List C) {s : σ} (h : Safe S K Q p s) :
    Q (p.run S oracle past s).value (p.run S oracle past s).state := by
  induction p generalizing past s with
  | pure | throw => exact h
  | call c k ih => exact ih _ _ (h s (refl s) _ (within past c s)).2

end

end Effects
