import Fulfillment.Effects.Program

/-!
# Programs that are a list of calls

Such a program performs its calls in order and throws at the first that fails.
`Performs.run` reads its run off the list.
-/

namespace Effects

variable {ε σ C α β : Type} {R : C → Type}

/-- Calls one after another, up to the first that fails: whether all were
answered, and what they leave. -/
def Semantics.execAll (S : Semantics ε σ R) (oracle : List C → C → Outcome ε) : List C → List C → σ → Bool × σ
  | [], _, s => (true, s)
  | c :: calls, past, s =>
    match S.exec c (oracle past c) s with
    | (.ok _, t) => S.execAll oracle calls (c :: past) t
    | (.error _, t) => (false, t)

theorem execAll_cons_state (S : Semantics ε σ R) (oracle : List C → C → Outcome ε) (c : C) (calls past : List C) (s : σ) :
    (S.execAll oracle (c :: calls) past s).2 = (S.exec c (oracle past c) s).2 ∨
    (S.execAll oracle (c :: calls) past s).2 = (S.execAll oracle calls (c :: past) (S.exec c (oracle past c) s).2).2 := by
  rw [Semantics.execAll]
  rcases S.exec c (oracle past c) s with ⟨e | r, t⟩
  · exact .inl rfl
  · exact .inr rfl

/-- The program performs these calls and no others. -/
inductive Performs : Prog ε R α → List C → Prop
  | done (a : α) : Performs (.pure a) []
  | call (c : C) (k : Except ε (R c) → Prog ε R α) (calls : List C) (onward : ∀ r, Performs (k (.ok r)) calls)
      (throws : ∀ e, k (.error e) = .throw e) : Performs (.call c k) (c :: calls)

theorem Performs.bind {p : Prog ε R α} {f : α → Prog ε R β} {first second : List C} (hp : Performs p first)
    (hf : ∀ a, Performs (f a) second) : Performs (p >>= f) (first ++ second) := by
  induction hp with
  | done a => exact hf a
  | call c k calls onward throws ih =>
    apply Performs.call
    · exact ih
    · intro e
      rw [throws]
      rfl

theorem Performs.await (c : C) : Performs (Prog.await c : Prog ε R (R c)) [c] :=
  .call c _ [] (fun r => .done r) fun _ => rfl

/-- Performs one call and goes on from its answer. -/
theorem Performs.await_bind {c : C} {f : R c → Prog ε R β} {calls : List C} (hf : ∀ r, Performs (f r) calls) :
    Performs (Prog.await c >>= f) (c :: calls) :=
  (Performs.await c).bind hf

theorem Performs.run {S : Semantics ε σ R} {oracle : List C → C → Outcome ε} {p : Prog ε R α} {calls : List C}
    (h : Performs p calls) (past : List C) (s : σ) :
    (p.run S oracle past s).state = (S.execAll oracle calls past s).2 ∧
    ((p.run S oracle past s).value.toBool = (S.execAll oracle calls past s).1) := by
  induction h generalizing past s with
  | done a => exact ⟨rfl, rfl⟩
  | call c k calls onward throws ih =>
    rw [Prog.run, Semantics.execAll]
    rcases S.exec c (oracle past c) s with ⟨e | r, t⟩
    · simp only [throws]
      exact ⟨rfl, rfl⟩
    · exact ih r _ _

/-- The program performs these calls as long as each of them succeeds. -/
inductive Follows : Prog ε R α → List C → Prop
  | done (a : α) : Follows (.pure a) []
  | call (c : C) (k : Except ε (R c) → Prog ε R α) (calls : List C) (onward : ∀ r, Follows (k (.ok r)) calls) :
    Follows (.call c k) (c :: calls)

/-- A program whose exceptions are caught, and what comes of its result. -/
theorem Performs.settle {p : Prog ε R α} {calls : List C} (h : Performs p calls) {f : Except ε α → Prog ε R β}
    (returns : ∀ a, Follows (f (.ok a)) []) : Follows (p.settle >>= f) calls := by
  induction h with
  | done a => exact returns a
  | call c k calls onward throws ih => exact .call c _ calls ih

end Effects
