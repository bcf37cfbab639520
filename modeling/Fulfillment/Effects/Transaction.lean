import Fulfillment.Effects.Program

/-!
# A transaction alone

The statements of a transaction are a program. They work on a copy of the
tables, which replaces the tables when the transaction commits.
-/

namespace Effects

variable {ε σ C α : Type} {R : C → Type}

theorem exec_ok {S : Semantics ε σ R} {c : C} {s t : σ} {r : R c} (h : S.effect c true s = .ok (r, t)) :
    S.exec c .ok s = (.ok r, t) := by
  simp only [Semantics.exec, h]

theorem exec_error {S : Semantics ε σ R} {c : C} {s : σ} {e : ε} (h : S.effect c true s = .error e) :
    S.exec c .ok s = (.error e, s) := by
  simp only [Semantics.exec, h]

theorem run_await_ok {S : Semantics ε σ R} {oracle : List C → C → Outcome ε} {c : C} {past : List C} {s t : σ}
    {a : R c} (h : S.exec c (oracle past c) s = (.ok a, t)) (k : R c → Prog ε R α) :
    (Prog.await c >>= k).run S oracle past s = (k a).run S oracle (c :: past) t := by
  rw [run_bind, run_await, h]
  rfl

theorem run_await_error {S : Semantics ε σ R} {oracle : List C → C → Outcome ε} {c : C} {past : List C} {s t : σ}
    {e : ε} (h : S.exec c (oracle past c) s = (.error e, t)) (k : R c → Prog ε R α) :
    (Prog.await c >>= k).run S oracle past s = ⟨.error e, t, c :: past⟩ := by
  rw [run_bind, run_await, h]
  rfl

/-- How the steps of one transaction end. A `COMMIT` that is `unacked` was
carried out, and its caller sees an error. -/
structure TxOutcomes (ε C : Type) where
  begin : Outcome ε
  statement : List C → C → Outcome ε
  commit : Outcome ε

/-- Nothing fails. -/
def TxOutcomes.allOk : TxOutcomes ε C := ⟨.ok, fun _ _ => .ok, .ok⟩

/-- What the body does before its `COMMIT`, if the transaction begins at all. -/
def bodyRun (S : Semantics ε σ R) (f : TxOutcomes ε C) (body : Prog ε R α) (s : σ) : Except ε (α × σ) :=
  match f.begin with
  | .rejected e | .unacked e => .error e
  | .ok =>
    let r := body.run S f.statement [] s
    r.value.map fun a => (a, r.state)

/-- A body that throws is rolled back, also when the `ROLLBACK` itself fails:
its connection is closed then, and the server gives the transaction up. -/
def transact (S : Semantics ε σ R) (f : TxOutcomes ε C) (body : Prog ε R α) (s : σ) : Except ε α × σ :=
  match bodyRun S f body s with
  | .error e => (.error e, s)
  | .ok (a, t) =>
    match f.commit with
    | .ok => (.ok a, t)
    | .rejected e => (.error e, s)
    | .unacked e => (.error e, t)

variable {S : Semantics ε σ R} {f : TxOutcomes ε C} {body : Prog ε R α} {s : σ}

/-- What holds of a body that returned. -/
theorem bodyRun_returns {r : α × σ} {P : α → σ → Prop} (h : bodyRun S f body s = .ok r)
    (ran : ∀ {a}, (body.run S f.statement [] s).value = .ok a → P a (body.run S f.statement [] s).state) :
    P r.1 r.2 := by
  unfold bodyRun at h
  cases hbegin : f.begin with
  | rejected e | unacked e =>
    rw [hbegin] at h
    cases h
  | ok =>
    rw [hbegin] at h
    cases hv : (body.run S f.statement [] s).value with
    | error e =>
      simp only [hv, Except.map] at h
      cases h
    | ok a =>
      simp only [hv, Except.map] at h
      cases h
      exact ran hv

theorem transact_of_error {e : ε} (h : bodyRun S f body s = .error e) : transact S f body s = (.error e, s) := by
  unfold transact
  rw [h]

theorem transact_of_ok {a : α} {t : σ} (h : bodyRun S f body s = .ok (a, t)) :
    transact S f body s =
      match f.commit with
      | .ok => (.ok a, t)
      | .rejected e => (.error e, s)
      | .unacked e => (.error e, t) := by
  unfold transact
  rw [h]

/-- A transaction that throws changed nothing, unless its `COMMIT` was carried
out and the answer got lost. -/
theorem transact_throws {e : ε} (h : (transact S f body s).1 = .error e) (acked : ∀ e, f.commit ≠ .unacked e) :
    (transact S f body s).2 = s := by
  cases hb : bodyRun S f body s with
  | error e => rw [transact_of_error hb]
  | ok r =>
    rw [transact_of_ok hb] at h ⊢
    cases hc : f.commit with
    | ok =>
      rw [hc] at h
      cases h
    | rejected e => rfl
    | unacked e => exact absurd hc (acked e)

end Effects
