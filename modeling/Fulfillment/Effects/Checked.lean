import Fulfillment.Effects.Transaction

/-!
# Calls that are refused for what they find

A semantics restricts another if it does the same and refuses more. To whoever
makes the calls a refusal is one more way to fail, so every run of the one is a
run of the other in which some calls fail.
-/

namespace Effects

variable {ε σ C : Type} {R : C → Type} {α : Type}

/-- The calls that `holds` does not let pass are refused. -/
def Semantics.checked (S : Semantics ε σ R) (holds : C → σ → Bool) (refusal : ε) : Semantics ε σ R where
  effect c acked s := (S.effect c acked s).bind fun r => if holds c s then .ok r else .error refusal

/-- Whatever `S` lets a call do, `T` lets it do. -/
def Semantics.Restricts (S T : Semantics ε σ R) : Prop :=
  ∀ c acked s r, S.effect c acked s = .ok r → T.effect c acked s = .ok r

theorem checked_ok {S : Semantics ε σ R} {holds : C → σ → Bool} {refusal : ε} {c : C} {acked : Bool} {s : σ} {r : R c × σ} :
    (S.checked holds refusal).effect c acked s = .ok r ↔ S.effect c acked s = .ok r ∧ holds c s = true := by
  simp only [Semantics.checked]
  cases S.effect c acked s with
  | error e => simp [Except.bind]
  | ok r' =>
    cases holds c s with
    | true => simp [Except.bind]
    | false => simp [Except.bind]

theorem checked_restricts (S : Semantics ε σ R) (holds : C → σ → Bool) (refusal : ε) :
    (S.checked holds refusal).Restricts S := fun _ _ _ _ h => (checked_ok.mp h).1

/-- A run asks the oracle only about what comes after its past. -/
theorem run_congr {S : Semantics ε σ R} {oracle oracle' : List C → C → Outcome ε} {past : List C}
    (agree : ∀ past' c, past.length ≤ past'.length → oracle past' c = oracle' past' c) (p : Prog ε R α) (s : σ) :
    p.run S oracle past s = p.run S oracle' past s := by
  induction p generalizing past s with
  | pure | throw => rfl
  | call c k ih =>
    rw [Prog.run, Prog.run, agree past c le_rfl]
    apply ih
    intro past' c' longer
    exact agree past' c' ((Nat.le_succ _).trans longer)

namespace Semantics.Restricts

variable {S T : Semantics ε σ R}

/-- A call that is refused is one that was rejected. -/
theorem exec (h : S.Restricts T) (c : C) (o : Outcome ε) (s : σ) : ∃ o', S.exec c o s = T.exec c o' s := by
  rcases exec_cases S c o s with ⟨e, hexec⟩ | ⟨r, t, -, heffect, hexec⟩ | ⟨e, r, t, -, heffect, hexec⟩
  · exact ⟨.rejected e, hexec⟩
  · refine ⟨.ok, ?_⟩
    rw [hexec, Semantics.exec, h c true s _ heffect]
  · refine ⟨.unacked e, ?_⟩
    rw [hexec, Semantics.exec, h c false s _ heffect]

theorem run (h : S.Restricts T) (oracle : List C → C → Outcome ε) (p : Prog ε R α) (past : List C) (s : σ) :
    ∃ oracle', p.run S oracle past s = p.run T oracle' past s := by
  classical
  induction p generalizing past s with
  | pure | throw => exact ⟨oracle, rfl⟩
  | call c k ih =>
    obtain ⟨o, first⟩ := h.exec c (oracle past c) s
    obtain ⟨later, rest⟩ := ih (S.exec c (oracle past c) s).1 (c :: past) (S.exec c (oracle past c) s).2
    refine ⟨fun past' c' => if past'.length ≤ past.length then o else later past' c', ?_⟩
    rw [Prog.run, Prog.run, if_pos le_rfl, ← first, rest]
    apply run_congr
    intro past' c' longer
    rw [if_neg (Nat.not_le.mpr longer)]

theorem transact (h : S.Restricts T) (f : TxOutcomes ε C) (body : Prog ε R α) (s : σ) :
    ∃ f', Effects.transact S f body s = Effects.transact T f' body s := by
  obtain ⟨statement, hrun⟩ := h.run f.statement body [] s
  refine ⟨⟨f.begin, statement, f.commit⟩, ?_⟩
  simp only [Effects.transact, bodyRun, hrun]

end Semantics.Restricts

end Effects
