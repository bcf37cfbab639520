import Fulfillment.Effects.Expand

/-!
# Where a program leads

What a program does along every path on which its calls succeed, whatever they
answer within bounds.

* `Prog.Meets`: it comes to one kind of call before another kind;
* `Prog.Honours`: what a call obliges it to do, it does later on.
-/

namespace Effects

variable {ε C : Type} {R : C → Type} {α β : Type}

namespace Prog

/-- A call of the goal comes before any bad call, or the program ends as it may. -/
def Meets (fits : (c : C) → R c → Prop) (goal bad : C → Prop) (ends : Except ε α → Prop) : Prog ε R α → Prop
  | .pure a => ends (.ok a)
  | .throw e => ends (.error e)
  | .call c k => goal c ∨ (¬bad c ∧ ∀ r, fits c r → (k (.ok r)).Meets fits goal bad ends)

/-- A call of the goal comes on every path. -/
def Owes (goal : C → Prop) (p : Prog ε R α) : Prop :=
  p.Meets (fun _ _ => True) goal (fun _ => False) fun _ => False

/-- Every call is sound, and is followed by the calls that its answer obliges to. -/
def Honours (fits : (c : C) → R c → Prop) (sound : C → Prop) (obliges : (c : C) → R c → (C → Prop) → Prop) :
    Prog ε R α → Prop
  | .call c k =>
    sound c ∧ ∀ r, fits c r → (∀ goal, obliges c r goal → (k (.ok r)).Owes goal) ∧ (k (.ok r)).Honours fits sound obliges
  | _ => True

variable {fits : (c : C) → R c → Prop} {goal bad : C → Prop} {ends : Except ε α → Prop}

theorem Meets.mono {fits' : (c : C) → R c → Prop} {goal' bad' : C → Prop} {ends' : Except ε α → Prop}
    (hfits : ∀ c r, fits' c r → fits c r) (hgoal : ∀ c, goal c → goal' c) (hbad : ∀ c, bad' c → goal' c ∨ bad c)
    (hends : ∀ r, ends r → ends' r) {p : Prog ε R α} (h : p.Meets fits goal bad ends) :
    p.Meets fits' goal' bad' ends' := by
  induction p with
  | pure a => exact hends _ h
  | throw e => exact hends _ h
  | call c k ih =>
    rcases h with reached | ⟨fine, rest⟩
    · exact .inl (hgoal c reached)
    · by_cases reached : goal' c
      · exact .inl reached
      · refine .inr ⟨fun hb => ?_, fun r hr => ih _ (rest r (hfits c r hr))⟩
        exact (hbad c hb).elim reached fine

/-- A goal that the first part comes to on every path. -/
theorem Meets.first {p : Prog ε R α} (h : p.Meets fits goal bad fun _ => False) (f : α → Prog ε R β)
    {ends : Except ε β → Prop} : (p >>= f).Meets fits goal bad ends := by
  induction p with
  | pure a => exact h.elim
  | throw e => exact h.elim
  | call c k ih =>
    rcases h with reached | ⟨fine, rest⟩
    · exact .inl reached
    · exact .inr ⟨fine, fun r hr => ih _ (rest r hr)⟩

theorem Meets.bind {p : Prog ε R α} {f : α → Prog ε R β} {ends : Except ε β → Prop}
    (h : p.Meets fits goal bad fun r => match r with
      | .ok a => (f a).Meets fits goal bad ends
      | .error e => ends (.error e)) : (p >>= f).Meets fits goal bad ends := by
  induction p with
  | pure a => exact h
  | throw e => exact h
  | call c k ih =>
    rcases h with reached | ⟨fine, rest⟩
    · exact .inl reached
    · exact .inr ⟨fine, fun r hr => ih _ (rest r hr)⟩

theorem Meets.settle {p : Prog ε R α} {ends : Except ε (Except ε α) → Prop}
    (h : p.Meets fits goal bad fun r => ends (.ok r)) : p.settle.Meets fits goal bad ends := by
  induction p with
  | pure a => exact h
  | throw e => exact h
  | call c k ih =>
    rcases h with reached | ⟨fine, rest⟩
    · exact .inl reached
    · exact .inr ⟨fine, fun r hr => ih _ (rest r hr)⟩

theorem Meets.await {c : C} {ends : Except ε (R c) → Prop}
    (h : goal c ∨ (¬bad c ∧ ∀ r, fits c r → ends (.ok r))) : (Prog.await c : Prog ε R (R c)).Meets fits goal bad ends := h

/-- One call, and then what follows its answer. -/
theorem Meets.await_bind {c : C} {f : R c → Prog ε R β} {ends : Except ε β → Prop} (fine : ¬bad c)
    (rest : ∀ r, fits c r → (f r).Meets fits goal bad ends) : (Prog.await c >>= f).Meets fits goal bad ends :=
  .inr ⟨fine, rest⟩

/-- A program that a success of the call leaves. -/
theorem Meets.answered {c : C} {k : Except ε (R c) → Prog ε R α} (h : (Prog.call c k).Meets fits goal bad ends)
    (unreached : ¬goal c) {r : R c} (hr : fits c r) : ¬bad c ∧ (k (.ok r)).Meets fits goal bad ends := by
  rcases h with reached | ⟨fine, rest⟩
  · exact absurd reached unreached
  · exact ⟨fine, rest r hr⟩

theorem Meets.of_calls {p : Prog ε R α} (h : p.Calls fun c => ¬bad c) (hends : ∀ r, ends r) :
    p.Meets fits goal bad ends := by
  induction p with
  | pure a => exact hends _
  | throw e => exact hends _
  | call c k ih => exact .inr ⟨h.1, fun r _ => ih _ (h.2 _)⟩

theorem mem_past_run {σ : Type} (S : Semantics ε σ R) (oracle : List C → C → Outcome ε) {c : C} {past : List C}
    (h : c ∈ past) (p : Prog ε R α) (s : σ) : c ∈ (p.run S oracle past s).past := by
  induction p generalizing past s with
  | pure | throw => exact h
  | call c' k ih => exact ih _ (List.mem_cons_of_mem _ h) _

/-- A program alone comes to the goal, if up to there it only reads what fits. -/
theorem Meets.run {σ : Type} {S : Semantics ε σ R} {s : σ} {p : Prog ε R α} (h : p.Meets fits goal bad ends)
    (reads : ∀ c, ¬bad c → ∃ r, S.exec c .ok s = (.ok r, s) ∧ fits c r) (past : List C) :
    (∃ c ∈ (p.run S (fun _ _ => .ok) past s).past, goal c) ∨ ends (p.run S (fun _ _ => .ok) past s).value := by
  induction p generalizing past with
  | pure a => exact .inr h
  | throw e => exact .inr h
  | call c k ih =>
    rcases h with reached | ⟨fine, rest⟩
    · exact .inl ⟨c, mem_past_run S _ List.mem_cons_self _ _, reached⟩
    · obtain ⟨r, answered, hr⟩ := reads c fine
      simp only [Prog.run, answered]
      exact ih _ (rest r hr) _

theorem Owes.bind {p : Prog ε R α} (h : p.Owes goal) (f : α → Prog ε R β) : (p >>= f).Owes goal :=
  Meets.first h f

theorem Owes.settle {p : Prog ε R α} (h : p.Owes goal) : p.settle.Owes goal := Meets.settle h

theorem Owes.not_finished {p : Prog ε R α} (h : p.Owes goal) : ¬p.Finished := by
  cases p with
  | pure a => exact h.elim
  | throw e => exact h.elim
  | call c k => exact id

variable {sound : C → Prop} {obliges : (c : C) → R c → (C → Prop) → Prop}

theorem Honours.bind {p : Prog ε R α} {f : α → Prog ε R β} (hp : p.Honours fits sound obliges)
    (hf : ∀ a, (f a).Honours fits sound obliges) : (p >>= f).Honours fits sound obliges := by
  induction p with
  | pure a => exact hf a
  | throw e => trivial
  | call c k ih =>
    refine ⟨hp.1, fun r hr => ?_⟩
    obtain ⟨owes, rest⟩ := hp.2 r hr
    exact ⟨fun goal hgoal => (owes goal hgoal).bind f, ih _ rest⟩

theorem Honours.settle {p : Prog ε R α} (hp : p.Honours fits sound obliges) : p.settle.Honours fits sound obliges := by
  induction p with
  | pure a => trivial
  | throw e => trivial
  | call c k ih =>
    refine ⟨hp.1, fun r hr => ?_⟩
    obtain ⟨owes, rest⟩ := hp.2 r hr
    exact ⟨fun goal hgoal => (owes goal hgoal).settle, ih _ rest⟩

/-- A call that obliges to nothing. -/
theorem Honours.await {c : C} (hc : sound c) (free : ∀ r goal, ¬obliges c r goal) :
    (Prog.await c : Prog ε R (R c)).Honours fits sound obliges :=
  ⟨hc, fun r _ => ⟨fun goal hgoal => absurd hgoal (free r goal), trivial⟩⟩

theorem Honours.await_bind {c : C} {f : R c → Prog ε R β} (hc : sound c)
    (rest : ∀ r, fits c r → (∀ goal, obliges c r goal → (f r).Owes goal) ∧ (f r).Honours fits sound obliges) :
    (Prog.await c >>= f).Honours fits sound obliges := ⟨hc, rest⟩

end Prog

/-- A program whose every call keeps an assertion that others leave true. -/
theorem Safe.of_calls {σ : Type} {S : Semantics ε σ R} {K : Contract ε σ C} {P : C → Prop} {I : σ → Prop}
    (stable : ∀ s t, K.rely s t → I s → I t)
    (keeps : ∀ c, P c → ∀ o s, K.allowed c o s → I s → K.guar s (S.exec c o s).2 ∧ I (S.exec c o s).2) {p : Prog ε R α}
    (h : p.Calls P) {s : σ} (holds : I s) : Safe S K (fun _ => I) p s := by
  induction p generalizing s with
  | pure a => exact holds
  | throw e => exact holds
  | call c k ih =>
    intro t ht o ho
    obtain ⟨guar, holds⟩ := keeps c h.1 o t ho (stable s t ht holds)
    exact ⟨guar, ih _ (h.2 _) holds⟩

end Effects
