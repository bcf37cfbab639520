import Fulfillment.Consumers.NoLoss

/-!
# The counters of a consumer

`handleMessage` again, now with `processedCount` and `failureCount`.
`countedHandleMessage_erases` says that it makes the same calls.
-/

namespace Fulfillment

open Js Effects

structure Counters where
  processedCount : Nat
  failureCount : Nat
  deriving DecidableEq, Repr

namespace Consumer

/-- The retry loop and what follows it, with the counters. -/
def countedRetryLoop (c : Consumer) (env : Surroundings) (message : EachMessagePayload) (e : EventEnvelope)
    (counters : Counters) : (left attempt : Nat) → (lastError : Option JsError) → Program Counters
  | 0, attempt, lastError => do
    let counters := { counters with failureCount := counters.failureCount + 1 }
    c.handleExhaustedRetriesDLQ env message e (lastError.getD { message := "Unknown processing error" }) attempt
    return counters
  | left + 1, attempt, _ => do
    match ← (c.tryProcess env (attempt + 1) e).settle with
    | .ok () => return { counters with processedCount := counters.processedCount + 1 }
    | .error err => c.countedRetryLoop env message e counters left (attempt + 1) (some err)

/-- `handleMessage` with the counters, which a malformed message leaves alone. -/
def countedHandleMessage (c : Consumer) (env : Surroundings) (message : EachMessagePayload) (counters : Counters) :
    Program Counters :=
  let raw := message.value.getD ""
  match parseEnvelope env.uuid env.now raw with
  | none => do
    c.handleNonRetryableDLQ env message raw env.parseError
    return counters
  | some e => do
    let alreadyProcessed : Bool ← await (.isEventProcessed e.eventId c.consumerName)
    if alreadyProcessed then return counters
    else c.countedRetryLoop env message e counters c.maxRetries 0 none

theorem countedRetryLoop_erases (c : Consumer) (env : Surroundings) (message : EachMessagePayload) (e : EventEnvelope)
    (counters : Counters) (left : Nat) : ∀ (attempt : Nat) (lastError : Option JsError),
    (c.countedRetryLoop env message e counters left attempt lastError >>= fun _ => pure ()) =
      c.retryLoop env message e left attempt lastError := by
  induction left with
  | zero =>
    intro attempt lastError
    rw [countedRetryLoop, retryLoop, Prog.bind_assoc]
    exact Prog.bind_pure _
  | succ left ih =>
    intro attempt lastError
    rw [countedRetryLoop, retryLoop, Prog.bind_assoc]
    congr 1
    funext result
    cases result with
    | ok _ => rfl
    | error err => exact ih (attempt + 1) (some err)

/-- Without its counters it is `handleMessage`. -/
theorem countedHandleMessage_erases (c : Consumer) (env : Surroundings) (message : EachMessagePayload)
    (counters : Counters) :
    (c.countedHandleMessage env message counters >>= fun _ => pure ()) = c.handleMessage env message := by
  cases parsed : parseEnvelope env.uuid env.now (message.value.getD "") with
  | none =>
    simp only [countedHandleMessage, handleMessage, parsed, Prog.bind_assoc]
    exact Prog.bind_pure _
  | some e =>
    simp only [countedHandleMessage, handleMessage, parsed, handleEnvelope, Prog.bind_assoc]
    congr 1
    funext alreadyProcessed
    cases alreadyProcessed with
    | true => rfl
    | false => exact countedRetryLoop_erases c env message e counters c.maxRetries 0 none

end Consumer

/-! ## Attempts that fail -/

/-- The attempts of `processEvent` among the calls. -/
def processRuns (calls : List Call) : Nat :=
  calls.countP fun
    | .processEvent _ _ => true
    | _ => false

/-- The transactions among the calls that persist a dead letter. -/
def letterTransactions (calls : List Call) : List Call :=
  calls.filter fun
    | .persistDeadLetter _ _ _ => true
    | _ => false

/-- A part of the world that `processEvent` leaves alone. -/
def DomainWork.Leaves {β : Type} (D : DomainWork) (view : World → β) : Prop :=
  ∀ e attempt w, view { w with db := D.effect e attempt w.db } = view w

section

variable {D : DomainWork} {f : Faults} {consumerName : String} {n : Nat} {env : Surroundings}
  {message : EachMessagePayload} {e : EventEnvelope} {counters : Counters} {β : Type} {view : World → β}

/-- A failed attempt leaves the tables of the consumer base alone, and is one call. -/
theorem tryProcess_fails {i : Nat} (fails : f.process i ≠ .ok) (past : List Call) (w : World) :
    ∃ w', ((baseConsumer consumerName n).tryProcess env i e).run (platform D) f.oracle past w =
        ⟨.error (f.attemptError i), w', .processEvent e i :: past⟩ ∧
      (w' = w ∨ w' = { w with db := D.effect e i w.db }) := by
  have works : columnsFit (.processEvent e i) w = true := rfl
  simp only [Consumer.tryProcess, baseConsumer, run_bind, run_await, Faults.oracle, Ran.andThen,
    platform_exec_value, platform_exec_state, Faults.attemptError]
  cases hp : f.process i with
  | ok => exact absurd hp fails
  | rejected err => exact ⟨w, rfl, .inl rfl⟩
  | unacked err => exact ⟨{ w with db := D.effect e i w.db }, rfl, .inr rfl⟩

/-- The attempts that fail before the next one. -/
theorem countedRetryLoop_skips (leaves : D.Leaves view) (left m : Nat) :
    ∀ (attempt : Nat) (lastError : Option JsError) (past : List Call) (w : World),
    (∀ i, attempt < i → i ≤ attempt + m → f.process i ≠ .ok) →
    ∃ past' w', ((baseConsumer consumerName n).countedRetryLoop env message e counters (left + m) attempt lastError).run
        (platform D) f.oracle past w =
      ((baseConsumer consumerName n).countedRetryLoop env message e counters left (attempt + m)
        (if m = 0 then lastError else some (f.attemptError (attempt + m)))).run (platform D) f.oracle past' w' ∧
      view w' = view w ∧ processRuns past' = processRuns past + m ∧ letterTransactions past' = letterTransactions past := by
  induction m with
  | zero =>
    intro attempt lastError past w _
    exact ⟨past, w, rfl, rfl, rfl, rfl⟩
  | succ m ih =>
    intro attempt lastError past w fails
    obtain ⟨w₁, throws, state⟩ := @tryProcess_fails D f consumerName n env e (attempt + 1)
      (fails (attempt + 1) (by omega) (by omega)) past w
    obtain ⟨past', w', skipped, same, runs, letters⟩ := ih (attempt + 1) (some (f.attemptError (attempt + 1)))
      (.processEvent e (attempt + 1) :: past) w₁ fun i low high => fails i (by omega) (by omega)
    have first : view w₁ = view w := by
      rcases state with rfl | rfl
      · rfl
      · exact leaves e (attempt + 1) w
    have counted : processRuns (.processEvent e (attempt + 1) :: past) = processRuns past + 1 := List.countP_cons_of_pos rfl
    have unlettered : letterTransactions (.processEvent e (attempt + 1) :: past) = letterTransactions past := rfl
    refine ⟨past', w', ?_, same.trans first, by omega, letters.trans unlettered⟩
    have unfolded : ((baseConsumer consumerName n).countedRetryLoop env message e counters (left + (m + 1)) attempt
        lastError).run (platform D) f.oracle past w =
        ((baseConsumer consumerName n).countedRetryLoop env message e counters (left + m) (attempt + 1)
          (some (f.attemptError (attempt + 1)))).run (platform D) f.oracle (.processEvent e (attempt + 1) :: past) w₁ := by
      rw [← Nat.add_assoc, Consumer.countedRetryLoop, run_bind, run_settle, throws]
      rfl
    have attempts : attempt + 1 + m = attempt + (m + 1) := by omega
    have error : (if m = 0 then some (f.attemptError (attempt + 1)) else some (f.attemptError (attempt + 1 + m))) =
        some (f.attemptError (attempt + (m + 1))) := by
      split
      · rename_i none
        rw [none]
      · rw [attempts]
    rw [unfolded, skipped, error, attempts, if_neg (Nat.succ_ne_zero m)]

/-- The retry loop when every attempt that is left fails. -/
theorem retryLoop_exhausts (leaves : D.Leaves view) (left attempt : Nat) (lastError : Option JsError)
    (past : List Call) (w : World) (fails : ∀ i, attempt < i → i ≤ attempt + left → f.process i ≠ .ok) :
    ∃ past' w', ((baseConsumer consumerName n).retryLoop env message e left attempt lastError).run
        (platform D) f.oracle past w =
      ((baseConsumer consumerName n).handleExhaustedRetriesDLQ env message e
        (if left = 0 then lastError.getD { message := "Unknown processing error" }
          else f.attemptError (attempt + left)) (attempt + left)).run (platform D) f.oracle past' w' ∧
      view w' = view w := by
  have erased := (baseConsumer consumerName n).countedRetryLoop_erases env message e ⟨0, 0⟩
  obtain ⟨past', w', skipped, same, -, -⟩ := @countedRetryLoop_skips D f consumerName n env message e ⟨0, 0⟩ β view leaves
    0 left attempt lastError past w fails
  refine ⟨past', w', ?_, same⟩
  have error : (if left = 0 then lastError else some (f.attemptError (attempt + left))).getD
      { message := "Unknown processing error" } =
      if left = 0 then lastError.getD { message := "Unknown processing error" } else f.attemptError (attempt + left) := by
    split <;> rfl
  rw [Nat.zero_add] at skipped
  rw [← erased, run_bind, skipped, ← run_bind, erased, Consumer.retryLoop, error]

end

end Fulfillment
