import Mathlib

/-!
# How a relay polls

Timers, triggers and restarts interleave with batches that take their time. The
batches of a relay never overlap, a running relay goes on polling, and a stop
misses the timers of earlier starts.
-/

namespace Fulfillment

/-- Who waits for a batch. -/
inductive Caller
  | schedulePoll
  | trigger
  deriving DecidableEq, Repr

/-- The flags of a relay and what is under way of its asynchronous functions. -/
structure Polling (B : Type) where
  isRunning : Bool
  isProcessing : Bool
  pollTimer : Option Nat
  /-- The timers that have not gone off, and how many there were. -/
  armed : List Nat
  created : Nat
  /-- Calls of `start` that wait for the producer. -/
  connecting : Nat
  batches : List (Caller × B)
  /-- Callbacks of timers that are past their batch. -/
  polled : Nat

namespace Polling

variable {B : Type}

def initial : Polling B := ⟨false, false, none, [], 0, 0, [], 0⟩

def schedulePoll (p : Polling B) : Polling B :=
  if p.isRunning then
    { p with pollTimer := some p.created, armed := p.created :: p.armed, created := p.created + 1 }
  else p

def start (p : Polling B) : Polling B := if p.isRunning then p else { p with connecting := p.connecting + 1 }

/-- The rest of `start`. -/
def connected (p : Polling B) : Polling B := schedulePoll { p with connecting := p.connecting - 1, isRunning := true }

def stop (p : Polling B) : Polling B :=
  { p with
    isRunning := false
    armed := match p.pollTimer with
      | some t => p.armed.erase t
      | none => p.armed }

/-- What follows a batch. -/
def returned (caller : Caller) (p : Polling B) : Polling B :=
  match caller with
  | .schedulePoll => { p with polled := p.polled + 1 }
  | .trigger => p

def processBatch (caller : Caller) (batch : B) (p : Polling B) : Polling B :=
  if p.isProcessing then p.returned caller
  else { p with isProcessing := true, batches := (caller, batch) :: p.batches }

def trigger (batch : B) (p : Polling B) : Polling B :=
  if !p.isRunning || p.isProcessing then p else p.processBatch .trigger batch

/-- The timer goes off. -/
def fire (t : Nat) (batch : B) (p : Polling B) : Polling B :=
  { p with armed := p.armed.erase t }.processBatch .schedulePoll batch

inductive Action
  | start
  | connected
  | refused
  | stop
  | trigger
  | fire
  | progress
  | finish
  | poll
  deriving DecidableEq, Repr

inductive Step (batch : B) : Action → Polling B → Polling B → Prop
  | start (p) : Step batch .start p p.start
  | connected (p) (waiting : 0 < p.connecting) : Step batch .connected p p.connected
  | refused (p) (waiting : 0 < p.connecting) : Step batch .refused p { p with connecting := p.connecting - 1 }
  | stop (p) : Step batch .stop p p.stop
  | trigger (p) : Step batch .trigger p (p.trigger batch)
  | fire (p t) (armed : t ∈ p.armed) : Step batch .fire p (p.fire t batch)
  | progress (p earlier caller b b' later) (under : p.batches = earlier ++ (caller, b) :: later) :
    Step batch .progress p { p with batches := earlier ++ (caller, b') :: later }
  | finish (p earlier caller b later) (under : p.batches = earlier ++ (caller, b) :: later) :
    Step batch .finish p ({ p with isProcessing := false, batches := earlier ++ later }.returned caller)
  | poll (p) (waiting : 0 < p.polled) : Step batch .poll p (schedulePoll { p with polled := p.polled - 1 })

/-- A run, its last action first. -/
inductive Run (batch : B) : List Action → Polling B → Prop
  | initial : Run batch [] initial
  | step {actions a p q} : Run batch actions p → Step batch a p q → Run batch (a :: actions) q

/-- The poll loops: a timer, its batch, or what comes after the batch. -/
def loops (p : Polling B) : Nat :=
  p.armed.length + p.polled + p.batches.countP fun batch => batch.1 = .schedulePoll

structure Valid (p : Polling B) : Prop where
  exclusive : p.batches.length = p.isProcessing.toNat
  alive : p.isRunning = true → 0 < p.loops

/-- The timer a stop clears is armed, or a loop of the starts has no timer. -/
def Clearable (starts : Nat) (p : Polling B) : Prop :=
  (∃ t, p.pollTimer = some t ∧ t ∈ p.armed) ∨ p.armed.length ≤ starts - 1

section
variable {p q : Polling B} {batch : B} {a : Action}

theorem loops_schedulePoll (p : Polling B) : p.schedulePoll.loops = p.loops + p.isRunning.toNat := by
  unfold schedulePoll
  split
  · rename_i running
    simp only [loops, List.length_cons, running, Bool.toNat_true]
    omega
  · rename_i stopped
    simp [stopped]

theorem loops_returned (caller : Caller) (p : Polling B) :
    (p.returned caller).loops = p.loops + if caller = .schedulePoll then 1 else 0 := by
  cases caller with
  | schedulePoll =>
    simp only [returned, loops, if_true]
    omega
  | trigger => rfl

/-- A batch that is refused goes on as one that is done. -/
theorem loops_processBatch (caller : Caller) (batch : B) (p : Polling B) :
    (p.processBatch caller batch).loops = p.loops + if caller = .schedulePoll then 1 else 0 := by
  unfold processBatch
  split
  · exact loops_returned caller p
  · simp only [loops, List.countP_cons, decide_eq_true_eq]
    omega

theorem loops_trigger (batch : B) (p : Polling B) : (p.trigger batch).loops = p.loops := by
  unfold trigger
  split
  · rfl
  · exact loops_processBatch .trigger batch p

theorem loops_fire {t : Nat} (armed : t ∈ p.armed) (batch : B) : (p.fire t batch).loops = p.loops := by
  have positive := List.length_pos_of_mem armed
  rw [fire, loops_processBatch]
  simp only [loops, List.length_erase_of_mem armed, if_true]
  omega

theorem loops_stop (p : Polling B) : p.stop.loops ≤ p.loops := by
  have fewer : p.stop.armed.length ≤ p.armed.length := by
    unfold stop
    cases p.pollTimer with
    | none => exact Nat.le_refl _
    | some t => exact List.length_erase_le
  exact Nat.add_le_add_right (Nat.add_le_add_right fewer _) _

theorem loops_finish {earlier later : List (Caller × B)} {caller : Caller} {b : B}
    (under : p.batches = earlier ++ (caller, b) :: later) :
    ({ p with isProcessing := false, batches := earlier ++ later }.returned caller).loops = p.loops := by
  rw [loops_returned]
  simp only [loops, under, List.countP_append, List.countP_cons, decide_eq_true_eq]
  omega

theorem loops_poll (waiting : 0 < p.polled) :
    (schedulePoll { p with polled := p.polled - 1 }).loops + 1 = p.loops + p.isRunning.toNat := by
  rw [loops_schedulePoll]
  simp only [loops]
  omega

/-- Only a start that is completed adds a loop. -/
theorem step_loops (h : Step batch a p q) : q.loops ≤ p.loops + if a = .connected then 1 else 0 := by
  cases h with
  | start _ =>
    unfold start
    split <;> exact Nat.le_refl _
  | connected _ waiting =>
    have after := loops_schedulePoll { p with connecting := p.connecting - 1, isRunning := true }
    exact Nat.le_of_eq after
  | refused _ waiting => exact Nat.le_refl _
  | stop _ => exact loops_stop p
  | trigger _ => exact Nat.le_of_eq (loops_trigger batch p)
  | fire _ t armed => exact Nat.le_of_eq (loops_fire armed batch)
  | progress _ earlier caller b b' later under =>
    simp only [loops, under, List.countP_append, List.countP_cons]
    exact Nat.le_refl _
  | finish _ earlier caller b later under => exact Nat.le_of_eq (loops_finish under)
  | poll _ waiting =>
    have after := loops_poll waiting
    have one := Bool.toNat_le p.isRunning
    simp only [reduceCtorEq, if_false]
    omega

theorem run_loops {actions : List Action} (h : Run batch actions p) : p.loops ≤ actions.count .connected := by
  induction h with
  | initial => exact Nat.le_refl 0
  | @step actions a p q run step ih =>
    have more := step_loops step
    rw [List.count_cons]
    simp only [beq_iff_eq]
    omega

theorem initial_valid : Valid (initial : Polling B) := ⟨rfl, nofun⟩

/-- A relay that runs polls again, however many loops it had. -/
theorem schedulePoll_valid (exclusive : p.batches.length = p.isProcessing.toNat) : Valid p.schedulePoll := by
  have loops := loops_schedulePoll p
  unfold schedulePoll at loops ⊢
  by_cases running : p.isRunning = true
  · rw [if_pos running] at loops ⊢
    refine ⟨exclusive, fun _ => ?_⟩
    rw [loops, running]
    exact Nat.succ_pos _
  · rw [if_neg running]
    exact ⟨exclusive, fun on => absurd on running⟩

theorem processBatch_valid {caller : Caller} (exclusive : p.batches.length = p.isProcessing.toNat)
    (alive : p.isRunning = true → 0 < p.loops + if caller = .schedulePoll then 1 else 0) :
    Valid (p.processBatch caller batch) := by
  have loops := loops_processBatch caller batch p
  unfold processBatch at loops ⊢
  by_cases busy : p.isProcessing = true
  · rw [if_pos busy] at loops ⊢
    cases caller with
    | schedulePoll => exact ⟨exclusive, fun on => loops ▸ alive on⟩
    | trigger => exact ⟨exclusive, alive⟩
  · rw [if_neg busy] at loops ⊢
    refine ⟨?_, fun on => loops ▸ alive on⟩
    simp only [List.length_cons, exclusive, busy, Bool.toNat_true, Bool.toNat_false]

theorem Valid.progress (valid : Valid p) {earlier later : List (Caller × B)} {caller : Caller} {b : B}
    (under : p.batches = earlier ++ (caller, b) :: later) (b' : B) :
    Valid { p with batches := earlier ++ (caller, b') :: later } := by
  have loops : ({ p with batches := earlier ++ (caller, b') :: later } : Polling B).loops = p.loops := by
    simp only [loops, under, List.countP_append, List.countP_cons]
  refine ⟨?_, fun on => loops ▸ valid.alive on⟩
  simpa only [under, List.length_append, List.length_cons] using valid.exclusive

theorem batch_alone (valid : Valid p) {earlier later : List (Caller × B)} {caller : Caller} {b : B}
    (under : p.batches = earlier ++ (caller, b) :: later) : earlier = [] ∧ later = [] := by
  have one := Bool.toNat_le p.isProcessing
  have exclusive := valid.exclusive
  simp only [under, List.length_append, List.length_cons] at exclusive
  exact ⟨List.length_eq_zero_iff.mp (by omega), List.length_eq_zero_iff.mp (by omega)⟩

theorem Valid.finish (valid : Valid p) {earlier later : List (Caller × B)} {caller : Caller} {b : B}
    (under : p.batches = earlier ++ (caller, b) :: later) :
    Valid ({ p with isProcessing := false, batches := earlier ++ later }.returned caller) := by
  have loops := loops_finish under
  obtain ⟨rfl, rfl⟩ := batch_alone valid under
  cases caller with
  | schedulePoll => exact ⟨rfl, fun on => loops ▸ valid.alive on⟩
  | trigger => exact ⟨rfl, fun on => loops ▸ valid.alive on⟩

theorem step_valid (valid : Valid p) (h : Step batch a p q) : Valid q := by
  cases h with
  | start _ =>
    unfold start
    split
    · exact valid
    · exact ⟨valid.exclusive, valid.alive⟩
  | connected _ waiting => exact schedulePoll_valid valid.exclusive
  | refused _ waiting => exact ⟨valid.exclusive, valid.alive⟩
  | stop _ => exact ⟨valid.exclusive, nofun⟩
  | trigger _ =>
    unfold trigger
    split
    · exact valid
    · exact processBatch_valid valid.exclusive valid.alive
  | fire _ t armed => exact processBatch_valid valid.exclusive fun _ => Nat.succ_pos _
  | progress _ earlier caller b b' later under => exact valid.progress under b'
  | finish _ earlier caller b later under => exact valid.finish under
  | poll _ waiting => exact schedulePoll_valid valid.exclusive

theorem run_valid {actions : List Action} (h : Run batch actions p) : Valid p := by
  induction h with
  | initial => exact initial_valid
  | step _ step ih => exact step_valid ih step

theorem processBatch_batches (exclusive : p.batches.length = p.isProcessing.toNat) (caller : Caller) (batch : B) :
    (p.processBatch caller batch).batches = p.batches ∨
      p.batches = [] ∧ (p.processBatch caller batch).batches = [(caller, batch)] := by
  unfold processBatch
  by_cases busy : p.isProcessing = true
  · rw [if_pos busy]
    cases caller with
    | schedulePoll => exact .inl rfl
    | trigger => exact .inl rfl
  · rw [if_neg busy]
    simp only [busy, Bool.toNat_false] at exclusive
    have none := List.length_eq_zero_iff.mp exclusive
    exact .inr ⟨none, congrArg (List.cons _) none⟩

/-- What is not done by a batch begins at most one, and none during another. -/
theorem control_batches (valid : Valid p) (h : Step batch a p q) (outside : a ≠ .progress ∧ a ≠ .finish) :
    q.batches = p.batches ∨ p.batches = [] ∧ ∃ caller, q.batches = [(caller, batch)] := by
  cases h with
  | start _ =>
    unfold start
    split <;> exact .inl rfl
  | connected _ waiting => exact .inl rfl
  | refused _ waiting => exact .inl rfl
  | stop _ => exact .inl rfl
  | trigger _ =>
    unfold trigger
    split
    · exact .inl rfl
    · exact (processBatch_batches valid.exclusive .trigger batch).imp_right fun h => ⟨h.1, _, h.2⟩
  | fire _ t armed =>
    have begun := processBatch_batches (p := { p with armed := p.armed.erase t }) valid.exclusive .schedulePoll batch
    exact begun.imp_right fun h => ⟨h.1, _, h.2⟩
  | progress _ earlier caller b b' later under => exact absurd rfl outside.1
  | finish _ earlier caller b later under => exact absurd rfl outside.2
  | poll _ waiting =>
    unfold schedulePoll
    split <;> exact .inl rfl

/-- The batches of a relay never overlap, whatever its timers and triggers do,
    and a relay that runs goes on polling; every poll loop comes from a completed
    start. -/
theorem relay_polls_alone {actions : List Action} (h : Run batch actions p) :
    p.batches.length = p.isProcessing.toNat ∧ (p.isRunning = true → 0 < p.loops) ∧
      p.loops ≤ actions.count .connected :=
  ⟨(run_valid h).exclusive, (run_valid h).alive, run_loops h⟩

/-- A timer and a trigger while a batch is under way. -/
theorem relay_polls_alone_triggered :
    ∃ p : Polling Unit, Run () [.fire, .trigger, .connected, .start] p ∧ p.batches = [(.trigger, ())] ∧
      p.batches.length = p.isProcessing.toNat ∧ (p.isRunning = true → 0 < p.loops) ∧
      p.loops ≤ [Action.fire, .trigger, .connected, .start].count .connected := by
  have run : Run () [] initial := .initial
  have run := run.step (.start _)
  have run := run.step (.connected _ (by decide))
  have run := run.step (.trigger _)
  have run := run.step (.fire _ 0 (by decide))
  exact ⟨_, run, rfl, relay_polls_alone run⟩

theorem processBatch_timers (caller : Caller) (batch : B) (p : Polling B) :
    (p.processBatch caller batch).pollTimer = p.pollTimer ∧ (p.processBatch caller batch).armed = p.armed ∧
      (p.processBatch caller batch).isRunning = p.isRunning := by
  unfold processBatch
  split
  · cases caller with
    | schedulePoll => exact ⟨rfl, rfl, rfl⟩
    | trigger => exact ⟨rfl, rfl, rfl⟩
  · exact ⟨rfl, rfl, rfl⟩

theorem trigger_timers (batch : B) (p : Polling B) :
    (p.trigger batch).pollTimer = p.pollTimer ∧ (p.trigger batch).armed = p.armed ∧
      (p.trigger batch).isRunning = p.isRunning := by
  unfold trigger
  split
  · exact ⟨rfl, rfl, rfl⟩
  · exact processBatch_timers .trigger batch p

theorem start_timers (p : Polling B) :
    p.start.pollTimer = p.pollTimer ∧ p.start.armed = p.armed ∧ p.start.isRunning = p.isRunning := by
  unfold start
  split <;> exact ⟨rfl, rfl, rfl⟩

theorem armed_loops (p : Polling B) : p.armed.length ≤ p.loops := by
  unfold loops
  omega

theorem Clearable.schedulePoll {starts : Nat} (clearable : Clearable starts p) : Clearable starts p.schedulePoll := by
  unfold Polling.schedulePoll
  split
  · exact .inl ⟨p.created, rfl, List.mem_cons_self⟩
  · exact clearable

theorem Clearable.of_timers {starts : Nat} (clearable : Clearable starts p) (timer : q.pollTimer = p.pollTimer)
    (armed : q.armed = p.armed) : Clearable starts q := by
  unfold Clearable
  rw [timer, armed]
  exact clearable

/-- The stop takes one timer away of those that are left. -/
theorem stop_armed {starts : Nat} (clearable : Clearable starts p) (bounded : p.armed.length ≤ starts) :
    p.stop.armed.length ≤ starts - 1 := by
  have fewer : p.stop.armed.length ≤ p.armed.length := by
    unfold stop
    cases p.pollTimer with
    | none => exact Nat.le_refl _
    | some t => exact List.length_erase_le
  rcases clearable with ⟨t, timer, armed⟩ | few
  · have one : p.stop.armed.length = p.armed.length - 1 := by
      simp only [stop, timer, List.length_erase_of_mem armed]
    omega
  · omega

theorem step_clearable {starts : Nat} (clearable : Clearable starts p) (bounded : p.loops ≤ starts)
    (h : Step batch a p q) : Clearable (starts + if a = .connected then 1 else 0) q := by
  have armed_bounded : p.armed.length ≤ starts := Nat.le_trans (armed_loops p) bounded
  cases h with
  | start _ => exact clearable.of_timers (start_timers p).1 (start_timers p).2.1
  | connected _ waiting => exact .inl ⟨p.created, rfl, List.mem_cons_self⟩
  | refused _ waiting => exact clearable.of_timers rfl rfl
  | stop _ => exact .inr (stop_armed clearable armed_bounded)
  | trigger _ => exact clearable.of_timers (trigger_timers batch p).1 (trigger_timers batch p).2.1
  | fire _ t armed =>
    have timers := processBatch_timers .schedulePoll batch { p with armed := p.armed.erase t }
    refine Clearable.of_timers (p := { p with armed := p.armed.erase t }) ?_ timers.1 timers.2.1
    have positive := List.length_pos_of_mem armed
    rcases clearable with ⟨u, timer, waiting⟩ | few
    · by_cases fired : u = t
      · refine .inr ?_
        simp only [List.length_erase_of_mem armed, reduceCtorEq, if_false]
        omega
      · exact .inl ⟨u, timer, (List.mem_erase_of_ne fired).mpr waiting⟩
    · refine .inr ?_
      simp only [List.length_erase_of_mem armed, reduceCtorEq, if_false]
      omega
  | progress _ earlier caller b b' later under => exact clearable.of_timers rfl rfl
  | finish _ earlier caller b later under =>
    cases caller with
    | schedulePoll => exact clearable.of_timers rfl rfl
    | trigger => exact clearable.of_timers rfl rfl
  | poll _ waiting =>
    exact Clearable.schedulePoll (p := { p with polled := p.polled - 1 }) (clearable.of_timers rfl rfl)

theorem run_clearable {actions : List Action} (h : Run batch actions p) :
    Clearable (actions.count .connected) p := by
  induction h with
  | initial => exact .inr (Nat.le_refl 0)
  | @step actions a p q run step ih =>
    rw [List.count_cons]
    simpa only [beq_iff_eq] using step_clearable ih (run_loops run) step

/-- A relay that is stopped arms nothing. -/
theorem step_stopped (stopped : p.isRunning = false) (quiet : a ≠ .connected) (h : Step batch a p q) :
    q.isRunning = false ∧ q.armed.length + (if a = .fire then 1 else 0) ≤ p.armed.length := by
  cases h with
  | start _ =>
    obtain ⟨-, armed, running⟩ := start_timers p
    exact ⟨running.trans stopped, Nat.le_of_eq (congrArg List.length armed)⟩
  | connected _ waiting => exact absurd rfl quiet
  | refused _ waiting => exact ⟨stopped, Nat.le_refl _⟩
  | stop _ =>
    refine ⟨rfl, ?_⟩
    unfold stop
    cases p.pollTimer with
    | none => exact Nat.le_refl _
    | some t => exact List.length_erase_le
  | trigger _ =>
    obtain ⟨-, armed, running⟩ := trigger_timers batch p
    exact ⟨running.trans stopped, Nat.le_of_eq (congrArg List.length armed)⟩
  | fire _ t armed =>
    obtain ⟨-, left, running⟩ := processBatch_timers .schedulePoll batch { p with armed := p.armed.erase t }
    have positive := List.length_pos_of_mem armed
    refine ⟨running.trans stopped, ?_⟩
    rw [show (p.fire t batch).armed = p.armed.erase t from left, List.length_erase_of_mem armed]
    simp only [if_true]
    omega
  | progress _ earlier caller b b' later under => exact ⟨stopped, Nat.le_refl _⟩
  | finish _ earlier caller b later under =>
    cases caller with
    | schedulePoll => exact ⟨stopped, Nat.le_refl _⟩
    | trigger => exact ⟨stopped, Nat.le_refl _⟩
  | poll _ waiting =>
    have same : schedulePoll { p with polled := p.polled - 1 } = { p with polled := p.polled - 1 } :=
      if_neg (by simp [stopped])
    rw [same]
    exact ⟨stopped, Nat.le_refl _⟩

/-- After a stop nothing is triggered, but a stop clears one timer only: every
    start but one may leave a timer that still goes off. -/
theorem stop_clears_timers {later earlier : List Action} (quiet : Action.connected ∉ later)
    (h : Run batch (later ++ .stop :: earlier) p) :
    p.isRunning = false ∧ p.trigger batch = p ∧
      later.count .fire + p.armed.length ≤ earlier.count .connected - 1 := by
  suffices stopped : p.isRunning = false ∧ later.count .fire + p.armed.length ≤ earlier.count .connected - 1 by
    refine ⟨stopped.1, ?_, stopped.2⟩
    simp only [trigger, stopped.1, Bool.not_false, Bool.true_or, if_true]
  induction later generalizing p with
  | nil =>
    cases h with
    | @step _ _ running _ run step =>
      cases step with
      | stop _ =>
        refine ⟨rfl, ?_⟩
        rw [List.count_nil, Nat.zero_add]
        exact stop_armed (run_clearable run) (Nat.le_trans (armed_loops running) (run_loops run))
  | cons a later ih =>
    cases h with
    | step run step =>
      obtain ⟨connected, quiet⟩ := not_or.mp (mt List.mem_cons.mpr quiet)
      obtain ⟨stopped, fired⟩ := ih quiet run
      obtain ⟨still, fewer⟩ := step_stopped stopped (Ne.symm connected) step
      refine ⟨still, ?_⟩
      rw [List.count_cons]
      simp only [beq_iff_eq]
      omega

/-- A relay started again while its batch ran keeps a timer through a second stop. -/
theorem stop_clears_timers_restarted :
    ∃ p : Polling Unit, Run () [.fire, .stop, .poll, .finish, .connected, .start, .stop, .fire, .connected, .start] p ∧
      p.isRunning = false ∧ p.isProcessing = true ∧
      [Action.fire].count .fire + p.armed.length ≤
        [Action.poll, .finish, .connected, .start, .stop, .fire, .connected, .start].count .connected - 1 := by
  have run : Run () [] initial := .initial
  have run := run.step (.start _)
  have run := run.step (.connected _ (by decide))
  have run := run.step (.fire _ 0 (by decide))
  have run := run.step (.stop _)
  have run := run.step (.start _)
  have run := run.step (.connected _ (by decide))
  have run := run.step (.finish _ [] .schedulePoll () [] rfl)
  have run := run.step (.poll _ (by decide))
  have run := run.step (.stop _)
  have run := run.step (.fire _ 1 (by decide))
  have stopped := stop_clears_timers (show Action.connected ∉ [Action.fire] by decide) run
  exact ⟨_, run, stopped.1, rfl, stopped.2.2⟩

end

end Polling

end Fulfillment
