import Connect3Dp.Runtime.Transition
import Connect3Dp.Runtime.Values
import Mathlib.Logic.Function.Basic

/-!
# The operation lock

`MonoMachine` limits a machine to one operation at a time with a semaphore of one permit. Both
overloads of `MutateUntil` run the same body: wait for the permit, run the action, then poll a
predicate every 250 ms until it holds or the timeout has passed. They differ in what the action
returns (`T`, which is `Unit` for the overload without a value) and in the record built at the
end (`Exit.mutateUntil`, `Exit.mutateUntilValued`).

A call is a state machine of its own (`Phase`, `advance`); the environment decides by its
`Event`s what the action and the predicate do and what the stopwatch shows. A `MonoMachine`
interleaves any family of calls over the shared permit.

Only the exit on a satisfied predicate gives the permit back. `OwnedOnce` is the invariant that
accounts for this: the permit is free, or exactly one call owns it, where a call that left
through any other exit still owns it.
-/

namespace Connect3Dp

/-- How a call of `MutateUntil` ends. -/
inductive Exit (T E : Type)
  | succeeded (elapsed : TimeSpan) (invokeReturn : T)
  | invokeThrew (ex : E)
  | timedOut
  | predicateThrew (ex : E)

/-- Where a call of `MutateUntil` is. -/
inductive Phase (T E : Type)
  | notStarted
  /-- In `await Semaphore.WaitAsync()`. -/
  | waiting
  /-- In `await invokeAction()`. -/
  | invoking
  /-- At the head of the loop, about to evaluate the predicate. -/
  | polling (invokeReturn : T)
  /-- In `await Task.Delay(...)`. -/
  | delaying (invokeReturn : T)
  | completed (exit : Exit T E)

/-- What happens to a call next: its start, the completion of what it awaits, or an evaluation
of the predicate together with the time the stopwatch shows then. -/
inductive Event (T E : Type)
  | call
  | acquired
  | invokeReturned (invokeReturn : T)
  | invokeThrew (ex : E)
  | predicate (observed : Except E Bool) (elapsed : TimeSpan)
  | delayElapsed

/-- `MutationResult`. -/
structure MutationResult (E : Type) where
  timeSpent : TimeSpan
  timedOut : Bool
  invokeException : Option E

/-- `MutationValuedResult<T>`. -/
structure MutationValuedResult (T E : Type) where
  timeSpent : TimeSpan
  timedOut : Bool
  value : Option T
  invokeException : Option E

def MutationResult.isSuccess {E : Type} (r : MutationResult E) : Bool :=
  r.invokeException.isNone && !r.timedOut

def MutationValuedResult.isSuccess {T E : Type} (r : MutationValuedResult T E) : Bool :=
  r.invokeException.isNone && !r.timedOut

namespace Exit

variable {T E : Type}

/-- What `MutateUntil` hands its caller: a result, or the exception of the predicate. -/
def mutateUntil (timeout : TimeSpan) : Exit Unit E → Except E (MutationResult E)
  | succeeded elapsed _ => .ok ⟨elapsed, false, none⟩
  | invokeThrew ex => .ok ⟨.zero, false, some ex⟩
  | timedOut => .ok ⟨timeout, true, none⟩
  | predicateThrew ex => .error ex

/-- What `MutateUntil<T>` hands its caller. -/
def mutateUntilValued (timeout : TimeSpan) : Exit T E → Except E (MutationValuedResult T E)
  | succeeded elapsed invokeReturn => .ok ⟨elapsed, false, some invokeReturn, none⟩
  | invokeThrew ex => .ok ⟨.zero, false, none, some ex⟩
  | timedOut => .ok ⟨timeout, true, none, none⟩
  | predicateThrew ex => .error ex

/-- Whether the predicate was satisfied, the only exit that releases the semaphore. -/
def IsSuccess : Exit T E → Prop
  | succeeded _ _ => True
  | _ => False

/-- The caller sees a success exactly when the call left through the releasing exit. -/
theorem mutateUntil_isSuccess_iff {timeout : TimeSpan} {exit : Exit Unit E} :
    (∃ r, exit.mutateUntil timeout = .ok r ∧ r.isSuccess = true) ↔ exit.IsSuccess := by
  cases exit <;> simp [mutateUntil, MutationResult.isSuccess, IsSuccess]

theorem mutateUntilValued_isSuccess_iff {timeout : TimeSpan} {exit : Exit T E} :
    (∃ r, exit.mutateUntilValued timeout = .ok r ∧ r.isSuccess = true) ↔ exit.IsSuccess := by
  cases exit <;> simp [mutateUntilValued, MutationValuedResult.isSuccess, IsSuccess]

end Exit

namespace Phase

variable {T E : Type}

/-- The body of `MutateUntil`: how an event moves a call and the count of the semaphore. The
stopwatch is restarted when the action returns, so a timeout is seen at the earliest by the
predicate evaluation after it. -/
def advance (timeout : TimeSpan) : ℕ → Phase T E → Event T E → Option (ℕ × Phase T E)
  | count, notStarted, .call => some (count, waiting)
  | count + 1, waiting, .acquired => some (count, invoking)
  | count, invoking, .invokeReturned r => some (count, polling r)
  -- `return new MutationResult(...)` from the handler, before any `Release`
  | count, invoking, .invokeThrew ex => some (count, completed (.invokeThrew ex))
  | count, polling r, .predicate (.ok true) elapsed =>
      some (count + 1, completed (.succeeded elapsed r))
  | count, polling r, .predicate (.ok false) elapsed =>
      if elapsed ≤ timeout then some (count, delaying r) else some (count, completed .timedOut)
  | count, polling _, .predicate (.error ex) _ => some (count, completed (.predicateThrew ex))
  | count, delaying r, .delayElapsed => some (count, polling r)
  | _, _, _ => none

/-- Past `WaitAsync` and not completed. -/
def InProgress : Phase T E → Prop
  | invoking | polling _ | delaying _ => True
  | _ => False

/-- Completed through an exit that keeps the permit. -/
def Leaked : Phase T E → Prop
  | completed exit => ¬ exit.IsSuccess
  | _ => False

/-- The call took the permit and has not given it back. -/
def Owns (p : Phase T E) : Prop := p.InProgress ∨ p.Leaked

/-- **What a step of one call does to the permit**: nothing, take it, or give it back. -/
theorem advance_cases {timeout : TimeSpan} {count count' : ℕ} {p p' : Phase T E} {e : Event T E}
    (h : p.advance timeout count e = some (count', p')) :
    (count' = count ∧ (p'.Owns ↔ p.Owns)) ∨
    (count = count' + 1 ∧ ¬ p.Owns ∧ p'.Owns) ∨
    (count' = count + 1 ∧ p.Owns ∧ ¬ p'.Owns) := by
  unfold advance at h
  split at h
  case h_6 =>
    split at h <;> cases h <;> simp [Owns, InProgress, Leaked, Exit.IsSuccess]
  all_goals cases h
  all_goals simp [Owns, InProgress, Leaked, Exit.IsSuccess]

/-- A call starts to wait by its `call` event only. -/
theorem advance_waiting {timeout : TimeSpan} {count count' : ℕ} {p : Phase T E} {e : Event T E}
    (h : p.advance timeout count e = some (count', .waiting)) : e = .call := by
  unfold advance at h
  split at h
  case h_1 => rfl
  case h_6 => split at h <;> cases h
  all_goals cases h

/-- Only the `call` event moves a call that has not started. -/
theorem advance_notStarted {timeout : TimeSpan} {count : ℕ} {e : Event T E} (he : e ≠ .call) :
    (notStarted : Phase T E).advance timeout count e = none := by
  cases e with
  | call => exact absurd rfl he
  | _ => rfl

/-- No call goes back to its start. -/
theorem advance_ne_notStarted {timeout : TimeSpan} {count count' : ℕ} {p p' : Phase T E}
    {e : Event T E} (h : p.advance timeout count e = some (count', p')) : p' ≠ .notStarted := by
  rintro rfl
  unfold advance at h
  split at h
  case h_6 => split at h <;> cases h
  all_goals cases h

/-- A call gets the permit while it waits and the permit is free. -/
theorem advance_acquired {timeout : TimeSpan} {count count' : ℕ} {p p' : Phase T E}
    (h : p.advance timeout count .acquired = some (count', p')) : p = .waiting ∧ 0 < count := by
  cases p with
  | waiting =>
    cases count with
    | zero => cases h
    | succ count => exact ⟨rfl, Nat.succ_pos count⟩
  | _ => cases h

/-- A completed call takes no further event. -/
theorem advance_completed {timeout : TimeSpan} {count : ℕ} {exit : Exit T E} {e : Event T E} :
    (completed exit : Phase T E).advance timeout count e = none := rfl

end Phase

/-- A machine's lock and the calls made on it. -/
structure MonoMachine (ι : Type) (T : ι → Type) (E : Type) where
  currentCount : ℕ
  calls : ∀ i, Phase (T i) E

namespace MonoMachine

variable {ι : Type} [DecidableEq ι] {T : ι → Type} {E : Type}

/-- A new lock: `new SemaphoreSlim(1, 1)`, and no call made yet. -/
def initial : MonoMachine ι T E := ⟨1, fun _ => .notStarted⟩

def isMutating (σ : MonoMachine ι T E) : Bool := σ.currentCount == 0

/-- One event of one call. -/
def step (timeout : ι → TimeSpan) (σ : MonoMachine ι T E) (i : ι) (e : Event (T i) E) :
    Option (MonoMachine ι T E) :=
  ((σ.calls i).advance (timeout i) σ.currentCount e).map fun r =>
    ⟨r.1, Function.update σ.calls i r.2⟩

/-- The states reached by some interleaving of the calls. -/
def Reached (timeout : ι → TimeSpan) : MonoMachine ι T E → Prop :=
  Reachable (· = initial) fun σ σ' => ∃ i e, σ.step timeout i e = some σ'

theorem step_cases {timeout : ι → TimeSpan} {σ σ' : MonoMachine ι T E} {i : ι}
    {e : Event (T i) E} (h : σ.step timeout i e = some σ') :
    ∃ p, (σ.calls i).advance (timeout i) σ.currentCount e = some (σ'.currentCount, p) ∧
      σ'.calls = Function.update σ.calls i p := by
  obtain ⟨⟨count, p⟩, hadv, rfl⟩ := Option.map_eq_some_iff.mp h
  exact ⟨p, hadv, rfl⟩

theorem step_calls_of_ne {timeout : ι → TimeSpan} {σ σ' : MonoMachine ι T E} {i j : ι}
    {e : Event (T i) E} (h : σ.step timeout i e = some σ') (hne : j ≠ i) :
    σ'.calls j = σ.calls j := by
  obtain ⟨p, -, hcalls⟩ := step_cases h
  rw [hcalls, Function.update_of_ne hne]

/-! ### The invariant -/

/-- The permit is free and owned by no call, or taken and owned by exactly one. -/
def OwnedOnce (σ : MonoMachine ι T E) : Prop :=
  (σ.currentCount = 1 ∧ ∀ i, ¬ (σ.calls i).Owns) ∨
  (σ.currentCount = 0 ∧ ∃ i, (σ.calls i).Owns ∧ ∀ j, (σ.calls j).Owns → j = i)

omit [DecidableEq ι] in
theorem ownedOnce_initial : OwnedOnce (initial : MonoMachine ι T E) :=
  .inl ⟨rfl, fun _ h => h.elim id id⟩

theorem ownedOnce_step {timeout : ι → TimeSpan} {σ σ' : MonoMachine ι T E} {i : ι}
    {e : Event (T i) E} (h : σ.step timeout i e = some σ') (hσ : OwnedOnce σ) : OwnedOnce σ' := by
  obtain ⟨p, hadv, hcalls⟩ := step_cases h
  have hself : (σ'.calls i).Owns ↔ p.Owns := by rw [hcalls, Function.update_self]
  have hother : ∀ j, j ≠ i → σ'.calls j = σ.calls j := fun j => step_calls_of_ne h
  rcases Phase.advance_cases hadv with ⟨hcount, hown⟩ | ⟨hcount, hno, hyes⟩ | ⟨hcount, hyes, hno⟩
  · -- the permit stays where it is
    have hall : ∀ j, (σ'.calls j).Owns ↔ (σ.calls j).Owns := fun j => by
      rcases eq_or_ne j i with rfl | hj
      · rw [hself, hown]
      · rw [hother j hj]
    simpa only [OwnedOnce, hcount, hall] using hσ
  · -- the call takes it, so it was free
    rcases hσ with ⟨h1, hfree⟩ | ⟨h0, -⟩
    · refine .inr ⟨by omega, i, hself.mpr hyes, fun j hj => ?_⟩
      by_contra hne
      exact hfree j (hother j hne ▸ hj)
    · omega
  · -- the call gives it back, so it owned it
    rcases hσ with ⟨-, hfree⟩ | ⟨h0, k, -, huniq⟩
    · exact absurd hyes (hfree i)
    · refine .inl ⟨by omega, fun j hj => ?_⟩
      rcases eq_or_ne j i with rfl | hne
      · exact hno (hself.mp hj)
      · exact hne ((huniq j (hother j hne ▸ hj)).trans (huniq i hyes).symm)

theorem Reached.ownedOnce {timeout : ι → TimeSpan} {σ : MonoMachine ι T E}
    (h : Reached timeout σ) : OwnedOnce σ := by
  refine Reachable.induct ?_ ?_ h
  · rintro s rfl
    exact ownedOnce_initial
  · rintro s s' - hs ⟨i, e, hstep⟩
    exact ownedOnce_step hstep hs

/-- **Mutual exclusion**, whatever the exits: at most one call is past its `WaitAsync`. -/
theorem Reached.inProgress_unique {timeout : ι → TimeSpan} {σ : MonoMachine ι T E}
    (h : Reached timeout σ) {i j : ι} (hi : (σ.calls i).InProgress)
    (hj : (σ.calls j).InProgress) : i = j := by
  rcases h.ownedOnce with ⟨-, hfree⟩ | ⟨-, k, -, huniq⟩
  · exact absurd (.inl hi) (hfree i)
  · exact (huniq i (.inl hi)).trans (huniq j (.inl hj)).symm

/-! ### The lock discipline -/

/-- The discipline of the lock: the permit is out exactly while a call is in progress, at most
one call is, and while none is the machine is not mutating and a waiting call can go ahead. -/
structure LockDiscipline (timeout : ι → TimeSpan) (σ : MonoMachine ι T E) : Prop where
  held_iff : σ.currentCount = 0 ↔ ∃ i, (σ.calls i).InProgress
  exclusive : ∀ i j, (σ.calls i).InProgress → (σ.calls j).InProgress → i = j
  idle : (∀ i, ¬ (σ.calls i).InProgress) → σ.currentCount = 1 ∧ σ.isMutating = false
  can_start : (∀ i, ¬ (σ.calls i).InProgress) → ∀ i, σ.calls i = .waiting →
    (σ.step timeout i .acquired).isSome = true

/-- No call of the run so far completed otherwise than by its predicate holding. -/
def NoLeak (σ : MonoMachine ι T E) : Prop :=
  ∀ i exit, σ.calls i = .completed exit → exit.IsSuccess

omit [DecidableEq ι] in
theorem noLeak_iff {σ : MonoMachine ι T E} : NoLeak σ ↔ ∀ i, ¬ (σ.calls i).Leaked := by
  refine forall_congr' fun i => ?_
  cases hc : σ.calls i with
  | completed exit => simp [Phase.Leaked]
  | _ => simp [Phase.Leaked]

/-- A waiting call goes ahead when the permit is free. -/
theorem step_acquired_isSome {timeout : ι → TimeSpan} {σ : MonoMachine ι T E} {i : ι}
    (hcount : σ.currentCount = 1) (hi : σ.calls i = .waiting) :
    (σ.step timeout i .acquired).isSome = true := by
  simp [step, hcount, hi, Phase.advance]

theorem lockDiscipline_of_noLeak {timeout : ι → TimeSpan} {σ : MonoMachine ι T E}
    (h : Reached timeout σ) (hleak : NoLeak σ) : LockDiscipline timeout σ := by
  have hown : ∀ i, (σ.calls i).Owns ↔ (σ.calls i).InProgress := fun i =>
    or_iff_left (noLeak_iff.mp hleak i)
  have hfree : (∀ i, ¬ (σ.calls i).InProgress) → σ.currentCount = 1 := by
    intro hidle
    rcases h.ownedOnce with ⟨h1, -⟩ | ⟨-, i, hi, -⟩
    · exact h1
    · exact absurd ((hown i).mp hi) (hidle i)
  refine ⟨⟨fun h0 => ?_, fun ⟨i, hi⟩ => ?_⟩, fun i j => h.inProgress_unique, fun hidle => ?_,
    fun hidle i hi => step_acquired_isSome (hfree hidle) hi⟩
  · rcases h.ownedOnce with ⟨h1, -⟩ | ⟨-, i, hi, -⟩
    · omega
    · exact ⟨i, (hown i).mp hi⟩
  · rcases h.ownedOnce with ⟨-, hno⟩ | ⟨h0, -⟩
    · exact absurd (.inl hi) (hno i)
    · exact h0
  · exact ⟨hfree hidle, by simp [isMutating, hfree hidle]⟩

/-- Once a call has left with the permit, nobody is in progress and nobody can be. -/
theorem not_lockDiscipline_of_leaked {timeout : ι → TimeSpan} {σ : MonoMachine ι T E}
    (h : Reached timeout σ) {i : ι} (hi : (σ.calls i).Leaked) : ¬ LockDiscipline timeout σ := by
  intro hd
  rcases h.ownedOnce with ⟨-, hfree⟩ | ⟨h0, k, -, huniq⟩
  · exact hfree i (.inr hi)
  · obtain ⟨j, hj⟩ := hd.held_iff.mp h0
    have hji : j = i := (huniq j (.inl hj)).trans (huniq i (.inr hi)).symm
    subst hji
    cases hc : σ.calls j <;> rw [hc] at hi hj
    all_goals first | exact hi | exact hj

/-- **The lock discipline holds in exactly the runs without a leaking exit.** Of the four exits
of `MutateUntil`, the handler's return, the timeout's return and an exception of the predicate
skip `Semaphore.Release()`; after any of them no call is ever in progress again. -/
theorem lockDiscipline_iff_noLeak (timeout : ι → TimeSpan) (σ : MonoMachine ι T E)
    (h : Reached timeout σ) : LockDiscipline timeout σ ↔ NoLeak σ := by
  refine ⟨fun hd => noLeak_iff.mpr fun i hi => ?_, lockDiscipline_of_noLeak h⟩
  exact not_lockDiscipline_of_leaked h hi hd

/-- A run of two calls: the second one waits until the first one has succeeded, and goes ahead. -/
theorem lockDiscipline_iff_noLeak_run :
    ∃ σ σ' : MonoMachine Bool (fun _ => Unit) Unit,
      Reached (fun _ => .zero) σ ∧ σ.calls false = .polling () ∧ σ.calls true = .waiting ∧
        Reached (fun _ => .zero) σ' ∧ σ'.calls false = .completed (.succeeded .zero ()) ∧
        σ'.calls true = .invoking ∧
        LockDiscipline (fun _ => .zero) σ ∧ LockDiscipline (fun _ => .zero) σ' := by
  have h₁ : Reached (fun _ => .zero) (initial : MonoMachine Bool (fun _ => Unit) Unit) :=
    .refl rfl
  have h₂ := Reachable.tail h₁ ⟨false, .call, rfl⟩
  have h₃ := Reachable.tail h₂ ⟨false, .acquired, rfl⟩
  have h₄ := Reachable.tail h₃ ⟨true, .call, rfl⟩
  have h₅ := Reachable.tail h₄ ⟨false, .invokeReturned (), rfl⟩
  have h₆ := Reachable.tail h₅ ⟨false, .predicate (.ok true) .zero, rfl⟩
  have h₇ := Reachable.tail h₆ ⟨true, .acquired, rfl⟩
  refine ⟨_, _, h₅, rfl, rfl, h₇, rfl, rfl, (lockDiscipline_iff_noLeak _ _ h₅).mpr ?_,
    (lockDiscipline_iff_noLeak _ _ h₇).mpr ?_⟩
  · rintro (_ | _) exit hexit <;> cases hexit
  · rintro (_ | _) exit hexit <;> cases hexit
    trivial

/-- An action that throws locks the machine for good: nobody is in progress, yet the permit is
out. -/
theorem lockDiscipline_fails :
    ¬ ∀ σ : MonoMachine Bool (fun _ => Unit) Unit,
      Reached (fun _ => .zero) σ → LockDiscipline (fun _ => .zero) σ := by
  intro hall
  have h₁ : Reached (fun _ => .zero) (initial : MonoMachine Bool (fun _ => Unit) Unit) :=
    .refl rfl
  have h₂ := Reachable.tail h₁ ⟨false, .call, rfl⟩
  have h₃ := Reachable.tail h₂ ⟨false, .acquired, rfl⟩
  have h₄ := Reachable.tail h₃ ⟨false, .invokeThrew (), rfl⟩
  obtain ⟨i, hi⟩ := (hall _ h₄).held_iff.mp rfl
  cases i <;> exact hi

end MonoMachine

end Connect3Dp
