import Connect3Dp.Connectors.KeyAgreement
import Connect3Dp.Connectors.Operations

/-!
# Runs of operations

`OperationSystem` is one machine with any number of calls of its operations: calls, commits by any
party and the steps inside `MutateUntil` interleave in any way. Tests, commands and predicates all
read the state of the machine, at different times. What can be relied on is this.

* A call that answers with a success has found the state that it asked for while it was running. One
  that answers otherwise was declined before its command, or it has taken the operation lock with
  it: no command is ever sent again (`OperationSystem.answered_of_run`).
* A command is sent only for a call that was permitted when it was made, and since each command
  before it the predicate of that one has been observed (`OperationSystem.invokes_of_run`).
-/

namespace Connect3Dp

/-- Identifiers of units stay their keys in a commit. -/
theorem MachineConnection.unitIDs_commitStep {Cron : Type} [DecidableEq Cron]
    [Hashable (HeatingSchedule Cron)] [Hashable (ScheduledPrint Cron)] {env : Environment Cron}
    {u : MachineStateUpdate} {c c' : MachineConnection Cron} (h : CommitStep env u c c')
    (hc : c.state.UnitIDs) : c'.state.UnitIDs := by
  obtain ⟨c₁, hsame, hend⟩ := h
  have hc₁ : c₁.state.UnitIDs := by rwa [show c₁.state = c.state from hsame]
  have hstate : c'.state =
      finalState (((c₁.preprocessUpdate u).appendUpdate c₁.heap.ops).run c₁.state) := by
    obtain ⟨f, s', happly, hr⟩ | ⟨changes, s', happly, ⟨f, c₂, hr, hs⟩ | ⟨c₂, hr, hs⟩⟩ :=
      run_commitState_state env u c₁
    all_goals
      rw [hr] at hend
      obtain ⟨f', hend⟩ | ⟨raised, hend⟩ := hend
      all_goals cases hend
    all_goals rw [happly]
    · rfl
    · exact hs
    · exact hs
  intro id m hm
  rw [hstate] at hm
  exact MachineStateUpdate.unitIDs_appendUpdate hc₁ hm

/-- A call gives the permit back where its predicate holds. -/
theorem Phase.advance_succeeded {T E : Type} {timeout : TimeSpan} {count count' : ℕ}
    {p : Phase T E} {e : Event T E} {exit : Exit T E}
    (h : p.advance timeout count e = some (count', .completed exit)) (hexit : exit.IsSuccess) :
    (∃ r, p = .polling r) ∧ ∃ elapsed, e = .predicate (.ok true) elapsed := by
  unfold Phase.advance at h
  split at h
  case h_4 =>
    cases h
    exact absurd hexit id
  case h_5 r elapsed => exact ⟨⟨r, rfl⟩, elapsed, rfl⟩
  case h_6 =>
    split at h
    · cases h
    · cases h
      exact absurd hexit id
  case h_7 =>
    cases h
    exact absurd hexit id
  all_goals cases h

/-- A call waits right after its start. -/
theorem Phase.notStarted_of_waiting {T E : Type} {timeout : TimeSpan} {count count' : ℕ}
    {p : Phase T E} {e : Event T E} (h : p.advance timeout count e = some (count', .waiting)) :
    p = .notStarted := by
  unfold Phase.advance at h
  split at h
  case h_1 => rfl
  case h_6 => split at h <;> cases h
  all_goals cases h

/-- One machine and the calls of its operations. A call is where a call of `PrintLocal` can be. -/
structure OperationSystem (Cron : Type) {ι : Type} (request : ι → OperationRequest) where
  machine : MachineConnection Cron
  mono : MonoMachine ι (fun i => (request i).operation.overload.Value) InvokeException
  calls : ι → PrintCall

namespace OperationSystem

variable {Cron ι : Type} {request : ι → OperationRequest}

/-- A new lock and no calls, on a machine in any state whose units have their identifiers. -/
structure Initial (σ : OperationSystem Cron request) : Prop where
  unitIDs : σ.machine.state.UnitIDs
  mono : σ.mono = MonoMachine.initial
  calls : ∀ i, σ.calls i = .notCalled

/-- The timeouts of the operations. -/
def timeout (request : ι → OperationRequest) (i : ι) : TimeSpan := (request i).operation.timeout

variable [DecidableEq ι]

def setCall (σ : OperationSystem Cron request) (i : ι) (call : PrintCall) :
    OperationSystem Cron request :=
  { σ with calls := Function.update σ.calls i call }

theorem calls_setCall_self {σ : OperationSystem Cron request} {i : ι} {call : PrintCall} :
    (σ.setCall i call).calls i = call := Function.update_self ..

theorem calls_setCall_of_ne {σ : OperationSystem Cron request} {i k : ι} {call : PrintCall}
    (h : k ≠ i) : (σ.setCall i call).calls k = σ.calls k := Function.update_of_ne h ..

variable [DecidableEq Cron] [Hashable (HeatingSchedule Cron)] [Hashable (ScheduledPrint Cron)]

/-- What can happen next. A predicate is evaluated on the state of the machine at that time. -/
inductive Step (σ : OperationSystem Cron request) : OperationSystem Cron request → Prop
  | commit {env : Environment Cron} {u : MachineStateUpdate} {c' : MachineConnection Cron} :
      MachineConnection.CommitStep env u σ.machine c' → Step σ { σ with machine := c' }
  | answered {i : ι} {contains : Bool}
      {result : Except InvokeException MachineOperationResult} :
      σ.calls i = .notCalled →
      (request i).operation.answer contains σ.machine.state = some result →
      Step σ (σ.setCall i (.completed result))
  | uploads {i : ι} {contains : Bool} :
      σ.calls i = .notCalled →
      (request i).operation.start contains σ.machine.state = .ok .uploads →
      Step σ (σ.setCall i .uploading)
  | mutates {i : ι} {contains : Bool}
      {mono' : MonoMachine ι (fun i => (request i).operation.overload.Value) InvokeException} :
      σ.calls i = .notCalled →
      (request i).operation.start contains σ.machine.state = .ok .mutates →
      σ.mono.step (timeout request) i .call = some mono' →
      Step σ { σ.setCall i .mutating with mono := mono' }
  -- the upload returns a failure or throws
  | uploadFailed {i : ι} {result : Except InvokeException MachineOperationResult} :
      σ.calls i = .uploading → ¬ Succeeds result → Step σ (σ.setCall i (.completed result))
  | uploaded {i : ι}
      {mono' : MonoMachine ι (fun i => (request i).operation.overload.Value) InvokeException} :
      σ.calls i = .uploading → σ.mono.step (timeout request) i .call = some mono' →
      Step σ { σ.setCall i .mutating with mono := mono' }
  | mutate {i : ι} {e : Event (request i).operation.overload.Value InvokeException}
      {mono' : MonoMachine ι (fun i => (request i).operation.overload.Value) InvokeException} :
      e ≠ .call →
      (∀ observed elapsed, e = .predicate observed elapsed →
        observed = (request i).operation.predicate σ.machine.state) →
      σ.mono.step (timeout request) i e = some mono' → Step σ { σ with mono := mono' }
  | returned {i : ι} {exit : Exit (request i).operation.overload.Value InvokeException} :
      σ.calls i = .mutating → σ.mono.calls i = .completed exit →
      Step σ (σ.setCall i (.completed ((request i).operation.overload.operate
        (request i).operation.failure (request i).operation.timeout exit)))

/-- The command of a call is sent: the call gets the permit. -/
def Invokes (i : ι) (σ σ' : OperationSystem Cron request) : Prop :=
  ∃ mono', σ.mono.step (timeout request) i .acquired = some mono' ∧
    σ' = { σ with mono := mono' }

/-! ### What a step does -/

variable {σ₀ σ σ' : OperationSystem Cron request} {i : ι}

/-- To the lock: nothing, or one event of one call. -/
theorem Step.mono_cases (h : Step σ σ') :
    σ'.mono = σ.mono ∨ ∃ i e, σ.mono.step (timeout request) i e = some σ'.mono ∧
      (e = .call → σ.calls i = .uploading ∨ σ.calls i = .notCalled ∧ ∃ contains,
        (request i).operation.answer contains σ.machine.state = none) ∧
      (∀ observed elapsed, e = .predicate observed elapsed →
        observed = (request i).operation.predicate σ.machine.state) := by
  cases h with
  | mutates hcall hstart hmono =>
    refine .inr ⟨_, _, hmono, fun _ => .inr ⟨hcall, _, Operation.answer_of_mutates hstart⟩, ?_⟩
    exact fun _ _ h => by cases h
  | uploaded hcall hmono =>
    exact .inr ⟨_, _, hmono, fun _ => .inl hcall, fun _ _ h => by cases h⟩
  | mutate hne hobserved hmono =>
    exact .inr ⟨_, _, hmono, fun h => absurd h hne, hobserved⟩
  | _ => exact .inl rfl

/-- Where a call goes from a state. -/
inductive CallStep (σ : OperationSystem Cron request) (i : ι) : PrintCall → Prop
  | answered {contains : Bool} {result : Except InvokeException MachineOperationResult} :
      σ.calls i = .notCalled →
      (request i).operation.answer contains σ.machine.state = some result →
      CallStep σ i (.completed result)
  | uploads {contains : Bool} :
      σ.calls i = .notCalled →
      (request i).operation.answer contains σ.machine.state = none → CallStep σ i .uploading
  | mutates : CallStep σ i .mutating
  | uploadFailed {result : Except InvokeException MachineOperationResult} :
      σ.calls i = .uploading → ¬ Succeeds result → CallStep σ i (.completed result)
  | returned {exit : Exit (request i).operation.overload.Value InvokeException} :
      σ.mono.calls i = .completed exit →
      CallStep σ i (.completed ((request i).operation.overload.operate
        (request i).operation.failure (request i).operation.timeout exit))

omit [DecidableEq Cron] [Hashable (HeatingSchedule Cron)] [Hashable (ScheduledPrint Cron)] in
theorem calls_setCall_cases {k : ι} {call : PrintCall} (hcall : σ.CallStep k call) :
    (σ.setCall k call).calls i = σ.calls i ∨ σ.CallStep i ((σ.setCall k call).calls i) := by
  rcases eq_or_ne i k with rfl | hne
  · rw [calls_setCall_self]
    exact .inr hcall
  · exact .inl (calls_setCall_of_ne hne)

/-- To a call: nothing, or one of its own steps. -/
theorem Step.calls_cases (h : Step σ σ') (i : ι) :
    σ'.calls i = σ.calls i ∨ σ.CallStep i (σ'.calls i) := by
  cases h with
  | answered hcall hanswer => exact calls_setCall_cases (.answered hcall hanswer)
  | uploads hcall hstart =>
    exact calls_setCall_cases (.uploads hcall (Operation.answer_of_uploads hstart))
  | mutates _ _ _ => exact calls_setCall_cases .mutates
  | uploadFailed hcall hfails => exact calls_setCall_cases (.uploadFailed hcall hfails)
  | uploaded _ _ => exact calls_setCall_cases .mutates
  | returned _ hexit => exact calls_setCall_cases (.returned hexit)
  | _ => exact .inl rfl

theorem Invokes.step (h : Invokes i σ σ') : Step σ σ' := by
  obtain ⟨mono', hmono, rfl⟩ := h
  exact .mutate (by simp) (by simp) hmono

theorem Step.unitIDs (h : Step σ σ') (hσ : σ.machine.state.UnitIDs) :
    σ'.machine.state.UnitIDs := by
  cases h with
  | commit hcommit => exact MachineConnection.unitIDs_commitStep hcommit hσ
  | _ => exact hσ

theorem Reached.unitIDs (h : Reachable Initial Step σ) : σ.machine.state.UnitIDs := by
  refine Reachable.induct
    (I := fun σ : OperationSystem Cron request => σ.machine.state.UnitIDs) ?_ ?_ h
  · exact fun σ hinit => hinit.unitIDs
  · exact fun σ σ' _ hσ hstep => hstep.unitIDs hσ

theorem Reached.mono (h : Reachable Initial Step σ) :
    MonoMachine.Reached (timeout request) σ.mono := by
  refine Reachable.induct
    (I := fun σ : OperationSystem Cron request => MonoMachine.Reached (timeout request) σ.mono)
    ?_ ?_ h
  · exact fun σ hinit => .refl hinit.mono
  · intro σ σ' _ hσ hstep
    obtain heq | ⟨i, e, hmono, -⟩ := hstep.mono_cases
    · rwa [heq]
    · exact Reachable.tail hσ ⟨i, e, hmono⟩

/-! ### Commands -/

/-- The call has waited for the permit and got it. -/
def Sent (σ : OperationSystem Cron request) (i : ι) : Prop :=
  σ.mono.calls i ≠ .notStarted ∧ σ.mono.calls i ≠ .waiting

/-- The call has got the permit and given it back, as its predicate was observed. -/
def Done (σ : OperationSystem Cron request) (i : ι) : Prop :=
  ∃ exit, σ.mono.calls i = .completed exit ∧ exit.IsSuccess

/-- The call has left with the permit. -/
def Leaked (σ : OperationSystem Cron request) (i : ι) : Prop := (σ.mono.calls i).Leaked

/-- The tests have let the call go on. -/
def Accepted (σ : OperationSystem Cron request) (i : ι) : Prop :=
  σ.calls i = .uploading ∨ σ.mono.calls i ≠ .notStarted

omit [DecidableEq ι] [DecidableEq Cron] [Hashable (HeatingSchedule Cron)]
  [Hashable (ScheduledPrint Cron)] in
theorem Sent.done (h : σ.Sent i) (howns : ¬ (σ.mono.calls i).Owns) : σ.Done i := by
  obtain ⟨hstarted, hwaited⟩ := h
  cases hphase : σ.mono.calls i with
  | notStarted => exact absurd hphase hstarted
  | waiting => exact absurd hphase hwaited
  | completed exit =>
    refine ⟨exit, hphase, ?_⟩
    by_contra hfails
    rw [hphase] at howns
    exact howns (.inr hfails)
  | _ =>
    rw [hphase] at howns
    exact absurd (.inl trivial) howns

/-- A step of the lock on one call, or on another one. -/
theorem Step.phase_cases (h : Step σ σ') (i : ι) :
    σ'.mono.calls i = σ.mono.calls i ∨
    ∃ e, (σ.mono.calls i).advance (timeout request i) σ.mono.currentCount e =
        some (σ'.mono.currentCount, σ'.mono.calls i) ∧
      (e = .call → σ.calls i = .uploading ∨ σ.calls i = .notCalled ∧ ∃ contains,
        (request i).operation.answer contains σ.machine.state = none) ∧
      (∀ observed elapsed, e = .predicate observed elapsed →
        observed = (request i).operation.predicate σ.machine.state) := by
  obtain heq | ⟨k, e, hmono, hcall, hobserved⟩ := h.mono_cases
  · exact .inl (congrFun (congrArg MonoMachine.calls heq) i)
  · rcases eq_or_ne i k with rfl | hne
    · obtain ⟨p, hadv, hcalls⟩ := MonoMachine.step_cases hmono
      refine .inr ⟨e, ?_, hcall, hobserved⟩
      rw [hcalls, Function.update_self]
      exact hadv
    · exact .inl (MonoMachine.step_calls_of_ne hmono hne)

/-- A command stays sent. -/
theorem Step.sent (h : Step σ σ') (hσ : σ.Sent i) : σ'.Sent i := by
  obtain heq | ⟨e, hadv, -⟩ := h.phase_cases i
  · rwa [Sent, heq]
  · refine ⟨Phase.advance_ne_notStarted hadv, fun hwaiting => ?_⟩
    rw [hwaiting] at hadv
    exact hσ.1 (Phase.notStarted_of_waiting hadv)

/-- A permit that is lost stays lost. -/
theorem Step.leaked (h : Step σ σ') (hσ : σ.Leaked i) : σ'.Leaked i := by
  obtain heq | ⟨e, hadv, -⟩ := h.phase_cases i
  · rwa [Leaked, heq]
  · cases hphase : σ.mono.calls i with
    | completed exit =>
      rw [hphase, Phase.advance_completed] at hadv
      cases hadv
    | _ =>
      rw [Leaked, hphase] at hσ
      exact absurd hσ id

/-- A call is done by a step that observes its predicate. -/
theorem Step.observed (h : Step σ σ') (hbefore : ¬ σ.Done i) (hafter : σ'.Done i) :
    (σ.mono.calls i).InProgress ∧
      (request i).operation.predicate σ.machine.state = .ok true := by
  obtain ⟨exit, hexit, hsuccess⟩ := hafter
  obtain heq | ⟨e, hadv, -, hobserved⟩ := h.phase_cases i
  · exact absurd ⟨exit, heq.symm.trans hexit, hsuccess⟩ hbefore
  · rw [hexit] at hadv
    obtain ⟨⟨r, hphase⟩, elapsed, rfl⟩ := Phase.advance_succeeded hadv hsuccess
    refine ⟨?_, (hobserved _ elapsed rfl).symm⟩
    rw [hphase]
    trivial

/-- A call is accepted by its tests. -/
theorem Step.accepted (h : Step σ σ') (hbefore : ¬ σ.Accepted i) (hafter : σ'.Accepted i) :
    σ.calls i = .notCalled ∧ ∃ contains,
      (request i).operation.answer contains σ.machine.state = none := by
  rw [Accepted, not_or, not_not] at hbefore
  obtain hupload | hstarted := hafter
  · obtain heq | hcall := h.calls_cases i
    · exact absurd (heq.symm.trans hupload) hbefore.1
    · rw [hupload] at hcall
      cases hcall with
      | uploads hcalled hanswer => exact ⟨hcalled, _, hanswer⟩
  · obtain heq | ⟨e, hadv, hcall, -⟩ := h.phase_cases i
    · exact absurd (heq.trans hbefore.2) hstarted
    · rw [hbefore.2] at hadv
      have he : e = .call := by
        by_contra hne
        rw [Phase.advance_notStarted hne] at hadv
        cases hadv
      exact (hcall he).resolve_left hbefore.1

omit [DecidableEq Cron] [Hashable (HeatingSchedule Cron)] [Hashable (ScheduledPrint Cron)] in
/-- A command is sent for a call that waits, and while the permit is free. -/
theorem Invokes.cases (h : Invokes i σ σ') :
    σ.mono.calls i = .waiting ∧ σ.mono.currentCount ≠ 0 ∧ σ'.mono.calls i = .invoking := by
  obtain ⟨mono', hmono, rfl⟩ := h
  obtain ⟨p, hadv, hcalls⟩ := MonoMachine.step_cases hmono
  obtain ⟨hwaiting, hcount⟩ := Phase.advance_acquired hadv
  obtain ⟨n, hn⟩ := Nat.exists_eq_succ_of_ne_zero hcount.ne'
  refine ⟨hwaiting, hcount.ne', ?_⟩
  rw [hwaiting, hn] at hadv
  cases hadv
  rw [hcalls, Function.update_self]

/-- While the permit is free, every command that was sent is done. -/
theorem Reached.done_of_invokes {j : ι} (h : Reachable Initial Step σ)
    (hinvokes : Invokes j σ σ') (hsent : σ.Sent i) : σ.Done i := by
  refine hsent.done fun howns => ?_
  obtain ⟨-, hfree⟩ | ⟨hzero, -⟩ := (Reached.mono h).ownedOnce
  · exact hfree i howns
  · exact hinvokes.cases.2.1 hzero

/-- **After a leak** no command is sent. -/
theorem Reached.not_invokes {j : ι} (h : Reachable Initial Step σ) (hleaked : σ.Leaked i) :
    ¬ Invokes j σ σ' := by
  intro hinvokes
  obtain ⟨-, hfree⟩ | ⟨hzero, -⟩ := (Reached.mono h).ownedOnce
  · exact hfree i (.inr hleaked)
  · exact hinvokes.cases.2.1 hzero

omit [DecidableEq ι] [DecidableEq Cron] [Hashable (HeatingSchedule Cron)]
  [Hashable (ScheduledPrint Cron)] in
theorem not_done_of_eq {p : Phase (request i).operation.overload.Value InvokeException}
    (hphase : σ.mono.calls i = p) (hp : ∀ exit, p ≠ .completed exit) : ¬ σ.Done i := by
  rintro ⟨exit, hexit, -⟩
  exact hp exit (hphase.symm.trans hexit)

/-! ### Results -/

/-- The call finds the state that it asks for: it polls its predicate, or its tests answer with a
success. -/
def Finds (σ : OperationSystem Cron request) (i : ι) : Prop :=
  ((σ.mono.calls i).InProgress ∨ σ.calls i = .notCalled ∧ ∃ contains,
    (request i).operation.answer contains σ.machine.state = some (.ok .ok)) ∧
  (request i).operation.predicate σ.machine.state = .ok true

/-- The call is declined with the result before its command: by its tests, or by the upload. -/
def Declines (σ : OperationSystem Cron request) (i : ι)
    (result : Except InvokeException MachineOperationResult) : Prop :=
  σ.calls i = .notCalled ∧ (∃ contains,
    (request i).operation.answer contains σ.machine.state = some result) ∨
  σ.calls i = .uploading

section

variable {run : ℕ → OperationSystem Cron request} {n : ℕ}

/-- A call that is completed was answered at some point of the run. -/
theorem exists_answer {result : Except InvokeException MachineOperationResult}
    (hrun : IsRun Initial Step run n) (hcall : (run n).calls i = .completed result) :
    ∃ t, t < n ∧ (run t).CallStep i (.completed result) := by
  have hstart : (run 0).calls i ≠ .completed result := by
    rw [hrun.init.calls i]
    exact fun h => by cases h
  obtain ⟨t, -, htn, hstep, hbefore, hafter⟩ := hrun.exists_cause
    (Q := fun σ => σ.calls i = .completed result) (Nat.zero_le n) le_rfl hstart hcall
  refine ⟨t, htn, ?_⟩
  obtain heq | hanswer := hstep.calls_cases i
  · exact absurd (heq.symm.trans hafter) hbefore
  · rwa [hafter] at hanswer

/-- A call that is done found its state at some point of the run. -/
theorem exists_finds (hrun : IsRun Initial Step run n) {t u : ℕ} (htu : t ≤ u) (hun : u ≤ n)
    (hstart : ¬ (run t).Done i) (hdone : (run u).Done i) :
    ∃ v, t ≤ v ∧ v < u ∧ ((run v).mono.calls i).InProgress ∧
      (request i).operation.predicate (run v).machine.state = .ok true := by
  obtain ⟨v, htv, hvu, hstep, hbefore, hafter⟩ :=
    hrun.exists_cause (Q := fun σ => σ.Done i) htu hun hstart hdone
  exact ⟨v, htv, hvu, hstep.observed hbefore hafter⟩

/-- **The answer of an operation** says what became of the machine. A success has found the state
that the caller asked for while the call was running. Anything else was given before the command, or
the call left the lock with the permit, and no command of any call is ever sent again. -/
theorem answered_of_run (hrun : IsRun Initial Step run n)
    {result : Except InvokeException MachineOperationResult}
    (hcall : (run n).calls i = .completed result) :
    (Succeeds result → ∃ t, t < n ∧ (run t).Finds i) ∧
    (¬ Succeeds result → (∃ t, t < n ∧ (run t).Declines i result) ∨
      ∀ σ σ' j, Relation.ReflTransGen Step (run n) σ → ¬ Invokes j σ σ') := by
  obtain ⟨t, htn, hanswer⟩ := exists_answer hrun hcall
  cases hanswer with
  | @answered contains _ hcalled hanswer =>
    have hunitIDs := Reached.unitIDs (hrun.take htn.le).reachable
    refine ⟨fun hsuccess => ⟨t, htn, ?_⟩, fun _ =>
      .inl ⟨t, htn, .inl ⟨hcalled, contains, hanswer⟩⟩⟩
    obtain ⟨hnone, -⟩ | ⟨result', hdeclined, hfails⟩ | ⟨hok, hholds⟩ :=
      (request i).decides contains hunitIDs
    · rw [hnone] at hanswer
      cases hanswer
    · rw [hdeclined] at hanswer
      cases hanswer
      exact absurd hsuccess hfails
    · exact ⟨.inr ⟨hcalled, contains, hok⟩, hholds⟩
  | uploadFailed hcalled hfails =>
    exact ⟨fun hsuccess => absurd hsuccess hfails, fun _ => .inl ⟨t, htn, .inr hcalled⟩⟩
  | @returned exit hexit =>
    rw [MutateOverload.succeeds_operate_iff]
    constructor
    · intro hsuccess
      have hstart : ¬ (run 0).Done i := not_done_of_eq
        (congrFun (congrArg MonoMachine.calls hrun.init.mono) i) fun _ h => by cases h
      obtain ⟨u, -, hut, hprogress, hpredicate⟩ :=
        exists_finds hrun (Nat.zero_le t) htn.le hstart ⟨exit, hexit, hsuccess⟩
      exact ⟨u, hut.trans htn, .inl hprogress, hpredicate⟩
    · intro hfails
      have hleaked : (run t).Leaked i := by
        rw [Leaked, hexit]
        exact hfails
      refine .inr fun σ σ' j hmore => ?_
      have hleaked' : σ.Leaked i := by
        refine Relation.ReflTransGen.rec ?_ (fun _ hs ih => hs.leaked ih) hmore
        exact hrun.stays (fun _ _ hσ hs => hs.leaked hσ) htn.le le_rfl hleaked
      obtain ⟨σ₀, hinit, hreaches⟩ := hrun.reachable
      exact Reached.not_invokes ⟨σ₀, hinit, hreaches.trans hmore⟩ hleaked'

/-- A printing machine that can be controlled, and two calls of `Resume`. -/
private def controllable : OperationSystem Unit fun _ : Bool => .resume where
  machine :=
    ⟨default, { (default : MachineState) with capabilities := .control, status := .printing },
      default, ⟨[], false, 0⟩⟩
  mono := .initial
  calls _ := .notCalled

private theorem isRun_controllable : IsRun Initial Step (fun _ => controllable) 0 :=
  ⟨⟨fun _ _ h => (by cases h), rfl, fun _ => rfl⟩, fun _ h => absurd h (Nat.not_lt_zero _)⟩

/-- The first call is made, its command is sent, and its predicate is observed. -/
private theorem steps_controllable : ∃ σ₁ σ₂ σ₃, Step controllable σ₁ ∧ Invokes false σ₁ σ₂ ∧
    Relation.ReflTransGen Step σ₂ σ₃ ∧ σ₃.machine = controllable.machine ∧
    σ₃.mono.currentCount = 1 ∧ σ₃.calls false = .mutating ∧
    σ₃.mono.calls false = .completed (.succeeded .zero ()) ∧ σ₃.calls true = .notCalled ∧
    σ₃.mono.calls true = .notStarted := by
  have hstart : MachineConnection.resume.start false controllable.machine.state =
      .ok .mutates := rfl
  have hreturned : ∀ observed elapsed,
      (.invokeReturned () : Event Unit InvokeException) = .predicate observed elapsed →
        observed = MachineConnection.resume.predicate controllable.machine.state :=
    fun _ _ h => by cases h
  have hobserved : ∀ observed elapsed,
      (.predicate (.ok true) .zero : Event Unit InvokeException) = .predicate observed elapsed →
        observed = MachineConnection.resume.predicate controllable.machine.state := by
    rintro observed elapsed ⟨⟩
    rfl
  exact ⟨_, _, _, .mutates (i := false) rfl hstart rfl, ⟨_, rfl, rfl⟩,
    .tail (.single (.mutate (i := false) (fun h => by cases h) hreturned rfl))
      (.mutate (i := false) (fun h => by cases h) hobserved rfl), rfl, rfl, rfl, rfl, rfl, rfl⟩

/-- A print is resumed. -/
theorem answered_of_run_resume :
    ∃ (run : ℕ → OperationSystem Unit fun _ : Bool => .resume) (n : ℕ), IsRun Initial Step run n ∧
      (run n).calls false = .completed (.ok .ok) ∧ ∃ t, t < n ∧ (run t).Finds false := by
  obtain ⟨σ₁, σ₂, σ₃, hcalled, hinvokes, hreaches, -, -, hcall, hphase, -⟩ := steps_controllable
  have hreturned : Step σ₃ (σ₃.setCall false (.completed (.ok .ok))) := .returned hcall hphase
  obtain ⟨run, n, -, hrun, -, hlast⟩ := isRun_controllable.extend
    (((Relation.ReflTransGen.single hcalled).tail hinvokes.step).trans
      (hreaches.tail hreturned))
  have hcompleted : (run n).calls false = .completed (.ok .ok) := by
    rw [hlast]
    exact calls_setCall_self
  exact ⟨run, n, hrun, hcompleted,
    (answered_of_run hrun hcompleted).1 (succeeds_ok.mpr rfl)⟩

/-- **The command of an operation** is sent only if the operation was permitted when its caller
asked for it, and after every earlier command the predicate of that one has been observed. -/
theorem invokes_of_run (hrun : IsRun Initial Step run n) (hinvokes : Invokes i (run n) σ') :
    (∃ t, t < n ∧ (run t).calls i = .notCalled ∧ (request i).Permits (run t).machine.state) ∧
    ∀ k t, t < n → Invokes k (run t) (run (t + 1)) →
      ∃ u, t < u ∧ u < n ∧ ((run u).mono.calls k).InProgress ∧
        (request k).operation.predicate (run u).machine.state = .ok true := by
  constructor
  · have hstart : ¬ (run 0).Accepted i := by
      rintro (hupload | hstarted)
      · rw [hrun.init.calls i] at hupload
        cases hupload
      · exact hstarted (congrFun (congrArg MonoMachine.calls hrun.init.mono) i)
    have haccepted : (run n).Accepted i := by
      refine .inr fun hnot => ?_
      rw [hinvokes.cases.1] at hnot
      cases hnot
    obtain ⟨t, -, htn, hstep, hbefore, hafter⟩ := hrun.exists_cause
      (Q := fun σ => σ.Accepted i) (Nat.zero_le n) le_rfl hstart haccepted
    obtain ⟨hcalled, contains, hnone⟩ := hstep.accepted hbefore hafter
    refine ⟨t, htn, hcalled, ?_⟩
    obtain ⟨-, hpermits⟩ | ⟨result, hsome, -⟩ | ⟨hsome, -⟩ :=
      (request i).decides contains (Reached.unitIDs (hrun.take htn.le).reachable)
    · exact hpermits
    all_goals
      rw [hnone] at hsome
      cases hsome
  · intro k t htn hfirst
    have hinvoking := hfirst.cases.2.2
    have hstart : ¬ (run (t + 1)).Done k := not_done_of_eq hinvoking fun _ h => by cases h
    have hsent : (run (t + 1)).Sent k := by
      rw [Sent, hinvoking]
      exact ⟨by simp, by simp⟩
    have hdone : (run n).Done k := Reached.done_of_invokes hrun.reachable hinvokes
      (hrun.stays (fun _ _ hσ hs => hs.sent hσ) htn le_rfl hsent)
    exact exists_finds hrun htn le_rfl hstart hdone

/-- The second call of `Resume` sends its command after the first one has observed its predicate. -/
theorem invokes_of_run_resume :
    ∃ (run : ℕ → OperationSystem Unit fun _ : Bool => .resume) (n t : ℕ), t < n ∧
      IsRun Initial Step run n ∧ (∃ σ', Invokes true (run n) σ') ∧
      Invokes false (run t) (run (t + 1)) ∧ ∃ u, t < u ∧ u < n ∧
        ((run u).mono.calls false).InProgress ∧ (run u).machine.state.status ≠ .paused := by
  obtain ⟨σ₁, σ₂, σ₃, hcalled, hinvokes, hreaches, hmachine, hcount, -, -, hcall, hphase⟩ :=
    steps_controllable
  obtain ⟨run₁, n₁, -, hrun₁, -, rfl⟩ := isRun_controllable.extend (.single hcalled)
  obtain ⟨run₂, hrun₂, hbefore₂, rfl⟩ := hrun₁.snoc hinvokes.step
  -- the second call waits for the permit
  have hstart : MachineConnection.resume.start false σ₃.machine.state = .ok .mutates := by
    rw [hmachine]
    rfl
  have hmono : σ₃.mono.step (timeout fun _ => .resume) true .call =
      some ⟨1, Function.update σ₃.mono.calls true .waiting⟩ := by
    rw [MonoMachine.step, hphase, hcount]
    rfl
  have hsecond := Step.mutates (i := true) hcall hstart hmono
  obtain ⟨run₃, n₃, hn₃, hrun₃, hbefore₃, hlast⟩ := hrun₂.extend (hreaches.tail hsecond)
  have hfirst : Invokes false (run₃ n₁) (run₃ (n₁ + 1)) := by
    rw [hbefore₃ n₁ (Nat.le_succ n₁), hbefore₃ (n₁ + 1) le_rfl, hbefore₂ n₁ le_rfl]
    exact hinvokes
  have hwaits : ∃ σ', Invokes true (run₃ n₃) σ' := by
    rw [hlast]
    exact ⟨_, _, rfl, rfl⟩
  obtain ⟨σ', hσ'⟩ := hwaits
  obtain ⟨u, hu, hun, hprogress, hpredicate⟩ := (invokes_of_run hrun₃ hσ').2 false n₁ hn₃ hfirst
  exact ⟨run₃, n₃, n₁, hn₃, hrun₃, ⟨σ', hσ'⟩, hfirst, u, hu, hun, hprogress,
    of_decide_eq_true (Except.ok.inj hpredicate)⟩

end

end OperationSystem

end Connect3Dp
