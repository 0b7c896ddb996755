import Connect3Dp.Connectors.ScheduledTasks
import Connect3Dp.MonoMachine

/-!
# The results of operations

An operation on a machine runs `MutateUntil` and turns what it hands back into a
`MachineOperationResult` (`intoOperationResult`, one for each of the two results), which a client
gets as a `ClientMessageMachineOperationResult`.

A `Course` is one of the ways in which a mutation can go. Every completed call whose predicate did
not throw took one of them (`Phase.Runs.exists_course`), and each can be taken
(`Course.exists_runs`).
-/

namespace Connect3Dp

/-! ### What a call has seen -/

namespace Phase

variable {T E : Type}

/-- A call has seen these events and is now in this phase. The count of the semaphore is whatever
the other calls have made it. -/
inductive Runs (timeout : TimeSpan) : List (Event T E) → Phase T E → Prop
  | start : Runs timeout [] .notStarted
  | step {events : List (Event T E)} {phase phase' : Phase T E} {count' : ℕ} (count : ℕ)
      (e : Event T E) :
    Runs timeout events phase → phase.advance timeout count e = some (count', phase') →
      Runs timeout (events ++ [e]) phase'

end Phase

/-- A completed call of a machine has its own history. -/
theorem MonoMachine.Reached.runs {ι : Type} [DecidableEq ι] {T : ι → Type} {E : Type}
    {timeout : ι → TimeSpan} {σ : MonoMachine ι T E} (h : Reached timeout σ) (i : ι) :
    ∃ events, Phase.Runs (timeout i) events (σ.calls i) := by
  refine Reachable.induct (I := fun σ => ∃ events, Phase.Runs (timeout i) events (σ.calls i))
    ?_ ?_ h
  · rintro σ rfl
    exact ⟨[], .start⟩
  · rintro σ σ' - ⟨events, hruns⟩ ⟨j, e, hstep⟩
    obtain ⟨p, hadvance, hcalls⟩ := step_cases hstep
    rcases eq_or_ne i j with rfl | hne
    · refine ⟨events ++ [e], ?_⟩
      rw [hcalls, Function.update_self]
      exact .step _ e hruns hadvance
    · refine ⟨events, ?_⟩
      rw [hcalls, Function.update_of_ne hne]
      exact hruns

/-- How a mutation goes: the action returns or throws, and if it returns, the predicate is
observed or the timeout passes. -/
inductive Course (T E : Type)
  | observed (invokeReturn : T) (elapsed : TimeSpan)
  | timedOut (invokeReturn : T)
  | threw (ex : E)

namespace Course

variable {T E : Type}

/-- The exit of `MutateUntil`. A timeout forgets what the action returned. -/
def exit : Course T E → Exit T E
  | observed invokeReturn elapsed => .succeeded elapsed invokeReturn
  | timedOut _ => .timedOut
  | threw ex => .invokeThrew ex

/-- What the events of a call that took the course are. -/
def Happened : Course T E → List (Event T E) → Prop
  | observed invokeReturn elapsed, events => ∃ before, .invokeReturned invokeReturn ∈ before ∧
      events = before ++ [.predicate (.ok true) elapsed]
  | timedOut invokeReturn, events => .invokeReturned invokeReturn ∈ events ∧
      ∀ elapsed, .predicate (.ok true) elapsed ∉ events
  | threw ex, events => .invokeThrew ex ∈ events

end Course

/-- What a call that is in a phase has seen. -/
def Phase.Seen {T E : Type} (events : List (Event T E)) : Phase T E → Prop
  | polling invokeReturn | delaying invokeReturn =>
      (Course.timedOut invokeReturn).Happened events
  | completed (.predicateThrew _) => True
  | completed exit => ∃ course : Course T E, course.exit = exit ∧ course.Happened events
  | _ => ∀ elapsed, .predicate (.ok true) elapsed ∉ events

/-- An event that is no satisfied predicate adds none. -/
theorem notMem_append_of_ne {T E : Type} {events : List (Event T E)} {e : Event T E}
    (h : ∀ elapsed, .predicate (.ok true) elapsed ∉ events)
    (he : ∀ elapsed, .predicate (.ok true) elapsed ≠ e) (elapsed : TimeSpan) :
    .predicate (.ok true) elapsed ∉ events ++ [e] := by
  rw [List.mem_append, List.mem_singleton]
  exact fun hmem => hmem.elim (h elapsed) (he elapsed)

theorem Phase.Runs.seen {T E : Type} {timeout : TimeSpan} {events : List (Event T E)}
    {phase : Phase T E} (h : Runs timeout events phase) : phase.Seen events := by
  induction h with
  | start => exact fun _ => List.not_mem_nil
  | @step events phase phase' count' count e hruns hadvance ih =>
    have hlast : e ∈ events ++ [e] := List.mem_append_right _ (List.mem_singleton_self e)
    unfold Phase.advance at hadvance
    split at hadvance
    case h_1 => cases hadvance; exact notMem_append_of_ne ih fun _ h => by cases h
    case h_2 => cases hadvance; exact notMem_append_of_ne ih fun _ h => by cases h
    case h_3 =>
      cases hadvance
      exact ⟨hlast, notMem_append_of_ne ih fun _ h => by cases h⟩
    case h_4 ex =>
      cases hadvance
      exact ⟨.threw ex, rfl, hlast⟩
    case h_5 invokeReturn elapsed =>
      cases hadvance
      exact ⟨.observed invokeReturn elapsed, rfl, events, ih.1, rfl⟩
    case h_6 invokeReturn elapsed =>
      have hseen : (Course.timedOut invokeReturn).Happened
          (events ++ [.predicate (.ok false) elapsed]) :=
        ⟨List.mem_append_left _ ih.1, notMem_append_of_ne ih.2 fun _ h => by cases h⟩
      split at hadvance
      · cases hadvance
        exact hseen
      · cases hadvance
        exact ⟨.timedOut invokeReturn, rfl, hseen⟩
    case h_7 => cases hadvance; exact trivial
    case h_8 =>
      cases hadvance
      exact ⟨List.mem_append_left _ ih.1, notMem_append_of_ne ih.2 fun _ h => by cases h⟩
    case h_9 => cases hadvance

/-- A completed call took a course, if its predicate did not throw. -/
theorem Phase.Runs.exists_course {T E : Type} {timeout : TimeSpan} {events : List (Event T E)}
    {exit : Exit T E} (h : Runs timeout events (.completed exit)) :
    (∃ ex, exit = .predicateThrew ex) ∨
      ∃ course : Course T E, course.exit = exit ∧ course.Happened events := by
  have hseen := h.seen
  cases exit with
  | predicateThrew ex => exact .inl ⟨ex, rfl⟩
  | succeeded elapsed invokeReturn => exact .inr hseen
  | invokeThrew ex => exact .inr hseen
  | timedOut => exact .inr hseen

/-- Every course is taken by some call. -/
theorem Course.exists_runs {T E : Type} (course : Course T E) :
    ∃ timeout events, Phase.Runs timeout events (.completed course.exit) := by
  have hwaiting : Phase.Runs .zero [.call] (.waiting : Phase T E) := .step 1 .call .start rfl
  have hinvoking : Phase.Runs .zero [.call, .acquired] (.invoking : Phase T E) :=
    .step 1 .acquired hwaiting rfl
  have hpolling : ∀ r, Phase.Runs .zero [.call, .acquired, .invokeReturned r]
      (.polling r : Phase T E) := fun r => .step 0 (.invokeReturned r) hinvoking rfl
  cases course with
  | observed r elapsed =>
    exact ⟨.zero, _, .step 0 (.predicate (.ok true) elapsed) (hpolling r) rfl⟩
  | timedOut r =>
    have hlate : (Phase.polling r : Phase T E).advance .zero 0 (.predicate (.ok false) ⟨1⟩) =
        some (0, .completed .timedOut) := by
      rw [Phase.advance, if_neg (by decide)]
    exact ⟨.zero, _, .step 0 _ (hpolling r) hlate⟩
  | threw ex => exact ⟨.zero, _, .step 0 (.invokeThrew ex) hinvoking rfl⟩

/-! ### Operation results -/

/-- What the results look at in an exception. -/
inductive InvokeException
  | machineException (machineMessage : MachineMessage)
  | other
  deriving DecidableEq

/-- `default(MachineOperationResult)`. -/
instance : Inhabited MachineOperationResult := ⟨⟨false, none⟩⟩

/-- What `IntoOperationResult` is given besides the result of the mutation. -/
structure OperationFailure where
  operationFailedId : NetString
  operationFailedTitle : NetString
  manualResolve : MachineMessageActions
  autoResolve : MachineMessageAutoResole

/-- `MachineOperationResult.Fail`. -/
def OperationFailure.fail (failure : OperationFailure) (bodyReason : NetString) :
    MachineOperationResult :=
  .fail ⟨failure.operationFailedId, failure.operationFailedTitle, bodyReason, .error,
    failure.manualResolve, failure.autoResolve⟩

/-- `IntoOperationResult`. -/
def MutationResult.intoOperationResult (failure : OperationFailure)
    (mutationResult : MutationResult InvokeException) : MachineOperationResult :=
  if mutationResult.isSuccess then .ok
  else if mutationResult.timedOut then failure.fail (some "Timed out")
  else if mutationResult.invokeException.isSome then
    failure.fail (some "Exception occurred while invoking mutation")
  else failure.fail (some "Unknown")

/-- `IntoOperationResult`, of a mutation whose action returns a result. -/
def MutationValuedResult.intoOperationResult (failure : OperationFailure)
    (mutationResult : MutationValuedResult MachineOperationResult InvokeException) :
    MachineOperationResult :=
  let value := mutationResult.value.getD default
  if mutationResult.isSuccess then .ok
  else if !mutationResult.isSuccess && !value.success then value
  else
    match mutationResult.invokeException with
    | some (.machineException machineMessage) => failure.fail machineMessage.body
    | some .other => failure.fail (some "Exception occurred while invoking mutation")
    | none =>
      if mutationResult.timedOut then failure.fail (some "Timed out")
      else failure.fail (some "Unknown")

/-- `MutateUntil` followed by `IntoOperationResult`. -/
def operate (failure : OperationFailure) (timeout : TimeSpan)
    (exit : Exit Unit InvokeException) : Except InvokeException MachineOperationResult :=
  MutationResult.intoOperationResult failure <$> exit.mutateUntil timeout

/-- `MutateUntil<MachineOperationResult>` followed by `IntoOperationResult`. -/
def operateValued (failure : OperationFailure) (timeout : TimeSpan)
    (exit : Exit MachineOperationResult InvokeException) :
    Except InvokeException MachineOperationResult :=
  MutationValuedResult.intoOperationResult failure <$> exit.mutateUntilValued timeout

/-! ### The message of a result -/

structure ClientMessageMachineOperationResult where
  isSuccess : Bool
  failureReason : NetString
  failureMessage : Option MachineMessage
  deriving DecidableEq

/-- `Of`, where a failure without a reason raises. -/
def ClientMessageMachineOperationResult.of (operationResult : MachineOperationResult) :
    Except Fault ClientMessageMachineOperationResult :=
  if operationResult.success then .ok ⟨true, none, none⟩
  else
    match operationResult.reasoning with
    | none => .error .invalidOperation
    | some reasoning =>
      .ok ⟨false, some (reasoning.title.getD "" ++ "; " ++ reasoning.body.getD ""), some reasoning⟩

/-! ### Truth -/

/-- The mutation went well: the predicate was observed after an action that succeeded. -/
def Course.WentWell {T E : Type} (outcome : T → MachineOperationResult) (course : Course T E) :
    Prop :=
  ∃ invokeReturn elapsed, course = .observed invokeReturn elapsed ∧
    (outcome invokeReturn).success = true

/-- What the action returned, if it returned. -/
def Course.invokeReturn {T E : Type} : Course T E → Option T
  | observed invokeReturn _ | timedOut invokeReturn => some invokeReturn
  | threw _ => none

/-- The result of an operation tells the truth about its course. `outcome` says what the values
of the action mean. -/
structure TellsTruth {T : Type} (outcome : T → MachineOperationResult)
    (course : Course T InvokeException) (result : MachineOperationResult) : Prop where
  success : result.success = true → course.WentWell outcome
  failure : ¬ course.WentWell outcome → result.success = false ∧ result.reasoning.isSome = true
  reasoning : ∀ r, course.invokeReturn = some r → (outcome r).success = false →
    result.reasoning = (outcome r).reasoning
  machineException : ∀ machineMessage, course = .threw (.machineException machineMessage) →
    result.reasoning.map (·.body) = some machineMessage.body
  timedOut : ∀ r, course = .timedOut r → (outcome r).success = true →
    result.reasoning.map (·.body) = some (some "Timed out")
  message : ∃ clientMessage, ClientMessageMachineOperationResult.of result = .ok clientMessage

namespace ClientMessageMachineOperationResult

theorem of_ok : ∃ clientMessage, of .ok = .ok clientMessage := ⟨_, rfl⟩

theorem of_fail (failure : OperationFailure) (bodyReason : NetString) :
    ∃ clientMessage, of (failure.fail bodyReason) = .ok clientMessage := ⟨_, rfl⟩

/-- A failure without a reason has no message. -/
theorem of_default (clientMessage : ClientMessageMachineOperationResult) :
    of default ≠ .ok clientMessage := fun h => by cases h

end ClientMessageMachineOperationResult

open ClientMessageMachineOperationResult in
/-- Without a value there is no body of a `MachineException` in the result, but for one that has
the text of every other exception. -/
theorem tellsTruth_operate_iff (failure : OperationFailure) (timeout : TimeSpan)
    (course : Course Unit InvokeException) :
    (∃ result, operate failure timeout course.exit = .ok result ∧
        TellsTruth (fun _ => .ok) course result) ↔
      ∀ machineMessage, course = .threw (.machineException machineMessage) →
        machineMessage.body = some "Exception occurred while invoking mutation" := by
  cases course with
  | observed r elapsed =>
    refine iff_of_true ⟨.ok, rfl, ?_⟩ fun _ h => by cases h
    exact {
      success := fun _ => ⟨r, elapsed, rfl, rfl⟩
      failure := fun h => absurd ⟨r, elapsed, rfl, rfl⟩ h
      reasoning := fun _ _ h => by cases h
      machineException := fun _ h => by cases h
      timedOut := fun _ h => by cases h
      message := of_ok }
  | timedOut r =>
    refine iff_of_true ⟨failure.fail (some "Timed out"), rfl, ?_⟩ fun _ h => by cases h
    exact {
      success := fun h => by cases h
      failure := fun _ => ⟨rfl, rfl⟩
      reasoning := fun _ _ h => by cases h
      machineException := fun _ h => by cases h
      timedOut := fun _ _ _ => rfl
      message := of_fail failure _ }
  | threw ex =>
    have hresult : operate failure timeout (Course.threw ex : Course Unit InvokeException).exit =
        .ok (failure.fail (some "Exception occurred while invoking mutation")) := rfl
    constructor
    · rintro ⟨result, hoperate, htruth⟩ machineMessage hcourse
      cases hresult.symm.trans hoperate
      exact (Option.some.inj (htruth.machineException machineMessage hcourse)).symm
    · intro hbody
      refine ⟨_, hresult, ?_⟩
      exact {
        success := fun h => by cases h
        failure := fun _ => ⟨rfl, rfl⟩
        reasoning := fun _ h => by cases h
        machineException := fun machineMessage h => congrArg some (hbody machineMessage h).symm
        timedOut := fun _ h => by cases h
        message := of_fail failure _ }

open ClientMessageMachineOperationResult in
/-- With a value only the success of a successful action comes out: the result of a timeout or of
an exception is a failure without a reason, and a failed action whose predicate is observed is a
success. -/
theorem tellsTruth_operateValued_iff (failure : OperationFailure) (timeout : TimeSpan)
    (course : Course MachineOperationResult InvokeException) :
    (∃ result, operateValued failure timeout course.exit = .ok result ∧
        TellsTruth id course result) ↔ course.WentWell id := by
  have hsilent : operateValued failure timeout course.exit = .ok default →
      ¬ ∃ result, operateValued failure timeout course.exit = .ok result ∧
        TellsTruth id course result := by
    rintro hdefault ⟨result, hoperate, htruth⟩
    cases hdefault.symm.trans hoperate
    obtain ⟨clientMessage, hmessage⟩ := htruth.message
    exact of_default clientMessage hmessage
  cases course with
  | observed r elapsed =>
    have hresult : operateValued failure timeout (Course.observed r elapsed).exit = .ok .ok := rfl
    constructor
    · rintro ⟨result, hoperate, htruth⟩
      cases hresult.symm.trans hoperate
      exact htruth.success rfl
    · intro hwell
      refine ⟨.ok, hresult, ?_⟩
      obtain ⟨r', elapsed', hcourse, hr⟩ := hwell
      cases hcourse
      exact {
        success := fun _ => ⟨r, elapsed, rfl, hr⟩
        failure := fun h => absurd ⟨r, elapsed, rfl, hr⟩ h
        reasoning := fun r' h hfailed => by
          cases h
          rw [hr] at hfailed
          cases hfailed
        machineException := fun _ h => by cases h
        timedOut := fun _ h => by cases h
        message := of_ok }
  | timedOut r =>
    refine iff_of_false (hsilent rfl) ?_
    rintro ⟨r', elapsed, hcourse, -⟩
    cases hcourse
  | threw ex =>
    refine iff_of_false (hsilent rfl) ?_
    rintro ⟨r', elapsed, hcourse, -⟩
    cases hcourse

/-- **Operation results tell the truth** about exactly these courses. -/
theorem operationResults_tellTruth_iff (failure : OperationFailure) (timeout : TimeSpan) :
    (∀ course : Course Unit InvokeException,
      (∃ result, operate failure timeout course.exit = .ok result ∧
        TellsTruth (fun _ => .ok) course result) ↔
      ∀ machineMessage, course = .threw (.machineException machineMessage) →
        machineMessage.body = some "Exception occurred while invoking mutation") ∧
    ∀ course : Course MachineOperationResult InvokeException,
      (∃ result, operateValued failure timeout course.exit = .ok result ∧
        TellsTruth id course result) ↔ course.WentWell id :=
  ⟨tellsTruth_operate_iff failure timeout, tellsTruth_operateValued_iff failure timeout⟩

/-- An action that succeeds, but whose predicate times out, leaves a failure without a reason. -/
theorem operationResults_tellTruth_fails :
    ¬ ∀ (failure : OperationFailure) (timeout : TimeSpan)
        (course : Course MachineOperationResult InvokeException),
      ∃ result, operateValued failure timeout course.exit = .ok result ∧
        TellsTruth id course result := by
  intro hall
  obtain ⟨result, hoperate, htruth⟩ := hall ⟨none, none, 0, default⟩ .zero (.timedOut .ok)
  cases hoperate
  have hbody := htruth.timedOut .ok rfl rfl
  cases hbody

end Connect3Dp
