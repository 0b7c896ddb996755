import Connect3Dp.Connectors.AutoResolve
import Connect3Dp.Connectors.OperationResults

/-!
# Local prints

`PrintLocal` reads that the machine is idle, may wait for an upload, and then waits for the
operation lock, under which it starts the print. Clients call it, and the tasks of scheduled
prints. `PrintSystem` is one machine with any number of these calls, the other operations of the
lock and the commits, and `Step` what can happen next. `PrintLocal_Internal` is invoked where a call
gets the permit.

A commit that takes the machine out of `Idle` while a call is between its test and the permit makes
the test stale, and nothing tests again. So a run is safe as long as no commit does that
(`CanMisprint` names the states where one has), and any commit that does it lets the run continue
to an invocation while the machine is not idle (`printLocal_whileIdle`).
-/

namespace Connect3Dp

/-! ### The calls -/

def MachineStatus.name : MachineStatus → String
  | disconnected => "Disconnected"
  | connecting => "Connecting"
  | idle => "Idle"
  | printing => "Printing"
  | printed => "Printed"
  | paused => "Paused"
  | canceled => "Canceled"

/-- `MachineMessages.FailedToStartLocalPrint`, as the results of `PrintLocal` use it. -/
def failedToStartLocalPrint : OperationFailure where
  operationFailedId := some "machine.localprint.failed"
  operationFailedTitle := some "Unable to Start Local Print"
  manualResolve := 0
  autoResolve := default

def MachineMessages.fileNotOnMachine (uri : NetString) : MachineMessage where
  id := some "machine.file.not.found"
  title := some "File Not Found"
  body := some ("'" ++ uri.getD "" ++
    "' is not on the printer and is not available in the file store.")
  severity := .error
  manualResolve := 0
  autoResolve := default

namespace MachineState

def fileExistsOnMachine (s : MachineState) (handle : MachineFileHandle) : Bool :=
  s.localJobs.elems.any fun lj => lj.file.uri = handle.uri

/-- How `PrintLocal` goes on from its tests. -/
inductive PrintStart
  | refused (result : MachineOperationResult)
  /-- It reads the file from the store and uploads it. -/
  | uploads
  /-- It calls `MutateUntil`. -/
  | mutates

/-- `PrintLocal` up to what it awaits first. `contains` is what the file store says about the
file. -/
def printLocal (s : MachineState) (contains : Bool) (localPrint : LocalPrintJob) : PrintStart :=
  match s.opIfNotCapable .startLocalJob with
  | some uncapableResult => .refused uncapableResult
  | none =>
    if s.status ≠ .idle then
      .refused (failedToStartLocalPrint.fail (some
        ("Cannot start print: Machine is not " ++ MachineStatus.idle.name ++
          ". Current status: " ++ s.status.name)))
    else if s.fileExistsOnMachine localPrint.file then .mutates
    else if contains then .uploads
    else .refused (.fail (MachineMessages.fileNotOnMachine localPrint.file.uri))

/-- Why the task of a scheduled print does not call `PrintLocal`, if it does not. -/
def skipReason (s : MachineState) (localJob : LocalPrintJob) : Option String :=
  if ¬ s.localJobs.elems.any fun lj => lj.file = localJob.file then
    some "Local file no longer exists on the machine"
  else if s.status = .disconnected ∨ s.status ≠ .idle then
    some (if s.status = .disconnected then "Not Connected" else "Not Ready")
  else none

/-- A call goes past its tests only while the machine is idle. -/
theorem printLocal_refused {s : MachineState} (h : s.status ≠ .idle) (contains : Bool)
    (localPrint : LocalPrintJob) : ∃ r, s.printLocal contains localPrint = .refused r := by
  unfold printLocal
  cases s.opIfNotCapable .startLocalJob with
  | some uncapableResult => exact ⟨uncapableResult, rfl⟩
  | none => exact ⟨_, if_pos h⟩

end MachineState

/-- A print as its caller asks for it. -/
structure PrintRequest where
  localPrint : LocalPrintJob
  options : PrintOptions
  /-- The caller is the task of a scheduled print. -/
  scheduled : Bool

/-- Where a call of `PrintLocal` is. -/
inductive PrintCall
  | notCalled
  /-- It has passed its tests and awaits the file store and the upload. -/
  | uploading
  /-- In `MutateUntil`. -/
  | mutating
  | completed (result : Except InvokeException MachineOperationResult)

/-! ### The machine and its operations -/

/-- What the actions under the lock return: `PrintLocal` uses the overload without a value. -/
abbrev LockValue (κ : Type) {ω : Type} (T : ω → Type) : κ ⊕ ω → Type :=
  Sum.elim (fun _ => Unit) T

/-- One machine: the calls of `PrintLocal` are indexed by `κ`, the other operations by `ω`. -/
structure PrintSystem (Cron κ : Type) {ω : Type} (T : ω → Type) where
  machine : MachineConnection Cron
  mono : MonoMachine (κ ⊕ ω) (LockValue κ T) InvokeException
  prints : κ → PrintCall

/-- What can happen next: a commit by any party, a step of a call of `PrintLocal`, or a step of an
operation in `MutateUntil`. -/
inductive PrintEvent (Cron κ : Type) {ω : Type} (T : ω → Type)
  | commit (env : Environment Cron) (u : MachineStateUpdate)
  | call (i : κ) (contains : Bool)
  | uploaded (i : κ) (uploadResult : Except InvokeException MachineOperationResult)
  | mutate (j : κ ⊕ ω) (e : Event (LockValue κ T j) InvokeException)
  | returned (i : κ)

namespace PrintSystem

variable {Cron κ ω : Type} {T : ω → Type}

def status (σ : PrintSystem Cron κ T) : MachineStatus := σ.machine.state.status

/-- The call has passed its tests and does not have the permit. -/
def Pending (σ : PrintSystem Cron κ T) (i : κ) : Prop :=
  σ.prints i = .uploading ∨ σ.prints i = .mutating ∧ σ.mono.calls (.inl i) = .waiting

/-- No operation has left the lock with the permit. -/
def Unleaked (σ : PrintSystem Cron κ T) : Prop := ∀ j, ¬ (σ.mono.calls j).Leaked

/-- A call has passed its tests, the machine is not idle, and the lock still works. -/
def CanMisprint (σ : PrintSystem Cron κ T) : Prop :=
  (∃ i, σ.Pending i) ∧ σ.status ≠ .idle ∧ σ.Unleaked

/-- A new connection with any state. -/
structure Initial (σ : PrintSystem Cron κ T) : Prop where
  mono : σ.mono = MonoMachine.initial
  prints : ∀ i, σ.prints i = .notCalled

/-- `TimeSpan.FromSeconds(60)`, in ticks. -/
def printTimeout : TimeSpan := ⟨600000000⟩

variable [DecidableEq κ] [DecidableEq ω]

def setPrint (σ : PrintSystem Cron κ T) (i : κ) (call : PrintCall) : PrintSystem Cron κ T :=
  { σ with prints := Function.update σ.prints i call }

omit [DecidableEq ω] in
theorem prints_setPrint_self {σ : PrintSystem Cron κ T} {i : κ} {call : PrintCall} :
    (σ.setPrint i call).prints i = call := Function.update_self ..

omit [DecidableEq ω] in
theorem prints_setPrint_of_ne {σ : PrintSystem Cron κ T} {i k : κ} {call : PrintCall}
    (h : k ≠ i) : (σ.setPrint i call).prints k = σ.prints k := Function.update_of_ne h ..

variable [DecidableEq Cron] [Hashable (HeatingSchedule Cron)] [Hashable (ScheduledPrint Cron)]
  (request : κ → PrintRequest) (timeouts : ω → TimeSpan)

/-- The timeouts of all operations. -/
def timeout : κ ⊕ ω → TimeSpan := Sum.elim (fun _ => printTimeout) timeouts

/-- One step. The task of a scheduled print makes its own tests right before the call. -/
inductive Step (σ : PrintSystem Cron κ T) : PrintEvent Cron κ T → PrintSystem Cron κ T → Prop
  | commit {env : Environment Cron} {u : MachineStateUpdate} {c' : MachineConnection Cron} :
      MachineConnection.CommitStep env u σ.machine c' →
      Step σ (.commit env u) { σ with machine := c' }
  | refused {i : κ} {contains : Bool} {result : MachineOperationResult} :
      σ.prints i = .notCalled →
      ((request i).scheduled → σ.machine.state.skipReason (request i).localPrint = none) →
      σ.machine.state.printLocal contains (request i).localPrint = .refused result →
      Step σ (.call i contains) (σ.setPrint i (.completed (.ok result)))
  | uploads {i : κ} {contains : Bool} :
      σ.prints i = .notCalled →
      ((request i).scheduled → σ.machine.state.skipReason (request i).localPrint = none) →
      σ.machine.state.printLocal contains (request i).localPrint = .uploads →
      Step σ (.call i contains) (σ.setPrint i .uploading)
  | mutates {i : κ} {contains : Bool}
      {mono' : MonoMachine (κ ⊕ ω) (LockValue κ T) InvokeException} :
      σ.prints i = .notCalled →
      ((request i).scheduled → σ.machine.state.skipReason (request i).localPrint = none) →
      σ.machine.state.printLocal contains (request i).localPrint = .mutates →
      σ.mono.step (timeout timeouts) (.inl i) .call = some mono' →
      Step σ (.call i contains) { σ.setPrint i .mutating with mono := mono' }
  | uploadThrew {i : κ} {ex : InvokeException} :
      σ.prints i = .uploading →
      Step σ (.uploaded i (.error ex)) (σ.setPrint i (.completed (.error ex)))
  | uploadFailed {i : κ} {uploadResult : MachineOperationResult} :
      σ.prints i = .uploading → uploadResult.success = false →
      Step σ (.uploaded i (.ok uploadResult)) (σ.setPrint i (.completed (.ok uploadResult)))
  | uploaded {i : κ} {uploadResult : MachineOperationResult}
      {mono' : MonoMachine (κ ⊕ ω) (LockValue κ T) InvokeException} :
      σ.prints i = .uploading → uploadResult.success = true →
      σ.mono.step (timeout timeouts) (.inl i) .call = some mono' →
      Step σ (.uploaded i (.ok uploadResult)) { σ.setPrint i .mutating with mono := mono' }
  -- the predicate of a print reads the status
  | print {i : κ} {e : Event (LockValue κ T (.inl i)) InvokeException}
      {mono' : MonoMachine (κ ⊕ ω) (LockValue κ T) InvokeException} :
      e ≠ .call →
      (∀ observed elapsed, e = .predicate observed elapsed →
        observed = .ok (decide (σ.status = .printing))) →
      σ.mono.step (timeout timeouts) (.inl i) e = some mono' →
      Step σ (.mutate (.inl i) e) { σ with mono := mono' }
  | other {j : ω} {e : Event (T j) InvokeException}
      {mono' : MonoMachine (κ ⊕ ω) (LockValue κ T) InvokeException} :
      σ.mono.step (timeout timeouts) (.inr j) e = some mono' →
      Step σ (.mutate (.inr j) e) { σ with mono := mono' }
  | returned {i : κ} {exit : Exit Unit InvokeException} :
      σ.prints i = .mutating → σ.mono.calls (.inl i) = .completed exit →
      Step σ (.returned i)
        (σ.setPrint i (.completed (operate failedToStartLocalPrint printTimeout exit)))

/-- `PrintLocal_Internal` is invoked: the call `i` gets the permit. -/
def Invokes (i : κ) (σ σ' : PrintSystem Cron κ T) : Prop :=
  Step request timeouts σ (.mutate (.inl i) .acquired) σ'

/-- The states of all runs. -/
def Reached : PrintSystem Cron κ T → Prop :=
  Reachable Initial fun σ σ' => ∃ e, Step request timeouts σ e σ'

omit [DecidableEq κ] [DecidableEq ω] in
/-- The event commits an update that takes the machine out of `Idle` while a call of `PrintLocal`
is between its tests and the permit, and the lock still works. -/
def Strands (σ : PrintSystem Cron κ T) : PrintEvent Cron κ T → Prop
  | .commit _ u =>
      (σ.status = .idle ∧ ¬ u.RaisesInChanges σ.machine.state ∧
        u.newStatus σ.machine.state ≠ .idle) ∧ (∃ i, σ.Pending i) ∧ σ.Unleaked
  | _ => False

/-! ### What a step does -/

variable {request : κ → PrintRequest} {timeouts : ω → TimeSpan} {σ σ' : PrintSystem Cron κ T}
  {e : PrintEvent Cron κ T}

/-- The status changes only by a commit, which writes it if it does not raise. -/
theorem Step.status_eq (h : Step request timeouts σ e σ') :
    σ'.status = σ.status ∨ ∃ env u, e = .commit env u ∧
      ¬ u.RaisesInChanges σ.machine.state ∧ σ'.status = u.newStatus σ.machine.state := by
  cases h with
  | @commit env u c' hcommit =>
    by_cases hraises : u.RaisesInChanges σ.machine.state
    · obtain ⟨-, hstate⟩ | ⟨hno, -⟩ | ⟨hno, -⟩ | ⟨hno, -⟩ :=
        MachineConnection.commitStep_state_cases hcommit
      · exact .inl (congrArg MachineState.status hstate)
      all_goals exact absurd hraises hno
    · exact .inr ⟨env, u, rfl, hraises, MachineConnection.status_commitStep hcommit hraises⟩
  | _ => exact .inl rfl

/-- What a step does to the lock: nothing, or one event of one operation. -/
theorem Step.mono_cases (h : Step request timeouts σ e σ') :
    σ'.mono = σ.mono ∨ ∃ j e', σ.mono.step (timeout timeouts) j e' = some σ'.mono := by
  cases h with
  | mutates _ _ _ hmono => exact .inr ⟨_, _, hmono⟩
  | uploaded _ _ hmono => exact .inr ⟨_, _, hmono⟩
  | print _ _ hmono => exact .inr ⟨_, _, hmono⟩
  | other hmono => exact .inr ⟨_, _, hmono⟩
  | _ => exact .inl rfl

theorem Reached.mono (h : Reached request timeouts σ) :
    MonoMachine.Reached (timeout timeouts) σ.mono := by
  refine Reachable.induct
    (I := fun σ : PrintSystem Cron κ T => MonoMachine.Reached (timeout timeouts) σ.mono) ?_ ?_ h
  · intro σ hinit
    exact .refl hinit.mono
  · rintro σ σ' - hσ ⟨e, hstep⟩
    obtain heq | ⟨j, e', hmono⟩ := hstep.mono_cases
    · rw [heq]
      exact hσ
    · exact Reachable.tail hσ ⟨j, e', hmono⟩

/-- A permit that is lost stays lost. -/
theorem Step.unleaked (h : Step request timeouts σ e σ') (hσ' : σ'.Unleaked) : σ.Unleaked := by
  obtain heq | ⟨j, e', hmono⟩ := h.mono_cases
  · rwa [Unleaked, heq] at hσ'
  · intro k hk
    obtain ⟨p, hadv, hcalls⟩ := MonoMachine.step_cases hmono
    rcases eq_or_ne k j with rfl | hne
    · cases hc : σ.mono.calls k with
      | completed exit =>
        rw [hc, Phase.advance_completed] at hadv
        cases hadv
      | _ =>
        rw [hc] at hk
        exact hk
    · refine hσ' k ?_
      rwa [hcalls, Function.update_of_ne hne]

/-! ### Where the calls are -/

/-- The part of a call inside `MutateUntil` fits the part outside. -/
def Fits {V : Type} : PrintCall → Phase V InvokeException → Prop
  | .notCalled, p | .uploading, p => p = .notStarted
  | .mutating, p => p ≠ .notStarted
  | .completed _, p => p = .notStarted ∨ ∃ exit, p = .completed exit

/-- Every call fits. -/
def FitsAll (σ : PrintSystem Cron κ T) : Prop := ∀ i, Fits (σ.prints i) (σ.mono.calls (.inl i))

omit [DecidableEq κ] [DecidableEq ω] [DecidableEq Cron] [Hashable (HeatingSchedule Cron)]
  [Hashable (ScheduledPrint Cron)] in
theorem FitsAll.fits (hσ : σ.FitsAll) {i : κ} {call : PrintCall} (hcall : σ.prints i = call) :
    Fits call (σ.mono.calls (.inl i)) := by
  rw [← hcall]
  exact hσ i

omit [DecidableEq ω] [DecidableEq Cron] [Hashable (HeatingSchedule Cron)]
  [Hashable (ScheduledPrint Cron)] in
theorem fitsAll_setPrint (hσ : σ.FitsAll) {i : κ} {call : PrintCall}
    (hcall : Fits call (σ.mono.calls (.inl i))) : (σ.setPrint i call).FitsAll := by
  intro k
  rcases eq_or_ne k i with rfl | hne
  · rw [prints_setPrint_self]
    exact hcall
  · rw [prints_setPrint_of_ne hne]
    exact hσ k

omit [DecidableEq Cron] [Hashable (HeatingSchedule Cron)] [Hashable (ScheduledPrint Cron)] in
/-- A call enters `MutateUntil`. -/
theorem fitsAll_enter (hσ : σ.FitsAll) {i : κ}
    {mono' : MonoMachine (κ ⊕ ω) (LockValue κ T) InvokeException}
    (hmono : σ.mono.step (timeout timeouts) (.inl i) .call = some mono') :
    FitsAll { σ.setPrint i .mutating with mono := mono' } := by
  obtain ⟨p, hadv, hcalls⟩ := MonoMachine.step_cases hmono
  intro k
  rcases eq_or_ne k i with rfl | hne
  · simpa only [setPrint, Function.update_self, hcalls, Fits] using
      Phase.advance_ne_notStarted hadv
  · have hne' : (Sum.inl k : κ ⊕ ω) ≠ .inl i := fun h => hne (Sum.inl.inj h)
    simpa only [setPrint, Function.update_of_ne hne, hcalls, Function.update_of_ne hne'] using hσ k

theorem Step.fitsAll (h : Step request timeouts σ e σ') (hσ : σ.FitsAll) : σ'.FitsAll := by
  cases h with
  | commit _ => exact hσ
  | refused hcalled _ _ => exact fitsAll_setPrint hσ (.inl (hσ.fits hcalled))
  | @uploads i contains hcalled _ _ =>
    have hnotStarted : σ.mono.calls (.inl i) = .notStarted := hσ.fits hcalled
    exact fitsAll_setPrint hσ hnotStarted
  | mutates _ _ _ hmono => exact fitsAll_enter hσ hmono
  | uploadThrew hcall => exact fitsAll_setPrint hσ (.inl (hσ.fits hcall))
  | uploadFailed hcall _ => exact fitsAll_setPrint hσ (.inl (hσ.fits hcall))
  | uploaded _ _ hmono => exact fitsAll_enter hσ hmono
  | @print i e mono' hne _ hmono =>
    obtain ⟨p, hadv, hcalls⟩ := MonoMachine.step_cases hmono
    intro k
    rcases eq_or_ne k i with rfl | hk
    · -- only a call in `MutateUntil` can move
      have hk := hσ k
      cases hcall : σ.prints k with
      | mutating => simpa only [hcalls, Function.update_self, hcall, Fits] using
          Phase.advance_ne_notStarted hadv
      | completed result =>
        rw [hcall] at hk
        obtain hstart | ⟨exit, hexit⟩ := hk
        · rw [hstart, Phase.advance_notStarted hne] at hadv
          cases hadv
        · rw [hexit, Phase.advance_completed] at hadv
          cases hadv
      | _ =>
        rw [hcall] at hk
        rw [show σ.mono.calls (.inl k) = .notStarted from hk, Phase.advance_notStarted hne] at hadv
        cases hadv
    · have hk' : (Sum.inl k : κ ⊕ ω) ≠ .inl i := fun h => hk (Sum.inl.inj h)
      simpa only [hcalls, Function.update_of_ne hk'] using hσ k
  | @other j e mono' hmono =>
    obtain ⟨p, hadv, hcalls⟩ := MonoMachine.step_cases hmono
    intro k
    have hk : (Sum.inl k : κ ⊕ ω) ≠ .inr j := Sum.inl_ne_inr
    simpa only [hcalls, Function.update_of_ne hk] using hσ k
  | @returned i exit hcall hexit => exact fitsAll_setPrint hσ (.inr ⟨exit, hexit⟩)

theorem Reached.fitsAll (h : Reached request timeouts σ) : σ.FitsAll := by
  refine Reachable.induct (I := fun σ : PrintSystem Cron κ T => σ.FitsAll) ?_ ?_ h
  · intro σ hinit i
    rw [hinit.prints i, hinit.mono]
    rfl
  · rintro σ σ' - hσ ⟨e, hstep⟩
    exact hstep.fitsAll hσ

omit [DecidableEq κ] [DecidableEq ω] [DecidableEq Cron] [Hashable (HeatingSchedule Cron)]
  [Hashable (ScheduledPrint Cron)] in
/-- A call that waits for the permit is pending. -/
theorem FitsAll.pending (h : σ.FitsAll) {i : κ} (hi : σ.mono.calls (.inl i) = .waiting) :
    σ.Pending i := by
  have hfits := h i
  rw [hi] at hfits
  cases hcall : σ.prints i with
  | mutating => exact .inr ⟨hcall, hi⟩
  | uploading => exact .inl hcall
  | notCalled =>
    rw [hcall] at hfits
    cases hfits
  | completed result =>
    rw [hcall] at hfits
    obtain hfits | ⟨exit, hfits⟩ := hfits
    all_goals cases hfits

omit [DecidableEq κ] [DecidableEq ω] [DecidableEq Cron] [Hashable (HeatingSchedule Cron)]
  [Hashable (ScheduledPrint Cron)] in
/-- A call that is left alone is pending as before. -/
theorem pending_of_eq {k : κ} (hk : σ'.Pending k) (hprint : σ'.prints k = σ.prints k)
    (hmono : σ'.mono.calls (.inl k) = σ.mono.calls (.inl k)) : σ.Pending k := by
  rwa [Pending, hprint, hmono] at hk

omit [DecidableEq ω] [DecidableEq Cron] [Hashable (HeatingSchedule Cron)]
  [Hashable (ScheduledPrint Cron)] in
theorem pending_of_completed {i k : κ} {result : Except InvokeException MachineOperationResult}
    (hk : (σ.setPrint i (.completed result)).Pending k) : σ.Pending k := by
  rcases eq_or_ne k i with rfl | hne
  · rw [Pending, prints_setPrint_self] at hk
    obtain hk | ⟨hk, -⟩ := hk
    all_goals cases hk
  · exact pending_of_eq hk (prints_setPrint_of_ne hne) rfl

/-- **A call becomes pending** only while the machine is idle. -/
theorem Step.pending (h : Step request timeouts σ e σ') {k : κ} (hk : σ'.Pending k) :
    σ.Pending k ∨ σ.status = .idle ∧ σ'.status = .idle := by
  have hidle : ∀ {contains : Bool} {localPrint : LocalPrintJob} {start : MachineState.PrintStart},
      σ.machine.state.printLocal contains localPrint = start →
      (∀ r, start ≠ .refused r) → σ.status = .idle := by
    intro contains localPrint start hstart hpassed
    by_contra hstatus
    obtain ⟨r, hr⟩ := MachineState.printLocal_refused hstatus contains localPrint
    exact hpassed r (hstart.symm.trans hr)
  cases h with
  | commit _ => exact .inl hk
  | refused _ _ _ => exact .inl (pending_of_completed hk)
  | uploads _ _ hstart =>
    have hs := hidle hstart (fun r hr => by cases hr)
    exact .inr ⟨hs, hs⟩
  | mutates _ _ hstart _ =>
    have hs := hidle hstart (fun r hr => by cases hr)
    exact .inr ⟨hs, hs⟩
  | uploadThrew _ => exact .inl (pending_of_completed hk)
  | uploadFailed _ _ => exact .inl (pending_of_completed hk)
  | @uploaded i uploadResult mono' hcall _ hmono =>
    -- the call itself was pending already
    rcases eq_or_ne k i with rfl | hne
    · exact .inl (.inl hcall)
    · have hne' : (Sum.inl k : κ ⊕ ω) ≠ .inl i := fun h => hne (Sum.inl.inj h)
      exact .inl (pending_of_eq hk (prints_setPrint_of_ne hne)
        (MonoMachine.step_calls_of_ne hmono hne'))
  | @print i e mono' he _ hmono =>
    rcases eq_or_ne k i with rfl | hne
    · obtain hk | ⟨hcall, hwaiting⟩ := hk
      · exact .inl (.inl hk)
      · obtain ⟨p, hadv, hcalls⟩ := MonoMachine.step_cases hmono
        rw [show p = .waiting from by simpa only [hcalls, Function.update_self] using hwaiting]
          at hadv
        exact absurd (Phase.advance_waiting hadv) he
    · have hne' : (Sum.inl k : κ ⊕ ω) ≠ .inl i := fun h => hne (Sum.inl.inj h)
      exact .inl (pending_of_eq hk rfl (MonoMachine.step_calls_of_ne hmono hne'))
  | other hmono =>
    exact .inl (pending_of_eq hk rfl (MonoMachine.step_calls_of_ne hmono Sum.inl_ne_inr))
  | returned _ _ => exact .inl (pending_of_completed hk)

/-! ### Safe runs -/

/-- **The step lemma.** Only a commit that strands a call makes a stale test possible. -/
theorem Step.not_canMisprint (h : Step request timeouts σ e σ') (hσ : ¬ σ.CanMisprint)
    (he : ¬ Strands σ e) : ¬ σ'.CanMisprint := by
  rintro ⟨⟨k, hk⟩, hstatus, hunleaked⟩
  have hpending : σ.Pending k := by
    obtain hk | ⟨-, hidle⟩ := h.pending hk
    · exact hk
    · exact absurd hidle hstatus
  have hidle : σ.status = .idle := by
    by_contra hno
    exact hσ ⟨⟨k, hpending⟩, hno, h.unleaked hunleaked⟩
  obtain heq | ⟨env, u, rfl, hraises, heq⟩ := h.status_eq
  · exact hstatus (heq.trans hidle)
  · rw [heq] at hstatus
    exact he ⟨⟨hidle, hraises, hstatus⟩, ⟨k, hpending⟩, h.unleaked hunleaked⟩

theorem not_canMisprint_of_reachable
    (h : Reachable Initial (fun σ σ' => ∃ e, ¬ Strands σ e ∧ Step request timeouts σ e σ') σ) :
    ¬ σ.CanMisprint := by
  refine Reachable.induct (I := fun σ : PrintSystem Cron κ T => ¬ σ.CanMisprint) ?_ ?_ h
  · rintro σ hinit ⟨⟨k, hk⟩, -⟩
    obtain hk | ⟨hk, -⟩ := hk
    all_goals
      rw [hinit.prints k] at hk
      cases hk
  · rintro σ σ' - hσ ⟨e, he, hstep⟩
    exact hstep.not_canMisprint hσ he

/-- A call that gets the permit waited for it, and no permit is lost. -/
theorem Invokes.pending {i : κ} (h : Reached request timeouts σ)
    (hstep : Invokes request timeouts i σ σ') : σ.Pending i ∧ σ.Unleaked := by
  obtain ⟨p, hadv, -⟩ : ∃ p, (σ.mono.calls (.inl i)).advance (timeout timeouts (.inl i))
      σ.mono.currentCount .acquired = some (σ'.mono.currentCount, p) ∧
        σ'.mono.calls = Function.update σ.mono.calls (.inl i) p := by
    unfold Invokes at hstep
    cases hstep with
    | print _ _ hmono => exact MonoMachine.step_cases hmono
  obtain ⟨hwaiting, hcount⟩ := Phase.advance_acquired hadv
  refine ⟨h.fitsAll.pending hwaiting, fun j hj => ?_⟩
  obtain ⟨-, hfree⟩ | ⟨hzero, -⟩ := h.mono.ownedOnce
  · exact hfree j (.inr hj)
  · omega

/-! ### Stranded calls -/

/-- A step after which the machine is not idle. -/
def Continues (request : κ → PrintRequest) (timeouts : ω → TimeSpan)
    (σ σ' : PrintSystem Cron κ T) : Prop :=
  (∃ e, Step request timeouts σ e σ') ∧ σ'.status ≠ .idle

/-- The machine prints, a call waits for the permit, and `k` is where the operation in progress
is. -/
structure WaitsFor (σ : PrintSystem Cron κ T) (i : κ) (k : κ ⊕ ω)
    (phase : Phase (LockValue κ T k) InvokeException) : Prop where
  status : σ.status = .printing
  waiting : σ.mono.calls (.inl i) = .waiting
  count : σ.mono.currentCount = 0
  phase : σ.mono.calls k = phase

/-- While the machine prints, the operation in progress can go on. -/
theorem continues_mutate {k : κ ⊕ ω} {e : Event (LockValue κ T k) InvokeException} {n : ℕ}
    {p : Phase (LockValue κ T k) InvokeException} (hstatus : σ.status = .printing)
    (he : e ≠ .call)
    (hobserved : ∀ observed elapsed, e = .predicate observed elapsed → observed = .ok true)
    (hadv : (σ.mono.calls k).advance (timeout timeouts k) σ.mono.currentCount e = some (n, p)) :
    Continues request timeouts σ
      { σ with mono := ⟨n, Function.update σ.mono.calls k p⟩ } := by
  have hmono : σ.mono.step (timeout timeouts) k e =
      some ⟨n, Function.update σ.mono.calls k p⟩ := by rw [MonoMachine.step, hadv]; rfl
  refine ⟨?_, ?_⟩
  · cases k with
    | inl i =>
      refine ⟨_, .print he (fun observed elapsed h => ?_) hmono⟩
      rw [hobserved observed elapsed h, hstatus]
      rfl
    | inr j => exact ⟨_, .other hmono⟩
  · change σ.status ≠ .idle
    rw [hstatus]
    decide

omit [DecidableEq κ] [DecidableEq ω] [DecidableEq Cron] [Hashable (HeatingSchedule Cron)]
  [Hashable (ScheduledPrint Cron)] in
theorem WaitsFor.ne {i : κ} {k : κ ⊕ ω} {p : Phase (LockValue κ T k) InvokeException}
    (h : σ.WaitsFor i k p) (hp : p.InProgress) : Sum.inl i ≠ k := by
  rintro rfl
  rw [← h.phase, h.waiting] at hp
  exact hp

theorem WaitsFor.continues {i : κ} {k : κ ⊕ ω} {p p' : Phase (LockValue κ T k) InvokeException}
    {e : Event (LockValue κ T k) InvokeException} (h : σ.WaitsFor i k p) (hp : p.InProgress)
    (he : e ≠ .call)
    (hobserved : ∀ observed elapsed, e = .predicate observed elapsed → observed = .ok true)
    (hadv : p.advance (timeout timeouts k) 0 e = some (0, p')) :
    ∃ σ', Continues request timeouts σ σ' ∧ σ'.WaitsFor i k p' := by
  rw [← h.phase, ← h.count] at hadv
  refine ⟨_, continues_mutate h.status he hobserved hadv, h.status, ?_, h.count, ?_⟩
  · exact (Function.update_of_ne (h.ne hp) _ _).trans h.waiting
  · exact Function.update_self ..

/-- The predicate of the operation in progress holds, and the permit is free. -/
theorem WaitsFor.released {i : κ} {k : κ ⊕ ω} {r : LockValue κ T k}
    (h : σ.WaitsFor i k (.polling r)) :
    ∃ σ', Continues request timeouts σ σ' ∧ σ'.status = .printing ∧
      σ'.mono.calls (.inl i) = .waiting ∧ σ'.mono.currentCount = 1 := by
  have hadv : (σ.mono.calls k).advance (timeout timeouts k) σ.mono.currentCount
      (.predicate (.ok true) .zero) = some (1, .completed (.succeeded .zero r)) := by
    rw [h.phase, h.count]
    rfl
  refine ⟨_, continues_mutate h.status (by simp) ?_ hadv, h.status, ?_, rfl⟩
  · rintro observed elapsed ⟨⟩
    rfl
  · exact (Function.update_of_ne (h.ne trivial) _ _).trans h.waiting

variable [∀ j, Inhabited (T j)]

/-- Any value of the action of an operation. -/
def someValue : ∀ k : κ ⊕ ω, LockValue κ T k
  | .inl _ => ()
  | .inr j => (default : T j)

/-- While the machine prints, a waiting call can be left alone with the permit. -/
theorem WaitsFor.exists_free {i : κ} {k : κ ⊕ ω} {p : Phase (LockValue κ T k) InvokeException}
    (h : σ.WaitsFor i k p) (hp : p.InProgress) :
    ∃ σ', Relation.ReflTransGen (Continues request timeouts) σ σ' ∧ σ'.status = .printing ∧
      σ'.mono.calls (.inl i) = .waiting ∧ σ'.mono.currentCount = 1 := by
  have hpolling : ∃ r σ', Relation.ReflTransGen (Continues request timeouts) σ σ' ∧
      σ'.WaitsFor i k (.polling r) := by
    cases p with
    | invoking =>
      obtain ⟨σ', hstep, hσ'⟩ := h.continues (e := .invokeReturned (someValue k)) hp (by simp)
        (by simp) rfl
      exact ⟨_, σ', .single hstep, hσ'⟩
    | polling r => exact ⟨r, σ, .refl, h⟩
    | delaying r =>
      obtain ⟨σ', hstep, hσ'⟩ := h.continues (e := .delayElapsed) hp (by simp) (by simp) rfl
      exact ⟨_, σ', .single hstep, hσ'⟩
    | _ => exact absurd hp id
  obtain ⟨r, σ₁, hrun, hσ₁⟩ := hpolling
  obtain ⟨σ₂, hstep, hσ₂⟩ := hσ₁.released
  exact ⟨σ₂, hrun.tail hstep, hσ₂⟩

omit [∀ j, Inhabited (T j)] in
/-- A pending call reaches the lock: its upload succeeds. -/
theorem exists_waiting {i : κ} (h : Reached request timeouts σ) (hi : σ.Pending i)
    (hunleaked : σ.Unleaked) :
    ∃ σ', (σ' = σ ∨ ∃ e, Step request timeouts σ e σ') ∧ σ'.status = σ.status ∧
      σ'.mono.calls (.inl i) = .waiting ∧ σ'.Unleaked := by
  obtain hcall | ⟨-, hwaiting⟩ := hi
  · have hstart : σ.mono.calls (.inl i) = .notStarted := by
      have hfits := h.fitsAll i
      rwa [hcall] at hfits
    have hmono : σ.mono.step (timeout timeouts) (.inl i) .call =
        some ⟨σ.mono.currentCount, Function.update σ.mono.calls (.inl i) .waiting⟩ := by
      rw [MonoMachine.step, hstart]
      rfl
    have hstep : Step request timeouts σ (.uploaded i (.ok .ok))
        { σ.setPrint i .mutating with
          mono := ⟨σ.mono.currentCount, Function.update σ.mono.calls (.inl i) .waiting⟩ } :=
      .uploaded hcall rfl hmono
    refine ⟨_, .inr ⟨_, hstep⟩, rfl, Function.update_self .., fun j hj => ?_⟩
    change (Function.update σ.mono.calls (.inl i) .waiting j).Leaked at hj
    rcases eq_or_ne j (.inl i) with rfl | hne
    · rw [Function.update_self] at hj
      exact hj
    · rw [Function.update_of_ne hne] at hj
      exact hunleaked j hj
  · exact ⟨σ, .inl rfl, rfl, hwaiting, hunleaked⟩

omit [∀ j, Inhabited (T j)] in
/-- The machine can report at any time that it prints. -/
theorem exists_printing (request : κ → PrintRequest) (timeouts : ω → TimeSpan)
    (σ : PrintSystem Cron κ T) :
    ∃ σ', Continues request timeouts σ σ' ∧ σ'.status = .printing ∧ σ'.mono = σ.mono := by
  let env : Environment Cron := ⟨default, fun _ => none⟩
  let u : MachineStateUpdate := (default : MachineStateUpdate).setStatus .printing
  have hquiet : u.Quiet := ⟨rfl, rfl⟩
  have hcommit := MachineConnection.commitStep_afterCommit env u σ.machine
  have hstatus : (MachineConnection.afterCommit env u σ.machine).state.status = .printing :=
    MachineConnection.status_commitStep hcommit hquiet.not_raisesInChanges
  refine ⟨{ σ with machine := MachineConnection.afterCommit env u σ.machine },
    ⟨⟨_, .commit hcommit⟩, ?_⟩, hstatus, rfl⟩
  rw [status, hstatus]
  decide

/-- **A stale test leads to a print** that is started while the machine is not idle: the operation
in progress completes, and the pending call gets the permit. -/
theorem exists_invokes {i : κ} (h : Reached request timeouts σ) (hi : σ.Pending i)
    (hstatus : σ.status ≠ .idle) (hunleaked : σ.Unleaked) :
    ∃ σ₁ σ₂, Relation.ReflTransGen (Continues request timeouts) σ σ₁ ∧ σ₁.status ≠ .idle ∧
      Invokes request timeouts i σ₁ σ₂ := by
  obtain ⟨σ₁, hrun₁, hstatus₁, hwaiting₁, hunleaked₁⟩ := exists_waiting h hi hunleaked
  obtain ⟨σ₂, hrun₂, hstatus₂, hmono₂⟩ := exists_printing request timeouts σ₁
  have hrun : Relation.ReflTransGen (Continues request timeouts) σ σ₂ := by
    obtain rfl | ⟨e, hstep⟩ := hrun₁
    · exact .single hrun₂
    · exact .tail (.single ⟨⟨e, hstep⟩, hstatus₁ ▸ hstatus⟩) hrun₂
  have hreached : MonoMachine.Reached (timeout timeouts) σ₂.mono := by
    rw [hmono₂]
    obtain rfl | ⟨e, hstep⟩ := hrun₁
    · exact h.mono
    · exact Reached.mono (Reachable.tail h ⟨e, hstep⟩)
  have hwaiting₂ : σ₂.mono.calls (.inl i) = .waiting := by rw [hmono₂, hwaiting₁]
  -- the permit is free, or the operation in progress gives it back
  have hfree : ∃ σ₃, Relation.ReflTransGen (Continues request timeouts) σ₂ σ₃ ∧
      σ₃.status = .printing ∧ σ₃.mono.calls (.inl i) = .waiting ∧ σ₃.mono.currentCount = 1 := by
    obtain ⟨hcount, -⟩ | ⟨hcount, k, hk, -⟩ := hreached.ownedOnce
    · exact ⟨σ₂, .refl, hstatus₂, hwaiting₂, hcount⟩
    · have hk' : (σ₂.mono.calls k).InProgress := by
        refine hk.resolve_right ?_
        rw [hmono₂]
        exact hunleaked₁ k
      exact WaitsFor.exists_free ⟨hstatus₂, hwaiting₂, hcount, rfl⟩ hk'
  obtain ⟨σ₃, hrun₃, hstatus₃, hwaiting₃, hcount₃⟩ := hfree
  have hacquired : (σ₃.mono.step (timeout timeouts) (.inl i) .acquired).isSome = true :=
    MonoMachine.step_acquired_isSome hcount₃ hwaiting₃
  obtain ⟨mono', hmono⟩ := Option.isSome_iff_exists.mp hacquired
  refine ⟨σ₃, _, hrun.trans hrun₃, ?_, .print (by simp) (by simp) hmono⟩
  rw [hstatus₃]
  decide

/-- **`PrintLocal_Internal` is invoked while the machine is idle only** in the runs without a commit
that strands a call: no safe run invokes it otherwise, and after such a commit the run can go on to
an invocation while the machine is not idle. -/
theorem printLocal_whileIdle (request : κ → PrintRequest) (timeouts : ω → TimeSpan) :
    (∀ (i : κ) (σ σ' : PrintSystem Cron κ T),
      Reachable Initial (fun σ σ' => ∃ e, ¬ Strands σ e ∧ Step request timeouts σ e σ') σ →
        Invokes request timeouts i σ σ' → σ.status = .idle) ∧
    ∀ (e : PrintEvent Cron κ T) (σ σ' : PrintSystem Cron κ T), Reached request timeouts σ →
      Step request timeouts σ e σ' → Strands σ e →
        ∃ i σ₁ σ₂, Relation.ReflTransGen (Continues request timeouts) σ' σ₁ ∧
          σ₁.status ≠ .idle ∧ Invokes request timeouts i σ₁ σ₂ := by
  refine ⟨fun i σ σ' hrun hinvokes => ?_, fun e σ σ' hreached hstep hstrands => ?_⟩
  · have hreached : Reached request timeouts σ := hrun.mono fun _ _ ⟨e, _, hstep⟩ => ⟨e, hstep⟩
    obtain ⟨hpending, hunleaked⟩ := hinvokes.pending hreached
    by_contra hstatus
    exact not_canMisprint_of_reachable hrun ⟨⟨i, hpending⟩, hstatus, hunleaked⟩
  · cases hstep with
    | @commit env u c' hcommit =>
      obtain ⟨⟨hidle, hraises, hleaves⟩, ⟨i, hi⟩, hunleaked⟩ := hstrands
      have hstep : Step request timeouts σ (.commit env u) { σ with machine := c' } :=
        .commit hcommit
      have hstatus : c'.state.status ≠ .idle := by
        rw [MachineConnection.status_commitStep hcommit hraises]
        exact hleaves
      exact ⟨i, exists_invokes (Reachable.tail hreached ⟨_, hstep⟩) hi hstatus hunleaked⟩
    | _ => exact hstrands.elim

/-! ### Two calls -/

/-- A print that the machine stores. -/
private def cube : LocalPrintJob := { (default : LocalPrintJob) with name := some "cube" }

/-- A client's call and a scheduled one. -/
private def twoRequests (scheduled : Bool) : PrintRequest := ⟨cube, default, scheduled⟩

private def idleMachine : MachineConnection Unit where
  self := default
  state := { (default : MachineState) with
    capabilities := .startLocalJob
    status := .idle
    localJobs := (∅ : HashSet LocalPrintJob).add cube }
  heap := default
  scheduler := ⟨[], false, 0⟩

/-- The calls, beside one other operation: `Connect`. -/
private abbrev TwoCalls : Type := PrintSystem Unit Bool fun _ : Unit => MachineOperationResult

private def beforeCalls : TwoCalls where
  machine := idleMachine
  mono := .initial
  prints _ := .notCalled

/-- `SetStatus(Printing)`. -/
private def nowPrinting : MachineStateUpdate := (default : MachineStateUpdate).setStatus .printing

/-- Nothing is scheduled. -/
private def noTasks : Environment Unit := ⟨default, fun _ => none⟩

private abbrev TwoStep : TwoCalls → PrintEvent Unit Bool (fun _ : Unit => MachineOperationResult) →
    TwoCalls → Prop := Step twoRequests fun _ => .zero

private theorem initial_beforeCalls : Initial beforeCalls := ⟨rfl, fun _ => rfl⟩

/-- Both calls wait for the permit. -/
private def bothWaiting :
    MonoMachine (Bool ⊕ Unit) (LockValue Bool fun _ => MachineOperationResult) InvokeException where
  currentCount := 1
  calls
    | .inl _ => .waiting
    | .inr _ => .notStarted

/-- The state in which both calls have passed their tests, reached without stranding one. -/
private theorem twoCalls_waiting : ∃ σ : TwoCalls,
    Reachable Initial (fun σ σ' => ∃ e, ¬ Strands σ e ∧ TwoStep σ e σ') σ ∧
      σ.machine = idleMachine ∧ (∀ i, σ.prints i = .mutating) ∧ σ.mono = bothWaiting := by
  have h₀ : Reachable Initial (fun σ σ' => ∃ e, ¬ Strands σ e ∧ TwoStep σ e σ') beforeCalls :=
    .refl initial_beforeCalls
  have h₁ := Reachable.tail h₀ ⟨.call false true, id, .mutates rfl (by simp [twoRequests]) rfl rfl⟩
  have h₂ := Reachable.tail h₁ ⟨.call true true, id, .mutates rfl (fun _ => rfl) rfl rfl⟩
  refine ⟨_, h₂, rfl, fun i => ?_, congrArg (MonoMachine.mk 1) (funext fun j => ?_)⟩
  · cases i
    all_goals rfl
  · rcases j with (_ | _) | _
    all_goals rfl

/-- A client's call starts its print while the machine is idle. The commit that reports the print
strands the scheduled call behind it, and the run can go on to the second start. -/
theorem printLocal_whileIdle_twoRequests :
    ∃ σ σ₁ σ₂ : TwoCalls, Invokes twoRequests (fun _ => .zero) false σ σ₁ ∧ σ.status = .idle ∧
      TwoStep σ₁ (.commit noTasks nowPrinting) σ₂ ∧
      ∃ i σ₃ σ₄, Relation.ReflTransGen (Continues twoRequests fun _ => .zero) σ₂ σ₃ ∧
        σ₃.status ≠ .idle ∧ Invokes twoRequests (fun _ => .zero) i σ₃ σ₄ := by
  obtain ⟨⟨machine, mono, prints⟩, hrun, hmachine, hprints, hmono⟩ := twoCalls_waiting
  cases hmachine
  cases hmono
  have hinvokes : Invokes twoRequests (fun _ => .zero) false
      (⟨idleMachine, bothWaiting, prints⟩ : TwoCalls) _ := .print (by simp) (by simp) rfl
  have hcommit := MachineConnection.commitStep_afterCommit noTasks nowPrinting idleMachine
  have hleaves : nowPrinting.newStatus idleMachine.state ≠ .idle := by decide
  refine ⟨_, _, _, hinvokes, (printLocal_whileIdle twoRequests _).1 _ _ _ hrun hinvokes,
    .commit hcommit, (printLocal_whileIdle twoRequests _).2 _ _ _ ?_ (.commit hcommit) ?_⟩
  · exact (hrun.mono fun _ _ ⟨e, _, hstep⟩ => ⟨e, hstep⟩).tail ⟨_, hinvokes⟩
  · refine ⟨⟨rfl, ?_, hleaves⟩, ⟨true, .inr ⟨hprints true, rfl⟩⟩, fun j => ?_⟩
    · exact MachineStateUpdate.Quiet.not_raisesInChanges ⟨rfl, rfl⟩
    · rcases j with (_ | _) | _
      all_goals exact id

/-- Two calls see an idle machine; the second starts its print while the first one's is printing. -/
theorem printLocal_whileIdle_fails :
    ¬ ∀ (i : Bool) (σ σ' : TwoCalls), Reached twoRequests (fun _ => .zero) σ →
      Invokes twoRequests (fun _ => .zero) i σ σ' → σ.status = .idle := by
  intro hall
  obtain ⟨⟨machine, mono, prints⟩, hrun, hmachine, hprints, hmono⟩ := twoCalls_waiting
  cases hmachine
  cases hmono
  have h₀ : Reached twoRequests (fun _ => .zero)
      (⟨idleMachine, bothWaiting, prints⟩ : TwoCalls) :=
    hrun.mono fun _ _ ⟨e, _, hstep⟩ => ⟨e, hstep⟩
  have h₁ := Reachable.tail h₀ ⟨.mutate (.inl false) .acquired, .print (by simp) (by simp) rfl⟩
  have h₂ := Reachable.tail h₁ ⟨_, .commit
    (MachineConnection.commitStep_afterCommit noTasks nowPrinting idleMachine)⟩
  have h₃ := Reachable.tail h₂ ⟨.mutate (.inl false) (.invokeReturned ()),
    .print (by simp) (by simp) rfl⟩
  have h₄ := Reachable.tail h₃ ⟨.mutate (.inl false) (.predicate (.ok true) .zero),
    .print (by simp) (by rintro _ _ ⟨⟩; rfl) rfl⟩
  have hstatus := hall true _ _ h₄ (.print (by simp) (by simp) rfl)
  cases hstatus

end PrintSystem

end Connect3Dp
