import Connect3Dp.Connectors.Creality
import Connect3Dp.Connectors.Elegoo
import Connect3Dp.Connectors.Outcome
import Connect3Dp.Runtime.Transition

/-!
# Clearing the current job

The ELEGOO and the Creality connector clear the current job with `UnsetCurrentJob` when the
printer becomes idle, when its socket drops, on `Disconnect` and on `MarkAsIdle`. `UnsetCurrentJob`
empties the **buffer** of the job, which means that the update leaves the job as it is. So a job
is never cleared: once some commit has announced one, there is one for the rest of the run
(`isSome_currentJob_iff`), and a clearing commit leaves none just when none was ever announced
(`jobCleared_iff`).

A session is a connection with the connector's own fields. Commits by other operations, such as
connecting, may happen at any time.
-/

namespace Connect3Dp

/-- The update of `OnWebSocketDisconnected` and of `Disconnect`, in both connectors. -/
def disconnectedUpdate : MachineStateUpdate :=
  (((default : MachineStateUpdate).setStatus .disconnected).setCapabilities
    MachineCapabilities.none).unsetCurrentJob

/-- The update of `ClearBed_Internal`, in both connectors. -/
def clearBedUpdate : MachineStateUpdate :=
  ((default : MachineStateUpdate).setStatus .idle).unsetCurrentJob

/-- What one connector does differently from the other. -/
structure Connector (Fields : Type) where
  onWebSocketMessage : Host → MachineState → JsonElement →
    EStateM Fault Fields (Option MachineStateUpdate)
  disconnectSocket : Fields → Fields
  poll : Host → Fields → Fields
  IdleTelemetry : Host → JsonElement → Prop

/-- The ELEGOO connector. Its poll timer only sends a request. -/
def elegoo : Connector Elegoo.Fields where
  onWebSocketMessage := Elegoo.onWebSocketMessage
  disconnectSocket := Elegoo.Fields.disconnectSocket
  poll _ fields := fields
  IdleTelemetry _ := Elegoo.IdleTelemetry

/-- The Creality connector. -/
def creality : Connector Creality.Fields where
  onWebSocketMessage := Creality.onWebSocketMessage
  disconnectSocket := Creality.Fields.disconnectSocket
  poll := Creality.Fields.sendGetFilesAndHistory
  IdleTelemetry := Creality.IdleTelemetry

/-- Idle telemetry sets the status to `Idle` and names no job. -/
def Connector.Lawful {Fields : Type} (K : Connector Fields) : Prop :=
  ∀ host s root, K.IdleTelemetry host root →
    YieldsM (K.onWebSocketMessage host s root) fun o => ∀ u, o = some u → u.Clears .idle

theorem elegoo_lawful : elegoo.Lawful := fun _ _ _ h => Elegoo.onWebSocketMessage_idle h

theorem creality_lawful : creality.Lawful := fun _ _ _ h => Creality.onWebSocketMessage_idle h

/-! ### Commits that clear -/

namespace MachineStateUpdate

/-- The update announces a job: it creates one, and its application gets there. -/
structure Announces (u : MachineStateUpdate) (s : MachineState) : Prop where
  changes : ¬ u.RaisesInChanges s
  job : ¬ u.RaisesInJob
  created : u.createdJob.isSome = true

variable {u : MachineStateUpdate} {s : MachineState} {status : MachineStatus}

theorem Clears.createdJob (h : u.Clears status) : u.createdJob = none := by
  cases hv : u.currentJob.value with
  | none => rw [MachineStateUpdate.createdJob, NestedBuffer.created, hv]; rfl
  | some ju =>
    rw [MachineStateUpdate.createdJob, NestedBuffer.created, hv, Option.bind_some,
      PrintJobUpdate.created, PrintJobUpdate.isCreatable, h.unnamed ju hv]
    rfl

theorem Clears.not_announces (h : u.Clears status) : ¬ u.Announces s := fun ha => by
  have hcreated := ha.created
  rw [h.createdJob] at hcreated
  cases hcreated

theorem disconnectedUpdate_clears : disconnectedUpdate.Clears .disconnected where
  quiet := ⟨rfl, rfl⟩
  isSet := rfl
  value := rfl
  kept h := by cases h
  unnamed _ h := by cases h

theorem clearBedUpdate_clears : clearBedUpdate.Clears .idle :=
  clears_unsetCurrentJob quiet_default .idle

end MachineStateUpdate

namespace MachineConnection

variable {Cron : Type} [DecidableEq Cron] [Hashable (HeatingSchedule Cron)]
  [Hashable (ScheduledPrint Cron)] {env : Environment Cron} {u : MachineStateUpdate}
  {c c' : MachineConnection Cron}

/-- **One commit**: there is a job afterwards just when there was one or one was announced. -/
theorem isSome_currentJob_commitStep (h : CommitStep env u c c') :
    c'.state.currentJob.isSome = true ↔
      c.state.currentJob.isSome = true ∨ u.Announces c.state := by
  have hcreated : ∀ {s' : MachineState}, ¬ u.RaisesInChanges c.state → ¬ u.RaisesInJob →
      s'.currentJob = u.createdJob.or c.state.currentJob →
      (s'.currentJob.isSome = true ↔
        c.state.currentJob.isSome = true ∨ u.Announces c.state) := by
    intro s' hch hj hs'
    have hann : u.Announces c.state ↔ u.createdJob.isSome = true :=
      ⟨fun h => h.created, fun h => ⟨hch, hj, h⟩⟩
    rw [hs', hann, Option.isSome_or, Bool.or_eq_true, or_comm]
  obtain ⟨hch, hstate⟩ | ⟨-, hj, hstate⟩ | ⟨hch, hj, -, c₁, units, hsame, hstate⟩ |
    ⟨hch, hj, -, c₁, hsame, hstate⟩ := commitStep_state_cases h
  · rw [hstate]
    exact (or_iff_left fun h => h.changes hch).symm
  · rw [hstate]
    exact (or_iff_left fun h => h.job hj).symm
  · refine hcreated hch hj ?_
    rw [hstate, show c.state = c₁.state from hsame.symm]
    rfl
  · refine hcreated hch hj ?_
    rw [hstate, show c.state = c₁.state from hsame.symm]
    rfl

/-- A clearing commit leaves its status. -/
theorem status_commitStep_of_clears {status : MachineStatus} (hu : u.Clears status)
    (h : CommitStep env u c c') : c'.state.status = status := by
  rw [status_commitStep h hu.quiet.not_raisesInChanges, ScalarBuffer.apply_of_isSet hu.isSet]
  exact hu.value

end MachineConnection

/-! ### Sessions -/

/-- What can happen to a connector. A message that is blank, `pong` or not JSON has no document. -/
inductive SessionEvent
  | message (document : Option JsonElement)
  | poll
  | socketDropped
  | disconnect
  | markAsIdle
  /-- A call of `MarkAsIdle` that has passed its tests gets the permit. -/
  | clearBed
  /-- A commit by another operation. -/
  | other (update : MachineStateUpdate)

/-- A connection with its connector's fields and the calls of `MarkAsIdle` that wait. `announced`
remembers whether some commit has announced a job. -/
structure Session (Fields Cron : Type) where
  connection : MachineConnection Cron
  fields : Fields
  waiting : ℕ
  announced : Prop

namespace Session

variable {Fields Cron : Type}

/-- The fields, the waiting calls and the update that an event leads to. -/
def react (K : Connector Fields) (host : Host) (σ : Session Fields Cron) :
    SessionEvent → Fields × ℕ × Option MachineStateUpdate
  | .message none => (σ.fields, σ.waiting, none)
  | .message (some root) =>
    match (K.onWebSocketMessage host σ.connection.state root).run σ.fields with
    | .ok u fields => (fields, σ.waiting, u)
    | .error _ fields => (fields, σ.waiting, none)
  | .poll => (K.poll host σ.fields, σ.waiting, none)
  | .socketDropped => (σ.fields, σ.waiting, some disconnectedUpdate)
  | .disconnect => (K.disconnectSocket σ.fields, σ.waiting, some disconnectedUpdate)
  | .markAsIdle =>
    let status := σ.connection.state.status
    (σ.fields, if status = .printed ∨ status = .canceled then σ.waiting + 1 else σ.waiting, none)
  | .clearBed =>
    match σ.waiting with
    | n + 1 => (σ.fields, n, some clearBedUpdate)
    | 0 => (σ.fields, 0, none)
  | .other u => (σ.fields, σ.waiting, some u)

/-- The event takes one of the paths that call `UnsetCurrentJob`. -/
def Clearing (K : Connector Fields) (host : Host) : SessionEvent → Prop
  | .message (some root) => K.IdleTelemetry host root
  | .socketDropped | .disconnect | .clearBed => True
  | _ => False

variable [DecidableEq Cron] [Hashable (HeatingSchedule Cron)] [Hashable (ScheduledPrint Cron)]

/-- The update, if there is one, is committed. -/
def Commits : Option MachineStateUpdate → MachineConnection Cron → MachineConnection Cron → Prop
  | some u, c, c' => ∃ env, MachineConnection.CommitStep env u c c'
  | none, c, c' => MachineConnection.SameState c c'

/-- One event, and the update that it commits. Another operation may change the fields too. -/
structure Step (K : Connector Fields) (host : Host) (σ : Session Fields Cron) (e : SessionEvent)
    (committed : Option MachineStateUpdate) (σ' : Session Fields Cron) : Prop where
  fields : (∃ u, e = .other u) ∨ σ'.fields = (σ.react K host e).1
  waiting : σ'.waiting = (σ.react K host e).2.1
  update : committed = (σ.react K host e).2.2
  connection : Commits committed σ.connection σ'.connection
  announced : σ'.announced ↔ σ.announced ∨ ∃ u ∈ committed, u.Announces σ.connection.state

/-- A session begins with the state of a new machine's connection, which has no job. -/
def Init (σ : Session Fields Cron) : Prop :=
  σ.connection.state.currentJob = none ∧ ¬ σ.announced

/-- The sessions that a run reaches. -/
def Reached (K : Connector Fields) : Session Fields Cron → Prop :=
  Reachable Init fun σ σ' => ∃ host e committed, Step K host σ e committed σ'

variable {K : Connector Fields} {host : Host} {σ σ' : Session Fields Cron} {e : SessionEvent}
  {committed : Option MachineStateUpdate} {u : MachineStateUpdate}

/-- **There is a job just when one was announced**, in every session that a run reaches. -/
theorem isSome_currentJob_iff (h : Reached K σ) :
    σ.connection.state.currentJob.isSome = true ↔ σ.announced := by
  refine Reachable.induct (I := fun σ : Session Fields Cron =>
    σ.connection.state.currentJob.isSome = true ↔ σ.announced) ?_ ?_ h
  · rintro σ ⟨hnone, hnot⟩
    rw [hnone]
    exact iff_of_false (by simp) hnot
  · rintro σ σ' - ih ⟨host, e, committed, hstep⟩
    rw [hstep.announced, ← ih]
    have hconnection := hstep.connection
    cases committed with
    | none =>
      rw [show σ'.connection.state = σ.connection.state from hconnection]
      simp
    | some u =>
      obtain ⟨env, hcommit⟩ := hconnection
      rw [MachineConnection.isSome_currentJob_commitStep hcommit]
      simp

omit [DecidableEq Cron] [Hashable (HeatingSchedule Cron)] [Hashable (ScheduledPrint Cron)] in
/-- Every path that calls `UnsetCurrentJob` commits an update that sets the status and creates no
job. -/
theorem clears_of_clearing (hK : K.Lawful) (hclearing : Clearing K host e)
    (hu : (σ.react K host e).2.2 = some u) : u.Clears .idle ∨ u.Clears .disconnected := by
  cases e with
  | message document =>
    cases document with
    | none => cases hclearing
    | some root =>
      rw [react] at hu
      cases hrun : (K.onWebSocketMessage host σ.connection.state root).run σ.fields with
      | error f fields => rw [hrun] at hu; cases hu
      | ok o fields =>
        rw [hrun] at hu
        exact .inl (hK host _ root hclearing _ _ _ hrun u hu)
  | socketDropped =>
    cases hu
    exact .inr MachineStateUpdate.disconnectedUpdate_clears
  | disconnect =>
    cases hu
    exact .inr MachineStateUpdate.disconnectedUpdate_clears
  | clearBed =>
    rw [react] at hu
    split at hu
    · cases hu
      exact .inl MachineStateUpdate.clearBedUpdate_clears
    · cases hu
  | poll => cases hclearing
  | markAsIdle => cases hclearing
  | other u => cases hclearing

/-- A clearing commit leaves the status it is meant to, and no job just when none was ever
announced. -/
theorem currentJob_eq_none_iff (hK : K.Lawful) (hσ : Reached K σ)
    (hstep : Step K host σ e (some u) σ') (hclearing : Clearing K host e) :
    (σ'.connection.state.status = .idle ∨ σ'.connection.state.status = .disconnected) ∧
      (σ'.connection.state.currentJob = none ↔ ¬ σ.announced) := by
  have hu := clears_of_clearing hK hclearing hstep.update.symm
  obtain ⟨env, hcommit⟩ := hstep.connection
  constructor
  · exact hu.imp (MachineConnection.status_commitStep_of_clears · hcommit)
      (MachineConnection.status_commitStep_of_clears · hcommit)
  · have hnot : ¬ u.Announces σ.connection.state :=
      hu.elim (fun h => h.not_announces) fun h => h.not_announces
    rw [← isSome_currentJob_iff hσ, ← Option.not_isSome_iff_eq_none,
      MachineConnection.isSome_currentJob_commitStep hcommit, or_iff_left hnot]

/-- **When a clearing commit clears the job**, in the runs of both connectors. -/
theorem jobCleared_iff :
    (∀ (host : Host) (σ σ' : Session Elegoo.Fields Cron) (e : SessionEvent)
        (u : MachineStateUpdate), Reached elegoo σ → Step elegoo host σ e (some u) σ' →
      Clearing elegoo host e →
        (σ'.connection.state.status = .idle ∨ σ'.connection.state.status = .disconnected) ∧
          (σ'.connection.state.currentJob = none ↔ ¬ σ.announced)) ∧
    ∀ (host : Host) (σ σ' : Session Creality.Fields Cron) (e : SessionEvent)
        (u : MachineStateUpdate), Reached creality σ → Step creality host σ e (some u) σ' →
      Clearing creality host e →
        (σ'.connection.state.status = .idle ∨ σ'.connection.state.status = .disconnected) ∧
          (σ'.connection.state.currentJob = none ↔ ¬ σ.announced) :=
  ⟨fun _ _ _ _ _ hσ hstep hclearing =>
      currentJob_eq_none_iff elegoo_lawful hσ hstep hclearing,
    fun _ _ _ _ _ hσ hstep hclearing =>
      currentJob_eq_none_iff creality_lawful hσ hstep hclearing⟩

/-- The session after an event, with a commit as it runs in the environment. -/
def after (K : Connector Fields) (host : Host) (env : Environment Cron) (e : SessionEvent)
    (σ : Session Fields Cron) : Session Fields Cron where
  connection := match (σ.react K host e).2.2 with
    | some u => MachineConnection.afterCommit env u σ.connection
    | none => σ.connection
  fields := (σ.react K host e).1
  waiting := (σ.react K host e).2.1
  announced := σ.announced ∨ ∃ u ∈ (σ.react K host e).2.2, u.Announces σ.connection.state

theorem step_after (host : Host) (env : Environment Cron) (e : SessionEvent) :
    Step K host σ e (σ.react K host e).2.2 (σ.after K host env e) where
  fields := .inr rfl
  waiting := rfl
  update := rfl
  connection := by
    rw [after]
    generalize (σ.react K host e).2.2 = committed
    cases committed with
    | none => rfl
    | some u => exact ⟨env, MachineConnection.commitStep_afterCommit env u _⟩
  announced := Iff.rfl

/-- A session with a new machine. -/
private def newSession : Session Elegoo.Fields Unit where
  connection := ⟨default, default, default, ⟨[], false, 0⟩⟩
  fields := default
  waiting := 0
  announced := False

private def someHost : Host :=
  ⟨default, default, fun _ => default, fun _ => none, fun _ => none, fun _ => none,
    fun _ => none, id, fun _ => ""⟩

/-- The status message of a printer that prints. -/
private def printingMessage : JsonElement :=
  .object [("Status", .object [("PrintInfo", .object
    [("Status", .number ⟨some 13, some 13, .finite 13⟩)])])]

private def duringPrint : Session Elegoo.Fields Unit :=
  newSession.after elegoo someHost ⟨default, fun _ => none⟩ (.message (some printingMessage))

private theorem newSession_reached : Reached elegoo newSession := .refl ⟨rfl, id⟩

private theorem duringPrint_reached : Reached elegoo duringPrint :=
  newSession_reached.tail ⟨_, _, _, step_after _ _ _⟩

/-- A socket that drops before any print. -/
theorem jobCleared_iff_newSession :
    (newSession.after elegoo someHost ⟨default, fun _ => none⟩
      .socketDropped).connection.state.currentJob = none :=
  (jobCleared_iff.1 someHost newSession _ .socketDropped disconnectedUpdate
    newSession_reached (step_after _ _ _) trivial).2.mpr id

/-- A print is still shown when the socket has dropped. -/
theorem jobCleared_fails :
    ¬ ∀ (host : Host) (σ σ' : Session Elegoo.Fields Unit) (e : SessionEvent)
        (u : MachineStateUpdate), Reached elegoo σ → Step elegoo host σ e (some u) σ' →
      Clearing elegoo host e →
        σ'.connection.state.status = .idle ∨ σ'.connection.state.status = .disconnected →
          σ'.connection.state.currentJob = none := by
  intro hall
  have hnone := hall someHost duringPrint _ .socketDropped disconnectedUpdate duringPrint_reached
    (step_after someHost ⟨default, fun _ => none⟩ .socketDropped) trivial (.inr rfl)
  have hsome : (duringPrint.after elegoo someHost ⟨default, fun _ => none⟩
      .socketDropped).connection.state.currentJob.isSome = true := by decide +kernel
  rw [hnone] at hsome
  cases hsome

end Session

end Connect3Dp
