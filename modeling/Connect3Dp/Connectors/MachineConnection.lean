import Connect3Dp.Scheduling.CronScheduler
import Connect3Dp.State.MachineState

/-!
# Commits

`MachineConnection.commitState` is how a connector changes the state of its machine: preprocess
the update, apply it, look for a print that has just ended, bring the scheduler up to date and
raise `OnChanges`. It runs in `EStateM` over the connection: an exception leaves the connection
as it was when it was raised. The result of a commit that returns is what `OnChanges` was raised
with, if it was raised.

`run_commitState_cases` is what a commit can do. Only the application writes the state, so what
a commit does to the state can be read off `AppendUpdate` alone (`run_commitState_ok`).
-/

namespace Connect3Dp

/-- A connection, with the scheduler and the schedule objects it shares with its callers. -/
structure MachineConnection (Cron : Type) where
  self : ConnectionRef
  state : MachineState
  heap : Heap Cron
  scheduler : CronScheduler Cron

/-- What a commit reads from outside: the local time, and the CRON library. -/
structure Environment (Cron : Type) where
  now : DateTime
  getNextOccurrence : Cron → Option DateTimeOffset

/-! ### Preprocessing -/

/-- The auto-resolve rule for one message. -/
def MachineMessageAutoResole.doResolve (autoResolve : MachineMessageAutoResole)
    (status : MachineStatus) : Bool :=
  if autoResolve.whenPrinting = some true ∧ (status = .printing ∨ status = .printed) then true
  else if autoResolve.whenStatus = some status then true
  else if autoResolve.whenConnected = some true ∧ status ≠ .disconnected then true
  else false

/-- The notifications that the auto-resolve rule removes. -/
def MachineState.resolved (s : MachineState) : List String :=
  (s.notifications.entries.filter fun e => e.2.message.autoResolve.doResolve s.status).map Prod.fst

def MachineStateUpdate.removeNotifications (u : MachineStateUpdate) (ids : List String) :
    MachineStateUpdate :=
  { u with notifications := ids.foldl DictionaryBuffer.remove u.notifications }

def MachineStateUpdate.removeScheduledPrints (ops : ScheduleOps) (u : MachineStateUpdate)
    (prints : List ScheduledPrintRef) : MachineStateUpdate :=
  { u with
    scheduledPrints := prints.foldl (SetBuffer.remove ops.scheduledPrints) u.scheduledPrints }

namespace MachineConnection

variable {Cron : Type}

def setState (c : MachineConnection Cron) (state : MachineState) : MachineConnection Cron :=
  { c with state }

def setScheduler (c : MachineConnection Cron) (scheduler : CronScheduler Cron) :
    MachineConnection Cron :=
  { c with scheduler }

/-- `Scheduler.End(schedule.SchedulerID.Value)`, if there is one. -/
def endSchedule (sch : CronScheduler Cron) : Option Guid → CronScheduler Cron
  | some id => sch.endTask id
  | none => sch

/-- The scheduled prints whose file is the file of a removed job. -/
def orphanedScheduledPrints (c : MachineConnection Cron) (removedJob : LocalPrintJob) :
    List ScheduledPrintRef :=
  c.state.scheduledPrints.elems.filter fun sp =>
    (c.heap.scheduledPrints sp).localJob.file = removedJob.file

/-- The orphaned prints of all the jobs an update removes, job by job. -/
def orphans (c : MachineConnection Cron) (u : MachineStateUpdate) : List ScheduledPrintRef :=
  (u.localJobs.removals (.values LocalPrintJob)).flatMap c.orphanedScheduledPrints

/-- The scheduler that `PreprocessState` leaves. -/
def preprocessScheduler (c : MachineConnection Cron) (u : MachineStateUpdate) :
    CronScheduler Cron :=
  (c.orphans u).foldl (fun sch sp => endSchedule sch (c.heap.scheduledPrints sp).schedulerID)
    c.scheduler

/-! ### The history -/

/-- `justEnded`. -/
def justEnded (changes : MachineStateChanges) (s : MachineState) : Bool :=
  changes.status.hasChanged && (s.status = .printed || s.status = .canceled) &&
    changes.status.previous = some .printing

/-- The history entry of a job that ended, if its times can be subtracted. -/
def historicPrintJob (now : DateTime) (status : MachineStatus) (job : PrintJob) :
    Except Fault HistoricPrintJob := do
  let elapsed ← job.totalTime.subtract job.remainingTime
  return {
    name := job.name
    isSuccess := decide (status = .printed)
    endedAt := now
    elapsed
    thumbnail := job.thumbnail
    file := job.file }

/-- The part "Append to Print History" of `CommitState`: the entry goes into the update, which
has been applied already. -/
def appendHistory (now : DateTime) (changes : MachineStateChanges) (s : MachineState)
    (u : MachineStateUpdate) : Except Fault MachineStateUpdate :=
  match s.currentJob with
  | some job =>
    if justEnded changes s then do
      let entry ← historicPrintJob now s.status job
      return { u with jobHistory := u.jobHistory.set (.values HistoricPrintJob) entry }
    else return u
  | none => return u

/-! ### Scheduling -/

/-- `!s.SchedulerID.HasValue || !Scheduler.IsTaskRunning(s.SchedulerID.Value)`. -/
def needsTask (sch : CronScheduler Cron) : Option Guid → Bool
  | none => true
  | some id => !sch.isTaskRunning id

/-- `schedule.SchedulerID = id`, for a heating schedule. -/
def setHeatingSchedulerID (c : MachineConnection Cron) (r : HeatingScheduleRef) (id : Guid) :
    MachineConnection Cron :=
  { c with heap := { c.heap with
    heatingSchedules := Function.update c.heap.heatingSchedules r
      { c.heap.heatingSchedules r with schedulerID := some id } } }

/-- `scheduledPrint.SchedulerID = id`. -/
def setPrintSchedulerID (c : MachineConnection Cron) (r : ScheduledPrintRef) (id : Guid) :
    MachineConnection Cron :=
  { c with heap := { c.heap with
    scheduledPrints := Function.update c.heap.scheduledPrints r
      { c.heap.scheduledPrints r with schedulerID := some id } } }

/-- The body of `DoScheduleMUHeating` for one schedule. -/
def scheduleHeating (env : Environment Cron) (mmid : NetString) (r : HeatingScheduleRef) :
    EStateM Fault (MachineConnection Cron) Unit := do
  let c ← get
  let schedule := c.heap.heatingSchedules r
  if needsTask c.scheduler schedule.schedulerID then
    let id ← onField MachineConnection.scheduler setScheduler
      (CronScheduler.scheduleAsync env.getNextOccurrence schedule.timing c.self
        (.beginMUHeating mmid r))
    modify (·.setHeatingSchedulerID r id)

/-- The body of `DoSchedulePrint` for one print. -/
def schedulePrint (env : Environment Cron) (r : ScheduledPrintRef) :
    EStateM Fault (MachineConnection Cron) Unit := do
  let c ← get
  let scheduledPrint := c.heap.scheduledPrints r
  if needsTask c.scheduler scheduledPrint.schedulerID then
    let id ← onField MachineConnection.scheduler setScheduler
      (CronScheduler.scheduleAsync env.getNextOccurrence scheduledPrint.timing c.self
        (.printLocal r))
    modify (·.setPrintSchedulerID r id)

def endHeating (r : HeatingScheduleRef) : EStateM Fault (MachineConnection Cron) Unit :=
  modify fun c => c.setScheduler (endSchedule c.scheduler (c.heap.heatingSchedules r).schedulerID)

def endPrint (r : ScheduledPrintRef) : EStateM Fault (MachineConnection Cron) Unit :=
  modify fun c => c.setScheduler (endSchedule c.scheduler (c.heap.scheduledPrints r).schedulerID)

/-! ### The commit -/

variable [DecidableEq Cron] [Hashable (HeatingSchedule Cron)] [Hashable (ScheduledPrint Cron)]

/-- The update that `PreprocessState` leaves. -/
def preprocessUpdate (c : MachineConnection Cron) (u : MachineStateUpdate) : MachineStateUpdate :=
  (u.removeNotifications c.state.resolved).removeScheduledPrints c.heap.ops (c.orphans u)

/-- `PreprocessState`. -/
def preprocessState (u : MachineStateUpdate) :
    EStateM Fault (MachineConnection Cron) MachineStateUpdate := do
  let c ← get
  set (c.setScheduler (c.preprocessScheduler u))
  return c.preprocessUpdate u

/-- The scheduling part for one unit of the update. Its `ID` is the key it is stored under. -/
def scheduleUnit (env : Environment Cron) (kv : String × MUnitUpdate) :
    EStateM Fault (MachineConnection Cron) Unit := do
  let ops := (← get).heap.ops.heatingSchedules
  forM (kv.2.heatingSchedule.additions ops) (scheduleHeating env (some kv.1))
  forM (kv.2.heatingSchedule.removals ops) endHeating

/-- The scheduling part for the scheduled prints of the update. -/
def schedulePrints (env : Environment Cron) (u : MachineStateUpdate) :
    EStateM Fault (MachineConnection Cron) Unit := do
  let ops := (← get).heap.ops.scheduledPrints
  forM (u.scheduledPrints.additions ops) (schedulePrint env)
  forM (u.scheduledPrints.removals ops) endPrint

/-- The part "Scheduling" of `CommitState`. -/
def updateSchedules (env : Environment Cron) (u : MachineStateUpdate) :
    EStateM Fault (MachineConnection Cron) Unit := do
  forM u.materialUnits.entries (scheduleUnit env)
  schedulePrints env u

/-- `CommitState`. -/
def commitState (env : Environment Cron) (u : MachineStateUpdate) :
    EStateM Fault (MachineConnection Cron) (Option MachineStateChanges) := do
  let u ← preprocessState u
  let changes ← onField MachineConnection.state setState (u.appendUpdate (← get).heap.ops)
  let u ← ofExcept (appendHistory env.now changes (← get).state u)
  updateSchedules env u
  return if changes.hasChanged then some changes else none

/-! ### What a commit does to the state -/

/-- The state of the machine is the same. -/
def SameState (c c' : MachineConnection Cron) : Prop := c'.state = c.state

instance : IsPreorder (MachineConnection Cron) SameState where
  refl _ := rfl
  trans _ _ _ h h' := Eq.trans h' h

omit [DecidableEq Cron] [Hashable (HeatingSchedule Cron)] [Hashable (ScheduledPrint Cron)] in
theorem sameState_scheduleHeating (env : Environment Cron) (mmid : NetString)
    (r : HeatingScheduleRef) : Changes SameState (scheduleHeating env mmid r) := by
  refine .get_bind fun c => ?_
  dsimp only
  split
  · exact .bind (.onField fun _ _ => rfl) fun _ => .modify fun _ => rfl
  · exact .pure _

omit [DecidableEq Cron] [Hashable (HeatingSchedule Cron)] [Hashable (ScheduledPrint Cron)] in
theorem sameState_schedulePrint (env : Environment Cron) (r : ScheduledPrintRef) :
    Changes SameState (schedulePrint env r) := by
  refine .get_bind fun c => ?_
  dsimp only
  split
  · exact .bind (.onField fun _ _ => rfl) fun _ => .modify fun _ => rfl
  · exact .pure _

omit [DecidableEq Cron] [Hashable (HeatingSchedule Cron)] [Hashable (ScheduledPrint Cron)] in
theorem sameState_endHeating (r : HeatingScheduleRef) :
    Changes (SameState : MachineConnection Cron → _ → Prop) (endHeating r) := by
  unfold endHeating
  exact .modify fun _ => rfl

omit [DecidableEq Cron] [Hashable (HeatingSchedule Cron)] [Hashable (ScheduledPrint Cron)] in
theorem sameState_endPrint (r : ScheduledPrintRef) :
    Changes (SameState : MachineConnection Cron → _ → Prop) (endPrint r) := by
  unfold endPrint
  exact .modify fun _ => rfl

theorem sameState_scheduleUnit (env : Environment Cron) (kv : String × MUnitUpdate) :
    Changes SameState (scheduleUnit env kv) :=
  .get_bind fun _ => .bind (.forM (sameState_scheduleHeating env _) _) fun _ =>
    .forM sameState_endHeating _

theorem sameState_schedulePrints (env : Environment Cron) (u : MachineStateUpdate) :
    Changes SameState (schedulePrints env u) :=
  .get_bind fun _ => .bind (.forM (sameState_schedulePrint env) _) fun _ =>
    .forM sameState_endPrint _

theorem sameState_updateSchedules (env : Environment Cron) (u : MachineStateUpdate) :
    Changes SameState (updateSchedules env u) :=
  .bind (.forM (sameState_scheduleUnit env) _) fun _ => sameState_schedulePrints env u

/-- The connection when the update has been applied. -/
def applied (c : MachineConnection Cron) (u : MachineStateUpdate) (state : MachineState) :
    MachineConnection Cron :=
  (c.setScheduler (c.preprocessScheduler u)).setState state

/-- **What a commit does**: it raises in the application, it raises in the history, it raises in
the scheduler, or it returns, with the report if there is something to report. -/
theorem run_commitState_cases (env : Environment Cron) (u : MachineStateUpdate)
    (c : MachineConnection Cron) :
    (∃ f s', ((c.preprocessUpdate u).appendUpdate c.heap.ops).run c.state = .error f s' ∧
      (commitState env u).run c = .error f (c.applied u s')) ∨
    (∃ changes s', ((c.preprocessUpdate u).appendUpdate c.heap.ops).run c.state = .ok changes s' ∧
      ((∃ f, appendHistory env.now changes s' (c.preprocessUpdate u) = .error f ∧
          (commitState env u).run c = .error f (c.applied u s')) ∨
        ∃ u', appendHistory env.now changes s' (c.preprocessUpdate u) = .ok u' ∧
          ((∃ f c', (updateSchedules env u').run (c.applied u s') = .error f c' ∧
              (commitState env u).run c = .error f c') ∨
            ∃ c', (updateSchedules env u').run (c.applied u s') = .ok () c' ∧
              (commitState env u).run c =
                .ok (if changes.hasChanged then some changes else none) c'))) := by
  have hpre : (preprocessState u).run c =
      .ok (c.preprocessUpdate u) (c.setScheduler (c.preprocessScheduler u)) := rfl
  have hget : ∀ c₁ : MachineConnection Cron,
      (get : EStateM Fault (MachineConnection Cron) _).run c₁ = .ok c₁ c₁ := fun _ => rfl
  rw [commitState, run_bind_ok hpre, run_bind_ok (hget _)]
  cases happly : ((c.preprocessUpdate u).appendUpdate c.heap.ops).run c.state with
  | error f s' => exact .inl ⟨f, s', rfl, run_bind_error (run_onField_error happly)⟩
  | ok changes s' =>
    have hfield : (onField MachineConnection.state setState ((c.preprocessUpdate u).appendUpdate
        (c.setScheduler (c.preprocessScheduler u)).heap.ops)).run
          (c.setScheduler (c.preprocessScheduler u)) = .ok changes (c.applied u s') :=
      run_onField_ok happly
    have hstate : (c.applied u s').state = s' := rfl
    refine .inr ⟨changes, s', rfl, ?_⟩
    rw [run_bind_ok hfield, run_bind_ok (hget _), hstate]
    cases hhist : appendHistory env.now changes s' (c.preprocessUpdate u) with
    | error f => exact .inl ⟨f, rfl, rfl⟩
    | ok u' =>
      have hlift : (ofExcept (Except.ok (ε := Fault) u') :
          EStateM Fault (MachineConnection Cron) MachineStateUpdate).run (c.applied u s') =
            .ok u' (c.applied u s') := rfl
      refine .inr ⟨u', rfl, ?_⟩
      rw [run_bind_ok hlift]
      cases hrun : (updateSchedules env u').run (c.applied u s') with
      | error f c' => exact .inl ⟨f, c', rfl, run_bind_error hrun⟩
      | ok x c' => exact .inr ⟨c', rfl, run_bind_ok hrun⟩

/-- A commit that raises in the application leaves its state; every other commit leaves the
applied state. -/
theorem run_commitState_state (env : Environment Cron) (u : MachineStateUpdate)
    (c : MachineConnection Cron) :
    (∃ f s', ((c.preprocessUpdate u).appendUpdate c.heap.ops).run c.state = .error f s' ∧
      (commitState env u).run c = .error f (c.applied u s')) ∨
    (∃ changes s', ((c.preprocessUpdate u).appendUpdate c.heap.ops).run c.state = .ok changes s' ∧
      ((∃ f c', (commitState env u).run c = .error f c' ∧ c'.state = s') ∨
        ∃ c', (commitState env u).run c =
          .ok (if changes.hasChanged then some changes else none) c' ∧ c'.state = s')) := by
  obtain h | ⟨changes, s', happly, ⟨f, -, hr⟩ | ⟨u', -, ⟨f, c', hrun, hr⟩ | ⟨c', hrun, hr⟩⟩⟩ :=
    run_commitState_cases env u c
  · exact .inl h
  · exact .inr ⟨changes, s', happly, .inl ⟨f, _, hr, rfl⟩⟩
  · have hsame := (sameState_updateSchedules env u' (c.applied u s')).2 f c' hrun
    exact .inr ⟨changes, s', happly, .inl ⟨f, c', hr, hsame⟩⟩
  · have hsame := (sameState_updateSchedules env u' (c.applied u s')).1 () c' hrun
    exact .inr ⟨changes, s', happly, .inr ⟨c', hr, hsame⟩⟩

/-- A commit that returns has applied the update, and raised the report if it reports
something. -/
theorem run_commitState_ok {env : Environment Cron} {u : MachineStateUpdate}
    {c c' : MachineConnection Cron} {raised : Option MachineStateChanges}
    (h : (commitState env u).run c = .ok raised c') :
    ∃ changes, ((c.preprocessUpdate u).appendUpdate c.heap.ops).run c.state =
        .ok changes c'.state ∧
      raised = if changes.hasChanged then some changes else none := by
  obtain ⟨f, s', -, hr⟩ | ⟨changes, s', happly, ⟨f, c₁, hr, -⟩ | ⟨c₁, hr, hs⟩⟩ :=
    run_commitState_state env u c
  all_goals rw [hr] at h; cases h
  exact ⟨changes, hs ▸ happly, rfl⟩

end MachineConnection

end Connect3Dp
