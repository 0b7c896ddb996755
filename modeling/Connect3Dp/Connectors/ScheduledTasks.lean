import Connect3Dp.Connectors.Scheduling
import Connect3Dp.State.Setters

/-!
# The operations on schedules

What callers of a connection, and its own scheduled tasks, do with heating schedules and
scheduled prints. Each operation checks the state and then makes one commit; no other commit of
the source carries schedules (`MachineStateUpdate.CarriesNoSchedules`).

A cancellation of all the schedules of a unit ends their tasks by itself before it commits.
-/

namespace Connect3Dp

/-! ### Results -/

/-- `MachineOperationResult`. -/
structure MachineOperationResult where
  success : Bool
  reasoning : Option MachineMessage
  deriving DecidableEq

namespace MachineOperationResult

def ok : MachineOperationResult := ⟨true, none⟩

def fail (reasoning : MachineMessage) : MachineOperationResult :=
  ⟨false, some { reasoning with severity := .error }⟩

end MachineOperationResult

/-- `Enum.GetName`. -/
def MachineCapabilities.getName (feature : MachineCapabilities) : NetString :=
  [((1 : MachineCapabilities) <<< 0, "None"), (1 <<< 1, "StartLocalJob"), (1 <<< 2, "Control"),
    (1 <<< 12, "Camera"), (1 <<< 4, "Lighting"), (1 <<< 14, "PrintHistory"),
    (1 <<< 17, "LocalJobs"), (1 <<< 19, "Temps"), (1 <<< 11, "Fans"), (1 <<< 13, "Nozzles"),
    (1 <<< 5, "AirDuct"), (1 <<< 7, "Print_Options_BedLevel"),
    (1 <<< 8, "Print_Options_FlowCalibration"), (1 <<< 9, "Print_Options_VibrationCalibration"),
    (1 <<< 10, "Print_Options_InspectFirstLayer"), (1 <<< 20, "PrintSpeedControl")].lookup feature

namespace MUCapabilities

/-- `Enum.GetName`. -/
def getName (feature : MUCapabilities) : NetString :=
  [((0 : MUCapabilities), "None"), (1 <<< 1, "AutomaticFeeding"), (1 <<< 2, "Heating"),
    (1 <<< 3, "Heating_CanSpin"), (1 <<< 4, "Humidity"), (1 <<< 5, "Temperature"),
    (1 <<< 6, "ModifyTray"), (1 <<< 7, "ModifyTray_CannotMaxGrams")].lookup feature

end MUCapabilities

namespace MachineMessages

def muDoesNotExist (unitID : String) : MachineMessage where
  id := some ("machine.mu.notfound." ++ unitID)
  title := some "Material Unit does not Exist"
  body := some ("Material Unit of ID " ++ unitID ++ " does not exist")
  severity := .error
  -- `MachineMessageActions.Refresh`
  manualResolve := 8
  autoResolve := default

def noFeature (desiredFeature : MachineCapabilities) : MachineMessage where
  id := some ("machine.feature.unsupported." ++ desiredFeature.getName.getD "")
  title := some "Unsupported Feature"
  body := some ("Machine does not support feature " ++ desiredFeature.getName.getD "")
  severity := .error
  manualResolve := 0
  autoResolve := default

def noMUFeature (desiredFeature : MUCapabilities) : MachineMessage where
  id := some ("machine.mu.feature.unsupported." ++ (MUCapabilities.getName desiredFeature).getD "")
  title := some "Unsupported Material Unit Feature"
  body := some ("Material Unit does not support feature " ++
    (MUCapabilities.getName desiredFeature).getD "")
  severity := .error
  manualResolve := 0
  autoResolve := default

def scheduledPrintSkipped (jobName : NetString) (reason : String) : MachineMessage where
  id := some ("machine.scheduled.skipped." ++ jobName.getD "")
  title := some "Scheduled Print Skipped"
  body := some ("The scheduled print '" ++ jobName.getD "" ++ "' was skipped: " ++ reason)
  severity := .warning
  manualResolve := 0
  autoResolve := default

end MachineMessages

/-- `OpIfNotCapable`, over `HasFlag`. -/
def MachineState.opIfNotCapable (s : MachineState) (desiredFeature : MachineCapabilities) :
    Option MachineOperationResult :=
  if s.capabilities &&& desiredFeature = desiredFeature then none
  else some (.fail (MachineMessages.noFeature desiredFeature))

/-- `IfNotCapable`. -/
def MUnit.ifNotCapable (m : MUnit) (desiredFeature : MUCapabilities) :
    Option MachineOperationResult :=
  if m.capabilities &&& desiredFeature ≠ 0 then none
  else some (.fail (MachineMessages.noMUFeature desiredFeature))

/-! ### The operations -/

namespace MachineConnection

variable {Cron : Type} [DecidableEq Cron] [Hashable (HeatingSchedule Cron)]
  [Hashable (ScheduledPrint Cron)]

namespace ScheduledTasks

/-- `SchedulePrint`. -/
def schedulePrint (env : Environment Cron) (scheduledPrint : ScheduledPrintRef) :
    EStateM Fault (MachineConnection Cron) MachineOperationResult := do
  let c ← get
  match c.state.opIfNotCapable .startLocalJob with
  | some uncapableResult => return uncapableResult
  | none =>
    discard (commitState env
      ((default : MachineStateUpdate).setScheduledPrints c.heap.ops scheduledPrint))
    return .ok

/-- `CancelScheduledPrint`. -/
def cancelScheduledPrint (env : Environment Cron) (scheduledPrint : ScheduledPrintRef) :
    EStateM Fault (MachineConnection Cron) Unit := do
  let c ← get
  discard (commitState env
    ((default : MachineStateUpdate).removeScheduledPrints c.heap.ops [scheduledPrint]))

/-- `_State.MaterialUnits.TryGetValue(unitID)` and what comes after it. -/
def withUnit (unitID : NetString)
    (body : String → MUnit → EStateM Fault (MachineConnection Cron) MachineOperationResult) :
    EStateM Fault (MachineConnection Cron) MachineOperationResult := do
  let c ← get
  match unitID with
  | none => throw .argument
  | some id =>
    match c.state.materialUnits.tryGetValue id with
    | none => return .fail (MachineMessages.muDoesNotExist id)
    | some unit => body id unit

/-- `ScheduleMUHeating`. -/
def scheduleMUHeating (env : Environment Cron) (unitID : NetString)
    (schedule : HeatingScheduleRef) :
    EStateM Fault (MachineConnection Cron) MachineOperationResult :=
  withUnit unitID fun id unit => do
    let c ← get
    match unit.ifNotCapable MUCapabilities.heating with
    | some uncapableResult => return uncapableResult
    | none =>
      discard (commitState env ((default : MachineStateUpdate).updateMaterialUnits id
        (·.setHeatingSchedule c.heap.ops.heatingSchedules schedule)))
      return .ok

/-- `CancelScheduledMUHeating`. -/
def cancelScheduledMUHeating (env : Environment Cron) (unitID : NetString)
    (schedule : HeatingScheduleRef) :
    EStateM Fault (MachineConnection Cron) MachineOperationResult :=
  withUnit unitID fun id _ => do
    let c ← get
    discard (commitState env ((default : MachineStateUpdate).updateMaterialUnits id
      (·.removeHeatingSchedule c.heap.ops.heatingSchedules schedule)))
    return .ok

/-- `CancelAllScheduledMUHeating`. -/
def cancelAllScheduledMUHeating (env : Environment Cron) (unitID : NetString) :
    EStateM Fault (MachineConnection Cron) MachineOperationResult :=
  withUnit unitID fun id unit => do
    let schedulesToRemove := unit.heatingSchedule.elems
    forM schedulesToRemove endHeating
    let c ← get
    discard (commitState env (schedulesToRemove.foldl (fun changes schedule =>
      changes.updateMaterialUnits id
        (·.removeHeatingSchedule c.heap.ops.heatingSchedules schedule)) default))
    return .ok

/-- The commit of the task of a scheduled print whose local file no longer exists. -/
def skipScheduledPrint (env : Environment Cron) (utcNow : DateTimeOffset)
    (scheduledPrint : ScheduledPrintRef) : EStateM Fault (MachineConnection Cron) Unit := do
  let c ← get
  let jobName := (c.heap.scheduledPrints scheduledPrint).localJob.name
  let changes ← ofExcept ((default : MachineStateUpdate).setNotifications utcNow
    (MachineMessages.scheduledPrintSkipped jobName "Local file no longer exists on the machine"))
  discard (commitState env (changes.removeScheduledPrints c.heap.ops [scheduledPrint]))

end ScheduledTasks

end MachineConnection

end Connect3Dp
