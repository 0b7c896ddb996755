import Connect3Dp.Runtime.Json
import Connect3Dp.State.Setters

/-!
# The ELEGOO connector: incoming messages

Each handler reads a message, changes the connector's own fields and returns the update it
commits, if it gets that far. A handler that raises is caught by `OnWebSocketMessage`: its writes
to the fields stay, and nothing is committed.

`onWebSocketMessage_quiet` says that a message leaves units and scheduled prints alone, and
`onWebSocketMessage_idle` what idle telemetry does to the status and the job.
-/

namespace Connect3Dp

namespace Elegoo

/-- The connector's own fields, and the address of the next object it allocates. -/
structure Fields where
  id : NetString
  mainboardID : NetString
  nextObject : ℕ
  deriving Inhabited

/-- `ELEGOOConstants.MapPrintStatus`. -/
def mapPrintStatus (elegooStatus : Int32) : MachineStatus :=
  match elegooStatus.toInt with
  | 0 => .idle
  | 13 => .printing
  | 10 => .printing
  | 5 => .printing
  | 7 => .printing
  | 6 => .paused
  | 12 => .paused
  | 9 => .printed
  | 8 => .canceled
  | 14 => .canceled
  | 1 => .printing
  | _ => .idle

/-- `ELEGOOConstants.GetCapabilities`, the same for every model. -/
def getCapabilities : MachineCapabilities :=
  .startLocalJob ||| .control ||| .lighting ||| .temps ||| .fans ||| .localJobs

/-! ### Status messages -/

/-- One block of `MapTemperatures`. -/
def mapTemperature (status : JsonElement) (current target name : String)
    (constraints : HeatingConstraints) : MachineStateUpdate → Except Fault MachineStateUpdate :=
  status.ifProperty current fun temp u => do
    let targetTemp ← status.readOr target (.finite 0) JsonElement.getDouble
    return u.setHeatingElements name ⟨← temp.getDouble, targetTemp, constraints⟩

def mapTemperatures (status : JsonElement) (u : MachineStateUpdate) :
    Except Fault MachineStateUpdate := do
  let u ← mapTemperature status "TempOfHotbed" "TempTargetHotbed" "Bed" ⟨0, 120⟩ u
  let u ← mapTemperature status "TempOfNozzle" "TempTargetNozzle" "Nozzle" ⟨0, 300⟩ u
  mapTemperature status "TempOfBox" "TempTargetBox" "Chamber" ⟨0, 70⟩ u

/-- One block of `MapFans`. -/
def mapFan (fans : JsonElement) (name : String) :
    MachineStateUpdate → Except Fault MachineStateUpdate :=
  fans.ifProperty name fun percent u => return u.setFans name (← percent.getInt32)

def mapFans (status : JsonElement) : MachineStateUpdate → Except Fault MachineStateUpdate :=
  status.ifProperty "CurrentFanSpeed" fun fans u => do
    let u ← mapFan fans "ModelFan" u
    let u ← mapFan fans "AuxiliaryFan" u
    mapFan fans "BoxFan" u

/-- A light is on when its number is not zero. -/
def isOnNumber (light : JsonElement) : Except Fault Bool := do
  match ← light.tryGetInt32 with
  | some n => return n != 0
  | none => return (← light.getDouble) ≠ .finite 0

def mapLights (status : JsonElement) (u : MachineStateUpdate) :
    Except Fault MachineStateUpdate := do
  match ← status.tryGetPropertyIgnoreCase "LightStatus" with
  | some (.object lights) =>
    match ← (JsonElement.object lights).tryGetPropertyIgnoreCase "SecondLight" with
    | some (.boolean value) => return u.setLights "Chamber" value
    | some (.number n) => return u.setLights "Chamber" (← isOnNumber (.number n))
    | some _ => return u.setLights "Chamber" false
    | none => return u
  | some (.number n) => return u.setLights "Chamber" (← isOnNumber (.number n))
  | some (.boolean value) => return u.setLights "Chamber" value
  | _ => return u

/-- A property that is a number, or else zero. -/
def readTicks (printInfo : JsonElement) (name : String) : Except Fault Double := do
  match ← printInfo.tryGetPropertyIgnoreCase name with
  | some (.number n) => (JsonElement.number n).getInt64OrDouble
  | _ => return .finite 0

/-- `TryGetPrintTickDurations`: the current ticks, the total ticks and whether they are
milliseconds, if there is a total. -/
def tryGetPrintTickDurations (printInfo : JsonElement) :
    Except Fault (Option (Double × Double × Bool)) := do
  let current ← readTicks printInfo "CurrentTicks"
  let total ← readTicks printInfo "TotalTicks"
  if !Double.lt (.finite 0) total then return none
  return some (current, total, !total.lt (.finite 100000))

/-- `TryGetSecondsTimeSpan`, on a property that may be missing. -/
def readSeconds (printInfo : JsonElement) (name : String) : Except Fault TimeSpan := do
  match ← printInfo.tryGetPropertyIgnoreCase name with
  | some (.number n) =>
    let seconds ← (JsonElement.number n).getInt64OrDouble
    if seconds.lt (.finite 0) then return .zero else TimeSpan.fromSeconds seconds
  | _ => return .zero

/-- The progress in percent, before it is clamped. -/
def readProgress (printInfo : JsonElement) (ticks : Option (Double × Double × Bool))
    (currentLayer totalLayer : Int32) (mappedStatus : MachineStatus) : Except Fault Int32 := do
  let progress ← match ticks with
    | some (current, total, _) =>
      pure (((current.mul (.finite 100)).div total).round.clamp (.finite 0) (.finite 100)).toInt32
    | none => printInfo.readOr "Progress" 0 fun
      | .number n =>
        match n.int32 with
        | some p => return p
        | none => return n.double.toInt32
      | _ => return 0
  let progress := if progress = 0 ∧ 0 < totalLayer then
    (((Double.ofInt currentLayer.toInt).mul (.finite 100)).div
      (.ofInt totalLayer.toInt)).toInt32 else progress
  return if mappedStatus = .printed then 100 else progress

/-- The remaining and the total time. -/
def readTimes (printInfo : JsonElement) (ticks : Option (Double × Double × Bool))
    (progress : Int32) : Except Fault (TimeSpan × TimeSpan) := do
  let (remainingTime, totalTime) ← match ticks with
    | some (current, total, areMilliseconds) => do
      let remaining := Double.max (.finite 0) (total.sub current)
      let ofTicks := if areMilliseconds then TimeSpan.fromMilliseconds else TimeSpan.fromSeconds
      let totalTime ← ofTicks total
      let remainingTime ← ofTicks remaining
      pure (remainingTime, totalTime)
    | none => do
      let remainingTime ← readSeconds printInfo "RemainingTime"
      let totalTime ← readSeconds printInfo "TotalTime"
      pure (remainingTime, totalTime)
  if totalTime = .zero ∧ remainingTime.isPositive ∧ 0 < progress then
    let left := (Double.finite 1).sub ((Double.ofInt progress.toInt).div (.finite 100))
    return (remainingTime, ← TimeSpan.fromSeconds (remainingTime.totalSeconds.div left))
  return (remainingTime, totalTime)

/-- The part of `MapPrintInfo` for a print that is active or has just ended: what it does to the
current job. -/
def mapActiveJob (printInfo : JsonElement) (mappedStatus : MachineStatus) :
    Except Fault (PrintJobUpdate → PrintJobUpdate) := do
  let filename ← printInfo.readOr "Filename" "" fun f => return (← f.getString).getD ""
  let currentLayer ← printInfo.readOr "CurrentLayer" 0 JsonElement.getInt32
  let totalLayer ← printInfo.readOr "TotalLayer" 0 JsonElement.getInt32
  let ticks ← tryGetPrintTickDurations printInfo
  let progress ← readProgress printInfo ticks currentLayer totalLayer mappedStatus
  let (remainingTime, totalTime) ← readTimes printInfo ticks progress
  let jobName := getFileNameWithoutExtension filename
  let displayName := if jobName = "" then "Unknown" else jobName
  let subStage := if 0 < totalLayer then
    some s!"Layer {currentLayer.toInt}/{totalLayer.toInt}" else none
  let customID ← printInfo.readOr "TaskId" none JsonElement.getString
  return fun job => { job with
    name := job.name.set (some displayName)
    percentageComplete := job.percentageComplete.set (clampInt32 progress 0 100)
    remainingTime := job.remainingTime.set remainingTime
    totalTime := job.totalTime.set totalTime
    localPath := job.localPath.set (some filename)
    subStage := if subStage.isSome then job.subStage.set subStage else job.subStage
    customID := if customID.isSome then job.customID.set customID else job.customID }

/-- The status of a print, `Status` in `PrintInfo`. -/
def readPrintStatus (printInfo : JsonElement) : Except Fault MachineStatus :=
  mapPrintStatus <$> printInfo.readOr "Status" 0 JsonElement.getInt32

/-- The unused value `currentStatus` of `MapPrintInfo`, which is read nevertheless. -/
def readCurrentStatus (status : JsonElement) : Except Fault Int32 :=
  status.readOr "CurrentStatus" 0 fun entries => do
    match ← entries.enumerateArray with
    | first :: _ => first.getInt32
    | [] => return 0

def mapPrintInfo (s : MachineState) (status : JsonElement) (u : MachineStateUpdate) :
    Except Fault MachineStateUpdate := do
  let _ ← readCurrentStatus status
  match ← status.tryGetProperty "PrintInfo" with
  | none =>
    return if s.status = .printing ∧ s.currentJob ≠ none then u.setStatus .printed
      else u.setStatus .idle
  | some printInfo =>
    let mappedStatus ← readPrintStatus printInfo
    let u := u.setStatus mappedStatus
    let isActive := mappedStatus = .printing ∨ mappedStatus = .paused
    let justEnded := mappedStatus = .printed ∨ mappedStatus = .canceled
    if isActive ∨ justEnded then
      return u.updateCurrentJob (← mapActiveJob printInfo mappedStatus)
    else return u.unsetCurrentJob

/-- The update of a status message. -/
def statusUpdate (s : MachineState) (status : JsonElement) :
    Except Fault MachineStateUpdate := do
  let u ← mapTemperatures status default
  let u ← mapFans status u
  let u ← mapLights status u
  let u ← mapPrintInfo s status u
  return u.setCapabilities getCapabilities

/-- Remember the identifier of the mainboard, unless it is missing or empty. -/
def readMainboardID (e : JsonElement) : EStateM Fault Fields Unit := do
  let mainboardID ← ofExcept (e.readOr "MainboardID" none JsonElement.getString)
  if !isNullOrEmpty mainboardID then modify ({ · with mainboardID })

def handleStatusMessage (s : MachineState) (root : JsonElement) :
    EStateM Fault Fields (Option MachineStateUpdate) := do
  match ← ofExcept (root.tryGetProperty "Status") with
  | none => return none
  | some status =>
    if (← get).mainboardID = none then readMainboardID status
    some <$> ofExcept (statusUpdate s status)

/-! ### Attribute messages -/

def handleAttributesMessage (root : JsonElement) :
    EStateM Fault Fields (Option MachineStateUpdate) := do
  match ← ofExcept (root.tryGetProperty "Attributes") with
  | none => return none
  | some attrs =>
    readMainboardID attrs
    let name ← ofExcept (attrs.readOr "Name" none JsonElement.getString)
    return if isNullOrEmpty name then none
      else some ((default : MachineStateUpdate).setNickname name)

/-! ### Responses -/

/-- The job of one entry of a file list, if the entry has a name. -/
def readFile (host : Host) (file : JsonElement) :
    EStateM Fault Fields (Option LocalPrintJob) := do
  let name ← ofExcept (file.readOr "name" "" fun n => return (← n.getString).getD "")
  let size ← ofExcept (file.readOr "size" 0 JsonElement.getInt64)
  if name = "" then return none
  let uri := if name.startsWith "/" then name else s!"/local/{name}"
  let hash := host.sha256 s!"{name}:{size.toInt}"
  let fields ← get
  set { fields with nextObject := fields.nextObject + 1 }
  return some {
    name := some (getFileNameWithoutExtension name)
    file := ⟨fields.id, some uri, some "application/gcode", some hash⟩
    totalGramsUsed := 0
    time := .zero
    materialsToPrint := ⟨fields.nextObject, ∅⟩ }

/-- The update of a file list: every existing job is removed, and the listed ones are set. -/
def fileListUpdate (s : MachineState) (jobs : List LocalPrintJob) : MachineStateUpdate :=
  let u := s.localJobs.elems.foldl (fun u existing => u.removeLocalJobs existing)
    (default : MachineStateUpdate)
  let u := jobs.foldl (fun u job => u.setLocalJobs job) u
  u.setCapabilities (s.capabilities ||| .localJobs)

def handleFileListResponse (host : Host) (s : MachineState) (data : JsonElement) :
    EStateM Fault Fields (Option MachineStateUpdate) := do
  match ← ofExcept (data.tryGetProperty "FileList") with
  | none => return none
  | some fileList =>
    let jobs ← (← ofExcept fileList.enumerateArray).filterMapM (readFile host)
    return some (fileListUpdate s jobs)

/-- `HandleHistoryIdsResponse`, which only sends a request. -/
def handleHistoryIdsResponse (data : JsonElement) : Except Fault Unit := do
  match ← data.tryGetProperty "HistoryIdList" with
  | none => return
  | some idList => (← idList.enumerateArray).forM fun id => discard id.getString

/-- The history entry of one task, which ends when the clock is read for it. -/
def readTask (now : DateTime) (detail : JsonElement) : Except Fault HistoricPrintJob := do
  let taskName ← detail.readOr "TaskName" "Unknown" fun tn =>
    return (← tn.getString).getD "Unknown"
  let taskStatus ← detail.readOr "Status" 0 JsonElement.getInt32
  return {
    name := some (getFileNameWithoutExtension taskName)
    isSuccess := taskStatus = 9
    endedAt := now
    elapsed := .zero
    thumbnail := none
    file := none }

def handleTaskDetailResponse (host : Host) (data : JsonElement) :
    Except Fault (Option MachineStateUpdate) := do
  match ← data.tryGetProperty "HistoryDetailList" with
  | none => return none
  | some details =>
    let entries ← (← details.enumerateArray).zipIdx.mapM fun (detail, i) =>
      readTask (host.now i) detail
    return some (entries.foldl (fun u entry => u.setJobHistory entry) default)

def handleResponseMessage (host : Host) (s : MachineState) (root : JsonElement) :
    EStateM Fault Fields (Option MachineStateUpdate) := do
  match ← ofExcept (root.tryGetProperty "Data") with
  | none => return none
  | some data =>
    let cmd ← ofExcept (data.readOr "Cmd" (-1) JsonElement.getInt32)
    match ← ofExcept (data.tryGetProperty "Data") with
    | none => return none
    | some responseData =>
      match cmd.toInt with
      | 258 => handleFileListResponse host s responseData
      | 320 => do
        ofExcept (handleHistoryIdsResponse responseData)
        return none
      | 321 => ofExcept (handleTaskDetailResponse host responseData)
      | _ => return none

/-! ### Errors -/

def handleErrorMessage (host : Host) (root : JsonElement) :
    Except Fault (Option MachineStateUpdate) := do
  let errorDetail ← root.readOr "Data" "Unknown printer error" fun data =>
    return host.rawText data
  some <$> (default : MachineStateUpdate).setNotifications host.utcNow {
    id := some "elegoo.printer.error"
    title := some "Printer Error"
    body := some errorDetail
    severity := .error
    manualResolve := 0
    autoResolve := default }

/-! ### Messages -/

/-- The handlers a message can be passed to. -/
inductive Handler
  | status
  | attributes
  | response
  | error

/-- The handler for a message, by its topic or else by its properties. -/
def handlerOf (root : JsonElement) : Except Fault (Option Handler) := do
  match ← root.tryGetProperty "Topic" with
  | some topicEl =>
    match ← topicEl.getString with
    | none => return none
    | some topic =>
      return if containsText topic "sdcp/status" then some .status
        else if containsText topic "sdcp/attributes" then some .attributes
        else if containsText topic "sdcp/response" then some .response
        else if containsText topic "sdcp/error" then some .error
        else none
  | none =>
    if (← root.tryGetProperty "Status").isSome then return some .status
    else if (← root.tryGetProperty "Attributes").isSome then return some .attributes
    else match ← root.tryGetProperty "Data" with
      | some data => return if (← data.tryGetProperty "Cmd").isSome then some .response else none
      | none => return none

/-- `OnWebSocketMessage`, for a message that parses: the update to commit. -/
def onWebSocketMessage (host : Host) (s : MachineState) (root : JsonElement) :
    EStateM Fault Fields (Option MachineStateUpdate) := do
  match ← ofExcept (handlerOf root) with
  | none => return none
  | some .status => handleStatusMessage s root
  | some .attributes => handleAttributesMessage root
  | some .response => handleResponseMessage host s root
  | some .error => ofExcept (handleErrorMessage host root)

/-- `DisconnectSocket`. -/
def Fields.disconnectSocket (fields : Fields) : Fields := { fields with mainboardID := none }

/-! ### What a message commits -/

section Specification

variable {host : Host} {s : MachineState} {e status root : JsonElement} {u : MachineStateUpdate}

theorem ifProperty_extends {name : String}
    {write : JsonElement → MachineStateUpdate → Except Fault MachineStateUpdate}
    (hwrite : ∀ p u, Yields (write p u) u.Extends) :
    Yields (e.ifProperty name write u) u.Extends := by
  refine .bind_any fun p => ?_
  cases p with
  | none => exact .pure (.refl u)
  | some p => exact hwrite p u

theorem mapTemperature_extends {current target name : String} {constraints : HeatingConstraints} :
    Yields (mapTemperature status current target name constraints u) u.Extends :=
  ifProperty_extends fun _ _ => .bind_any fun _ => .bind_any fun _ =>
    .pure ⟨rfl, rfl, rfl, rfl, rfl⟩

theorem mapTemperatures_extends : Yields (mapTemperatures status u) u.Extends :=
  .bind mapTemperature_extends fun _ h => .bind mapTemperature_extends fun _ h' =>
    mapTemperature_extends.mono fun _ h'' => h.trans (h'.trans h'')

theorem mapFan_extends {name : String} : Yields (mapFan e name u) u.Extends :=
  ifProperty_extends fun _ _ => .bind_any fun _ => .pure ⟨rfl, rfl, rfl, rfl, rfl⟩

theorem mapFans_extends : Yields (mapFans status u) u.Extends :=
  ifProperty_extends fun _ _ => .bind mapFan_extends fun _ h => .bind mapFan_extends fun _ h' =>
    mapFan_extends.mono fun _ h'' => h.trans (h'.trans h'')

theorem setLights_extends (name : String) (isOn : Bool) : u.Extends (u.setLights name isOn) :=
  ⟨rfl, rfl, rfl, rfl, rfl⟩

theorem mapLights_extends : Yields (mapLights status u) u.Extends := by
  refine .bind_any fun lights => ?_
  split
  · refine .bind_any fun light => ?_
    split
    · exact .pure (setLights_extends _ _)
    · exact .bind_any fun _ => .pure (setLights_extends _ _)
    · exact .pure (setLights_extends _ _)
    · exact .pure (.refl u)
  · exact .bind_any fun _ => .pure (setLights_extends _ _)
  · exact .pure (setLights_extends _ _)
  · exact .pure (.refl u)

theorem mapPrintInfo_quiet (hu : u.Quiet) :
    Yields (mapPrintInfo s status u) MachineStateUpdate.Quiet := by
  refine .bind_any fun _ => .bind_any fun printInfo => ?_
  cases printInfo with
  | none => exact .pure (by split <;> exact ⟨hu.materialUnits, hu.scheduledPrints⟩)
  | some printInfo =>
    refine .bind_any fun mappedStatus => ?_
    dsimp only
    split
    · exact .bind_any fun _ => .pure ⟨hu.materialUnits, hu.scheduledPrints⟩
    · exact .pure ⟨hu.materialUnits, hu.scheduledPrints⟩

/-- The printer reports a print whose status means that the machine is idle. This is the path on
which `MapPrintInfo` calls `UnsetCurrentJob`. -/
def ReportsIdle (status : JsonElement) : Prop :=
  ∃ printInfo, status.tryGetProperty "PrintInfo" = .ok (some printInfo) ∧
    readPrintStatus printInfo = .ok .idle

theorem mapPrintInfo_idle (hu : u.Quiet) (hidle : ReportsIdle status) :
    Yields (mapPrintInfo s status u) fun u' => u'.Clears .idle := by
  obtain ⟨printInfo, hprintInfo, hstatus⟩ := hidle
  refine .bind_any fun _ => .bind_eq fun o ho => ?_
  rw [hprintInfo] at ho
  cases ho
  refine .bind_eq fun mappedStatus hm => ?_
  rw [hstatus] at hm
  cases hm
  exact .pure (MachineStateUpdate.clears_unsetCurrentJob hu .idle)

theorem statusUpdate_yields {P : MachineStateUpdate → Prop}
    (hP : ∀ u u' : MachineStateUpdate, u.Extends u' → P u → P u')
    (hprint : ∀ u : MachineStateUpdate, u.Quiet → Yields (mapPrintInfo s status u) P) :
    Yields (statusUpdate s status) P := by
  refine .bind mapTemperatures_extends fun u₁ h₁ => .bind mapFans_extends fun u₂ h₂ =>
    .bind mapLights_extends fun u₃ h₃ => .bind (hprint u₃ ?_) fun u₄ h₄ => .pure ?_
  · exact h₃.quiet (h₂.quiet (h₁.quiet MachineStateUpdate.quiet_default))
  · exact hP u₄ _ ⟨rfl, rfl, rfl, rfl, rfl⟩ h₄

/-- A status message of a printer that is idle. -/
def IdleTelemetry (root : JsonElement) : Prop :=
  handlerOf root = .ok (some .status) ∧
    ∃ status, root.tryGetProperty "Status" = .ok (some status) ∧ ReportsIdle status

theorem handleStatusMessage_yields {P : MachineStateUpdate → Prop}
    (hP : ∀ status, root.tryGetProperty "Status" = .ok (some status) →
      Yields (statusUpdate s status) P) :
    YieldsM (handleStatusMessage s root) fun o => ∀ u, o = some u → P u := by
  refine .ofExcept_bind fun o ho => ?_
  cases o with
  | none => exact .none
  | some status =>
    refine .bind_any fun fields => ?_
    dsimp only
    split
    · exact .bind_any fun _ => .map_some (.ofExcept (hP status ho))
    · exact .map_some (.ofExcept (hP status ho))

theorem handleAttributesMessage_quiet :
    YieldsM (handleAttributesMessage root) fun o => ∀ u, o = some u → u.Quiet := by
  refine .bind_any fun attrs => ?_
  cases attrs with
  | none => exact .none
  | some attrs =>
    refine .bind_any fun _ => .bind_any fun name => ?_
    split
    · exact .none
    · exact .some ⟨rfl, rfl⟩

/-- A file list removes every job that there is. -/
theorem fileListUpdate_relists (jobs : List LocalPrintJob) :
    (fileListUpdate s jobs).Relists s := by
  rw [fileListUpdate, MachineStateUpdate.foldl_removeLocalJobs,
    MachineStateUpdate.foldl_setLocalJobs]
  exact ⟨⟨rfl, rfl⟩, fun _ => MachineStateUpdate.mem_removals_relist fun _ h => by cases h⟩

theorem handleFileListResponse_relists {data : JsonElement} :
    YieldsM (handleFileListResponse host s data) fun o => ∀ u, o = some u → u.Relists s := by
  refine .bind_any fun fileList => ?_
  cases fileList with
  | none => exact .none
  | some fileList =>
    exact .bind_any fun _ => .bind_any fun jobs => .some (fileListUpdate_relists jobs)

theorem handleTaskDetailResponse_quiet {data : JsonElement} :
    Yields (handleTaskDetailResponse host data) fun o => ∀ u, o = some u → u.Quiet := by
  refine .bind_any fun details => ?_
  cases details with
  | none => exact .pure fun _ h => by cases h
  | some details =>
    refine .bind_any fun _ => .bind_any fun entries => .pure fun u hu => Option.some.inj hu ▸ ?_
    exact List.foldlRecOn entries _ MachineStateUpdate.quiet_default
      fun u hu _ _ => ⟨hu.materialUnits, hu.scheduledPrints⟩

theorem handleResponseMessage_quiet :
    YieldsM (handleResponseMessage host s root) fun o => ∀ u, o = some u → u.Quiet := by
  refine .bind_any fun data => ?_
  cases data with
  | none => exact .none
  | some data =>
    refine .bind_any fun cmd => .bind_any fun responseData => ?_
    cases responseData with
    | none => exact .none
    | some responseData =>
      dsimp only
      split
      · exact fun fields o fields' h u hu =>
          (handleFileListResponse_relists fields o fields' h u hu).quiet
      · exact .bind_any fun _ => .none
      · exact .ofExcept handleTaskDetailResponse_quiet
      · exact .none

theorem handleErrorMessage_quiet :
    Yields (handleErrorMessage host root) fun o => ∀ u, o = some u → u.Quiet :=
  .bind_any fun _ => .map (MachineStateUpdate.extends_setNotifications.mono fun _ hu _ hu' =>
    Option.some.inj hu' ▸ hu.quiet MachineStateUpdate.quiet_default)

/-- **A message leaves units and scheduled prints alone.** -/
theorem onWebSocketMessage_quiet :
    YieldsM (onWebSocketMessage host s root) fun o => ∀ u, o = some u → u.Quiet := by
  refine .bind_any fun handler => ?_
  cases handler with
  | none => exact .none
  | some handler =>
    cases handler with
    | status =>
      exact handleStatusMessage_yields fun status _ =>
        statusUpdate_yields (fun _ _ h hu => h.quiet hu) fun _ hu => mapPrintInfo_quiet hu
    | attributes => exact handleAttributesMessage_quiet
    | response => exact handleResponseMessage_quiet
    | error => exact .ofExcept handleErrorMessage_quiet

/-- **Idle telemetry** sets the status to `Idle` and creates no job. -/
theorem onWebSocketMessage_idle (hidle : IdleTelemetry root) :
    YieldsM (onWebSocketMessage host s root) fun o => ∀ u, o = some u → u.Clears .idle := by
  obtain ⟨hhandler, status, hstatus, hreports⟩ := hidle
  refine .ofExcept_bind fun handler h => ?_
  rw [hhandler] at h
  cases h
  refine handleStatusMessage_yields fun status' hstatus' => ?_
  rw [hstatus] at hstatus'
  cases hstatus'
  exact statusUpdate_yields (fun _ _ h hu => h.clears hu) fun _ hu => mapPrintInfo_idle hu hreports

end Specification

end Elegoo

end Connect3Dp
