import Connect3Dp.Runtime.Json
import Connect3Dp.State.Setters

/-!
# The Creality K1C connector: incoming messages

Every message that parses is merged into one update, first its root and then its `data`, and the
update is committed. The connector's own fields track the pages of a file listing and whether
there are files at all.

`onWebSocketMessage_tracks` says that a message leaves units and scheduled prints alone, and
`onWebSocketMessage_idle` what a message does to the job when it sets the status to `Idle`.
-/

namespace Connect3Dp

namespace Creality

/-- The connector's own fields, and the address of the next object it allocates. -/
structure Fields where
  id : NetString
  lastHistoryFingerprint : NetString
  hasLocalFiles : Bool
  pendingFiles : List LocalPrintJob
  nextFilePage : Int32
  firstPageSize : Int32
  paginatingFiles : Bool
  paginationLastActivity : DateTimeOffset
  nextObject : ℕ

/-- No cycle of file pages is in progress. -/
def Fields.resetPagination (fields : Fields) : Fields :=
  { fields with
    pendingFiles := []
    nextFilePage := 1
    firstPageSize := -1
    paginatingFiles := false }

instance : Inhabited Fields :=
  ⟨Fields.resetPagination ⟨none, none, false, [], 0, 0, false, default, 0⟩⟩

def maxFilePages : Int32 := 200

/-- `CrealityK1CConstants.MapDeviceState`. -/
def mapDeviceState (state : Int32) : MachineStatus :=
  match state.toInt with
  | 0 => .idle
  | 1 => .printing
  | 2 => .printed
  | 3 => .canceled
  | 4 => .canceled
  | 5 => .paused
  | _ => .idle

/-- `CrealityK1CConstants.BaseCapabilities`. -/
def baseCapabilities : MachineCapabilities :=
  .startLocalJob ||| .control ||| .lighting ||| .localJobs ||| .temps ||| .fans ||| .printHistory

/-- `MachineMessages.SDCardOrUSBMissing`. -/
def sdCardOrUSBMissing : MachineMessage where
  id := some "machine.sdcard.missing"
  title := some "SD Card or USB Drive is Missing"
  body := some "An SD Card or USB Drive is required to send prints to this Machine."
  severity := .warning
  manualResolve := 0
  autoResolve := default

/-! ### Telemetry -/

variable (host : Host)

/-- The first of two properties that is a number, or else zero. -/
def readTarget (obj : JsonElement) (target fallback : String) : Except Fault Double := do
  match ← obj.tryGetDoubleLenient host target with
  | some t => return t
  | none => return (← obj.tryGetDoubleLenient host fallback).getD (.finite 0)

/-- One block of the temperatures. -/
def mapTemperature (obj : JsonElement) (current : String) (target : Except Fault Double)
    (name : String) (constraints : HeatingConstraints) (u : MachineStateUpdate) :
    Except Fault MachineStateUpdate := do
  match ← obj.tryGetDoubleLenient host current with
  | some temp => return u.setHeatingElements name ⟨temp, ← target, constraints⟩
  | none => return u

/-- One block of the fans. -/
def mapFan (obj : JsonElement) (property name : String) (u : MachineStateUpdate) :
    Except Fault MachineStateUpdate := do
  match ← obj.tryGetInt32Lenient host property with
  | some percent => return u.setFans name (clampInt32 percent 0 100)
  | none => return u

/-- The part of `MapTelemetryAndJob` before the job. -/
def mapTelemetry (obj : JsonElement) (u : MachineStateUpdate) :
    Except Fault MachineStateUpdate := do
  let single (target : String) : Except Fault Double :=
    return (← obj.tryGetDoubleLenient host target).getD (.finite 0)
  let u ← mapTemperature host obj "nozzleTemp" (single "targetNozzleTemp") "Nozzle" ⟨0, 300⟩ u
  let u ← mapTemperature host obj "bedTemp0" (single "targetBedTemp0") "Bed" ⟨0, 100⟩ u
  let u ← mapTemperature host obj "boxTemp" (readTarget host obj "targetBoxTemp" "targetBoxTemp0")
    "Chamber" ⟨0, 60⟩ u
  let u ← mapFan host obj "modelFanPct" "ModelFan" u
  let u ← mapFan host obj "auxiliaryFanPct" "AuxiliaryFan" u
  let u ← mapFan host obj "caseFanPct" "BoxFan" u
  match ← obj.tryGetInt32Lenient host "lightSw" with
  | some light => return u.setLights "Chamber" (light != 0)
  | none => return u

/-- The path of the file that is printed, or else `""`. -/
def readPrintPath (obj : JsonElement) : Except Fault String := do
  match ← obj.tryGetStringValue "printFileName" with
  | some path => return path
  | none =>
    match ← obj.tryGetStringValue "filePath" with
    | some path => return path
    | none => return (← obj.tryGetStringValue "printPath").getD ""

/-- What pass 1 does to the current job in an active state. -/
def initialiseJob (path : String) (mapped : MachineStatus) (job : PrintJobUpdate) :
    PrintJobUpdate :=
  let name := if path = "" then "Unknown" else getFileNameWithoutExtension path
  { job with
    name := job.name.set (some name)
    localPath := if path = "" then job.localPath else job.localPath.set (some path)
    percentageComplete := if mapped = .printed then job.percentageComplete.set 100
      else job.percentageComplete }

/-- Pass 1: the status, if the message has a state field. The flag says whether the state is an
active one. -/
def mapStatus (obj : JsonElement) (u : MachineStateUpdate) :
    Except Fault (Bool × MachineStateUpdate) := do
  match ← obj.tryGetInt32Lenient host "state" with
  | none => return (false, u)
  | some crealityState =>
    let mapped := mapDeviceState crealityState
    let u := u.setStatus mapped
    let active := mapped = .printing ∨ mapped = .paused
    let ended := mapped = .printed ∨ mapped = .canceled
    if active ∨ ended then
      return (true, u.updateCurrentJob (initialiseJob (← readPrintPath obj) mapped))
    else return (false, u.unsetCurrentJob)

/-- The text for the layer, if both its parts are there. -/
def readSubStage (obj : JsonElement) : Except Fault NetString := do
  match ← obj.tryGetStringValue "layer" with
  | none => return none
  | some layer =>
    return (← obj.tryGetStringValue "TotalLayer").map fun total => s!"Layer {layer}/{total}"

/-- The total time that pass 2 sets. -/
def totalTimeOf (prog : Option Int32) (rem el : Option TimeSpan) : Except Fault TimeSpan :=
  let remaining := rem.getD .zero
  let progress := prog.getD 0
  if remaining.isPositive ∧ 0 < progress ∧ progress < 100 then
    TimeSpan.fromSeconds (remaining.totalSeconds.div
      ((Double.finite 1).sub ((Double.ofInt progress.toInt).div (.finite 100))))
  else match el with
    | some elapsed => if remaining.isPositive ∧ elapsed.isPositive then elapsed.add remaining
      else return elapsed
    | none => return .zero

/-- What pass 2 does to the current job. -/
def progressJob (prog : Option Int32) (rem : Option TimeSpan) (total : TimeSpan)
    (subStage : NetString) (job : PrintJobUpdate) : PrintJobUpdate :=
  { job with
    percentageComplete := match prog with
      | some p => job.percentageComplete.set (clampInt32 p 0 100)
      | none => job.percentageComplete
    remainingTime := match rem with
      | some r => job.remainingTime.set r
      | none => job.remainingTime
    totalTime := if total.isPositive then job.totalTime.set total else job.totalTime
    subStage := if subStage.isSome then job.subStage.set subStage else job.subStage }

/-- Pass 2: the progress of a job that is active or known already. -/
def mapProgress (obj : JsonElement) (u : MachineStateUpdate) :
    Except Fault MachineStateUpdate := do
  let prog ← obj.tryGetInt32Lenient host "printProgress"
  let rem ← obj.tryGetDurationLenient host "printLeftTime"
  let el ← obj.tryGetDurationLenient host "printJobTime"
  let subStage ← readSubStage obj
  if prog.isSome ∨ rem.isSome ∨ el.isSome ∨ subStage.isSome then
    let total ← if rem.isSome ∨ el.isSome then totalTimeOf prog rem el else pure .zero
    return u.updateCurrentJob (progressJob prog rem total subStage)
  else return u

def mapTelemetryAndJob (s : MachineState) (obj : JsonElement) (u : MachineStateUpdate) :
    Except Fault MachineStateUpdate := do
  let u ← mapTelemetry host obj u
  let (stateWasActive, u) ← mapStatus host obj u
  if stateWasActive ∨ s.currentJob ≠ none then mapProgress host obj u else return u

/-! ### Files -/

/-- One entry of `ExtractFiles`. -/
def extractFile (file : JsonElement) : EStateM Fault Fields (Option LocalPrintJob) := do
  let path := (← ofExcept (file.tryGetStringValue "path")).getD ""
  let name := (← ofExcept (file.tryGetStringValue "name")).getD ""
  if path = "" ∧ name = "" then return none
  let path := if path = "" then s!"/usr/data/printer_data/gcodes/{name}" else path
  let size := (← ofExcept (file.tryGetInt64Lenient host "file_size")).getD 0
  let hash := host.sha256 s!"{path}:{size.toInt}"
  let fields ← get
  set { fields with nextObject := fields.nextObject + 1 }
  let jobName := getFileNameWithoutExtension (if name = "" then path else name)
  return some {
    name := some (if jobName = "" then "Unknown" else jobName)
    file := ⟨fields.id, some path, some "application/gcode", some hash⟩
    totalGramsUsed := 0
    time := .zero
    materialsToPrint := ⟨fields.nextObject, ∅⟩ }

def extractFiles (array : JsonElement) : EStateM Fault Fields (List LocalPrintJob) := do
  (← ofExcept array.enumerateArray).filterMapM (extractFile host)

/-- The first job of each file. -/
def dedupe (files : List LocalPrintJob) : List LocalPrintJob :=
  files.foldl (fun deduped job =>
    if deduped.any fun other => other.file = job.file then deduped else deduped ++ [job]) []

/-- The update of `CommitFileList`: every existing job is removed, and the listed ones are set. -/
def listFiles (s : MachineState) (files : List LocalPrintJob) (u : MachineStateUpdate) :
    MachineStateUpdate :=
  let u := s.localJobs.elems.foldl (fun u existing => u.removeLocalJobs existing) u
  (dedupe files).foldl (fun u job => u.setLocalJobs job) u

def commitFileList (s : MachineState) (files : List LocalPrintJob) (u : MachineStateUpdate) :
    EStateM Fault Fields MachineStateUpdate := do
  modify ({ · with hasLocalFiles := !(dedupe files).isEmpty })
  return listFiles s files u

/-- `HandleFilePage`. The next page is requested by another task. -/
def handleFilePage (s : MachineState) (pageArray : JsonElement) (u : MachineStateUpdate) :
    EStateM Fault Fields MachineStateUpdate := do
  let pageFiles ← extractFiles host pageArray
  let fields ← get
  let pendingFiles := fields.pendingFiles ++ pageFiles
  let count := Int32.ofNat pageFiles.length
  let isEmpty := pageFiles.isEmpty
  let isShorterThanFirstPage := 0 < fields.firstPageSize ∧ count < fields.firstPageSize
  let hitMax := maxFilePages ≤ fields.nextFilePage
  let firstPageSize := if fields.firstPageSize < 0 ∧ 0 < count then count
    else fields.firstPageSize
  let fields := { fields with pendingFiles, firstPageSize, paginationLastActivity := host.utcNow }
  if isEmpty ∨ isShorterThanFirstPage ∨ hitMax then
    set fields.resetPagination
    commitFileList s pendingFiles u
  else
    set { fields with nextFilePage := fields.nextFilePage + 1 }
    return u

def mapFiles (s : MachineState) (obj : JsonElement) (u : MachineStateUpdate) :
    EStateM Fault Fields MachineStateUpdate := do
  match ← ofExcept (obj.tryGetProperty "pFileList") with
  | some (.array page) => handleFilePage host s (.array page) u
  | _ =>
    match ← ofExcept (obj.tryGetProperty "retGcodeFileInfo") with
    | some (.object info) =>
      match ← ofExcept ((JsonElement.object info).tryGetProperty "fileInfo") with
      | some (.array fileInfo) => commitFileList s (← extractFiles host (.array fileInfo)) u
      | _ => return u
    | _ => return u

/-! ### History -/

/-- `DateTimeOffset.FromUnixTimeSeconds`. -/
def fromUnixTimeSeconds (seconds : Int64) : Except Fault DateTimeOffset :=
  if seconds.toInt < -62135596800 ∨ 253402300799 < seconds.toInt then .error .argumentOutOfRange
  else .ok ⟨621355968000000000 + seconds.toInt * 10000000⟩

/-- The history entry of one record. The clock is read for it if it has no end. -/
def readHistoryEntry (now : DateTime) (entry : JsonElement) : Except Fault HistoricPrintJob := do
  let path := (← entry.tryGetStringValue "filename").getD ""
  let name := if path = "" then "Unknown" else getFileNameWithoutExtension path
  let isSuccess := (← entry.tryGetInt32Lenient host "printfinish") = some 1
  let totalSec := (← entry.tryGetInt32Lenient host "totaltime").getD 0
  let usageSec := (← entry.tryGetInt32Lenient host "usagetime").getD totalSec
  let endUnix := match ← entry.tryGetInt64Lenient host "starttime" with
    | some start => start + usageSec.toInt64
    | none => 0
  let endedAt ← if 0 < endUnix then host.localDateTime <$> fromUnixTimeSeconds endUnix
    else pure now
  return {
    name := some name
    isSuccess
    endedAt
    elapsed := .fromWholeSeconds (if usageSec < 0 then 0 else usageSec)
    thumbnail := none
    file := none }

/-- The number of records and the first five ids. -/
def historyFingerprint (entries : List JsonElement) : Except Fault String := do
  let ids ← (entries.take 5).mapM fun e => return (← e.tryGetInt32Lenient host "id").getD 0
  let joined := ",".intercalate (ids.map fun id => toString id.toInt)
  return s!"{entries.length}:{joined}"

def mapHistory (obj : JsonElement) (u : MachineStateUpdate) :
    EStateM Fault Fields MachineStateUpdate := do
  match ← ofExcept (obj.tryGetProperty "historyList") with
  | some (.array list) =>
    let fingerprint ← ofExcept (historyFingerprint host list)
    if (← get).lastHistoryFingerprint = some fingerprint then return u
    modify ({ · with lastHistoryFingerprint := some fingerprint })
    let entries ← ofExcept (list.zipIdx.mapM fun (entry, i) =>
      readHistoryEntry host (host.now i) entry)
    return entries.foldl (fun u entry => u.setJobHistory entry) u
  | _ => return u

/-! ### Messages -/

/-- The host when the clock has been read for the records of a list. -/
def afterHistory (obj : JsonElement) : Host :=
  match obj.tryGetProperty "historyList" with
  | .ok (some (.array list)) => { host with now := fun i => host.now (list.length + i) }
  | _ => host

def mergePrinterState (s : MachineState) (obj : JsonElement) (u : MachineStateUpdate) :
    EStateM Fault Fields MachineStateUpdate := do
  let u ← ofExcept (mapTelemetryAndJob host s obj u)
  let u ← mapFiles host s obj u
  let u ← mapHistory host obj u
  match ← ofExcept (obj.tryGetStringValue "hostname") with
  | some hostname => return u.setNickname (some hostname)
  | none => return u

/-- `ComputeCapabilities`. -/
def Fields.computeCapabilities (fields : Fields) : MachineCapabilities :=
  if fields.hasLocalFiles then baseCapabilities
  else baseCapabilities &&& ~~~(MachineCapabilities.startLocalJob ||| .localJobs)

/-- `ApplyStorageNotification`. -/
def applyStorageNotification (s : MachineState) (fields : Fields) (u : MachineStateUpdate) :
    Except Fault MachineStateUpdate :=
  let hasMissingNotification := s.notifications.containsKey "machine.sdcard.missing"
  if !fields.hasLocalFiles && !hasMissingNotification then
    u.setNotifications host.utcNow sdCardOrUSBMissing
  else if fields.hasLocalFiles && hasMissingNotification then
    return u.removeNotification "machine.sdcard.missing"
  else return u

/-- `OnWebSocketMessage`, for a message that parses: the update to commit. -/
def onWebSocketMessage (s : MachineState) (root : JsonElement) :
    EStateM Fault Fields (Option MachineStateUpdate) := do
  match root with
  | .object _ =>
    let u ← mergePrinterState host s root default
    let u ← match ← ofExcept (root.tryGetProperty "data") with
      | some (.object data) => mergePrinterState (afterHistory host root) s (.object data) u
      | _ => pure u
    let fields ← get
    let u := u.setCapabilities fields.computeCapabilities
    some <$> ofExcept (applyStorageNotification host s fields u)
  | _ => return none

/-! ### The socket -/

/-- `DisconnectSocket`. -/
def Fields.disconnectSocket (fields : Fields) : Fields :=
  { fields.resetPagination with
    lastHistoryFingerprint := none
    hasLocalFiles := false
    -- `DateTime.MinValue`
    paginationLastActivity := ⟨0⟩ }

/-- `SendGetFilesAndHistoryAsync`, which the poll timer calls: begin a new cycle of file pages,
unless one is in progress that is less than thirty seconds old. -/
def Fields.sendGetFilesAndHistory (fields : Fields) : Fields :=
  if fields.paginatingFiles ∧
      host.utcNow.utcTicks - fields.paginationLastActivity.utcTicks < 300000000 then fields
  else { fields.resetPagination with
    paginatingFiles := true
    paginationLastActivity := host.utcNow }

/-! ### What a message commits -/

section Specification

variable {host : Host} {s : MachineState} {obj root : JsonElement} {u : MachineStateUpdate}
  {state : Option MachineStatus}

/-- The status that a part of a message reports. -/
def readState (host : Host) (obj : JsonElement) : Except Fault (Option MachineStatus) :=
  Option.map mapDeviceState <$> obj.tryGetInt32Lenient host "state"

/-- What an update is while a message is merged: the last state that was read, if any, is the
status, and unless it is an active one, no job is named. -/
structure Tracks (s : MachineState) (u : MachineStateUpdate) (state : Option MachineStatus) :
    Prop where
  quiet : u.Quiet
  status : u.status = state.elim default fun status => ⟨status, true⟩
  kept : u.currentJob.isSet = true → u.currentJob.value ≠ none
  unnamed : state = none ∨ state = some .idle →
    ∀ ju, u.currentJob.value = some ju → ju.name.isSet = false
  listing : u.localJobs = default ∨ ∀ job,
    job ∈ u.localJobs.removals (.values LocalPrintJob) ↔ job ∈ s.localJobs

theorem tracks_default : Tracks s default none where
  quiet := MachineStateUpdate.quiet_default
  status := rfl
  kept h := by cases h
  unnamed _ _ h := by cases h
  listing := .inl rfl

namespace Tracks

theorem extend {u' : MachineStateUpdate} (h : Tracks s u state) (hu : u.Extends u') :
    Tracks s u' state where
  quiet := hu.quiet h.quiet
  status := hu.status.trans h.status
  kept := hu.currentJob ▸ h.kept
  unnamed := hu.currentJob ▸ h.unnamed
  listing := hu.localJobs ▸ h.listing

/-- A job that is updated keeps its name buffer. -/
theorem updateCurrentJob {configure : PrintJobUpdate → PrintJobUpdate} (h : Tracks s u state)
    (hname : ∀ ju, (configure ju).name = ju.name) :
    Tracks s (u.updateCurrentJob configure) state where
  quiet := ⟨h.quiet.materialUnits, h.quiet.scheduledPrints⟩
  status := h.status
  kept _ h := by cases h
  unnamed hs ju hju := by
    cases hju
    rw [hname]
    cases hv : u.currentJob.value with
    | none => rfl
    | some ju => exact h.unnamed hs ju hv
  listing := h.listing

end Tracks

theorem mapTemperature_extends {current name : String} {target : Except Fault Double}
    {constraints : HeatingConstraints} :
    Yields (mapTemperature host obj current target name constraints u) u.Extends := by
  refine .bind_any fun temp => ?_
  cases temp with
  | none => exact .pure (.refl u)
  | some temp => exact .bind_any fun _ => .pure ⟨rfl, rfl, rfl, rfl, rfl⟩

theorem mapFan_extends {property name : String} :
    Yields (mapFan host obj property name u) u.Extends := by
  refine .bind_any fun percent => ?_
  cases percent with
  | none => exact .pure (.refl u)
  | some percent => exact .pure ⟨rfl, rfl, rfl, rfl, rfl⟩

theorem mapTelemetry_extends : Yields (mapTelemetry host obj u) u.Extends := by
  refine .bind mapTemperature_extends fun _ h₁ => .bind mapTemperature_extends fun _ h₂ =>
    .bind mapTemperature_extends fun _ h₃ => .bind mapFan_extends fun _ h₄ =>
    .bind mapFan_extends fun _ h₅ => .bind mapFan_extends fun u' h₆ => ?_
  have h : u.Extends u' := h₁.trans (h₂.trans (h₃.trans (h₄.trans (h₅.trans h₆))))
  refine .bind_any fun light => ?_
  cases light with
  | none => exact .pure h
  | some light => exact .pure (h.trans ⟨rfl, rfl, rfl, rfl, rfl⟩)

/-- Pass 1 reads a state, which then is the last one read. -/
theorem mapStatus_tracks (h : Tracks s u state) :
    Yields (mapStatus host obj u) fun r =>
      ∃ read, readState host obj = .ok read ∧ Tracks s r.2 (read.or state) := by
  refine .bind_eq fun o ho => ?_
  have hread : readState host obj = .ok (o.map mapDeviceState) := by rw [readState, ho]; rfl
  cases o with
  | none => exact .pure ⟨none, hread, h⟩
  | some crealityState =>
    dsimp only
    split
    · rename_i hactive
      refine .bind_any fun path => .pure ⟨_, hread, ?_⟩
      refine ⟨⟨h.quiet.materialUnits, h.quiet.scheduledPrints⟩, rfl, ?_, fun hs => ?_, h.listing⟩
      · intro _ hnone
        cases hnone
      · have hidle : mapDeviceState crealityState = .idle := by simpa using hs
        simp [hidle] at hactive
    · refine .pure ⟨_, hread, ?_⟩
      have hclears := MachineStateUpdate.clears_unsetCurrentJob h.quiet
        (mapDeviceState crealityState)
      exact ⟨hclears.quiet, rfl, hclears.kept, fun _ => hclears.unnamed, h.listing⟩

theorem mapProgress_tracks (h : Tracks s u state) :
    Yields (mapProgress host obj u) fun u' => Tracks s u' state := by
  refine .bind_any fun prog => .bind_any fun rem => .bind_any fun el => .bind_any fun subStage => ?_
  split
  · split
    · exact .bind_any fun _ => .pure (h.updateCurrentJob fun _ => rfl)
    · exact .bind_any fun _ => .pure (h.updateCurrentJob fun _ => rfl)
  · exact .pure h

theorem mapTelemetryAndJob_tracks (h : Tracks s u state) :
    Yields (mapTelemetryAndJob host s obj u) fun u' =>
      ∃ read, readState host obj = .ok read ∧ Tracks s u' (read.or state) := by
  refine .bind mapTelemetry_extends fun u₁ h₁ => .bind (mapStatus_tracks (h.extend h₁)) ?_
  rintro ⟨stateWasActive, u₂⟩ ⟨read, hread, h₂⟩
  dsimp only
  split
  · exact (mapProgress_tracks h₂).mono fun _ h₃ => ⟨read, hread, h₃⟩
  · exact .pure ⟨read, hread, h₂⟩

theorem listFiles_tracks {files : List LocalPrintJob} (h : Tracks s u state) :
    Tracks s (listFiles s files u) state := by
  have hb : ∀ job ∈ u.localJobs.removals (.values LocalPrintJob), job ∈ s.localJobs := by
    intro job hjob
    rcases h.listing with hnone | hlisting
    · rw [hnone] at hjob
      cases hjob
    · exact (hlisting job).mp hjob
  rw [listFiles, MachineStateUpdate.foldl_removeLocalJobs, MachineStateUpdate.foldl_setLocalJobs]
  exact ⟨⟨h.quiet.materialUnits, h.quiet.scheduledPrints⟩, h.status, h.kept, h.unnamed,
    .inr fun _ => MachineStateUpdate.mem_removals_relist hb⟩

theorem commitFileList_tracks {files : List LocalPrintJob} (h : Tracks s u state) :
    YieldsM (commitFileList s files u) fun u' => Tracks s u' state :=
  .bind_any fun _ => .pure (listFiles_tracks h)

theorem handleFilePage_tracks {page : JsonElement} (h : Tracks s u state) :
    YieldsM (handleFilePage host s page u) fun u' => Tracks s u' state := by
  refine .bind_any fun pageFiles => .bind_any fun fields => ?_
  dsimp only
  split
  · exact .bind_any fun _ => commitFileList_tracks h
  · exact .bind_any fun _ => .pure h

theorem mapFiles_tracks (h : Tracks s u state) :
    YieldsM (mapFiles host s obj u) fun u' => Tracks s u' state := by
  refine .bind_any fun pFileList => ?_
  split
  · exact handleFilePage_tracks h
  · refine .bind_any fun info => ?_
    split
    · refine .bind_any fun fileInfo => ?_
      split
      · exact .bind_any fun _ => commitFileList_tracks h
      · exact .pure h
    · exact .pure h

theorem mapHistory_tracks (h : Tracks s u state) :
    YieldsM (mapHistory host obj u) fun u' => Tracks s u' state := by
  refine .bind_any fun list => ?_
  split
  · refine .bind_any fun fingerprint => .bind_any fun fields => ?_
    split
    · exact .pure h
    · refine .bind_any fun _ => .bind_any fun entries => .pure ?_
      exact List.foldlRecOn (motive := fun u => Tracks s u state) entries _ h
        fun _ hu _ _ => hu.extend ⟨rfl, rfl, rfl, rfl, rfl⟩
  · exact .pure h

theorem mergePrinterState_tracks (h : Tracks s u state) :
    YieldsM (mergePrinterState host s obj u) fun u' =>
      ∃ read, readState host obj = .ok read ∧ Tracks s u' (read.or state) := by
  refine .bind (.ofExcept (mapTelemetryAndJob_tracks h)) ?_
  rintro u₁ ⟨read, hread, h₁⟩
  refine .bind (mapFiles_tracks h₁) fun u₂ h₂ => .bind (mapHistory_tracks h₂) fun u₃ h₃ =>
    .bind_any fun hostname => ?_
  cases hostname with
  | none => exact .pure ⟨read, hread, h₃⟩
  | some hostname => exact .pure ⟨read, hread, h₃.extend ⟨rfl, rfl, rfl, rfl, rfl⟩⟩

theorem applyStorageNotification_extends {fields : Fields} :
    Yields (applyStorageNotification host s fields u) u.Extends := by
  unfold applyStorageNotification
  dsimp only
  split
  · exact MachineStateUpdate.extends_setNotifications
  · split
    · exact .pure ⟨rfl, rfl, rfl, rfl, rfl⟩
    · exact .pure (.refl u)

/-- A state is read without the clock. -/
theorem readState_afterHistory (host : Host) (root obj : JsonElement) :
    readState (afterHistory host root) obj = readState host obj := by
  unfold afterHistory
  split
  · rfl
  · rfl

/-- The last state that a message reports: that of its `data`, or else that of its root. -/
def LastState (host : Host) (root : JsonElement) (state : Option MachineStatus) : Prop :=
  ∃ read, readState host root = .ok read ∧
    ((∃ data read', root.tryGetProperty "data" = .ok (some (.object data)) ∧
        readState host (.object data) = .ok read' ∧ state = read'.or read) ∨
      (∀ data, root.tryGetProperty "data" ≠ .ok (some (.object data))) ∧ state = read)

/-- What is done after the last merge leaves the status and the job alone. -/
theorem finish_tracks (hlast : LastState host root state) (h : Tracks s u state) :
    YieldsM (do
      let fields ← (get : EStateM Fault Fields Fields)
      let u := u.setCapabilities fields.computeCapabilities
      some <$> ofExcept (applyStorageNotification host s fields u)) fun o => ∀ u', o = some u' →
        ∃ state, LastState host root state ∧ Tracks s u' state := by
  refine .bind_any fun fields => ?_
  have hcapabilities : u.Extends (u.setCapabilities fields.computeCapabilities) :=
    ⟨rfl, rfl, rfl, rfl, rfl⟩
  exact .map_some (.ofExcept (applyStorageNotification_extends.mono fun u' hu =>
    ⟨state, hlast, h.extend (hcapabilities.trans hu)⟩))

/-- **What a message commits** depends on the last state it reports. -/
theorem onWebSocketMessage_tracks :
    YieldsM (onWebSocketMessage host s root) fun o => ∀ u, o = some u →
      ∃ state, LastState host root state ∧ Tracks s u state := by
  unfold onWebSocketMessage
  split
  · refine .bind (mergePrinterState_tracks tracks_default) ?_
    rintro u₁ ⟨read, hread, h₁⟩
    rw [Option.or_none] at h₁
    refine .ofExcept_bind fun data hdata => ?_
    split
    · rename_i properties data'
      refine .bind (mergePrinterState_tracks h₁) ?_
      rintro u₂ ⟨read', hread', h₂⟩
      rw [readState_afterHistory] at hread'
      exact finish_tracks ⟨read, hread, .inl ⟨_, read', hdata, hread', rfl⟩⟩ h₂
    · rename_i hnot
      refine finish_tracks ⟨read, hread, .inr ⟨fun data' h => ?_, rfl⟩⟩ h₁
      rw [h] at hdata
      cases hdata
      exact hnot data' rfl
  · exact .none

theorem LastState.unique {state' : Option MachineStatus} (h : LastState host root state)
    (h' : LastState host root state') : state = state' := by
  obtain ⟨read, hread, h⟩ := h
  obtain ⟨read', hread', h'⟩ := h'
  rw [hread] at hread'
  cases hread'
  rcases h with ⟨data, r, hdata, hr, rfl⟩ | ⟨hnone, rfl⟩
  · rcases h' with ⟨data', r', hdata', hr', rfl⟩ | ⟨hnone', -⟩
    · rw [hdata] at hdata'
      cases hdata'
      rw [hr] at hr'
      cases hr'
      rfl
    · exact absurd hdata (hnone' data)
  · rcases h' with ⟨data', r', hdata', -, -⟩ | ⟨-, rfl⟩
    · exact absurd hdata' (hnone data')
    · rfl

/-- A message whose last state means that the machine is idle. This is the path on which
`MapTelemetryAndJob` calls `UnsetCurrentJob`, and no later state sets another status. -/
def IdleTelemetry (host : Host) (root : JsonElement) : Prop := LastState host root (some .idle)

/-- **Idle telemetry** sets the status to `Idle` and creates no job. -/
theorem onWebSocketMessage_idle (hidle : IdleTelemetry host root) :
    YieldsM (onWebSocketMessage host s root) fun o => ∀ u, o = some u → u.Clears .idle := by
  intro fields o fields' hrun u hu
  obtain ⟨state, hlast, h⟩ := onWebSocketMessage_tracks fields o fields' hrun u hu
  cases hlast.unique hidle
  exact ⟨h.quiet, by rw [h.status]; rfl, by rw [h.status]; rfl, h.kept, h.unnamed (.inr rfl)⟩

end Specification

end Creality

end Connect3Dp
