import Connect3Dp.Runtime.KeyValueMessage
import Connect3Dp.State.Setters

/-!
# The Bambu Lab connector: starting a print and reading it back

`printLocal` (`PrintLocal_Internal`) packs what is known about a job into one string and
`publishPrint` sends it to the printer with the print command. The printer repeats the names of
the command in its reports, which `onMessagePrintJob` reads.
-/

namespace Connect3Dp

namespace BambuLab

/-! ### File handles -/

/-- `Prefix3MF`. -/
def scheme3MF : String := "3MF/"

def thumbnailSuffix : String := "/Thumbnail"

def mimeType3MF : String := "model/3mf"

def mimeTypePNG : String := "image/png"

def handleAs3MF (machineID : NetString) (path : String) (hash : NetString) : MachineFileHandle :=
  ⟨machineID, some (scheme3MF ++ path), some mimeType3MF, hash⟩

def handleAs3MFThumbnail (machineID : NetString) (path : String) (hash : NetString) :
    MachineFileHandle :=
  ⟨machineID, some (scheme3MF ++ path ++ thumbnailSuffix), some mimeTypePNG, hash⟩

/-- `TryParseAs3MFHandle`: the path of a file that is not a thumbnail. -/
def tryParseAs3MFHandle (handle : MachineFileHandle) : Except Fault (Option String) :=
  match handle.uri with
  | none => .error .nullReference
  | some uri => .ok (
    if !scheme3MF.toList.isPrefixOf uri.toList || thumbnailSuffix.toList.isSuffixOf uri.toList ||
      !(handle.mime.any fun mime => equalsIgnoreCase mime mimeType3MF) then none
    else some (.ofList (uri.toList.drop scheme3MF.toList.length)))

/-! ### Starting a print -/

structure AMSSlot where
  amsId : Int32
  slotId : Int32
  deriving DecidableEq, Inhabited

/-- `BBLPrintOptions`. -/
structure BBLPrintOptions where
  plateIndex : Int32
  fileName : String
  subTaskId : String
  projectFilamentCount : ℕ
  bedLeveling : Bool
  flowCalibration : Bool
  vibrationCalibration : Bool
  layerInspect : Bool
  timelapse : Bool
  amsMapping : Option (Dictionary Int32 AMSSlot)

/-- What the MQTT connection has when a print is started. -/
structure MQTTConnection where
  isConnected : Bool
  serialNumber : NetString
  snToAMSID : Dictionary String Int32

/-- A JSON number that an integer is written as. -/
def jsonNumber (n : ℤ) : JsonElement :=
  .number ⟨if -2 ^ 31 ≤ n ∧ n < 2 ^ 31 then some (.ofInt n) else none,
    if -2 ^ 63 ≤ n ∧ n < 2 ^ 63 then some (.ofInt n) else none, .ofInt n⟩

/-- `ToUnixTimeMilliseconds()`. -/
def toUnixTimeMilliseconds (t : DateTimeOffset) : ℤ := (t.utcTicks - 621355968000000000) / 10000

/-- `PublishCommand`: the message that is published, if the broker is connected. -/
def publishCommand (host : Host) (mqtt : MQTTConnection) (category command : String)
    (commandData : List (String × JsonElement)) : Option JsonElement :=
  if mqtt.isConnected then
    some (.object [(category, .object (commandData ++ [
      ("command", .string command),
      ("sequence_id", .string "0"),
      ("timestamp", jsonNumber (toUnixTimeMilliseconds host.utcNow))]))])
  else none

/-- The slot of a filament of the project. One that the plate does not use is marked. -/
def amsMappingEntry (slot : Option AMSSlot) : JsonElement :=
  match slot with
  | some slot =>
    .object [("ams_id", jsonNumber slot.amsId.toInt), ("slot_id", jsonNumber slot.slotId.toInt)]
  | none => .object [("ams_id", jsonNumber 255), ("slot_id", jsonNumber 255)]

/-- The properties of the command that choose the filaments. -/
def amsProperties (options : BBLPrintOptions) : List (String × JsonElement) :=
  match options.amsMapping with
  | some mapping =>
    if mapping.entries = [] then [("use_ams", .boolean false)]
    else [
      ("ams_mapping2", .array ((List.range options.projectFilamentCount).map fun i =>
        amsMappingEntry (mapping.tryGetValue (.ofNat (i + 1))))),
      ("use_ams", .boolean true)]
  | none => [("use_ams", .boolean false)]

/-- `PublishPrint`. A `subtask_id` is not sent. -/
def publishPrint (culture : Culture) (host : Host) (mqtt : MQTTConnection)
    (options : BBLPrintOptions) : Option JsonElement :=
  publishCommand host mqtt "print" "project_file" ([
    ("auto_bed_leveling", jsonNumber 2),
    ("bed_leveling", .boolean options.bedLeveling),
    ("cfg", .string "1"),
    ("extrude_cali_flag", jsonNumber 2),
    ("flow_cali", .boolean true),
    ("nozzle_mapping", .array []),
    ("nozzle_offset_cali", jsonNumber 0),
    ("param", .string ("Metadata/plate_" ++ culture.formatInt32 options.plateIndex ++ ".gcode")),
    ("plate", jsonNumber options.plateIndex.toInt),
    ("subtask_name", .string options.subTaskId),
    ("task_type", jsonNumber 1),
    ("timelapse", .boolean options.timelapse),
    ("toolhead_offset_cali", .boolean false),
    ("url", .string ("ftp://" ++ options.fileName))] ++ amsProperties options)

/-- `TryGetAMSIdFromSN`, where a missing unit raises. -/
def resolveSlot (mqtt : MQTTConnection) (kvp : Int32 × SpoolLocation) :
    Except Fault (Int32 × AMSSlot) :=
  match kvp.2.muid with
  | none => .error .argument
  | some sn =>
    match mqtt.snToAMSID.tryGetValue sn with
    | some amsId => .ok (kvp.1, ⟨amsId, kvp.2.slot⟩)
    | none => .error .invalidOperation

/-- The filament mapping in terms of the printer's own units. -/
def resolveMapping (mqtt : MQTTConnection) (options : PrintOptions) :
    Except Fault (Option (Dictionary Int32 AMSSlot)) :=
  match options.materialMap with
  | some map =>
    if map.object.entries = [] then .ok none
    else do
      let slots ← map.object.entries.mapM (resolveSlot mqtt)
      return some (slots.foldl (fun d kv => d.set kv.1 kv.2) ∅)
  | none => .ok none

/-- `(int)Time.TotalMinutes`. -/
def wholeMinutes (t : TimeSpan) : Int32 :=
  ((Double.ofInt t.ticks.toInt).div (.ofInt (60 * TimeSpan.ticksPerSecond))).toInt32

/-- `TimeSpan.FromMinutes(long)` on a value that is an `int`, which does not overflow. -/
def fromWholeMinutes (minutes : Int32) : TimeSpan :=
  ⟨.ofInt (minutes.toInt * (60 * TimeSpan.ticksPerSecond))⟩

/-- `jobIdWithInfo`. -/
def jobIdWithInfo (culture : Culture) (localPath : String) (thumbnailSmallHash : NetString)
    (localPrint : LocalPrintJob) (options : PrintOptions) : PrefixedFixedLengthKeyValueMessage :=
  let info : PrefixedFixedLengthKeyValueMessage := ⟨"Lib3Dp", []⟩
  let info := info.add "Path" (some localPath)
  let info := info.add "Hash" localPrint.file.hashSHA256
  let info := info.add "Minutes" (some (culture.formatInt32 (wholeMinutes localPrint.time)))
  let info := info.add "Grams" (some (culture.formatInt32 localPrint.totalGramsUsed))
  let info := if thumbnailSmallHash.isSome then info.add "ThumbnailSmallHash" thumbnailSmallHash
    else info
  if options.customID.isSome then info.add "CustomID" options.customID else info

/-- `PrintLocal_Internal`. The hash of the thumbnail is what reading the 3MF file gave, if it could
be read. -/
def printLocal (culture : Culture) (host : Host) (mqtt : MQTTConnection)
    (thumbnailSmallHash : NetString) (localPrint : LocalPrintJob) (options : PrintOptions) :
    Except Fault (Option JsonElement) := do
  let amsMapping ← resolveMapping mqtt options
  match ← tryParseAs3MFHandle localPrint.file with
  | none => throw .invalidOperation
  | some localPath =>
    return publishPrint culture host mqtt {
      plateIndex := 1
      fileName := localPath
      subTaskId :=
        (jobIdWithInfo culture localPath thumbnailSmallHash localPrint options).toString culture
      projectFilamentCount := (options.materialMap.map (·.object.entries.length)).getD 1
      bedLeveling := options.levelBed
      flowCalibration := options.flowCalibration
      vibrationCalibration := options.vibrationCalibration
      layerInspect := options.inspectFirstLayer
      timelapse := false
      amsMapping := amsMapping }

/-! ### Reading a report -/

/-- The extension method `TryGetInt32(out value, name)`. -/
def tryGetInt32 (e : JsonElement) (name : String) : Except Fault (Option Int32) := do
  match ← e.tryGetProperty name with
  | some (.number n) => return n.int32
  | _ => return none

/-- The extension method `TryGetString(out value, name)`. -/
def tryGetString (e : JsonElement) (name : String) : Except Fault (Option String) := do
  match ← e.tryGetProperty name with
  | some p =>
    match ← p.getString with
    | none => throw .nullReference
    | some s => return if trim s = "" then none else some (trim s)
  | none => return none

/-- The conversion `(long)`, which saturates. -/
def toInt64 : Double → ℤ
  | .finite q => max (-2 ^ 63) (min (2 ^ 63 - 1) (Double.truncate q))
  | .infinite negative => if negative then -2 ^ 63 else 2 ^ 63 - 1
  | .nan => 0

/-- `TimeSpan.FromSeconds(long)`. -/
def fromSeconds (seconds : ℤ) : Except Fault TimeSpan :=
  let ticks := seconds * TimeSpan.ticksPerSecond
  if -2 ^ 63 ≤ ticks ∧ ticks < 2 ^ 63 then .ok ⟨.ofInt ticks⟩ else .error .argumentOutOfRange

/-- `TryCalculateTotalTime`. -/
def tryCalculateTotalTime (secondsRemaining percentCompleted : Double) :
    Except Fault (Option TimeSpan) :=
  let percentRemaining := ((Double.ofInt 100).sub percentCompleted).div (.ofInt 100)
  if !percentCompleted.lt (.ofInt 100) || percentCompleted.lt (.ofInt 0) ||
    !(Double.ofInt 0).lt percentRemaining then .ok none
  else some <$> fromSeconds (toInt64 (secondsRemaining.div percentRemaining))

/-- The name of a print stage. -/
def subStage (stage : Int32) : NetString :=
  match stage.toInt with
  | 29 => some "Cooling Chamber"
  | 11 => some "Identifying Build Plate"
  | 13 => some "Homing Toolhead"
  | 4 => some "Changing Filament"
  | _ => none

/-- `data.Changes.UpdateCurrentJob(configure)`. -/
def updateCurrentJob (configure : PrintJobUpdate → PrintJobUpdate) :
    EStateM Fault MachineStateUpdate Unit :=
  modify (·.updateCurrentJob configure)

/-- `int.Parse`. -/
def parseInt32 (host : Host) (s : String) : Except Fault Int32 :=
  match host.parseInt32 s with
  | some n => .ok n
  | none => .error .format

/-- The part of `OnMessagePrintJob` that unpacks what was packed when the print was started. -/
def readMetadata (host : Host) (serialNumber : NetString)
    (metadata : PrefixedFixedLengthKeyValueMessage) : EStateM Fault MachineStateUpdate Unit := do
  let totalTime ← ofExcept (fromWholeMinutes <$> (metadata.getValue "Minutes" >>= parseInt32 host))
  let path ← ofExcept (metadata.getValue "Path")
  let hash ← ofExcept (metadata.getValue "Hash")
  let gramsUsed ← ofExcept (metadata.getValue "Grams" >>= parseInt32 host)
  updateCurrentJob fun job => { job with
    totalTime := job.totalTime.set totalTime
    localPath := job.localPath.set (some path)
    totalMaterialUsage := job.totalMaterialUsage.set (some gramsUsed)
    file := job.file.set (some (handleAs3MF serialNumber path (some hash))) }
  (metadata.tryGetValue "ThumbnailSmallHash").forM fun thumbnailHash =>
    updateCurrentJob fun job => { job with
      thumbnail :=
        job.thumbnail.set (some (handleAs3MFThumbnail serialNumber path (some thumbnailHash))) }
  (metadata.tryGetValue "CustomID").forM fun customID =>
    updateCurrentJob fun job => { job with customID := job.customID.set (some customID) }

/-- The end of `OnMessagePrintJob`: the total time by extrapolation. -/
def calculateTotalTime : EStateM Fault MachineStateUpdate Unit := do
  match (← get).currentJob.value with
  | some job =>
    if job.percentageComplete.isSet && job.remainingTime.isSet then
      match ← ofExcept (tryCalculateTotalTime job.remainingTime.value.totalSeconds
        (.ofInt job.percentageComplete.value.toInt)) with
      | some calculated => updateCurrentJob fun job =>
          { job with totalTime := job.totalTime.set calculated }
      | none => pure ()
    else pure ()
  | none => pure ()

/-- `OnMessagePrintJob`. What it has written when it raises stays in the update. -/
def onMessagePrintJob (culture : Culture) (host : Host) (serialNumber : NetString)
    (printJSON : JsonElement) : EStateM Fault MachineStateUpdate Unit := do
  (← ofExcept (tryGetInt32 printJSON "mc_percent")).forM fun percent =>
    updateCurrentJob fun job =>
      { job with percentageComplete := job.percentageComplete.set percent }
  (← ofExcept (tryGetInt32 printJSON "stg_cur")).forM fun stage =>
    updateCurrentJob fun job => { job with subStage := job.subStage.set (subStage stage) }
  (← ofExcept (tryGetString printJSON "subtask_name")).forM fun name =>
    let processedName := if isNullOrWhiteSpace (some name) then "None" else name
    updateCurrentJob fun job => { job with name := job.name.set (some processedName) }
  (← ofExcept (tryGetInt32 printJSON "mc_remaining_time")).forM fun seconds =>
    updateCurrentJob fun job =>
      { job with remainingTime := job.remainingTime.set (.fromWholeSeconds seconds) }
  (← ofExcept (tryGetInt32 printJSON "spd_mag")).forM fun speed =>
    updateCurrentJob fun job =>
      { job with printSpeedPercent := job.printSpeedPercent.set (some speed) }
  (← ofExcept (tryGetString printJSON "subtask_id")).forM fun metadataID =>
    (PrefixedFixedLengthKeyValueMessage.tryParse host culture (some metadataID) "Lib3Dp").forM
      (readMetadata host serialNumber)
  calculateTotalTime

end BambuLab

end Connect3Dp
