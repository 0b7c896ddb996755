import Connect3Dp.Connectors.AMSMapping
import Connect3Dp.Runtime.Hex

/-!
# The messages of a Bambu Lab printer

`onMessage` reads a message of the printer section by section into a `BBLMQTTData`, whose update
the connection commits. A section that raises is logged and raises again, so a message that one
section rejects is dropped as a whole.
-/

namespace Connect3Dp

/-! ### Colours -/

/-- The white space that a number may stand between. -/
def isNumberWhite (c : Char) : Bool := (0x09 ≤ c.toNat && c.toNat ≤ 0x0d) || c.toNat == 0x20

/-- `byte.TryParse` under `NumberStyles.HexNumber`, for two characters. -/
def parseHexByte (cs : List Char) : Option UInt8 :=
  let digits := cs.dropWhile isNumberWhite
  let rest := (digits.dropWhile fun c => (hexCharValue c).isSome).dropWhile isNumberWhite
  match digits.takeWhile fun c => (hexCharValue c).isSome with
  | [] => none
  | ds =>
    if rest.all (· == .ofNat 0) then
      some (.ofNat (ds.foldl (fun n c => 16 * n + (hexCharValue c).getD 0) 0))
    else none

/-- The constructor `MaterialColor(name, hexColor)`. -/
def MaterialColor.ofHex (hexColor : String) : Except Fault MaterialColor := do
  if isNullOrWhiteSpace (some hexColor) then throw .argument
  let hex := match hexColor.toList with
    | '#' :: hex => hex
    | hex => hex
  let hex := if utf16Length hex = 8 then hex.take 6 else hex
  if utf16Length hex ≠ 6 then throw .argument
  match parseHexByte (hex.take 2), parseHexByte ((hex.drop 2).take 2),
      parseHexByte ((hex.drop 4).take 2) with
  | some r, some g, some b => return ⟨r, g, b⟩
  | _, _, _ => throw .argument

namespace BambuLab

/-! ### Models -/

/-- The ranges of a model's heating elements. -/
def heatingConstraints (bed nozzle : HeatingConstraints) (chamber : Option HeatingConstraints) :
    String → Option HeatingConstraints
  | "Bed" => some bed
  | "Nozzle" => some nozzle
  | "Chamber" => chamber
  | _ => none

def getHeatingConstraintsFromElementNameModelX1C : String → Option HeatingConstraints :=
  heatingConstraints ⟨20, 110⟩ ⟨20, 300⟩ none

def getHeatingConstraintsFromElementNameModelX1E : String → Option HeatingConstraints :=
  heatingConstraints ⟨20, 120⟩ ⟨20, 320⟩ (some ⟨40, 60⟩)

def getHeatingConstraintsFromElementNameModelP1Series : String → Option HeatingConstraints :=
  heatingConstraints ⟨20, 100⟩ ⟨20, 300⟩ none

def getHeatingConstraintsFromElementNameModelA1Series : String → Option HeatingConstraints :=
  heatingConstraints ⟨20, 100⟩ ⟨20, 300⟩ none

def getHeatingConstraintsFromElementNameModelP2S : String → Option HeatingConstraints :=
  heatingConstraints ⟨20, 110⟩ ⟨20, 300⟩ none

def getHeatingConstraintsFromElementNameModelH2Series : String → Option HeatingConstraints :=
  heatingConstraints ⟨20, 120⟩ ⟨20, 350⟩ (some ⟨40, 65⟩)

def getHeatingConstraintsFromElementName (elementName : String) :
    NetString → Option HeatingConstraints
  | some "X1C" => getHeatingConstraintsFromElementNameModelX1C elementName
  | some "X1E" => getHeatingConstraintsFromElementNameModelX1E elementName
  | some "P1P" => getHeatingConstraintsFromElementNameModelP1Series elementName
  | some "P1S" => getHeatingConstraintsFromElementNameModelP1Series elementName
  | some "P2S" => getHeatingConstraintsFromElementNameModelP2S elementName
  | some "A1" => getHeatingConstraintsFromElementNameModelA1Series elementName
  | some "A1 Mini" => getHeatingConstraintsFromElementNameModelA1Series elementName
  | some "H2D" => getHeatingConstraintsFromElementNameModelH2Series elementName
  | _ => none

/-- `GetModelFromSerialNumber`, by the first three characters. -/
def getModelFromSerialNumber (serialNumber : String) : Except Fault String :=
  if utf16Length serialNumber.toList < 3 then .error .argumentOutOfRange
  else
    match String.ofList (serialNumber.toList.take 3) with
    | "00M" => .ok "X1C"
    | "03W" => .ok "X1E"
    | "01S" => .ok "P1P"
    | "01P" => .ok "P1S"
    | "22E" => .ok "P2S"
    | "039" => .ok "A1"
    | "030" => .ok "A1 Mini"
    | "094" => .ok "H2D"
    | _ => .error .other

/-- `GetAMSModelFromSN`, by the first three characters. -/
def getAMSModelFromSN (amsSN : String) : Except Fault String :=
  if utf16Length amsSN.toList < 3 then .error .argumentOutOfRange
  else
    match String.ofList (amsSN.toList.take 3) with
    | "006" => .ok "AMS"
    | "03C" => .ok "AMS Lite"
    | "19C" => .ok "AMS 2 Pro"
    | "19F" => .ok "AMS HT"
    | _ => .error .other

def getAMSHeatingConstraintsFromModel : String → Except Fault (Option HeatingConstraints)
  | "AMS 2 Pro" => .ok (some ⟨45, 65⟩)
  | "AMS HT" => .ok (some ⟨45, 85⟩)
  | "AMS" => .ok none
  | "AMS Lite" => .ok none
  | _ => .error .other

def getAMSCapacityFromModel : String → Except Fault Int32
  | "AMS" => .ok 4
  | "AMS 2 Pro" => .ok 4
  | "AMS Lite" => .ok 4
  | "AMS HT" => .ok 1
  | _ => .error .other

open MUCapabilities in
def getAMSFeaturesFromModel : String → Except Fault MUCapabilities
  | "AMS" => .ok (automaticFeeding ||| humidity ||| temperature)
  | "AMS HT" => .ok (automaticFeeding ||| humidity ||| temperature ||| heating ||| heatingCanSpin)
  | "AMS 2 Pro" =>
    .ok (automaticFeeding ||| humidity ||| temperature ||| heating ||| heatingCanSpin)
  | "AMS Lite" => .ok automaticFeeding
  | _ => .error .other

/-! ### What a message is read into -/

structure BBLMQTTData where
  changes : MachineStateUpdate
  firmwareVersion : Option BBLFirmwareVersion
  usesUnsupportedSecurity : Option Bool
  updateAMSMapping : Option Bool
  hasUSBOrSDCard : Option Bool
  activeHMSIds : Option (HashSet String)
  deriving Inhabited

namespace BBLMQTTData

def setChanges (data : BBLMQTTData) (changes : MachineStateUpdate) : BBLMQTTData :=
  { data with changes }

/-- A method of `data.Changes`. -/
def change (f : MachineStateUpdate → MachineStateUpdate) : EStateM Fault BBLMQTTData Unit :=
  modify fun data => data.setChanges (f data.changes)

/-- `data.Changes.SetNotifications(message)`. -/
def notify (host : Host) (message : MachineMessage) : EStateM Fault BBLMQTTData Unit := do
  let data ← get
  set (data.setChanges (← ofExcept (data.changes.setNotifications host.utcNow message)))

end BBLMQTTData

/-- What the sections read besides the message. -/
structure MessageContext where
  culture : Culture
  /-- `ToLower()` -/
  toLower : String → String
  host : Host
  serialNumber : NetString
  model : NetString
  amsIDToSN : Dictionary Int32 NetString

/-- `TryGetPropertyChain`. -/
def tryGetPropertyChain (e : JsonElement) : List String → Except Fault (Option JsonElement)
  | [] => .ok (some e)
  | name :: propertyPath => do
    match ← e.tryGetProperty name with
    | some result => tryGetPropertyChain result propertyPath
    | none => return none

/-- The extension method `TryGetBoolean(out value, name)`. -/
def tryGetBoolean (e : JsonElement) (name : String) : Except Fault (Option Bool) := do
  match ← e.tryGetProperty name with
  | some (.boolean value) => return some value
  | _ => return none

/-- The extension method `TryGetDouble(out value, name)`. -/
def tryGetDouble (e : JsonElement) (name : String) : Except Fault (Option Double) := do
  match ← e.tryGetProperty name with
  | some (.number n) => return some n.double
  | _ => return none

/-- `e.TryGetProperty(name, out var p) && p.GetString()!.Equals(text, OrdinalIgnoreCase)`. -/
def propertyEquals (e : JsonElement) (name text : String) : Except Fault Bool := do
  match ← e.tryGetProperty name with
  | none => return false
  | some p =>
    match ← p.getString with
    | none => throw .nullReference
    | some s => return equalsIgnoreCase s text

open BBLMQTTData

/-! ### Security, storage and status -/

def onMessagePrintMQTTSecurity (printJSON : JsonElement) : EStateM Fault BBLMQTTData Unit := do
  let isResultFailed ← ofExcept (propertyEquals printJSON "result" "failed")
  let isReasonMsgSecurityFailed ←
    ofExcept (propertyEquals printJSON "reason" "mqtt message verify failed")
  if isResultFailed && isReasonMsgSecurityFailed then
    modify fun data => { data with usesUnsupportedSecurity := some true }

def onMessagePrintSDCard (printJSON : JsonElement) : EStateM Fault BBLMQTTData Unit := do
  (← ofExcept (tryGetBoolean printJSON "sdcard")).forM fun sdcard =>
    modify fun data => { data with hasUSBOrSDCard := some sdcard }

def hmsPrefix : String := "bbl.hms."

def ecode (attr code : Int64) : String := formatInt64X8 attr ++ "_" ++ formatInt64X8 code

def hmsId (attr code : Int64) : String := hmsPrefix ++ ecode attr code

def hmsMessage (attr code : Int64) : MachineMessage where
  id := some (hmsId attr code)
  title := some "HMS Error Detected"
  body := some ("HMS error code: " ++ ecode attr code)
  severity := .warning
  manualResolve := 0
  autoResolve := default

/-- The numbers of an entry, unless one of them is missing. -/
def readHMSEntry (entry : JsonElement) : Except Fault (Option (Int64 × Int64)) := do
  match ← entry.tryGetProperty "attr" with
  | none => return none
  | some attrEl =>
    match ← entry.tryGetProperty "code" with
    | none => return none
    | some codeEl => return some (← attrEl.getInt64, ← codeEl.getInt64)

/-- The body of the loop of `OnMessagePrintHMS`. -/
def onHMSEntry (host : Host) (entry : JsonElement) : EStateM Fault BBLMQTTData Unit := do
  match ← ofExcept (readHMSEntry entry) with
  | none => pure ()
  | some (attr, code) =>
    modify fun data =>
      { data with activeHMSIds := data.activeHMSIds.map (·.add (hmsId attr code)) }
    notify host (hmsMessage attr code)

def onMessagePrintHMS (host : Host) (printJSON : JsonElement) :
    EStateM Fault BBLMQTTData Unit := do
  (← ofExcept (printJSON.tryGetProperty "hms")).forM fun hmsArray => do
    modify fun data => { data with activeHMSIds := some ∅ }
    forM (← ofExcept hmsArray.enumerateArray) (onHMSEntry host)

def gcodeStatus : String → Except Fault MachineStatus
  | "idle" => .ok .idle
  | "running" => .ok .printing
  -- The 3MF file is being processed.
  | "prepare" => .ok .printing
  | "pause" => .ok .paused
  | "finish" => .ok .printed
  | "failed" => .ok .canceled
  | _ => .error .other

def printErrorId : String := "bbl.print_error"

def printErrorMessage (printErrorHex : String) : MachineMessage where
  id := some printErrorId
  title := some "Print Error Detected"
  body := some ("Print error code: " ++ printErrorHex)
  severity := .error
  manualResolve := 0
  autoResolve := ⟨none, none, some true⟩

/-- The part of `OnMessagePrintGcodeState` for an error, which an active HMS entry may cover. -/
def onPrintError (host : Host) (printError : Int32) : EStateM Fault BBLMQTTData Unit := do
  if printError ≠ 0 then
    -- Sometimes a machine reports that it is running all the same.
    if (← get).changes.status.value = .printing then
      change (·.setStatus .paused)
    let printErrorHex := formatInt32X8 printError
    let coveredByHMS := (← get).activeHMSIds.any fun ids =>
      ids.elems.any fun id => containsText id printErrorHex
    if !coveredByHMS then
      notify host (printErrorMessage printErrorHex)
  else
    change (·.removeNotification printErrorId)

def onMessagePrintGcodeState (context : MessageContext) (printJSON : JsonElement) :
    EStateM Fault BBLMQTTData Unit := do
  (← ofExcept (tryGetString printJSON "gcode_state")).forM fun gcodeState => do
    let status ← ofExcept (gcodeStatus (context.toLower gcodeState))
    change (·.setStatus status)
  (← ofExcept (tryGetInt32 printJSON "print_error")).forM (onPrintError context.host)

/-! ### Temperatures and the air duct -/

/-- The part of `OnMessageTemps` for one heating element. -/
def onElementTemps (context : MessageContext) (printJSON : JsonElement)
    (targetTemper temper elementName : String) : EStateM Fault BBLMQTTData Unit := do
  match ← ofExcept (tryGetDouble printJSON targetTemper) with
  | none => pure ()
  | some target =>
    match ← ofExcept (tryGetDouble printJSON temper) with
    | none => pure ()
    | some temp =>
      (getHeatingConstraintsFromElementName elementName context.model).forM fun constraints =>
        change (·.setHeatingElements elementName ⟨temp.round, target.round, constraints⟩)

def onMessageTemps (context : MessageContext) (printJSON : JsonElement) :
    EStateM Fault BBLMQTTData Unit := do
  onElementTemps context printJSON "bed_target_temper" "bed_temper" "Bed"
  onElementTemps context printJSON "nozzle_target_temper" "nozzle_temper" "Nozzle"
  onElementTemps context printJSON "chamber_target_temper" "chamber_temper" "Chamber"

def onMessagePrintDevices (devicesJSON : JsonElement) : EStateM Fault BBLMQTTData Unit := do
  (← ofExcept (tryGetPropertyChain devicesJSON ["airduct", "modeCur"])).forM fun modeCurElem => do
    let modeCur ← ofExcept modeCurElem.getInt32
    change fun u =>
      { u with airDuctMode := u.airDuctMode.set (if modeCur = 1 then .heating else .cooling) }

/-! ### Materials -/

/-- `UpdateMaterialUnits(amsSN, ams => ams.UpdateTrays(trayId, configure))`. -/
def updateTray (amsSN : String) (trayId : Int32) (configure : SpoolUpdate → SpoolUpdate) :
    EStateM Fault BBLMQTTData Unit :=
  change (·.updateMaterialUnits amsSN (·.updateTrays trayId configure))

/-- `tray.UpdateMaterial(configure)`. -/
def updateMaterial (configure : MaterialUpdate → MaterialUpdate) (tray : SpoolUpdate) :
    SpoolUpdate :=
  { tray with material := tray.material.update configure }

/-- The body of the loop over the trays of a unit. -/
def onTray (host : Host) (amsSN : String) (trayElem : JsonElement) :
    EStateM Fault BBLMQTTData Unit := do
  match (← ofExcept (tryGetString trayElem "id")).bind host.parseInt32 with
  | none => pure ()
  | some trayId =>
    updateTray amsSN trayId fun tray =>
      { tray with gramsMaximum := tray.gramsMaximum.set (some 1000) }
    (← ofExcept (tryGetString trayElem "tray_type")).forM fun trayType =>
      updateTray amsSN trayId
        (updateMaterial fun m => { m with name := m.name.set (some trayType) })
    (← ofExcept (tryGetString trayElem "tray_color")).forM fun trayColor => do
      let color ← ofExcept (MaterialColor.ofHex trayColor)
      updateTray amsSN trayId (updateMaterial fun m => { m with color := m.color.set color })
    (← ofExcept (tryGetString trayElem "tray_info_idx")).forM fun trayInfoIdx =>
      updateTray amsSN trayId
        (updateMaterial fun m => { m with fProfileIDX := m.fProfileIDX.set (some trayInfoIdx) })

/-- `amsElem.TryGetString(out var s, name) && TryParse(s, out var value)`. -/
def tryGetParsed {α : Type} (parse : String → Option α) (e : JsonElement) (name : String) :
    Except Fault (Option α) := do
  return (← tryGetString e name).bind parse

/-- The part of `OnMessagePrintMaterials` for a unit whose serial number is known. -/
def onUnit (host : Host) (amsSN : String) (amsElem : JsonElement) :
    EStateM Fault BBLMQTTData Unit := do
  let amsModel ← ofExcept (getAMSModelFromSN amsSN)
  let capacity ← ofExcept (getAMSCapacityFromModel amsModel)
  let capabilities ← ofExcept (getAMSFeaturesFromModel amsModel)
  let constraints ← ofExcept (getAMSHeatingConstraintsFromModel amsModel)
  change (·.updateMaterialUnits amsSN fun ams => { ams with
    capacity := ams.capacity.set capacity
    model := ams.model.set (some amsModel)
    capabilities := ams.capabilities.set capabilities
    heatingConstraints := ams.heatingConstraints.set constraints })
  (← ofExcept (amsElem.tryGetProperty "tray")).forM fun traysElem => do
    forM (← ofExcept traysElem.enumerateArray) (onTray host amsSN)
  (← ofExcept (tryGetParsed host.parseDouble amsElem "temp")).forM fun tempC =>
    change (·.updateMaterialUnits amsSN fun ams =>
      { ams with temperatureC := ams.temperatureC.set (some tempC) })
  (← ofExcept (tryGetParsed host.parseInt32 amsElem "humidity_raw")).forM fun humidityPercent =>
    change (·.updateMaterialUnits amsSN fun ams =>
      { ams with humidityPercent := ams.humidityPercent.set (some (.ofInt humidityPercent.toInt)) })
  (← ofExcept (tryGetInt32 amsElem "dry_time")).forM fun dryTime => do
    if 0 < dryTime then
      (← ofExcept (tryGetParsed host.parseDouble amsElem "temp")).forM fun tempC =>
        change (·.updateMaterialUnits amsSN fun ams =>
          { ams with heatingJob := ams.heatingJob.set (some ⟨tempC, fromWholeMinutes dryTime⟩) })
    else
      change (·.updateMaterialUnits amsSN fun ams =>
        { ams with heatingJob := ams.heatingJob.set none })

/-- The body of the loop over the units. -/
def onAMS (context : MessageContext) (amsElem : JsonElement) : EStateM Fault BBLMQTTData Unit := do
  match ← ofExcept (tryGetString amsElem "id") with
  | none => pure ()
  | some amsId =>
    match context.amsIDToSN.tryGetValue (← ofExcept (parseInt32 context.host amsId)) with
    -- The mapping is missing and will be requested.
    | none => modify fun data => { data with updateAMSMapping := some true }
    | some none => throw .nullReference
    | some (some amsSN) => onUnit context.host amsSN amsElem

def onMessagePrintMaterials (context : MessageContext) (printJSON : JsonElement) :
    EStateM Fault BBLMQTTData Unit := do
  (← ofExcept (tryGetPropertyChain printJSON ["ams", "ams"])).forM fun amsArrayElem => do
    forM (← ofExcept amsArrayElem.enumerateArray) (onAMS context)

/-! ### Nozzles and extruders -/

/-- `data.Changes.UpdateNozzles(number, config => config.SetDiameter(diameter))`. -/
def setNozzleDiameter (number : Int32) (diameter : Double) : EStateM Fault BBLMQTTData Unit :=
  change (·.updateNozzles number fun n => { n with diameter := n.diameter.set diameter })

/-- `data.Changes.UpdateExtruders(number, configure)`. -/
def updateExtruder (number : Int32) (configure : MachineExtruderUpdate → MachineExtruderUpdate) :
    EStateM Fault BBLMQTTData Unit :=
  change (·.updateExtruders number configure)

def processLegacyNozzleData (host : Host) (printJSON : JsonElement) :
    EStateM Fault BBLMQTTData Unit := do
  (← ofExcept (tryGetParsed host.parseDouble printJSON "nozzle_diameter")).forM
    (setNozzleDiameter 0)
  (← ofExcept (tryGetDouble printJSON "nozzle_temper")).forM fun nozzleTemper =>
    updateExtruder 0 fun e => { e with tempC := e.tempC.set nozzleTemper }
  (← ofExcept (tryGetDouble printJSON "nozzle_target_temper")).forM fun nozzleTargetTemper =>
    updateExtruder 0 fun e => { e with targetTempC := e.targetTempC.set (some nozzleTargetTemper) }

/-- `BitUtils.GetBitsFromNumb`, for fewer than 31 bits. -/
def getBitsFromNumb (value : Int64) (start count : ℕ) : Int64 :=
  (value >>> .ofNat start) &&& .ofNat (2 ^ count - 1)

/-- `ParseTrayAndAMSInt32`: the AMS id and the number of the tray. -/
def parseTrayAndAMSInt32 (value : UInt16) : UInt16 × UInt16 :=
  ((getBitsFromNumb (.ofNat value.toNat) 8 8).toUInt64.toUInt16,
    (getBitsFromNumb (.ofNat value.toNat) 0 8).toUInt64.toUInt16)

def updateExtruderSpool (context : MessageContext) (extruderNumber : Int32) (trayId : UInt16) :
    EStateM Fault BBLMQTTData Unit :=
  if trayId = 255 ∨ trayId = 65535 then
    updateExtruder extruderNumber fun e => { e with loadedSpool := e.loadedSpool.remove }
  else if trayId = 254 then
    updateExtruder extruderNumber fun e =>
      { e with loadedSpool := e.loadedSpool.set (some ⟨some "External", 0⟩) }
  else
    let (amsID, trayN) := parseTrayAndAMSInt32 trayId
    match context.amsIDToSN.tryGetValue (.ofNat amsID.toNat) with
    | some amsSN => updateExtruder extruderNumber fun e =>
        { e with loadedSpool := e.loadedSpool.set (some ⟨amsSN, .ofNat trayN.toNat⟩) }
    | none => modify fun data => { data with updateAMSMapping := some true }

def processExtruderElement (context : MessageContext) (extruder : JsonElement) (number : Int32) :
    EStateM Fault BBLMQTTData Unit := do
  (getHeatingConstraintsFromElementName "Nozzle" context.model).forM fun constraints =>
    updateExtruder number fun e =>
      { e with heatingConstraint := e.heatingConstraint.set constraints }
  (← ofExcept (tryGetInt32 extruder "temp")).forM fun temp => do
    let currentTemp := getBitsFromNumb temp.toInt64 0 16
    let targetTemp := getBitsFromNumb temp.toInt64 16 16
    updateExtruder number fun e => { e with
      tempC := e.tempC.set (.ofInt currentTemp.toInt)
      targetTempC := e.targetTempC.set (some (.ofInt targetTemp.toInt)) }
  (← ofExcept (tryGetInt32 extruder "snow")).forM fun snow =>
    updateExtruderSpool context number snow.toUInt32.toUInt16
  (← ofExcept (tryGetInt32 extruder "hnow")).forM fun hotendIdUsedNow =>
    updateExtruder number fun e =>
      { e with nozzleNumber := e.nozzleNumber.set (some hotendIdUsedNow) }

/-- The body of the loop over the nozzles. -/
def onNozzle (nozzle : JsonElement) : EStateM Fault BBLMQTTData Unit := do
  match ← ofExcept (tryGetInt32 nozzle "id") with
  | none => pure ()
  | some number =>
    (← ofExcept (tryGetDouble nozzle "diameter")).forM (setNozzleDiameter number)

/-- The body of the loop over the extruders. -/
def onExtruder (context : MessageContext) (extruder : JsonElement) :
    EStateM Fault BBLMQTTData Unit := do
  (← ofExcept (tryGetInt32 extruder "id")).forM (processExtruderElement context extruder)

def processAdvancedNozzleData (context : MessageContext) (printJSON : JsonElement) :
    EStateM Fault BBLMQTTData Unit := do
  (← ofExcept (tryGetPropertyChain printJSON ["device", "nozzle", "info"])).forM fun nozzles => do
    forM (← ofExcept nozzles.enumerateArray) onNozzle
  (← ofExcept (tryGetPropertyChain printJSON ["device", "extruder", "info"])).forM
    fun extruders => do forM (← ofExcept extruders.enumerateArray) (onExtruder context)

def onMessagePrintNozzles (context : MessageContext) (printJSON : JsonElement) :
    EStateM Fault BBLMQTTData Unit := do
  processLegacyNozzleData context.host printJSON
  processAdvancedNozzleData context printJSON

/-! ### Lights -/

/-- The body of the loop over the lights. Only the one in the chamber is kept. -/
def onLightFixture (lightFixture : JsonElement) : EStateM Fault BBLMQTTData Unit := do
  match ← ofExcept (tryGetString lightFixture "node") with
  | none => pure ()
  | some name =>
    (← ofExcept (tryGetString lightFixture "mode")).forM fun mode =>
      if name = "chamber_light" then change (·.setLights "Chamber" (mode ≠ "off")) else pure ()

def onMessagePrintLighting (printJSON : JsonElement) : EStateM Fault BBLMQTTData Unit := do
  (← ofExcept (printJSON.tryGetProperty "lights_report")).forM fun lightsReport => do
    forM (← ofExcept lightsReport.enumerateArray) onLightFixture

/-! ### The message -/

/-- The sections of `OnMessage` that read the property `print`. -/
def onMessagePrint (context : MessageContext) (printJSON : JsonElement) :
    EStateM Fault BBLMQTTData Unit := do
  onMessagePrintMQTTSecurity printJSON
  onMessagePrintSDCard printJSON
  onMessagePrintHMS context.host printJSON
  onMessagePrintGcodeState context printJSON
  onField changes setChanges
    (onMessagePrintJob context.culture context.host context.serialNumber printJSON)
  onMessageTemps context printJSON
  (← ofExcept (printJSON.tryGetProperty "device")).forM onMessagePrintDevices
  onMessagePrintMaterials context printJSON
  onMessagePrintNozzles context printJSON
  onMessagePrintLighting printJSON

/-- What the property `print` of a message is read into, if no section raises. -/
def readPrint (context : MessageContext) (root : JsonElement) : Except Fault BBLMQTTData := do
  match ← root.tryGetProperty "print" with
  | none => return default
  | some printJSON =>
    match (onMessagePrint context printJSON).run default with
    | .ok _ data => return data
    | .error f _ => throw f

/-- `OnMessage`, up to the event: what a message is read into. -/
def onMessage (culture : Culture) (toLower : String → String) (host : Host) (model : NetString)
    (root : JsonElement) : EStateM Fault BBLMQTTConnection BBLMQTTData := do
  let mqtt ← get
  let context := ⟨culture, toLower, host, mqtt.serialNumber, model, mqtt.amsIDToSN⟩
  let data ← ofExcept (readPrint context root)
  match ← ofExcept (root.tryGetProperty "info") with
  | none => return data
  | some infoJSON =>
    let firmwareVersion ← onMessageInfoVersion host infoJSON
    return { data with firmwareVersion }

end BambuLab

end Connect3Dp
