import Connect3Dp.Connectors.BambuLabMessages
import Connect3Dp.Connectors.Outcome
import Connect3Dp.Runtime.Transition

/-!
# The Bambu Lab connection

`mqttOnData` commits what a message was read into, together with what the connection derives from
its own fields and from the state of the machine. `BBLMachineConnection.Step` is what can happen to
a connection: the events of its MQTT connection, the commits that its other parts, the base class
and the camera coordinator make, and everything that leaves the state of the machine alone.
-/

namespace Connect3Dp

/-- `BBLMachineConnection`, without its FTP connection. -/
structure BBLMachineConnection (Cron : Type) where
  machine : MachineConnection Cron
  mqtt : BambuLab.BBLMQTTConnection
  /-- `MQTT.Settings.Model` -/
  settingsModel : NetString
  firmwareVersion : Option BambuLab.BBLFirmwareVersion
  prevUsesUnsupportedSecurity : Bool
  hasUSBOrSDCard : Bool
  isUSBOrSDCardRequired : Bool

namespace BambuLab

/-! ### Messages to the user -/

def sdCardOrUSBMissingId : String := "bbl.sdcard.missing"

/-- `BBLMessages.SDCardOrUSBMissing`. -/
def sdCardOrUSBMissing : MachineMessage where
  id := some sdCardOrUSBMissingId
  title := some "SD Card or USB Drive is Missing"
  body := some "An SD Card or USB Drive is required to send prints to this Machine."
  severity := .warning
  manualResolve := 0
  autoResolve := default

def ftpDisconnectedId : String := "bbl.ftp.disconnected"

/-- `BBLMessages.FTPDisconnected`. -/
def ftpDisconnected : MachineMessage where
  id := some ftpDisconnectedId
  title := some "FTP Disconnected"
  body := sdCardOrUSBMissing.body
  severity := .warning
  manualResolve := 0
  autoResolve := default

def mqttDisconnectedId : String := "bbl.mqtt.disconnected"

/-- The message of `OnDisconnected`. -/
def mqttDisconnected (reason : String) : MachineMessage where
  id := some mqttDisconnectedId
  title := some "MQTT Disconnected"
  body := some ("An issue occurred connecting to the MQTT Broker: " ++ reason)
  severity := .error
  -- `CheckConfiguration`
  manualResolve := 16
  autoResolve := ⟨some true, none, none⟩

/-! ### Features of the models -/

def withInspectFirstLayer : List String := ["X1C", "X1E"]

def withFlowRateCali : List String := ["X1C", "X1E", "H2D", "A1", "A1 Mini", "P2S"]

def withClimateControl : List String := ["P2S"]

def withRTSPSCamera : List String := ["X1C", "X1E", "H2D", "P2S"]

def with30FPMCamera : List String := ["P1P", "P1S", "A1", "A1 Mini"]

def bblSpeedPresets : List (String × Int32) :=
  [("Silent", 50), ("Normal", 100), ("Sport", 124), ("Ludicrous", 166)]

open MachineCapabilities in
/-- The features of a model before the restrictions of the moment. -/
def modelFeatures (model : NetString) : MachineCapabilities :=
  let has (models : List String) : Bool := model.any models.contains
  let features := startLocalJob ||| localJobs ||| lighting ||| control ||| printHistory
  let features := features ||| printOptionsBedLevel
  let features := if has withInspectFirstLayer then features ||| printOptionsInspectFirstLayer
    else features
  let features := if has withFlowRateCali then features ||| printOptionsFlowCalibration
    else features
  let features := features ||| printSpeedControl
  let features := if has withClimateControl then features ||| airDuct else features
  if has withRTSPSCamera || has with30FPMCamera then features ||| camera else features

/-- `SetSpeedRange` and `SetSpeedPresets`, for the presets of all models. -/
def setSpeeds (u : MachineStateUpdate) : MachineStateUpdate :=
  bblSpeedPresets.foldl
    (fun u preset => { u with speedPresets := u.speedPresets.set preset.1 preset.2 })
    { u with speedRange := u.speedRange.set (some ⟨50, 166⟩) }

end BambuLab

namespace BBLMachineConnection

open BambuLab

variable {Cron : Type}

def setMachine (c : BBLMachineConnection Cron) (machine : MachineConnection Cron) :
    BBLMachineConnection Cron :=
  { c with machine }

def setMqtt (c : BBLMachineConnection Cron) (mqtt : BBLMQTTConnection) :
    BBLMachineConnection Cron :=
  { c with mqtt }

/-- The part of `MQTT_OnData` for the storage: the update, which shows or takes back the
message. -/
def reportStorage (c : BBLMachineConnection Cron) (host : Host) (data : BBLMQTTData) :
    Except Fault MachineStateUpdate :=
  match data.hasUSBOrSDCard with
  | some hasMedia =>
    let hasMissingMessage := c.machine.state.notifications.containsKey sdCardOrUSBMissingId
    if !c.isUSBOrSDCardRequired then .ok data.changes
    else if !hasMedia && !hasMissingMessage then
      data.changes.setNotifications host.utcNow sdCardOrUSBMissing
    else if hasMedia && hasMissingMessage then
      .ok (data.changes.removeNotification sdCardOrUSBMissingId)
    else .ok data.changes
  | none => .ok data.changes

/-- The fields that `MQTT_OnData` writes. -/
def remember (c : BBLMachineConnection Cron) (data : BBLMQTTData) : BBLMachineConnection Cron :=
  { c with
    hasUSBOrSDCard := if c.isUSBOrSDCardRequired then data.hasUSBOrSDCard.getD c.hasUSBOrSDCard
      else c.hasUSBOrSDCard
    prevUsesUnsupportedSecurity :=
      if data.changes.status.isSet && data.changes.status.value = .disconnected then false
      else c.prevUsesUnsupportedSecurity
    firmwareVersion := data.firmwareVersion.or c.firmwareVersion }

open MachineCapabilities in
/-- The capabilities: the features of the model under the restrictions of the moment. -/
def capabilities (c : BBLMachineConnection Cron) (data : BBLMQTTData) : MachineCapabilities :=
  let features := modelFeatures c.machine.state.model
  -- Without LAN mode and developer mode nothing can be controlled.
  let features := if data.usesUnsupportedSecurity = some true then
      features &&& ~~~(startLocalJob ||| control ||| airDuct)
    else features
  if !c.hasUSBOrSDCard && c.isUSBOrSDCardRequired then
    features &&& ~~~(startLocalJob ||| localJobs)
  else features

/-- The HMS notifications that are no longer active. -/
def staleHMSIds (culture : Culture) (s : MachineState) (activeHMSIds : HashSet String) :
    List String :=
  s.notifications.keys.filter fun id =>
    culture.startsWith id hmsPrefix && !decide (id ∈ activeHMSIds)

def removeStale (culture : Culture) (s : MachineState) (data : BBLMQTTData)
    (u : MachineStateUpdate) : MachineStateUpdate :=
  match data.activeHMSIds with
  | some ids => (staleHMSIds culture s ids).foldl (fun u id => u.removeNotification id) u
  | none => u

/-- The update that `MQTT_OnData` commits. -/
def dataUpdate (culture : Culture) (host : Host) (c : BBLMachineConnection Cron)
    (data : BBLMQTTData) : Except Fault MachineStateUpdate := do
  let changes ← c.reportStorage host data
  let changes := (setSpeeds changes).setCapabilities ((c.remember data).capabilities data)
  return removeStale culture c.machine.state data changes

variable [DecidableEq Cron] [Hashable (HeatingSchedule Cron)] [Hashable (ScheduledPrint Cron)]

/-- `CommitState`. -/
def commit (env : Environment Cron) (u : MachineStateUpdate) :
    EStateM Fault (BBLMachineConnection Cron) Unit :=
  onField machine setMachine (discard (MachineConnection.commitState env u))

/-- `MQTT_OnData`. -/
def mqttOnData (culture : Culture) (host : Host) (env : Environment Cron) (data : BBLMQTTData) :
    EStateM Fault (BBLMachineConnection Cron) Unit := do
  let changes ← ofExcept ((← get).dataUpdate culture host data)
  modify (·.remember data)
  commit env changes

/-- What `OnDisconnected` raises `OnData` with. -/
def disconnectedData (host : Host) (reason : String) : Except Fault BBLMQTTData := do
  let changes ← (default : MachineStateUpdate).setStatus .disconnected |>.setNotifications
    host.utcNow (mqttDisconnected reason)
  return { (default : BBLMQTTData) with changes }

/-- `OnDisconnected`, up to the loop that reconnects. -/
def onDisconnected (culture : Culture) (host : Host) (env : Environment Cron) (reason : String) :
    EStateM Fault (BBLMachineConnection Cron) Unit := do
  mqttOnData culture host env (← ofExcept (disconnectedData host reason))

/-- The message is read into the data by `OnMessage`, which then raises `OnData` with it. In between
it may await a request for the firmware version. -/
def WasRead (culture : Culture) (toLower : String → String) (root : JsonElement)
    (data : BBLMQTTData) : Prop :=
  ∃ host model mqtt mqtt', (onMessage culture toLower host model root).run mqtt = .ok data mqtt'

theorem exists_wasRead {culture : Culture} {toLower : String → String} {host : Host}
    {model : NetString} {mqtt : BBLMQTTConnection} {root : JsonElement}
    (h : returned ((onMessage culture toLower host model root).run mqtt) = true) :
    ∃ data, WasRead culture toLower root data := by
  obtain ⟨data, mqtt', hrun⟩ := exists_of_returned h
  exact ⟨data, host, model, mqtt, mqtt', hrun⟩

/-! ### The other commits -/

/-- The notifications of the commits that do not come from the MQTT connection: of the FTP
connection, of the tasks of scheduled prints and of the camera coordinator. -/
inductive OtherNotification : String → Prop
  | sdCardOrUSBMissing : OtherNotification sdCardOrUSBMissingId
  | ftpDisconnected : OtherNotification ftpDisconnectedId
  | scheduledPrintSkipped (jobName : String) :
    OtherNotification ("machine.scheduled.skipped." ++ jobName)
  | scheduledPrintFailed (jobName : String) :
    OtherNotification ("machine.scheduled.failed." ++ jobName)
  | publisherCrashed (pathName : String) :
    OtherNotification ("camera.publisher.crashed." ++ pathName)

/-- The updates of those commits: whatever they do besides, they set or remove at most one
notification. -/
inductive OtherUpdate : MachineStateUpdate → Prop
  | silent {u : MachineStateUpdate} (h : u.notifications = default) : OtherUpdate u
  | sets {u u' : MachineStateUpdate} {utcNow : DateTimeOffset} {message : MachineMessage}
    {id : String} (h : u.notifications = default) (hid : message.id = some id)
    (hother : OtherNotification id) (hset : u.setNotifications utcNow message = .ok u') :
    OtherUpdate u'
  | removes {u : MachineStateUpdate} {id : String} (h : u.notifications = default)
    (hother : OtherNotification id) : OtherUpdate (u.removeNotification id)

/-- What can happen to a connection. -/
inductive Step (culture : Culture) (toLower : String → String) :
    BBLMachineConnection Cron → BBLMachineConnection Cron → Prop
  | message (c : BBLMachineConnection Cron) (host : Host) (env : Environment Cron)
    {root : JsonElement} {data : BBLMQTTData} (hread : WasRead culture toLower root data) :
    Step culture toLower c (finalState ((mqttOnData culture host env data).run c))
  | disconnected (c : BBLMachineConnection Cron) (host : Host) (env : Environment Cron)
    (reason : String) :
    Step culture toLower c (finalState ((onDisconnected culture host env reason).run c))
  | commit (c : BBLMachineConnection Cron) (env : Environment Cron) {u : MachineStateUpdate}
    (hu : OtherUpdate u) : Step culture toLower c (finalState ((commit env u).run c))
  | other {c c' : BBLMachineConnection Cron} (h : c'.machine.state = c.machine.state) :
    Step culture toLower c c'

end BBLMachineConnection

end Connect3Dp
