import Connect3Dp.Connectors.BambuLabReports

/-!
# The capabilities of a Bambu Lab machine

Two handlers write the capabilities of the machine. `MQTT_OnData` computes them anew from the model,
from what the message says about the security, and from what the connection remembers about the
storage. `FTP_OnDisconnected` takes the local jobs away from those that are there. `GateEvent` is
what can happen to a connection as far as the two are concerned.
-/

namespace Connect3Dp

open BambuLab
open MachineCapabilities (startLocalJob localJobs control airDuct lighting printHistory camera
  printOptionsBedLevel printOptionsInspectFirstLayer printOptionsFlowCalibration printSpeedControl)

namespace BBLMachineConnection

variable {Cron : Type}

/-! ### What is computed -/

/-- What nobody may do to a machine that does not accept commands. -/
def securityGate : MachineCapabilities := startLocalJob ||| control ||| airDuct

/-- What needs storage, and the connection to it. -/
def storageGate : MachineCapabilities := startLocalJob ||| localJobs

/-- There is no storage, and the model needs it. -/
def LacksStorage (c : BBLMachineConnection Cron) : Prop :=
  c.hasUSBOrSDCard = false ∧ c.isUSBOrSDCardRequired = true

/-- The flags that the features of every model have, and those that some may have. -/
theorem exists_modelFeatures (model : NetString) : ∃ inspect flow climate hasCamera : Bool,
    modelFeatures model = startLocalJob ||| localJobs ||| lighting ||| control ||| printHistory |||
      printOptionsBedLevel ||| (if inspect then printOptionsInspectFirstLayer else 0) |||
      (if flow then printOptionsFlowCalibration else 0) ||| printSpeedControl |||
      (if climate then airDuct else 0) ||| (if hasCamera then camera else 0) := by
  refine ⟨model.any withInspectFirstLayer.contains, model.any withFlowRateCali.contains,
    model.any withClimateControl.contains,
    model.any withRTSPSCamera.contains || model.any with30FPMCamera.contains, ?_⟩
  unfold modelFeatures
  dsimp only
  split_ifs
  all_goals decide

theorem capabilities_eq (c : BBLMachineConnection Cron) (data : BBLMQTTData) :
    c.capabilities data = modelFeatures c.machine.state.model &&&
      ~~~(if data.usesUnsupportedSecurity = some true then securityGate else 0) &&&
      ~~~(if !c.hasUSBOrSDCard && c.isUSBOrSDCardRequired then storageGate else 0) := by
  have hall : ∀ features : MachineCapabilities, features &&& ~~~0 = features :=
    fun _ => BitVec.and_allOnes
  unfold capabilities
  dsimp only
  split_ifs
  · rfl
  · rw [hall]
    rfl
  · rw [hall]
    rfl
  · rw [hall, hall]

/-- **The gates of what is computed**: each is shut just when its reason holds. -/
theorem capabilities_securityGate_iff (c : BBLMachineConnection Cron) (data : BBLMQTTData) :
    c.capabilities data &&& securityGate = 0 ↔ data.usesUnsupportedSecurity = some true := by
  obtain ⟨inspect, flow, climate, hasCamera, hfeatures⟩ :=
    exists_modelFeatures c.machine.state.model
  rw [capabilities_eq, hfeatures]
  by_cases hsecurity : data.usesUnsupportedSecurity = some true
  all_goals
    simp only [hsecurity, if_true, if_false, iff_true, iff_false]
    cases inspect <;> cases flow <;> cases climate <;> cases hasCamera <;>
      cases (!c.hasUSBOrSDCard && c.isUSBOrSDCardRequired) <;> decide

theorem capabilities_storageGate_iff (c : BBLMachineConnection Cron) (data : BBLMQTTData) :
    c.capabilities data &&& storageGate = 0 ↔ c.LacksStorage := by
  obtain ⟨inspect, flow, climate, hasCamera, hfeatures⟩ :=
    exists_modelFeatures c.machine.state.model
  rw [capabilities_eq, hfeatures, LacksStorage]
  by_cases hsecurity : data.usesUnsupportedSecurity = some true
  all_goals
    simp only [hsecurity, if_true, if_false]
    cases inspect <;> cases flow <;> cases climate <;> cases hasCamera <;>
      cases c.hasUSBOrSDCard <;> cases c.isUSBOrSDCardRequired <;> decide

/-! ### The handlers -/

/-- The update of `FTP_OnDisconnected`. -/
def ftpDisconnectedUpdate (host : Host) (c : BBLMachineConnection Cron) :
    Except Fault MachineStateUpdate :=
  let stateUpdate := (default : MachineStateUpdate).setCapabilities
    (c.machine.state.capabilities &&& ~~~(startLocalJob ||| localJobs))
      |>.setIsLocalStorageScanning false
  if c.hasUSBOrSDCard then stateUpdate.setNotifications host.utcNow ftpDisconnected
  else stateUpdate.setNotifications host.utcNow sdCardOrUSBMissing

variable [DecidableEq Cron] [Hashable (HeatingSchedule Cron)] [Hashable (ScheduledPrint Cron)]

/-- `FTP_OnDisconnected`. -/
def onFTPDisconnected (host : Host) (env : Environment Cron) :
    EStateM Fault (BBLMachineConnection Cron) Unit := do
  commit env (← ofExcept ((← get).ftpDisconnectedUpdate host))

/-- What can happen to a connection: an event of its MQTT connection, an event of its FTP
connection, a commit of another part, and what leaves the state of the machine alone. -/
inductive GateEvent (Cron : Type)
  | message (host : Host) (env : Environment Cron) (root : JsonElement) (data : BBLMQTTData)
  | mqttDisconnected (host : Host) (env : Environment Cron) (reason : String)
  | ftpDisconnected (host : Host) (env : Environment Cron)
  | ftpConnected
  | commit (env : Environment Cron) (u : MachineStateUpdate)
  | other (others : MachineConnection Cron → MachineConnection Cron)

/-- The other parts write neither the capabilities nor the status, and do not touch the
notification about the storage. -/
structure LeavesGates (u : MachineStateUpdate) : Prop where
  capabilities : u.capabilities.isSet = false
  status : u.status.isSet = false
  lookup : u.notifications.lookup sdCardOrUSBMissingId = none
  notMem_removals : sdCardOrUSBMissingId ∉ u.notifications.removals

/-- The event can happen. -/
def GateEvent.Occurs (culture : Culture) (toLower : String → String) : GateEvent Cron → Prop
  | .message _ _ root data => WasRead culture toLower root data
  | .commit _ u => LeavesGates u
  | .other others => ∀ c, MachineConnection.SameState c (others c)
  | .mqttDisconnected .. | .ftpDisconnected .. | .ftpConnected => True

/-- The connection after an event. -/
def handle (culture : Culture) (c : BBLMachineConnection Cron) :
    GateEvent Cron → BBLMachineConnection Cron
  | .message host env _ data => finalState ((mqttOnData culture host env data).run c)
  | .mqttDisconnected host env reason =>
    finalState ((onDisconnected culture host env reason).run c)
  | .ftpDisconnected host env => finalState ((onFTPDisconnected host env).run c)
  | .ftpConnected => c
  | .commit env u => finalState ((commit env u).run c)
  | .other others => c.setMachine (others c.machine)

/-- The connection after a run. -/
def handleAll (culture : Culture) (c : BBLMachineConnection Cron) (run : List (GateEvent Cron)) :
    BBLMachineConnection Cron :=
  run.foldl (handle culture) c

variable {culture : Culture} {host : Host} {env : Environment Cron} {c : BBLMachineConnection Cron}
  {data : BBLMQTTData} {u : MachineStateUpdate}

@[simp]
theorem handleAll_nil (culture : Culture) (c : BBLMachineConnection Cron) :
    c.handleAll culture [] = c := rfl

@[simp]
theorem handleAll_concat (culture : Culture) (c : BBLMachineConnection Cron)
    (run : List (GateEvent Cron)) (e : GateEvent Cron) :
    c.handleAll culture (run ++ [e]) = (c.handleAll culture run).handle culture e := by
  rw [handleAll, List.foldl_append]
  rfl

/-! ### What the handlers commit -/

omit [DecidableEq Cron] [Hashable (HeatingSchedule Cron)] [Hashable (ScheduledPrint Cron)] in
theorem exists_ftpDisconnectedUpdate (c : BBLMachineConnection Cron) (host : Host) :
    ∃ u, c.ftpDisconnectedUpdate host = .ok u ∧ u.Harmless ∧
      u.capabilities = ⟨c.machine.state.capabilities &&& ~~~storageGate, true⟩ := by
  have hharmless : ((default : MachineStateUpdate).setCapabilities
      (c.machine.state.capabilities &&& ~~~storageGate)
        |>.setIsLocalStorageScanning false).Harmless :=
    ⟨MachineStateUpdate.harmless_default.1, MachineStateUpdate.harmless_default.2,
      MachineStateUpdate.harmless_default.3⟩
  unfold ftpDisconnectedUpdate
  dsimp only
  split
  all_goals exact ⟨_, rfl, ⟨hharmless.1, hharmless.2, hharmless.3⟩, rfl⟩

theorem finalState_onFTPDisconnected (hu : c.ftpDisconnectedUpdate host = .ok u) :
    finalState ((onFTPDisconnected host env).run c) =
      c.setMachine (MachineConnection.afterCommit env u c.machine) := by
  have hget : (get : EStateM Fault (BBLMachineConnection Cron) _).run c = .ok c c := rfl
  have hrun : (onFTPDisconnected host env).run c = (commit env u).run c := by
    rw [onFTPDisconnected, run_bind_ok hget, hu, ofExcept_ok_bind]
  rw [hrun, finalState_commit]

/-- Of the connection's own fields, `MQTT_OnData` changes those that it remembers. -/
theorem exists_finalState_mqttOnData (culture : Culture) (host : Host) (env : Environment Cron)
    (c : BBLMachineConnection Cron) (data : BBLMQTTData) :
    ∃ machine, finalState ((mqttOnData culture host env data).run c) =
      (c.remember data).setMachine machine := by
  obtain ⟨v, -, -, stale, hu, -⟩ := c.exists_dataUpdate_eq culture host data
  exact ⟨_, finalState_mqttOnData hu⟩

/-- The model of a printer does not change. -/
theorem isUSBOrSDCardRequired_handle (culture : Culture) (c : BBLMachineConnection Cron)
    (e : GateEvent Cron) :
    (c.handle culture e).isUSBOrSDCardRequired = c.isUSBOrSDCardRequired := by
  cases e with
  | message host env root data =>
    obtain ⟨machine, hstate⟩ := exists_finalState_mqttOnData culture host env c data
    rw [handle, hstate]
    rfl
  | mqttDisconnected host env reason =>
    obtain ⟨data, hdata, -⟩ := exists_disconnectedData host reason
    obtain ⟨machine, hstate⟩ := exists_finalState_mqttOnData culture host env c data
    rw [handle, run_onDisconnected hdata, hstate]
    rfl
  | ftpDisconnected host env =>
    obtain ⟨u, hu, -⟩ := c.exists_ftpDisconnectedUpdate host
    rw [handle, finalState_onFTPDisconnected hu]
    rfl
  | ftpConnected => rfl
  | commit env u =>
    rw [handle, finalState_commit]
    rfl
  | other others => rfl

omit [DecidableEq Cron] [Hashable (HeatingSchedule Cron)] [Hashable (ScheduledPrint Cron)] in
/-- The update that is committed for a reading: it raises nowhere, it sets the capabilities, and it
does to the notification about the storage what `reportStorage` does. -/
theorem exists_gatesUpdate (culture : Culture) (host : Host) (c : BBLMachineConnection Cron)
    (hdata : data.changes.Harmless) : ∃ u v, c.reportStorage host data = .ok v ∧
      c.dataUpdate culture host data = .ok u ∧ u.Harmless ∧
      u.capabilities = ⟨(c.remember data).capabilities data, true⟩ ∧
      u.notifications.lookup sdCardOrUSBMissingId =
        v.notifications.lookup sdCardOrUSBMissingId ∧
      (culture.startsWith sdCardOrUSBMissingId hmsPrefix = false →
        (sdCardOrUSBMissingId ∈ u.notifications.removals ↔
          sdCardOrUSBMissingId ∈ v.notifications.removals)) := by
  obtain ⟨v, hv, hleaves, stale, hu, hmem⟩ := c.exists_dataUpdate_eq culture host data
  refine ⟨_, v, hv, hu, harmless_of_leavesHMS hleaves hdata _ stale, rfl, ?_, fun hculture => ?_⟩
  · exact DictionaryBuffer.lookup_foldl_remove
  · refine DictionaryBuffer.mem_removals_foldl_remove.trans (or_iff_left fun hremoved => ?_)
    obtain ⟨ids, -, -, hstarts, -⟩ := (hmem _).mp hremoved
    rw [hculture] at hstarts
    cases hstarts

/-- The capabilities after a commit that raises nowhere. -/
theorem capabilities_afterCommit (env : Environment Cron) (hu : u.Harmless)
    (m : MachineConnection Cron) : (MachineConnection.afterCommit env u m).state.capabilities =
      u.capabilities.apply m.state.capabilities := by
  obtain ⟨m₁, hsame, hstate⟩ := MachineConnection.state_commitStep_of_harmless
    (MachineConnection.commitStep_afterCommit env u m) hu
  rw [hstate, show m.state = m₁.state from hsame.symm]
  rfl

/-- The capabilities after a commit that does not set them. -/
theorem capabilities_afterCommit_of_not_isSet (env : Environment Cron)
    (hu : u.capabilities.isSet = false) (m : MachineConnection Cron) :
    (MachineConnection.afterCommit env u m).state.capabilities = m.state.capabilities := by
  have hstep := MachineConnection.commitStep_afterCommit env u m
  obtain ⟨-, hstate⟩ | ⟨-, -, hstate⟩ | ⟨-, -, -, c₁, units, hsame, hstate⟩ |
    ⟨-, -, -, c₁, hsame, hstate⟩ := MachineConnection.commitStep_state_cases hstep
  · rw [hstate]
  · rw [hstate]
    exact ScalarBuffer.apply_of_not_isSet hu _
  · rw [hstate, show m.state = c₁.state from hsame.symm]
    exact ScalarBuffer.apply_of_not_isSet hu _
  · rw [hstate, show m.state = c₁.state from hsame.symm]
    exact ScalarBuffer.apply_of_not_isSet hu _

theorem capabilities_mqttOnData (hdata : data.changes.Harmless) :
    (finalState ((mqttOnData culture host env data).run c)).machine.state.capabilities =
      (c.remember data).capabilities data := by
  obtain ⟨u, v, -, hu, hharmless, hcapabilities, -⟩ := c.exists_gatesUpdate culture host hdata
  rw [finalState_mqttOnData hu]
  exact (capabilities_afterCommit env hharmless c.machine).trans (by rw [hcapabilities]; rfl)

omit [DecidableEq Cron] [Hashable (HeatingSchedule Cron)] [Hashable (ScheduledPrint Cron)] in
theorem lacksStorage_remember_iff : (c.remember data).LacksStorage ↔
    data.hasUSBOrSDCard.getD c.hasUSBOrSDCard = false ∧ c.isUSBOrSDCardRequired = true := by
  unfold LacksStorage remember
  cases c.isUSBOrSDCardRequired <;> simp

theorem capabilities_onFTPDisconnected :
    (finalState ((onFTPDisconnected host env).run c)).machine.state.capabilities =
      c.machine.state.capabilities &&& ~~~storageGate := by
  obtain ⟨u, hu, hharmless, hcapabilities⟩ := c.exists_ftpDisconnectedUpdate host
  rw [finalState_onFTPDisconnected hu]
  exact (capabilities_afterCommit env hharmless c.machine).trans (by rw [hcapabilities]; rfl)

omit [DecidableEq Cron] [Hashable (HeatingSchedule Cron)] [Hashable (ScheduledPrint Cron)] in
/-- What `OnDisconnected` raises `OnData` with says nothing about the storage. -/
theorem storage_disconnectedData {reason : String} (h : disconnectedData host reason = .ok data) :
    data.hasUSBOrSDCard = none ∧
      data.changes.notifications.lookup sdCardOrUSBMissingId = none ∧
      sdCardOrUSBMissingId ∉ data.changes.notifications.removals := by
  have hid : sdCardOrUSBMissingId ≠ mqttDisconnectedId := by decide
  cases h
  exact ⟨rfl, (DictionaryBuffer.lookup_update _ _ _ _ _).trans (if_neg hid), List.not_mem_nil⟩

end BBLMachineConnection

end Connect3Dp
