import Connect3Dp.Connectors.HMSNotifications

/-!
# What a Bambu Lab message reports about security and storage

Two sections of a message say that commands are not accepted and whether there is storage. The
sections after them touch neither, nor the notification about the storage, and none says that the
machine is disconnected (`BBLMQTTData.SparesStorage`). `BBLMQTTData.Reports` is what a message is
read into, and `exists_gatesUpdate` the update that the connection makes of it.
-/

namespace Connect3Dp

open BambuLab

/-- The update makes the machine disconnected. -/
def MachineStateUpdate.SaysDisconnected (u : MachineStateUpdate) : Prop :=
  u.status.isSet = true ∧ u.status.value = .disconnected

/-- The second update does to the notification about the storage what the first does, and does not
make the machine disconnected if the first does not. -/
structure MachineStateUpdate.SparesStorage (u u' : MachineStateUpdate) : Prop where
  lookup : u'.notifications.lookup sdCardOrUSBMissingId =
    u.notifications.lookup sdCardOrUSBMissingId
  mem_removals : sdCardOrUSBMissingId ∈ u'.notifications.removals ↔
    sdCardOrUSBMissingId ∈ u.notifications.removals
  status : ¬ u.SaysDisconnected → ¬ u'.SaysDisconnected

namespace MachineStateUpdate

instance : IsPreorder MachineStateUpdate SparesStorage where
  refl _ := ⟨rfl, Iff.rfl, id⟩
  trans _ _ _ h h' := ⟨h'.lookup.trans h.lookup, h'.mem_removals.trans h.mem_removals,
    fun hu => h'.status (h.status hu)⟩

theorem Measures.sparesStorage {u u' : MachineStateUpdate} (h : u.Measures u') :
    u.SparesStorage u' := by
  refine ⟨by rw [h.notifications], by rw [h.notifications], fun hu => ?_⟩
  rwa [SaysDisconnected, h.status]

theorem sparesStorage_setStatus (u : MachineStateUpdate) {status : MachineStatus}
    (hstatus : status ≠ .disconnected) : u.SparesStorage (u.setStatus status) :=
  ⟨rfl, Iff.rfl, fun _ h => hstatus h.2⟩

theorem sparesStorage_removeNotification (u : MachineStateUpdate) {id : String}
    (hid : id ≠ sdCardOrUSBMissingId) : u.SparesStorage (u.removeNotification id) :=
  ⟨rfl, DictionaryBuffer.mem_removals_remove.trans (or_iff_left hid.symm), fun h => h⟩

theorem sparesStorage_setNotifications {u u' : MachineStateUpdate} {utcNow : DateTimeOffset}
    {message : MachineMessage} {id : String} (hmessage : message.id = some id)
    (hid : id ≠ sdCardOrUSBMissingId) (hset : u.setNotifications utcNow message = .ok u') :
    u.SparesStorage u' := by
  rw [setNotifications, hmessage] at hset
  cases hset
  exact ⟨(DictionaryBuffer.lookup_update _ _ _ _ _).trans (if_neg hid.symm), Iff.rfl, fun h => h⟩

end MachineStateUpdate

namespace BambuLab

/-- The second reading has what the security and the storage were read into. -/
structure BBLMQTTData.SparesStorage (data data' : BBLMQTTData) : Prop where
  changes : data.changes.SparesStorage data'.changes
  usesUnsupportedSecurity : data'.usesUnsupportedSecurity = data.usesUnsupportedSecurity
  hasUSBOrSDCard : data'.hasUSBOrSDCard = data.hasUSBOrSDCard

namespace BBLMQTTData

instance : IsPreorder BBLMQTTData SparesStorage where
  refl _ := ⟨refl _, rfl, rfl⟩
  trans _ _ _ h h' :=
    ⟨IsTrans.trans _ _ _ h.changes h'.changes,
      h'.usesUnsupportedSecurity.trans h.usesUnsupportedSecurity,
      h'.hasUSBOrSDCard.trans h.hasUSBOrSDCard⟩

theorem Measures.sparesStorage {data data' : BBLMQTTData} (h : data.Measures data') :
    data.SparesStorage data' :=
  ⟨h.changes.sparesStorage, h.usesUnsupportedSecurity, h.hasUSBOrSDCard⟩

theorem sparesStorage_change {f : MachineStateUpdate → MachineStateUpdate}
    (hf : ∀ u : MachineStateUpdate, u.SparesStorage (f u)) : Changes SparesStorage (change f) :=
  .modify fun data => ⟨hf data.changes, rfl, rfl⟩

theorem sparesStorage_notify {host : Host} {message : MachineMessage} {id : String}
    (hmessage : message.id = some id) (hid : id ≠ sdCardOrUSBMissingId) :
    Changes SparesStorage (notify host message) := by
  intro data
  obtain ⟨u, hu⟩ : ∃ u, data.changes.setNotifications host.utcNow message = .ok u := by
    rw [MachineStateUpdate.setNotifications, hmessage]
    exact ⟨_, rfl⟩
  rw [run_notify_ok hu]
  refine ⟨fun _ data' h => ?_, fun _ _ h => ?_⟩
  · cases h
    exact ⟨MachineStateUpdate.sparesStorage_setNotifications hmessage hid hu, rfl, rfl⟩
  · cases h

end BBLMQTTData

open BBLMQTTData

/-! ### The sections after the storage -/

theorem sparesStorage_onMessagePrintHMS (host : Host) (printJSON : JsonElement) :
    Changes SparesStorage (onMessagePrintHMS host printJSON) := by
  unfold onMessagePrintHMS
  refine .ofExcept_forM fun hmsArray => .bind (.modify fun data => ⟨refl _, rfl, rfl⟩) fun _ =>
    .bind (.ofExcept _) fun entries => .forM (fun entry => ?_) entries
  unfold onHMSEntry
  refine .bind (.ofExcept _) fun numbers => ?_
  split
  · exact .pure _
  · rename_i attr code
    have hid : hmsId attr code ≠ sdCardOrUSBMissingId := by
      intro h
      have hhms := isHMSId_hmsId attr code
      rw [h] at hhms
      exact absurd hhms (by decide)
    exact .bind (.modify fun data => ⟨refl _, rfl, rfl⟩) fun _ => sparesStorage_notify rfl hid

theorem gcodeStatus_ne_disconnected {gcodeState : String} :
    Yields (gcodeStatus gcodeState) (· ≠ .disconnected) := by
  intro status h
  unfold gcodeStatus at h
  split at h
  all_goals cases h
  all_goals decide

theorem sparesStorage_onPrintError (host : Host) (printError : Int32) :
    Changes SparesStorage (onPrintError host printError) := by
  have hid : printErrorId ≠ sdCardOrUSBMissingId := by decide
  have hnotify : ∀ (covered : BBLMQTTData → Bool) (data : BBLMQTTData), Changes SparesStorage
      (if (!covered data) = true then
        notify host (printErrorMessage (formatInt32X8 printError)) else pure ()) := by
    intro covered data
    split
    · exact sparesStorage_notify rfl hid
    · exact .pure _
  unfold onPrintError
  split
  · refine .get_bind fun data => ?_
    dsimp only
    split
    · have hpaused : MachineStatus.paused ≠ .disconnected := by decide
      exact .bind (sparesStorage_change fun u => u.sparesStorage_setStatus hpaused) fun _ =>
        .get_bind (hnotify _)
    · exact .get_bind (hnotify _)
  · exact sparesStorage_change fun u => u.sparesStorage_removeNotification hid

theorem sparesStorage_onMessagePrintGcodeState (context : MessageContext)
    (printJSON : JsonElement) :
    Changes SparesStorage (onMessagePrintGcodeState context printJSON) := by
  unfold onMessagePrintGcodeState
  refine .bind (.ofExcept _) fun gcodeState => .bind (.forOption (fun gcodeState => ?_) _) fun _ =>
    .ofExcept_forM (sparesStorage_onPrintError context.host)
  exact .ofExcept_bind gcodeStatus_ne_disconnected fun status hstatus =>
    sparesStorage_change fun u => u.sparesStorage_setStatus hstatus

/-! ### The message -/

/-- The section `print` says that a command was not accepted. -/
def saysVerifyFailed (printJSON : JsonElement) : Bool :=
  (propertyEquals printJSON "result" "failed").toOption = some true &&
    (propertyEquals printJSON "reason" "mqtt message verify failed").toOption = some true

/-- Whether the section `print` says that there is storage, if it says so. -/
def sdcard (printJSON : JsonElement) : Option Bool :=
  (tryGetBoolean printJSON "sdcard").toOption.join

/-- The section `print` of a message, if there is one. -/
def printOf (root : JsonElement) : Option JsonElement :=
  (root.tryGetProperty "print").toOption.join

/-- The message reports the unsupported security. -/
def reportsUnsupportedSecurity (root : JsonElement) : Bool := (printOf root).any saysVerifyFailed

/-- Whether the message reports storage, if it reports `sdcard`. -/
def reportedStorage (root : JsonElement) : Option Bool := (printOf root).bind sdcard

/-- What the security and the storage of a message are read into, and what is not. -/
structure BBLMQTTData.Reports (data : BBLMQTTData) (security : Bool) (storage : Option Bool) :
    Prop where
  usesUnsupportedSecurity : data.usesUnsupportedSecurity = some true ↔ security = true
  hasUSBOrSDCard : data.hasUSBOrSDCard = storage
  lookup : data.changes.notifications.lookup sdCardOrUSBMissingId = none
  notMem_removals : sdCardOrUSBMissingId ∉ data.changes.notifications.removals
  status : ¬ data.changes.SaysDisconnected

theorem BBLMQTTData.reports_default : (default : BBLMQTTData).Reports false none := by
  refine ⟨⟨fun h => ?_, fun h => ?_⟩, rfl, rfl, List.not_mem_nil, fun h => ?_⟩
  · cases h
  · cases h
  · cases h.1

theorem BBLMQTTData.SparesStorage.reports {data data' : BBLMQTTData} {security : Bool}
    {storage : Option Bool} (h : data.SparesStorage data') (hdata : data.Reports security storage) :
    data'.Reports security storage := by
  refine ⟨?_, h.hasUSBOrSDCard.trans hdata.hasUSBOrSDCard, h.changes.lookup.trans hdata.lookup,
    fun hmem => hdata.notMem_removals (h.changes.mem_removals.mp hmem),
    h.changes.status hdata.status⟩
  rw [h.usesUnsupportedSecurity]
  exact hdata.usesUnsupportedSecurity

theorem run_onMessagePrintMQTTSecurity {printJSON : JsonElement} {data : BBLMQTTData}
    (hrun : (onMessagePrintMQTTSecurity printJSON).run default = .ok () data) :
    data.Reports (saysVerifyFailed printJSON) none := by
  unfold onMessagePrintMQTTSecurity at hrun
  rw [saysVerifyFailed]
  cases hresult : propertyEquals printJSON "result" "failed" with
  | error f =>
    rw [hresult] at hrun
    cases hrun
  | ok failed =>
    cases hreason : propertyEquals printJSON "reason" "mqtt message verify failed" with
    | error f =>
      rw [hresult, hreason] at hrun
      cases hrun
    | ok reason =>
      rw [hresult, hreason, ofExcept_ok_bind, ofExcept_ok_bind] at hrun
      have hdefault := BBLMQTTData.reports_default
      cases failed with
      | false =>
        cases hrun
        exact hdefault
      | true =>
        cases reason with
        | false =>
          cases hrun
          exact hdefault
        | true =>
          cases hrun
          exact ⟨iff_of_true rfl rfl, rfl, rfl, List.not_mem_nil, hdefault.status⟩

theorem run_onMessagePrintSDCard {printJSON : JsonElement} {data data' : BBLMQTTData}
    {security : Bool} (hdata : data.Reports security none)
    (hrun : (onMessagePrintSDCard printJSON).run data = .ok () data') :
    data'.Reports security (sdcard printJSON) := by
  unfold onMessagePrintSDCard at hrun
  rw [sdcard]
  cases hread : tryGetBoolean printJSON "sdcard" with
  | error f =>
    rw [hread] at hrun
    cases hrun
  | ok storage =>
    rw [hread, ofExcept_ok_bind] at hrun
    cases storage with
    | none =>
      cases hrun
      exact hdata
    | some storage =>
      cases hrun
      exact ⟨hdata.usesUnsupportedSecurity, rfl, hdata.lookup, hdata.notMem_removals, hdata.status⟩

theorem reports_onMessagePrint {context : MessageContext} {printJSON : JsonElement}
    {data : BBLMQTTData} (hrun : (onMessagePrint context printJSON).run default = .ok () data) :
    data.Reports (saysVerifyFailed printJSON) (sdcard printJSON) := by
  rw [onMessagePrint_eq] at hrun
  obtain ⟨_, data₁, hsecurity, hrun⟩ := exists_of_run_bind_ok hrun
  obtain ⟨_, data₂, hstorage, hrun⟩ := exists_of_run_bind_ok hrun
  have hread := run_onMessagePrintSDCard (run_onMessagePrintMQTTSecurity hsecurity) hstorage
  have hrest : Changes BBLMQTTData.SparesStorage (do
      onMessagePrintHMS context.host printJSON
      onMessagePrintGcodeState context printJSON
      measuringSections context printJSON) :=
    .bind (sparesStorage_onMessagePrintHMS context.host printJSON) fun _ =>
      .bind (sparesStorage_onMessagePrintGcodeState context printJSON) fun _ =>
      (measures_measuringSections context printJSON).mono fun _ _ h => h.sparesStorage
  exact ((hrest data₂).1 () data hrun).reports hread

theorem reports_readPrint {context : MessageContext} {root : JsonElement} {data : BBLMQTTData}
    (hdata : readPrint context root = .ok data) :
    data.Reports (reportsUnsupportedSecurity root) (reportedStorage root) := by
  rw [reportsUnsupportedSecurity, reportedStorage, printOf]
  obtain ⟨hproperty, rfl⟩ | ⟨printJSON, hproperty, hprint⟩ := readPrint_cases hdata
  · rw [hproperty]
    exact BBLMQTTData.reports_default
  · rw [hproperty]
    exact reports_onMessagePrint hprint

end BambuLab

namespace BBLMachineConnection

variable {Cron : Type} {culture : Culture} {toLower : String → String} {root : JsonElement}
  {data : BBLMQTTData}

/-- **A message that is read** reports the security and the storage that it names. -/
theorem reports_of_wasRead (hread : WasRead culture toLower root data) :
    data.Reports (reportsUnsupportedSecurity root) (reportedStorage root) := by
  obtain ⟨host, model, mqtt, mqtt', hrun⟩ := hread
  obtain ⟨data₁, firmwareVersion, hdata, rfl⟩ := exists_readPrint_of_run_onMessage hrun
  have hreports := reports_readPrint hdata
  exact ⟨hreports.usesUnsupportedSecurity, hreports.hasUSBOrSDCard, hreports.lookup,
    hreports.notMem_removals, hreports.status⟩

end BBLMachineConnection

end Connect3Dp
