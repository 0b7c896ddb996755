import Connect3Dp.Connectors.BambuLabMessages
import Connect3Dp.State.Setters

/-!
# The sections of a Bambu Lab message that measure

Most sections of a message say how the job, the temperatures, the materials and the lights are.
They leave the notifications and the status of the update alone, and what other sections have read
(`BBLMQTTData.Measures`), and they add nothing to the update that could raise when it is applied.
-/

namespace Connect3Dp

open BambuLab

/-- The second update says of the status and the notifications what the first does, and raises
nowhere if the first does not. -/
structure MachineStateUpdate.Measures (u u' : MachineStateUpdate) : Prop where
  notifications : u'.notifications = u.notifications
  status : u'.status = u.status
  harmless : u.Harmless → u'.Harmless

namespace MachineStateUpdate

instance : IsPreorder MachineStateUpdate Measures where
  refl _ := ⟨rfl, rfl, id⟩
  trans _ _ _ h h' := ⟨h'.notifications.trans h.notifications, h'.status.trans h.status,
    fun hu => h'.harmless (h.harmless hu)⟩

theorem Measures.of_eq {u u' : MachineStateUpdate} (hn : u'.notifications = u.notifications)
    (hs : u'.status = u.status) (hm : u'.materialUnits = u.materialUnits)
    (hj : u'.currentJob = u.currentJob) : u.Measures u' := by
  refine ⟨hn, hs, fun h => ⟨?_, ?_, ?_⟩⟩
  · rw [hm]
    exact h.keepsMaterials
  · rw [hj]
    exact h.keepsJob
  · rw [hj]
    exact h.usages

theorem measures_updateCurrentJob (u : MachineStateUpdate)
    {configure : PrintJobUpdate → PrintJobUpdate}
    (hconfigure : ∀ ju, (configure ju).spoolMaterialUsages = ju.spoolMaterialUsages) :
    u.Measures (u.updateCurrentJob configure) := by
  refine ⟨rfl, rfl, fun h => ⟨h.1, fun _ hnone => ?_, fun ju hju => ?_⟩⟩
  · cases hnone
  · cases hju
    rw [hconfigure]
    cases hvalue : u.currentJob.value with
    | none => rfl
    | some ju => exact h.usages ju hvalue

/-- An update of a unit takes no material away if what it makes of the unit's builder does not. -/
theorem measures_updateMaterialUnits (u : MachineStateUpdate) (unitID : String)
    {configure : MUnitUpdate → MUnitUpdate}
    (hconfigure : ∀ mu k su, (configure mu).trays.lookup k = some su →
      su.RemovesMaterial → ∃ su', mu.trays.lookup k = some su' ∧ su'.RemovesMaterial) :
    u.Measures (u.updateMaterialUnits unitID configure) := by
  refine ⟨rfl, rfl, fun h => ⟨?_, h.2, h.3⟩⟩
  intro id mu k su hmu hsu hremoves
  have hlookup : (u.materialUnits.update unitID (MUnitUpdate.assertKey unitID default)
      configure).lookup id = some mu := hmu
  rw [DictionaryBuffer.lookup_update] at hlookup
  split at hlookup
  · cases hlookup
    obtain ⟨su', hsu', hremoves'⟩ := hconfigure _ k su hsu hremoves
    cases hold : u.materialUnits.lookup unitID with
    | none =>
      rw [hold] at hsu'
      cases hsu'
    | some mu =>
      rw [hold] at hsu'
      exact h.keepsMaterials unitID mu k su' hold hsu' hremoves'
  · exact h.keepsMaterials id mu k su hlookup hsu hremoves

end MachineStateUpdate

namespace BambuLab

/-- The second reading has what the security, the storage and the health system were read into. -/
structure BBLMQTTData.Measures (data data' : BBLMQTTData) : Prop where
  changes : data.changes.Measures data'.changes
  usesUnsupportedSecurity : data'.usesUnsupportedSecurity = data.usesUnsupportedSecurity
  hasUSBOrSDCard : data'.hasUSBOrSDCard = data.hasUSBOrSDCard
  activeHMSIds : data'.activeHMSIds = data.activeHMSIds

namespace BBLMQTTData

instance : IsPreorder BBLMQTTData Measures where
  refl _ := ⟨refl _, rfl, rfl, rfl⟩
  trans _ _ _ h h' :=
    ⟨IsTrans.trans _ _ _ h.changes h'.changes,
      h'.usesUnsupportedSecurity.trans h.usesUnsupportedSecurity,
      h'.hasUSBOrSDCard.trans h.hasUSBOrSDCard, h'.activeHMSIds.trans h.activeHMSIds⟩

/-- The second reading measures something else than the current job. -/
structure MeasuresBesideJob (data data' : BBLMQTTData) : Prop extends Measures data data' where
  currentJob : data'.changes.currentJob = data.changes.currentJob

instance : IsPreorder BBLMQTTData MeasuresBesideJob where
  refl _ := ⟨refl _, rfl⟩
  trans _ _ _ h h' :=
    ⟨IsTrans.trans _ _ _ h.toMeasures h'.toMeasures, h'.currentJob.trans h.currentJob⟩

theorem besideJob_change {f : MachineStateUpdate → MachineStateUpdate}
    (hf : ∀ u : MachineStateUpdate, u.Measures (f u))
    (hjob : ∀ u, (f u).currentJob = u.currentJob) :
    Changes MeasuresBesideJob (change f) :=
  .modify fun data => ⟨⟨hf data.changes, rfl, rfl, rfl⟩, hjob data.changes⟩

end BBLMQTTData

open BBLMQTTData

/-! ### The sections -/

theorem measures_onMessagePrintJob (culture : Culture) (host : Host) (serialNumber : NetString)
    (printJSON : JsonElement) :
    Changes MachineStateUpdate.Measures
      (onMessagePrintJob culture host serialNumber printJSON) := by
  -- Every step writes properties of the job other than the usages.
  have hjob : ∀ configure : PrintJobUpdate → PrintJobUpdate,
      (∀ ju, (configure ju).spoolMaterialUsages = ju.spoolMaterialUsages) →
      Changes MachineStateUpdate.Measures (updateCurrentJob configure) :=
    fun configure h => .modify fun u => u.measures_updateCurrentJob h
  have hmetadata : ∀ metadata : PrefixedFixedLengthKeyValueMessage,
      Changes MachineStateUpdate.Measures (readMetadata host serialNumber metadata) := by
    intro metadata
    unfold readMetadata
    refine .bind (.ofExcept _) fun totalTime => .bind (.ofExcept _) fun path =>
      .bind (.ofExcept _) fun hash => .bind (.ofExcept _) fun gramsUsed =>
      .bind (hjob _ fun ju => rfl) fun _ => .bind (.forOption (fun thumbnailHash => ?_) _) fun _ =>
      .forOption (fun customID => ?_) _
    · exact hjob _ fun ju => rfl
    · exact hjob _ fun ju => rfl
  have htotal : Changes MachineStateUpdate.Measures calculateTotalTime := by
    unfold calculateTotalTime
    refine .get_bind fun u => ?_
    split
    · split
      · refine .bind (.ofExcept _) fun calculated => ?_
        split
        · exact hjob _ fun ju => rfl
        · exact .pure _
      · exact .pure _
    · exact .pure _
  unfold onMessagePrintJob
  refine .bind (.ofExcept _) fun percent => .bind (.forOption (fun percent => ?_) _) fun _ =>
    .bind (.ofExcept _) fun stage => .bind (.forOption (fun stage => ?_) _) fun _ =>
    .bind (.ofExcept _) fun name => .bind (.forOption (fun name => ?_) _) fun _ =>
    .bind (.ofExcept _) fun seconds => .bind (.forOption (fun seconds => ?_) _) fun _ =>
    .bind (.ofExcept _) fun speed => .bind (.forOption (fun speed => ?_) _) fun _ =>
    .bind (.ofExcept _) fun metadataID => .bind (.forOption (fun metadataID =>
      .forOption hmetadata _) _) fun _ => htotal
  all_goals exact hjob _ fun ju => rfl

theorem besideJob_onElementTemps (context : MessageContext) (printJSON : JsonElement)
    (targetTemper temper elementName : String) :
    Changes MeasuresBesideJob
      (onElementTemps context printJSON targetTemper temper elementName) := by
  unfold onElementTemps
  refine .bind (.ofExcept _) fun target => ?_
  split
  · exact .pure _
  · refine .bind (.ofExcept _) fun temp => ?_
    split
    · exact .pure _
    · refine .forOption (fun constraints => ?_) _
      exact besideJob_change (fun u => .of_eq rfl rfl rfl rfl) fun u => rfl

theorem besideJob_onMessageTemps (context : MessageContext) (printJSON : JsonElement) :
    Changes MeasuresBesideJob (onMessageTemps context printJSON) := by
  unfold onMessageTemps
  exact .bind (besideJob_onElementTemps _ _ _ _ _) fun _ =>
    .bind (besideJob_onElementTemps _ _ _ _ _) fun _ => besideJob_onElementTemps _ _ _ _ _

theorem besideJob_onMessagePrintDevices (devicesJSON : JsonElement) :
    Changes MeasuresBesideJob (onMessagePrintDevices devicesJSON) := by
  unfold onMessagePrintDevices
  exact .ofExcept_forM fun modeCurElem => .bind (.ofExcept _) fun modeCur =>
    besideJob_change (fun u => .of_eq rfl rfl rfl rfl) fun u => rfl

/-- A property of a unit that is no tray. -/
theorem besideJob_change_unit (amsSN : String) {configure : MUnitUpdate → MUnitUpdate}
    (hconfigure : ∀ mu, (configure mu).trays = mu.trays) :
    Changes MeasuresBesideJob (change (·.updateMaterialUnits amsSN configure)) := by
  refine besideJob_change (fun u => u.measures_updateMaterialUnits amsSN ?_) fun u => rfl
  intro mu k su hsu hremoves
  rw [hconfigure] at hsu
  exact ⟨su, hsu, hremoves⟩

theorem besideJob_updateTray (amsSN : String) (trayId : Int32)
    {configure : SpoolUpdate → SpoolUpdate}
    (hconfigure : ∀ su, (configure su).RemovesMaterial → su.RemovesMaterial) :
    Changes MeasuresBesideJob (updateTray amsSN trayId configure) := by
  refine besideJob_change (fun u => u.measures_updateMaterialUnits amsSN ?_) fun u => rfl
  intro mu k su hsu hremoves
  have hlookup : (mu.trays.update trayId (SpoolUpdate.setNumber trayId default)
      configure).lookup k = some su := hsu
  rw [DictionaryBuffer.lookup_update] at hlookup
  split at hlookup
  · cases hlookup
    have hold := hconfigure _ hremoves
    rename_i hk
    rw [hk]
    cases htray : mu.trays.lookup trayId with
    | none =>
      -- A fresh builder removes nothing.
      rw [htray] at hold
      cases hold.1
    | some su =>
      rw [htray] at hold
      exact ⟨su, rfl, hold⟩
  · exact ⟨su, hlookup, hremoves⟩

theorem not_removesMaterial_updateMaterial (configure : MaterialUpdate → MaterialUpdate)
    (su : SpoolUpdate) : ¬ (updateMaterial configure su).RemovesMaterial := by
  rintro ⟨-, hnone⟩
  cases hnone

theorem besideJob_onTray (host : Host) (amsSN : String) (trayElem : JsonElement) :
    Changes MeasuresBesideJob (onTray host amsSN trayElem) := by
  have hmaterial : ∀ (trayId : Int32) (configure : MaterialUpdate → MaterialUpdate),
      Changes MeasuresBesideJob (updateTray amsSN trayId (updateMaterial configure)) :=
    fun trayId configure => besideJob_updateTray amsSN trayId fun su h =>
      absurd h (not_removesMaterial_updateMaterial configure su)
  unfold onTray
  refine .bind (.ofExcept _) fun trayId => ?_
  split
  · exact .pure _
  · rename_i trayId _
    refine .bind (besideJob_updateTray amsSN trayId fun su h => h) fun _ =>
      .bind (.ofExcept _) fun trayType => .bind (.forOption (fun _ => hmaterial _ _) _) fun _ =>
      .bind (.ofExcept _) fun trayColor => .bind (.forOption (fun _ => ?_) _) fun _ =>
      .ofExcept_forM fun _ => hmaterial _ _
    exact .bind (.ofExcept _) fun color => hmaterial _ _

theorem besideJob_onUnit (host : Host) (amsSN : String) (amsElem : JsonElement) :
    Changes MeasuresBesideJob (onUnit host amsSN amsElem) := by
  unfold onUnit
  refine .bind (.ofExcept _) fun amsModel => .bind (.ofExcept _) fun capacity =>
    .bind (.ofExcept _) fun capabilities => .bind (.ofExcept _) fun constraints =>
    .bind (besideJob_change_unit amsSN fun mu => rfl) fun _ =>
    .bind (.ofExcept _) fun traysElem => .bind (.forOption (fun traysElem => ?_) _) fun _ =>
    .bind (.ofExcept _) fun tempC => .bind (.forOption (fun tempC => ?_) _) fun _ =>
    .bind (.ofExcept _) fun humidity => .bind (.forOption (fun humidity => ?_) _) fun _ =>
    .ofExcept_forM fun dryTime => ?_
  · exact .bind (.ofExcept _) fun trays => .forM (besideJob_onTray host amsSN) trays
  · exact besideJob_change_unit amsSN fun mu => rfl
  · exact besideJob_change_unit amsSN fun mu => rfl
  · split
    · exact .ofExcept_forM fun tempC => besideJob_change_unit amsSN fun mu => rfl
    · exact besideJob_change_unit amsSN fun mu => rfl

theorem besideJob_onMessagePrintMaterials (context : MessageContext) (printJSON : JsonElement) :
    Changes MeasuresBesideJob (onMessagePrintMaterials context printJSON) := by
  unfold onMessagePrintMaterials
  refine .ofExcept_forM fun amsArrayElem => .bind (.ofExcept _) fun units =>
    .forM (fun amsElem => ?_) units
  unfold onAMS
  refine .bind (.ofExcept _) fun amsId => ?_
  split
  · exact .pure _
  · refine .bind (.ofExcept _) fun amsId => ?_
    split
    · exact .modify fun data => ⟨⟨refl _, rfl, rfl, rfl⟩, rfl⟩
    · exact .ofExcept (.error Fault.nullReference)
    · exact besideJob_onUnit context.host _ amsElem

theorem besideJob_updateExtruder (number : Int32)
    (configure : MachineExtruderUpdate → MachineExtruderUpdate) :
    Changes MeasuresBesideJob (updateExtruder number configure) :=
  besideJob_change (fun _ => .of_eq rfl rfl rfl rfl) fun _ => rfl

theorem besideJob_setNozzleDiameter (number : Int32) (diameter : Double) :
    Changes MeasuresBesideJob (setNozzleDiameter number diameter) :=
  besideJob_change (fun _ => .of_eq rfl rfl rfl rfl) fun _ => rfl

theorem besideJob_updateExtruderSpool (context : MessageContext) (number : Int32)
    (trayId : UInt16) : Changes MeasuresBesideJob (updateExtruderSpool context number trayId) := by
  unfold updateExtruderSpool
  split
  · exact besideJob_updateExtruder _ _
  · split
    · exact besideJob_updateExtruder _ _
    · dsimp only
      split
      · exact besideJob_updateExtruder _ _
      · exact .modify fun data => ⟨⟨refl _, rfl, rfl, rfl⟩, rfl⟩

theorem besideJob_processExtruderElement (context : MessageContext) (extruder : JsonElement)
    (number : Int32) :
    Changes MeasuresBesideJob (processExtruderElement context extruder number) := by
  unfold processExtruderElement
  exact .bind (.forOption (fun _ => besideJob_updateExtruder _ _) _) fun _ =>
    .bind (.ofExcept _) fun temp =>
    .bind (.forOption (fun _ => besideJob_updateExtruder _ _) _) fun _ =>
    .bind (.ofExcept _) fun snow =>
    .bind (.forOption (fun _ => besideJob_updateExtruderSpool _ _ _) _) fun _ =>
    .ofExcept_forM fun _ => besideJob_updateExtruder _ _

theorem besideJob_onMessagePrintNozzles (context : MessageContext) (printJSON : JsonElement) :
    Changes MeasuresBesideJob (onMessagePrintNozzles context printJSON) := by
  unfold onMessagePrintNozzles
  refine .bind ?_ fun _ => ?_
  · unfold processLegacyNozzleData
    exact .bind (.ofExcept _) fun diameter =>
      .bind (.forOption (fun _ => besideJob_setNozzleDiameter _ _) _) fun _ =>
      .bind (.ofExcept _) fun temper =>
      .bind (.forOption (fun _ => besideJob_updateExtruder _ _) _) fun _ =>
      .ofExcept_forM fun _ => besideJob_updateExtruder _ _
  · unfold processAdvancedNozzleData
    refine .bind (.ofExcept _) fun nozzles => .bind (.forOption (fun nozzles => ?_) _) fun _ =>
      .ofExcept_forM fun extruders => .bind (.ofExcept _) fun elems =>
        .forM (fun extruder => ?_) elems
    · refine .bind (.ofExcept _) fun elems => .forM (fun nozzle => ?_) elems
      unfold onNozzle
      refine .bind (.ofExcept _) fun number => ?_
      split
      · exact .pure _
      · exact .ofExcept_forM fun _ => besideJob_setNozzleDiameter _ _
    · unfold onExtruder
      exact .ofExcept_forM fun number => besideJob_processExtruderElement context extruder number

theorem besideJob_onMessagePrintLighting (printJSON : JsonElement) :
    Changes MeasuresBesideJob (onMessagePrintLighting printJSON) := by
  unfold onMessagePrintLighting
  refine .ofExcept_forM fun lightsReport => .bind (.ofExcept _) fun lights =>
    .forM (fun light => ?_) lights
  unfold onLightFixture
  refine .bind (.ofExcept _) fun name => ?_
  split
  · exact .pure _
  · refine .ofExcept_forM fun mode => ?_
    split
    · exact besideJob_change (fun u => .of_eq rfl rfl rfl rfl) fun u => rfl
    · exact .pure _

/-! ### All of them -/

/-- The sections of `OnMessage` after the status. -/
def measuringSections (context : MessageContext) (printJSON : JsonElement) :
    EStateM Fault BBLMQTTData Unit := do
  onField changes setChanges
    (onMessagePrintJob context.culture context.host context.serialNumber printJSON)
  onMessageTemps context printJSON
  (← ofExcept (printJSON.tryGetProperty "device")).forM onMessagePrintDevices
  onMessagePrintMaterials context printJSON
  onMessagePrintNozzles context printJSON
  onMessagePrintLighting printJSON

theorem onMessagePrint_eq (context : MessageContext) (printJSON : JsonElement) :
    onMessagePrint context printJSON = (do
      onMessagePrintMQTTSecurity printJSON
      onMessagePrintSDCard printJSON
      onMessagePrintHMS context.host printJSON
      onMessagePrintGcodeState context printJSON
      measuringSections context printJSON) := rfl

/-- The sections after the job leave what it was read into alone. -/
theorem besideJob_sectionsAfterJob (context : MessageContext) (printJSON : JsonElement) :
    Changes MeasuresBesideJob (do
      onMessageTemps context printJSON
      (← ofExcept (printJSON.tryGetProperty "device")).forM onMessagePrintDevices
      onMessagePrintMaterials context printJSON
      onMessagePrintNozzles context printJSON
      onMessagePrintLighting printJSON) :=
  .bind (besideJob_onMessageTemps context printJSON) fun _ =>
    .bind (.ofExcept _) fun device =>
    .bind (.forOption besideJob_onMessagePrintDevices device) fun _ =>
    .bind (besideJob_onMessagePrintMaterials context printJSON) fun _ =>
    .bind (besideJob_onMessagePrintNozzles context printJSON) fun _ =>
    besideJob_onMessagePrintLighting printJSON

theorem measures_measuringSections (context : MessageContext) (printJSON : JsonElement) :
    Changes Measures (measuringSections context printJSON) := by
  have hjob : Changes Measures (onField changes setChanges
      (onMessagePrintJob context.culture context.host context.serialNumber printJSON)) :=
    .onField_of (measures_onMessagePrintJob _ _ _ _) fun data u hu => ⟨hu, rfl, rfl, rfl⟩
  exact .bind hjob fun _ =>
    (besideJob_sectionsAfterJob context printJSON).mono fun _ _ h => h.toMeasures

end BambuLab

end Connect3Dp
