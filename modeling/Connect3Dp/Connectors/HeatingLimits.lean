import Connect3Dp.Connectors.HMSNotifications
import Connect3Dp.Connectors.MUHeating
import Connect3Dp.State.UnitKinds

/-!
# Heating within the limits of a unit

What an AMS unit is able to do, and how hot it may get, is not reported by the printer. It follows
from the first characters of the serial number (`unitKind`), and the only section of a message that
is about units says it before anything else of a unit. So all units of a Bambu Lab machine are what
their serial numbers say (`units_of_reachable`). This makes `BeginMUHeating` safe there: it never
comes to a unit that can heat and has no constraints, and whatever it sends is within the limits of
the model (`heating_of_reachable`).
-/

namespace Connect3Dp

/-- The second update says the same of the model of the machine and of its units. -/
structure SameUnits (u u' : MachineStateUpdate) : Prop where
  model : u'.model = u.model
  materialUnits : u'.materialUnits = u.materialUnits

instance : IsPreorder MachineStateUpdate SameUnits where
  refl _ := ⟨rfl, rfl⟩
  trans _ _ _ h h' := ⟨h'.model.trans h.model, h'.materialUnits.trans h.materialUnits⟩

theorem sameUnits_setNotifications {u u' : MachineStateUpdate} {utcNow : DateTimeOffset}
    {message : MachineMessage} (h : u.setNotifications utcNow message = .ok u') :
    SameUnits u u' := by
  unfold MachineStateUpdate.setNotifications at h
  split at h
  all_goals cases h
  exact ⟨rfl, rfl⟩

/-- Heating is gated and never faults if no later state makes the predicate throw and the unit
does not lack its constraints. -/
theorem MUHeatingGated.of_later {unitID : String} {settings : HeatingSettings} {s : MachineState}
    {later : MachineState → Prop}
    (hlater : ∀ s', later s' → ∃ observed, s'.isMUHeating unitID = .ok observed)
    (hconstrained : ¬ s.LacksConstraints unitID settings) :
    MUHeatingGated unitID settings s later := by
  obtain ⟨hmay, -, hpass⟩ | ⟨hlacks, -⟩ | ⟨hmay, -, reasoning, hfail⟩ :=
    s.refuseMUHeating_cases unitID settings
  · refine ⟨fun invoked result hends => ?_, fun _ _ => hmay, fun hnot => absurd hmay hnot⟩
    cases hends with
    | threw h => cases hpass.symm.trans h
    | refused h => rfl
    | @operated timeout events exit h hruns hpredicate =>
      cases exit with
      | predicateThrew ex =>
        obtain ⟨elapsed, hmem⟩ := hruns.predicate_of_threw
        obtain ⟨s', hs', hthrew⟩ := hpredicate _ elapsed hmem
        obtain ⟨observed, hok⟩ := hlater s' hs'
        rw [hok] at hthrew
        cases hthrew
      | _ => rfl
  · exact absurd hlacks hconstrained
  · have hends : ∀ invoked result, MUHeatingEnds unitID settings s later invoked result →
        invoked = false ∧ result = some (.fail reasoning) := by
      intro invoked result hends
      cases hends with
      | threw h => cases hfail.symm.trans h
      | refused h =>
        cases hfail.symm.trans h
        exact ⟨rfl, rfl⟩
      | operated h => cases hfail.symm.trans h
    refine ⟨fun invoked result h => ?_, fun result h => ?_,
      fun _ => ⟨reasoning, .refused hfail, hends⟩⟩
    · rw [(hends invoked result h).2]
      rfl
    · cases (hends true result h).1

namespace BambuLab

/-! ### Kinds of units -/

/-- What a unit is, by its serial number. -/
def unitKind (amsSN : String) : Except Fault MUnitKind := do
  let amsModel ← getAMSModelFromSN amsSN
  return {
    capacity := ← getAMSCapacityFromModel amsModel
    model := some amsModel
    capabilities := ← getAMSFeaturesFromModel amsModel
    heatingConstraints := ← getAMSHeatingConstraintsFromModel amsModel }

def IsUnitKind (amsSN : String) (kind : MUnitKind) : Prop := unitKind amsSN = .ok kind

/-- The temperature is within the limits of the model that the serial number says. -/
def WithinLimits (amsSN : String) (settings : HeatingSettings) : Prop :=
  ∃ amsModel constraints tempC, getAMSModelFromSN amsSN = .ok amsModel ∧
    getAMSHeatingConstraintsFromModel amsModel = .ok (some constraints) ∧
    settings.tempC = .finite tempC ∧ (constraints.minTempC.toInt : ℚ) ≤ tempC ∧
    tempC ≤ (constraints.maxTempC.toInt : ℚ)

variable {amsSN : String} {kind : MUnitKind}

theorem getAMSModelFromSN_cases {amsModel : String} (h : getAMSModelFromSN amsSN = .ok amsModel) :
    amsModel = "AMS" ∨ amsModel = "AMS Lite" ∨ amsModel = "AMS 2 Pro" ∨ amsModel = "AMS HT" := by
  unfold getAMSModelFromSN at h
  split at h
  · cases h
  · split at h
    all_goals cases h
    all_goals simp

theorem IsUnitKind.exists_model (h : IsUnitKind amsSN kind) :
    ∃ amsModel capacity capabilities constraints,
      getAMSModelFromSN amsSN = .ok amsModel ∧
      getAMSCapacityFromModel amsModel = .ok capacity ∧
      getAMSFeaturesFromModel amsModel = .ok capabilities ∧
      getAMSHeatingConstraintsFromModel amsModel = .ok constraints ∧
      kind = ⟨capacity, some amsModel, capabilities, constraints⟩ := by
  obtain ⟨amsModel, hmodel, h⟩ := bind_eq_ok_iff.mp h
  obtain ⟨capacity, hcapacity, h⟩ := bind_eq_ok_iff.mp h
  obtain ⟨capabilities, hcapabilities, h⟩ := bind_eq_ok_iff.mp h
  obtain ⟨constraints, hconstraints, h⟩ := bind_eq_ok_iff.mp h
  cases h
  exact ⟨amsModel, capacity, capabilities, constraints, hmodel, hcapacity, hcapabilities,
    hconstraints, rfl⟩

/-- **What can heat has constraints**, those of its model. -/
theorem IsUnitKind.heatingConstraints (h : IsUnitKind amsSN kind)
    (hheating : kind.capabilities &&& .heating ≠ 0) : ∃ amsModel constraints,
      getAMSModelFromSN amsSN = .ok amsModel ∧
      getAMSHeatingConstraintsFromModel amsModel = .ok (some constraints) ∧
      kind.heatingConstraints = some constraints := by
  obtain ⟨amsModel, capacity, capabilities, limits, hmodel, -, hcapabilities, hlimits, rfl⟩ :=
    h.exists_model
  obtain rfl | rfl | rfl | rfl := getAMSModelFromSN_cases hmodel
  all_goals cases hcapabilities; cases hlimits; dsimp only at hheating
  · exact absurd hheating (by decide)
  · exact absurd hheating (by decide)
  · exact ⟨_, _, hmodel, rfl, rfl⟩
  · exact ⟨_, _, hmodel, rfl, rfl⟩

/-! ### Messages -/

namespace BBLMQTTData

/-- The second reading says the same of the model of the machine. If the units of the first one are
what their serial numbers say, so are those of the second. -/
structure KeepsKinds (data data' : BBLMQTTData) : Prop where
  machine : data'.changes.model = data.changes.model
  units : data.changes.SaysKinds IsUnitKind → data'.changes.SaysKinds IsUnitKind

instance : IsPreorder BBLMQTTData KeepsKinds where
  refl _ := ⟨rfl, id⟩
  trans _ _ _ h h' := ⟨h'.machine.trans h.machine, h'.units ∘ h.units⟩

theorem KeepsKinds.of_sameUnits {data data' : BBLMQTTData}
    (h : SameUnits data.changes data'.changes) : KeepsKinds data data' :=
  ⟨h.model, fun hdata => MachineStateUpdate.saysKinds_of_eq hdata h.materialUnits⟩

theorem keepsKinds_change {f : MachineStateUpdate → MachineStateUpdate}
    (hf : ∀ u, SameUnits u (f u)) : Changes KeepsKinds (change f) :=
  .modify fun data => .of_sameUnits (hf data.changes)

theorem keepsKinds_notify (host : Host) (message : MachineMessage) :
    Changes KeepsKinds (notify host message) := by
  intro data
  have hget : (get : EStateM Fault BBLMQTTData _).run data = .ok data data := rfl
  cases hset : data.changes.setNotifications host.utcNow message with
  | error f =>
    rw [notify, run_bind_ok hget, hset]
    refine ⟨fun _ _ h => ?_, fun _ _ h => ?_⟩
    · cases h
    · cases h
      exact refl_of KeepsKinds data
  | ok u =>
    rw [run_notify_ok hset]
    refine ⟨fun _ _ h => ?_, fun _ _ h => ?_⟩
    · cases h
      exact .of_sameUnits (sameUnits_setNotifications hset)
    · cases h

end BBLMQTTData

open BBLMQTTData

theorem keepsKinds_onMessagePrintMQTTSecurity (printJSON : JsonElement) :
    Changes KeepsKinds (onMessagePrintMQTTSecurity printJSON) := by
  unfold onMessagePrintMQTTSecurity
  refine .bind (.ofExcept _) fun failed => .bind (.ofExcept _) fun reason => ?_
  split
  · exact .modify fun data => ⟨rfl, id⟩
  · exact .pure _

theorem keepsKinds_onMessagePrintSDCard (printJSON : JsonElement) :
    Changes KeepsKinds (onMessagePrintSDCard printJSON) := by
  unfold onMessagePrintSDCard
  exact .ofExcept_forM fun sdcard => .modify fun data => ⟨rfl, id⟩

theorem keepsKinds_onMessagePrintHMS (host : Host) (printJSON : JsonElement) :
    Changes KeepsKinds (onMessagePrintHMS host printJSON) := by
  unfold onMessagePrintHMS
  refine .ofExcept_forM fun hmsArray => .bind (.modify fun data => ⟨rfl, id⟩) fun _ =>
    .bind (.ofExcept _) fun entries => .forM (fun entry => ?_) entries
  unfold onHMSEntry
  refine .bind (.ofExcept _) fun numbers => ?_
  split
  · exact .pure _
  · exact .bind (.modify fun data => ⟨rfl, id⟩) fun _ => keepsKinds_notify host _

theorem keepsKinds_onMessagePrintGcodeState (context : MessageContext) (printJSON : JsonElement) :
    Changes KeepsKinds (onMessagePrintGcodeState context printJSON) := by
  unfold onMessagePrintGcodeState
  refine .bind (.ofExcept _) fun gcodeState => .bind (.forOption (fun gcodeState => ?_) _) fun _ =>
    .ofExcept_forM fun printError => ?_
  · exact .bind (.ofExcept _) fun status => keepsKinds_change fun u => ⟨rfl, rfl⟩
  · have hnotify : ∀ (covered : BBLMQTTData → Bool) (data : BBLMQTTData), Changes KeepsKinds
        (if (!covered data) = true then
          notify context.host (printErrorMessage (formatInt32X8 printError)) else pure ()) := by
      intro covered data
      split
      · exact keepsKinds_notify context.host _
      · exact .pure _
    unfold onPrintError
    split
    · refine .get_bind fun data => ?_
      dsimp only
      split
      · exact .bind (keepsKinds_change fun u => ⟨rfl, rfl⟩) fun _ => .get_bind (hnotify _)
      · exact .get_bind (hnotify _)
    · exact keepsKinds_change fun u => ⟨rfl, rfl⟩

theorem sameUnits_onMessagePrintJob (culture : Culture) (host : Host) (serialNumber : NetString)
    (printJSON : JsonElement) :
    Changes SameUnits (onMessagePrintJob culture host serialNumber printJSON) := by
  have hjob : ∀ configure, Changes SameUnits (updateCurrentJob configure) :=
    fun configure => .modify fun u => ⟨rfl, rfl⟩
  have hmetadata : ∀ metadata, Changes SameUnits (readMetadata host serialNumber metadata) := by
    intro metadata
    unfold readMetadata
    exact .bind (.ofExcept _) fun totalTime => .bind (.ofExcept _) fun path =>
      .bind (.ofExcept _) fun hash => .bind (.ofExcept _) fun gramsUsed =>
      .bind (hjob _) fun _ => .bind (.forOption (fun thumbnailHash => hjob _) _) fun _ =>
      .forOption (fun customID => hjob _) _
  have htotal : Changes SameUnits calculateTotalTime := by
    unfold calculateTotalTime
    refine .get_bind fun u => ?_
    split
    · split
      · refine .bind (.ofExcept _) fun calculated => ?_
        split
        · exact hjob _
        · exact .pure _
      · exact .pure _
    · exact .pure _
  unfold onMessagePrintJob
  exact .bind (.ofExcept _) fun percent => .bind (.forOption (fun percent => hjob _) _) fun _ =>
    .bind (.ofExcept _) fun stage => .bind (.forOption (fun stage => hjob _) _) fun _ =>
    .bind (.ofExcept _) fun name => .bind (.forOption (fun name => hjob _) _) fun _ =>
    .bind (.ofExcept _) fun seconds => .bind (.forOption (fun seconds => hjob _) _) fun _ =>
    .bind (.ofExcept _) fun speed => .bind (.forOption (fun speed => hjob _) _) fun _ =>
    .bind (.ofExcept _) fun metadataID => .bind (.forOption (fun metadataID =>
      .forOption hmetadata _) _) fun _ => htotal

theorem keepsKinds_onMessageTemps (context : MessageContext) (printJSON : JsonElement) :
    Changes KeepsKinds (onMessageTemps context printJSON) := by
  have helement : ∀ targetTemper temper elementName, Changes KeepsKinds
      (onElementTemps context printJSON targetTemper temper elementName) := by
    intro targetTemper temper elementName
    unfold onElementTemps
    refine .bind (.ofExcept _) fun target => ?_
    split
    · exact .pure _
    · refine .bind (.ofExcept _) fun temp => ?_
      split
      · exact .pure _
      · refine .forOption (fun constraints => ?_) _
        exact keepsKinds_change fun u => ⟨rfl, rfl⟩
  exact .bind (helement _ _ _) fun _ => .bind (helement _ _ _) fun _ => helement _ _ _

theorem keepsKinds_onMessagePrintDevices (devicesJSON : JsonElement) :
    Changes KeepsKinds (onMessagePrintDevices devicesJSON) := by
  unfold onMessagePrintDevices
  exact .ofExcept_forM fun modeCurElem => .bind (.ofExcept _) fun modeCur =>
    keepsKinds_change fun u => ⟨rfl, rfl⟩

/-! ### The section about the units -/

/-- A property of a unit that does not say what it is. -/
theorem keepsKinds_change_unit (amsSN : String) {configure : MUnitUpdate → MUnitUpdate}
    (hconfigure : ∀ mu : MUnitUpdate, mu.SaysKind (IsUnitKind amsSN) →
      (configure mu).SaysKind (IsUnitKind amsSN)) :
    Changes KeepsKinds (change (·.updateMaterialUnits amsSN configure)) :=
  .modify fun _ => ⟨rfl, fun hdata => hdata.updateMaterialUnits hconfigure⟩

theorem keepsKinds_updateTray (amsSN : String) (trayId : Int32)
    (configure : SpoolUpdate → SpoolUpdate) :
    Changes KeepsKinds (updateTray amsSN trayId configure) :=
  keepsKinds_change_unit amsSN fun _ hmu => hmu.congr rfl rfl rfl rfl

theorem keepsKinds_onTray (host : Host) (amsSN : String) (trayElem : JsonElement) :
    Changes KeepsKinds (onTray host amsSN trayElem) := by
  unfold onTray
  refine .bind (.ofExcept _) fun trayId => ?_
  split
  · exact .pure _
  · exact .bind (keepsKinds_updateTray _ _ _) fun _ =>
      .bind (.ofExcept _) fun trayType =>
      .bind (.forOption (fun _ => keepsKinds_updateTray _ _ _) _) fun _ =>
      .bind (.ofExcept _) fun trayColor =>
      .bind (.forOption (fun _ => .bind (.ofExcept _) fun color =>
        keepsKinds_updateTray _ _ _) _) fun _ =>
      .ofExcept_forM fun _ => keepsKinds_updateTray _ _ _

/-- **A unit is said to be what its serial number says.** -/
theorem keepsKinds_onUnit (host : Host) (amsSN : String) (amsElem : JsonElement) :
    Changes KeepsKinds (onUnit host amsSN amsElem) := by
  have hother : ∀ configure : MUnitUpdate → MUnitUpdate,
      (∀ mu, (configure mu).capacity = mu.capacity ∧ (configure mu).model = mu.model ∧
        (configure mu).capabilities = mu.capabilities ∧
        (configure mu).heatingConstraints = mu.heatingConstraints) →
      Changes KeepsKinds (change (·.updateMaterialUnits amsSN configure)) := by
    intro configure hconfigure
    refine keepsKinds_change_unit amsSN fun mu hmu => ?_
    obtain ⟨hcapacity, hmodel, hcapabilities, hconstraints⟩ := hconfigure mu
    exact hmu.congr hcapacity hmodel hcapabilities hconstraints
  unfold onUnit
  refine .ofExcept_bind (P := fun amsModel => getAMSModelFromSN amsSN = .ok amsModel)
    (fun _ h => h) fun amsModel hmodel => .ofExcept_bind
      (P := fun capacity => getAMSCapacityFromModel amsModel = .ok capacity)
    (fun _ h => h) fun capacity hcapacity => .ofExcept_bind
      (P := fun capabilities => getAMSFeaturesFromModel amsModel = .ok capabilities)
    (fun _ h => h) fun capabilities hcapabilities => .ofExcept_bind
      (P := fun constraints => getAMSHeatingConstraintsFromModel amsModel = .ok constraints)
    (fun _ h => h) fun constraints hconstraints => ?_
  have hkind : IsUnitKind amsSN ⟨capacity, some amsModel, capabilities, constraints⟩ := by
    rw [IsUnitKind, unitKind, hmodel, ok_bind, hcapacity, ok_bind, hcapabilities, ok_bind,
      hconstraints, ok_bind]
    rfl
  refine .bind (keepsKinds_change_unit amsSN fun mu _ => .inr ⟨_, hkind, rfl, rfl, rfl, rfl⟩)
    fun _ => .bind (.ofExcept _) fun trays => .bind (.forOption (fun trays => ?_) _) fun _ =>
    .bind (.ofExcept _) fun tempC => .bind (.forOption (fun tempC => ?_) _) fun _ =>
    .bind (.ofExcept _) fun humidity => .bind (.forOption (fun humidity => ?_) _) fun _ =>
    .ofExcept_forM fun dryTime => ?_
  · exact .bind (.ofExcept _) fun trays => .forM (keepsKinds_onTray host amsSN) trays
  · exact hother _ fun mu => ⟨rfl, rfl, rfl, rfl⟩
  · exact hother _ fun mu => ⟨rfl, rfl, rfl, rfl⟩
  · split
    · exact .ofExcept_forM fun tempC => hother _ fun mu => ⟨rfl, rfl, rfl, rfl⟩
    · exact hother _ fun mu => ⟨rfl, rfl, rfl, rfl⟩

theorem keepsKinds_onMessagePrintMaterials (context : MessageContext) (printJSON : JsonElement) :
    Changes KeepsKinds (onMessagePrintMaterials context printJSON) := by
  unfold onMessagePrintMaterials
  refine .ofExcept_forM fun amsArrayElem => .bind (.ofExcept _) fun units =>
    .forM (fun amsElem => ?_) units
  unfold onAMS
  refine .bind (.ofExcept _) fun amsId => ?_
  split
  · exact .pure _
  · refine .bind (.ofExcept _) fun amsId => ?_
    split
    · exact .modify fun data => ⟨rfl, id⟩
    · exact .ofExcept (.error Fault.nullReference)
    · exact keepsKinds_onUnit context.host _ amsElem

/-! ### The sections after the units -/

theorem keepsKinds_updateExtruder (number : Int32)
    (configure : MachineExtruderUpdate → MachineExtruderUpdate) :
    Changes KeepsKinds (updateExtruder number configure) :=
  keepsKinds_change fun _ => ⟨rfl, rfl⟩

theorem keepsKinds_setNozzleDiameter (number : Int32) (diameter : Double) :
    Changes KeepsKinds (setNozzleDiameter number diameter) :=
  keepsKinds_change fun _ => ⟨rfl, rfl⟩

theorem keepsKinds_processExtruderElement (context : MessageContext) (extruder : JsonElement)
    (number : Int32) :
    Changes KeepsKinds (processExtruderElement context extruder number) := by
  have hspool : ∀ trayId, Changes KeepsKinds (updateExtruderSpool context number trayId) := by
    intro trayId
    unfold updateExtruderSpool
    split
    · exact keepsKinds_updateExtruder _ _
    · split
      · exact keepsKinds_updateExtruder _ _
      · dsimp only
        split
        · exact keepsKinds_updateExtruder _ _
        · exact .modify fun data => ⟨rfl, id⟩
  unfold processExtruderElement
  exact .bind (.forOption (fun _ => keepsKinds_updateExtruder _ _) _) fun _ =>
    .bind (.ofExcept _) fun temp =>
    .bind (.forOption (fun _ => keepsKinds_updateExtruder _ _) _) fun _ =>
    .bind (.ofExcept _) fun snow => .bind (.forOption (fun _ => hspool _) _) fun _ =>
    .ofExcept_forM fun _ => keepsKinds_updateExtruder _ _

theorem keepsKinds_onMessagePrintNozzles (context : MessageContext) (printJSON : JsonElement) :
    Changes KeepsKinds (onMessagePrintNozzles context printJSON) := by
  unfold onMessagePrintNozzles
  refine .bind ?_ fun _ => ?_
  · unfold processLegacyNozzleData
    exact .bind (.ofExcept _) fun diameter =>
      .bind (.forOption (fun _ => keepsKinds_setNozzleDiameter _ _) _) fun _ =>
      .bind (.ofExcept _) fun temper =>
      .bind (.forOption (fun _ => keepsKinds_updateExtruder _ _) _) fun _ =>
      .ofExcept_forM fun _ => keepsKinds_updateExtruder _ _
  · unfold processAdvancedNozzleData
    refine .bind (.ofExcept _) fun nozzles => .bind (.forOption (fun nozzles => ?_) _) fun _ =>
      .ofExcept_forM fun extruders => .bind (.ofExcept _) fun elems =>
        .forM (fun extruder => ?_) elems
    · refine .bind (.ofExcept _) fun elems => .forM (fun nozzle => ?_) elems
      unfold onNozzle
      refine .bind (.ofExcept _) fun number => ?_
      split
      · exact .pure _
      · exact .ofExcept_forM fun _ => keepsKinds_setNozzleDiameter _ _
    · unfold onExtruder
      exact .ofExcept_forM fun number => keepsKinds_processExtruderElement context extruder number

theorem keepsKinds_onMessagePrintLighting (printJSON : JsonElement) :
    Changes KeepsKinds (onMessagePrintLighting printJSON) := by
  unfold onMessagePrintLighting
  refine .ofExcept_forM fun lightsReport => .bind (.ofExcept _) fun lights =>
    .forM (fun light => ?_) lights
  unfold onLightFixture
  refine .bind (.ofExcept _) fun name => ?_
  split
  · exact .pure _
  · refine .ofExcept_forM fun mode => ?_
    split
    · exact keepsKinds_change fun u => ⟨rfl, rfl⟩
    · exact .pure _

/-! ### All of a message -/

theorem keepsKinds_onMessagePrint (context : MessageContext) (printJSON : JsonElement) :
    Changes KeepsKinds (onMessagePrint context printJSON) := by
  have hjob : Changes KeepsKinds (onField changes setChanges
      (onMessagePrintJob context.culture context.host context.serialNumber printJSON)) :=
    .onField_of (sameUnits_onMessagePrintJob _ _ _ _) fun _ _ hsame => .of_sameUnits hsame
  unfold onMessagePrint
  exact .bind (keepsKinds_onMessagePrintMQTTSecurity printJSON) fun _ =>
    .bind (keepsKinds_onMessagePrintSDCard printJSON) fun _ =>
    .bind (keepsKinds_onMessagePrintHMS context.host printJSON) fun _ =>
    .bind (keepsKinds_onMessagePrintGcodeState context printJSON) fun _ =>
    .bind hjob fun _ =>
    .bind (keepsKinds_onMessageTemps context printJSON) fun _ =>
    .bind (.ofExcept _) fun device =>
    .bind (.forOption keepsKinds_onMessagePrintDevices device) fun _ =>
    .bind (keepsKinds_onMessagePrintMaterials context printJSON) fun _ =>
    .bind (keepsKinds_onMessagePrintNozzles context printJSON) fun _ =>
    keepsKinds_onMessagePrintLighting printJSON

theorem saysKinds_default : (default : MachineStateUpdate).SaysKinds IsUnitKind := by
  intro id mu hmu
  cases hmu

/-- What a message is read into does not say what the model of the machine is, and it says of no
unit that it is anything but what its serial number says. -/
theorem keepsKinds_of_wasRead {culture : Culture} {toLower : String → String} {root : JsonElement}
    {data : BBLMQTTData} (hread : BBLMachineConnection.WasRead culture toLower root data) :
    KeepsKinds default data := by
  obtain ⟨host, model, mqtt, mqtt', hrun⟩ := hread
  obtain ⟨data₁, firmwareVersion, hdata, rfl⟩ := exists_readPrint_of_run_onMessage hrun
  obtain ⟨-, rfl⟩ | ⟨printJSON, -, hprint⟩ := readPrint_cases hdata
  · exact ⟨rfl, id⟩
  · have hkeeps : KeepsKinds default data₁ := (keepsKinds_onMessagePrint _ _ default).1 _ _ hprint
    exact ⟨hkeeps.machine, hkeeps.units⟩

theorem keepsKinds_disconnectedData {host : Host} {reason : String} {data : BBLMQTTData}
    (h : BBLMachineConnection.disconnectedData host reason = .ok data) :
    KeepsKinds default data := by
  cases h
  exact ⟨rfl, id⟩

end BambuLab

/-! ### Runs -/

namespace BBLMachineConnection

open BambuLab

variable {Cron : Type}

/-- The update of `MQTT_OnData` says of the model and of the units what the message says. -/
theorem sameUnits_dataUpdate (culture : Culture) (host : Host) (c : BBLMachineConnection Cron)
    (data : BBLMQTTData) :
    ∃ u, c.dataUpdate culture host data = .ok u ∧ SameUnits data.changes u := by
  obtain ⟨v, hv, -, stale, hu, -⟩ := c.exists_dataUpdate_eq culture host data
  have hstorage : SameUnits data.changes v := by
    unfold reportStorage at hv
    split at hv
    · dsimp only at hv
      split_ifs at hv
      · cases hv
        exact ⟨rfl, rfl⟩
      · exact sameUnits_setNotifications hv
      · cases hv
        exact ⟨rfl, rfl⟩
      · cases hv
        exact ⟨rfl, rfl⟩
    · cases hv
      exact ⟨rfl, rfl⟩
  exact ⟨_, hu, ⟨hstorage.model, hstorage.materialUnits⟩⟩

/-- Every unit is stored under its serial number, and is what the number says. -/
def KnowsUnits (c : BBLMachineConnection Cron) : Prop :=
  ∀ amsSN m, c.machine.state.materialUnits.tryGetValue amsSN = some m →
    m.id = some amsSN ∧ IsUnitKind amsSN m.kind

/-- A unit that is what its serial number says has constraints if it can heat. -/
theorem KnowsUnits.not_lacksConstraints {c : BBLMachineConnection Cron} (hc : c.KnowsUnits)
    (unitID : String) (settings : HeatingSettings) :
    ¬ c.machine.state.LacksConstraints unitID settings := by
  rintro ⟨unit, hunit, ⟨hheating, -⟩, hnone⟩
  obtain ⟨-, constraints, -, -, hconstraints⟩ :=
    (hc unitID unit hunit).2.heatingConstraints hheating
  cases hnone.symm.trans hconstraints

theorem KnowsUnits.withinLimits {c : BBLMachineConnection Cron} (hc : c.KnowsUnits)
    {unitID : String} {settings : HeatingSettings}
    (hmay : c.machine.state.MayHeat unitID settings) : WithinLimits unitID settings := by
  obtain ⟨unit, hunit, ⟨hheating, -⟩, constraints, tempC, hadmitted, htempC, hlow, hhigh⟩ := hmay
  obtain ⟨amsModel, constraints', hmodel, hlimits, hconstraints⟩ :=
    (hc unitID unit hunit).2.heatingConstraints hheating
  cases hadmitted.symm.trans hconstraints
  exact ⟨amsModel, constraints, tempC, hmodel, hlimits, htempC, hlow, hhigh⟩

variable [DecidableEq Cron] [Hashable (HeatingSchedule Cron)] [Hashable (ScheduledPrint Cron)]

/-- What can happen to a connection. The commits of the base class, of the FTP connection and of the
camera coordinator say nothing of what a unit is. -/
inductive UnitStep (culture : Culture) (toLower : String → String) :
    BBLMachineConnection Cron → BBLMachineConnection Cron → Prop
  | message (c : BBLMachineConnection Cron) (host : Host) (env : Environment Cron)
    {root : JsonElement} {data : BBLMQTTData} (hread : WasRead culture toLower root data) :
    UnitStep culture toLower c (finalState ((mqttOnData culture host env data).run c))
  | disconnected (c : BBLMachineConnection Cron) (host : Host) (env : Environment Cron)
    (reason : String) :
    UnitStep culture toLower c (finalState ((onDisconnected culture host env reason).run c))
  | commit (c : BBLMachineConnection Cron) (env : Environment Cron) {u : MachineStateUpdate}
    (hu : ∀ amsSN mu, u.materialUnits.lookup amsSN = some mu → mu.LeavesKind) :
    UnitStep culture toLower c (finalState ((commit env u).run c))
  | other {c c' : BBLMachineConnection Cron} (h : c'.machine.state = c.machine.state) :
    UnitStep culture toLower c c'

variable {culture : Culture} {toLower : String → String} {host : Host} {env : Environment Cron}
  {c c' : BBLMachineConnection Cron} {data : BBLMQTTData} {u : MachineStateUpdate}

theorem KnowsUnits.afterCommit (hc : c.KnowsUnits) (hu : u.SaysKinds IsUnitKind)
    {machine : MachineConnection Cron} (hmachine : machine.state = c.machine.state)
    {amsSN : String} {m : MUnit}
    (hm : (MachineConnection.afterCommit env u machine).state.materialUnits.tryGetValue amsSN =
      some m) : m.id = some amsSN ∧ IsUnitKind amsSN m.kind := by
  obtain ⟨c₁, hsame, hstate⟩ := machine.state_commit (.alone env u)
  have hc₁ : c₁.state = c.machine.state := Eq.trans hsame hmachine
  have hm' : (finalState (((c₁.preprocessUpdate u).appendUpdate c₁.heap.ops).run
      c₁.state)).materialUnits.tryGetValue amsSN = some m := hstate ▸ hm
  have hsays : (c₁.preprocessUpdate u).SaysKinds IsUnitKind :=
    MachineStateUpdate.saysKinds_of_eq hu rfl
  constructor
  · exact MachineStateUpdate.unitIDs_appendUpdate
      (fun amsSN m hm => (hc amsSN m (hc₁ ▸ hm)).1) hm'
  · exact MachineStateUpdate.kinds_appendUpdate hsays
      (fun amsSN m hm => (hc amsSN m (hc₁ ▸ hm)).2) hm'

theorem KnowsUnits.mqttOnData (hc : c.KnowsUnits) (hdata : data.changes.SaysKinds IsUnitKind) :
    (finalState ((mqttOnData culture host env data).run c)).KnowsUnits := by
  obtain ⟨u, hu, hunits⟩ := c.sameUnits_dataUpdate culture host data
  rw [finalState_mqttOnData hu]
  exact fun amsSN m hm =>
    hc.afterCommit (MachineStateUpdate.saysKinds_of_eq hdata hunits.materialUnits) rfl hm

/-- **One step** keeps the units what their serial numbers say. -/
theorem KnowsUnits.step (hc : c.KnowsUnits) (h : UnitStep culture toLower c c') :
    c'.KnowsUnits := by
  cases h with
  | message host env hread =>
    exact hc.mqttOnData ((keepsKinds_of_wasRead hread).units saysKinds_default)
  | disconnected host env reason =>
    obtain ⟨data, hdata, -⟩ := exists_disconnectedData host reason
    rw [run_onDisconnected hdata]
    exact hc.mqttOnData ((keepsKinds_disconnectedData hdata).units saysKinds_default)
  | commit env hu =>
    rw [finalState_commit]
    exact fun amsSN m hm => hc.afterCommit (fun id mu hmu => .inl (hu id mu hmu)) rfl hm
  | other h =>
    intro amsSN m hm
    exact hc amsSN m (h ▸ hm)

/-- A machine of which no unit is known. -/
def Unvisited (c : BBLMachineConnection Cron) : Prop := c.machine.state.materialUnits = ∅

/-- **Every unit is what its serial number says**, in every run. -/
theorem units_of_reachable (h : Reachable Unvisited (UnitStep culture toLower) c) :
    c.KnowsUnits := by
  refine h.induct (fun c hinit amsSN m hm => ?_) fun _ _ _ hc hstep => hc.step hstep
  rw [hinit] at hm
  cases hm

/-! ### Heating -/

/-- The states from here on. -/
def Later (culture : Culture) (toLower : String → String) (c : BBLMachineConnection Cron)
    (s : MachineState) : Prop :=
  ∃ c', Relation.ReflTransGen (UnitStep culture toLower) c c' ∧ s = c'.machine.state

/-- **Heating is safe** in every run. A call always ends with a result, it sends the command only
where the unit is able to heat and the temperature is within the limits of its model, and it fails
everywhere else. -/
theorem heating_of_reachable (h : Reachable Unvisited (UnitStep culture toLower) c)
    (unitID : String) (settings : HeatingSettings) :
    MUHeatingGated unitID settings c.machine.state (Later culture toLower c) ∧
    ∀ result, MUHeatingEnds unitID settings c.machine.state (Later culture toLower c) true result →
      WithinLimits unitID settings := by
  have hunits := units_of_reachable h
  have hgated : MUHeatingGated unitID settings c.machine.state (Later culture toLower c) := by
    refine .of_later ?_ (hunits.not_lacksConstraints unitID settings)
    rintro _ ⟨c', hlater, rfl⟩
    obtain ⟨c₀, hinit, hrun⟩ := h
    have hunits' := units_of_reachable ⟨c₀, hinit, hrun.trans hlater⟩
    exact MachineState.isMUHeating_ok (fun id m hm => (hunits' id m hm).1) unitID
  exact ⟨hgated, fun result hends => hunits.withinLimits (hgated.guarded result hends)⟩

private def unheated : BBLMachineConnection Unit :=
  ⟨⟨default, default, default, ⟨[], false, 0⟩⟩, .initial none, none, none, false, false, false⟩

/-- A message about an AMS 2 Pro that holds nothing. -/
private def unitReport : JsonElement :=
  .object [("print", .object [("ams", .object [("ams", .array [.object [("id", .string "0")]])])])]

private def reportedData : BBLMQTTData :=
  { (default : BBLMQTTData) with
    changes := (default : MachineStateUpdate).updateMaterialUnits "19C06A" fun ams => { ams with
      capacity := ams.capacity.set 4
      model := ams.model.set (some "AMS 2 Pro")
      capabilities := ams.capabilities.set
        (.automaticFeeding ||| .humidity ||| .temperature ||| .heating ||| .heatingCanSpin)
      heatingConstraints := ams.heatingConstraints.set (some ⟨45, 65⟩) } }

/-- The serial number of the unit is known. -/
private theorem wasRead_unitReport : WasRead .ordinal id unitReport reportedData := by
  let host : Host :=
    { (default : Host) with parseInt32 := fun s => if s = "0" then some 0 else none }
  let mqtt : BBLMQTTConnection :=
    { BBLMQTTConnection.initial none with
      amsIDToSN := (∅ : Dictionary Int32 NetString).set 0 (some "19C06A") }
  exact ⟨host, none, mqtt, mqtt, rfl⟩

/-- After the message the unit may be heated to 55 °C. -/
theorem heating_of_reachable_reported : ∃ c : BBLMachineConnection Unit,
    c.machine.state.MayHeat "19C06A" ⟨.finite 55, .zero, none⟩ ∧
    MUHeatingGated "19C06A" ⟨.finite 55, .zero, none⟩ c.machine.state (Later .ordinal id c) := by
  let c : BBLMachineConnection Unit := finalState
    ((mqttOnData .ordinal default ⟨default, fun _ => none⟩ reportedData).run unheated)
  have hunvisited : Unvisited unheated := rfl
  have hreach : Reachable Unvisited (UnitStep .ordinal id) c :=
    .tail (.refl hunvisited) (.message unheated default _ wasRead_unitReport)
  have hunit : c.machine.state.materialUnits.tryGetValue "19C06A" = some
      { (default : MUnit) with
        id := some "19C06A"
        capacity := 4
        model := some "AMS 2 Pro"
        capabilities := .automaticFeeding ||| .humidity ||| .temperature ||| .heating |||
          .heatingCanSpin
        heatingConstraints := some ⟨45, 65⟩ } := by
    rfl
  have hadmits : (((45 : Int32).toInt : ℤ) : ℚ) ≤ 55 ∧ (55 : ℚ) ≤ ((65 : Int32).toInt : ℤ) := by
    decide +kernel
  exact ⟨c, ⟨_, hunit, ⟨by decide, fun h => by cases h⟩, ⟨45, 65⟩, 55, rfl, rfl, hadmits⟩,
    (heating_of_reachable hreach "19C06A" ⟨.finite 55, .zero, none⟩).1⟩

end BBLMachineConnection

end Connect3Dp
