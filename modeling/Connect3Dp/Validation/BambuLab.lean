import Connect3Dp.Runtime.Flags
import Connect3Dp.Validation.ReadOnlyTests

/-!
# The read-only tests on a Bambu Lab machine

Whatever is reported to a connection, what it says of its machine keeps to the model of the printer
(`Fits`): the capabilities are those of the model, without some that a restriction takes away, and
the units are what their serial numbers say. So the read-only tests of the specification of the
model do not fail (`validated_of_reachable`), but for the presence of the capabilities, which can
only miss what the restrictions take away.
-/

namespace Connect3Dp

open BambuLab Flags

namespace Validation

/-! ### Restrictions -/

/-- The capabilities that a restriction takes away. -/
def restrictable : MachineCapabilities :=
  BBLMachineConnection.securityGate ||| BBLMachineConnection.storageGate

/-- Their names. -/
theorem capabilityNames_restrictable {capabilities : MachineCapabilities}
    (h : capabilities &&& ~~~restrictable = 0) :
    ∀ name ∈ capabilityNames capabilities,
      name ∈ ["StartLocalJob", "Control", "AirDuct", "LocalJobs"] := by
  have hnames : ∀ cap ∈ capabilityValues, cap.2 ≠ MachineCapabilities.none →
      cap.2 &&& ~~~restrictable = 0 →
        cap.1 ∈ ["StartLocalJob", "Control", "AirDuct", "LocalJobs"] := by
    decide
  intro name hname
  obtain ⟨cap, hcap, rfl⟩ := List.mem_map.mp hname
  obtain ⟨hmem, hflag⟩ := List.mem_filter.mp hcap
  obtain ⟨hnone, hflag⟩ := of_decide_eq_true hflag
  refine hnames cap hmem hnone (within_trans ?_ h)
  rw [← hflag]
  exact and_within_left capabilities cap.2

/-! ### The features of a model and its specification -/

/-- **The specifications** of the Bambu Lab models expect what the models have, and only that. -/
theorem spec_of_model {spec : ModelSpec} (hspec : spec ∈ ModelSpecs.all)
    (hbrand : spec.brand = .bambuLab) :
    spec.expectedCapabilities &&& ~~~modelFeatures (some spec.modelName) = 0 ∧
    spec.explicitlyAbsentCapabilities &&&
      (modelFeatures (some spec.modelName) ||| MachineCapabilities.none) = 0 ∧
    spec.expectedHeatingConstraints.flatMap (temperatureFailures (some spec.modelName)) = [] := by
  revert hbrand
  revert spec
  decide

/-- The constraints of a serial number of the model are those of its specification. -/
theorem temperatureConstraintsTest_of_model {spec : ModelSpec} (hspec : spec ∈ ModelSpecs.all)
    (hbrand : spec.brand = .bambuLab) {serialNumber : String}
    (hmodel : getModelFromSerialNumber serialNumber = .ok spec.modelName) :
    temperatureConstraintsTest spec serialNumber =
      .ok (.pass ("All " ++ toString spec.expectedHeatingConstraints.length ++ " match")) := by
  have hsome : ∀ spec ∈ ModelSpecs.all, spec.expectedHeatingConstraints.isEmpty = false := by
    decide
  obtain ⟨-, -, hfailures⟩ := spec_of_model hspec hbrand
  rw [temperatureConstraintsTest, hsome spec hspec, hbrand, hmodel]
  change Except.ok (reportIssues (spec.expectedHeatingConstraints.flatMap
    (temperatureFailures (some spec.modelName))) _ _) = _
  rw [hfailures, reportIssues_nil]

end Validation

namespace BBLMachineConnection

open Validation

variable {Cron : Type}

/-- A connection that is tested. `hasData` is an observation: `MQTT_OnData` has been called. -/
structure Tested (Cron : Type) where
  connection : BBLMachineConnection Cron
  /-- `Configuration.SerialNumber` -/
  serialNumber : String
  hasData : Bool

namespace Tested

/-- What the connection says of its machine. -/
def state (σ : Tested Cron) : MachineState := σ.connection.machine.state

end Tested

/-- What the connection says keeps to the model of the printer: the capabilities are `None` until
data has been received, and after that they miss nothing but what a restriction takes away. -/
structure Fits (model : String) (σ : Tested Cron) : Prop where
  serialNumber : getModelFromSerialNumber σ.serialNumber = .ok model
  machineModel : σ.state.model = some model
  offered : σ.state.capabilities &&& ~~~(modelFeatures (some model) ||| .none) = 0
  silent : σ.hasData = false → σ.state.capabilities = .none
  kept : σ.hasData = true →
    modelFeatures (some model) &&& ~~~restrictable &&& ~~~σ.state.capabilities = 0

/-- A new connection to a printer of the model: nothing has been reported of its machine. -/
structure Unreported (model : String) (σ : Tested Cron) : Prop where
  serialNumber : getModelFromSerialNumber σ.serialNumber = .ok model
  model : σ.state.model = some model
  materialUnits : σ.state.materialUnits = ∅
  capabilities : σ.state.capabilities = .none
  hasData : σ.hasData = false

/-- The other parts say nothing of what the machine and its units are. -/
structure LeavesIdentity (u : MachineStateUpdate) : Prop where
  model : u.model.isSet = false
  capabilities : u.capabilities.isSet = false
  units : ∀ amsSN mu, u.materialUnits.lookup amsSN = some mu → mu.LeavesKind

/-- **What is computed** of a message fits, whatever the restrictions of the moment are. -/
theorem fits_capabilities (c : BBLMachineConnection Cron) (data : BBLMQTTData) :
    c.capabilities data &&& ~~~modelFeatures c.machine.state.model = 0 ∧
      modelFeatures c.machine.state.model &&& ~~~restrictable &&& ~~~c.capabilities data = 0 := by
  have hsecurity : (if data.usesUnsupportedSecurity = some true then securityGate else 0) &&&
      ~~~restrictable = 0 := by
    split
    · decide
    · decide
  have hstorage : (if !c.hasUSBOrSDCard && c.isUSBOrSDCardRequired then storageGate else 0) &&&
      ~~~restrictable = 0 := by
    split
    · decide
    · decide
  rw [capabilities_eq]
  exact ⟨within_trans (and_within_left _ _) (and_within_left _ _),
    kept_and_not (kept_and_not (and_within_left _ _) hsecurity) hstorage⟩

theorem sameUnits_ftpDisconnectedUpdate {host : Host} {c : BBLMachineConnection Cron}
    {u : MachineStateUpdate} (hu : c.ftpDisconnectedUpdate host = .ok u) :
    SameUnits default u := by
  unfold ftpDisconnectedUpdate at hu
  dsimp only at hu
  split at hu
  all_goals
    obtain ⟨hmodel, hunits⟩ := sameUnits_setNotifications hu
    exact ⟨hmodel, hunits⟩

/-- What the read-only tests find. A test that looks at a machine does not fail, unless a
restriction is in force, and then only for what the restrictions take away. The presence of the
capabilities is tested once there is data; until then there are none. -/
structure Validated (spec : ModelSpec) (σ : Tested Cron) : Prop where
  absence : capabilityAbsenceTest spec σ.state = .pass "None unexpected"
  presence : σ.hasData = true → capabilityPresenceTest spec σ.state = .pass "All present" ∨
    ∃ names, (∀ name ∈ names, name ∈ ["StartLocalJob", "Control", "AirDuct", "LocalJobs"]) ∧
      capabilityPresenceTest spec σ.state =
        .fail ("Missing " ++ toString names.length ++ " expected capabilities")
          (some (", ".intercalate names))
  silent : σ.hasData = false → σ.state.capabilities = .none
  temperature : ∃ message, temperatureConstraintsTest spec σ.serialNumber = .ok (.pass message)
  amsCapability : ∃ result, amsCapabilityValidationTest σ.state = .ok result ∧
    result.outcome ≠ .fail
  amsHeating : ∃ result, amsHeatingConstraintsTest σ.state = .ok result ∧ result.outcome ≠ .fail

theorem Fits.presence {spec : ModelSpec} {σ : Tested Cron} (hσ : Fits spec.modelName σ)
    (hexpected : spec.expectedCapabilities &&& ~~~modelFeatures (some spec.modelName) = 0)
    (hdata : σ.hasData = true) :
    capabilityPresenceTest spec σ.state = .pass "All present" ∨
    ∃ names, (∀ name ∈ names, name ∈ ["StartLocalJob", "Control", "AirDuct", "LocalJobs"]) ∧
      capabilityPresenceTest spec σ.state =
        .fail ("Missing " ++ toString names.length ++ " expected capabilities")
          (some (", ".intercalate names)) := by
  unfold capabilityPresenceTest
  dsimp only
  split
  · exact .inl rfl
  · exact .inr ⟨_, capabilityNames_restrictable (missing_within hexpected (hσ.kept hdata)), rfl⟩

/-- A connection that says the same of the model and the capabilities. -/
theorem Fits.of_same {model : String} {σ : Tested Cron} (hσ : Fits model σ)
    {c : BBLMachineConnection Cron}
    (hmodel : c.machine.state.model = σ.state.model)
    (hcapabilities : c.machine.state.capabilities = σ.state.capabilities) :
    Fits model { σ with connection := c } where
  serialNumber := hσ.serialNumber
  machineModel := hmodel.trans hσ.machineModel
  offered := by
    rw [Tested.state, hcapabilities]
    exact hσ.offered
  silent hdata := hcapabilities.trans (hσ.silent hdata)
  kept hdata := by
    rw [Tested.state, hcapabilities]
    exact hσ.kept hdata

/-! ### Runs -/

variable [DecidableEq Cron] [Hashable (HeatingSchedule Cron)] [Hashable (ScheduledPrint Cron)]

/-- What can happen to a connection between two tests. Its configuration may be exchanged for one
of another printer of the same model. -/
inductive TestedStep (culture : Culture) (toLower : String → String) :
    Tested Cron → Tested Cron → Prop
  | message (σ : Tested Cron) (host : Host) (env : Environment Cron)
    {root : JsonElement} {data : BBLMQTTData} (hread : WasRead culture toLower root data) :
    TestedStep culture toLower σ { σ with
      connection := finalState ((mqttOnData culture host env data).run σ.connection)
      hasData := true }
  | mqttDisconnected (σ : Tested Cron) (host : Host) (env : Environment Cron) (reason : String) :
    TestedStep culture toLower σ { σ with
      connection := finalState ((onDisconnected culture host env reason).run σ.connection)
      hasData := true }
  | ftpDisconnected (σ : Tested Cron) (host : Host) (env : Environment Cron) :
    TestedStep culture toLower σ { σ with
      connection := finalState ((onFTPDisconnected host env).run σ.connection) }
  | commit (σ : Tested Cron) (env : Environment Cron) {u : MachineStateUpdate}
    (hu : LeavesIdentity u) :
    TestedStep culture toLower σ { σ with
      connection := finalState ((commit env u).run σ.connection) }
  | configuration (σ : Tested Cron) {serialNumber : String}
    (hmodel : getModelFromSerialNumber serialNumber =
      getModelFromSerialNumber σ.serialNumber) :
    TestedStep culture toLower σ { σ with serialNumber }
  | other (σ : Tested Cron) {c : BBLMachineConnection Cron} (h : c.machine.state = σ.state) :
    TestedStep culture toLower σ { σ with connection := c }

variable {culture : Culture} {toLower : String → String} {host : Host} {env : Environment Cron}
  {σ σ' : Tested Cron} {data : BBLMQTTData} {u : MachineStateUpdate} {model : String}

/-- The model after a commit that does not set it. -/
theorem model_afterCommit_of_not_isSet (env : Environment Cron) (hu : u.model.isSet = false)
    (m : MachineConnection Cron) :
    (MachineConnection.afterCommit env u m).state.model = m.state.model := by
  have hstep := MachineConnection.commitStep_afterCommit env u m
  obtain ⟨-, hstate⟩ | ⟨-, -, hstate⟩ | ⟨-, -, -, c₁, units, hsame, hstate⟩ |
    ⟨-, -, -, c₁, hsame, hstate⟩ := MachineConnection.commitStep_state_cases hstep
  · rw [hstate]
  · rw [hstate]
    exact ScalarBuffer.apply_of_not_isSet hu _
  · rw [hstate, show m.state = c₁.state from hsame.symm]
    exact ScalarBuffer.apply_of_not_isSet hu _
  · rw [hstate, show m.state = c₁.state from hsame.symm]
    exact ScalarBuffer.apply_of_not_isSet hu _

/-- What can happen between two tests is among what can happen to the units. -/
theorem TestedStep.unitStep (h : TestedStep culture toLower σ σ') :
    UnitStep culture toLower σ.connection σ'.connection := by
  cases h with
  | message host env hread => exact .message σ.connection host env hread
  | mqttDisconnected host env reason => exact .disconnected σ.connection host env reason
  | ftpDisconnected host env =>
    obtain ⟨u, hu, -⟩ := σ.connection.exists_ftpDisconnectedUpdate host
    have hunits := (sameUnits_ftpDisconnectedUpdate hu).materialUnits
    rw [finalState_onFTPDisconnected hu, ← finalState_commit]
    refine .commit σ.connection env fun amsSN mu hmu => ?_
    rw [hunits] at hmu
    cases hmu
  | commit env hu => exact .commit σ.connection env hu.units
  | configuration hmodel => exact .other rfl
  | other h => exact .other h

/-- **Data that is received** leaves the capabilities of the model, but for the restrictions. -/
theorem Fits.mqttOnData (hσ : Fits model σ) (hkeeps : BBLMQTTData.KeepsKinds default data)
    (hharmless : data.changes.Harmless) :
    Fits model { σ with
      connection := finalState ((mqttOnData culture host env data).run σ.connection)
      hasData := true } := by
  obtain ⟨u, hu, hsame⟩ := σ.connection.sameUnits_dataUpdate culture host data
  have hmodel : u.model.isSet = false := by
    rw [hsame.model, hkeeps.machine]
    rfl
  have hcapabilities : (finalState ((BBLMachineConnection.mqttOnData culture host env data).run
      σ.connection)).machine.state.capabilities =
        (σ.connection.remember data).capabilities data :=
    capabilities_mqttOnData hharmless
  obtain ⟨hoffered, hkept⟩ := fits_capabilities (σ.connection.remember data) data
  have hfeatures : (σ.connection.remember data).machine.state.model = some model := hσ.machineModel
  rw [hfeatures, ← hcapabilities] at hoffered hkept
  refine ⟨hσ.serialNumber, ?_, within_trans hoffered (within_or_left _ _), nofun, fun _ => hkept⟩
  rw [Tested.state, finalState_mqttOnData hu]
  exact (model_afterCommit_of_not_isSet env hmodel σ.connection.machine).trans hσ.machineModel

theorem Fits.onFTPDisconnected (hσ : Fits model σ) :
    Fits model { σ with
      connection := finalState ((onFTPDisconnected host env).run σ.connection) } := by
  obtain ⟨u, hu, -⟩ := σ.connection.exists_ftpDisconnectedUpdate host
  have hmodel : u.model.isSet = false := by
    rw [(sameUnits_ftpDisconnectedUpdate hu).model]
    rfl
  have hstorage : storageGate &&& ~~~restrictable = 0 := by decide
  have hcapabilities : (finalState ((BBLMachineConnection.onFTPDisconnected host env).run
      σ.connection)).machine.state.capabilities = σ.state.capabilities &&& ~~~storageGate :=
    capabilities_onFTPDisconnected
  refine ⟨hσ.serialNumber, ?_, ?_, fun hdata => ?_, fun hdata => ?_⟩
  · rw [Tested.state, finalState_onFTPDisconnected hu]
    exact (model_afterCommit_of_not_isSet env hmodel σ.connection.machine).trans hσ.machineModel
  · rw [Tested.state, hcapabilities]
    exact within_trans (and_within_left _ _) hσ.offered
  · rw [Tested.state, hcapabilities, hσ.silent hdata]
    decide
  · rw [Tested.state, hcapabilities]
    exact kept_and_not (hσ.kept hdata) hstorage

/-- **One step** keeps to the model. -/
theorem Fits.step (hσ : Fits model σ) (h : TestedStep culture toLower σ σ') : Fits model σ' := by
  cases h with
  | message host env hread =>
    exact hσ.mqttOnData (keepsKinds_of_wasRead hread) (reads_of_wasRead hread).consistent.harmless
  | mqttDisconnected host env reason =>
    obtain ⟨data, hdata, hconsistent, -⟩ := exists_disconnectedData host reason
    rw [run_onDisconnected hdata]
    exact hσ.mqttOnData (keepsKinds_disconnectedData hdata) hconsistent.harmless
  | ftpDisconnected host env => exact hσ.onFTPDisconnected
  | @commit env u hu =>
    rw [finalState_commit]
    have hmodel : (MachineConnection.afterCommit env u σ.connection.machine).state.model =
        σ.state.model := model_afterCommit_of_not_isSet env hu.model σ.connection.machine
    have hcapabilities :
        (MachineConnection.afterCommit env u σ.connection.machine).state.capabilities =
          σ.state.capabilities :=
      capabilities_afterCommit_of_not_isSet env hu.capabilities σ.connection.machine
    exact hσ.of_same hmodel hcapabilities
  | configuration hmodel => exact { hσ with serialNumber := hmodel.trans hσ.serialNumber }
  | other h => exact hσ.of_same (congrArg _ h) (congrArg _ h)

/-- **In every run** what the connection says keeps to the model. -/
theorem fits_of_reachable (h : Reachable (Unreported model) (TestedStep culture toLower) σ) :
    Fits model σ := by
  refine h.induct (fun σ hinit => ⟨hinit.serialNumber, hinit.model, ?_, fun _ => hinit.capabilities,
    fun hdata => ?_⟩) fun _ _ _ hσ hstep => hσ.step hstep
  · rw [hinit.capabilities, BitVec.or_comm]
    exact within_or_left _ _
  · rw [hinit.hasData] at hdata
    cases hdata

/-- **The read-only tests** of the specification of the model hold what a run of the connection
says, whenever they look. -/
theorem validated_of_reachable {spec : ModelSpec} (hspec : spec ∈ ModelSpecs.all)
    (hbrand : spec.brand = .bambuLab)
    (h : Reachable (Unreported spec.modelName) (TestedStep culture toLower) σ) :
    Validated spec σ := by
  obtain ⟨hexpected, habsent, -⟩ := spec_of_model hspec hbrand
  have hσ := fits_of_reachable h
  have hunits : ∀ unit ∈ σ.state.materialUnits.values, ∃ amsSN, IsUnitKind amsSN unit.kind := by
    obtain ⟨σ₀, hinit, hrun⟩ := h
    have hvisited : Reachable Unvisited (UnitStep culture toLower) σ.connection :=
      ⟨σ₀.connection, hinit.materialUnits,
        hrun.lift Tested.connection fun _ _ hstep => hstep.unitStep⟩
    have hknows := units_of_reachable hvisited
    intro unit hmem
    obtain ⟨amsSN, hunit⟩ := Dictionary.mem_values_iff.mp hmem
    exact ⟨amsSN, (hknows amsSN unit hunit).2⟩
  refine ⟨?_, hσ.presence hexpected, hσ.silent,
    ⟨_, temperatureConstraintsTest_of_model hspec hbrand hσ.serialNumber⟩,
    ⟨_, amsCapabilityValidationTest_eq hunits, ?_⟩, amsHeatingConstraintsTest_of_isUnitKind hunits⟩
  · unfold capabilityAbsenceTest
    rw [and_eq_zero_of_within hσ.offered habsent]
    rfl
  · split
    · simp [TestResult.skip]
    · simp [TestResult.pass]

private def unreported : Tested Unit where
  connection := ⟨⟨default, { (default : MachineState) with model := some "P1S" }, default,
    ⟨[], false, 0⟩⟩, .initial none, none, none, false, false, true⟩
  serialNumber := "01P00A"
  hasData := false

/-- A message that says nothing to a printer without storage. -/
theorem validated_of_reachable_silent : ∃ σ : Tested Unit,
    σ.hasData = true ∧ σ.state.capabilities &&& storageGate = 0 ∧
      σ.state.capabilities ≠ .none ∧ Validated ModelSpecs.p1s σ := by
  let σ : Tested Unit := { unreported with
    connection := finalState ((mqttOnData .ordinal default ⟨default, fun _ => none⟩ default).run
      unreported.connection)
    hasData := true }
  have hread : WasRead .ordinal id (.object [("print", .object [])]) default :=
    ⟨default, none, .initial none, .initial none, rfl⟩
  have hunreported : Unreported "P1S" unreported := ⟨by decide, rfl, rfl, rfl, rfl⟩
  have hreach : Reachable (Unreported "P1S") (TestedStep .ordinal id) σ :=
    .tail (.refl hunreported) (.message unreported default _ hread)
  have hspec : ModelSpecs.p1s ∈ ModelSpecs.all := by decide
  exact ⟨σ, rfl, by decide +kernel, by decide +kernel, validated_of_reachable hspec rfl hreach⟩

end BBLMachineConnection

end Connect3Dp
