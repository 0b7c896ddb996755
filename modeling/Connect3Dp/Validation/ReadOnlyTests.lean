import Connect3Dp.Connectors.BambuLabGates
import Connect3Dp.Connectors.HeatingLimits
import Connect3Dp.State.MaterialChange

/-!
# The read-only tests of the validation tool

The validation tool connects to a printer and checks what the connector says of it against the
specification of its model (`ModelSpecs.all`). Its read-only tests look at the state of the machine.
For a Bambu Lab machine five of them cannot fail, in whatever state of a run they look: the
capabilities follow from the model, and what the units are follows from their serial numbers
(`HeatingLimits`). The presence of the capabilities is the exception. It fails where a restriction
is in force, and then it names nothing else than what the restrictions take away
(`validated_of_reachable`).
-/

namespace Connect3Dp

namespace Validation

/-! ### Results -/

inductive TestOutcome
  | pass
  | fail
  | skip
  deriving DecidableEq

structure TestResult where
  outcome : TestOutcome
  message : String
  detail : Option String
  deriving DecidableEq

namespace TestResult

def pass (message : String) : TestResult := ⟨.pass, message, none⟩

def fail (message : String) (detail : Option String) : TestResult := ⟨.fail, message, detail⟩

def skip (message : String) : TestResult := ⟨.skip, message, none⟩

end TestResult

/-- A result of the issues that were found, or else the given one. -/
def reportIssues (issues : List String) (what : String) (passed : TestResult) : TestResult :=
  if 0 < issues.length then
    .fail (toString issues.length ++ what) (some ("; ".intercalate issues))
  else passed

@[simp]
theorem reportIssues_nil (what : String) (passed : TestResult) :
    reportIssues [] what passed = passed := rfl

/-! ### Specifications of models -/

inductive PrinterBrand
  | bambuLab
  | elegoo
  | creality
  deriving DecidableEq

/-- What the tests below read of a `ModelSpec`. -/
structure ModelSpec where
  brand : PrinterBrand
  modelName : String
  expectedCapabilities : MachineCapabilities
  explicitlyAbsentCapabilities : MachineCapabilities
  expectedHeatingConstraints : List (String × HeatingConstraints)
  deriving DecidableEq

namespace ModelSpecs

open MachineCapabilities

def bblBase : MachineCapabilities :=
  startLocalJob ||| localJobs ||| control ||| lighting ||| printHistory ||| printOptionsBedLevel

def bblWithFlowCali : MachineCapabilities := bblBase ||| printOptionsFlowCalibration

def bblWithFlowAndInspect : MachineCapabilities :=
  bblWithFlowCali ||| printOptionsInspectFirstLayer

def x1c : ModelSpec where
  brand := .bambuLab
  modelName := "X1C"
  expectedCapabilities := bblWithFlowAndInspect
  explicitlyAbsentCapabilities := airDuct
  expectedHeatingConstraints := [("Bed", ⟨20, 110⟩), ("Nozzle", ⟨20, 300⟩)]

def x1e : ModelSpec where
  brand := .bambuLab
  modelName := "X1E"
  expectedCapabilities := bblWithFlowAndInspect
  explicitlyAbsentCapabilities := airDuct
  expectedHeatingConstraints :=
    [("Bed", ⟨20, 120⟩), ("Nozzle", ⟨20, 320⟩), ("Chamber", ⟨40, 60⟩)]

def p1s : ModelSpec where
  brand := .bambuLab
  modelName := "P1S"
  expectedCapabilities := bblBase
  explicitlyAbsentCapabilities :=
    airDuct ||| printOptionsInspectFirstLayer ||| printOptionsFlowCalibration
  expectedHeatingConstraints := [("Bed", ⟨20, 100⟩), ("Nozzle", ⟨20, 300⟩)]

def p2s : ModelSpec where
  brand := .bambuLab
  modelName := "P2S"
  expectedCapabilities := bblWithFlowCali ||| airDuct
  explicitlyAbsentCapabilities := printOptionsInspectFirstLayer
  expectedHeatingConstraints := [("Bed", ⟨20, 110⟩), ("Nozzle", ⟨20, 300⟩)]

def a1 : ModelSpec where
  brand := .bambuLab
  modelName := "A1"
  expectedCapabilities := bblWithFlowCali
  explicitlyAbsentCapabilities := airDuct ||| printOptionsInspectFirstLayer
  expectedHeatingConstraints := [("Bed", ⟨20, 100⟩), ("Nozzle", ⟨20, 300⟩)]

def a1Mini : ModelSpec where
  brand := .bambuLab
  modelName := "A1 Mini"
  expectedCapabilities := bblWithFlowCali
  explicitlyAbsentCapabilities := airDuct ||| printOptionsInspectFirstLayer
  expectedHeatingConstraints := [("Bed", ⟨20, 100⟩), ("Nozzle", ⟨20, 300⟩)]

def centauriCarbon : ModelSpec where
  brand := .elegoo
  modelName := "Centauri Carbon"
  expectedCapabilities := startLocalJob ||| control ||| lighting
  explicitlyAbsentCapabilities := airDuct ||| printHistory ||| printOptionsInspectFirstLayer |||
    printOptionsFlowCalibration ||| printOptionsBedLevel
  expectedHeatingConstraints := [("Bed", ⟨0, 110⟩), ("Nozzle", ⟨0, 300⟩)]

def k1c : ModelSpec where
  brand := .creality
  modelName := "K1C"
  expectedCapabilities := startLocalJob ||| control ||| lighting
  explicitlyAbsentCapabilities := airDuct ||| printOptionsInspectFirstLayer |||
    printOptionsFlowCalibration ||| printOptionsBedLevel
  expectedHeatingConstraints :=
    [("Bed", ⟨0, 100⟩), ("Nozzle", ⟨0, 300⟩), ("Chamber", ⟨0, 60⟩)]

def all : List ModelSpec := [x1c, x1e, p1s, p2s, a1, a1Mini, centauriCarbon, k1c]

end ModelSpecs

/-! ### Tests of the capabilities -/

/-- `Enum.GetValues<MachineCapabilities>()`, with the names. -/
def capabilityValues : List (String × MachineCapabilities) :=
  [("None", .none), ("StartLocalJob", .startLocalJob), ("Control", .control),
    ("Lighting", .lighting), ("AirDuct", .airDuct),
    ("Print_Options_BedLevel", .printOptionsBedLevel),
    ("Print_Options_FlowCalibration", .printOptionsFlowCalibration),
    ("Print_Options_VibrationCalibration", 1 <<< 9),
    ("Print_Options_InspectFirstLayer", .printOptionsInspectFirstLayer), ("Fans", .fans),
    ("Camera", .camera), ("Nozzles", 1 <<< 13), ("PrintHistory", .printHistory),
    ("LocalJobs", .localJobs), ("Temps", .temps), ("PrintSpeedControl", .printSpeedControl)]

/-- The names of the flags, but for `None`. -/
def capabilityNames (capabilities : MachineCapabilities) : List String :=
  (capabilityValues.filter fun cap =>
    cap.2 ≠ MachineCapabilities.none ∧ capabilities &&& cap.2 = cap.2).map Prod.fst

/-- `CapabilityPresenceTest`. -/
def capabilityPresenceTest (spec : ModelSpec) (s : MachineState) : TestResult :=
  let missing := spec.expectedCapabilities &&& ~~~s.capabilities
  if missing = 0 then .pass "All present"
  else
    let missingNames := capabilityNames missing
    .fail ("Missing " ++ toString missingNames.length ++ " expected capabilities")
      (some (", ".intercalate missingNames))

/-- `CapabilityAbsenceTest`. -/
def capabilityAbsenceTest (spec : ModelSpec) (s : MachineState) : TestResult :=
  let unexpected := spec.explicitlyAbsentCapabilities &&& s.capabilities
  if unexpected = 0 then .pass "None unexpected"
  else
    let unexpectedNames := capabilityNames unexpected
    .fail (toString unexpectedNames.length ++ " capabilities present that should be absent")
      (some (", ".intercalate unexpectedNames))

/-! ### The test of the temperatures -/

/-- What `TemperatureConstraintsTest` says of one element. -/
def temperatureFailures (model : NetString) (element : String × HeatingConstraints) :
    List String :=
  match BambuLab.getHeatingConstraintsFromElementName element.1 model with
  | none => [element.1 ++ ": no constraints returned for this model"]
  | some actual =>
    if actual.minTempC ≠ element.2.minTempC ∨ actual.maxTempC ≠ element.2.maxTempC then
      [element.1 ++ ": expected " ++ element.2.format ++ ", got " ++ actual.format]
    else []

/-- `TemperatureConstraintsTest`, for a Bambu Lab connection whose configuration has the serial
number: it reads the model that `BBLMachineConnection.Model` makes of it. -/
def temperatureConstraintsTest (spec : ModelSpec) (serialNumber : String) :
    Except Fault TestResult :=
  if spec.expectedHeatingConstraints.isEmpty then .ok (.skip "No heating constraints in spec")
  else if spec.brand ≠ .bambuLab then
    .ok (.skip "Temperature constraint validation only implemented for BambuLab")
  else do
    let model ← BambuLab.getModelFromSerialNumber serialNumber
    return reportIssues (spec.expectedHeatingConstraints.flatMap (temperatureFailures (some model)))
      " constraint mismatches"
      (.pass ("All " ++ toString spec.expectedHeatingConstraints.length ++ " match"))

/-! ### The tests of the units -/

/-- `ToString` of `MUCapabilities`: the names of the flags, or else the number. -/
def formatMUCapabilities (capabilities : MUCapabilities) : String :=
  let members : List (String × MUCapabilities) :=
    [("AutomaticFeeding", .automaticFeeding), ("Heating", .heating),
      ("Heating_CanSpin", .heatingCanSpin), ("Humidity", .humidity),
      ("Temperature", .temperature), ("ModifyTray", .modifyTray),
      ("ModifyTray_CannotMaxGrams", 1 <<< 7)]
  let rest := members.foldl (fun rest member => rest &&& ~~~member.2) capabilities
  if capabilities = 0 then "None"
  else if rest = 0 then
    ", ".intercalate ((members.filter fun member =>
      capabilities &&& member.2 = member.2).map Prod.fst)
  else toString capabilities.toInt

def formatConstraints (constraints : Option HeatingConstraints) : String :=
  constraints.elim "" HeatingConstraints.format

open BambuLab

/-- The body of the loop of `AMSCapabilityValidationTest`, on the failures so far and the number of
units that were validated. -/
def validateUnit (progress : List String × ℕ) (unit : MUnit) :
    Except Fault (List String × ℕ) := do
  let (failures, validated) := progress
  let id := unit.id.getD ""
  match unit.model with
  | none => return (failures ++ ["Unit " ++ id ++ ": model is null"], validated)
  | some model =>
    let expectedCaps ← getAMSFeaturesFromModel model
    let failures := if unit.capabilities ≠ expectedCaps then
        failures ++ [model ++ " (" ++ id ++ "): capabilities " ++
          formatMUCapabilities unit.capabilities ++ ", expected " ++
          formatMUCapabilities expectedCaps]
      else failures
    let expectedCapacity ← getAMSCapacityFromModel model
    let failures := if unit.capacity ≠ expectedCapacity then
        failures ++ [model ++ " (" ++ id ++ "): capacity " ++ toString unit.capacity.toInt ++
          ", expected " ++ toString expectedCapacity.toInt]
      else failures
    let expectedHeating ← getAMSHeatingConstraintsFromModel model
    let failures := if unit.heatingConstraints ≠ expectedHeating then
        failures ++ [model ++ " (" ++ id ++ "): heating " ++
          formatConstraints unit.heatingConstraints ++ ", expected " ++
          formatConstraints expectedHeating]
      else failures
    return (failures, validated + 1)

/-- `AMSCapabilityValidationTest`. -/
def amsCapabilityValidationTest (s : MachineState) : Except Fault TestResult := do
  let units := s.materialUnits.values
  if units.isEmpty then return .skip "No AMS detected"
  let (failures, validated) ← units.foldlM validateUnit ([], 0)
  return reportIssues failures " AMS validation failures"
    (.pass ("All " ++ toString validated ++ " unit(s) valid"))

/-- What `AMSHeatingConstraintsTest` says of one unit. -/
def heatingIssues (unit : MUnit) : Except Fault (List String) := do
  let id := unit.id.getD ""
  match unit.heatingConstraints with
  | none => return [id ++ ": has Heating but no constraints"]
  | some constraints =>
    let inverted := if constraints.maxTempC ≤ constraints.minTempC then
        [id ++ ": min " ++ toString constraints.minTempC.toInt ++ "°C >= max " ++
          toString constraints.maxTempC.toInt ++ "°C"]
      else []
    let cold := if constraints.minTempC ≤ 0 then [id ++ ": min temp <= 0"] else []
    let unexpected ← match unit.model with
      | none => pure []
      | some model =>
        match ← getAMSHeatingConstraintsFromModel model with
        | some expected => pure (if constraints ≠ expected then
            [id ++ ": " ++ constraints.format ++ ", expected " ++ expected.format] else [])
        | none => pure []
    return inverted ++ cold ++ unexpected

/-- `AMSHeatingConstraintsTest`. -/
def amsHeatingConstraintsTest (s : MachineState) : Except Fault TestResult := do
  let units := s.materialUnits.values
  if units.isEmpty then return .skip "No AMS detected"
  let heatingUnits := units.filter fun unit => unit.capabilities &&& .heating = .heating
  if heatingUnits.isEmpty then return .skip "No heating-capable units"
  let issues ← heatingUnits.mapM heatingIssues
  return reportIssues issues.flatten " heating constraint issue(s)"
    (.pass (toString heatingUnits.length ++ " unit(s) validated"))

/-! ### What the tests find in a state -/

section States

variable {amsSN : String} {unit : MUnit} {s : MachineState}

/-- A unit that is what its serial number says is valid. -/
theorem validateUnit_of_isUnitKind (h : IsUnitKind amsSN unit.kind)
    (progress : List String × ℕ) :
    validateUnit progress unit = .ok (progress.1, progress.2 + 1) := by
  obtain ⟨amsModel, capacity, capabilities, constraints, -, hcapacity, hcapabilities,
    hconstraints, hkind⟩ := h.exists_model
  have hmodel : unit.model = some amsModel := congrArg MUnitKind.model hkind
  have hunitCapacity : unit.capacity = capacity := congrArg MUnitKind.capacity hkind
  have hunitCapabilities : unit.capabilities = capabilities :=
    congrArg MUnitKind.capabilities hkind
  have hunitConstraints : unit.heatingConstraints = constraints :=
    congrArg MUnitKind.heatingConstraints hkind
  unfold validateUnit
  simp only [hmodel, hcapacity, hcapabilities, hconstraints, ok_bind, hunitCapacity,
    hunitCapabilities, hunitConstraints, ne_eq, not_true_eq_false, if_false]
  rfl

theorem limits_of_model {model : String} {constraints : HeatingConstraints}
    (h : getAMSHeatingConstraintsFromModel model = .ok (some constraints)) :
    0 < constraints.minTempC ∧ constraints.minTempC < constraints.maxTempC := by
  unfold getAMSHeatingConstraintsFromModel at h
  split at h
  all_goals cases h
  · decide
  · decide

/-- Such a unit has no issues either, if it can heat. -/
theorem heatingIssues_of_isUnitKind (h : IsUnitKind amsSN unit.kind)
    (hheating : unit.capabilities &&& .heating = .heating) : heatingIssues unit = .ok [] := by
  obtain ⟨amsModel, capacity, capabilities, limits, -, -, -, hlimits, hkind⟩ := h.exists_model
  have hflag : unit.kind.capabilities &&& .heating ≠ 0 := by
    change unit.capabilities &&& .heating ≠ 0
    rw [hheating]
    decide
  obtain ⟨-, constraints, -, -, hconstraints⟩ := h.heatingConstraints hflag
  have hmodel : unit.model = some amsModel := congrArg MUnitKind.model hkind
  have hsome : unit.heatingConstraints = some constraints := hconstraints
  obtain rfl : limits = some constraints :=
    (congrArg MUnitKind.heatingConstraints hkind).symm.trans hconstraints
  obtain ⟨hwarm, hordered⟩ := limits_of_model hlimits
  unfold heatingIssues
  simp only [hsome, hmodel, hlimits, ok_bind, ne_eq, not_true_eq_false, if_false,
    if_neg (Int32.not_le.mpr hordered), if_neg (Int32.not_le.mpr hwarm)]
  rfl

/-- **The tests of the units** do not fail if all units are what their serial numbers say. -/
theorem amsCapabilityValidationTest_eq
    (hunits : ∀ unit ∈ s.materialUnits.values, ∃ amsSN, IsUnitKind amsSN unit.kind) :
    amsCapabilityValidationTest s = .ok (if s.materialUnits.values.isEmpty then
      .skip "No AMS detected"
      else .pass ("All " ++ toString s.materialUnits.values.length ++ " unit(s) valid")) := by
  have hloop : ∀ (units : List MUnit) (progress : List String × ℕ),
      (∀ unit ∈ units, ∃ amsSN, IsUnitKind amsSN unit.kind) →
      units.foldlM validateUnit progress = .ok (progress.1, progress.2 + units.length) := by
    intro units
    induction units with
    | nil => exact fun progress _ => rfl
    | cons unit units ih =>
      intro progress hunits
      obtain ⟨amsSN, hunit⟩ := hunits unit List.mem_cons_self
      rw [List.foldlM_cons, validateUnit_of_isUnitKind hunit, ok_bind,
        ih _ fun unit hmem => hunits unit (List.mem_cons_of_mem _ hmem), List.length_cons,
        Nat.add_right_comm, Nat.add_assoc]
  unfold amsCapabilityValidationTest
  dsimp only
  cases hempty : s.materialUnits.values.isEmpty with
  | true => rfl
  | false =>
    rw [if_neg Bool.false_ne_true, if_neg Bool.false_ne_true, hloop _ _ hunits, ok_bind,
      Nat.zero_add]
    rfl

theorem amsHeatingConstraintsTest_of_isUnitKind
    (hunits : ∀ unit ∈ s.materialUnits.values, ∃ amsSN, IsUnitKind amsSN unit.kind) :
    ∃ result, amsHeatingConstraintsTest s = .ok result ∧ result.outcome ≠ .fail := by
  have hloop : ∀ units : List MUnit,
      (∀ unit ∈ units, heatingIssues unit = .ok []) →
      units.mapM heatingIssues = .ok (List.replicate units.length []) := by
    intro units
    induction units with
    | nil => exact fun _ => rfl
    | cons unit units ih =>
      intro hunits
      rw [List.mapM_cons, hunits unit List.mem_cons_self, ok_bind,
        ih fun unit hmem => hunits unit (List.mem_cons_of_mem _ hmem)]
      rfl
  unfold amsHeatingConstraintsTest
  dsimp only
  cases s.materialUnits.values.isEmpty with
  | true => exact ⟨_, rfl, by decide⟩
  | false =>
    rw [if_neg Bool.false_ne_true]
    split
    · exact ⟨_, rfl, by simp [TestResult.skip]⟩
    · have hheating : ∀ unit ∈ s.materialUnits.values.filter
          (fun unit => unit.capabilities &&& .heating = .heating), heatingIssues unit = .ok [] := by
        intro unit hmem
        obtain ⟨hmem, hflag⟩ := List.mem_filter.mp hmem
        obtain ⟨amsSN, hunit⟩ := hunits unit hmem
        exact heatingIssues_of_isUnitKind hunit (of_decide_eq_true hflag)
      rw [hloop _ hheating, ok_bind, List.flatten_replicate_nil]
      exact ⟨_, rfl, by simp [TestResult.pass]⟩

end States

end Validation

end Connect3Dp
