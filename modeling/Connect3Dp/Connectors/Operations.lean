import Connect3Dp.Connectors.LocalPrints
import Connect3Dp.Connectors.MUHeating
import Connect3Dp.Connectors.MaterialChange
import Connect3Dp.Connectors.PrintSpeed

/-!
# The operations of a machine

The operations of the base class have one shape: tests on the state answer the caller or let it go
on, the command is sent under the operation lock, and a predicate on the state is polled until it
holds or the timeout has passed. `Operation` is that shape, and `OperationRequest` has the
operations of the source.

`OperationRequest.Permits` says of every request what the state has to be like for its command to
be sent. The tests let a call go on in such a state only, and where they answer with a success
instead, the predicate holds already (`OperationRequest.decides`). `EndMUHeating` looks up the unit
by its key in the tests and by its identifier in the predicate, so there it matters that the two
are the same.
-/

namespace Connect3Dp

/-! ### Messages -/

namespace MachineMessages

def failedToConnect : OperationFailure where
  operationFailedId := some "machine.connect.failed"
  operationFailedTitle := some "Unable to connect to Machine"
  manualResolve := 0
  autoResolve := ⟨some true, none, none⟩

def failedToPause : OperationFailure where
  operationFailedId := some "machine.pause.failed"
  operationFailedTitle := some "Unable to Pause"
  manualResolve := 0
  autoResolve := ⟨none, some .paused, none⟩

def failedToResume : OperationFailure where
  operationFailedId := some "machine.resume.failed"
  operationFailedTitle := some "Unable to Resume"
  manualResolve := 0
  autoResolve := ⟨none, some .printing, none⟩

def failedToStop : OperationFailure where
  operationFailedId := some "machine.stop.failed"
  operationFailedTitle := some "Unable to stop the Machine"
  manualResolve := 0
  autoResolve := ⟨none, some .canceled, none⟩

def failedToClearBed : OperationFailure where
  operationFailedId := some "machine.clearbed.failed"
  operationFailedTitle := some "Unable to Clear Bed"
  manualResolve := 0
  autoResolve := ⟨none, some .idle, none⟩

def failedToChangeAirDuct : OperationFailure where
  operationFailedId := some "machine.airduct.failed"
  operationFailedTitle := some "Unable to Change Air Duct Mode"
  manualResolve := 0
  autoResolve := default

def failedToToggleLight : OperationFailure where
  operationFailedId := some "machine.light.failed"
  operationFailedTitle := some "Unable to Toggle Light"
  manualResolve := 0
  autoResolve := default

def failedToSetFanSpeed : OperationFailure where
  operationFailedId := some "machine.fan.failed"
  operationFailedTitle := some "Unable to Set Fan Speed"
  manualResolve := 0
  autoResolve := default

def failedToEndMUHeating : OperationFailure where
  operationFailedId := some "machine.mu.heating.end.failed"
  operationFailedTitle := some "Unable to End Material Unit Heating"
  manualResolve := 0
  autoResolve := default

/-- What `ChangeMaterial` passes, which is no message of the table. -/
def failedToChangeMaterial : OperationFailure where
  operationFailedId := some "machine.material.change.failed"
  operationFailedTitle := some "Change Material"
  manualResolve := 0
  autoResolve := default

end MachineMessages

/-! ### The shape of an operation -/

/-- The overloads of `MutateUntil`, by what the action returns. -/
inductive MutateOverload
  | plain
  | valued

namespace MutateOverload

def Value : MutateOverload → Type
  | plain => Unit
  | valued => MachineOperationResult

/-- `MutateUntil` followed by the `IntoOperationResult` for what it returns. -/
def operate (failure : OperationFailure) (timeout : TimeSpan) : (overload : MutateOverload) →
    Exit overload.Value InvokeException → Except InvokeException MachineOperationResult
  | plain => Connect3Dp.operate failure timeout
  | valued => operateValued failure timeout

end MutateOverload

/-- An operation of `MachineConnection`. `start` is what it does up to what it awaits first, where
only `PrintLocal` looks at the file store; `predicate` is what `MutateUntil` polls. -/
structure Operation where
  overload : MutateOverload
  start : Bool → MachineState → Except InvokeException MachineState.PrintStart
  predicate : MachineState → Except InvokeException Bool
  timeout : TimeSpan
  failure : OperationFailure

/-- Tests that return a result, or let the operation go on. -/
def MachineState.PrintStart.unless : Option MachineOperationResult → MachineState.PrintStart
  | some result => .refused result
  | none => .mutates

namespace MachineConnection

/-! ### The operations -/

def connect : Operation where
  overload := .valued
  start _ _ := .ok .mutates
  predicate s := .ok (decide (s.status ≠ .disconnected))
  timeout := .fromWholeSeconds 15
  failure := MachineMessages.failedToConnect

def connectIfDisconnected : Operation :=
  { connect with
    start := fun _ s => .ok (if s.status ≠ .disconnected then .refused .ok else .mutates) }

def printLocal (localPrint : LocalPrintJob) : Operation where
  overload := .plain
  start contains s := .ok (s.printLocal contains localPrint)
  predicate s := .ok (decide (s.status = .printing))
  timeout := .fromWholeSeconds 60
  failure := failedToStartLocalPrint

def changeMaterial (unitID : String) (slot : Int32) (material : Material) : Operation where
  overload := .valued
  start _ s := .ok (.unless (s.refuseChangeMaterial unitID))
  predicate s := .ok (s.hasMaterial unitID slot material)
  timeout := .fromWholeSeconds 15
  failure := MachineMessages.failedToChangeMaterial

def pause : Operation where
  overload := .plain
  start _ s := .ok (.unless (s.opIfNotCapable .control))
  predicate s := .ok (decide (s.status = .paused))
  timeout := .fromWholeSeconds 20
  failure := MachineMessages.failedToPause

def resume : Operation where
  overload := .plain
  start _ s := .ok (.unless (s.opIfNotCapable .control))
  predicate s := .ok (decide (s.status ≠ .paused))
  timeout := .fromWholeSeconds 20
  failure := MachineMessages.failedToResume

def stop : Operation where
  overload := .plain
  start _ s := .ok (.unless (s.opIfNotCapable .control))
  predicate s := .ok (decide (s.status = .canceled))
  timeout := .fromWholeSeconds 15
  failure := MachineMessages.failedToStop

/-- No capability is asked for. The failure of the test has no automatic resolution. -/
def markAsIdle : Operation where
  overload := .plain
  start _ s := .ok (
    if s.status = .idle then .refused .ok
    else if ¬ (s.status = .printed ∨ s.status = .canceled) then
      .refused ({ MachineMessages.failedToClearBed with autoResolve := default }.fail
        (some ("Machine must be " ++ MachineStatus.printed.name ++ " or " ++
          MachineStatus.canceled.name ++ ".")))
    else .mutates)
  predicate s := .ok (decide (s.status = .idle))
  timeout := .fromWholeSeconds 30
  failure := MachineMessages.failedToClearBed

def changeAirDuct (mode : MachineAirDuctMode) : Operation where
  overload := .plain
  start _ s := .ok (.unless (s.opIfNotCapable .airDuct))
  predicate s := .ok (decide (s.airDuctMode = mode))
  timeout := .fromWholeSeconds 10
  failure := MachineMessages.failedToChangeAirDuct

def setPrintSpeed (speedPercent : Int32) : Operation where
  overload := .plain
  start _ s := .ok (.unless (s.opIfNotCapable .printSpeedControl))
  predicate s := .ok (s.hasPrintSpeed (clampedSpeed speedPercent))
  timeout := .fromWholeSeconds 10
  failure := MachineMessages.failedToSetPrintSpeed

def toggleLight (fixtureName : String) (isOn : Bool) : Operation where
  overload := .plain
  start _ s := .ok (.unless ((s.opIfNotCapable .lighting).or
    (if s.lights.containsKey fixtureName then none
    else some (MachineMessages.failedToToggleLight.fail
      (some ("Light fixture '" ++ fixtureName ++ "' does not exist"))))))
  predicate s := .ok (decide (s.lights.tryGetValue fixtureName = some isOn))
  timeout := .fromWholeSeconds 10
  failure := MachineMessages.failedToToggleLight

/-- `Math.Clamp(speedPercent, 0, 100)`. -/
def clampedFanSpeed (speedPercent : Int32) : Int32 :=
  if speedPercent < 0 then 0 else if 100 < speedPercent then 100 else speedPercent

def setFanSpeed (fanName : String) (speedPercent : Int32) : Operation where
  overload := .plain
  start _ s := .ok (.unless ((s.opIfNotCapable .fans).or
    (if s.fans.containsKey fanName then none
    else some (MachineMessages.failedToSetFanSpeed.fail
      (some ("Fan '" ++ fanName ++ "' does not exist"))))))
  predicate s := .ok (decide (s.fans.tryGetValue fanName = some (clampedFanSpeed speedPercent)))
  timeout := .fromWholeSeconds 10
  failure := MachineMessages.failedToSetFanSpeed

def beginMUHeating (unitID : String) (settings : HeatingSettings) : Operation where
  overload := .plain
  start _ s :=
    match s.refuseMUHeating unitID settings with
    | .ok result => .ok (.unless result)
    | .error _ => .error .other
  predicate s := s.isMUHeating unitID
  timeout := .fromWholeSeconds 30
  failure := MachineMessages.failedToBeginMUHeating

/-- The tests of `EndMUHeating`. A unit that does not heat is never asked what it is able to. -/
def refuseEndMUHeating (unitID : String) (s : MachineState) : Option MachineOperationResult :=
  match s.materialUnits.tryGetValue unitID with
  | some unit => if unit.heatingJob.isNone then some .ok else unit.ifNotCapable .heating
  | none => some (MachineMessages.failedToEndMUHeating.fail
      (some ("Unit of ID " ++ unitID ++ " does not exist!")))

/-- The predicate of `EndMUHeating`, whose `ID.Equals` dereferences the `ID` of every unit. -/
def isNotMUHeating (unitID : String) (s : MachineState) : Except InvokeException Bool :=
  s.materialUnits.values.anyM fun item =>
    match item.id with
    | some id => .ok (decide (id = unitID) && item.heatingJob.isNone)
    | none => .error .other

def endMUHeating (unitID : String) : Operation where
  overload := .plain
  start _ s := .ok (.unless (refuseEndMUHeating unitID s))
  predicate := isNotMUHeating unitID
  timeout := .fromWholeSeconds 30
  failure := MachineMessages.failedToEndMUHeating

end MachineConnection

/-- A call, with its arguments. -/
inductive OperationRequest
  | connect
  | connectIfDisconnected
  | printLocal (localPrint : LocalPrintJob)
  | changeMaterial (unitID : String) (slot : Int32) (material : Material)
  | pause
  | resume
  | stop
  | markAsIdle
  | changeAirDuct (mode : MachineAirDuctMode)
  | setPrintSpeed (speedPercent : Int32)
  | toggleLight (fixtureName : String) (isOn : Bool)
  | setFanSpeed (fanName : String) (speedPercent : Int32)
  | beginMUHeating (unitID : String) (settings : HeatingSettings)
  | endMUHeating (unitID : String)

namespace OperationRequest

def operation : OperationRequest → Operation
  | connect => MachineConnection.connect
  | connectIfDisconnected => MachineConnection.connectIfDisconnected
  | printLocal localPrint => MachineConnection.printLocal localPrint
  | changeMaterial unitID slot material => MachineConnection.changeMaterial unitID slot material
  | pause => MachineConnection.pause
  | resume => MachineConnection.resume
  | stop => MachineConnection.stop
  | markAsIdle => MachineConnection.markAsIdle
  | changeAirDuct mode => MachineConnection.changeAirDuct mode
  | setPrintSpeed speedPercent => MachineConnection.setPrintSpeed speedPercent
  | toggleLight fixtureName isOn => MachineConnection.toggleLight fixtureName isOn
  | setFanSpeed fanName speedPercent => MachineConnection.setFanSpeed fanName speedPercent
  | beginMUHeating unitID settings => MachineConnection.beginMUHeating unitID settings
  | endMUHeating unitID => MachineConnection.endMUHeating unitID

/-- What a state has to be like for a call to go on to its command. -/
def Permits : OperationRequest → MachineState → Prop
  | connect, _ => True
  | connectIfDisconnected, s => s.status = .disconnected
  | printLocal _, s => s.opIfNotCapable .startLocalJob = none ∧ s.status = .idle
  | changeMaterial unitID _ _, s => ∃ mu, s.materialUnits.tryGetValue unitID = some mu ∧
      mu.ifNotCapable .modifyTray = none
  | pause, s | resume, s | stop, s => s.opIfNotCapable .control = none
  | markAsIdle, s => s.status = .printed ∨ s.status = .canceled
  | changeAirDuct _, s => s.opIfNotCapable .airDuct = none
  | setPrintSpeed _, s => s.opIfNotCapable .printSpeedControl = none
  | toggleLight fixtureName _, s => s.opIfNotCapable .lighting = none ∧
      s.lights.containsKey fixtureName = true
  | setFanSpeed fanName _, s => s.opIfNotCapable .fans = none ∧ s.fans.containsKey fanName = true
  | beginMUHeating unitID settings, s => s.MayHeat unitID settings
  | endMUHeating unitID, s => ∃ unit, s.materialUnits.tryGetValue unitID = some unit ∧
      unit.heatingJob.isSome = true ∧ unit.ifNotCapable .heating = none

end OperationRequest

/-- What the tests answer the caller, if they do. -/
def Operation.answer (operation : Operation) (contains : Bool) (s : MachineState) :
    Option (Except InvokeException MachineOperationResult) :=
  match operation.start contains s with
  | .ok (.refused result) => some (.ok result)
  | .ok _ => none
  | .error ex => some (.error ex)

/-- The caller is told that the operation succeeded. -/
def Succeeds (result : Except InvokeException MachineOperationResult) : Prop :=
  ∃ r, result = .ok r ∧ r.success = true

theorem succeeds_ok {r : MachineOperationResult} : Succeeds (.ok r) ↔ r.success = true :=
  ⟨fun ⟨_, h, hr⟩ => by cases h; exact hr, fun hr => ⟨r, rfl, hr⟩⟩

theorem not_succeeds_error {ex : InvokeException} : ¬ Succeeds (.error ex) := by
  rintro ⟨r, h, -⟩
  cases h

/-- The caller is told of a success exactly when the call left with its predicate. -/
theorem MutateOverload.succeeds_operate_iff {failure : OperationFailure} {timeout : TimeSpan}
    (overload : MutateOverload) (exit : Exit overload.Value InvokeException) :
    Succeeds (overload.operate failure timeout exit) ↔ exit.IsSuccess := by
  cases overload with
  | plain =>
    cases exit with
    | predicateThrew ex => exact iff_of_false not_succeeds_error id
    | succeeded elapsed r => exact iff_of_true (succeeds_ok.mpr rfl) trivial
    | _ => exact iff_of_false (fun h => by cases succeeds_ok.mp h) id
  | valued =>
    cases exit with
    | predicateThrew ex => exact iff_of_false not_succeeds_error id
    | succeeded elapsed r => exact iff_of_true (succeeds_ok.mpr rfl) trivial
    | _ => exact iff_of_false (fun h => by cases succeeds_ok.mp h) id

/-! ### What the tests say -/

theorem MachineState.success_opIfNotCapable {s : MachineState}
    {desiredFeature : MachineCapabilities} {result : MachineOperationResult}
    (h : s.opIfNotCapable desiredFeature = some result) : result.success = false := by
  unfold opIfNotCapable at h
  split at h
  · cases h
  · cases h
    rfl

/-- `PrintLocal` goes past its tests only on an idle machine that is capable of it. -/
theorem MachineState.printLocal_cases (s : MachineState) (contains : Bool)
    (localPrint : LocalPrintJob) :
    (∃ result, s.printLocal contains localPrint = .refused result ∧ result.success = false) ∨
    ((s.printLocal contains localPrint = .uploads ∨ s.printLocal contains localPrint = .mutates) ∧
      s.opIfNotCapable .startLocalJob = none ∧ s.status = .idle) := by
  unfold printLocal
  cases hcapable : s.opIfNotCapable .startLocalJob with
  | some uncapableResult => exact .inl ⟨_, rfl, success_opIfNotCapable hcapable⟩
  | none =>
    dsimp only
    split_ifs with hstatus
    · exact .inl ⟨_, rfl, rfl⟩
    · exact .inr ⟨.inr rfl, rfl, not_not.mp hstatus⟩
    · exact .inr ⟨.inl rfl, rfl, not_not.mp hstatus⟩
    · exact .inl ⟨_, rfl, rfl⟩

theorem MUnit.success_ifNotCapable {m : MUnit} {desiredFeature : MUCapabilities}
    {result : MachineOperationResult} (h : m.ifNotCapable desiredFeature = some result) :
    result.success = false := by
  obtain ⟨-, hnone⟩ | ⟨-, reasoning, hsome⟩ := m.ifNotCapable_cases desiredFeature
  · rw [hnone] at h
    cases h
  · rw [hsome] at h
    cases h
    rfl

namespace Operation

variable {operation : Operation} {contains : Bool} {s : MachineState}

/-- The tests decline the call: the answer is no success. -/
def Declines (operation : Operation) (contains : Bool) (s : MachineState) : Prop :=
  ∃ result, operation.answer contains s = some result ∧ ¬ Succeeds result

theorem answer_of_mutates (hstart : operation.start contains s = .ok .mutates) :
    operation.answer contains s = none := by
  rw [answer, hstart]

theorem answer_of_uploads (hstart : operation.start contains s = .ok .uploads) :
    operation.answer contains s = none := by
  rw [answer, hstart]

theorem answer_of_refused {result : MachineOperationResult}
    (hstart : operation.start contains s = .ok (.refused result)) :
    operation.answer contains s = some (.ok result) := by
  rw [answer, hstart]

theorem declines_of_refused {result : MachineOperationResult}
    (hstart : operation.start contains s = .ok (.refused result))
    (hfails : result.success = false) : operation.Declines contains s := by
  refine ⟨.ok result, answer_of_refused hstart, fun h => ?_⟩
  rw [succeeds_ok, hfails] at h
  cases h

/-- Tests that can only return a failure let the call go on, or decline it. -/
theorem answer_of_unless {refusal : Option MachineOperationResult}
    (hstart : operation.start contains s = .ok (.unless refusal))
    (hfails : ∀ result, refusal = some result → result.success = false) :
    (operation.answer contains s = none ∧ refusal = none) ∨ operation.Declines contains s := by
  cases refusal with
  | none => exact .inl ⟨by rw [answer, hstart]; rfl, rfl⟩
  | some result => exact .inr (declines_of_refused hstart (hfails result rfl))

/-- Tests of a capability, and of a key after it. -/
theorem answer_of_containsKey {desiredFeature : MachineCapabilities} {found : Bool}
    {failure : MachineMessage}
    (hstart : operation.start contains s = .ok (.unless ((s.opIfNotCapable desiredFeature).or
      (if found then none else some (.fail failure))))) :
    (operation.answer contains s = none ∧ s.opIfNotCapable desiredFeature = none ∧
      found = true) ∨ operation.Declines contains s := by
  obtain ⟨hnone, hrefusal⟩ | hdeclines := answer_of_unless hstart fun result h => by
    cases hcapable : s.opIfNotCapable desiredFeature with
    | some uncapableResult =>
      rw [hcapable] at h
      cases h
      exact MachineState.success_opIfNotCapable hcapable
    | none =>
      rw [hcapable, Option.none_or] at h
      split at h
      · cases h
      · cases h
        rfl
  · rw [Option.or_eq_none_iff] at hrefusal
    refine .inl ⟨hnone, hrefusal.1, ?_⟩
    cases found with
    | true => rfl
    | false => cases hrefusal.2
  · exact .inr hdeclines

end Operation

/-- The identifier of every unit is the key it is stored under. -/
def MachineState.UnitIDs (s : MachineState) : Prop :=
  ∀ id m, s.materialUnits.tryGetValue id = some m → m.id = some id

/-- `Any` with a predicate that does not throw. -/
theorem MachineState.anyM_eq_ok {E α : Type} {predicate : α → Except E Bool} {holds : α → Bool}
    {items : List α} (h : ∀ item ∈ items, predicate item = .ok (holds item)) :
    items.anyM predicate = .ok (items.any holds) := by
  induction items with
  | nil => rfl
  | cons item items ih =>
    rw [List.anyM_cons, h item List.mem_cons_self, List.any_cons]
    cases holds item with
    | true => rfl
    | false => exact ih fun item hitem => h item (List.mem_cons_of_mem _ hitem)

/-- Where units have their identifiers, the predicate of `EndMUHeating` holds of a unit without a
job. -/
theorem MachineConnection.isNotMUHeating_of_isNone {s : MachineState} (hs : s.UnitIDs)
    {unitID : String} {unit : MUnit} (hunit : s.materialUnits.tryGetValue unitID = some unit)
    (hjob : unit.heatingJob.isNone = true) : isNotMUHeating unitID s = .ok true := by
  have hvalue : unit ∈ s.materialUnits.values := Dictionary.mem_values_iff.mpr ⟨unitID, hunit⟩
  have heq : isNotMUHeating unitID s = .ok (s.materialUnits.values.any fun item =>
      decide (item.id = some unitID) && item.heatingJob.isNone) := by
    refine MachineState.anyM_eq_ok fun item hitem => ?_
    obtain ⟨id, hid⟩ := Dictionary.mem_values_iff.mp hitem
    simp only [hs id item hid, Option.some.injEq]
  rw [heq, Except.ok.injEq, List.any_eq_true]
  exact ⟨unit, hvalue, by simp [hs unitID unit hunit, hjob]⟩

/-- What decides whether tests let a call go on, decline it or answer with a success. -/
def OperationRequest.Decides (request : OperationRequest) (contains : Bool) (s : MachineState) :
    Prop :=
  (request.operation.answer contains s = none ∧ request.Permits s) ∨
  request.operation.Declines contains s ∨
  (request.operation.answer contains s = some (.ok .ok) ∧
    request.operation.predicate s = .ok true)

namespace OperationRequest

open Operation

variable {contains : Bool} {s : MachineState}

theorem decides_connectIfDisconnected : connectIfDisconnected.Decides contains s := by
  by_cases hstatus : s.status = .disconnected
  · refine .inl ⟨?_, hstatus⟩
    exact answer_of_mutates (congrArg Except.ok (if_neg (not_not.mpr hstatus)))
  · refine .inr (.inr ⟨?_, congrArg Except.ok (decide_eq_true hstatus)⟩)
    exact answer_of_refused (congrArg Except.ok (if_pos hstatus))

theorem decides_printLocal {localPrint : LocalPrintJob} :
    (printLocal localPrint).Decides contains s := by
  obtain ⟨result, hrefused, hfails⟩ | ⟨hpassed, hpermits⟩ :=
    s.printLocal_cases contains localPrint
  · exact .inr (.inl (declines_of_refused (congrArg Except.ok hrefused) hfails))
  · refine .inl ⟨?_, hpermits⟩
    obtain huploads | hmutates := hpassed
    · exact answer_of_uploads (congrArg Except.ok huploads)
    · exact answer_of_mutates (congrArg Except.ok hmutates)

theorem decides_changeMaterial {unitID : String} {slot : Int32} {material : Material} :
    (changeMaterial unitID slot material).Decides contains s := by
  have hfails : ∀ result, s.refuseChangeMaterial unitID = some result →
      result.success = false := by
    intro result h
    unfold MachineState.refuseChangeMaterial at h
    split at h
    · exact MUnit.success_ifNotCapable h
    · cases h
      rfl
  have hstart : (changeMaterial unitID slot material).operation.start contains s =
      .ok (.unless (s.refuseChangeMaterial unitID)) := rfl
  obtain ⟨hnone, hrefusal⟩ | hdeclines := answer_of_unless hstart hfails
  · refine .inl ⟨hnone, ?_⟩
    unfold MachineState.refuseChangeMaterial at hrefusal
    split at hrefusal
    · rename_i mu hmu
      exact ⟨mu, hmu, hrefusal⟩
    · cases hrefusal
  · exact .inr (.inl hdeclines)

theorem decides_markAsIdle : markAsIdle.Decides contains s := by
  by_cases hidle : s.status = .idle
  · exact .inr (.inr ⟨answer_of_refused (congrArg Except.ok (if_pos hidle)),
      congrArg Except.ok (decide_eq_true hidle)⟩)
  · by_cases hfinished : s.status = .printed ∨ s.status = .canceled
    · refine .inl ⟨answer_of_mutates (congrArg Except.ok ?_), hfinished⟩
      rw [if_neg hidle, if_neg (not_not.mpr hfinished)]
    · exact .inr (.inl (declines_of_refused
        (congrArg Except.ok ((if_neg hidle).trans (if_pos hfinished))) rfl))

theorem decides_beginMUHeating {unitID : String} {settings : HeatingSettings} :
    (beginMUHeating unitID settings).Decides contains s := by
  have hstart : (beginMUHeating unitID settings).operation.start contains s =
      match s.refuseMUHeating unitID settings with
      | .ok result => .ok (.unless result)
      | .error _ => .error .other := rfl
  obtain ⟨hmay, -, hpass⟩ | ⟨-, hthrow⟩ | ⟨-, -, reasoning, hfail⟩ :=
    s.refuseMUHeating_cases unitID settings
  · rw [hpass] at hstart
    exact .inl ⟨answer_of_mutates hstart, hmay⟩
  · rw [hthrow] at hstart
    refine .inr (.inl ⟨.error .other, ?_, not_succeeds_error⟩)
    rw [answer, hstart]
  · rw [hfail] at hstart
    exact .inr (.inl (declines_of_refused hstart rfl))

theorem decides_endMUHeating {unitID : String} (hs : s.UnitIDs) :
    (endMUHeating unitID).Decides contains s := by
  have hstart : (endMUHeating unitID).operation.start contains s =
      .ok (.unless (MachineConnection.refuseEndMUHeating unitID s)) := rfl
  cases hunit : s.materialUnits.tryGetValue unitID with
  | none =>
    rw [MachineConnection.refuseEndMUHeating, hunit] at hstart
    exact .inr (.inl (declines_of_refused hstart rfl))
  | some unit =>
    rw [MachineConnection.refuseEndMUHeating, hunit] at hstart
    cases hjob : unit.heatingJob.isNone with
    | true =>
      simp only [hjob, if_true] at hstart
      exact .inr (.inr ⟨answer_of_refused hstart,
        MachineConnection.isNotMUHeating_of_isNone hs hunit hjob⟩)
    | false =>
      simp only [hjob, Bool.false_eq_true, if_false] at hstart
      obtain ⟨hnone, hcapable⟩ | hdeclines := answer_of_unless hstart
        fun _ => MUnit.success_ifNotCapable
      · refine .inl ⟨hnone, unit, hunit, ?_, hcapable⟩
        rw [← Option.not_isNone, hjob]
        rfl
      · exact .inr (.inl hdeclines)

/-- **The tests of every operation** let the call go on where it is permitted, decline it, or answer
with a success because the predicate holds already. -/
theorem decides (request : OperationRequest) (contains : Bool) (hs : s.UnitIDs) :
    request.Decides contains s := by
  have hcapable : ∀ desiredFeature result, s.opIfNotCapable desiredFeature = some result →
      result.success = false := fun _ _ h => MachineState.success_opIfNotCapable h
  cases request with
  | connect => exact .inl ⟨rfl, trivial⟩
  | connectIfDisconnected => exact decides_connectIfDisconnected
  | printLocal localPrint => exact decides_printLocal
  | changeMaterial unitID slot material => exact decides_changeMaterial
  | pause => exact (answer_of_unless rfl (hcapable _)).imp_right .inl
  | resume => exact (answer_of_unless rfl (hcapable _)).imp_right .inl
  | stop => exact (answer_of_unless rfl (hcapable _)).imp_right .inl
  | markAsIdle => exact decides_markAsIdle
  | changeAirDuct mode => exact (answer_of_unless rfl (hcapable _)).imp_right .inl
  | setPrintSpeed speedPercent => exact (answer_of_unless rfl (hcapable _)).imp_right .inl
  | toggleLight fixtureName isOn => exact (answer_of_containsKey rfl).imp_right .inl
  | setFanSpeed fanName speedPercent => exact (answer_of_containsKey rfl).imp_right .inl
  | beginMUHeating unitID settings => exact decides_beginMUHeating
  | endMUHeating unitID => exact decides_endMUHeating hs

end OperationRequest

end Connect3Dp
