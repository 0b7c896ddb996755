import Connect3Dp.Connectors.KeyAgreement
import Connect3Dp.Connectors.OperationResults
import Connect3Dp.Runtime.Arithmetic

/-!
# `BeginMUHeating`

The command heats a unit, so it is checked before it is sent: the unit has to be there, to be able
to heat, to be able to spin if it is asked about that, and to be heated within its constraints. The
last check reads the constraints once more for the reason of a failure, also where the unit has
none: then it throws.

`MUHeatingEnds` lists how a call can end, with whether `BeginMUHeating_Internal` was invoked.
Sending is guarded always. That a call ends with a result, and with a failure where it may not heat,
holds just when it does not get to the constraints of a unit without any
(`muHeating_gated_iff`).
-/

namespace Connect3Dp

/-! ### The checks -/

/-- `IsInRange`. The bounds are converted to `double`. -/
def HeatingSettings.isInRange (settings : HeatingSettings) (constraints : HeatingConstraints) :
    Bool :=
  (Double.ofInt constraints.minTempC.toInt).le settings.tempC &&
    settings.tempC.le (Double.ofInt constraints.maxTempC.toInt)

/-- `ToString`. -/
def HeatingConstraints.format (constraints : HeatingConstraints) : String :=
  toString constraints.minTempC.toInt ++ " C -> " ++ toString constraints.maxTempC.toInt ++ " C"

/-- What a failure of `BeginMUHeating` is made of. -/
def MachineMessages.failedToBeginMUHeating : OperationFailure where
  operationFailedId := some "machine.mu.heating.begin.failed"
  operationFailedTitle := some "Unable to Begin Material Unit Heating"
  manualResolve := 0
  autoResolve := default

namespace MUnit

/-- The last check of `BeginMUHeating`. The reason is made of `unit.HeatingConstraints!.Value`. -/
def refuseTemperature (unit : MUnit) (settings : HeatingSettings) :
    Except Fault (Option MachineOperationResult) :=
  if unit.heatingConstraints.any settings.isInRange then .ok none
  else
    match unit.heatingConstraints with
    | some constraints => .ok (some (MachineMessages.failedToBeginMUHeating.fail
        (some ("Temp must be in Range " ++ constraints.format))))
    | none => .error .invalidOperation

/-- The checks of `BeginMUHeating` on a unit. -/
def refuseMUHeating (unit : MUnit) (settings : HeatingSettings) :
    Except Fault (Option MachineOperationResult) :=
  match unit.ifNotCapable .heating with
  | some uncapableResult => .ok (some uncapableResult)
  | none =>
    if settings.doSpin.isSome then
      match unit.ifNotCapable .heatingCanSpin with
      | some uncapableResult => .ok (some uncapableResult)
      | none => unit.refuseTemperature settings
    else unit.refuseTemperature settings

end MUnit

/-- The checks of `BeginMUHeating`: the result it returns instead of sending the command. -/
def MachineState.refuseMUHeating (unitID : String) (settings : HeatingSettings)
    (s : MachineState) : Except Fault (Option MachineOperationResult) :=
  match s.materialUnits.tryGetValue unitID with
  | some unit => unit.refuseMUHeating settings
  | none => .ok (some (MachineMessages.failedToBeginMUHeating.fail
      (some ("Unit of ID " ++ unitID ++ " does not exist!"))))

/-- The predicate of `BeginMUHeating`, whose `ID.Equals` dereferences the `ID` of every unit. -/
def MachineState.isMUHeating (unitID : String) (s : MachineState) :
    Except InvokeException Bool :=
  s.materialUnits.values.anyM fun item =>
    match item.id with
    | some id => .ok (decide (id = unitID) && item.heatingJob.isSome)
    | none => .error .other

/-! ### The call -/

/-- How a call of `BeginMUHeating` ends: whether `BeginMUHeating_Internal` was invoked, and the
result, or none if it threw. The predicate is evaluated on the states that `later` admits. -/
inductive MUHeatingEnds (unitID : String) (settings : HeatingSettings) (s : MachineState)
    (later : MachineState → Prop) : Bool → Option MachineOperationResult → Prop
  | threw {f : Fault} (h : s.refuseMUHeating unitID settings = .error f) :
    MUHeatingEnds unitID settings s later false none
  | refused {result : MachineOperationResult}
    (h : s.refuseMUHeating unitID settings = .ok (some result)) :
    MUHeatingEnds unitID settings s later false (some result)
  | operated {timeout : TimeSpan} {events : List (Event Unit InvokeException)}
    {exit : Exit Unit InvokeException} (h : s.refuseMUHeating unitID settings = .ok none)
    (hruns : Phase.Runs timeout events (.completed exit))
    (hpredicate : ∀ observed elapsed, .predicate observed elapsed ∈ events →
      ∃ s', later s' ∧ observed = s'.isMUHeating unitID) :
    MUHeatingEnds unitID settings s later true
      (operate MachineMessages.failedToBeginMUHeating timeout exit).toOption

/-- The unit is able to heat, and to spin if it is asked about that. -/
def MUnit.IsCapableOf (unit : MUnit) (settings : HeatingSettings) : Prop :=
  unit.capabilities &&& .heating ≠ 0 ∧
    (settings.doSpin.isSome = true → unit.capabilities &&& .heatingCanSpin ≠ 0)

/-- The temperature is within the constraints of the unit. -/
def MUnit.Admits (unit : MUnit) (settings : HeatingSettings) : Prop :=
  ∃ constraints tempC, unit.heatingConstraints = some constraints ∧
    settings.tempC = .finite tempC ∧ (constraints.minTempC.toInt : ℚ) ≤ tempC ∧
    tempC ≤ (constraints.maxTempC.toInt : ℚ)

/-- There is such a unit, and it may be heated like this. -/
def MachineState.MayHeat (s : MachineState) (unitID : String) (settings : HeatingSettings) : Prop :=
  ∃ unit, s.materialUnits.tryGetValue unitID = some unit ∧ unit.IsCapableOf settings ∧
    unit.Admits settings

/-- There is such a unit, and it is able to heat, but it has no constraints. -/
def MachineState.LacksConstraints (s : MachineState) (unitID : String)
    (settings : HeatingSettings) : Prop :=
  ∃ unit, s.materialUnits.tryGetValue unitID = some unit ∧ unit.IsCapableOf settings ∧
    unit.heatingConstraints = none

/-- Heating is gated and never faults. -/
structure MUHeatingGated (unitID : String) (settings : HeatingSettings) (s : MachineState)
    (later : MachineState → Prop) : Prop where
  completes : ∀ invoked result, MUHeatingEnds unitID settings s later invoked result →
    result.isSome = true
  guarded : ∀ result, MUHeatingEnds unitID settings s later true result →
    s.MayHeat unitID settings
  refuses : ¬ s.MayHeat unitID settings → ∃ reasoning,
    MUHeatingEnds unitID settings s later false (some (.fail reasoning)) ∧
    ∀ invoked result, MUHeatingEnds unitID settings s later invoked result →
      invoked = false ∧ result = some (.fail reasoning)

/-! ### What the checks say -/

namespace Double

theorem le_finite_iff {a b : ℚ} : (finite a).le (finite b) = true ↔ a ≤ b := by
  simp [le, lt, le_iff_lt_or_eq]

theorem between_iff {low high : ℚ} {d : Double} :
    ((finite low).le d && d.le (finite high)) = true ↔ ∃ q, d = finite q ∧ low ≤ q ∧ q ≤ high := by
  cases d with
  | finite q => simp [le_finite_iff]
  | infinite negative => cases negative <;> simp [le, lt]
  | nan => simp [le]

end Double

theorem HeatingSettings.isInRange_iff {settings : HeatingSettings}
    {constraints : HeatingConstraints} :
    settings.isInRange constraints = true ↔ ∃ tempC, settings.tempC = .finite tempC ∧
      (constraints.minTempC.toInt : ℚ) ≤ tempC ∧ tempC ≤ (constraints.maxTempC.toInt : ℚ) := by
  have hbound : ∀ n : Int32, Double.ofInt n.toInt = .finite n.toInt := by
    intro n
    have hlow := n.le_toInt
    have hhigh := n.toInt_lt
    exact Double.ofInt_of_abs_lt (abs_lt.mpr ⟨by omega, by omega⟩)
  rw [isInRange, hbound, hbound, Double.between_iff]

namespace MUnit

variable {unit : MUnit} {settings : HeatingSettings}

theorem ifNotCapable_cases (unit : MUnit) (feature : MUCapabilities) :
    (unit.capabilities &&& feature ≠ 0 ∧ unit.ifNotCapable feature = none) ∨
    (unit.capabilities &&& feature = 0 ∧ ∃ reasoning,
      unit.ifNotCapable feature = some (.fail reasoning)) := by
  unfold ifNotCapable
  split
  · rename_i h
    exact .inl ⟨h, rfl⟩
  · rename_i h
    exact .inr ⟨not_not.mp h, _, rfl⟩

/-- The last check reads the constraints of a unit that has none. -/
theorem refuseTemperature_cases (unit : MUnit) (settings : HeatingSettings) :
    (unit.Admits settings ∧ unit.refuseTemperature settings = .ok none) ∨
    (unit.heatingConstraints = none ∧
      unit.refuseTemperature settings = .error .invalidOperation) ∨
    (¬ unit.Admits settings ∧ unit.heatingConstraints ≠ none ∧ ∃ reasoning,
      unit.refuseTemperature settings = .ok (some (.fail reasoning))) := by
  unfold refuseTemperature Admits
  cases unit.heatingConstraints with
  | none => exact .inr (.inl ⟨rfl, rfl⟩)
  | some constraints =>
    simp only [Option.any_some]
    cases hrange : settings.isInRange constraints with
    | true =>
      obtain ⟨tempC, htempC, hbounds⟩ := HeatingSettings.isInRange_iff.mp hrange
      exact .inl ⟨⟨constraints, tempC, rfl, htempC, hbounds⟩, rfl⟩
    | false =>
      refine .inr (.inr ⟨?_, Option.some_ne_none _, _, rfl⟩)
      rintro ⟨constraints', tempC, ⟨⟩, hadmits⟩
      rw [HeatingSettings.isInRange_iff.mpr ⟨tempC, hadmits⟩] at hrange
      cases hrange

/-- The checks before it return a failure. -/
theorem refuseMUHeating_cases (unit : MUnit) (settings : HeatingSettings) :
    (unit.IsCapableOf settings ∧
      unit.refuseMUHeating settings = unit.refuseTemperature settings) ∨
    (¬ unit.IsCapableOf settings ∧ ∃ reasoning,
      unit.refuseMUHeating settings = .ok (some (.fail reasoning))) := by
  unfold refuseMUHeating IsCapableOf
  obtain ⟨hheating, hnone⟩ | ⟨hheating, reasoning, hsome⟩ := unit.ifNotCapable_cases .heating
  · rw [hnone]
    cases hspin : settings.doSpin.isSome with
    | false => exact .inl ⟨⟨hheating, fun h => by cases h⟩, rfl⟩
    | true =>
      obtain ⟨hcan, hnone'⟩ | ⟨hcan, reasoning, hsome⟩ := unit.ifNotCapable_cases .heatingCanSpin
      · rw [hnone']
        exact .inl ⟨⟨hheating, fun _ => hcan⟩, rfl⟩
      · rw [hsome]
        exact .inr ⟨fun h => h.2 rfl hcan, reasoning, rfl⟩
  · rw [hsome]
    exact .inr ⟨fun h => h.1 hheating, reasoning, rfl⟩

end MUnit

namespace MachineState

/-- **The checks** let a command pass that may heat, throw if the constraints are all that is
missing, and return a failure otherwise. -/
theorem refuseMUHeating_cases (s : MachineState) (unitID : String) (settings : HeatingSettings) :
    (s.MayHeat unitID settings ∧ ¬ s.LacksConstraints unitID settings ∧
      s.refuseMUHeating unitID settings = .ok none) ∨
    (s.LacksConstraints unitID settings ∧
      s.refuseMUHeating unitID settings = .error .invalidOperation) ∨
    (¬ s.MayHeat unitID settings ∧ ¬ s.LacksConstraints unitID settings ∧ ∃ reasoning,
      s.refuseMUHeating unitID settings = .ok (some (.fail reasoning))) := by
  unfold refuseMUHeating MayHeat LacksConstraints
  cases s.materialUnits.tryGetValue unitID with
  | none => exact .inr (.inr ⟨by simp, by simp, _, rfl⟩)
  | some unit =>
    simp only [Option.some.injEq, exists_eq_left']
    obtain ⟨hcapable, hrefuse⟩ | ⟨hcapable, reasoning, hrefuse⟩ :=
      unit.refuseMUHeating_cases settings
    · rw [hrefuse]
      obtain ⟨hadmits, hpass⟩ | ⟨hnone, hthrow⟩ | ⟨hadmits, hsome, reasoning, hfail⟩ :=
        unit.refuseTemperature_cases settings
      · refine .inl ⟨⟨hcapable, hadmits⟩, ?_, hpass⟩
        obtain ⟨constraints, -, hconstraints, -⟩ := hadmits
        rintro ⟨-, hnone⟩
        rw [hnone] at hconstraints
        cases hconstraints
      · exact .inr (.inl ⟨⟨hcapable, hnone⟩, hthrow⟩)
      · exact .inr (.inr ⟨fun h => hadmits h.2, fun h => hsome h.2, reasoning, hfail⟩)
    · exact .inr (.inr ⟨fun h => hcapable h.1, fun h => hcapable h.1, reasoning, hrefuse⟩)

/-- `Any` throws only where its predicate does. -/
theorem anyM_ok {E α : Type} {predicate : α → Except E Bool} {items : List α}
    (h : ∀ item ∈ items, ∃ holds, predicate item = .ok holds) :
    ∃ holds, items.anyM predicate = .ok holds := by
  induction items with
  | nil => exact ⟨false, rfl⟩
  | cons item items ih =>
    obtain ⟨holds, hitem⟩ := h item List.mem_cons_self
    rw [List.anyM_cons, hitem]
    cases holds with
    | true => exact ⟨true, rfl⟩
    | false => exact ih fun item hitem => h item (List.mem_cons_of_mem _ hitem)

/-- The predicate does not throw if every unit has an `ID`. -/
theorem isMUHeating_ok {s : MachineState}
    (hs : ∀ id m, s.materialUnits.tryGetValue id = some m → m.id = some id) (unitID : String) :
    ∃ observed, s.isMUHeating unitID = .ok observed := by
  refine anyM_ok fun item hitem => ?_
  obtain ⟨id, hid⟩ := Dictionary.mem_values_iff.mp hitem
  exact ⟨_, by rw [hs id item hid]⟩

end MachineState

/-- A call that the predicate threw out of has seen it throw. -/
theorem Phase.Runs.predicate_of_threw {T E : Type} {timeout : TimeSpan} {events : List (Event T E)}
    {ex : E} (h : Runs timeout events (.completed (.predicateThrew ex) : Phase T E)) :
    ∃ elapsed, .predicate (.error ex) elapsed ∈ events := by
  generalize hphase : (.completed (.predicateThrew ex) : Phase T E) = phase at h
  cases h with
  | start => cases hphase
  | @step events phase phase' count' count e hruns hadvance =>
    subst hphase
    have hlast : e ∈ events ++ [e] := List.mem_append_right _ (List.mem_singleton_self e)
    unfold advance at hadvance
    split at hadvance
    case h_6 => split at hadvance <;> cases hadvance
    case h_7 =>
      cases hadvance
      exact ⟨_, hlast⟩
    all_goals cases hadvance

/-! ### Gating -/

namespace MachineConnection

variable {Cron : Type} [DecidableEq Cron] [Hashable (HeatingSchedule Cron)]
  [Hashable (ScheduledPrint Cron)] {c₀ : MachineConnection Cron} {unitID : String}
  {settings : HeatingSettings}

/-- The states from some point of a run on. -/
def From (c₀ : MachineConnection Cron) (past : List (Commit Cron)) (s : MachineState) : Prop :=
  ∃ more, s = (c₀.run (past ++ more)).state

/-- A call that sends the command ends with a result. -/
theorem operate_isSome (h₀ : c₀.state.materialUnits = ∅) {past : List (Commit Cron)}
    {timeout : TimeSpan} {events : List (Event Unit InvokeException)}
    {exit : Exit Unit InvokeException} (hruns : Phase.Runs timeout events (.completed exit))
    (hpredicate : ∀ observed elapsed, .predicate observed elapsed ∈ events →
      ∃ s', c₀.From past s' ∧ observed = s'.isMUHeating unitID) (failure : OperationFailure) :
    (operate failure timeout exit).toOption.isSome = true := by
  cases exit with
  | predicateThrew ex =>
    obtain ⟨elapsed, hmem⟩ := hruns.predicate_of_threw
    obtain ⟨_, ⟨more, rfl⟩, hthrew⟩ := hpredicate _ elapsed hmem
    obtain ⟨observed, hok⟩ := (c₀.run (past ++ more)).state.isMUHeating_ok
      (fun id m hm => unitIDs_run (fun id m hm => by rw [h₀] at hm; cases hm) _ hm) unitID
    rw [hok] at hthrew
    cases hthrew
  | _ => rfl

/-- **Heating is gated and never faults** just when the call does not get to the constraints of a
unit without any, whatever the run before it and during it. -/
theorem muHeating_gated_iff (h₀ : c₀.state.materialUnits = ∅) (past : List (Commit Cron))
    (unitID : String) (settings : HeatingSettings) :
    MUHeatingGated unitID settings (c₀.run past).state (c₀.From past) ↔
      ¬ (c₀.run past).state.LacksConstraints unitID settings := by
  obtain ⟨hmay, hconstrained, hpass⟩ | ⟨hlacks, hthrow⟩ | ⟨hmay, hconstrained, reasoning, hfail⟩ :=
    (c₀.run past).state.refuseMUHeating_cases unitID settings
  · refine iff_of_true ⟨fun invoked result hends => ?_, fun _ _ => hmay,
      fun hnot => absurd hmay hnot⟩ hconstrained
    cases hends with
    | threw h => cases hpass.symm.trans h
    | refused h => rfl
    | operated h hruns hpredicate => exact operate_isSome h₀ hruns hpredicate _
  · refine iff_of_false (fun hgated => ?_) (not_not.mpr hlacks)
    cases hgated.completes false none (.threw hthrow)
  · have hends : ∀ invoked result,
        MUHeatingEnds unitID settings (c₀.run past).state (c₀.From past) invoked result →
          invoked = false ∧ result = some (.fail reasoning) := by
      intro invoked result hends
      cases hends with
      | threw h => cases hfail.symm.trans h
      | refused h =>
        cases hfail.symm.trans h
        exact ⟨rfl, rfl⟩
      | operated h => cases hfail.symm.trans h
    refine iff_of_true ⟨fun invoked result h => ?_, fun result h => ?_,
      fun _ => ⟨reasoning, .refused hfail, hends⟩⟩ hconstrained
    · rw [(hends invoked result h).2]
      rfl
    · cases (hends true result h).1

/-- A printer that nothing is known of. -/
private def unheard : MachineConnection Unit := ⟨default, default, default, ⟨[], false, 0⟩⟩

/-- A unit is told of that can heat, with or without its constraints. -/
private def heatable (constraints : Option HeatingConstraints) : Commit Unit :=
  .alone ⟨default, fun _ => none⟩ ((default : MachineStateUpdate).updateMaterialUnits "AMS"
    fun mu => { mu with
      capacity := mu.capacity.set 4
      capabilities := mu.capabilities.set .heating
      heatingConstraints := mu.heatingConstraints.set constraints })

/-- The unit in the state. -/
private theorem exists_heatable (constraints : Option HeatingConstraints) :
    (unheard.run [heatable constraints]).state.materialUnits.tryGetValue "AMS" =
      some { (default : MUnit) with
        id := some "AMS"
        capacity := 4
        capabilities := .heating
        heatingConstraints := constraints } := by
  rfl

/-- With its constraints the unit is heated within them only. -/
theorem muHeating_gated_iff_heatable :
    MUHeatingGated "AMS" ⟨.finite 55, .zero, none⟩
      (unheard.run [heatable (some ⟨45, 65⟩)]).state
      (unheard.From [heatable (some ⟨45, 65⟩)]) := by
  have hfresh : unheard.state.materialUnits = ∅ := rfl
  refine (muHeating_gated_iff hfresh [heatable (some ⟨45, 65⟩)] "AMS" _).mpr ?_
  rintro ⟨unit, hunit, -, hnone⟩
  rw [exists_heatable] at hunit
  cases hunit
  cases hnone

/-- Without them the call throws. -/
theorem muHeating_gated_fails :
    ¬ ∀ (c₀ : MachineConnection Unit) (past : List (Commit Unit)) (unitID : String)
        (settings : HeatingSettings), c₀.state.materialUnits = ∅ →
      MUHeatingGated unitID settings (c₀.run past).state (c₀.From past) := by
  intro hall
  have hgated := hall unheard [heatable none] "AMS" ⟨.finite 55, .zero, none⟩ rfl
  have hthrow : (unheard.run [heatable none]).state.refuseMUHeating "AMS"
      ⟨.finite 55, .zero, none⟩ = .error .invalidOperation := by
    rw [MachineState.refuseMUHeating, exists_heatable]
    decide
  cases hgated.completes false none (.threw hthrow)

end MachineConnection

end Connect3Dp
