import Connect3Dp.Connectors.CommitRuns
import Connect3Dp.Connectors.ScheduledTasks
import Connect3Dp.State.MaterialChange

/-!
# `ChangeMaterial` of a printer that does not report its material

ELEGOO and Creality printers do not say what is loaded. The user does, and `Invoke_ChangeMaterial`
of both connectors commits it (`TrackingConnector.invokeChangeMaterial`).

The commits of these connectors write units by a few calls only (`UnitCall`), so every unit and
every tray they ever hold says which key it is stored under (`unitKeys_run`). On such a unit the
commit returns and changes the one tray (`TrackingConnector.invokeChangeMaterial_exact`).
-/

namespace Connect3Dp

/-! ### The calls on the builder of a unit -/

/-- A call on the builder of a unit in the commits of the two connectors and of their base class. -/
inductive UnitCall
  | setCapacity (capacity : Int32)
  | setCapabilities (capabilities : MUCapabilities)
  | changeMaterial (slot : Int32) (material : Material)
  | setHeatingSchedule (ops : HeatingScheduleOps) (schedule : HeatingScheduleRef)
  | removeHeatingSchedule (ops : HeatingScheduleOps) (schedule : HeatingScheduleRef)

def UnitCall.configure : UnitCall → MUnitUpdate → MUnitUpdate
  | setCapacity capacity, mu => { mu with capacity := mu.capacity.set capacity }
  | setCapabilities capabilities, mu =>
    { mu with capabilities := mu.capabilities.set capabilities }
  | changeMaterial slot material, mu => mu.changeMaterial slot material
  | setHeatingSchedule ops schedule, mu => mu.setHeatingSchedule ops schedule
  | removeHeatingSchedule ops schedule, mu => mu.removeHeatingSchedule ops schedule

/-- No tray sets its number to anything but its key, or loses its material. -/
def MUnitUpdate.KeepsTrays (mu : MUnitUpdate) : Prop :=
  ∀ slot tray, mu.trays.lookup slot = some tray →
    tray.number.Agrees slot ∧ ¬ tray.RemovesMaterial

theorem UnitCall.keepsTrays_configure (call : UnitCall) {mu : MUnitUpdate} (h : mu.KeepsTrays) :
    (call.configure mu).KeepsTrays := by
  cases call with
  | setCapacity | setCapabilities | setHeatingSchedule | removeHeatingSchedule => exact h
  | changeMaterial slot material =>
    intro k tray htray
    have hlookup := htray.symm.trans (DictionaryBuffer.lookup_update mu.trays slot k
      (SpoolUpdate.setNumber slot default) (·.updateMaterial (·.setMaterial material)))
    split at hlookup
    · rename_i hk
      cases hlookup
      refine ⟨?_, fun hremoves => ?_⟩
      · cases hold : mu.trays.lookup slot with
        | none => exact fun _ => hk.symm
        | some old => exact hk ▸ (h slot old hold).1
      · cases hremoves.2
    · exact h k tray hlookup.symm

namespace MachineStateUpdate

/-- The units of an update after some calls. -/
def unitsAfter (calls : List (String × UnitCall)) : DictionaryBuffer String MUnitUpdate :=
  (calls.foldl (fun u call => u.updateMaterialUnits call.1 call.2.configure)
    (default : MachineStateUpdate)).materialUnits

/-- The units of the update were written by such calls. All commits of the two connectors are of
this kind; most of them make none. -/
def WritesUnits (u : MachineStateUpdate) : Prop :=
  ∃ calls, u.materialUnits = unitsAfter calls

variable {u : MachineStateUpdate} {s : MachineState} {ops : ScheduleOps}

theorem WritesUnits.keepsTrays (h : u.WritesUnits) {unitID : String} {mu : MUnitUpdate}
    (hmu : u.materialUnits.lookup unitID = some mu) : mu.KeepsTrays := by
  obtain ⟨calls, hcalls⟩ := h
  rw [hcalls] at hmu
  clear hcalls
  induction calls using List.reverseRecOn generalizing unitID mu with
  | nil => cases hmu
  | append_singleton calls call ih =>
    rw [unitsAfter, List.foldl_append] at hmu
    have hlookup := hmu.symm.trans (DictionaryBuffer.lookup_update (unitsAfter calls) call.1 unitID
      (MUnitUpdate.assertKey call.1 default) call.2.configure)
    split at hlookup
    · cases hlookup
      refine call.2.keepsTrays_configure ?_
      cases hold : (unitsAfter calls).lookup call.1 with
      | none => exact fun _ _ h => by cases h
      | some old => exact ih hold
    · exact ih hlookup.symm

/-- `UpdateMaterialUnits("External", mu => mu.SetCapacity(1).SetCapabilities(ModifyTray))` and, if
a material was configured, its tray: what both connectors write when they connect. -/
def registerUnit (loadedMaterial : Option Material) (u : MachineStateUpdate) :
    MachineStateUpdate :=
  let u := u.updateMaterialUnits "External" fun mu => { mu with
    capacity := mu.capacity.set 1
    capabilities := mu.capabilities.set .modifyTray }
  match loadedMaterial with
  | some material => u.changeMaterial "External" 0 material
  | none => u

theorem updateMaterialUnits_updateMaterialUnits (u : MachineStateUpdate) (unitID : String)
    (f g : MUnitUpdate → MUnitUpdate) :
    (u.updateMaterialUnits unitID f).updateMaterialUnits unitID g =
      u.updateMaterialUnits unitID fun mu => g (f mu) := by
  simp only [updateMaterialUnits, DictionaryBuffer.update_update]

theorem writesUnits_registerUnit (loadedMaterial : Option Material) :
    ((default : MachineStateUpdate).registerUnit loadedMaterial).WritesUnits := by
  have hregister := (default : MachineStateUpdate).updateMaterialUnits_updateMaterialUnits
    "External" (UnitCall.setCapacity 1).configure (UnitCall.setCapabilities .modifyTray).configure
  cases loadedMaterial with
  | none =>
    refine ⟨[("External", .setCapacity 1), ("External", .setCapabilities .modifyTray)], ?_⟩
    exact congrArg MachineStateUpdate.materialUnits hregister.symm
  | some material =>
    refine ⟨[("External", .setCapacity 1), ("External", .setCapabilities .modifyTray),
      ("External", .changeMaterial 0 material)], ?_⟩
    exact congrArg (fun u => (u.changeMaterial "External" 0 material).materialUnits) hregister.symm

theorem writesUnits_changeMaterial (unitID : String) (slot : Int32) (material : Material) :
    ((default : MachineStateUpdate).changeMaterial unitID slot material).WritesUnits :=
  ⟨[(unitID, .changeMaterial slot material)], rfl⟩

end MachineStateUpdate

/-! ### Runs -/

namespace MachineStateUpdate

variable {u : MachineStateUpdate} {s : MachineState} {ops : ScheduleOps}

theorem WritesUnits.not_raisesInUnits (h : u.WritesUnits) : ¬ u.RaisesInUnits s := by
  rintro ⟨unitID, mu, m, hmu, -, slot, su, tray, hsu, -, hremoves⟩
  exact (h.keepsTrays hmu slot su hsu).2 hremoves

/-- The calls keep units and trays that say their keys. -/
theorem WritesUnits.keysAgree (h : u.WritesUnits)
    (hs : ∀ unitID m, s.materialUnits.tryGetValue unitID = some m → m.KeysAgree unitID)
    {unitID : String} {m : MUnit}
    (hm : (finalState ((u.appendUpdate ops).run s)).materialUnits.tryGetValue unitID = some m) :
    m.KeysAgree unitID := by
  obtain ⟨-, f, hr⟩ | ⟨-, -, f, hr⟩ | ⟨-, -, hraises, -⟩ | ⟨-, -, -, hr⟩ :=
    run_appendUpdate_raise_cases ops u s
  · rw [hr] at hm
    exact hs unitID m hm
  · rw [hr] at hm
    exact hs unitID m hm
  · exact absurd hraises h.not_raisesInUnits
  · rw [hr] at hm
    have hunits := DictionaryBuffer.forall_apply_iff (b := u.materialUnits)
      (t := MUnitUpdate.total ops.heatingSchedules) hs
    refine hunits.mpr (fun id mu hmu _ => ?_) unitID m hm
    refine (MUnitUpdate.keysAgree_merge_iff (hs id)).mpr fun _ slot tray htray _ _ => ?_
    exact (h.keepsTrays hmu slot tray htray).1

end MachineStateUpdate

namespace MachineConnection

variable {Cron : Type} [DecidableEq Cron] [Hashable (HeatingSchedule Cron)]
  [Hashable (ScheduledPrint Cron)] {c : MachineConnection Cron} {u : MachineStateUpdate}

/-- **Units and trays say their keys**, in every run of the two connectors. -/
theorem unitKeys_run (hc : c.state.materialUnits = ∅) {commits : List (Commit Cron)}
    (hcommits : ∀ k ∈ commits, k.update.WritesUnits) {unitID : String} {m : MUnit}
    (hm : (c.run commits).state.materialUnits.tryGetValue unitID = some m) :
    m.KeysAgree unitID := by
  induction commits using List.reverseRecOn generalizing unitID m with
  | nil =>
    rw [run_nil, hc] at hm
    cases hm
  | append_singleton past k ih =>
    obtain ⟨c₁, hsame, hstate⟩ := (c.run past).state_commit k
    rw [run_concat, hstate] at hm
    have hk : (c₁.preprocessUpdate k.update).WritesUnits :=
      hcommits k (List.mem_append_right past (List.mem_singleton.mpr rfl))
    refine hk.keysAgree (fun id m hm => ?_) hm
    refine ih (fun k hk => hcommits k (List.mem_append_left _ hk)) ?_
    rwa [show c₁.state = (c.run past).state from hsame] at hm

/-- **A commit returns** if its update raises nowhere, sets no status and schedules nothing. -/
theorem run_commitState_of_idle (env : Environment Cron) (hu : u.Harmless)
    (hstatus : u.status.isSet = false) (hsteps : c.steps u = []) :
    (commitState env u).run c =
      .ok (if (c.report u).hasChanged then some (c.report u) else none)
        (c.applied u (c.appliedState u)) := by
  have hends : ¬ (c.preprocessUpdate u).RaisesInHistory c.state := by
    rintro ⟨⟨-, hset, -⟩, -⟩
    rw [show (c.preprocessUpdate u).status = u.status from rfl, hstatus] at hset
    cases hset
  obtain ⟨hraises, -⟩ | ⟨-, hraises, -⟩ | ⟨-, -, hraises, -⟩ | ⟨-, -, -, happly⟩ :=
    MachineStateUpdate.run_appendUpdate_raise_cases c.heap.ops (c.preprocessUpdate u) c.state
  · exact absurd hraises (hu.not_raisesInChanges c.state)
  · exact absurd hraises hu.not_raisesInJob
  · exact absurd hraises (hu.not_raisesInUnits c.state)
  · obtain ⟨f, s', happly', -⟩ | ⟨changes, s', happly', hrest⟩ := run_commitState_cases env u c
    all_goals rw [happly] at happly'; cases happly'
    obtain ⟨f, hhistory, -⟩ | ⟨u', hhistory, hrun⟩ := hrest
    · exact absurd (appendHistory_eq_error_iff.mp ⟨f, hhistory⟩) hends
    · have hidle : u'.schedulingSteps c.heap.ops = [] :=
        (schedulingSteps_of_appendHistory hhistory).trans hsteps
      rw [updateSchedules_eq_forM env c.heap, hidle] at hrun
      obtain ⟨f, c', herror, -⟩ | ⟨c', hok, hrun⟩ := hrun
      · cases herror
      · cases hok
        exact hrun

end MachineConnection

/-! ### The operation -/

/-- What `OnChanges` tells of the units is what the report says of them. -/
theorem MachineStateChanges.materialUnits_raised {changes : MachineStateChanges} :
    ((if changes.hasChanged then some changes else none).map
      MachineStateChanges.materialUnits).getD default = changes.materialUnits := by
  split
  · rfl
  · rename_i hquiet
    refine (DictionaryChanges.eq_default_of_not_hasChanged ?_).symm
    rw [Bool.not_eq_true] at hquiet
    simp only [hasChanged, Bool.or_eq_false_iff] at hquiet
    tauto

/-- The checks of `ChangeMaterial`: what it fails with instead of running the operation. -/
def MachineState.refuseChangeMaterial (unitID : String) (s : MachineState) :
    Option MachineOperationResult :=
  match s.materialUnits.tryGetValue unitID with
  | some mu => mu.ifNotCapable .modifyTray
  | none => some (.fail (MachineMessages.muDoesNotExist unitID))

/-- The predicate of `ChangeMaterial`. The tray of a slot without one is the default tray. -/
def MachineState.hasMaterial (unitID : String) (slot : Int32) (material : Material)
    (s : MachineState) : Bool :=
  match s.materialUnits.tryGetValue unitID with
  | some mu => decide (((mu.trays.tryGetValue slot).getD default).material = material)
  | none => false

/-- The tray of a unit exchanges its material or is new, and apart from notifications nothing else
is touched. -/
structure MachineState.ExchangesMaterial (s s' : MachineState) (unitID : String) (m : MUnit)
    (slot : Int32) (material : Material) : Prop where
  unit : ∃ trays, s'.materialUnits.tryGetValue unitID = some { m with trays } ∧
    trays.tryGetValue slot = some (Spool.withMaterial slot material (m.trays.tryGetValue slot)) ∧
    ∀ slot', slot' ≠ slot → trays.tryGetValue slot' = m.trays.tryGetValue slot'
  units : ∀ unitID', unitID' ≠ unitID →
    s'.materialUnits.tryGetValue unitID' = s.materialUnits.tryGetValue unitID'
  rest : s' = { s with materialUnits := s'.materialUnits, notifications := s'.notifications }

theorem MachineState.ExchangesMaterial.hasMaterial {s s' : MachineState} {unitID : String}
    {m : MUnit} {slot : Int32} {material : Material}
    (h : s.ExchangesMaterial s' unitID m slot material) :
    s'.hasMaterial unitID slot material = true := by
  obtain ⟨trays, hunit, htray, -⟩ := h.unit
  simp only [MachineState.hasMaterial, hunit, htray, Option.getD_some, Spool.withMaterial_material,
    decide_true]

/-- A connector that keeps in its configuration what the user says is loaded. -/
structure TrackingConnector (Cron : Type) where
  connection : MachineConnection Cron
  loadedMaterial : Option Material

namespace TrackingConnector

variable {Cron : Type} [DecidableEq Cron] [Hashable (HeatingSchedule Cron)]
  [Hashable (ScheduledPrint Cron)]

/-- `Invoke_ChangeMaterial`, and what `OnChanges` was raised with. The builder takes no `null` for
a key. -/
def invokeChangeMaterial (env : Environment Cron) (location : SpoolLocation) (material : Material) :
    EStateM Fault (TrackingConnector Cron) (MachineOperationResult × Option MachineStateChanges) :=
  match location.muid with
  | none => throw .argument
  | some unitID => do
    let raised ← onField connection (fun c connection => { c with connection })
      (MachineConnection.commitState env
        ((default : MachineStateUpdate).changeMaterial unitID location.slot material))
    modify fun c => { c with loadedMaterial := some material }
    return (.ok, raised)

end TrackingConnector

namespace MachineStateUpdate

variable {unitID : String} {slot : Int32} {material : Material}

theorem harmless_changeMaterial :
    ((default : MachineStateUpdate).changeMaterial unitID slot material).Harmless := by
  refine ⟨fun id mu k tray hmu htray => ?_, fun h => ?_, fun ju h => ?_⟩
  · exact ((writesUnits_changeMaterial unitID slot material).keepsTrays hmu k tray htray).2
  all_goals cases h

end MachineStateUpdate

namespace MachineConnection

variable {Cron : Type} [DecidableEq Cron] [Hashable (HeatingSchedule Cron)]
  [Hashable (ScheduledPrint Cron)] {c : MachineConnection Cron} {unitID : String} {slot : Int32}
  {material : Material} {m : MUnit}

/-- **The commit exchanges the material**, apart from the notifications that are resolved by
themselves. -/
theorem exchangesMaterial_appliedState
    (hm : c.state.materialUnits.tryGetValue unitID = some m) (hkeys : m.KeysAgree unitID) :
    c.state.ExchangesMaterial
      (c.appliedState ((default : MachineStateUpdate).changeMaterial unitID slot material))
      unitID m slot material := by
  have hunits : (c.appliedState ((default : MachineStateUpdate).changeMaterial unitID slot
      material)).materialUnits = c.state.materialUnits.set unitID (m.withMaterial slot material) :=
    MachineStateUpdate.materialUnits_apply_changeMaterial hm hkeys
  refine ⟨⟨(m.withMaterial slot material).trays, ?_, Dictionary.tryGetValue_set_self _ _ _,
    fun slot' hne => Dictionary.tryGetValue_set_of_ne _ hne _⟩, fun unitID' hne => ?_, rfl⟩
  · rw [hunits, Dictionary.tryGetValue_set_self]
    rfl
  · rw [hunits, Dictionary.tryGetValue_set_of_ne _ hne]

end MachineConnection

namespace TrackingConnector

variable {Cron : Type} [DecidableEq Cron] [Hashable (HeatingSchedule Cron)]
  [Hashable (ScheduledPrint Cron)] {c : TrackingConnector Cron} {unitID : String} {m : MUnit}

/-- **`ChangeMaterial` does what it says and nothing else**, in every state that a run of the
connector reaches. -/
theorem invokeChangeMaterial_exact {c₀ : MachineConnection Cron}
    {commits : List (MachineConnection.Commit Cron)} (h₀ : c₀.state.materialUnits = ∅)
    (hcommits : ∀ k ∈ commits, k.update.WritesUnits) (hc : c.connection = c₀.run commits)
    (hm : c.connection.state.materialUnits.tryGetValue unitID = some m)
    (hcapable : m.capabilities &&& .modifyTray ≠ 0) (slot : Int32) (material : Material)
    (env : Environment Cron) :
    c.connection.state.refuseChangeMaterial unitID = none ∧
    ∃ raised c', (invokeChangeMaterial env ⟨some unitID, slot⟩ material).run c =
        .ok (.ok, raised) c' ∧
      c'.loadedMaterial = some material ∧
      c'.connection.state.hasMaterial unitID slot material = true ∧
      c.connection.state.ExchangesMaterial c'.connection.state unitID m slot material ∧
      (raised.map MachineStateChanges.materialUnits).getD default =
        unitReport unitID (trayReport slot material (m.trays.tryGetValue slot)) := by
  let u := (default : MachineStateUpdate).changeMaterial unitID slot material
  have hkeys : m.KeysAgree unitID :=
    MachineConnection.unitKeys_run h₀ hcommits (by rwa [← hc])
  have hrefuse : c.connection.state.refuseChangeMaterial unitID = none := by
    rw [MachineState.refuseChangeMaterial, hm]
    exact if_pos hcapable
  have hrun : (MachineConnection.commitState env u).run c.connection = _ :=
    MachineConnection.run_commitState_of_idle env MachineStateUpdate.harmless_changeMaterial rfl rfl
  have hexchanges : c.connection.state.ExchangesMaterial (c.connection.appliedState u) unitID m
      slot material := MachineConnection.exchangesMaterial_appliedState hm hkeys
  have hreport : (c.connection.report u).materialUnits =
      unitReport unitID (trayReport slot material (m.trays.tryGetValue slot)) :=
    MachineStateUpdate.materialUnits_changed_changeMaterial hm hkeys
  exact ⟨hrefuse, _, _, run_bind_ok (run_onField_ok hrun), rfl, hexchanges.hasMaterial,
    hexchanges, MachineStateChanges.materialUnits_raised.trans hreport⟩

/-- A printer that nothing is known of. -/
private def unconnected : MachineConnection Unit := ⟨default, default, default, ⟨[], false, 0⟩⟩

private def connecting : MachineConnection.Commit Unit :=
  .alone ⟨default, fun _ => none⟩ ((default : MachineStateUpdate).registerUnit none)

/-- The unit that is there after connecting. -/
private def external : MUnit :=
  { (default : MUnit) with
    id := some "External"
    capacity := 1
    capabilities := .modifyTray }

/-- A connected printer that was given no material yet gets its tray. -/
theorem invokeChangeMaterial_exact_connected :
    ∃ raised c', (invokeChangeMaterial ⟨default, fun _ => none⟩ ⟨some "External", 0⟩
        ⟨some "PLA", ⟨255, 0, 0⟩, none⟩).run ⟨unconnected.run [connecting], none⟩ =
          .ok (.ok, raised) c' ∧
      c'.connection.state.hasMaterial "External" 0 ⟨some "PLA", ⟨255, 0, 0⟩, none⟩ = true := by
  have hcommits : ∀ k ∈ [connecting], k.update.WritesUnits := by
    intro k hk
    rw [List.mem_singleton.mp hk]
    exact MachineStateUpdate.writesUnits_registerUnit none
  have hunit : (unconnected.run [connecting]).state.materialUnits.tryGetValue "External" =
      some external := by decide
  have hfresh : unconnected.state.materialUnits = ∅ := rfl
  obtain ⟨-, raised, c', hrun, -, hmaterial, -⟩ := invokeChangeMaterial_exact
    (c := ⟨unconnected.run [connecting], none⟩) hfresh hcommits rfl hunit (by decide) 0
    ⟨some "PLA", ⟨255, 0, 0⟩, none⟩ ⟨default, fun _ => none⟩
  exact ⟨raised, c', hrun, hmaterial⟩

end TrackingConnector

end Connect3Dp
