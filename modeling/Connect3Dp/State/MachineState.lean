import Connect3Dp.State.Devices
import Connect3Dp.State.MUnit
import Connect3Dp.State.PrintJob

/-!
# The state of a machine and its builder

`MachineStateUpdate.appendUpdate` is the generated `AppendUpdate`: it computes the report
(`changes`), which may raise, and then writes the properties one after another in the order of
the class. Two of the writes may raise, `CurrentJob` and `MaterialUnits`; what was written before
stays written (`run_appendUpdate_cases`).

`apply` is the state after an update that returned, and `changed` its report
(`run_appendUpdate_ok`).
-/

namespace Connect3Dp

/-- `MachineState`. -/
structure MachineState where
  brand : NetString
  model : NetString
  nickname : NetString
  capabilities : MachineCapabilities
  status : MachineStatus
  currentJob : Option PrintJob
  jobHistory : HashSet HistoricPrintJob
  localJobs : HashSet LocalPrintJob
  scheduledPrints : RecordHashSet ScheduledPrintRef
  extruders : Dictionary Int32 MachineExtruder
  nozzles : Dictionary Int32 MachineNozzle
  materialUnits : Dictionary String MUnit
  airDuctMode : MachineAirDuctMode
  fans : Dictionary String Int32
  lights : Dictionary String Bool
  heatingElements : Dictionary String HeatingElement
  isLocalStorageScanning : Bool
  streamingURLs : Option MachineStreamingURLs
  speedRange : Option PrintSpeedRange
  speedPresets : Dictionary String Int32
  notifications : Dictionary String Notification
  deriving DecidableEq

/-- `new MachineState()`. -/
instance : Inhabited MachineState where
  default := {
    brand := none
    model := none
    nickname := none
    -- `MachineCapabilities.None` is the flag `1 << 0`
    capabilities := 1
    status := .disconnected
    currentJob := none
    jobHistory := ∅
    localJobs := ∅
    scheduledPrints := ∅
    extruders := ∅
    nozzles := ∅
    materialUnits := ∅
    airDuctMode := .none
    fans := ∅
    lights := ∅
    heatingElements := ∅
    isLocalStorageScanning := false
    streamingURLs := none
    speedRange := none
    speedPresets := ∅
    notifications := ∅ }

/-- `MachineStateUpdate`. `default` is `new MachineStateUpdate()`. -/
structure MachineStateUpdate where
  brand : ScalarBuffer NetString
  model : ScalarBuffer NetString
  nickname : ScalarBuffer NetString
  capabilities : ScalarBuffer MachineCapabilities
  status : ScalarBuffer MachineStatus
  currentJob : NestedBuffer PrintJobUpdate
  jobHistory : SetBuffer (HashSet HistoricPrintJob)
  localJobs : SetBuffer (HashSet LocalPrintJob)
  scheduledPrints : SetBuffer (RecordHashSet ScheduledPrintRef)
  extruders : DictionaryBuffer Int32 MachineExtruderUpdate
  nozzles : DictionaryBuffer Int32 MachineNozzleUpdate
  materialUnits : DictionaryBuffer String MUnitUpdate
  airDuctMode : ScalarBuffer MachineAirDuctMode
  fans : DictionaryBuffer String Int32
  lights : DictionaryBuffer String Bool
  heatingElements : DictionaryBuffer String HeatingElement
  isLocalStorageScanning : ScalarBuffer Bool
  streamingURLs : ScalarBuffer (Option MachineStreamingURLs)
  speedRange : ScalarBuffer (Option PrintSpeedRange)
  speedPresets : DictionaryBuffer String Int32
  notifications : DictionaryBuffer String NotificationUpdate
  deriving Inhabited

/-- `MachineStateChanges`. -/
structure MachineStateChanges where
  brand : ScalarChanges NetString
  model : ScalarChanges NetString
  nickname : ScalarChanges NetString
  capabilities : ScalarChanges MachineCapabilities
  status : ScalarChanges MachineStatus
  currentJob : Option PrintJobChanges
  jobHistory : SetChanges HistoricPrintJob
  localJobs : SetChanges LocalPrintJob
  scheduledPrints : SetChanges ScheduledPrintRef
  extruders : DictionaryChanges Int32 MachineExtruder MachineExtruderChanges
  nozzles : DictionaryChanges Int32 MachineNozzle MachineNozzleChanges
  materialUnits : DictionaryChanges String MUnit MUnitChanges
  airDuctMode : ScalarChanges MachineAirDuctMode
  fans : DictionaryChanges String Int32 Int32
  lights : DictionaryChanges String Bool Bool
  heatingElements : DictionaryChanges String HeatingElement HeatingElement
  isLocalStorageScanning : ScalarChanges Bool
  streamingURLs : ScalarChanges (Option MachineStreamingURLs)
  speedRange : ScalarChanges (Option PrintSpeedRange)
  speedPresets : DictionaryChanges String Int32 Int32
  notifications : DictionaryChanges String Notification NotificationChanges
  deriving Inhabited

def MachineStateChanges.hasChanged (c : MachineStateChanges) : Bool :=
  c.brand.hasChanged || c.model.hasChanged || c.nickname.hasChanged ||
  c.capabilities.hasChanged || c.status.hasChanged ||
  c.currentJob.any PrintJobChanges.hasChanged || c.jobHistory.hasChanged ||
  c.localJobs.hasChanged || c.scheduledPrints.hasChanged || c.extruders.hasChanged ||
  c.nozzles.hasChanged || c.materialUnits.hasChanged || c.airDuctMode.hasChanged ||
  c.fans.hasChanged || c.lights.hasChanged || c.heatingElements.hasChanged ||
  c.isLocalStorageScanning.hasChanged || c.streamingURLs.hasChanged ||
  c.speedRange.hasChanged || c.speedPresets.hasChanged || c.notifications.hasChanged

/-- The operations of `HashSet<ScheduledPrint>`. -/
abbrev ScheduledPrintOps := HashSetOps (RecordHashSet ScheduledPrintRef) ScheduledPrintRef

/-- The operations of the two kinds of set whose elements can change while they are stored. -/
structure ScheduleOps where
  heatingSchedules : HeatingScheduleOps
  scheduledPrints : ScheduledPrintOps

/-- The schedules that live outside the state: what the objects at their addresses hold. -/
structure Heap (Cron : Type) where
  heatingSchedules : HeatingScheduleRef → HeatingSchedule Cron
  scheduledPrints : ScheduledPrintRef → ScheduledPrint Cron
  deriving Inhabited

/-- The set operations under the current contents of the heap. -/
def Heap.ops {Cron : Type} [DecidableEq Cron] [Hashable (HeatingSchedule Cron)]
    [Hashable (ScheduledPrint Cron)] (heap : Heap Cron) : ScheduleOps where
  heatingSchedules := .records heap.heatingSchedules
  scheduledPrints := .records heap.scheduledPrints

/-- A hash code for concrete runs over a single CRON expression. Like the synthesized one it
depends on `SchedulerID`. -/
instance : Hashable (HeatingSchedule Unit) := ⟨fun s => hash s.schedulerID⟩

instance : Hashable (ScheduledPrint Unit) := ⟨fun s => hash s.schedulerID⟩

namespace MachineState

def setCurrentJob (s : MachineState) (currentJob : Option PrintJob) : MachineState :=
  { s with currentJob }

def setMaterialUnits (s : MachineState) (materialUnits : Dictionary String MUnit) : MachineState :=
  { s with materialUnits }

end MachineState

namespace MachineStateUpdate

variable (ops : ScheduleOps)

/-- `Changes(MachineState)`, given the report on the units. -/
def changesWith (u : MachineStateUpdate) (s : MachineState)
    (materialUnits : DictionaryChanges String MUnit MUnitChanges) : MachineStateChanges where
  brand := u.brand.changes s.brand
  model := u.model.changes s.model
  nickname := u.nickname.changes s.nickname
  capabilities := u.capabilities.changes s.capabilities
  status := u.status.changes s.status
  currentJob := (u.currentJob.value.map (·.changesOf s.currentJob)).filter (·.hasChanged)
  jobHistory := u.jobHistory.changes (.values HistoricPrintJob) s.jobHistory
  localJobs := u.localJobs.changes (.values LocalPrintJob) s.localJobs
  scheduledPrints := u.scheduledPrints.changes ops.scheduledPrints s.scheduledPrints
  extruders := u.extruders.changes MachineExtruderUpdate.updater s.extruders
  nozzles := u.nozzles.changes MachineNozzleUpdate.updater s.nozzles
  materialUnits := materialUnits
  airDuctMode := u.airDuctMode.changes s.airDuctMode
  fans := u.fans.changes (.value String Int32) s.fans
  lights := u.lights.changes (.value String Bool) s.lights
  heatingElements := u.heatingElements.changes (.value String HeatingElement) s.heatingElements
  isLocalStorageScanning := u.isLocalStorageScanning.changes s.isLocalStorageScanning
  streamingURLs := u.streamingURLs.changes s.streamingURLs
  speedRange := u.speedRange.changes s.speedRange
  speedPresets := u.speedPresets.changes (.value String Int32) s.speedPresets
  notifications := u.notifications.changes NotificationUpdate.updater s.notifications

/-- `Changes(MachineState)`. -/
def changes (u : MachineStateUpdate) (s : MachineState) : Except Fault MachineStateChanges :=
  u.changesWith ops s <$>
    u.materialUnits.tryChanges (MUnitUpdate.updater ops.heatingSchedules) s.materialUnits

/-- The properties before `CurrentJob`. -/
def applyIdentity (u : MachineStateUpdate) (s : MachineState) : MachineState :=
  { s with
    brand := u.brand.apply s.brand
    model := u.model.apply s.model
    nickname := u.nickname.apply s.nickname
    capabilities := u.capabilities.apply s.capabilities
    status := u.status.apply s.status }

/-- The property `CurrentJob`: replaced by the job that `TryCreate` builds, if it builds one. -/
def appendCurrentJob (u : MachineStateUpdate) : EStateM Fault (Option PrintJob) Unit := do
  let created ← ofExcept (u.currentJob.rebuild .nullReference PrintJobUpdate.tryCreate)
  modify created.or

/-- The properties between `CurrentJob` and `MaterialUnits`. -/
def applyStores (u : MachineStateUpdate) (s : MachineState) : MachineState :=
  { s with
    jobHistory := u.jobHistory.apply (.values HistoricPrintJob) s.jobHistory
    localJobs := u.localJobs.apply (.values LocalPrintJob) s.localJobs
    scheduledPrints := u.scheduledPrints.apply ops.scheduledPrints s.scheduledPrints
    extruders := u.extruders.apply MachineExtruderUpdate.updater s.extruders
    nozzles := u.nozzles.apply MachineNozzleUpdate.updater s.nozzles }

/-- The properties after `MaterialUnits`. -/
def applyRest (u : MachineStateUpdate) (s : MachineState) : MachineState :=
  { s with
    airDuctMode := u.airDuctMode.apply s.airDuctMode
    fans := u.fans.apply (.value String Int32) s.fans
    lights := u.lights.apply (.value String Bool) s.lights
    heatingElements := u.heatingElements.apply (.value String HeatingElement) s.heatingElements
    isLocalStorageScanning := u.isLocalStorageScanning.apply s.isLocalStorageScanning
    streamingURLs := u.streamingURLs.apply s.streamingURLs
    speedRange := u.speedRange.apply s.speedRange
    speedPresets := u.speedPresets.apply (.value String Int32) s.speedPresets
    notifications := u.notifications.apply NotificationUpdate.updater s.notifications }

/-- `AppendUpdate(MachineState, out changes)`. -/
def appendUpdate (u : MachineStateUpdate) : EStateM Fault MachineState MachineStateChanges := do
  let changes ← ofExcept (u.changes ops (← get))
  modify u.applyIdentity
  onField MachineState.currentJob MachineState.setCurrentJob u.appendCurrentJob
  modify (u.applyStores ops)
  onField MachineState.materialUnits MachineState.setMaterialUnits
    (u.materialUnits.appendUpdate (MUnitUpdate.updater ops.heatingSchedules))
  modify u.applyRest
  return changes

/-- The job that an update creates when it does not raise. -/
def createdJob (u : MachineStateUpdate) : Option PrintJob :=
  u.currentJob.created PrintJobUpdate.created

/-- What `AppendUpdate` makes of a state when it does not raise. -/
def apply (u : MachineStateUpdate) (s : MachineState) : MachineState where
  brand := u.brand.apply s.brand
  model := u.model.apply s.model
  nickname := u.nickname.apply s.nickname
  capabilities := u.capabilities.apply s.capabilities
  status := u.status.apply s.status
  currentJob := u.createdJob.or s.currentJob
  jobHistory := u.jobHistory.apply (.values HistoricPrintJob) s.jobHistory
  localJobs := u.localJobs.apply (.values LocalPrintJob) s.localJobs
  scheduledPrints := u.scheduledPrints.apply ops.scheduledPrints s.scheduledPrints
  extruders := u.extruders.apply MachineExtruderUpdate.updater s.extruders
  nozzles := u.nozzles.apply MachineNozzleUpdate.updater s.nozzles
  materialUnits := u.materialUnits.apply (MUnitUpdate.total ops.heatingSchedules) s.materialUnits
  airDuctMode := u.airDuctMode.apply s.airDuctMode
  fans := u.fans.apply (.value String Int32) s.fans
  lights := u.lights.apply (.value String Bool) s.lights
  heatingElements := u.heatingElements.apply (.value String HeatingElement) s.heatingElements
  isLocalStorageScanning := u.isLocalStorageScanning.apply s.isLocalStorageScanning
  streamingURLs := u.streamingURLs.apply s.streamingURLs
  speedRange := u.speedRange.apply s.speedRange
  speedPresets := u.speedPresets.apply (.value String Int32) s.speedPresets
  notifications := u.notifications.apply NotificationUpdate.updater s.notifications

/-- The report of an update when it does not raise. -/
def changed (u : MachineStateUpdate) (s : MachineState) : MachineStateChanges :=
  u.changesWith ops s
    (u.materialUnits.changes (MUnitUpdate.total ops.heatingSchedules) s.materialUnits)

/-! ### Runs of `AppendUpdate` -/

/-- The state when the units are about to be written. -/
def applyUntilUnits (u : MachineStateUpdate) (s : MachineState) : MachineState :=
  u.applyStores ops ((u.applyIdentity s).setCurrentJob (u.createdJob.or s.currentJob))

theorem run_appendCurrentJob_error {u : MachineStateUpdate} {f : Fault} (j : Option PrintJob)
    (h : u.currentJob.rebuild .nullReference PrintJobUpdate.tryCreate = .error f) :
    u.appendCurrentJob.run j = .error f j := by
  rw [appendCurrentJob, h]
  rfl

theorem run_appendCurrentJob_ok {u : MachineStateUpdate} {o : Option PrintJob}
    (j : Option PrintJob)
    (h : u.currentJob.rebuild .nullReference PrintJobUpdate.tryCreate = .ok o) :
    u.appendCurrentJob.run j = .ok () (u.createdJob.or j) := by
  have hcreated : u.createdJob = o := NestedBuffer.created_of_rebuild
    (fun _ _ h => (PrintJobUpdate.tryCreate_eq_ok_iff.mp h).2) h
  rw [appendCurrentJob, h, hcreated]
  rfl

/-- **What `AppendUpdate` on a state does**: it raises before it changes anything, it raises at
`CurrentJob`, it raises inside `MaterialUnits`, or it returns. -/
theorem run_appendUpdate_cases (u : MachineStateUpdate) (s : MachineState) :
    (∃ f, u.changes ops s = .error f ∧ (u.appendUpdate ops).run s = .error f s) ∨
    (∃ c f, u.changes ops s = .ok c ∧
      u.currentJob.rebuild .nullReference PrintJobUpdate.tryCreate = .error f ∧
      (u.appendUpdate ops).run s = .error f (u.applyIdentity s)) ∨
    (∃ c o f units, u.changes ops s = .ok c ∧
      u.currentJob.rebuild .nullReference PrintJobUpdate.tryCreate = .ok o ∧
      (u.materialUnits.appendUpdate (MUnitUpdate.updater ops.heatingSchedules)).run
        s.materialUnits = .error f units ∧
      (u.appendUpdate ops).run s =
        .error f ((u.applyUntilUnits ops s).setMaterialUnits units)) ∨
    (∃ o units, u.changes ops s = .ok (u.changed ops s) ∧
      u.currentJob.rebuild .nullReference PrintJobUpdate.tryCreate = .ok o ∧
      (u.materialUnits.appendUpdate (MUnitUpdate.updater ops.heatingSchedules)).run
        s.materialUnits = .ok () units ∧
      (u.appendUpdate ops).run s = .ok (u.changed ops s) (u.apply ops s)) := by
  have hget : (get : EStateM Fault MachineState MachineState).run s = .ok s s := rfl
  have hid : (modify u.applyIdentity : EStateM Fault MachineState Unit).run s =
      .ok () (u.applyIdentity s) := rfl
  cases hc : u.changes ops s with
  -- `Changes` runs first and only reads
  | error f =>
    refine .inl ⟨f, rfl, ?_⟩
    rw [appendUpdate, run_bind_ok hget, hc]
    rfl
  | ok c =>
    have hlift : (ofExcept (Except.ok (ε := Fault) c) :
        EStateM Fault MachineState MachineStateChanges).run s = .ok c s := rfl
    cases hj : u.currentJob.rebuild .nullReference PrintJobUpdate.tryCreate with
    -- the job is rebuilt after the identity is written
    | error f =>
      refine .inr (.inl ⟨c, f, rfl, rfl, ?_⟩)
      have hjob := run_appendCurrentJob_error (u.applyIdentity s).currentJob hj
      rw [appendUpdate, run_bind_ok hget, hc, run_bind_ok hlift, run_bind_ok hid,
        run_bind_error (run_onField_error hjob)]
      rfl
    | ok o =>
      have hjob := run_appendCurrentJob_ok (u.applyIdentity s).currentJob hj
      have hstores : (modify (u.applyStores ops) : EStateM Fault MachineState Unit).run
          ((u.applyIdentity s).setCurrentJob (u.createdJob.or (u.applyIdentity s).currentJob)) =
            .ok () (u.applyUntilUnits ops s) := rfl
      have hunits : (u.applyUntilUnits ops s).materialUnits = s.materialUnits := rfl
      cases hm : (u.materialUnits.appendUpdate (MUnitUpdate.updater ops.heatingSchedules)).run
          (u.applyUntilUnits ops s).materialUnits with
      -- what comes before the units is written already
      | error f units =>
        refine .inr (.inr (.inl ⟨c, o, f, units, rfl, rfl, hunits ▸ hm, ?_⟩))
        rw [appendUpdate, run_bind_ok hget, hc, run_bind_ok hlift, run_bind_ok hid,
          run_bind_ok (run_onField_ok hjob), run_bind_ok hstores,
          run_bind_error (run_onField_error hm)]
      | ok x units =>
        have happly : units =
            u.materialUnits.apply (MUnitUpdate.total ops.heatingSchedules) s.materialUnits :=
          DictionaryBuffer.appendUpdate_ok MUnitUpdate.refines hm
        have hchanged : c = u.changed ops s := by
          obtain ⟨m, hmc, rfl⟩ := map_eq_ok_iff.mp hc
          rw [changed, DictionaryBuffer.tryChanges_ok MUnitUpdate.refines hmc]
        refine .inr (.inr (.inr ⟨o, units, congrArg _ hchanged, rfl, hunits ▸ hm, ?_⟩))
        rw [appendUpdate, run_bind_ok hget, hc, run_bind_ok hlift, run_bind_ok hid,
          run_bind_ok (run_onField_ok hjob), run_bind_ok hstores, run_bind_ok (run_onField_ok hm),
          happly, hchanged]
        rfl

theorem run_appendUpdate_ok {u : MachineStateUpdate} {s s' : MachineState}
    {c : MachineStateChanges} (h : (u.appendUpdate ops).run s = .ok c s') :
    c = u.changed ops s ∧ s' = u.apply ops s := by
  obtain ⟨f, -, hr⟩ | ⟨c', f, -, -, hr⟩ | ⟨c', o, f, units, -, -, -, hr⟩ |
    ⟨o, units, -, -, -, hr⟩ :=
    run_appendUpdate_cases ops u s
  all_goals rw [hr] at h; cases h
  exact ⟨rfl, rfl⟩

/-- An application that returns did not raise in `TryCreate` of a job. -/
theorem not_faults_of_run_appendUpdate_ok {u : MachineStateUpdate} {s s' : MachineState}
    {c : MachineStateChanges} (h : (u.appendUpdate ops).run s = .ok c s') {ju : PrintJobUpdate}
    (hu : u.currentJob.value = some ju) : ¬ ju.Faults := by
  obtain ⟨f, -, hr⟩ | ⟨c', f, -, -, hr⟩ | ⟨c', o, f, units, -, -, -, hr⟩ |
    ⟨o, units, -, hrebuild, -, hr⟩ := run_appendUpdate_cases ops u s
  all_goals rw [hr] at h; cases h
  rw [NestedBuffer.rebuild_of_value hu] at hrebuild
  exact (PrintJobUpdate.tryCreate_eq_ok_iff.mp hrebuild).1

end MachineStateUpdate

end Connect3Dp
