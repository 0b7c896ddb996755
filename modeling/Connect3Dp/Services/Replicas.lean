import Connect3Dp.Connectors.Subscriber
import Connect3Dp.Services.Subscriptions
import Connect3Dp.State.ReportLaw

/-!
# Copies of a machine

A client that is subscribed in full detail keeps a copy of the whole state of a machine and writes
every report into it (`MachineStateChanges.replay`), one that is subscribed at a glance a copy of
four fields. Two copies are the same (`MachineState.Same`) if they differ in the order of their
entries alone. Writing the same report into the same copies gives the same copies, so a report that
turns the state before a commit into the state after it does so with the copy as well.

A report does that under the condition on its update that `ReportLaw` and the subscriber of the
current job have (`ReportsWholly`). At a glance the part for the current job is enough, because
writing a report commutes with the projection (`AtAGlanceMachineState.of_replay`).
-/

namespace Connect3Dp

/-! ### The same entries -/

namespace Dictionary

variable {K V : Type*} [DecidableEq K] {same : V → V → Prop} {d d' : Dictionary K V}

/-- The dictionaries have the same keys, with values that are the same. -/
def Same (same : V → V → Prop) (d d' : Dictionary K V) : Prop :=
  ∀ k, Option.Rel same (d.tryGetValue k) (d'.tryGetValue k)

theorem Same.refl (hsame : ∀ v, same v v) (d : Dictionary K V) : Same same d d := by
  intro k
  cases d.tryGetValue k with
  | none => exact .none
  | some v => exact .some (hsame v)

theorem Same.trans {d'' : Dictionary K V}
    (hsame : ∀ {v v' v''}, same v v' → same v' v'' → same v v'') (h : Same same d d')
    (h' : Same same d' d'') : Same same d d'' := by
  intro k
  have hk := h k
  have hk' := h' k
  generalize d.tryGetValue k = o at hk ⊢
  generalize d'.tryGetValue k = o' at hk hk'
  generalize d''.tryGetValue k = o'' at hk' ⊢
  cases hk with
  | none =>
    cases hk'
    exact .none
  | some hv =>
    cases hk' with
    | some hv' => exact .some (hsame hv hv')

theorem Same.assign (h : Same same d d') (k : K) {o o' : Option V} (ho : Option.Rel same o o') :
    Same same (d.assign k o) (d'.assign k o') := by
  intro k'
  rw [tryGetValue_assign, tryGetValue_assign]
  split
  · cases ho with
    | none => exact h k
    | some hv => exact .some hv
  · exact h k'

theorem Same.alterAll {X : Type*} {f : K → X → Option V → Option V}
    (hf : ∀ k x o o', Option.Rel same o o' → Option.Rel same (f k x o) (f k x o'))
    (h : Same same d d') (kxs : List (K × X)) :
    Same same (d.alterAll f kxs) (d'.alterAll f kxs) := by
  induction kxs generalizing d d' with
  | nil => exact h
  | cons kx kxs ih => exact ih (h.assign kx.1 (hf kx.1 kx.2 _ _ (h kx.1)))

theorem Same.removeAll (h : Same same d d') (ks : List K) :
    Same same (d.removeAll ks) (d'.removeAll ks) := by
  intro k
  rw [tryGetValue_removeAll, tryGetValue_removeAll]
  split
  · exact .none
  · exact h k

end Dictionary

namespace DictionaryChanges

variable {K V C : Type*} [DecidableEq K] {same : V → V → Prop} {replayValue : C → V → V}

/-- Writing a report into the same dictionaries gives the same dictionaries. -/
theorem same_replay (hrefl : ∀ v, same v v)
    (hcongr : ∀ x v v', same v v' → same (replayValue x v) (replayValue x v'))
    (c : DictionaryChanges K V C) {d d' : Dictionary K V} (h : Dictionary.Same same d d') :
    Dictionary.Same same (c.replay replayValue d) (c.replay replayValue d') := by
  refine .alterAll (fun _ x o o' ho => ?_) (.alterAll (fun _ v _ _ _ => ?_) (h.removeAll _) _) _
  · cases ho with
    | none => exact .none
    | some hv => exact .some (hcongr x _ _ hv)
  · exact .some (hrefl v)

/-- Values that are compared by equality. -/
theorem same_replay_eq (c : DictionaryChanges K V C) {d d' : Dictionary K V}
    (h : Dictionary.Same (· = ·) d d') :
    Dictionary.Same (· = ·) (c.replay replayValue d) (c.replay replayValue d') :=
  c.same_replay (fun _ => rfl) (fun x _ _ heq => congrArg (replayValue x) heq) h

/-- A report of nothing is written without a trace. -/
theorem replay_of_not_hasChanged {c : DictionaryChanges K V C} (h : c.hasChanged = false)
    (d : Dictionary K V) : c.replay replayValue d = d := by
  rw [DictionaryChanges.eq_default_of_not_hasChanged h]
  rfl

end DictionaryChanges

namespace SetChanges

variable {α : Type*} [DecidableEq α]

theorem mem_replay (c : SetChanges α) (s : HashSet α) (v : α) :
    v ∈ c.replay (.values α) s ↔ (v ∈ s ∧ v ∉ c.removed) ∨ v ∈ c.added := by
  rw [SetChanges.replay, HashSetOps.mem_unionWith, HashSetOps.mem_exceptWith]

/-- Writing the two differences into the old set gives the new one. -/
theorem mem_replay_of_setDiff {c : SetChanges α} {s s' : HashSet α} (h : SetDiff s s' c) (v : α) :
    v ∈ c.replay (.values α) s ↔ v ∈ s' := by
  rw [mem_replay, h.added_iff, h.removed_iff]
  by_cases hs : v ∈ s <;> by_cases hs' : v ∈ s' <;> simp [hs, hs']

omit [DecidableEq α] in
theorem replay_of_not_hasChanged {S : Type*} {ops : HashSetOps S α} {c : SetChanges α}
    (h : c.hasChanged = false) (s : S) : c.replay ops s = s := by
  rw [SetChanges.eq_default_of_not_hasChanged h]
  rfl

end SetChanges

theorem ScalarChanges.replay_of_not_hasChanged {α : Type*} {c : ScalarChanges α}
    (h : c.hasChanged = false) (old : α) : c.replay old = old := by
  rw [ScalarChanges.replay, h]
  rfl

/-- Writing a report into the same units gives the same units. -/
theorem MUnitChanges.same_replay (ops : HeatingScheduleOps) (c : MUnitChanges) {m m' : MUnit}
    (h : m.Same m') : (c.replay ops m).Same (c.replay ops m') := by
  have htrays : Dictionary.Same (· = ·) m.trays m'.trays := by
    intro k
    rw [h.trays k]
    exact Dictionary.Same.refl (fun _ => rfl) m'.trays k
  have hreplay : Dictionary.Same (· = ·) (c.trays.replay SpoolChanges.replay m.trays)
      (c.trays.replay SpoolChanges.replay m'.trays) := c.trays.same_replay_eq htrays
  refine ⟨?_, ?_, ?_, ?_, ?_, fun k => ?_, ?_, ?_, ?_, ?_⟩
  · exact congrArg c.id.replay h.id
  · exact congrArg c.capacity.replay h.capacity
  · exact congrArg c.model.replay h.model
  · exact congrArg c.capabilities.replay h.capabilities
  · exact congrArg c.heatingConstraints.replay h.heatingConstraints
  · have hk := hreplay k
    change (c.trays.replay SpoolChanges.replay m.trays).tryGetValue k =
      (c.trays.replay SpoolChanges.replay m'.trays).tryGetValue k
    generalize (c.trays.replay SpoolChanges.replay m.trays).tryGetValue k = o at hk ⊢
    generalize (c.trays.replay SpoolChanges.replay m'.trays).tryGetValue k = o' at hk ⊢
    cases hk with
    | none => rfl
    | some heq => rw [heq]
  · exact congrArg c.humidityPercent.replay h.humidityPercent
  · exact congrArg c.temperatureC.replay h.temperatureC
  · exact congrArg c.heatingJob.replay h.heatingJob
  · exact congrArg (c.heatingSchedule.replay ops) h.heatingSchedule

/-! ### The whole state -/

/-- The two states have the same entries. -/
structure MachineState.Same (s s' : MachineState) : Prop where
  brand : s.brand = s'.brand
  model : s.model = s'.model
  nickname : s.nickname = s'.nickname
  capabilities : s.capabilities = s'.capabilities
  status : s.status = s'.status
  currentJob : s.currentJob = s'.currentJob
  jobHistory : ∀ v, v ∈ s.jobHistory ↔ v ∈ s'.jobHistory
  localJobs : ∀ v, v ∈ s.localJobs ↔ v ∈ s'.localJobs
  scheduledPrints : s.scheduledPrints = s'.scheduledPrints
  extruders : Dictionary.Same (· = ·) s.extruders s'.extruders
  nozzles : Dictionary.Same (· = ·) s.nozzles s'.nozzles
  materialUnits : Dictionary.Same MUnit.Same s.materialUnits s'.materialUnits
  airDuctMode : s.airDuctMode = s'.airDuctMode
  fans : Dictionary.Same (· = ·) s.fans s'.fans
  lights : Dictionary.Same (· = ·) s.lights s'.lights
  heatingElements : Dictionary.Same (· = ·) s.heatingElements s'.heatingElements
  isLocalStorageScanning : s.isLocalStorageScanning = s'.isLocalStorageScanning
  streamingURLs : s.streamingURLs = s'.streamingURLs
  speedRange : s.speedRange = s'.speedRange
  speedPresets : Dictionary.Same (· = ·) s.speedPresets s'.speedPresets
  notifications : Dictionary.Same (· = ·) s.notifications s'.notifications

theorem MachineState.Same.refl (s : MachineState) : s.Same s where
  brand := rfl
  model := rfl
  nickname := rfl
  capabilities := rfl
  status := rfl
  currentJob := rfl
  jobHistory _ := Iff.rfl
  localJobs _ := Iff.rfl
  scheduledPrints := rfl
  extruders := .refl (fun _ => rfl) _
  nozzles := .refl (fun _ => rfl) _
  materialUnits := .refl MUnit.same_equivalence.refl _
  airDuctMode := rfl
  fans := .refl (fun _ => rfl) _
  lights := .refl (fun _ => rfl) _
  heatingElements := .refl (fun _ => rfl) _
  isLocalStorageScanning := rfl
  streamingURLs := rfl
  speedRange := rfl
  speedPresets := .refl (fun _ => rfl) _
  notifications := .refl (fun _ => rfl) _

theorem MachineState.Same.trans {s s' s'' : MachineState} (h : s.Same s') (h' : s'.Same s'') :
    s.Same s'' where
  brand := h.brand.trans h'.brand
  model := h.model.trans h'.model
  nickname := h.nickname.trans h'.nickname
  capabilities := h.capabilities.trans h'.capabilities
  status := h.status.trans h'.status
  currentJob := h.currentJob.trans h'.currentJob
  jobHistory v := (h.jobHistory v).trans (h'.jobHistory v)
  localJobs v := (h.localJobs v).trans (h'.localJobs v)
  scheduledPrints := h.scheduledPrints.trans h'.scheduledPrints
  extruders := h.extruders.trans Eq.trans h'.extruders
  nozzles := h.nozzles.trans Eq.trans h'.nozzles
  materialUnits := h.materialUnits.trans MUnit.same_equivalence.trans h'.materialUnits
  airDuctMode := h.airDuctMode.trans h'.airDuctMode
  fans := h.fans.trans Eq.trans h'.fans
  lights := h.lights.trans Eq.trans h'.lights
  heatingElements := h.heatingElements.trans Eq.trans h'.heatingElements
  isLocalStorageScanning := h.isLocalStorageScanning.trans h'.isLocalStorageScanning
  streamingURLs := h.streamingURLs.trans h'.streamingURLs
  speedRange := h.speedRange.trans h'.speedRange
  speedPresets := h.speedPresets.trans Eq.trans h'.speedPresets
  notifications := h.notifications.trans Eq.trans h'.notifications

namespace MachineStateChanges

variable (ops : ScheduleOps)

/-- Write everything that is reported into a copy of the state. -/
def replay (c : MachineStateChanges) (s : MachineState) : MachineState where
  brand := c.brand.replay s.brand
  model := c.model.replay s.model
  nickname := c.nickname.replay s.nickname
  capabilities := c.capabilities.replay s.capabilities
  status := c.status.replay s.status
  currentJob := followJob c.currentJob s.currentJob
  jobHistory := c.jobHistory.replay (.values HistoricPrintJob) s.jobHistory
  localJobs := c.localJobs.replay (.values LocalPrintJob) s.localJobs
  scheduledPrints := c.scheduledPrints.replay ops.scheduledPrints s.scheduledPrints
  extruders := c.extruders.replay MachineExtruderChanges.replay s.extruders
  nozzles := c.nozzles.replay MachineNozzleChanges.replay s.nozzles
  materialUnits := c.materialUnits.replay (MUnitChanges.replay ops.heatingSchedules)
    s.materialUnits
  airDuctMode := c.airDuctMode.replay s.airDuctMode
  fans := c.fans.replay (fun v _ => v) s.fans
  lights := c.lights.replay (fun v _ => v) s.lights
  heatingElements := c.heatingElements.replay (fun v _ => v) s.heatingElements
  isLocalStorageScanning := c.isLocalStorageScanning.replay s.isLocalStorageScanning
  streamingURLs := c.streamingURLs.replay s.streamingURLs
  speedRange := c.speedRange.replay s.speedRange
  speedPresets := c.speedPresets.replay (fun v _ => v) s.speedPresets
  notifications := c.notifications.replay NotificationChanges.replay s.notifications

/-- **Writing a report into the same states gives the same states.** -/
theorem same_replay (c : MachineStateChanges) {s s' : MachineState} (h : s.Same s') :
    (c.replay ops s).Same (c.replay ops s') where
  brand := congrArg c.brand.replay h.brand
  model := congrArg c.model.replay h.model
  nickname := congrArg c.nickname.replay h.nickname
  capabilities := congrArg c.capabilities.replay h.capabilities
  status := congrArg c.status.replay h.status
  currentJob := congrArg (followJob c.currentJob) h.currentJob
  jobHistory v := by
    change v ∈ c.jobHistory.replay _ _ ↔ v ∈ c.jobHistory.replay _ _
    rw [SetChanges.mem_replay, SetChanges.mem_replay, h.jobHistory]
  localJobs v := by
    change v ∈ c.localJobs.replay _ _ ↔ v ∈ c.localJobs.replay _ _
    rw [SetChanges.mem_replay, SetChanges.mem_replay, h.localJobs]
  scheduledPrints := congrArg (c.scheduledPrints.replay ops.scheduledPrints) h.scheduledPrints
  extruders := c.extruders.same_replay_eq h.extruders
  nozzles := c.nozzles.same_replay_eq h.nozzles
  materialUnits := c.materialUnits.same_replay MUnit.same_equivalence.refl
    (fun x _ _ hm => x.same_replay ops.heatingSchedules hm) h.materialUnits
  airDuctMode := congrArg c.airDuctMode.replay h.airDuctMode
  fans := c.fans.same_replay_eq h.fans
  lights := c.lights.same_replay_eq h.lights
  heatingElements := c.heatingElements.same_replay_eq h.heatingElements
  isLocalStorageScanning := congrArg c.isLocalStorageScanning.replay h.isLocalStorageScanning
  streamingURLs := congrArg c.streamingURLs.replay h.streamingURLs
  speedRange := congrArg c.speedRange.replay h.speedRange
  speedPresets := c.speedPresets.same_replay_eq h.speedPresets
  notifications := c.notifications.same_replay_eq h.notifications

/-- A report that is not raised has nothing to write. -/
theorem replay_of_not_hasChanged {c : MachineStateChanges}
    (hjob : ∀ r, c.currentJob = some r → r.hasChanged = true) (h : c.hasChanged = false)
    (s : MachineState) : c.replay ops s = s := by
  simp only [hasChanged, Bool.or_eq_false_iff, and_assoc] at h
  obtain ⟨hbrand, hmodel, hnickname, hcapabilities, hstatus, hcurrent, hhistory, hlocal,
    hscheduled, hextruders, hnozzles, hunits, hduct, hfans, hlights, hheating, hscanning, hurls,
    hrange, hpresets, hnotifications⟩ := h
  have hnone : c.currentJob = none := by
    cases hc : c.currentJob with
    | none => rfl
    | some r =>
      rw [hc, Option.any_some, hjob r hc] at hcurrent
      cases hcurrent
  rw [replay, hnone, ScalarChanges.replay_of_not_hasChanged hbrand,
    ScalarChanges.replay_of_not_hasChanged hmodel,
    ScalarChanges.replay_of_not_hasChanged hnickname,
    ScalarChanges.replay_of_not_hasChanged hcapabilities,
    ScalarChanges.replay_of_not_hasChanged hstatus,
    SetChanges.replay_of_not_hasChanged hhistory, SetChanges.replay_of_not_hasChanged hlocal,
    SetChanges.replay_of_not_hasChanged hscheduled,
    DictionaryChanges.replay_of_not_hasChanged hextruders,
    DictionaryChanges.replay_of_not_hasChanged hnozzles,
    DictionaryChanges.replay_of_not_hasChanged hunits,
    ScalarChanges.replay_of_not_hasChanged hduct,
    DictionaryChanges.replay_of_not_hasChanged hfans,
    DictionaryChanges.replay_of_not_hasChanged hlights,
    DictionaryChanges.replay_of_not_hasChanged hheating,
    ScalarChanges.replay_of_not_hasChanged hscanning,
    ScalarChanges.replay_of_not_hasChanged hurls,
    ScalarChanges.replay_of_not_hasChanged hrange,
    DictionaryChanges.replay_of_not_hasChanged hpresets,
    DictionaryChanges.replay_of_not_hasChanged hnotifications]
  rfl

end MachineStateChanges

/-! ### At a glance -/

namespace AtAGlanceMachineStateChanges

/-- Write what is reported at a glance into a copy. -/
def replay (c : AtAGlanceMachineStateChanges) (s : AtAGlanceMachineState) :
    AtAGlanceMachineState where
  status := c.status.replay s.status
  capabilities := c.capabilities.replay s.capabilities
  nickname := c.nickname.replay s.nickname
  job := followJob c.currentJobChanges s.job

/-- Changes at a glance that are not sent have nothing to write. -/
theorem replay_of_not_hasChanged {c : AtAGlanceMachineStateChanges}
    (hjob : ∀ r, c.currentJobChanges = some r → r.hasChanged = true) (h : c.hasChanged = false)
    (s : AtAGlanceMachineState) : c.replay s = s := by
  simp only [hasChanged, Bool.or_eq_false_iff, and_assoc] at h
  obtain ⟨hstatus, hcapabilities, hnickname, hcurrent⟩ := h
  have hnone : c.currentJobChanges = none := by
    cases hc : c.currentJobChanges with
    | none => rfl
    | some r =>
      rw [hc, Option.any_some, hjob r hc] at hcurrent
      cases hcurrent
  rw [replay, hnone, ScalarChanges.replay_of_not_hasChanged hstatus,
    ScalarChanges.replay_of_not_hasChanged hcapabilities,
    ScalarChanges.replay_of_not_hasChanged hnickname]
  rfl

end AtAGlanceMachineStateChanges

/-- **Writing a report commutes with looking at a glance.** -/
theorem AtAGlanceMachineState.of_replay (ops : ScheduleOps) (c : MachineStateChanges)
    (s : MachineState) :
    AtAGlanceMachineState.of (c.replay ops s) =
      (AtAGlanceMachineStateChanges.of c).replay (AtAGlanceMachineState.of s) := rfl

theorem AtAGlanceMachineState.of_congr {s s' : MachineState} (hstatus : s.status = s'.status)
    (hcapabilities : s.capabilities = s'.capabilities) (hnickname : s.nickname = s'.nickname)
    (hjob : s.currentJob = s'.currentJob) :
    AtAGlanceMachineState.of s = AtAGlanceMachineState.of s' := by
  rw [of, of, hstatus, hcapabilities, hnickname, hjob]

/-! ### One update -/

namespace MachineStateUpdate

variable {Cron : Type} [DecidableEq Cron] [Hashable (HeatingSchedule Cron)]
  [Hashable (ScheduledPrint Cron)]

/-- The report of the update tells everything that the update does. -/
structure ReportsWholly (heap : Heap Cron) (u : MachineStateUpdate) (s : MachineState) :
    Prop where
  entries : u.ReportsExactly heap.ops heap.heatingSchedules s
  scheduledPrints : u.scheduledPrints.Separated heap.ops.scheduledPrints heap.scheduledPrints
    s.scheduledPrints
  job : u.JobTransparent s.currentJob

/-- **The report of one update**, written into the state before it, gives the state after it. -/
theorem same_replay_changed {heap : Heap Cron} {u : MachineStateUpdate} {s : MachineState}
    (hfaults : ∀ ju, u.currentJob.value = some ju → ¬ ju.Faults) (h : u.ReportsWholly heap s) :
    ((u.changed heap.ops s).replay heap.ops s).Same (u.apply heap.ops s) := by
  have hlaw : ReportLaw heap.ops s (u.apply heap.ops s) (u.changed heap.ops s) :=
    (reportLaw_iff heap u s).mpr h.entries
  exact {
    brand := ScalarChanges.replay_changes
    model := ScalarChanges.replay_changes
    nickname := ScalarChanges.replay_changes
    capabilities := ScalarChanges.replay_changes
    status := ScalarChanges.replay_changes
    currentJob := (followJob_changed_iff hfaults).mpr h.job
    jobHistory := SetChanges.mem_replay_of_setDiff hlaw.jobHistory
    localJobs := SetChanges.mem_replay_of_setDiff hlaw.localJobs
    scheduledPrints := (SetBuffer.replay_changes_iff
      (HashSetOps.lawful_records heap.scheduledPrints)).mpr h.scheduledPrints
    extruders := hlaw.extruders.replay
    nozzles := hlaw.nozzles.replay
    materialUnits := hlaw.materialUnits.replay
    airDuctMode := ScalarChanges.replay_changes
    fans := hlaw.fans.replay
    lights := hlaw.lights.replay
    heatingElements := hlaw.heatingElements.replay
    isLocalStorageScanning := ScalarChanges.replay_changes
    streamingURLs := ScalarChanges.replay_changes
    speedRange := ScalarChanges.replay_changes
    speedPresets := hlaw.speedPresets.replay
    notifications := hlaw.notifications.replay }

end MachineStateUpdate

/-! ### Runs -/

/-- A connection with the copies of two clients, one in full detail and one at a glance. -/
structure Replicas (Cron : Type) where
  connection : MachineConnection Cron
  full : MachineState
  atAGlance : AtAGlanceMachineState

namespace Replicas

variable {Cron : Type}

/-- Both clients have what the machine has. -/
structure InSync (σ : Replicas Cron) : Prop where
  full : σ.full.Same σ.connection.state
  atAGlance : σ.atAGlance = .of σ.connection.state

/-- The client at a glance writes what it is sent, which is nothing if nothing has changed. -/
def followAtAGlance (raised : Option MachineStateChanges) (copy : AtAGlanceMachineState) :
    AtAGlanceMachineState :=
  match (raised.map AtAGlanceMachineStateChanges.of).filter (·.hasChanged) with
  | some changes => changes.replay copy
  | none => copy

/-- The client in full detail writes every report that is raised. -/
def followFull (ops : ScheduleOps) (raised : Option MachineStateChanges) (copy : MachineState) :
    MachineState :=
  match raised with
  | some changes => changes.replay ops copy
  | none => copy

theorem followFull_raised {ops : ScheduleOps} {changes : MachineStateChanges} {copy : MachineState}
    (hjob : ∀ r, changes.currentJob = some r → r.hasChanged = true) :
    followFull ops (if changes.hasChanged then some changes else none) copy =
      changes.replay ops copy := by
  cases h : changes.hasChanged with
  | true => rfl
  | false => exact (MachineStateChanges.replay_of_not_hasChanged ops hjob h copy).symm

theorem followAtAGlance_raised {changes : MachineStateChanges} {copy : AtAGlanceMachineState}
    (hjob : ∀ r, changes.currentJob = some r → r.hasChanged = true) :
    followAtAGlance (if changes.hasChanged then some changes else none) copy =
      (AtAGlanceMachineStateChanges.of changes).replay copy := by
  cases hglance : (AtAGlanceMachineStateChanges.of changes).hasChanged with
  | true =>
    -- What has changed at a glance has changed.
    have h : changes.hasChanged = true := by
      simp only [AtAGlanceMachineStateChanges.hasChanged, AtAGlanceMachineStateChanges.of,
        Bool.or_eq_true] at hglance
      simp only [MachineStateChanges.hasChanged, Bool.or_eq_true]
      tauto
    rw [h, if_pos rfl, followAtAGlance, Option.map_some, Option.filter_some, if_pos hglance]
  | false =>
    rw [AtAGlanceMachineStateChanges.replay_of_not_hasChanged hjob hglance]
    cases h : changes.hasChanged with
    | true =>
      rw [if_pos rfl, followAtAGlance, Option.map_some, Option.filter_some,
        if_neg (by simp [hglance])]
    | false => rfl

variable [DecidableEq Cron] [Hashable (HeatingSchedule Cron)] [Hashable (ScheduledPrint Cron)]

/-- A commit that returns, of an update that is met by a condition on the connection it is made on.
Before it, other parties may have used the scheduler and allocated schedules. -/
def Commit (allowed : MachineConnection Cron → MachineStateUpdate → Prop) (σ σ' : Replicas Cron) :
    Prop :=
  ∃ env u c raised, MachineConnection.SameState σ.connection c ∧ allowed c u ∧
    (MachineConnection.commitState env u).run c = .ok raised σ'.connection ∧
    σ'.full = followFull c.heap.ops raised σ.full ∧
    σ'.atAGlance = followAtAGlance raised σ.atAGlance

/-- What `PreprocessState` leaves of the update is reported wholly. -/
def Wholly (c : MachineConnection Cron) (u : MachineStateUpdate) : Prop :=
  (c.preprocessUpdate u).ReportsWholly c.heap c.state

/-- The update is transparent for the current job. -/
def JobOnly (c : MachineConnection Cron) (u : MachineStateUpdate) : Prop :=
  u.JobTransparent c.state.currentJob

/-- **One commit**: the copy at a glance follows it if the update is transparent for the job, and
both copies do if it is reported wholly. -/
theorem commit_follows {allowed : MachineConnection Cron → MachineStateUpdate → Prop}
    {σ σ' : Replicas Cron} (h : Commit allowed σ σ') :
    ∃ c u, allowed c u ∧ c.state = σ.connection.state ∧
      (JobOnly c u → σ.atAGlance = .of σ.connection.state →
        σ'.atAGlance = .of σ'.connection.state) ∧
      (Wholly c u → σ.full.Same σ.connection.state → σ'.full.Same σ'.connection.state) := by
  obtain ⟨env, u, c, raised, hstate, hallowed, hrun, hfull, hglance⟩ := h
  obtain ⟨changes, happly, rfl⟩ := MachineConnection.run_commitState_ok hrun
  have hfaults : ∀ ju, (c.preprocessUpdate u).currentJob.value = some ju → ¬ ju.Faults :=
    fun ju hju => MachineStateUpdate.not_faults_of_run_appendUpdate_ok _ happly hju
  obtain ⟨rfl, hs'⟩ := MachineStateUpdate.run_appendUpdate_ok _ happly
  have hreported : ∀ r, ((c.preprocessUpdate u).changed c.heap.ops c.state).currentJob = some r →
      r.hasChanged = true := fun r hr => (Option.filter_eq_some_iff.mp hr).2
  refine ⟨c, u, hallowed, hstate, fun hjob hold => ?_, fun hwholly hold => ?_⟩
  · rw [hglance, followAtAGlance_raised hreported, hold, hs', ← hstate,
      ← AtAGlanceMachineState.of_replay c.heap.ops]
    exact AtAGlanceMachineState.of_congr ScalarChanges.replay_changes ScalarChanges.replay_changes
      ScalarChanges.replay_changes ((followJob_changed_iff hfaults).mpr hjob)
  · rw [hfull, followFull_raised hreported, hs']
    have hcopy : σ.full.Same c.state := by
      rw [hstate]
      exact hold
    exact (MachineStateChanges.same_replay _ _ hcopy).trans
      (MachineStateUpdate.same_replay_changed hfaults hwholly)

/-- **The copy in full detail is the machine**, after every run of commits whose updates are
reported wholly. -/
theorem full_same_of_reachable (σ : Replicas Cron)
    (h : Reachable InSync (Commit Wholly) σ) : InSync σ := by
  refine h.induct (fun _ hinit => hinit) ?_
  rintro σ σ' - hσ hcommit
  obtain ⟨c, u, hwholly, -, hglance, hfull⟩ := commit_follows hcommit
  exact ⟨hfull hwholly hσ.full, hglance hwholly.job hσ.atAGlance⟩

/-- **The copy at a glance is the machine at a glance**, after every run of commits whose updates
are transparent for the current job, whatever else they do. -/
theorem atAGlance_eq_of_reachable (σ : Replicas Cron)
    (h : Reachable InSync (Commit JobOnly) σ) : σ.atAGlance = .of σ.connection.state := by
  refine h.induct (I := fun σ : Replicas Cron => σ.atAGlance = .of σ.connection.state)
    (fun _ hinit => hinit.atAGlance) ?_
  rintro σ σ' - hσ hcommit
  obtain ⟨c, u, hjob, -, hglance, -⟩ := commit_follows hcommit
  exact hglance hjob hσ

/-- A machine, and two clients that have been told its state. -/
private def told (state : MachineState) : Replicas Unit :=
  ⟨⟨default, state, default, default⟩, state, .of state⟩

private theorem inSync_told (state : MachineState) : InSync (told state) where
  full := .refl state
  atAGlance := rfl

private theorem wholly_trayToPLA : Wholly (told oneTray).connection trayToPLA where
  entries := MachineStateUpdate.reportsExactly_changeMaterial _ _ _ _ _
  scheduledPrints v hv := by cases hv
  job ju hju := by cases hju

/-- The material of a tray has reached the copy in full detail. -/
theorem full_same_of_reachable_tray :
    ∃ σ : Replicas Unit, Reachable InSync (Commit Wholly) σ ∧
      (σ.full.materialUnits.tryGetValue "A").bind
        (fun unit => (unit.trays.tryGetValue 1).bind (·.material.name)) = some "PLA" ∧
      InSync σ := by
  obtain ⟨σ, hcommit, htray⟩ : ∃ σ, Commit Wholly (told oneTray) σ ∧
      (σ.full.materialUnits.tryGetValue "A").bind
        (fun unit => (unit.trays.tryGetValue 1).bind (·.material.name)) = some "PLA" :=
    ⟨⟨_, _, _⟩, ⟨⟨default, fun _ => none⟩, trayToPLA, (told oneTray).connection, _, rfl,
      wholly_trayToPLA, rfl, rfl, rfl⟩, rfl⟩
  have hrun : Reachable InSync (Commit Wholly) σ :=
    (Reachable.refl (inSync_told oneTray)).tail hcommit
  exact ⟨σ, hrun, htray, full_same_of_reachable σ hrun⟩

/-- An update that sets one fan and the status. -/
private def fanUpdate : MachineStateUpdate :=
  { (default : MachineStateUpdate) with
    fans := (default : DictionaryBuffer String Int32).set "part" 50
    status := (default : ScalarBuffer MachineStatus).set .idle }

/-- The status has reached the copy at a glance. -/
theorem atAGlance_eq_of_reachable_status :
    ∃ σ : Replicas Unit, Reachable InSync (Commit JobOnly) σ ∧
      σ.connection.state.status = .idle ∧ σ.atAGlance = .of σ.connection.state := by
  have hjob : JobOnly (told default).connection fanUpdate := fun ju hju => by cases hju
  obtain ⟨σ, hcommit, hstatus⟩ : ∃ σ, Commit JobOnly (told default) σ ∧
      σ.connection.state.status = .idle :=
    ⟨⟨_, _, _⟩, ⟨⟨default, fun _ => none⟩, fanUpdate, (told default).connection, _, rfl, hjob, rfl,
      rfl, rfl⟩, rfl⟩
  have hrun : Reachable InSync (Commit JobOnly) σ :=
    (Reachable.refl (inSync_told default)).tail hcommit
  exact ⟨σ, hrun, hstatus, atAGlance_eq_of_reachable σ hrun⟩

end Replicas

end Connect3Dp
