import Connect3Dp.State.Raises

/-!
# The methods of the builder

The methods of `MachineStateUpdate` that the connectors call. Each writes one buffer; `Quiet`
says that an update leaves the units and the scheduled prints alone, which is all that a commit
needs in order to apply it without raising.
-/

namespace Connect3Dp

/-- `SetNumber`, which the builder of a dictionary calls on a fresh builder of an entry. -/
def MachineExtruderUpdate.setNumber (number : Int32) (u : MachineExtruderUpdate) :
    MachineExtruderUpdate :=
  { u with number := u.number.set number }

def MachineNozzleUpdate.setNumber (number : Int32) (u : MachineNozzleUpdate) :
    MachineNozzleUpdate :=
  { u with number := u.number.set number }

def SpoolUpdate.setNumber (number : Int32) (u : SpoolUpdate) : SpoolUpdate :=
  { u with number := u.number.set number }

namespace MUnitUpdate

def updateTrays (number : Int32) (configure : SpoolUpdate → SpoolUpdate) (u : MUnitUpdate) :
    MUnitUpdate :=
  { u with trays := u.trays.update number (SpoolUpdate.setNumber number default) configure }

def setHeatingSchedule (ops : HeatingScheduleOps) (schedule : HeatingScheduleRef)
    (u : MUnitUpdate) : MUnitUpdate :=
  { u with heatingSchedule := u.heatingSchedule.set ops schedule }

def removeHeatingSchedule (ops : HeatingScheduleOps) (schedule : HeatingScheduleRef)
    (u : MUnitUpdate) : MUnitUpdate :=
  { u with heatingSchedule := u.heatingSchedule.remove ops schedule }

end MUnitUpdate

namespace MachineStateUpdate

def setNickname (nickname : NetString) (u : MachineStateUpdate) : MachineStateUpdate :=
  { u with nickname := u.nickname.set nickname }

def setCapabilities (capabilities : MachineCapabilities) (u : MachineStateUpdate) :
    MachineStateUpdate :=
  { u with capabilities := u.capabilities.set capabilities }

def setStatus (status : MachineStatus) (u : MachineStateUpdate) : MachineStateUpdate :=
  { u with status := u.status.set status }

def updateCurrentJob (configure : PrintJobUpdate → PrintJobUpdate) (u : MachineStateUpdate) :
    MachineStateUpdate :=
  { u with currentJob := u.currentJob.update configure }

/-- `UnsetCurrentJob`. -/
def unsetCurrentJob (u : MachineStateUpdate) : MachineStateUpdate :=
  { u with currentJob := u.currentJob.unset }

def setJobHistory (entry : HistoricPrintJob) (u : MachineStateUpdate) : MachineStateUpdate :=
  { u with jobHistory := u.jobHistory.set (.values HistoricPrintJob) entry }

def setLocalJobs (job : LocalPrintJob) (u : MachineStateUpdate) : MachineStateUpdate :=
  { u with localJobs := u.localJobs.set (.values LocalPrintJob) job }

def removeLocalJobs (job : LocalPrintJob) (u : MachineStateUpdate) : MachineStateUpdate :=
  { u with localJobs := u.localJobs.remove (.values LocalPrintJob) job }

def setStreamingURLs (urls : Option MachineStreamingURLs) (u : MachineStateUpdate) :
    MachineStateUpdate :=
  { u with streamingURLs := u.streamingURLs.set urls }

def setIsLocalStorageScanning (isScanning : Bool) (u : MachineStateUpdate) : MachineStateUpdate :=
  { u with isLocalStorageScanning := u.isLocalStorageScanning.set isScanning }

def setScheduledPrints (ops : ScheduleOps) (print : ScheduledPrintRef) (u : MachineStateUpdate) :
    MachineStateUpdate :=
  { u with scheduledPrints := u.scheduledPrints.set ops.scheduledPrints print }

def updateMaterialUnits (unitID : String) (configure : MUnitUpdate → MUnitUpdate)
    (u : MachineStateUpdate) : MachineStateUpdate :=
  { u with
    materialUnits :=
      u.materialUnits.update unitID (MUnitUpdate.assertKey unitID default) configure }

def updateExtruders (number : Int32) (configure : MachineExtruderUpdate → MachineExtruderUpdate)
    (u : MachineStateUpdate) : MachineStateUpdate :=
  { u with
    extruders :=
      u.extruders.update number (MachineExtruderUpdate.setNumber number default) configure }

def updateNozzles (number : Int32) (configure : MachineNozzleUpdate → MachineNozzleUpdate)
    (u : MachineStateUpdate) : MachineStateUpdate :=
  { u with
    nozzles := u.nozzles.update number (MachineNozzleUpdate.setNumber number default) configure }

def setFans (name : String) (percent : Int32) (u : MachineStateUpdate) : MachineStateUpdate :=
  { u with fans := u.fans.set name percent }

def setLights (name : String) (isOn : Bool) (u : MachineStateUpdate) : MachineStateUpdate :=
  { u with lights := u.lights.set name isOn }

def setHeatingElements (name : String) (element : HeatingElement) (u : MachineStateUpdate) :
    MachineStateUpdate :=
  { u with heatingElements := u.heatingElements.set name element }

def setSpeedPresets (name : String) (percent : Int32) (u : MachineStateUpdate) :
    MachineStateUpdate :=
  { u with speedPresets := u.speedPresets.set name percent }

def removeFans (name : String) (u : MachineStateUpdate) : MachineStateUpdate :=
  { u with fans := u.fans.remove name }

def removeLights (name : String) (u : MachineStateUpdate) : MachineStateUpdate :=
  { u with lights := u.lights.remove name }

def removeHeatingElements (name : String) (u : MachineStateUpdate) : MachineStateUpdate :=
  { u with heatingElements := u.heatingElements.remove name }

def removeSpeedPresets (name : String) (u : MachineStateUpdate) : MachineStateUpdate :=
  { u with speedPresets := u.speedPresets.remove name }

def removeJobHistory (entry : HistoricPrintJob) (u : MachineStateUpdate) : MachineStateUpdate :=
  { u with jobHistory := u.jobHistory.remove (.values HistoricPrintJob) entry }

/-- The extension method `SetNotifications(message)`. A key must not be `null`. -/
def setNotifications (utcNow : DateTimeOffset) (message : MachineMessage)
    (u : MachineStateUpdate) : Except Fault MachineStateUpdate :=
  match message.id with
  | none => .error .argument
  | some id => .ok { u with
      notifications := u.notifications.update id default fun n =>
        { n with
          message := n.message.set message
          issuedAt := n.issuedAt.set utcNow
          lastSeenAt := n.lastSeenAt.set utcNow } }

def removeNotification (id : String) (u : MachineStateUpdate) : MachineStateUpdate :=
  { u with notifications := u.notifications.remove id }

/-- The update leaves the units and the scheduled prints alone. -/
structure Quiet (u : MachineStateUpdate) : Prop where
  materialUnits : u.materialUnits = default
  scheduledPrints : u.scheduledPrints = default

theorem quiet_default : (default : MachineStateUpdate).Quiet := ⟨rfl, rfl⟩

theorem Quiet.not_raisesInChanges {u : MachineStateUpdate} {s : MachineState}
    (h : u.Quiet) : ¬ u.RaisesInChanges s := by
  rintro ⟨id, mu, hlookup, -⟩
  rw [h.materialUnits] at hlookup
  cases hlookup

theorem Quiet.not_raisesInUnits {u : MachineStateUpdate} {s : MachineState}
    (h : u.Quiet) : ¬ u.RaisesInUnits s := by
  rintro ⟨id, mu, m, hlookup, -⟩
  rw [h.materialUnits] at hlookup
  cases hlookup

/-- No unit of the update takes the material out of a tray, and the update does not take away the
current job or build it with usages: it raises nowhere. -/
structure Harmless (u : MachineStateUpdate) : Prop where
  keepsMaterials : ∀ id mu k su, u.materialUnits.lookup id = some mu →
    mu.trays.lookup k = some su → ¬ su.RemovesMaterial
  keepsJob : u.currentJob.isSet = true → u.currentJob.value ≠ none
  usages : ∀ ju, u.currentJob.value = some ju → ju.spoolMaterialUsages = default

theorem harmless_default : (default : MachineStateUpdate).Harmless := by
  refine ⟨fun id mu k su h => ?_, fun h => ?_, fun ju h => ?_⟩
  all_goals cases h

namespace Harmless

variable {u : MachineStateUpdate} (h : u.Harmless)
include h

theorem not_raisesInChanges (s : MachineState) : ¬ u.RaisesInChanges s := by
  rintro ⟨id, mu, hlookup, hentry⟩
  cases hs : s.materialUnits.tryGetValue id with
  | some m =>
    rw [hs] at hentry
    obtain ⟨k, su, hsu, -, -, hremoves⟩ := hentry
    exact h.keepsMaterials id mu k su hlookup hsu hremoves
  | none =>
    rw [hs] at hentry
    obtain ⟨-, k, su, hsu, -, -, hremoves⟩ := hentry
    exact h.keepsMaterials id mu k su hlookup hsu hremoves

theorem not_raisesInJob : ¬ u.RaisesInJob := by
  rintro (⟨hset, hnone⟩ | ⟨ju, hju, -, husages⟩)
  · exact h.keepsJob hset hnone
  · rw [h.usages ju hju] at husages
    exact husages rfl

theorem not_raisesInUnits (s : MachineState) : ¬ u.RaisesInUnits s := by
  rintro ⟨id, mu, m, hlookup, -, k, su, tray, hsu, -, hremoves⟩
  exact h.keepsMaterials id mu k su hlookup hsu hremoves

end Harmless

/-- The second update is the first with other properties set than the units, the scheduled
prints, the status, the current job and the local jobs. -/
structure Extends (u u' : MachineStateUpdate) : Prop where
  materialUnits : u'.materialUnits = u.materialUnits
  scheduledPrints : u'.scheduledPrints = u.scheduledPrints
  status : u'.status = u.status
  currentJob : u'.currentJob = u.currentJob
  localJobs : u'.localJobs = u.localJobs

namespace Extends

variable {u u' u'' : MachineStateUpdate}

theorem refl (u : MachineStateUpdate) : u.Extends u := ⟨rfl, rfl, rfl, rfl, rfl⟩

theorem trans (h : u.Extends u') (h' : u'.Extends u'') : u.Extends u'' :=
  ⟨h'.materialUnits.trans h.materialUnits, h'.scheduledPrints.trans h.scheduledPrints,
    h'.status.trans h.status, h'.currentJob.trans h.currentJob, h'.localJobs.trans h.localJobs⟩

theorem quiet (h : u.Extends u') (hu : u.Quiet) : u'.Quiet :=
  ⟨h.materialUnits.trans hu.materialUnits, h.scheduledPrints.trans hu.scheduledPrints⟩

end Extends

theorem extends_setNotifications {utcNow : DateTimeOffset} {message : MachineMessage}
    {u : MachineStateUpdate} : Yields (u.setNotifications utcNow message) u.Extends := by
  unfold setNotifications
  split
  · exact .throw
  · exact .pure ⟨rfl, rfl, rfl, rfl, rfl⟩

/-- The update sets the status, and whatever it does to the current job, it does not name one. -/
structure Clears (u : MachineStateUpdate) (status : MachineStatus) : Prop where
  quiet : u.Quiet
  isSet : u.status.isSet = true
  value : u.status.value = status
  kept : u.currentJob.isSet = true → u.currentJob.value ≠ none
  unnamed : ∀ ju, u.currentJob.value = some ju → ju.name.isSet = false

theorem Extends.clears {u u' : MachineStateUpdate} {status : MachineStatus} (h : u.Extends u')
    (hu : u.Clears status) : u'.Clears status where
  quiet := h.quiet hu.quiet
  isSet := h.status ▸ hu.isSet
  value := h.status ▸ hu.value
  kept := h.currentJob ▸ hu.kept
  unnamed := h.currentJob ▸ hu.unnamed

theorem clears_unsetCurrentJob {u : MachineStateUpdate} (hu : u.Quiet) (status : MachineStatus) :
    (u.setStatus status).unsetCurrentJob.Clears status where
  quiet := ⟨hu.materialUnits, hu.scheduledPrints⟩
  isSet := rfl
  value := rfl
  kept h := by cases h
  unnamed _ h := by cases h

/-! ### File listings -/

/-- The update removes just the local jobs that the state has. -/
structure Relists (u : MachineStateUpdate) (s : MachineState) : Prop where
  quiet : u.Quiet
  mem_removals : ∀ job, job ∈ u.localJobs.removals (.values LocalPrintJob) ↔ job ∈ s.localJobs

theorem Extends.relists {u u' : MachineStateUpdate} {s : MachineState} (h : u.Extends u')
    (hu : u.Relists s) : u'.Relists s :=
  ⟨h.quiet hu.quiet, h.localJobs ▸ hu.mem_removals⟩

section Listing

variable {s : MachineState} {job : LocalPrintJob}

theorem foldl_removeLocalJobs (jobs : List LocalPrintJob) (u : MachineStateUpdate) :
    jobs.foldl (fun u existing => u.removeLocalJobs existing) u =
      { u with
        localJobs := jobs.foldl (SetBuffer.remove (.values LocalPrintJob)) u.localJobs } := by
  induction jobs generalizing u with
  | nil => rfl
  | cons job jobs ih => exact ih _

theorem foldl_setLocalJobs (jobs : List LocalPrintJob) (u : MachineStateUpdate) :
    jobs.foldl (fun u job => u.setLocalJobs job) u =
      { u with localJobs := jobs.foldl (SetBuffer.set (.values LocalPrintJob)) u.localJobs } := by
  induction jobs generalizing u with
  | nil => rfl
  | cons job jobs ih => exact ih _

/-- Removing every existing job and then setting the listed ones removes just the existing
jobs. -/
theorem mem_removals_relist {b : SetBuffer (HashSet LocalPrintJob)} {listed : List LocalPrintJob}
    (hb : ∀ job ∈ b.removals (.values LocalPrintJob), job ∈ s.localJobs) :
    job ∈ (listed.foldl (SetBuffer.set (.values LocalPrintJob))
        (s.localJobs.elems.foldl (SetBuffer.remove (.values LocalPrintJob)) b)).removals
          (.values LocalPrintJob) ↔ job ∈ s.localJobs := by
  rw [SetBuffer.removals_foldl_set, SetBuffer.mem_removals_foldl_remove, ← HashSet.mem_def]
  exact or_iff_right_of_imp (hb job)

end Listing

end MachineStateUpdate

end Connect3Dp
