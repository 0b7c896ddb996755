import Connect3Dp.Builder.DiffLaw
import Connect3Dp.Builder.Faulting
import Connect3Dp.State.Values

/-!
# Print jobs and their builder

`PrintJobUpdate` is the builder generated for `PrintJob`. A job is held by the machine's state
as a nested property, and there the builder is used in two ways that do not fit together:

* `changes` compares it field by field with the existing job, and reports nothing at all when
  there is no job to compare with;
* `tryCreate` builds a **new** job from it, which replaces the existing one. It refuses when one
  of the four required properties is not set, and it leaves optional properties that are not
  set, and the dictionary of material usages, at `null`.

`Merges` is the condition under which the new job is nevertheless the old one with the set
properties written into it.
-/

namespace Connect3Dp

/-- `PrintJob`. -/
structure PrintJob where
  name : NetString
  customID : NetString
  percentageComplete : Int32
  remainingTime : TimeSpan
  totalTime : TimeSpan
  issue : Option MachineMessage
  thumbnail : Option MachineFileHandle
  file : Option MachineFileHandle
  subStage : NetString
  totalMaterialUsage : Option Int32
  localPath : NetString
  printSpeedPercent : Option Int32
  spoolMaterialUsages : Option (Dictionary SpoolLocation Int32)
  deriving DecidableEq, Inhabited

/-- `PrintJobUpdate`. -/
structure PrintJobUpdate where
  name : ScalarBuffer NetString
  customID : ScalarBuffer NetString
  percentageComplete : ScalarBuffer Int32
  remainingTime : ScalarBuffer TimeSpan
  totalTime : ScalarBuffer TimeSpan
  issue : ScalarBuffer (Option MachineMessage)
  thumbnail : ScalarBuffer (Option MachineFileHandle)
  file : ScalarBuffer (Option MachineFileHandle)
  subStage : ScalarBuffer NetString
  totalMaterialUsage : ScalarBuffer (Option Int32)
  localPath : ScalarBuffer NetString
  printSpeedPercent : ScalarBuffer (Option Int32)
  spoolMaterialUsages : DictionaryBuffer SpoolLocation Int32
  deriving DecidableEq, Inhabited

/-- `PrintJobChanges`. -/
structure PrintJobChanges where
  name : ScalarChanges NetString
  customID : ScalarChanges NetString
  percentageComplete : ScalarChanges Int32
  remainingTime : ScalarChanges TimeSpan
  totalTime : ScalarChanges TimeSpan
  issue : ScalarChanges (Option MachineMessage)
  thumbnail : ScalarChanges (Option MachineFileHandle)
  file : ScalarChanges (Option MachineFileHandle)
  subStage : ScalarChanges NetString
  totalMaterialUsage : ScalarChanges (Option Int32)
  localPath : ScalarChanges NetString
  printSpeedPercent : ScalarChanges (Option Int32)
  spoolMaterialUsages : DictionaryChanges SpoolLocation Int32 Int32
  deriving DecidableEq, Inhabited

namespace PrintJobChanges

def hasChanged (c : PrintJobChanges) : Bool :=
  c.name.hasChanged || c.customID.hasChanged || c.percentageComplete.hasChanged ||
  c.remainingTime.hasChanged || c.totalTime.hasChanged || c.issue.hasChanged ||
  c.thumbnail.hasChanged || c.file.hasChanged || c.subStage.hasChanged ||
  c.totalMaterialUsage.hasChanged || c.localPath.hasChanged || c.printSpeedPercent.hasChanged ||
  c.spoolMaterialUsages.hasChanged

/-- Write every flagged new value into a job. -/
def replay (c : PrintJobChanges) (j : PrintJob) : PrintJob where
  name := c.name.replay j.name
  customID := c.customID.replay j.customID
  percentageComplete := c.percentageComplete.replay j.percentageComplete
  remainingTime := c.remainingTime.replay j.remainingTime
  totalTime := c.totalTime.replay j.totalTime
  issue := c.issue.replay j.issue
  thumbnail := c.thumbnail.replay j.thumbnail
  file := c.file.replay j.file
  subStage := c.subStage.replay j.subStage
  totalMaterialUsage := c.totalMaterialUsage.replay j.totalMaterialUsage
  localPath := c.localPath.replay j.localPath
  printSpeedPercent := c.printSpeedPercent.replay j.printSpeedPercent
  spoolMaterialUsages := c.spoolMaterialUsages.replayNullable j.spoolMaterialUsages

end PrintJobChanges

namespace PrintJobUpdate

/-- `Changes(PrintJob)` for a job that is not `null`. -/
def changes (u : PrintJobUpdate) (j : PrintJob) : PrintJobChanges where
  name := u.name.changes j.name
  customID := u.customID.changes j.customID
  percentageComplete := u.percentageComplete.changes j.percentageComplete
  remainingTime := u.remainingTime.changes j.remainingTime
  totalTime := u.totalTime.changes j.totalTime
  issue := u.issue.changes j.issue
  thumbnail := u.thumbnail.changes j.thumbnail
  file := u.file.changes j.file
  subStage := u.subStage.changes j.subStage
  totalMaterialUsage := u.totalMaterialUsage.changes j.totalMaterialUsage
  localPath := u.localPath.changes j.localPath
  printSpeedPercent := u.printSpeedPercent.changes j.printSpeedPercent
  spoolMaterialUsages := u.spoolMaterialUsages.changesNullable j.spoolMaterialUsages

/-- `Changes(PrintJob)`: `default` for `null`. -/
def changesOf (u : PrintJobUpdate) : Option PrintJob → PrintJobChanges
  | none => default
  | some j => u.changes j

/-- The scalar part of `AppendUpdate`. -/
def applyScalars (u : PrintJobUpdate) (j : PrintJob) : PrintJob where
  name := u.name.apply j.name
  customID := u.customID.apply j.customID
  percentageComplete := u.percentageComplete.apply j.percentageComplete
  remainingTime := u.remainingTime.apply j.remainingTime
  totalTime := u.totalTime.apply j.totalTime
  issue := u.issue.apply j.issue
  thumbnail := u.thumbnail.apply j.thumbnail
  file := u.file.apply j.file
  subStage := u.subStage.apply j.subStage
  totalMaterialUsage := u.totalMaterialUsage.apply j.totalMaterialUsage
  localPath := u.localPath.apply j.localPath
  printSpeedPercent := u.printSpeedPercent.apply j.printSpeedPercent
  spoolMaterialUsages := j.spoolMaterialUsages

/-- `AppendUpdate(PrintJob, out _)`. -/
def appendUpdate (u : PrintJobUpdate) (j : PrintJob) : Except Fault PrintJob := do
  let j := u.applyScalars j
  return { j with
    spoolMaterialUsages := ← u.spoolMaterialUsages.applyNullable j.spoolMaterialUsages }

/-- Every property that `TryCreate` requires is set. -/
def isCreatable (u : PrintJobUpdate) : Bool :=
  u.name.isSet && u.percentageComplete.isSet && u.remainingTime.isSet && u.totalTime.isSet

/-- `TryCreate`: a new job with the required properties, to which the rest is then applied. -/
def tryCreate (u : PrintJobUpdate) : Except Fault (Option PrintJob) := do
  if !u.isCreatable then return none
  let result : PrintJob := { (default : PrintJob) with
    name := u.name.value
    percentageComplete := u.percentageComplete.value
    remainingTime := u.remainingTime.value
    totalTime := u.totalTime.value }
  return some (← u.appendUpdate result)

/-- What `tryCreate` returns when it does not raise. -/
def created (u : PrintJobUpdate) : Option PrintJob :=
  if u.isCreatable then some (u.applyScalars default) else none

/-- The exception `tryCreate` can raise: a new job has no dictionary to write usages into. -/
def Faults (u : PrintJobUpdate) : Prop :=
  u.isCreatable = true ∧ u.spoolMaterialUsages.entries ≠ []

instance (u : PrintJobUpdate) : Decidable u.Faults := inferInstanceAs (Decidable (_ ∧ _))

private theorem applyScalars_initializer (u : PrintJobUpdate) (h : u.isCreatable = true) :
    u.applyScalars { (default : PrintJob) with
      name := u.name.value
      percentageComplete := u.percentageComplete.value
      remainingTime := u.remainingTime.value
      totalTime := u.totalTime.value } = u.applyScalars default := by
  simp only [isCreatable, Bool.and_eq_true] at h
  obtain ⟨⟨⟨h₁, h₂⟩, h₃⟩, h₄⟩ := h
  simp only [applyScalars, ScalarBuffer.apply_of_isSet, h₁, h₂, h₃, h₄]

theorem tryCreate_of_faults {u : PrintJobUpdate} (h : u.Faults) :
    u.tryCreate = .error .nullReference := by
  obtain ⟨hc, hne⟩ := h
  have hempty : u.spoolMaterialUsages.entries.isEmpty = false := by simpa using hne
  simp only [tryCreate, hc, appendUpdate, applyScalars, DictionaryBuffer.applyNullable, hempty]
  rfl

theorem tryCreate_of_not_faults {u : PrintJobUpdate} (h : ¬ u.Faults) :
    u.tryCreate = .ok u.created := by
  cases hc : u.isCreatable with
  | false => simp only [tryCreate, created, hc]; rfl
  | true =>
    have hempty : u.spoolMaterialUsages.entries.isEmpty = true := by
      by_contra hne
      exact h ⟨hc, by simpa using hne⟩
    have happly : u.appendUpdate { (default : PrintJob) with
        name := u.name.value
        percentageComplete := u.percentageComplete.value
        remainingTime := u.remainingTime.value
        totalTime := u.totalTime.value } = .ok (u.applyScalars default) := by
      have hnull : (u.applyScalars default).spoolMaterialUsages = none := rfl
      rw [appendUpdate, applyScalars_initializer u hc, hnull,
        DictionaryBuffer.applyNullable_none_of_isEmpty (List.isEmpty_iff.mp hempty)]
      rfl
    simp only [tryCreate, created, hc, happly]
    rfl

theorem tryCreate_eq_ok_iff {u : PrintJobUpdate} {o : Option PrintJob} :
    u.tryCreate = .ok o ↔ ¬ u.Faults ∧ u.created = o := by
  by_cases h : u.Faults
  · simp [tryCreate_of_faults h, h]
  · simp [tryCreate_of_not_faults h, h]

/-! ### Merging and replaying -/

/-- Every scalar property that is set is set to what the job has already. -/
def Agrees (u : PrintJobUpdate) (j : PrintJob) : Prop :=
  u.name.Agrees j.name ∧ u.customID.Agrees j.customID ∧
  u.percentageComplete.Agrees j.percentageComplete ∧ u.remainingTime.Agrees j.remainingTime ∧
  u.totalTime.Agrees j.totalTime ∧ u.issue.Agrees j.issue ∧ u.thumbnail.Agrees j.thumbnail ∧
  u.file.Agrees j.file ∧ u.subStage.Agrees j.subStage ∧
  u.totalMaterialUsage.Agrees j.totalMaterialUsage ∧ u.localPath.Agrees j.localPath ∧
  u.printSpeedPercent.Agrees j.printSpeedPercent

/-- Every optional scalar property that is not set is `null` in the job. -/
def KeepsOptional (u : PrintJobUpdate) (j : PrintJob) : Prop :=
  (u.customID.isSet = false → j.customID = none) ∧ (u.issue.isSet = false → j.issue = none) ∧
  (u.thumbnail.isSet = false → j.thumbnail = none) ∧ (u.file.isSet = false → j.file = none) ∧
  (u.subStage.isSet = false → j.subStage = none) ∧
  (u.totalMaterialUsage.isSet = false → j.totalMaterialUsage = none) ∧
  (u.localPath.isSet = false → j.localPath = none) ∧
  (u.printSpeedPercent.isSet = false → j.printSpeedPercent = none)

/-- Everything that a rebuild does not carry over is `null` in the job. -/
def DropsNothing (u : PrintJobUpdate) (j : PrintJob) : Prop :=
  u.KeepsOptional j ∧ j.spoolMaterialUsages = none

/-- A rebuild loses nothing: the required properties are all set and nothing is dropped, or they
are not all set, so that nothing is rebuilt, and nothing was to be written. -/
def Merges (u : PrintJobUpdate) (j : PrintJob) : Prop :=
  if u.isCreatable then u.DropsNothing j else u.Agrees j

theorem applyScalars_eq_self_iff {u : PrintJobUpdate} {j : PrintJob} :
    u.applyScalars j = j ↔ u.Agrees j := by
  obtain ⟨⟩ := j
  simp only [applyScalars, Agrees, PrintJob.mk.injEq, ScalarBuffer.apply_eq_self_iff, and_true]

/-- A fresh job agrees with the merged one just when nothing was dropped. -/
theorem applyScalars_default_eq_iff {u : PrintJobUpdate} {j : PrintJob} (h : u.isCreatable = true) :
    u.applyScalars default = u.applyScalars j ↔ u.DropsNothing j := by
  simp only [isCreatable, Bool.and_eq_true] at h
  obtain ⟨⟨⟨h₁, h₂⟩, h₃⟩, h₄⟩ := h
  simp only [applyScalars, PrintJob.mk.injEq, ScalarBuffer.apply_eq_apply_iff, h₁, h₂, h₃, h₄,
    Bool.true_eq_false, false_imp_iff, true_and, DropsNothing, KeepsOptional, and_assoc]
  simp only [eq_comm]
  exact Iff.rfl

/-- **A rebuilt job is the merged job just when the rebuild loses nothing.** -/
theorem created_getD_eq_iff {u : PrintJobUpdate} {j : PrintJob} :
    u.created.getD j = u.applyScalars j ↔ u.Merges j := by
  unfold created Merges
  split
  · rename_i h
    rw [Option.getD_some, applyScalars_default_eq_iff h]
  · rw [Option.getD_none, eq_comm, applyScalars_eq_self_iff]

theorem hasChanged_eq_false_iff {u : PrintJobUpdate} {j : PrintJob} :
    (u.changes j).hasChanged = false ↔ u.Agrees j ∧
      (u.spoolMaterialUsages.changesNullable j.spoolMaterialUsages).hasChanged = false := by
  simp only [PrintJobChanges.hasChanged, changes, Bool.or_eq_false_iff, Agrees, and_assoc,
    ScalarChanges.hasChanged_eq_false_iff]

/-- What a subscriber makes of the report of an existing job. -/
theorem replay_changes (u : PrintJobUpdate) (j : PrintJob) :
    (u.changes j).replay j = { u.applyScalars j with
      spoolMaterialUsages := (u.spoolMaterialUsages.changesNullable
        j.spoolMaterialUsages).replayNullable j.spoolMaterialUsages } := by
  simp only [PrintJobChanges.replay, changes, ScalarChanges.replay_changes, applyScalars]

end PrintJobUpdate

end Connect3Dp
