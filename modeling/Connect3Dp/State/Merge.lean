import Connect3Dp.State.MachineState

/-!
# Partial updates

An update that sets some of the properties of the current job, or of the material of a tray,
should leave the others as they are. Both are replaced by what `TryCreate` builds, so this holds
just when the rebuild loses nothing (`PrintJobUpdate.Merges`, `MaterialUpdate.Merges`).
-/

namespace Connect3Dp

namespace MachineStateUpdate

variable {ops : ScheduleOps} {u : MachineStateUpdate} {s s' : MachineState}
  {c : MachineStateChanges}

/-- The job after an update of an existing job. -/
theorem currentJob_apply {j : PrintJob} {ju : PrintJobUpdate} (hj : s.currentJob = some j)
    (hu : u.currentJob.value = some ju) :
    (u.apply ops s).currentJob = some (ju.created.getD j) := by
  have hcreated : u.createdJob = ju.created := by
    rw [createdJob, NestedBuffer.created, hu, Option.bind_some]
  change u.createdJob.or s.currentJob = _
  rw [hcreated, hj]
  cases ju.created <;> rfl

/-- The material of a tray after an update of an existing tray. -/
theorem tray_apply {id : String} {m : MUnit} {mu : MUnitUpdate} {k : Int32} {sp : Spool}
    {su : SpoolUpdate} {mat : MaterialUpdate}
    (hm : s.materialUnits.tryGetValue id = some m) (hmu : u.materialUnits.lookup id = some mu)
    (hid : id ∉ u.materialUnits.removals) (hsp : m.trays.tryGetValue k = some sp)
    (hsu : mu.trays.lookup k = some su) (hk : k ∉ mu.trays.removals)
    (hmat : su.material.value = some mat) :
    ∃ m' sp', (u.apply ops s).materialUnits.tryGetValue id = some m' ∧
      m'.trays.tryGetValue k = some sp' ∧ sp'.material = mat.tryCreate.getD sp.material := by
  have hunit : (u.apply ops s).materialUnits.tryGetValue id =
      some ((mu.assertKey id).apply ops.heatingSchedules m) := by
    change (u.materialUnits.apply _ _).tryGetValue id = _
    rw [DictionaryBuffer.tryGetValue_apply, if_neg hid, hmu, hm]
    rfl
  refine ⟨_, su.apply sp, hunit, ?_, ?_⟩
  · change (mu.trays.apply SpoolUpdate.total m.trays).tryGetValue k = _
    rw [DictionaryBuffer.tryGetValue_apply, if_neg hk, hsu, hsp]
    rfl
  · rw [SpoolUpdate.apply, NestedBuffer.created, hmat, Option.bind_some]

/-- **When partial updates merge.** The current job keeps what the update does not set just when
the rebuild loses nothing, and so does the material of a tray. -/
theorem appendUpdate_merges_iff (ops : ScheduleOps) (u : MachineStateUpdate) (s s' : MachineState)
    (c : MachineStateChanges) (h : (u.appendUpdate ops).run s = .ok c s') :
    (∀ j ju, s.currentJob = some j → u.currentJob.value = some ju →
      (s'.currentJob = some (ju.applyScalars j) ↔ ju.Merges j)) ∧
    ∀ id m mu k sp su mat, s.materialUnits.tryGetValue id = some m →
      u.materialUnits.lookup id = some mu → id ∉ u.materialUnits.removals →
      m.trays.tryGetValue k = some sp → mu.trays.lookup k = some su → k ∉ mu.trays.removals →
      su.material.value = some mat →
      ((∃ m' sp', s'.materialUnits.tryGetValue id = some m' ∧
        m'.trays.tryGetValue k = some sp' ∧ sp'.material = mat.apply sp.material) ↔
          mat.Merges sp.material) := by
  obtain ⟨rfl, rfl⟩ := run_appendUpdate_ok ops h
  constructor
  · intro j ju hj hu
    rw [currentJob_apply hj hu, Option.some.injEq, PrintJobUpdate.created_getD_eq_iff]
  · intro id m mu k sp su mat hm hmu hid hsp hsu hk hmat
    obtain ⟨m', sp', hm', hsp', hmaterial⟩ := tray_apply hm hmu hid hsp hsu hk hmat
    rw [← MaterialUpdate.tryCreate_getD_eq_iff, ← hmaterial]
    constructor
    · rintro ⟨m'', sp'', hm'', hsp'', heq⟩
      rw [hm'] at hm''
      cases hm''
      rw [hsp'] at hsp''
      cases hsp''
      exact heq
    · exact fun heq => ⟨m', sp', hm', hsp', heq⟩

/-- A job in the middle of its print. -/
private def cube : PrintJob :=
  { (default : PrintJob) with name := some "cube", percentageComplete := 40 }

/-- `UpdateCurrentJob(j => j.SetPercentageComplete(50))`. -/
private def progress : MachineStateUpdate :=
  { (default : MachineStateUpdate) with
    currentJob := (default : NestedBuffer PrintJobUpdate).update fun j =>
      { j with percentageComplete := j.percentageComplete.set 50 } }

theorem appendUpdate_merges_iff_progress :
    ∃ c s' ju, (progress.appendUpdate (default : Heap Unit).ops).run
        ((default : MachineState).setCurrentJob (some cube)) = .ok c s' ∧
      progress.currentJob.value = some ju ∧
      (s'.currentJob = some (ju.applyScalars cube) ↔ ju.Merges cube) :=
  ⟨_, _, _, rfl, rfl, (appendUpdate_merges_iff (default : Heap Unit).ops progress
    ((default : MachineState).setCurrentJob (some cube)) _ _ rfl).1 cube _ rfl rfl⟩

/-- A message that carries the progress alone does not move the progress. -/
theorem appendUpdate_not_merges :
    ¬ ∀ (u : MachineStateUpdate) (s s' : MachineState) (c : MachineStateChanges)
      (j : PrintJob) (ju : PrintJobUpdate),
      (u.appendUpdate (default : Heap Unit).ops).run s = .ok c s' → s.currentJob = some j →
        u.currentJob.value = some ju → s'.currentJob = some (ju.applyScalars j) := by
  intro hall
  have h := hall progress ((default : MachineState).setCurrentJob (some cube)) _ _ cube _
    rfl rfl rfl
  exact absurd h (by decide)

end MachineStateUpdate

end Connect3Dp
