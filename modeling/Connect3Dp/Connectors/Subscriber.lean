import Connect3Dp.Connectors.MachineConnection
import Connect3Dp.Runtime.Transition

/-!
# A subscriber's copy of the current job

A client keeps a copy of the current job and writes into it what every raised `OnChanges` flags.
The report compares the update with the existing job field by field, the application replaces
the job by what `TryCreate` builds, and `PrintJobUpdate.Transparent` is the condition on an
update and a job under which the two agree. In a run of commits that all meet it the copy is the
job after every commit (`Subscription.inSync_of_transparent`).
-/

namespace Connect3Dp

namespace PrintJobUpdate

variable {u : PrintJobUpdate}

/-- The report of the update tells what becomes of the job: an update of no job creates none; a
rebuild of a job drops nothing; and an update that does not rebuild the job sets nothing new. -/
def Transparent (u : PrintJobUpdate) : Option PrintJob → Prop
  | none => u.isCreatable = false
  | some j =>
    if u.isCreatable then u.DropsNothing j
    else u.Agrees j ∧ u.spoolMaterialUsages.Agrees (j.spoolMaterialUsages.getD ∅)

theorem usages_agrees_iff {j : PrintJob} :
    u.spoolMaterialUsages.Agrees (j.spoolMaterialUsages.getD ∅) ↔
      (u.spoolMaterialUsages.changesNullable j.spoolMaterialUsages).replayNullable
        j.spoolMaterialUsages = j.spoolMaterialUsages := by
  rw [DictionaryBuffer.replayNullable_eq_self_iff, DictionaryBuffer.changesNullable,
    DictionaryBuffer.hasChanged_value_eq_false_iff]

/-- An update without usages to set reports nothing about a dictionary that is `null`. -/
theorem replayNullable_usages_of_not_faults (hc : u.isCreatable = true) (hf : ¬ u.Faults) :
    (u.spoolMaterialUsages.changesNullable none).replayNullable none = none := by
  have hempty : u.spoolMaterialUsages.entries = [] := by
    by_contra hne
    exact hf ⟨hc, hne⟩
  rw [DictionaryBuffer.replayNullable_eq_self_iff, DictionaryBuffer.changesNullable,
    DictionaryBuffer.hasChanged_value_eq_false_iff]
  refine ⟨fun k v hk => ?_, fun k _ => rfl⟩
  rw [DictionaryBuffer.lookup, hempty] at hk
  cases hk

/-- **When the report of an existing job is the change of the job.** -/
theorem replay_changes_eq_iff {j : PrintJob} (hf : ¬ u.Faults) :
    (u.changes j).replay j = u.created.getD j ↔ u.Transparent (some j) := by
  rw [replay_changes, Transparent, created]
  split
  · rename_i hc
    rw [Option.getD_some, ← applyScalars_default_eq_iff hc]
    constructor
    · intro h
      -- The rebuilt job has no usages, so neither had the old one: a replay never drops them.
      have hnone := congrArg PrintJob.spoolMaterialUsages h
      have hj : j.spoolMaterialUsages = none := by
        change DictionaryChanges.replayNullable _ j.spoolMaterialUsages = none at hnone
        rw [DictionaryChanges.replayNullable] at hnone
        split at hnone
        · cases hnone
        · exact hnone
      rw [← h, hj, replayNullable_usages_of_not_faults hc hf, ← hj]
      rfl
    · intro h
      have hj : j.spoolMaterialUsages = none := congrArg PrintJob.spoolMaterialUsages h.symm
      rw [h, hj, replayNullable_usages_of_not_faults hc hf, ← hj]
      rfl
  · rw [Option.getD_none, usages_agrees_iff, ← applyScalars_eq_self_iff]
    constructor
    · intro h
      have husages : (u.spoolMaterialUsages.changesNullable j.spoolMaterialUsages).replayNullable
          j.spoolMaterialUsages = j.spoolMaterialUsages := congrArg PrintJob.spoolMaterialUsages h
      rw [husages] at h
      exact ⟨h, husages⟩
    · rintro ⟨hscalars, husages⟩
      rw [hscalars, husages]

end PrintJobUpdate

/-! ### The copy -/

/-- What a subscriber does with `CurrentJobChanges`: write every flagged value into the copy, or
into a new job when there is no copy. -/
def followJob : Option PrintJobChanges → Option PrintJob → Option PrintJob
  | none, copy => copy
  | some changes, copy => some (changes.replay (copy.getD default))

/-- The handler of `OnChanges`, called only when it is raised. -/
def follow (raised : Option MachineStateChanges) (copy : Option PrintJob) : Option PrintJob :=
  followJob (raised.bind (·.currentJob)) copy

/-- A report that flags something of the job is raised. -/
theorem follow_raised {changes : MachineStateChanges} {copy : Option PrintJob}
    (h : ∀ c, changes.currentJob = some c → c.hasChanged = true) :
    follow (if changes.hasChanged then some changes else none) copy =
      followJob changes.currentJob copy := by
  cases hj : changes.currentJob with
  | none => split <;> simp [follow, hj]
  | some c =>
    have hany : changes.currentJob.any PrintJobChanges.hasChanged = true := by
      rw [hj]
      exact h c hj
    have hchanged : changes.hasChanged = true := by
      simp only [MachineStateChanges.hasChanged, hany, Bool.or_true, Bool.true_or]
    simp [follow, hchanged, hj]

/-- The update of the current job, if there is one, is transparent. -/
def MachineStateUpdate.JobTransparent (u : MachineStateUpdate) (job : Option PrintJob) : Prop :=
  ∀ ju, u.currentJob.value = some ju → ju.Transparent job

/-- **One application**: a copy of the job follows it just when the update is transparent. -/
theorem followJob_changed_iff {ops : ScheduleOps} {u : MachineStateUpdate} {s : MachineState}
    (hf : ∀ ju, u.currentJob.value = some ju → ¬ ju.Faults) :
    followJob (u.changed ops s).currentJob s.currentJob = (u.apply ops s).currentJob ↔
      u.JobTransparent s.currentJob := by
  have happly : (u.apply ops s).currentJob = u.createdJob.or s.currentJob := rfl
  have hreport : (u.changed ops s).currentJob =
      (u.currentJob.value.map (·.changesOf s.currentJob)).filter (·.hasChanged) := rfl
  rw [happly, hreport, MachineStateUpdate.createdJob, NestedBuffer.created,
    MachineStateUpdate.JobTransparent]
  cases hv : u.currentJob.value with
  | none => simp [followJob]
  | some ju =>
    simp only [Option.map_some, Option.bind_some, Option.some.injEq, forall_eq']
    cases hj : s.currentJob with
    | none =>
      have hquiet : (ju.changesOf none).hasChanged = false := rfl
      simp only [Option.filter_some, hquiet, Bool.false_eq_true, if_false, followJob,
        Option.or_none, PrintJobUpdate.Transparent, PrintJobUpdate.created]
      cases ju.isCreatable <;> simp
    | some j =>
      rw [← PrintJobUpdate.replay_changes_eq_iff (hf ju hv)]
      have hor : ju.created.or (some j) = some (ju.created.getD j) := by
        cases ju.created <;> rfl
      rw [hor]
      cases hc : (ju.changes j).hasChanged with
      | true => simp [Option.filter, PrintJobUpdate.changesOf, hc, followJob]
      | false =>
        have hagrees := PrintJobUpdate.hasChanged_eq_false_iff.mp hc
        have hself : (ju.changes j).replay j = j := by
          rw [PrintJobUpdate.replay_changes, PrintJobUpdate.applyScalars_eq_self_iff.mpr hagrees.1,
            DictionaryBuffer.replayNullable_eq_self_iff.mpr hagrees.2]
        simp [Option.filter, PrintJobUpdate.changesOf, hc, followJob, hself]

/-! ### Runs -/

/-- A connection and a subscriber's copy of its current job. -/
structure Subscription (Cron : Type) where
  connection : MachineConnection Cron
  copy : Option PrintJob

namespace Subscription

variable {Cron : Type} [DecidableEq Cron] [Hashable (HeatingSchedule Cron)]
  [Hashable (ScheduledPrint Cron)]

omit [DecidableEq Cron] [Hashable (HeatingSchedule Cron)] [Hashable (ScheduledPrint Cron)] in
/-- The copy is the current job. In particular, there is none just when the job is `null`. -/
def InSync (σ : Subscription Cron) : Prop := σ.copy = σ.connection.state.currentJob

/-- A commit that returns. Before it, other parties may have used the scheduler and allocated
schedules; the state is the one the previous commit left. -/
def Commit (env : Environment Cron) (u : MachineStateUpdate) (σ σ' : Subscription Cron) : Prop :=
  ∃ c raised, MachineConnection.SameState σ.connection c ∧
    (MachineConnection.commitState env u).run c = .ok raised σ'.connection ∧
    σ'.copy = follow raised σ.copy

/-- Some commit. -/
def Step (σ σ' : Subscription Cron) : Prop := ∃ env u, Commit env u σ σ'

/-- Some commit whose update is transparent for the current job. -/
def TransparentStep (σ σ' : Subscription Cron) : Prop :=
  ∃ env u, u.JobTransparent σ.connection.state.currentJob ∧ Commit env u σ σ'

/-- **One commit** keeps a copy in sync just when its update is transparent. -/
theorem inSync_commit_iff {env : Environment Cron} {u : MachineStateUpdate}
    {σ σ' : Subscription Cron} (hσ : InSync σ) (h : Commit env u σ σ') :
    InSync σ' ↔ u.JobTransparent σ.connection.state.currentJob := by
  obtain ⟨c, raised, hstate, hrun, hcopy⟩ := h
  obtain ⟨changes, happly, rfl⟩ := MachineConnection.run_commitState_ok hrun
  have hfaults : ∀ ju, (c.preprocessUpdate u).currentJob.value = some ju → ¬ ju.Faults :=
    fun ju hju => MachineStateUpdate.not_faults_of_run_appendUpdate_ok _ happly hju
  obtain ⟨rfl, hs'⟩ := MachineStateUpdate.run_appendUpdate_ok _ happly
  have hreported : ∀ r, ((c.preprocessUpdate u).changed c.heap.ops c.state).currentJob = some r →
      r.hasChanged = true := fun r hr => Option.filter_eq_some_iff.mp hr |>.2
  rw [InSync, hcopy, follow_raised hreported, hσ, hs', ← hstate, followJob_changed_iff hfaults]
  exact Iff.rfl

/-- **A run of transparent commits keeps the copy in sync**, and the first commit that is not
transparent breaks it. -/
theorem inSync_of_transparent (σ : Subscription Cron)
    (h : Reachable InSync TransparentStep σ) :
    InSync σ ∧ ∀ env u σ', Commit env u σ σ' →
      (InSync σ' ↔ u.JobTransparent σ.connection.state.currentJob) := by
  have hσ : InSync σ := by
    refine h.induct (fun _ hinit => hinit) ?_
    rintro σ σ' - hσ ⟨env, u, hu, hcommit⟩
    exact (inSync_commit_iff hσ hcommit).mpr hu
  exact ⟨hσ, fun env u σ' hcommit => inSync_commit_iff hσ hcommit⟩

/-- An update of all the properties that a job needs. -/
private def announcement : MachineStateUpdate :=
  { (default : MachineStateUpdate) with
    currentJob := (default : NestedBuffer PrintJobUpdate).update fun j =>
      { j with
        name := j.name.set (some "cube")
        percentageComplete := j.percentageComplete.set 50
        remainingTime := j.remainingTime.set .zero
        totalTime := j.totalTime.set .zero } }

/-- A machine whose current job is the given one, and a subscriber with a copy of it. -/
private def watching (job : Option PrintJob) : Subscription Unit :=
  ⟨⟨default, (default : MachineState).setCurrentJob job, default, default⟩, job⟩

private def quietEnvironment : Environment Unit := ⟨default, fun _ => none⟩

/-- The copy of a job follows an announcement of the job. -/
theorem inSync_of_transparent_announcement :
    ∃ σ : Subscription Unit, Reachable InSync TransparentStep σ ∧
      σ.copy.map (·.percentageComplete) = some 50 ∧ InSync σ := by
  have hcommit : Commit quietEnvironment announcement (watching (some default))
      ⟨_, _⟩ := ⟨_, _, rfl, rfl, rfl⟩
  have htransparent : announcement.JobTransparent (some default) := by
    intro ju hju
    cases hju
    rw [PrintJobUpdate.Transparent, if_pos]
    · rw [PrintJobUpdate.DropsNothing, PrintJobUpdate.KeepsOptional]
      exact ⟨⟨fun _ => rfl, fun _ => rfl, fun _ => rfl, fun _ => rfl, fun _ => rfl,
        fun _ => rfl, fun _ => rfl, fun _ => rfl⟩, rfl⟩
    · rfl
  have hrun : Reachable InSync TransparentStep _ :=
    (Reachable.refl (show InSync (watching (some default)) from rfl)).tail
      ⟨_, _, htransparent, hcommit⟩
  exact ⟨_, hrun, rfl, (inSync_of_transparent _ hrun).1⟩

/-- A job that starts is never seen by a subscriber that had none. -/
theorem inSync_fails :
    ¬ ∀ σ : Subscription Unit, Reachable InSync Step σ → InSync σ := by
  intro hall
  have hcommit : Commit quietEnvironment announcement (watching none)
      ⟨_, _⟩ := ⟨_, _, rfl, rfl, rfl⟩
  have h := hall _ ((Reachable.refl (show InSync (watching none) from rfl)).tail
    ⟨_, _, hcommit⟩)
  cases h

end Subscription

end Connect3Dp
