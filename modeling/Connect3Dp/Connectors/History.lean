import Connect3Dp.Connectors.Outcome

/-!
# The print history

A commit that ends a print should add an entry about it to the history and report the entry.
`CommitState` makes the entry after the update has been applied and puts it into the update, so
it reaches neither the state nor the report. The history is therefore kept just when there is
nothing to record, or the update carried the entry from the start (`keepsHistory_iff`).
-/

namespace Connect3Dp

/-- The entry tells how the print of the job ended. -/
structure HistoricPrintJob.Records (entry : HistoricPrintJob) (job : PrintJob)
    (status : MachineStatus) : Prop where
  name : entry.name = job.name
  file : entry.file = job.file
  thumbnail : entry.thumbnail = job.thumbnail
  isSuccess : entry.isSuccess = true ↔ status = .printed
  elapsed : job.totalTime.subtract job.remainingTime = .ok entry.elapsed

/-- A print ended between the two states. -/
def MachineState.PrintEnded (s s' : MachineState) : Prop :=
  s.status = .printing ∧ (s'.status = .printed ∨ s'.status = .canceled)

/-- What the history owes to its readers after an update from `s` to `s'` that itself sets the
entries `set`. -/
structure HistoryKept (set : List HistoricPrintJob) (s s' : MachineState)
    (raised : Option MachineStateChanges) : Prop where
  recorded : s.PrintEnded s' → ∀ job, s'.currentJob = some job →
    ∃ entry ∈ s'.jobHistory, entry.Records job s'.status ∧
      ∃ changes, raised = some changes ∧ entry ∈ changes.jobHistory.added
  notOwn : ¬ s.PrintEnded s' → ∀ entry ∈ s'.jobHistory,
    entry ∈ s.jobHistory ∨ entry ∈ set

namespace MachineStateUpdate

variable {ops : ScheduleOps} {u : MachineStateUpdate} {s : MachineState}

/-- The job that an application leaves, whether or not it raises after `Changes`. -/
def LeavesJob (u : MachineStateUpdate) (s : MachineState) (job : PrintJob) : Prop :=
  (u.RaisesInJob ∧ s.currentJob = some job) ∨
    (¬ u.RaisesInJob ∧ u.createdJob.or s.currentJob = some job)

/-- The update carries a new entry about the job, and does not remove it again. -/
def CarriesEntry (u : MachineStateUpdate) (s : MachineState) (job : PrintJob) : Prop :=
  ∃ entry ∈ u.jobHistory.additions (.values HistoricPrintJob),
    entry ∉ u.jobHistory.removals (.values HistoricPrintJob) ∧ entry ∉ s.jobHistory ∧
      entry.Records job u.status.value

theorem mem_jobHistory_apply {entry : HistoricPrintJob} :
    entry ∈ (u.apply ops s).jobHistory ↔
      (entry ∈ s.jobHistory ∨ entry ∈ u.jobHistory.additions (.values HistoricPrintJob)) ∧
        entry ∉ u.jobHistory.removals (.values HistoricPrintJob) := by
  change entry ∈ u.jobHistory.apply (.values HistoricPrintJob) s.jobHistory ↔ _
  rw [SetBuffer.apply, HashSetOps.mem_exceptWith, HashSetOps.mem_unionWith]

theorem mem_added_changed {entry : HistoricPrintJob} :
    entry ∈ (u.changed ops s).jobHistory.added ↔
      entry ∈ u.jobHistory.additions (.values HistoricPrintJob) ∧ entry ∉ s.jobHistory := by
  change entry ∈ (u.jobHistory.changes (.values HistoricPrintJob) s.jobHistory).added ↔ _
  simp [SetBuffer.changes, HashSetOps.values]

theorem endsPrint_iff_printEnded : u.EndsPrint s ↔ s.PrintEnded (u.apply ops s) :=
  endsPrint_iff_status

theorem status_apply_of_endsPrint (h : u.EndsPrint s) :
    (u.apply ops s).status = u.status.value := ScalarBuffer.apply_of_isSet h.2.1 _

/-- An application that is not reported owes nothing just when no print ended or no job is
left. -/
theorem historyKept_none_iff {s' : MachineState}
    (hstatus : s'.status = u.status.apply s.status)
    (hjob : ∀ job, s'.currentJob = some job ↔ u.LeavesJob s job)
    {set : List HistoricPrintJob}
    (hown : ∀ entry ∈ s'.jobHistory, entry ∈ s.jobHistory ∨ entry ∈ set) :
    HistoryKept set s s' none ↔ (u.EndsPrint s → ∀ job, ¬ u.LeavesJob s job) := by
  have hended : s.PrintEnded s' ↔ u.EndsPrint s := by
    rw [MachineState.PrintEnded, hstatus, endsPrint_iff_status]
  constructor
  · rintro h hends job hleft
    obtain ⟨entry, -, -, changes, hraised, -⟩ :=
      h.recorded (hended.mpr hends) job ((hjob job).mpr hleft)
    cases hraised
  · exact fun h => ⟨fun he job hj => absurd ((hjob job).mp hj) (h (hended.mp he) job),
      fun _ => hown⟩

/-- **The history after a reported application.** -/
theorem historyKept_apply_iff :
    HistoryKept (u.jobHistory.additions (.values HistoricPrintJob)) s (u.apply ops s)
        (if (u.changed ops s).hasChanged then some (u.changed ops s) else none) ↔
      (u.EndsPrint s → ∀ job, u.createdJob.or s.currentJob = some job → u.CarriesEntry s job) := by
  constructor
  · intro h hends job hjob
    obtain ⟨entry, hmem, hrecords, changes, hraised, hadded⟩ :=
      h.recorded (endsPrint_iff_printEnded.mp hends) job hjob
    rw [status_apply_of_endsPrint hends] at hrecords
    split at hraised
    · cases hraised
      obtain ⟨hadd, hnew⟩ := mem_added_changed.mp hadded
      exact ⟨entry, hadd, (mem_jobHistory_apply.mp hmem).2, hnew, hrecords⟩
    · cases hraised
  · intro h
    refine ⟨fun hended job hjob => ?_, fun _ entry hmem => (mem_jobHistory_apply.mp hmem).1⟩
    have hends : u.EndsPrint s := endsPrint_iff_printEnded.mpr hended
    obtain ⟨entry, hadd, hkept, hnew, hrecords⟩ := h hends job hjob
    have hadded : entry ∈ (u.changed ops s).jobHistory.added := mem_added_changed.mpr ⟨hadd, hnew⟩
    have hchanged : (u.changed ops s).hasChanged = true := by
      have hhistory : (u.changed ops s).jobHistory.hasChanged = true := by
        rw [SetChanges.hasChanged, List.isEmpty_eq_false_iff.mpr (List.ne_nil_of_mem hadded)]
        rfl
      simp only [MachineStateChanges.hasChanged, hhistory, Bool.or_true, Bool.true_or]
    rw [status_apply_of_endsPrint hends]
    exact ⟨entry, mem_jobHistory_apply.mpr ⟨.inr hadd, hkept⟩, hrecords, _, if_pos hchanged, hadded⟩

end MachineStateUpdate

namespace MachineConnection

variable {Cron : Type} [DecidableEq Cron] [Hashable (HeatingSchedule Cron)]
  [Hashable (ScheduledPrint Cron)]

/-- The history is kept by a commit, whether it returns or raises. A commit that raises reports
nothing. -/
def KeepsHistory (env : Environment Cron) (u : MachineStateUpdate) (c : MachineConnection Cron) :
    Prop :=
  match (commitState env u).run c with
  | .ok raised c' =>
    HistoryKept (u.jobHistory.additions (.values HistoricPrintJob)) c.state c'.state raised
  | .error _ c' =>
    HistoryKept (u.jobHistory.additions (.values HistoricPrintJob)) c.state c'.state none

/-- The commit returns. -/
structure Returns (env : Environment Cron) (u : MachineStateUpdate) (c : MachineConnection Cron) :
    Prop where
  applies : c.Applies u
  history : ¬ (c.preprocessUpdate u).RaisesInHistory c.state
  scheduler : ¬ c.RaisesInScheduler env u

/-- **When the history is kept.** A commit that ends a print and leaves a job has to return, and
its own update has to carry the entry about the job. -/
theorem keepsHistory_iff (env : Environment Cron) (u : MachineStateUpdate)
    (c : MachineConnection Cron) (hc : c.FreshIDs) :
    KeepsHistory env u c ↔ (¬ u.RaisesInChanges c.state → u.EndsPrint c.state →
      ∀ job, u.LeavesJob c.state job → Returns env u c ∧ u.CarriesEntry c.state job) := by
  -- A commit that raises after `Changes` must not have ended a print with a job left.
  have hraised : ∀ {s' : MachineState}, ¬ u.RaisesInChanges c.state → ¬ Returns env u c →
      s'.status = u.status.apply c.state.status →
      (∀ job, s'.currentJob = some job ↔ u.LeavesJob c.state job) →
      (∀ entry ∈ s'.jobHistory, entry ∈ c.state.jobHistory ∨
        entry ∈ u.jobHistory.additions (.values HistoricPrintJob)) →
      (HistoryKept (u.jobHistory.additions (.values HistoricPrintJob)) c.state s' none ↔
        (¬ u.RaisesInChanges c.state → u.EndsPrint c.state →
          ∀ job, u.LeavesJob c.state job → Returns env u c ∧ u.CarriesEntry c.state job)) := by
    intro s' hch hreturns hstatus hjob hown
    refine (MachineStateUpdate.historyKept_none_iff hstatus hjob hown).trans ?_
    exact ⟨fun h _ hends job hleft => absurd hleft (h hends job),
      fun h hends job hleft => hreturns (h hch hends job hleft).1⟩
  have hown : ∀ entry ∈ (c.appliedState u).jobHistory, entry ∈ c.state.jobHistory ∨
      entry ∈ u.jobHistory.additions (.values HistoricPrintJob) :=
    fun entry h => (MachineStateUpdate.mem_jobHistory_apply.mp h).1
  have hleft : ¬ u.RaisesInJob → ∀ job, (c.appliedState u).currentJob = some job ↔
      u.LeavesJob c.state job := by
    intro hj job
    rw [MachineStateUpdate.LeavesJob, or_iff_right fun h => hj h.1, and_iff_right hj]
    exact Iff.rfl
  unfold KeepsHistory
  have houtcome := commitOutcome env u hc
  generalize (commitState env u).run c = r at houtcome
  cases houtcome with
  | inChanges f hch =>
    refine iff_of_true ⟨fun hended => ?_, fun _ entry h => .inl h⟩ fun hn => absurd hch hn
    obtain ⟨hs, hs' | hs'⟩ := hended
    all_goals rw [show (c.applied u c.state).state.status = .printing from hs] at hs'; cases hs'
  | inJob f hch hj =>
    refine hraised hch (fun h => absurd hj h.applies.job) rfl (fun job => ?_) fun _ h => .inl h
    have hj' : u.RaisesInJob := hj
    rw [MachineStateUpdate.LeavesJob, or_iff_left fun h => h.1 hj', and_iff_right hj']
    exact Iff.rfl
  | inUnits f units hch hj hu hstill =>
    exact hraised hch (fun h => absurd hu h.applies.units) rfl (hleft hj) hown
  | inHistory f happlies hhistory =>
    exact hraised happlies.changes (fun h => h.history hhistory) rfl (hleft happlies.job) hown
  | inScheduler f c' happlies hhistory hscheduler hrun =>
    have hstate : c'.state = c.appliedState u :=
      (sameState_steps env (c.steps u) (c.applied u (c.appliedState u))).2 f c' hrun
    change HistoryKept _ c.state c'.state none ↔ _
    rw [hstate]
    exact hraised happlies.changes (fun h => h.scheduler hscheduler) rfl (hleft happlies.job) hown
  | returned c' happlies hhistory hscheduler hrun =>
    have hstate : c'.state = c.appliedState u :=
      (sameState_steps env (c.steps u) (c.applied u (c.appliedState u))).1 () c' hrun
    change HistoryKept _ c.state c'.state _ ↔ _
    rw [hstate]
    have hkept : HistoryKept (u.jobHistory.additions (.values HistoricPrintJob)) c.state
        (c.appliedState u) (if (c.report u).hasChanged then some (c.report u) else none) ↔
        (u.EndsPrint c.state → ∀ job, (c.appliedState u).currentJob = some job →
          u.CarriesEntry c.state job) :=
      MachineStateUpdate.historyKept_apply_iff (u := c.preprocessUpdate u)
    rw [hkept]
    constructor
    · intro h _ hends job hjob
      exact ⟨⟨happlies, hhistory, hscheduler⟩, h hends job ((hleft happlies.job job).mpr hjob)⟩
    · intro h hends job hjob
      exact (h happlies.changes hends job ((hleft happlies.job job).mp hjob)).2

/-- A machine in the middle of a print. -/
private def printing : MachineConnection Unit :=
  ⟨default, { (default : MachineState) with status := .printing, currentJob := some default },
    default, ⟨[], false, 0⟩⟩

private theorem printing_freshIDs : printing.FreshIDs :=
  .of_unused rfl fun r => by cases r <;> rfl

/-- `SetStatus(Printed)`. -/
private def finishPrint : MachineStateUpdate :=
  { (default : MachineStateUpdate) with
    status := (default : ScalarBuffer MachineStatus).set .printed }

theorem keepsHistory_iff_finishPrint :
    printing.FreshIDs ∧ (KeepsHistory ⟨default, fun _ => none⟩ finishPrint printing ↔
      (¬ finishPrint.RaisesInChanges printing.state → finishPrint.EndsPrint printing.state →
        ∀ job, finishPrint.LeavesJob printing.state job →
          Returns ⟨default, fun _ => none⟩ finishPrint printing ∧
            finishPrint.CarriesEntry printing.state job)) :=
  ⟨printing_freshIDs, keepsHistory_iff _ _ _ printing_freshIDs⟩

/-- A print that ends leaves no entry. -/
theorem keepsHistory_fails :
    ¬ ∀ (u : MachineStateUpdate) (c : MachineConnection Unit), c.FreshIDs →
      KeepsHistory ⟨default, fun _ => none⟩ u c := by
  intro hall
  obtain ⟨hrecorded, -⟩ : HistoryKept [] printing.state (printing.appliedState finishPrint) _ :=
    hall finishPrint printing printing_freshIDs
  obtain ⟨entry, hmem, -⟩ := hrecorded ⟨rfl, .inl rfl⟩ default rfl
  cases hmem

end MachineConnection

end Connect3Dp
