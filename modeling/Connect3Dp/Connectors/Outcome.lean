import Connect3Dp.Connectors.Scheduling
import Connect3Dp.State.Setters

/-!
# The outcomes of a commit

`CommitOutcome` lists how a commit can end, each way with the condition on the update and the
connection under which it ends so: it raises in one of five places, with the state that was
reached there, or it returns. `commitOutcome` says that the list is complete.
-/

namespace Connect3Dp

namespace MachineStateUpdate

/-- The update ends a print: the status goes from `Printing` to `Printed` or `Canceled`. -/
def EndsPrint (u : MachineStateUpdate) (s : MachineState) : Prop :=
  s.status = .printing ∧ u.status.isSet = true ∧
    (u.status.value = .printed ∨ u.status.value = .canceled)

/-- The update ends the print of a job whose times are too far apart to be subtracted. -/
def RaisesInHistory (u : MachineStateUpdate) (s : MachineState) : Prop :=
  u.EndsPrint s ∧ ∃ job, u.createdJob.or s.currentJob = some job ∧
    ∃ f, job.totalTime.subtract job.remainingTime = .error f

variable {ops : ScheduleOps} {u u' : MachineStateUpdate} {s : MachineState}

theorem endsPrint_iff_status : u.EndsPrint s ↔ s.status = .printing ∧
    (u.status.apply s.status = .printed ∨ u.status.apply s.status = .canceled) := by
  rw [EndsPrint]
  refine and_congr_right fun hs => ?_
  cases h : u.status.isSet with
  | true => simp [ScalarBuffer.apply, h]
  | false => simp [ScalarBuffer.apply, h, hs]

theorem justEnded_iff :
    MachineConnection.justEnded (u.changed ops s) (u.apply ops s) = true ↔ u.EndsPrint s := by
  have hreport : (u.changed ops s).status = u.status.changes s.status := rfl
  have hstatus : (u.apply ops s).status = u.status.apply s.status := rfl
  rw [MachineConnection.justEnded, hreport, hstatus, EndsPrint]
  cases h : u.status.isSet with
  | false => simp [ScalarBuffer.changes, h]
  | true =>
    by_cases hv : s.status = u.status.value
    · simp only [ScalarBuffer.changes, h, hv, decide_true, Bool.not_true, Bool.and_false,
        Bool.false_eq_true, if_false, Bool.false_and, false_iff, not_and, not_or]
      rintro hp -
      rw [hp]
      exact ⟨by decide, by decide⟩
    · simp [ScalarBuffer.changes, ScalarBuffer.apply, h, hv, and_comm]

end MachineStateUpdate

namespace MachineConnection

variable {ops : ScheduleOps} {u u' : MachineStateUpdate} {s : MachineState} {now : DateTime}

theorem appendHistory_eq_error_iff :
    (∃ f, appendHistory now (u.changed ops s) (u.apply ops s) u = .error f) ↔
      u.RaisesInHistory s := by
  have hjob : (u.apply ops s).currentJob = u.createdJob.or s.currentJob := rfl
  have hends : justEnded (u.changed ops s) (u.apply ops s) = true ↔ u.EndsPrint s :=
    MachineStateUpdate.justEnded_iff
  rw [MachineStateUpdate.RaisesInHistory, ← hends, appendHistory, hjob]
  cases u.createdJob.or s.currentJob with
  | none => exact ⟨nofun, fun ⟨_, _, h, _⟩ => by cases h⟩
  | some job =>
    simp only [Option.some.injEq, exists_eq_left']
    split
    · rename_i hended
      rw [historicPrintJob]
      cases job.totalTime.subtract job.remainingTime with
      | error f => exact ⟨fun _ => ⟨hended, f, rfl⟩, fun _ => ⟨f, rfl⟩⟩
      | ok elapsed => exact ⟨nofun, nofun⟩
    · rename_i hended
      exact ⟨nofun, fun h => absurd h.1 hended⟩

/-- The history entry does not touch what is scheduled. -/
theorem schedulingSteps_of_appendHistory {changes : MachineStateChanges}
    (h : appendHistory now changes s u = .ok u') :
    u'.schedulingSteps ops = u.schedulingSteps ops := by
  unfold appendHistory at h
  split at h
  · split at h
    · obtain ⟨entry, -, h⟩ := bind_eq_ok_iff.mp h
      cases h
      rfl
    · cases h
      rfl
  · cases h
    rfl

section Outcome

variable {Cron : Type} [DecidableEq Cron] [Hashable (HeatingSchedule Cron)]
  [Hashable (ScheduledPrint Cron)]

/-- The application of a preprocessed update returns. -/
structure Applies (c : MachineConnection Cron) (u : MachineStateUpdate) : Prop where
  changes : ¬ (c.preprocessUpdate u).RaisesInChanges c.state
  job : ¬ (c.preprocessUpdate u).RaisesInJob
  units : ¬ (c.preprocessUpdate u).RaisesInUnits c.state

/-- The state that the application of a preprocessed update leaves when it returns. -/
def appliedState (c : MachineConnection Cron) (u : MachineStateUpdate) : MachineState :=
  (c.preprocessUpdate u).apply c.heap.ops c.state

/-- The report of the application of a preprocessed update when it returns. -/
def report (c : MachineConnection Cron) (u : MachineStateUpdate) : MachineStateChanges :=
  (c.preprocessUpdate u).changed c.heap.ops c.state

/-- **What a commit does to the state**, and where it raises in the application. -/
theorem commitState_state_cases (env : Environment Cron) (u : MachineStateUpdate)
    (c : MachineConnection Cron) :
    ((c.preprocessUpdate u).RaisesInChanges c.state ∧
      ∃ f c', (commitState env u).run c = .error f c' ∧ c'.state = c.state) ∨
    (¬ (c.preprocessUpdate u).RaisesInChanges c.state ∧ (c.preprocessUpdate u).RaisesInJob ∧
      ∃ f c', (commitState env u).run c = .error f c' ∧
        c'.state = (c.preprocessUpdate u).applyIdentity c.state) ∨
    (¬ (c.preprocessUpdate u).RaisesInChanges c.state ∧ ¬ (c.preprocessUpdate u).RaisesInJob ∧
      (c.preprocessUpdate u).RaisesInUnits c.state ∧
      ∃ f c' units, (commitState env u).run c = .error f c' ∧
        c'.state = ((c.preprocessUpdate u).applyUntilUnits c.heap.ops c.state).setMaterialUnits
          units) ∨
    (c.Applies u ∧
      ((∃ f c', (commitState env u).run c = .error f c' ∧ c'.state = c.appliedState u) ∨
        ∃ c', (commitState env u).run c =
          .ok (if (c.report u).hasChanged then some (c.report u) else none) c' ∧
            c'.state = c.appliedState u)) := by
  obtain ⟨hch, f, happly⟩ | ⟨hch, hj, f, happly⟩ | ⟨hch, hj, hu, f, units, happly, -⟩ |
    ⟨hch, hj, hu, happly⟩ :=
    MachineStateUpdate.run_appendUpdate_raises c.heap.ops (c.preprocessUpdate u) c.state
  all_goals obtain ⟨f', s', happly', hr⟩ | ⟨changes, s', happly', hr⟩ :=
    run_commitState_state env u c
  all_goals rw [happly] at happly'; cases happly'
  · exact .inl ⟨hch, f, _, hr, rfl⟩
  · exact .inr (.inl ⟨hch, hj, f, _, hr, rfl⟩)
  · exact .inr (.inr (.inl ⟨hch, hj, hu, f, _, units, hr, rfl⟩))
  · exact .inr (.inr (.inr ⟨⟨hch, hj, hu⟩, hr⟩))

/-- A commit that returns or raises. Before it, other parties may have used the scheduler and
allocated schedules; the state is the one the previous commit left. -/
def CommitStep (env : Environment Cron) (u : MachineStateUpdate) (c c' : MachineConnection Cron) :
    Prop :=
  ∃ c₁, SameState c c₁ ∧ ((∃ f, (commitState env u).run c₁ = .error f c') ∨
    ∃ raised, (commitState env u).run c₁ = .ok raised c')

/-- The connection that a commit leaves, whether it returns or raises. -/
def afterCommit (env : Environment Cron) (u : MachineStateUpdate) (c : MachineConnection Cron) :
    MachineConnection Cron :=
  match (commitState env u).run c with
  | .ok _ c' => c'
  | .error _ c' => c'

theorem commitStep_afterCommit (env : Environment Cron) (u : MachineStateUpdate)
    (c : MachineConnection Cron) : CommitStep env u c (afterCommit env u c) := by
  refine ⟨c, rfl, ?_⟩
  unfold afterCommit
  cases (commitState env u).run c with
  | ok raised c' => exact .inr ⟨raised, rfl⟩
  | error f c' => exact .inl ⟨f, rfl⟩

/-- **The state after a commit** that returns or raises. Only the scheduled prints depend on more
than the state before: on the contents of the schedules. -/
theorem commitStep_state_cases {env : Environment Cron} {u : MachineStateUpdate}
    {c c' : MachineConnection Cron} (h : CommitStep env u c c') :
    (u.RaisesInChanges c.state ∧ c'.state = c.state) ∨
    (¬ u.RaisesInChanges c.state ∧ u.RaisesInJob ∧ c'.state = u.applyIdentity c.state) ∨
    (¬ u.RaisesInChanges c.state ∧ ¬ u.RaisesInJob ∧ u.RaisesInUnits c.state ∧
      ∃ c₁ units, SameState c c₁ ∧ c'.state =
        ((c₁.preprocessUpdate u).applyUntilUnits c₁.heap.ops c₁.state).setMaterialUnits units) ∨
    (¬ u.RaisesInChanges c.state ∧ ¬ u.RaisesInJob ∧ ¬ u.RaisesInUnits c.state ∧
      ∃ c₁, SameState c c₁ ∧ c'.state = c₁.appliedState u) := by
  obtain ⟨c₁, hsame, hend⟩ := h
  rw [show c.state = c₁.state from hsame.symm]
  obtain ⟨hch, f, c₂, hrun, hstate⟩ | ⟨hch, hj, f, c₂, hrun, hstate⟩ |
    ⟨hch, hj, hu, f, c₂, units, hrun, hstate⟩ |
    ⟨⟨hch, hj, hu⟩, ⟨f, c₂, hrun, hstate⟩ | ⟨c₂, hrun, hstate⟩⟩ := commitState_state_cases env u c₁
  all_goals
    rw [hrun] at hend
    have hc₂ : c' = c₂ := by
      obtain ⟨f', hend⟩ | ⟨raised, hend⟩ := hend
      all_goals cases hend
      rfl
    rw [hc₂, hstate]
  · exact .inl ⟨hch, rfl⟩
  · exact .inr (.inl ⟨hch, hj, rfl⟩)
  · exact .inr (.inr (.inl ⟨hch, hj, hu, c₁, units, hsame, rfl⟩))
  · exact .inr (.inr (.inr ⟨hch, hj, hu, c₁, hsame, rfl⟩))
  · exact .inr (.inr (.inr ⟨hch, hj, hu, c₁, hsame, rfl⟩))

/-- An update that raises nowhere is applied. -/
theorem state_commitStep_of_harmless {env : Environment Cron} {u : MachineStateUpdate}
    {c c' : MachineConnection Cron} (h : CommitStep env u c c') (hu : u.Harmless) :
    ∃ c₁, SameState c c₁ ∧ c'.state = c₁.appliedState u := by
  obtain ⟨hch, -⟩ | ⟨-, hj, -⟩ | ⟨-, -, hun, -⟩ | ⟨-, -, -, happlied⟩ := commitStep_state_cases h
  · exact absurd hch (hu.not_raisesInChanges c.state)
  · exact absurd hj hu.not_raisesInJob
  · exact absurd hun (hu.not_raisesInUnits c.state)
  · exact happlied

/-- The status is written unless `Changes` raises. -/
theorem status_commitStep {env : Environment Cron} {u : MachineStateUpdate}
    {c c' : MachineConnection Cron} (h : CommitStep env u c c')
    (hch : ¬ u.RaisesInChanges c.state) : c'.state.status = u.status.apply c.state.status := by
  obtain ⟨hraises, -⟩ | ⟨-, -, hstate⟩ | ⟨-, -, -, c₁, units, hsame, hstate⟩ |
    ⟨-, -, -, c₁, hsame, hstate⟩ := commitStep_state_cases h
  · exact absurd hraises hch
  · rw [hstate]
    rfl
  · rw [hstate, show c.state = c₁.state from hsame.symm]
    rfl
  · rw [hstate, show c.state = c₁.state from hsame.symm]
    rfl

/-- The scheduling steps of a commit. -/
def steps (c : MachineConnection Cron) (u : MachineStateUpdate) : List SchedulingStep :=
  (c.preprocessUpdate u).schedulingSteps c.heap.ops

/-- The scheduling part of a commit raises. -/
def RaisesInScheduler (env : Environment Cron) (c : MachineConnection Cron)
    (u : MachineStateUpdate) : Prop :=
  (c.setScheduler (c.preprocessScheduler u)).StartsWithoutOccurrence env (c.steps u)

/-- The ways a commit can end. -/
inductive CommitOutcome (env : Environment Cron) (u : MachineStateUpdate)
    (c : MachineConnection Cron) :
    EStateM.Result Fault (MachineConnection Cron) (Option MachineStateChanges) → Prop
  | inChanges (f : Fault) (hchanges : (c.preprocessUpdate u).RaisesInChanges c.state) :
    CommitOutcome env u c (.error f (c.applied u c.state))
  | inJob (f : Fault) (hchanges : ¬ (c.preprocessUpdate u).RaisesInChanges c.state)
    (hjob : (c.preprocessUpdate u).RaisesInJob) :
    CommitOutcome env u c (.error f (c.applied u ((c.preprocessUpdate u).applyIdentity c.state)))
  | inUnits (f : Fault) (units : Dictionary String MUnit)
    (hchanges : ¬ (c.preprocessUpdate u).RaisesInChanges c.state)
    (hjob : ¬ (c.preprocessUpdate u).RaisesInJob)
    (hunits : (c.preprocessUpdate u).RaisesInUnits c.state)
    (hstill : ((c.preprocessUpdate u).applyUntilUnits c.heap.ops c.state).setMaterialUnits units =
      c.state ↔ (c.preprocessUpdate u).StillUntilUnits c.heap.ops c.state) :
    CommitOutcome env u c (.error f (c.applied u
      (((c.preprocessUpdate u).applyUntilUnits c.heap.ops c.state).setMaterialUnits units)))
  | inHistory (f : Fault) (happlies : c.Applies u)
    (hhistory : (c.preprocessUpdate u).RaisesInHistory c.state) :
    CommitOutcome env u c (.error f (c.applied u (c.appliedState u)))
  | inScheduler (f : Fault) (c' : MachineConnection Cron) (happlies : c.Applies u)
    (hhistory : ¬ (c.preprocessUpdate u).RaisesInHistory c.state)
    (hscheduler : c.RaisesInScheduler env u)
    (hrun : (forM (c.steps u) (perform env)).run (c.applied u (c.appliedState u)) = .error f c') :
    CommitOutcome env u c (.error f c')
  | returned (c' : MachineConnection Cron) (happlies : c.Applies u)
    (hhistory : ¬ (c.preprocessUpdate u).RaisesInHistory c.state)
    (hscheduler : ¬ c.RaisesInScheduler env u)
    (hrun : (forM (c.steps u) (perform env)).run (c.applied u (c.appliedState u)) = .ok () c') :
    CommitOutcome env u c
      (.ok (if (c.report u).hasChanged then some (c.report u) else none) c')

omit [DecidableEq Cron] [Hashable (HeatingSchedule Cron)] [Hashable (ScheduledPrint Cron)] in
/-- Preprocessing ends tasks and starts none. -/
theorem freshIDs_preprocess {c : MachineConnection Cron} (hc : c.FreshIDs)
    (u : MachineStateUpdate) : (c.setScheduler (c.preprocessScheduler u)).FreshIDs := by
  rw [preprocessScheduler_eq]
  exact hc.finishedAll _

/-- **Every commit ends in one of the ways listed.** -/
theorem commitOutcome (env : Environment Cron) (u : MachineStateUpdate)
    {c : MachineConnection Cron} (hc : c.FreshIDs) :
    CommitOutcome env u c ((commitState env u).run c) := by
  obtain ⟨hch, f, happly⟩ | ⟨hch, hj, f, happly⟩ | ⟨hch, hj, hu, f, units, happly, hstill⟩ |
    ⟨hch, hj, hu, happly⟩ :=
    MachineStateUpdate.run_appendUpdate_raises c.heap.ops (c.preprocessUpdate u) c.state
  all_goals obtain ⟨f', s', happly', hr⟩ | ⟨changes, s', happly', hr⟩ :=
    run_commitState_cases env u c
  all_goals rw [happly] at happly'; cases happly'
  · exact hr ▸ .inChanges f hch
  · exact hr ▸ .inJob f hch hj
  · exact hr ▸ .inUnits f units hch hj hu hstill
  · have happlies : c.Applies u := ⟨hch, hj, hu⟩
    obtain ⟨f, hhist, hr⟩ | ⟨u', hhist, hr⟩ := hr
    · exact hr ▸ .inHistory f happlies (appendHistory_eq_error_iff.mp ⟨f, hhist⟩)
    · have hhistory : ¬ (c.preprocessUpdate u).RaisesInHistory c.state := fun h => by
        obtain ⟨f, hf⟩ : ∃ f, appendHistory env.now (c.report u) (c.appliedState u)
          (c.preprocessUpdate u) = .error f := appendHistory_eq_error_iff.mpr h
        rw [show appendHistory env.now (c.report u) (c.appliedState u) (c.preprocessUpdate u) =
          .ok u' from hhist] at hf
        cases hf
      have hraises : (∃ f c', (forM (c.steps u) (perform env)).run
          (c.applied u (c.appliedState u)) = .error f c') ↔ c.RaisesInScheduler env u := by
        exact exists_run_steps_error_iff ((freshIDs_preprocess hc u).setState _)
      rw [updateSchedules_eq_forM env c.heap, schedulingSteps_of_appendHistory hhist] at hr
      obtain ⟨f, c', hrun, hr⟩ | ⟨c', hrun, hr⟩ := hr
      · exact hr ▸ .inScheduler f c' happlies hhistory (hraises.mp ⟨f, c', hrun⟩) hrun
      · refine hr ▸ .returned c' happlies hhistory (fun h => ?_) hrun
        obtain ⟨f, c'', hf⟩ := hraises.mpr h
        rw [show (forM (c.steps u) (perform env)).run (c.applied u (c.appliedState u)) =
          .ok () c' from hrun] at hf
        cases hf

end Outcome

end MachineConnection

end Connect3Dp
