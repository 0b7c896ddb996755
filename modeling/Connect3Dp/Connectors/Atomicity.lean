import Connect3Dp.Connectors.Outcome
import Connect3Dp.State.Coverage

/-!
# Whether commits are atomic

A commit should either return and raise a report that flags all it changed, or raise an
exception and leave the state as it was (`MachineConnection.Atomic`). Nothing is rolled back, so
this depends on where the commit raises; and the report misses what a rebuild drops, so it
depends on the update when the commit returns. `MachineConnection.CommitsAtomically` is the
condition, case by case (`atomic_iff`).
-/

namespace Connect3Dp

namespace MachineStateUpdate

variable {ops : ScheduleOps} {u : MachineStateUpdate} {s : MachineState}

/-- A report that has nothing to report is the empty report. -/
theorem changed_eq_default (h : (u.changed ops s).hasChanged = false) :
    u.changed ops s = default := by
  simp only [MachineStateChanges.hasChanged, Bool.or_eq_false_iff, and_assoc] at h
  obtain ⟨h₁, h₂, h₃, h₄, h₅, h₆, h₇, h₈, h₉, h₁₀, h₁₁, h₁₂, h₁₃, h₁₄, h₁₅, h₁₆, h₁₇, h₁₈, h₁₉, h₂₀,
    h₂₁⟩ := h
  have hjob : (u.changed ops s).currentJob = none := by
    cases hj : (u.changed ops s).currentJob with
    | none => rfl
    | some j =>
      have hj' : j.hasChanged = true := (Option.filter_eq_some_iff.mp hj).2
      rw [hj, Option.any_some, hj'] at h₆
      cases h₆
  have h : u.changed ops s = ⟨default, default, default, default, default, none, default, default,
      default, default, default, default, default, default, default, default, default, default,
      default, default, default⟩ := by
    rw [MachineStateChanges.mk.injEq]
    exact ⟨ScalarChanges.eq_default_of_not_hasChanged h₁,
      ScalarChanges.eq_default_of_not_hasChanged h₂, ScalarChanges.eq_default_of_not_hasChanged h₃,
      ScalarChanges.eq_default_of_not_hasChanged h₄, ScalarChanges.eq_default_of_not_hasChanged h₅,
      hjob, SetChanges.eq_default_of_not_hasChanged h₇, SetChanges.eq_default_of_not_hasChanged h₈,
      SetChanges.eq_default_of_not_hasChanged h₉,
      DictionaryChanges.eq_default_of_not_hasChanged h₁₀,
      DictionaryChanges.eq_default_of_not_hasChanged h₁₁,
      DictionaryChanges.eq_default_of_not_hasChanged h₁₂,
      ScalarChanges.eq_default_of_not_hasChanged h₁₃,
      DictionaryChanges.eq_default_of_not_hasChanged h₁₄,
      DictionaryChanges.eq_default_of_not_hasChanged h₁₅,
      DictionaryChanges.eq_default_of_not_hasChanged h₁₆,
      ScalarChanges.eq_default_of_not_hasChanged h₁₇,
      ScalarChanges.eq_default_of_not_hasChanged h₁₈,
      ScalarChanges.eq_default_of_not_hasChanged h₁₉,
      DictionaryChanges.eq_default_of_not_hasChanged h₂₀,
      DictionaryChanges.eq_default_of_not_hasChanged h₂₁⟩
  exact h

/-- An application that returns did not raise in `TryCreate` of a job. -/
theorem not_faults_of_not_raisesInJob (h : ¬ u.RaisesInJob) :
    ∀ ju, u.currentJob.value = some ju → ¬ ju.Faults :=
  fun ju hju hf => h (.inr ⟨ju, hju, hf⟩)

/-- A history entry cannot be made without a change of the status. -/
theorem apply_ne_self_of_endsPrint (h : u.EndsPrint s) : u.apply ops s ≠ s := by
  intro heq
  have hstatus : u.status.apply s.status = s.status := congrArg MachineState.status heq
  obtain ⟨hs, hs' | hs'⟩ := endsPrint_iff_status.mp h
  all_goals rw [hstatus, hs] at hs'; cases hs'

end MachineStateUpdate

namespace MachineConnection

variable {Cron : Type} [DecidableEq Cron] [Hashable (HeatingSchedule Cron)]
  [Hashable (ScheduledPrint Cron)]

/-- What `OnChanges` tells its subscribers: nothing when it is not raised. -/
def told (raised : Option MachineStateChanges) : MachineStateChanges := raised.getD default

/-- A commit that returns has told about everything it changed; one that raises has changed
nothing. -/
def Atomic (env : Environment Cron) (u : MachineStateUpdate) (c : MachineConnection Cron) : Prop :=
  match (commitState env u).run c with
  | .ok raised c' => (told raised).Flags c.state c'.state
  | .error _ c' => c'.state = c.state

/-- When a commit is atomic. An exception in `Changes` is harmless; after that it must not raise,
unless everything written until then is what was there already; and when it returns, it must not
have dropped anything in a rebuild. -/
structure CommitsAtomically (env : Environment Cron) (u : MachineStateUpdate)
    (c : MachineConnection Cron) : Prop where
  job : ¬ (c.preprocessUpdate u).RaisesInChanges c.state → (c.preprocessUpdate u).RaisesInJob →
    (c.preprocessUpdate u).AgreesIdentity c.state
  units : ¬ (c.preprocessUpdate u).RaisesInChanges c.state → ¬ (c.preprocessUpdate u).RaisesInJob →
    (c.preprocessUpdate u).RaisesInUnits c.state →
    (c.preprocessUpdate u).StillUntilUnits c.heap.ops c.state
  history : c.Applies u → ¬ (c.preprocessUpdate u).RaisesInHistory c.state
  scheduler : c.Applies u → c.RaisesInScheduler env u →
    (c.preprocessUpdate u).Inert c.heap.ops c.state
  report : c.Applies u → ¬ c.RaisesInScheduler env u →
    (c.preprocessUpdate u).DropsNothing c.state

theorem told_report (c : MachineConnection Cron) (u : MachineStateUpdate) :
    told (if (c.report u).hasChanged then some (c.report u) else none) = c.report u := by
  split
  · rfl
  · rename_i h
    rw [Bool.not_eq_true] at h
    exact (MachineStateUpdate.changed_eq_default h).symm

theorem appliedState_eq_iff {c : MachineConnection Cron} {u : MachineStateUpdate} :
    c.appliedState u = c.state ↔ (c.preprocessUpdate u).Inert c.heap.ops c.state :=
  MachineStateUpdate.apply_eq_self_iff

/-- **When commits are atomic.** -/
theorem atomic_iff (env : Environment Cron) (u : MachineStateUpdate) (c : MachineConnection Cron)
    (hc : c.FreshIDs) : Atomic env u c ↔ CommitsAtomically env u c := by
  unfold Atomic
  have houtcome := commitOutcome env u hc
  generalize (commitState env u).run c = r at houtcome
  cases houtcome with
  | inChanges f hch =>
    refine iff_of_true rfl ⟨fun h => absurd hch h, fun h => absurd hch h, fun h => absurd hch h.1,
      fun h => absurd hch h.1, fun h => absurd hch h.1⟩
  | inJob f hch hj =>
    refine MachineStateUpdate.applyIdentity_eq_self_iff.trans ⟨fun h => ?_, fun h => h.job hch hj⟩
    exact ⟨fun _ _ => h, fun _ hn => absurd hj hn, fun h => absurd hj h.2, fun h => absurd hj h.2,
      fun h => absurd hj h.2⟩
  | inUnits f units hch hj hu hstill =>
    refine hstill.trans ⟨fun h => ?_, fun h => h.units hch hj hu⟩
    exact ⟨fun _ hn => absurd hn hj, fun _ _ _ => h, fun h => absurd hu h.3,
      fun h => absurd hu h.3, fun h => absurd hu h.3⟩
  | inHistory f happlies hhistory =>
    refine iff_of_false ?_ fun h => h.history happlies hhistory
    exact MachineStateUpdate.apply_ne_self_of_endsPrint hhistory.1
  | inScheduler f c' happlies hhistory hscheduler hrun =>
    have hstate : c'.state = c.appliedState u :=
      (sameState_steps env (c.steps u) (c.applied u (c.appliedState u))).2 f c' hrun
    change c'.state = c.state ↔ _
    rw [hstate, appliedState_eq_iff]
    refine ⟨fun h => ?_, fun h => h.scheduler happlies hscheduler⟩
    exact ⟨fun _ hj => absurd hj happlies.2, fun _ _ hu => absurd hu happlies.3,
      fun _ => hhistory, fun _ _ => h, fun _ hn => absurd hscheduler hn⟩
  | returned c' happlies hhistory hscheduler hrun =>
    have hstate : c'.state = c.appliedState u :=
      (sameState_steps env (c.steps u) (c.applied u (c.appliedState u))).1 () c' hrun
    change (told _).Flags c.state c'.state ↔ _
    rw [told_report, hstate]
    refine (MachineStateUpdate.flags_changed_iff c.heap
      (MachineStateUpdate.not_faults_of_not_raisesInJob happlies.2)).trans
        ⟨fun h => ?_, fun h => h.report happlies hscheduler⟩
    exact ⟨fun _ hj => absurd hj happlies.2, fun _ _ hu => absurd hu happlies.3,
      fun _ => hhistory, fun _ hs => absurd hs hscheduler, fun _ _ => h⟩

/-- A new connection. -/
private def unused : MachineConnection Unit := ⟨default, default, default, ⟨[], false, 0⟩⟩

private theorem unused_freshIDs : unused.FreshIDs :=
  .of_unused rfl fun r => by cases r <;> rfl

/-- `SetStatus(Idle).RemoveCurrentJob()`. -/
private def clearJob : MachineStateUpdate :=
  { (default : MachineStateUpdate) with
    status := (default : ScalarBuffer MachineStatus).set .idle
    currentJob := (default : NestedBuffer PrintJobUpdate).remove }

theorem atomic_iff_clearJob :
    unused.FreshIDs ∧ (Atomic ⟨default, fun _ => none⟩ clearJob unused ↔
      CommitsAtomically ⟨default, fun _ => none⟩ clearJob unused) :=
  ⟨unused_freshIDs, atomic_iff _ _ _ unused_freshIDs⟩

/-- A commit that sets the status and removes the job raises with the status written. -/
theorem atomic_fails :
    ¬ ∀ (u : MachineStateUpdate) (c : MachineConnection Unit), c.FreshIDs →
      Atomic ⟨default, fun _ => none⟩ u c := by
  intro hall
  have h : (unused.preprocessUpdate clearJob).applyIdentity default = default :=
    hall clearJob unused unused_freshIDs
  have hstatus := congrArg MachineState.status h
  cases hstatus

end MachineConnection

end Connect3Dp
