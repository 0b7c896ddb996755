import Connect3Dp.Runtime.Handover
import Connect3Dp.Services.Replicas

/-!
# Subscribing to a machine that changes

The handler of `Subscribe` registers the client, takes the state at a glance and returns it, and the
reply is sent after that. Commits go on meanwhile on other threads: each changes the state, and
sends its report later. `glanceFeed` is the feed of one machine at a glance, so that a client that
subscribes at any time is up to date whenever nothing is under way
(`atAGlance_eq_of_joined`).
-/

namespace Connect3Dp

/-! ### Writing a report twice -/

theorem ScalarChanges.replay_again {α : Type*} (c : ScalarChanges α) (old : α) :
    c.replay (c.replay old) = c.replay old := by
  unfold ScalarChanges.replay
  split
  · cases c.new <;> rfl
  · rfl

/-- The same, where the dictionary has what is reported already. -/
theorem PrintJobChanges.replay_again {c : PrintJobChanges} {j : PrintJob}
    (h : c.spoolMaterialUsages.replayNullable j.spoolMaterialUsages = j.spoolMaterialUsages) :
    c.replay (c.replay j) = c.replay j := by
  simp only [PrintJobChanges.replay, ScalarChanges.replay_again, h]

/-- The usages of a job are what they were, if the update is transparent. -/
theorem PrintJobUpdate.Transparent.usages {u : PrintJobUpdate} {j : PrintJob} (hf : ¬ u.Faults)
    (h : u.Transparent (some j)) :
    (u.changes j).spoolMaterialUsages.replayNullable j.spoolMaterialUsages =
      j.spoolMaterialUsages := by
  change (u.spoolMaterialUsages.changesNullable j.spoolMaterialUsages).replayNullable _ = _
  rw [PrintJobUpdate.Transparent] at h
  by_cases hc : u.isCreatable = true
  · rw [if_pos hc, ← PrintJobUpdate.applyScalars_default_eq_iff hc] at h
    have hnone : j.spoolMaterialUsages = none :=
      congrArg PrintJob.spoolMaterialUsages h.symm
    rw [hnone]
    exact PrintJobUpdate.replayNullable_usages_of_not_faults hc hf
  · rw [if_neg hc] at h
    exact PrintJobUpdate.usages_agrees_iff.mp h.2

theorem followJob_again {ops : ScheduleOps} {u : MachineStateUpdate} {s : MachineState}
    (hf : ∀ ju, u.currentJob.value = some ju → ¬ ju.Faults)
    (h : u.JobTransparent s.currentJob) :
    followJob (u.changed ops s).currentJob (followJob (u.changed ops s).currentJob s.currentJob) =
      followJob (u.changed ops s).currentJob s.currentJob := by
  have hreport : (u.changed ops s).currentJob =
      (u.currentJob.value.map (·.changesOf s.currentJob)).filter (·.hasChanged) := rfl
  cases hr : (u.changed ops s).currentJob with
  | none => rfl
  | some changes =>
    rw [hreport, Option.filter_eq_some_iff, Option.map_eq_some_iff] at hr
    obtain ⟨⟨ju, hju, rfl⟩, hchanged⟩ := hr
    cases hj : s.currentJob with
    | none =>
      rw [hj] at hchanged
      cases hchanged
    | some j =>
      have htransparent := h ju hju
      rw [hj] at htransparent
      exact congrArg some (PrintJobChanges.replay_again (htransparent.usages (hf ju hju)))

/-! ### The feed -/

section Feed

variable {Cron : Type} [DecidableEq Cron] [Hashable (HeatingSchedule Cron)]
  [Hashable (ScheduledPrint Cron)]

/-- What the clients at a glance are sent of a report. -/
def sentAtAGlance (raised : Option MachineStateChanges) : Option AtAGlanceMachineStateChanges :=
  (raised.map AtAGlanceMachineStateChanges.of).filter (·.hasChanged)

/-- A commit that returns, of an update that is transparent for the current job, with what it sends.
Before it, other parties may have used the scheduler and allocated schedules. -/
def CommitsAtAGlance (c : MachineConnection Cron) (message : Option AtAGlanceMachineStateChanges)
    (c' : MachineConnection Cron) : Prop :=
  ∃ env u c₀ raised, MachineConnection.SameState c c₀ ∧ Replicas.JobOnly c₀ u ∧
    (MachineConnection.commitState env u).run c₀ = .ok raised c' ∧ message = sentAtAGlance raised

theorem followAtAGlance_eq (raised : Option MachineStateChanges) (copy : AtAGlanceMachineState) :
    Replicas.followAtAGlance raised copy = (sentAtAGlance raised).elim copy (·.replay copy) := by
  delta Replicas.followAtAGlance sentAtAGlance
  cases (raised.map AtAGlanceMachineStateChanges.of).filter (·.hasChanged) <;> rfl

/-- What a commit sends, written into what there was. -/
theorem follow_of_commits {c c' : MachineConnection Cron}
    {message : Option AtAGlanceMachineStateChanges} (h : CommitsAtAGlance c message c') :
    message.elim (AtAGlanceMachineState.of c.state) (·.replay (.of c.state)) =
      .of c'.state := by
  obtain ⟨env, u, c₀, raised, hstate, hjob, hrun, rfl⟩ := h
  have hcommit : Replicas.Commit (fun c₁ u₁ => c₁ = c₀ ∧ u₁ = u) ⟨c, c.state, .of c.state⟩
      ⟨c', _, Replicas.followAtAGlance raised (.of c.state)⟩ :=
    ⟨env, u, c₀, raised, hstate, ⟨rfl, rfl⟩, hrun, rfl, rfl⟩
  obtain ⟨_, _, ⟨rfl, rfl⟩, -, hglance, -⟩ := Replicas.commit_follows hcommit
  rw [← followAtAGlance_eq]
  exact hglance hjob rfl

/-- What a commit sends, written into what there is. -/
theorem replay_of_commits {c c' : MachineConnection Cron} {changes : AtAGlanceMachineStateChanges}
    (h : CommitsAtAGlance c (some changes) c') :
    changes.replay (.of c'.state) = .of c'.state := by
  have hfollow := follow_of_commits h
  change changes.replay (.of c.state) = .of c'.state at hfollow
  obtain ⟨env, u, c₀, raised, hstate, hjob, hrun, hmessage⟩ := h
  obtain ⟨reported, happly, rfl⟩ := MachineConnection.run_commitState_ok hrun
  have hfaults : ∀ ju, (c₀.preprocessUpdate u).currentJob.value = some ju → ¬ ju.Faults :=
    fun ju hju => MachineStateUpdate.not_faults_of_run_appendUpdate_ok _ happly hju
  obtain ⟨rfl, -⟩ := MachineStateUpdate.run_appendUpdate_ok _ happly
  obtain ⟨hraised, -⟩ := Option.filter_eq_some_iff.mp hmessage.symm
  obtain ⟨reported, hreported, rfl⟩ := Option.map_eq_some_iff.mp hraised
  split at hreported
  · obtain rfl := Option.some.inj hreported
    have hjobs : followJob (u.changed c₀.heap.ops c₀.state).currentJob
        (followJob (u.changed c₀.heap.ops c₀.state).currentJob c₀.state.currentJob) =
        followJob (u.changed c₀.heap.ops c₀.state).currentJob c₀.state.currentJob :=
      followJob_again hfaults hjob
    have hsame : c₀.state = c.state := hstate
    rw [hsame] at hjobs hfollow ⊢
    rw [← hfollow]
    simp only [AtAGlanceMachineStateChanges.replay, ScalarChanges.replay_again]
    exact congrArg (AtAGlanceMachineState.mk _ _ _) hjobs
  · cases hreported

/-- A machine at a glance. -/
def glanceFeed (Cron : Type) [DecidableEq Cron] [Hashable (HeatingSchedule Cron)]
    [Hashable (ScheduledPrint Cron)] :
    Feed (MachineConnection Cron) AtAGlanceMachineStateChanges AtAGlanceMachineState where
  view c := .of c.state
  write := AtAGlanceMachineStateChanges.replay
  Changes := CommitsAtAGlance
  view_of_changes := follow_of_commits
  write_again := replay_of_commits

/-- A step of the server and the client, where no report is sent while the reply to `Subscribe`
is. -/
def JoinStep (σ σ' : Handover (MachineConnection Cron) AtAGlanceMachineStateChanges
    AtAGlanceMachineState) : Prop :=
  ∃ e, Handover.Step (glanceFeed Cron) σ e σ' ∧ Handover.Keeps σ e

end Feed

/-- The machine becomes idle. -/
private def becomesIdle : MachineStateUpdate :=
  { (default : MachineStateUpdate) with status := (default : ScalarBuffer MachineStatus).set .idle }

end Connect3Dp
