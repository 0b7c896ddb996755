import Connect3Dp.Connectors.Outcome
import Connect3Dp.Runtime.Transition
import Connect3Dp.State.Reapply

/-!
# Runs of commits

A run is a list of commits. Between two of them the other parties do what they like as long as they
leave the state alone, which only commits write. A commit that raises is a commit of the run too:
what it had written by then stays.
-/

namespace Connect3Dp

namespace MachineConnection

/-- One commit of a run: the update, what the commit finds outside of the connection, and what the
other parties did to the scheduler and the schedules since the commit before. -/
structure Commit (Cron : Type) where
  update : MachineStateUpdate
  env : Environment Cron
  others : MachineConnection Cron → MachineConnection Cron
  sameState : ∀ c, SameState c (others c)

/-- Nothing happened since the commit before. -/
def Commit.alone {Cron : Type} (env : Environment Cron) (update : MachineStateUpdate) :
    Commit Cron :=
  ⟨update, env, id, fun _ => rfl⟩

variable {Cron : Type} [DecidableEq Cron] [Hashable (HeatingSchedule Cron)]
  [Hashable (ScheduledPrint Cron)] {c c' : MachineConnection Cron} {k : Commit Cron}

/-- The connection that a commit of a run leaves. -/
def commit (c : MachineConnection Cron) (k : Commit Cron) : MachineConnection Cron :=
  afterCommit k.env k.update (k.others c)

theorem commitStep_run (c : MachineConnection Cron) (k : Commit Cron) :
    CommitStep k.env k.update c (c.commit k) := by
  obtain ⟨c₁, hsame, hend⟩ := commitStep_afterCommit k.env k.update (k.others c)
  exact ⟨c₁, Eq.trans hsame (k.sameState c), hend⟩

/-- Every step that a commit can take is one that a run can take. -/
theorem exists_commit {env : Environment Cron} {u : MachineStateUpdate}
    (h : CommitStep env u c c') : ∃ k : Commit Cron, k.update = u ∧ c.commit k = c' := by
  obtain ⟨c₁, hsame, hend⟩ := h
  have hothers : ∀ x : MachineConnection Cron,
      SameState x (if x.state = c.state then c₁ else x) := by
    intro x
    split
    · rename_i hx
      exact Eq.trans hsame hx.symm
    · rfl
  refine ⟨⟨u, env, _, hothers⟩, rfl, ?_⟩
  change afterCommit env u (if c.state = c.state then c₁ else c) = c'
  rw [if_pos rfl, afterCommit]
  obtain ⟨f, hend⟩ | ⟨raised, hend⟩ := hend
  all_goals rw [hend]

/-- The state that a commit leaves is the state that the application of its update leaves, after it
returned or raised. -/
theorem state_commit (c : MachineConnection Cron) (k : Commit Cron) :
    ∃ c₁, SameState c c₁ ∧ (c.commit k).state =
      finalState (((c₁.preprocessUpdate k.update).appendUpdate c₁.heap.ops).run c₁.state) := by
  refine ⟨k.others c, k.sameState c, ?_⟩
  obtain ⟨f, s', happly, hr⟩ | ⟨changes, s', happly, ⟨f, c', hr, hs⟩ | ⟨c', hr, hs⟩⟩ :=
    run_commitState_state k.env k.update (k.others c)
  all_goals rw [commit, afterCommit, hr, happly, finalState]
  · rfl
  · exact hs
  · exact hs

/-- **A repeated update broadcasts nothing** once it has settled: its commit, if it has nothing to
preprocess, leaves the state as it is. -/
theorem commitState_of_settles {env : Environment Cron} {u : MachineStateUpdate} {s : MachineState}
    {changes : MachineStateChanges} {raised : Option MachineStateChanges}
    (happlied : (u.appendUpdate c.heap.ops).run s = .ok changes c.state)
    (hsettles : u.Settles c.heap s) (hpre : c.preprocessUpdate u = u)
    (h : (commitState env u).run c = .ok raised c') : raised = none ∧ SameState c c' := by
  obtain ⟨changes', hrun, hraised⟩ := run_commitState_ok h
  obtain ⟨changes'', hagain, hquiet⟩ := MachineStateUpdate.appendUpdate_again happlied hsettles
  rw [hpre, hagain, EStateM.Result.ok.injEq] at hrun
  obtain ⟨rfl, hstate⟩ := hrun
  rw [hquiet, if_neg Bool.false_ne_true] at hraised
  exact ⟨hraised, hstate.symm⟩

/-- The connection after a run. -/
def run (c : MachineConnection Cron) (commits : List (Commit Cron)) : MachineConnection Cron :=
  commits.foldl commit c

@[simp]
theorem run_nil (c : MachineConnection Cron) : c.run [] = c := rfl

@[simp]
theorem run_concat (c : MachineConnection Cron) (commits : List (Commit Cron)) (k : Commit Cron) :
    c.run (commits ++ [k]) = (c.run commits).commit k := by
  rw [run, List.foldl_append]
  rfl

end MachineConnection

end Connect3Dp
