import Connect3Dp.Connectors.CommitRuns
import Connect3Dp.State.Keys

/-!
# Keys and entries in a run

Preprocessing adds removals of notifications and of scheduled prints, so the keys after a commit are
decided by the update that was handed in (`keysAgree_commit_iff`). Along a run they agree with their
entries just as long as no update sets the number of an extruder, a nozzle or a tray to something
other than its key (`keysAgree_run_iff`). Units need no such condition (`unitIDs_run`).
-/

namespace Connect3Dp

namespace MachineConnection

variable {Cron : Type} [DecidableEq Cron] [Hashable (HeatingSchedule Cron)]
  [Hashable (ScheduledPrint Cron)] {c : MachineConnection Cron} {k : Commit Cron}

theorem keepsKeys_preprocessUpdate_iff {u : MachineStateUpdate} {s : MachineState} :
    (c.preprocessUpdate u).KeepsKeys s ↔ u.KeepsKeys s := by
  have hdevices : (c.preprocessUpdate u).DevicesAgree s ↔ u.DevicesAgree s :=
    ⟨fun h => ⟨h.extruders, h.nozzles⟩, fun h => ⟨h.extruders, h.nozzles⟩⟩
  constructor
  · intro h
    exact ⟨fun hch hj => hdevices.mp (h.devices hch hj), h.units, h.untilRaise⟩
  · intro h
    exact ⟨fun hch hj => hdevices.mpr (h.devices hch hj), h.units, h.untilRaise⟩

/-- **A commit keeps the keys just when its update does.** -/
theorem keysAgree_commit_iff (hc : c.state.KeysAgree) :
    (c.commit k).state.KeysAgree ↔ k.update.KeepsKeys c.state := by
  obtain ⟨c₁, hsame, hstate⟩ := c.state_commit k
  have hc₁ : c₁.state.KeysAgree := by rwa [show c₁.state = c.state from hsame]
  rw [hstate, MachineStateUpdate.keysAgree_appendUpdate_iff hc₁, keepsKeys_preprocessUpdate_iff,
    show c₁.state = c.state from hsame]

theorem keysAgree_run_iff (hc : c.state.KeysAgree) (commits : List (Commit Cron)) :
    (∀ past, past <+: commits → (c.run past).state.KeysAgree) ↔
      ∀ past k, past ++ [k] <+: commits → k.update.KeepsKeys (c.run past).state := by
  refine forall_prefix_iff (P := fun past => (c.run past).state.KeysAgree) hc ?_ commits
  intro past k hpast
  rw [run_concat]
  exact keysAgree_commit_iff hpast

/-- The identifier of a unit is the key it is stored under, in every run. -/
theorem unitIDs_run (hc : ∀ id m, c.state.materialUnits.tryGetValue id = some m → m.id = some id)
    (commits : List (Commit Cron)) {id : String} {m : MUnit}
    (hm : (c.run commits).state.materialUnits.tryGetValue id = some m) : m.id = some id := by
  induction commits using List.reverseRecOn generalizing id m with
  | nil => exact hc id m hm
  | append_singleton past k ih =>
    obtain ⟨c₁, hsame, hstate⟩ := (c.run past).state_commit k
    rw [run_concat, hstate] at hm
    refine MachineStateUpdate.unitIDs_appendUpdate (fun id m hm => ih ?_) hm
    rwa [show c₁.state = (c.run past).state from hsame] at hm

/-- A machine that nothing is known of. -/
private def unknown : MachineConnection Unit := ⟨default, default, default, ⟨[], false, 0⟩⟩

private def anEnvironment : Environment Unit := ⟨default, fun _ => none⟩

/-- An extruder is described under the key `0`, with the given number. -/
private def describe (number : Int32) : Commit Unit :=
  .alone anEnvironment ((default : MachineStateUpdate).updateExtruders 0 fun e =>
    { e.setNumber number with
      heatingConstraint := e.heatingConstraint.set default
      tempC := e.tempC.set default })

private theorem describe_keepsKeys {s : MachineState} : (describe 0).update.KeepsKeys s := by
  have hunits : ∀ id, (describe 0).update.materialUnits.lookup id = none := fun _ => rfl
  refine ⟨fun _ _ => ⟨fun k u hu _ _ => ?_, fun _ _ h => by cases h⟩,
    fun _ _ _ id mu hmu => ?_, fun _ _ ⟨id, mu, _, hmu, _⟩ => ?_⟩
  · have hlookup := DictionaryBuffer.lookup_update (default : DictionaryBuffer Int32 _) 0 k
      (MachineExtruderUpdate.setNumber 0 default) fun e => { e.setNumber 0 with
        heatingConstraint := e.heatingConstraint.set default
        tempC := e.tempC.set default }
    replace hlookup := hu.symm.trans hlookup
    split at hlookup
    · rename_i hk
      cases hlookup
      exact fun _ => hk.symm
    · cases hlookup
  · rw [hunits] at hmu
    cases hmu
  · rw [hunits] at hmu
    cases hmu

/-- The number that is not set to anything else is the key. -/
theorem keysAgree_run_iff_sameNumber :
    (unknown.run [describe 0]).state.extruders.containsKey 0 = true ∧
      ∀ past, past <+: [describe 0] → (unknown.run past).state.KeysAgree := by
  refine ⟨by decide, ?_⟩
  refine (keysAgree_run_iff MachineState.keysAgree_default [describe 0]).mpr ?_
  intro past k hpast
  have hk : k = describe 0 := by
    have := hpast.subset (List.mem_append_right past (List.mem_singleton.mpr rfl))
    exact List.mem_singleton.mp this
  rw [hk]
  exact describe_keepsKeys

/-- A number that is set to something else is kept. -/
theorem keysAgree_fails :
    ¬ ∀ (c : MachineConnection Unit) (commits : List (Commit Unit)), c.state = default →
      (c.run commits).state.KeysAgree := by
  intro hall
  have hextruder := (hall unknown [describe 1] rfl).extruders 0
  have hnumber : ((unknown.run [describe 1]).state.extruders.tryGetValue 0).map
      MachineExtruder.number = some 1 := by decide
  obtain ⟨e, he, h1⟩ := Option.map_eq_some_iff.mp hnumber
  rw [hextruder e he] at h1
  cases h1

end MachineConnection

end Connect3Dp
