import Connect3Dp.Connectors.Creality
import Connect3Dp.Connectors.Elegoo
import Connect3Dp.Connectors.Outcome

/-!
# Scheduled prints whose file was deleted

`PreprocessState` ends and removes the scheduled prints of every local job that an update
removes. It should do so only when the file is gone after the commit (`OrphansLost`). But it
looks at the removals alone, and the file may stay: through another job, through a job that the
same update sets, or because the application raises before it gets to the local jobs
(`orphansLost_iff_removesWholeFiles`).

The connectors commit a file listing as the removal of every existing job and the setting of the
listed ones. So each refresh ends the tasks of the prints whose files are listed again
(`isLive_listing_iff`).
-/

namespace Connect3Dp

namespace MachineConnection

variable {Cron : Type}

/-- The file of a scheduled print. -/
def fileOf (c : MachineConnection Cron) (sp : ScheduledPrintRef) : MachineFileHandle :=
  (c.heap.scheduledPrints sp).localJob.file

theorem mem_orphans_iff {c : MachineConnection Cron} {u : MachineStateUpdate}
    {sp : ScheduledPrintRef} :
    sp ∈ c.orphans u ↔ sp ∈ c.state.scheduledPrints.elems ∧
      ∃ removed ∈ u.localJobs.removals (.values LocalPrintJob), c.fileOf sp = removed.file := by
  simp only [orphans, orphanedScheduledPrints, List.mem_flatMap, List.mem_filter,
    decide_eq_true_eq, fileOf]
  exact ⟨fun ⟨removed, hremoved, hsp, hfile⟩ => ⟨hsp, removed, hremoved, hfile⟩,
    fun ⟨hsp, removed, hremoved, hfile⟩ => ⟨removed, hremoved, hsp, hfile⟩⟩

/-! ### The rule -/

section Rule

variable [DecidableEq Cron] [Hashable (HeatingSchedule Cron)] [Hashable (ScheduledPrint Cron)]

/-- After the commit no local job has the file of a scheduled print that the rule ends. -/
def OrphansLost (env : Environment Cron) (u : MachineStateUpdate) (c : MachineConnection Cron) :
    Prop :=
  ∀ sp ∈ c.orphans u, ∀ job ∈ (afterCommit env u c).state.localJobs, job.file ≠ c.fileOf sp

/-- Whenever the update removes a job whose file is scheduled, no other job keeps the file: none
of those that stay, when the application does not get to the local jobs; and of those that exist
or are set, none that is not removed too, when it does. -/
structure RemovesWholeFiles (u : MachineStateUpdate) (c : MachineConnection Cron) : Prop where
  stopped : u.RaisesInChanges c.state ∨ u.RaisesInJob →
    ∀ removed ∈ u.localJobs.removals (.values LocalPrintJob),
      ∀ sp ∈ c.state.scheduledPrints.elems, c.fileOf sp = removed.file →
        ∀ job ∈ c.state.localJobs, job.file ≠ removed.file
  reached : ¬ u.RaisesInChanges c.state → ¬ u.RaisesInJob →
    ∀ removed ∈ u.localJobs.removals (.values LocalPrintJob),
      ∀ sp ∈ c.state.scheduledPrints.elems, c.fileOf sp = removed.file →
        ∀ job, job ∈ c.state.localJobs ∨ job ∈ u.localJobs.additions (.values LocalPrintJob) →
          job.file = removed.file → job ∈ u.localJobs.removals (.values LocalPrintJob)

/-- The local jobs after a commit: applied, unless it raises before it gets to them. -/
theorem localJobs_afterCommit (env : Environment Cron) (u : MachineStateUpdate)
    (c : MachineConnection Cron) :
    (u.RaisesInChanges c.state ∨ u.RaisesInJob →
      (afterCommit env u c).state.localJobs = c.state.localJobs) ∧
    (¬ u.RaisesInChanges c.state → ¬ u.RaisesInJob →
      (afterCommit env u c).state.localJobs =
        u.localJobs.apply (.values LocalPrintJob) c.state.localJobs) := by
  unfold afterCommit
  obtain ⟨hch, f, c', hrun, hstate⟩ | ⟨hch, hj, f, c', hrun, hstate⟩ |
    ⟨hch, hj, hu, f, c', units, hrun, hstate⟩ |
    ⟨⟨hch, hj, -⟩, ⟨f, c', hrun, hstate⟩ | ⟨c', hrun, hstate⟩⟩ := commitState_state_cases env u c
  all_goals rw [hrun]; dsimp only; rw [hstate]
  · exact ⟨fun _ => rfl, fun hn => absurd hch hn⟩
  · exact ⟨fun _ => rfl, fun _ hn => absurd hj hn⟩
  all_goals exact ⟨fun h => absurd h (not_or.mpr ⟨hch, hj⟩), fun _ _ => rfl⟩

/-- **When the rule ends only prints whose file is gone.** -/
theorem orphansLost_iff_removesWholeFiles (env : Environment Cron) (u : MachineStateUpdate)
    (c : MachineConnection Cron) : OrphansLost env u c ↔ RemovesWholeFiles u c := by
  unfold OrphansLost
  by_cases hstop : u.RaisesInChanges c.state ∨ u.RaisesInJob
  · rw [(localJobs_afterCommit env u c).1 hstop]
    constructor
    · intro h
      refine ⟨fun _ removed hremoved sp hsp hfile job hjob hsame => ?_, fun hch hj => ?_⟩
      · exact h sp (mem_orphans_iff.mpr ⟨hsp, removed, hremoved, hfile⟩) job hjob
          (hsame.trans hfile.symm)
      · exact absurd hstop (not_or.mpr ⟨hch, hj⟩)
    · intro h sp hsp job hjob hsame
      obtain ⟨hsp, removed, hremoved, hfile⟩ := mem_orphans_iff.mp hsp
      exact h.stopped hstop removed hremoved sp hsp hfile job hjob (hsame.trans hfile)
  · obtain ⟨hch, hj⟩ := not_or.mp hstop
    have hmem : ∀ job, job ∈ (afterCommit env u c).state.localJobs ↔
        (job ∈ c.state.localJobs ∨ job ∈ u.localJobs.additions (.values LocalPrintJob)) ∧
          job ∉ u.localJobs.removals (.values LocalPrintJob) := by
      intro job
      rw [(localJobs_afterCommit env u c).2 hch hj, SetBuffer.apply, HashSetOps.mem_exceptWith,
        HashSetOps.mem_unionWith]
    simp only [hmem]
    constructor
    · intro h
      refine ⟨fun hs => absurd hs hstop, fun _ _ removed hremoved sp hsp hfile job hjob hsame => ?_⟩
      by_contra hkept
      exact h sp (mem_orphans_iff.mpr ⟨hsp, removed, hremoved, hfile⟩) job ⟨hjob, hkept⟩
        (hsame.trans hfile.symm)
    · intro h sp hsp job hjob hsame
      obtain ⟨hsp, removed, hremoved, hfile⟩ := mem_orphans_iff.mp hsp
      exact hjob.2 (h.reached hch hj removed hremoved sp hsp hfile job hjob.1 (hsame.trans hfile))

end Rule

/-! ### Tasks -/

/-- The scheduler has a task under the identifier. -/
def IsLive (sch : CronScheduler Cron) (id : Guid) : Prop := ∃ t ∈ sch.tasks, t.id = id

theorem isLive_finishedAll_iff {c : MachineConnection Cron} (hc : c.FreshIDs)
    (rs : List ScheduleRef) {id : Guid} :
    IsLive (c.finishedAll rs).scheduler id ↔
      IsLive c.scheduler id ∧ ∀ r ∈ rs, c.heap.schedulerID r ≠ some id := by
  simp only [IsLive, mem_tasks_finishedAll hc]
  constructor
  · rintro ⟨t, ⟨ht, hne⟩, rfl⟩
    exact ⟨⟨t, ht, rfl⟩, hne⟩
  · rintro ⟨⟨t, ht, rfl⟩, hne⟩
    exact ⟨t, ⟨ht, hne⟩, rfl⟩

/-- Preprocessing ends the tasks of the orphaned prints. -/
theorem isLive_preprocessScheduler_iff {c : MachineConnection Cron} (hc : c.FreshIDs)
    {u : MachineStateUpdate} {id : Guid} :
    IsLive (c.preprocessScheduler u) id ↔ IsLive c.scheduler id ∧
      ∀ sp ∈ c.orphans u, (c.heap.scheduledPrints sp).schedulerID ≠ some id := by
  have hends : c.preprocessScheduler u =
      (c.finishedAll ((c.orphans u).map ScheduleRef.print)).scheduler :=
    congrArg MachineConnection.scheduler (preprocessScheduler_eq c u)
  rw [hends, isLive_finishedAll_iff hc, List.forall_mem_map]
  exact Iff.rfl

/-- Ending tasks that are not live changes nothing. -/
theorem isLive_finish_steps {env : Environment Cron} {steps : List SchedulingStep} {id : Guid}
    {c c' : MachineConnection Cron} (hc : c.FreshIDs)
    (hsteps : ∀ step ∈ steps, ∃ r, step = .finish r ∧
      (IsLive c.scheduler id → c.heap.schedulerID r ≠ some id))
    (hrun : (forM steps (perform env)).run c = .ok () c') :
    IsLive c'.scheduler id ↔ IsLive c.scheduler id := by
  induction steps generalizing c with
  | nil =>
    cases hrun
    exact Iff.rfl
  | cons step steps ih =>
    obtain ⟨⟨r, rfl, hr⟩, hrest⟩ := List.forall_mem_cons.mp hsteps
    have hfinished : IsLive (c.finished r).scheduler id ↔ IsLive c.scheduler id := by
      refine (isLive_finishedAll_iff hc [r]).trans (and_iff_left_of_imp fun hlive => ?_)
      exact List.forall_mem_singleton.mpr (hr hlive)
    rw [List.forM_cons, run_bind_ok run_finish] at hrun
    rw [ih (hc.finished r) ?_ hrun, hfinished]
    intro step hstep
    obtain ⟨r', rfl, hr'⟩ := hrest step hstep
    exact ⟨r', rfl, fun hlive => hr' (hfinished.mp hlive)⟩

section Listing

variable [DecidableEq Cron] [Hashable (HeatingSchedule Cron)] [Hashable (ScheduledPrint Cron)]
  {env : Environment Cron} {u : MachineStateUpdate} {c : MachineConnection Cron}

/-- An update that leaves units and scheduled prints alone only ends orphaned prints. -/
theorem finish_of_mem_steps (hu : u.Quiet) {step : SchedulingStep} (h : step ∈ c.steps u) :
    ∃ sp ∈ c.orphans u, step = .finish (.print sp) := by
  have hremovals : ∀ (prints : List ScheduledPrintRef)
      (b : SetBuffer (RecordHashSet ScheduledPrintRef)) (sp : ScheduledPrintRef),
      sp ∈ (prints.foldl (SetBuffer.remove c.heap.ops.scheduledPrints) b).removals
        c.heap.ops.scheduledPrints → sp ∈ b.removals c.heap.ops.scheduledPrints ∨ sp ∈ prints := by
    intro prints
    induction prints with
    | nil => exact fun _ _ h => .inl h
    | cons print prints ih =>
      intro b sp h
      rcases ih _ sp h with h | h
      · rcases RecordHashSet.mem_elems_add _ h with h | rfl
        · refine .inl ?_
          cases hb : b.toRemove with
          | none => rw [hb] at h; cases h
          | some s => rw [hb] at h; rwa [SetBuffer.removals, hb]
        · exact .inr List.mem_cons_self
      · exact .inr (List.mem_cons_of_mem _ h)
  have hunits : (c.preprocessUpdate u).materialUnits = u.materialUnits := rfl
  have hprints : (c.preprocessUpdate u).scheduledPrints =
      (c.orphans u).foldl (SetBuffer.remove c.heap.ops.scheduledPrints) u.scheduledPrints := rfl
  have hadditions : (c.preprocessUpdate u).scheduledPrints.additions
      c.heap.ops.scheduledPrints = [] := by
    have hset : ∀ (prints : List ScheduledPrintRef)
        (b : SetBuffer (RecordHashSet ScheduledPrintRef)),
        (prints.foldl (SetBuffer.remove c.heap.ops.scheduledPrints) b).toSet = b.toSet := by
      intro prints
      induction prints with
      | nil => exact fun _ => rfl
      | cons print prints ih => exact fun b => ih _
    rw [SetBuffer.additions, hprints, hset, hu.scheduledPrints]
    rfl
  rw [steps, MachineStateUpdate.schedulingSteps, hunits, hu.materialUnits,
    MachineStateUpdate.printSteps, hadditions, hprints, hu.scheduledPrints] at h
  obtain ⟨sp, hsp, rfl⟩ := List.mem_map.mp h
  rcases hremovals _ _ sp hsp with h | h
  · cases h
  · exact ⟨sp, h, rfl⟩

/-- **The tasks after a commit that leaves units and scheduled prints alone** are those of no
orphaned print. -/
theorem isLive_afterCommit_iff (hc : c.FreshIDs) (hu : u.Quiet) {id : Guid} :
    IsLive (afterCommit env u c).scheduler id ↔ IsLive c.scheduler id ∧
      ∀ sp ∈ c.orphans u, (c.heap.scheduledPrints sp).schedulerID ≠ some id := by
  rw [← isLive_preprocessScheduler_iff hc]
  unfold afterCommit
  have houtcome := commitOutcome env u hc
  generalize (commitState env u).run c = r at houtcome ⊢
  cases houtcome with
  | inChanges f hch => exact Iff.rfl
  | inJob f hch hj => exact Iff.rfl
  | inUnits f units hch hj hunits hstill => exact Iff.rfl
  | inHistory f happlies hhistory => exact Iff.rfl
  | inScheduler f c' happlies hhistory hscheduler hrun =>
    obtain ⟨pre, action, post, heq, -⟩ := hscheduler
    obtain ⟨sp, -, h⟩ := finish_of_mem_steps (c := c) hu
      (heq ▸ List.mem_append_right pre List.mem_cons_self)
    cases h
  | returned c' happlies hhistory hscheduler hrun =>
    have hfresh : (c.applied u (c.appliedState u)).FreshIDs :=
      (freshIDs_preprocess hc u).setState _
    refine isLive_finish_steps hfresh (fun step hstep => ?_) hrun
    obtain ⟨sp, hsp, rfl⟩ := finish_of_mem_steps hu hstep
    exact ⟨_, rfl, fun hlive => (isLive_preprocessScheduler_iff hc).mp hlive |>.2 sp hsp⟩

/-- The update of a file listing: of an ELEGOO response, or of a Creality message that completes
one. -/
inductive Listing (s : MachineState) (u : MachineStateUpdate) : Prop
  | elegoo (host : Host) (data : JsonElement) (fields fields' : Elegoo.Fields)
    (h : (Elegoo.handleFileListResponse host s data).run fields = .ok (some u) fields')
  | creality (host : Host) (root : JsonElement) (fields fields' : Creality.Fields)
    (h : (Creality.onWebSocketMessage host s root).run fields = .ok (some u) fields')
    (hlists : u.localJobs ≠ default)

omit [DecidableEq Cron] [Hashable (HeatingSchedule Cron)] [Hashable (ScheduledPrint Cron)] in
theorem Listing.relists {s : MachineState} (h : Listing s u) : u.Relists s := by
  cases h with
  | elegoo host data fields fields' h =>
    exact Elegoo.handleFileListResponse_relists fields _ fields' h u rfl
  | creality host root fields fields' h hlists =>
    obtain ⟨state, -, htracks⟩ := Creality.onWebSocketMessage_tracks fields _ fields' h u rfl
    exact ⟨htracks.quiet, htracks.listing.resolve_left hlists⟩

/-- **A listing keeps a task** just when no print with the task's identifier has the file of a
job that was there before. -/
theorem isLive_listing_iff (hc : c.FreshIDs) (hu : Listing c.state u) {id : Guid} :
    IsLive (afterCommit env u c).scheduler id ↔ IsLive c.scheduler id ∧
      ∀ sp ∈ c.state.scheduledPrints.elems, (c.heap.scheduledPrints sp).schedulerID = some id →
        ∀ job ∈ c.state.localJobs, c.fileOf sp ≠ job.file := by
  rw [isLive_afterCommit_iff hc hu.relists.quiet]
  refine and_congr_right fun _ => ?_
  simp only [mem_orphans_iff, hu.relists.mem_removals]
  constructor
  · exact fun h sp hsp hid job hjob hfile => h sp ⟨hsp, job, hjob, hfile⟩ hid
  · rintro h sp ⟨hsp, job, hjob, hfile⟩ hid
    exact h sp hsp hid job hjob hfile

/-- **When the orphan rule keeps its promise**: for any commit, and for the listings of the
connectors. -/
theorem orphanRule_iff (env : Environment Cron) (u : MachineStateUpdate)
    (c : MachineConnection Cron) (hc : c.FreshIDs) :
    (OrphansLost env u c ↔ RemovesWholeFiles u c) ∧
      (Listing c.state u → ∀ sp ∈ c.state.scheduledPrints.elems,
        (∃ job ∈ u.localJobs.additions (.values LocalPrintJob), job.file = c.fileOf sp) →
        ∀ id, (c.heap.scheduledPrints sp).schedulerID = some id → IsLive c.scheduler id →
          (IsLive (afterCommit env u c).scheduler id ↔
            ∀ sp' ∈ c.state.scheduledPrints.elems,
              (c.heap.scheduledPrints sp').schedulerID = some id →
                ∀ job ∈ c.state.localJobs, c.fileOf sp' ≠ job.file)) := by
  refine ⟨orphansLost_iff_removesWholeFiles env u c, fun hu sp _ _ id _ hlive => ?_⟩
  rw [isLive_listing_iff hc hu]
  exact and_iff_right hlive

end Listing

/-- A job in the file `cube.gcode`. -/
private def cubeJob (address : ℕ) : LocalPrintJob :=
  { (default : LocalPrintJob) with
    file := ⟨some "printer", some "/local/cube.gcode", some "application/gcode", some ""⟩
    materialsToPrint := ⟨address, ∅⟩ }

/-- A machine with the job, which is scheduled to be printed. -/
private def withSchedule : MachineConnection Unit where
  self := default
  state := { (default : MachineState) with
    localJobs := (∅ : HashSet LocalPrintJob).add (cubeJob 0)
    scheduledPrints := ⟨[⟨default, 0⟩]⟩ }
  heap := {
    heatingSchedules := fun _ => ⟨(), default, none⟩
    scheduledPrints := fun _ => ⟨(), cubeJob 0, default, default, some 0⟩ }
  scheduler := ⟨[⟨0, (), none, default, .printLocal default⟩], false, 1⟩

private theorem withSchedule_freshIDs : withSchedule.FreshIDs where
  nodup := List.nodup_singleton 0
  lt_of_mem t ht := by
    cases List.mem_singleton.mp ht
    exact Nat.zero_lt_one
  lt_of_schedulerID r id h := by
    cases r with
    | heating r => cases h
    | print r =>
      cases h
      exact Nat.zero_lt_one

/-- A refresh that lists the file again. -/
private def refresh : MachineStateUpdate := Elegoo.fileListUpdate withSchedule.state [cubeJob 1]

theorem orphanRule_iff_refresh :
    OrphansLost ⟨default, fun _ => none⟩ refresh withSchedule ↔
      RemovesWholeFiles refresh withSchedule :=
  (orphanRule_iff ⟨default, fun _ => none⟩ refresh withSchedule withSchedule_freshIDs).1

/-- The refresh ends the print. -/
theorem orphanRule_fails :
    ¬ ∀ (u : MachineStateUpdate) (c : MachineConnection Unit), c.FreshIDs →
      OrphansLost ⟨default, fun _ => none⟩ u c := by
  intro hall
  have hlost := hall refresh withSchedule withSchedule_freshIDs
  refine hlost default ?_ (cubeJob 1) ?_ rfl
  · exact mem_orphans_iff.mpr ⟨List.mem_singleton_self _, cubeJob 0, List.mem_singleton_self _, rfl⟩
  · exact List.mem_singleton_self _

end MachineConnection

end Connect3Dp
