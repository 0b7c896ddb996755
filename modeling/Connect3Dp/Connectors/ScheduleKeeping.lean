import Connect3Dp.Connectors.ScheduleCommits

/-!
# Commits that keep schedules and tasks together

A set of schedules stores each under the hash code it had when it was added, before its
`SchedulerID` was assigned, so what is stored is found again only if the two codes happen to
agree. A removal that does not find its schedule ends the task and leaves the schedule; a second
addition of a schedule that is not found stores it twice. A schedule without a next occurrence
gets a task but no identifier, and a unit that is removed takes its schedules along and leaves
their tasks.

`StartsSafely`, `EndsSafely` and `CommitsSafely` say when none of this happens, and then what a
commit leaves still `Tracks` its schedules.
-/

namespace Connect3Dp

/-! ### Buffers of schedules -/

section Buffers

variable {R α : Type} [DecidableEq α] [Hashable α] {value : R → α}

theorem removals_foldl_remove (vs : List R) :
    ((vs.foldl (SetBuffer.remove (.records value)) default).removals (.records value)) =
      ((HashSetOps.records value).unionWith ∅ vs).elems := by
  have hunion := SetBuffer.toRemove_foldl_remove (.records value)
    (default : SetBuffer (RecordHashSet R)) vs
  have hempty : (default : SetBuffer (RecordHashSet R)).toRemove.getD ∅ = ∅ := rfl
  rw [hempty] at hunion
  rw [← hunion, SetBuffer.removals]
  cases (vs.foldl (SetBuffer.remove (.records value)) default).toRemove <;> rfl

theorem toSet_foldl_remove (ops : HashSetOps (RecordHashSet R) R)
    (b : SetBuffer (RecordHashSet R)) (vs : List R) :
    (vs.foldl (SetBuffer.remove ops) b).toSet = b.toSet := by
  induction vs generalizing b with
  | nil => rfl
  | cons v vs ih => exact ih _

/-- A buffer of removals takes what it holds out of a set. -/
theorem apply_foldl_remove (vs : List R) (s : RecordHashSet R) :
    (vs.foldl (SetBuffer.remove (.records value)) default).apply (.records value) s =
      (HashSetOps.records value).exceptWith s
        ((HashSetOps.records value).unionWith ∅ vs).elems := by
  have hadditions : (vs.foldl (SetBuffer.remove (.records value)) default).additions
      (.records value) = [] := by
    rw [SetBuffer.additions, toSet_foldl_remove]
    rfl
  rw [SetBuffer.apply, hadditions, removals_foldl_remove, HashSetOps.unionWith_nil]

/-- Records with pairwise different contents are all in the buffer. -/
theorem mem_removals_foldl_remove_iff {vs : List R} {r : R}
    (hinj : ∀ r ∈ vs, ∀ r' ∈ vs, value r' = value r → r' = r) :
    r ∈ (vs.foldl (SetBuffer.remove (.records value)) default).removals (.records value) ↔
      r ∈ vs := by
  have hempty : r ∉ (∅ : RecordHashSet R).elems := List.not_mem_nil
  rw [removals_foldl_remove, HashSetOps.mem_elems_unionWith_iff]
  · exact or_iff_right hempty
  · rintro r hr r' (hr' | hr')
    · cases hr'
    · exact hinj r hr r' hr'

/-- A buffer with records of a set takes them out if the set finds them all. -/
theorem elems_apply_foldl_remove [DecidableEq R] {s : RecordHashSet R} {vs : List R}
    (hvs : ∀ r ∈ vs, r ∈ s.elems)
    (hfind : ∀ slot ∈ s.slots, slot.record ∈ vs → slot.hashCode = hash (value slot.record))
    (hinj : ∀ r ∈ s.elems, ∀ r' ∈ s.elems, value r' = value r → r' = r) :
    ((vs.foldl (SetBuffer.remove (.records value)) default).apply (.records value) s).elems =
      s.elems.diff ((vs.foldl (SetBuffer.remove (.records value)) default).removals
        (.records value)) := by
  have hmem : ∀ r, r ∈ ((HashSetOps.records value).unionWith ∅ vs).elems ↔ r ∈ vs := by
    intro r
    rw [← removals_foldl_remove]
    exact mem_removals_foldl_remove_iff fun r hr r' hr' => hinj r (hvs r hr) r' (hvs r' hr')
  rw [apply_foldl_remove, removals_foldl_remove]
  refine HashSetOps.elems_exceptWith_eq_diff (fun slot hslot hr => ?_) fun r' hr' r hr => ?_
  · exact hfind slot hslot ((hmem _).mp hr)
  · exact hinj r (hvs r ((hmem r).mp hr)) r' hr'

/-- Removing a record that is found takes out the one record with its contents. -/
theorem elems_remove_of_contains [DecidableEq R] {s : RecordHashSet R} {r : R}
    (hfound : s.contains value r = true)
    (hinj : ∀ r ∈ s.elems, ∀ r' ∈ s.elems, value r' = value r → r' = r) (hn : s.elems.Nodup) :
    ∃ r₀ ∈ s.elems, value r₀ = value r ∧ (s.remove value r).elems = s.elems.diff [r₀] := by
  obtain ⟨slot, hslot, hfinds⟩ := (RecordHashSet.contains_iff value).mp hfound
  obtain ⟨hhash, hvalue⟩ := (RecordHashSet.finds_iff value).mp hfinds
  have hstored : slot.record ∈ s.elems := List.mem_map_of_mem hslot
  refine ⟨slot.record, hstored, hvalue, ?_⟩
  have hslots : ∀ slot' ∈ s.slots, slot'.record = slot.record →
      slot'.hashCode = hash (value slot.record) := by
    intro slot' hslot' hrecord
    have hsame : slot' = slot := List.inj_on_of_nodup_map hn hslot' hslot hrecord
    rw [hsame, hhash, hvalue]
  rw [RecordHashSet.remove_congr value hvalue.symm, List.diff_cons, List.diff_nil]
  exact RecordHashSet.elems_remove_eq_erase value hslots fun r' hr' => hinj _ hstored r' hr'

end Buffers

namespace MachineConnection

variable {Cron : Type} [DecidableEq Cron] [Hashable (HeatingSchedule Cron)]
  [Hashable (ScheduledPrint Cron)] {env : Environment Cron} {c : MachineConnection Cron}

/-! ### Conditions -/

/-- A schedule to add is found already, or it needs a task and has a next occurrence. -/
def StartsSafely (env : Environment Cron) (c : MachineConnection Cron) (found : Bool)
    (r : ScheduleRef) : Prop :=
  found = true ∨
    (c.NeedsTask r ∧ ∃ next, env.getNextOccurrence (c.heap.timing r) = some next)

/-- A schedule to remove is found, or no schedule of the state has its identifier. -/
def EndsSafely (c : MachineConnection Cron) (found : Bool) (r : ScheduleRef) : Prop :=
  found = true ∨ ∀ a, c.state.Stores a → c.heap.schedulerID a.schedule ≠ c.heap.schedulerID r

/-- A commit without schedules of its own: the application returns up to the units if some print
is orphaned, the set finds the orphaned prints, and the units that are removed have no
schedules. -/
structure CommitsSafely (c : MachineConnection Cron) (u : MachineStateUpdate) : Prop where
  returns : c.orphans u ≠ [] → ¬ u.RaisesInChanges c.state ∧ ¬ u.RaisesInJob
  found : ∀ slot ∈ c.state.scheduledPrints.slots, slot.record ∈ c.orphans u →
    slot.hashCode = hash (c.heap.scheduledPrints slot.record)
  units : ¬ u.RaisesInChanges c.state → ¬ u.RaisesInJob → ¬ u.RaisesInUnits c.state →
    ∀ id ∈ u.materialUnits.removals, (c.state.heatingSchedules id).elems = []

/-! ### Equal contents -/

namespace Tracks

omit [DecidableEq Cron] [Hashable (HeatingSchedule Cron)] [Hashable (ScheduledPrint Cron)] in
/-- Stored prints with equal contents are the same object: they carry the same identifier. -/
theorem print_eq (h : c.Tracks) {r r' : ScheduledPrintRef}
    (hr : r ∈ c.state.scheduledPrints.elems) (hr' : r' ∈ c.state.scheduledPrints.elems)
    (hv : c.heap.scheduledPrints r' = c.heap.scheduledPrints r) : r' = r := by
  have heq : TaskAction.printLocal r' = .printLocal r :=
    h.injective hr' hr (congrArg ScheduledPrint.schedulerID hv)
  cases heq
  rfl

omit [DecidableEq Cron] [Hashable (HeatingSchedule Cron)] [Hashable (ScheduledPrint Cron)] in
theorem heating_eq (h : c.Tracks) {id : String} {r r' : HeatingScheduleRef}
    (hr : r ∈ (c.state.heatingSchedules id).elems)
    (hr' : r' ∈ (c.state.heatingSchedules id).elems)
    (hv : c.heap.heatingSchedules r' = c.heap.heatingSchedules r) : r' = r := by
  have heq : TaskAction.beginMUHeating (some id) r' = .beginMUHeating (some id) r :=
    h.injective hr' hr (congrArg HeatingSchedule.schedulerID hv)
  cases heq
  rfl

end Tracks

/-! ### Scheduled prints -/

omit [DecidableEq Cron] [Hashable (HeatingSchedule Cron)] [Hashable (ScheduledPrint Cron)] in
theorem finished_congr {r r' : ScheduleRef} (h : c.heap.schedulerID r = c.heap.schedulerID r') :
    c.finished r = c.finished r' := by
  rw [finished, finished, h]

omit [DecidableEq Cron] [Hashable (HeatingSchedule Cron)] [Hashable (ScheduledPrint Cron)] in
theorem finalState_forM_finish {rs : List ScheduleRef} :
    finalState ((forM (rs.map SchedulingStep.finish) (perform env)).run c) = c.finishedAll rs := by
  rw [run_forM_finish]
  rfl

/-- What a commit that removes one scheduled print leaves. -/
theorem afterCommit_removeScheduledPrint (env : Environment Cron) {u : MachineStateUpdate}
    (hu : (default : MachineStateUpdate).Extends u) (r : ScheduledPrintRef) :
    ∃ s', s'.scheduledPrints = c.state.scheduledPrints.remove c.heap.scheduledPrints r ∧
      (∀ id, s'.heatingSchedules id = c.state.heatingSchedules id) ∧
      afterCommit env (u.removeScheduledPrints c.heap.ops [r]) c =
        (c.finishedAll [.print r]).setState s' := by
  let v := u.removeScheduledPrints c.heap.ops [r]
  have hunits : (c.preprocessUpdate v).materialUnits = default := hu.materialUnits
  have hlight : v.Light := by
    refine ⟨hu.localJobs, ?_, hu.currentJob, fun id mu hmu => ?_⟩
    · have hstatus : v.status = default := hu.status
      rw [hstatus]
      rfl
    · have hdefault : v.materialUnits = default := hu.materialUnits
      rw [hdefault] at hmu
      cases hmu
  have hbuffer : (c.preprocessUpdate v).scheduledPrints =
      [r].foldl (SetBuffer.remove c.heap.ops.scheduledPrints) default := by
    have horphans : c.orphans v = [] := by
      rw [orphans, hlight.localJobs]
      rfl
    rw [preprocessUpdate, horphans]
    exact congrArg (SetBuffer.remove c.heap.ops.scheduledPrints · r) hu.scheduledPrints
  have hsteps : c.steps v = [ScheduleRef.print r].map SchedulingStep.finish := by
    rw [steps, MachineStateUpdate.schedulingSteps, MachineStateUpdate.printSteps, hbuffer, hunits]
    rfl
  refine ⟨c.appliedState v, ?_, fun id => ?_, ?_⟩
  · have happly : (c.appliedState v).scheduledPrints =
      (c.preprocessUpdate v).scheduledPrints.apply c.heap.ops.scheduledPrints
        c.state.scheduledPrints := rfl
    rw [happly, hbuffer]
    rfl
  · have happly : (c.appliedState v).materialUnits = (c.preprocessUpdate v).materialUnits.apply
      (MUnitUpdate.total c.heap.ops.heatingSchedules) c.state.materialUnits := rfl
    rw [MachineState.heatingSchedules, happly, hunits]
    rfl
  · rw [afterCommit_of_light env c hlight, hsteps, finalState_forM_finish, finishedAll_setState]

/-- **A commit that removes one scheduled print.** -/
theorem Tracks.removeScheduledPrint (h : c.Tracks) {u : MachineStateUpdate}
    (hu : (default : MachineStateUpdate).Extends u) {r : ScheduledPrintRef}
    (hends : c.EndsSafely (c.state.scheduledPrints.contains c.heap.scheduledPrints r)
      (.print r)) :
    (afterCommit env (u.removeScheduledPrints c.heap.ops [r]) c).Tracks := by
  obtain ⟨s', hprints, hheatings, hafter⟩ := afterCommit_removeScheduledPrint (c := c) env hu r
  have hkept : ∀ id, (s'.heatingSchedules id).elems = (c.state.heatingSchedules id).elems :=
    fun id => congrArg RecordHashSet.elems (hheatings id)
  rw [hafter]
  cases hfound : c.state.scheduledPrints.contains c.heap.scheduledPrints r with
  | true =>
    -- What is found has the contents of `r`, so ending the task of `r` ends its task.
    obtain ⟨r₀, hr₀, hvalue, helems⟩ := elems_remove_of_contains hfound
      (fun r hr r' hr' => h.print_eq hr hr') h.nodup_scheduledPrints
    have hsame : c.finishedAll [.print r] = c.finishedAll [.print r₀] :=
      finished_congr (congrArg ScheduledPrint.schedulerID hvalue.symm)
    rw [hsame]
    refine h.removedPrints [r₀] ?_ ?_ (hprints ▸ helems) hkept
    · simp [eq_comm]
    · simpa using hr₀
  | false =>
    have hother := hends.resolve_left (by rw [hfound]; exact Bool.false_ne_true)
    refine h.setState (fun r' hr' => ?_) ?_ hkept
    · rw [List.mem_singleton] at hr'
      exact hr' ▸ hother
    · rw [hprints, RecordHashSet.remove_eq_self _ hfound]

/-! ### Heating schedules -/

omit [DecidableEq Cron] [Hashable (HeatingSchedule Cron)] [Hashable (ScheduledPrint Cron)] in
theorem heatingSchedules_of_unit {s : MachineState} {id : String} {m : MUnit}
    (hm : s.materialUnits.tryGetValue id = some m) : s.heatingSchedules id = m.heatingSchedule := by
  rw [MachineState.heatingSchedules, hm]
  rfl

theorem foldl_removeHeatingSchedule (ops : HeatingScheduleOps) (vs : List HeatingScheduleRef)
    (mu : MUnitUpdate) :
    vs.foldl (fun mu r => mu.removeHeatingSchedule ops r) mu =
      { mu with heatingSchedule := vs.foldl (SetBuffer.remove ops) mu.heatingSchedule } := by
  induction vs generalizing mu with
  | nil => rfl
  | cons v vs ih => exact ih _

omit [DecidableEq Cron] [Hashable (HeatingSchedule Cron)] [Hashable (ScheduledPrint Cron)] in
/-- An update of one unit that leaves its trays alone is light. -/
theorem light_updateMaterialUnits {id : String} {configure : MUnitUpdate → MUnitUpdate}
    (h : (configure (MUnitUpdate.assertKey id default)).trays = default) :
    ((default : MachineStateUpdate).updateMaterialUnits id configure).Light := by
  refine ⟨rfl, rfl, rfl, fun id' mu hmu => ?_⟩
  have hlookup : ((default : MachineStateUpdate).updateMaterialUnits id
      configure).materialUnits.lookup id' =
        if id' = id then some (configure (MUnitUpdate.assertKey id default)) else none :=
    DictionaryBuffer.lookup_set _ _ _ _
  rw [hlookup] at hmu
  split at hmu
  · rw [← Option.some.inj hmu, h]
  · cases hmu

/-- What a commit that removes heating schedules of one unit leaves. -/
theorem afterCommit_removeHeatingSchedules (env : Environment Cron) {id : String} {m : MUnit}
    (hm : c.state.materialUnits.tryGetValue id = some m) (vs : List HeatingScheduleRef) :
    ∃ s', s'.scheduledPrints = c.state.scheduledPrints ∧
      (∀ id', s'.heatingSchedules id' = if id' = id then
        (vs.foldl (SetBuffer.remove (.records c.heap.heatingSchedules)) default).apply
          (.records c.heap.heatingSchedules) m.heatingSchedule
        else c.state.heatingSchedules id') ∧
      afterCommit env ((default : MachineStateUpdate).updateMaterialUnits id fun mu =>
          vs.foldl (fun mu r => mu.removeHeatingSchedule c.heap.ops.heatingSchedules r) mu) c =
        (c.finishedAll (((vs.foldl (SetBuffer.remove (.records c.heap.heatingSchedules))
          default).removals (.records c.heap.heatingSchedules)).map ScheduleRef.heating)).setState
            s' := by
  let ops : HeatingScheduleOps := c.heap.ops.heatingSchedules
  let configure : MUnitUpdate → MUnitUpdate := fun mu =>
    vs.foldl (fun mu r => mu.removeHeatingSchedule ops r) mu
  let v := (default : MachineStateUpdate).updateMaterialUnits id configure
  let fresh : MUnitUpdate := MUnitUpdate.assertKey id default
  have hconfigure : configure fresh = { fresh with
      heatingSchedule := vs.foldl (SetBuffer.remove ops) default } :=
    foldl_removeHeatingSchedule ops vs fresh
  have hlight : v.Light :=
    light_updateMaterialUnits (congrArg MUnitUpdate.trays hconfigure)
  have hentries : v.materialUnits.entries = [(id, configure fresh)] := rfl
  have hadditions : (configure fresh).heatingSchedule.additions ops = [] := by
    rw [hconfigure, SetBuffer.additions, toSet_foldl_remove]
    rfl
  -- the commit ends the tasks of what it removes, and starts none
  have hsteps : c.steps v = (((configure fresh).heatingSchedule.removals ops).map
      ScheduleRef.heating).map SchedulingStep.finish := by
    have hpre : (c.preprocessUpdate v).materialUnits.entries = [(id, configure fresh)] := hentries
    have hnone : (c.preprocessUpdate v).printSteps c.heap.ops = [] := rfl
    rw [steps, MachineStateUpdate.schedulingSteps, hpre, hnone, List.append_nil,
      List.flatMap_singleton, MUnitUpdate.schedulingSteps]
    rw [show (configure fresh).heatingSchedule.additions c.heap.ops.heatingSchedules = [] from
      hadditions, List.map_nil, List.nil_append, List.map_map]
    rfl
  have hbuffer : (configure fresh).heatingSchedule =
      vs.foldl (SetBuffer.remove (.records c.heap.heatingSchedules)) default := by
    rw [hconfigure]
    rfl
  refine ⟨c.appliedState v, rfl, fun id' => ?_, ?_⟩
  · rw [← hbuffer]
    exact MachineStateUpdate.heatingSchedules_apply_updateMaterialUnits hm configure id'
  · rw [← hbuffer]
    have hafter := afterCommit_of_light env c hlight
    rw [hsteps, finalState_forM_finish, finishedAll_setState] at hafter
    exact hafter

/-- **A commit that removes one heating schedule.** -/
theorem Tracks.removeHeatingSchedule (h : c.Tracks) {id : String} {m : MUnit}
    (hm : c.state.materialUnits.tryGetValue id = some m) {r : HeatingScheduleRef}
    (hends : c.EndsSafely (m.heatingSchedule.contains c.heap.heatingSchedules r) (.heating r)) :
    (afterCommit env ((default : MachineStateUpdate).updateMaterialUnits id
      (·.removeHeatingSchedule c.heap.ops.heatingSchedules r)) c).Tracks := by
  obtain ⟨s', hprints, hheatings, hafter⟩ := afterCommit_removeHeatingSchedules env hm [r]
  have hunit : c.state.heatingSchedules id = m.heatingSchedule := heatingSchedules_of_unit hm
  have hset : ∀ id', s'.heatingSchedules id' = if id' = id then
      m.heatingSchedule.remove c.heap.heatingSchedules r else c.state.heatingSchedules id' :=
    hheatings
  have hcommit : afterCommit env ((default : MachineStateUpdate).updateMaterialUnits id
      (·.removeHeatingSchedule c.heap.ops.heatingSchedules r)) c =
        (c.finishedAll [.heating r]).setState s' := hafter
  rw [hcommit]
  cases hfound : m.heatingSchedule.contains c.heap.heatingSchedules r with
  | true =>
    -- what is removed has the contents of `r` and so its task, though it may be another object
    obtain ⟨r₀, hr₀, hvalue, helems⟩ := elems_remove_of_contains hfound
      (fun r hr r' hr' => h.heating_eq (hunit ▸ hr) (hunit ▸ hr'))
      (hunit ▸ h.nodup_heatingSchedules id)
    have hsame : c.finishedAll [.heating r] = c.finishedAll [.heating r₀] :=
      finished_congr (congrArg HeatingSchedule.schedulerID hvalue.symm)
    rw [hsame]
    refine h.removedHeatings id [r₀] ?_ ?_ (congrArg RecordHashSet.elems hprints) fun id' => ?_
    · simp [eq_comm]
    · simpa [hunit] using hr₀
    · rw [hset]
      split
      · rename_i hid
        rw [helems, hid, hunit]
      · rfl
  | false =>
    have hother := hends.resolve_left (by rw [hfound]; exact Bool.false_ne_true)
    refine h.setState (fun r' hr' => ?_) (congrArg RecordHashSet.elems hprints) fun id' => ?_
    · rw [List.mem_singleton] at hr'
      exact hr' ▸ hother
    · rw [hset]
      split
      · rename_i hid
        rw [RecordHashSet.remove_eq_self _ hfound, hid, hunit]
      · rfl

/-- What it leaves where the tasks of all the schedules of the unit were ended before. -/
theorem afterCommit_removeAllHeatingSchedules (env : Environment Cron) {id : String} {m : MUnit}
    (hm : c.state.materialUnits.tryGetValue id = some m) :
    ∃ s', s'.scheduledPrints = c.state.scheduledPrints ∧
      (∀ id', s'.heatingSchedules id' = if id' = id then
        (m.heatingSchedule.elems.foldl (SetBuffer.remove (.records c.heap.heatingSchedules))
          default).apply (.records c.heap.heatingSchedules) m.heatingSchedule
        else c.state.heatingSchedules id') ∧
      afterCommit env ((default : MachineStateUpdate).updateMaterialUnits id fun mu =>
          m.heatingSchedule.elems.foldl
            (fun mu r => mu.removeHeatingSchedule c.heap.ops.heatingSchedules r) mu)
        (c.finishedAll (m.heatingSchedule.elems.map ScheduleRef.heating)) =
        (c.finishedAll ((m.heatingSchedule.elems ++ (m.heatingSchedule.elems.foldl
          (SetBuffer.remove (.records c.heap.heatingSchedules)) default).removals
            (.records c.heap.heatingSchedules)).map ScheduleRef.heating)).setState s' := by
  obtain ⟨-, hstate, hheap, -⟩ :=
    finishedAll_frame c (m.heatingSchedule.elems.map ScheduleRef.heating)
  have hm' : (c.finishedAll (m.heatingSchedule.elems.map
      ScheduleRef.heating)).state.materialUnits.tryGetValue id = some m := by rw [hstate, hm]
  obtain ⟨s', hprints, hheatings, hafter⟩ :=
    afterCommit_removeHeatingSchedules env hm' m.heatingSchedule.elems
  rw [hheap] at hheatings hafter
  rw [hstate] at hprints hheatings
  rw [← finishedAll_append, ← List.map_append] at hafter
  exact ⟨s', hprints, hheatings, hafter⟩

/-- **A cancellation of all the schedules of a unit.** Their tasks have been ended already. -/
theorem Tracks.removeAllHeatingSchedules (env : Environment Cron) (h : c.Tracks) {id : String}
    {m : MUnit}
    (hm : c.state.materialUnits.tryGetValue id = some m)
    (hfind : ∀ slot ∈ m.heatingSchedule.slots,
      slot.hashCode = hash (c.heap.heatingSchedules slot.record)) :
    (afterCommit env ((default : MachineStateUpdate).updateMaterialUnits id fun mu =>
        m.heatingSchedule.elems.foldl
          (fun mu r => mu.removeHeatingSchedule c.heap.ops.heatingSchedules r) mu)
      (c.finishedAll (m.heatingSchedule.elems.map ScheduleRef.heating))).Tracks := by
  have hunit : c.state.heatingSchedules id = m.heatingSchedule := heatingSchedules_of_unit hm
  have hinj : ∀ r ∈ m.heatingSchedule.elems, ∀ r' ∈ m.heatingSchedule.elems,
      c.heap.heatingSchedules r' = c.heap.heatingSchedules r → r' = r :=
    fun r hr r' hr' => h.heating_eq (hunit ▸ hr) (hunit ▸ hr')
  obtain ⟨s', hprints, hheatings, hafter⟩ := afterCommit_removeAllHeatingSchedules env hm
  have hmem : ∀ r, r ∈ (m.heatingSchedule.elems.foldl (SetBuffer.remove
      (.records c.heap.heatingSchedules)) default).removals (.records c.heap.heatingSchedules) ↔
        r ∈ m.heatingSchedule.elems := fun _ => mem_removals_foldl_remove_iff hinj
  have hdiff := elems_apply_foldl_remove (fun _ hr => hr) (fun slot hslot _ => hfind slot hslot)
    hinj
  -- what the buffer removes, as a list with the elements of the unit
  generalize (m.heatingSchedule.elems.foldl (SetBuffer.remove
    (.records c.heap.heatingSchedules)) default).removals (.records c.heap.heatingSchedules) =
      removed at hmem hdiff hafter
  rw [hafter]
  refine h.removedHeatings id removed (fun r => ?_) (fun r hr => ?_)
    (congrArg RecordHashSet.elems hprints) fun id' => ?_
  · rw [List.mem_map]
    simp only [List.mem_append, hmem, or_self]
  · exact hunit ▸ (hmem r).mp hr
  · rw [hheatings]
    split
    · rename_i hid
      rw [hdiff, hid, hunit]
    · rfl

/-! ### Additions -/

section Start

variable {a : TaskAction}

omit [DecidableEq Cron] [Hashable (HeatingSchedule Cron)] [Hashable (ScheduledPrint Cron)] in
theorem finalState_start_of_not_needsTask (h : ¬ c.NeedsTask a.schedule) :
    finalState ((forM [SchedulingStep.start a] (perform env)).run c) = c := by
  rw [List.forM_cons, run_bind_ok (run_start_of_not_needsTask h)]
  rfl

omit [DecidableEq Cron] [Hashable (HeatingSchedule Cron)] [Hashable (ScheduledPrint Cron)] in
theorem finalState_start_of_next {next : DateTimeOffset} (h : c.NeedsTask a.schedule)
    (hnext : env.getNextOccurrence (c.heap.timing a.schedule) = some next) :
    finalState ((forM [SchedulingStep.start a] (perform env)).run c) = c.started a next := by
  rw [List.forM_cons, run_bind_ok (run_start_of_next h hnext)]
  rfl

/-- A light commit that starts one schedule: it finds an equal one in the state and leaves the
sets as they are, or it puts the schedule in. -/
theorem Tracks.startOne (h : c.Tracks) {u : MachineStateUpdate} (hu : u.Light)
    (hsteps : c.steps u = [.start a]) {found : Bool} (hstarts : StartsSafely env c found a.schedule)
    (hfound : found = true → (∃ b, c.state.Stores b ∧
        c.heap.schedulerID b.schedule = c.heap.schedulerID a.schedule) ∧
      (c.appliedState u).scheduledPrints.elems = c.state.scheduledPrints.elems ∧
      ∀ id, ((c.appliedState u).heatingSchedules id).elems = (c.state.heatingSchedules id).elems)
    (hnew : found = false → ¬ c.state.Stores a →
      (∀ b, (c.appliedState u).Stores b ↔ c.state.Stores b ∨ b = a) ∧
      (c.appliedState u).scheduledPrints.elems.Nodup ∧
      ∀ id, ((c.appliedState u).heatingSchedules id).elems.Nodup) :
    (afterCommit env u c).Tracks := by
  rw [afterCommit_of_light env c hu, hsteps]
  cases found with
  | true =>
    obtain ⟨⟨b, hb, hid⟩, hprints, hheatings⟩ := hfound rfl
    have hneeds : ¬ (c.setState (c.appliedState u)).NeedsTask a.schedule := by
      have hsame : (c.setState (c.appliedState u)).NeedsTask a.schedule ↔
          c.NeedsTask b.schedule := by
        rw [NeedsTask, NeedsTask, hid]
        rfl
      rw [hsame]
      exact h.not_needsTask hb
    rw [finalState_start_of_not_needsTask hneeds]
    have hkept : ((c.finishedAll []).setState (c.appliedState u)).Tracks :=
      h.setState (fun _ hr => absurd hr List.not_mem_nil) hprints hheatings
    exact hkept
  | false =>
    obtain hfalse | ⟨hneeds, next, hnext⟩ := hstarts
    · cases hfalse
    · have hnot : ¬ c.state.Stores a := fun ha => h.not_needsTask ha hneeds
      obtain ⟨hstores, hprints, hheatings⟩ := hnew rfl hnot
      have hneeds' : (c.setState (c.appliedState u)).NeedsTask a.schedule := hneeds
      rw [finalState_start_of_next hneeds' hnext]
      exact h.started hneeds hstores hprints hheatings

end Start

omit [DecidableEq Cron] [Hashable (HeatingSchedule Cron)] [Hashable (ScheduledPrint Cron)] in
/-- A set that does not find a record gets it at the end. -/
theorem elems_add_of_not_contains {R α : Type} [DecidableEq α] [Hashable α] {value : R → α}
    {s : RecordHashSet R} {r : R} (h : s.contains value r = false) :
    (s.add value r).elems = s.elems ++ [r] := by
  rw [RecordHashSet.elems, RecordHashSet.slots_add_of_not_contains value h, List.map_append]
  rfl

/-- **A commit that adds a scheduled print.** -/
theorem Tracks.setScheduledPrint (h : c.Tracks) {r : ScheduledPrintRef}
    (hstarts : StartsSafely env c (c.state.scheduledPrints.contains c.heap.scheduledPrints r)
      (.print r)) :
    (afterCommit env
      ((default : MachineStateUpdate).setScheduledPrints c.heap.ops r) c).Tracks := by
  let v := (default : MachineStateUpdate).setScheduledPrints c.heap.ops r
  have hlight : v.Light := ⟨rfl, rfl, rfl, fun id mu hmu => by cases hmu⟩
  have hprints : (c.appliedState v).scheduledPrints =
      c.state.scheduledPrints.add c.heap.scheduledPrints r := rfl
  have hheatings : ∀ id, (c.appliedState v).heatingSchedules id = c.state.heatingSchedules id :=
    fun _ => rfl
  have hother : ∀ mmid hs, (c.appliedState v).Stores (.beginMUHeating mmid hs) ↔
      c.state.Stores (.beginMUHeating mmid hs) := by
    intro mmid hs
    cases mmid <;> exact Iff.rfl
  refine h.startOne hlight (a := .printLocal r) rfl hstarts (fun hfound => ⟨?_, ?_, ?_⟩)
    fun hnew hnot => ⟨fun b => ?_, ?_, fun id => ?_⟩
  · obtain ⟨r₀, hr₀, hvalue, -⟩ := elems_remove_of_contains hfound
      (fun r hr r' hr' => h.print_eq hr hr') h.nodup_scheduledPrints
    exact ⟨.printLocal r₀, hr₀, congrArg ScheduledPrint.schedulerID hvalue⟩
  · rw [hprints, RecordHashSet.add_eq_self _ hfound]
  · exact fun id => congrArg RecordHashSet.elems (hheatings id)
  · cases b with
    | beginMUHeating mmid hs => rw [hother]; exact (or_iff_left fun heq => by cases heq).symm
    | printLocal r' =>
      rw [MachineState.Stores, hprints, elems_add_of_not_contains hnew, List.mem_append,
        List.mem_singleton, TaskAction.printLocal.injEq]
      exact Iff.rfl
  · rw [hprints, elems_add_of_not_contains hnew]
    refine List.nodup_append.mpr ⟨h.nodup_scheduledPrints, List.nodup_singleton r, ?_⟩
    rintro r' hr' _ hr rfl
    rw [List.mem_singleton] at hr
    exact hnot (hr ▸ hr')
  · rw [hheatings]
    exact h.nodup_heatingSchedules id

/-- **A commit that adds a heating schedule to a unit.** -/
theorem Tracks.setHeatingSchedule (h : c.Tracks) {id : String} {m : MUnit}
    (hm : c.state.materialUnits.tryGetValue id = some m) {r : HeatingScheduleRef}
    (hstarts : StartsSafely env c (m.heatingSchedule.contains c.heap.heatingSchedules r)
      (.heating r)) :
    (afterCommit env ((default : MachineStateUpdate).updateMaterialUnits id
      (·.setHeatingSchedule c.heap.ops.heatingSchedules r)) c).Tracks := by
  let configure : MUnitUpdate → MUnitUpdate :=
    (·.setHeatingSchedule c.heap.ops.heatingSchedules r)
  let v := (default : MachineStateUpdate).updateMaterialUnits id configure
  have hunit : c.state.heatingSchedules id = m.heatingSchedule := heatingSchedules_of_unit hm
  have hlight : v.Light := light_updateMaterialUnits rfl
  have hprints : (c.appliedState v).scheduledPrints = c.state.scheduledPrints := rfl
  have hheatings : ∀ id', (c.appliedState v).heatingSchedules id' = if id' = id then
      m.heatingSchedule.add c.heap.heatingSchedules r else c.state.heatingSchedules id' :=
    MachineStateUpdate.heatingSchedules_apply_updateMaterialUnits hm configure
  -- an equal schedule is stored already, or `r` is stored and its task started
  refine h.startOne hlight (a := .beginMUHeating (some id) r) rfl hstarts
    (fun hfound => ⟨?_, ?_, fun id' => ?_⟩) fun hnew hnot => ⟨fun b => ?_, ?_, fun id' => ?_⟩
  · obtain ⟨r₀, hr₀, hvalue, -⟩ := elems_remove_of_contains hfound
      (fun r hr r' hr' => h.heating_eq (hunit ▸ hr) (hunit ▸ hr'))
      (hunit ▸ h.nodup_heatingSchedules id)
    have hb : c.state.Stores (.beginMUHeating (some id) r₀) := by
      rw [MachineState.Stores, hunit]
      exact hr₀
    exact ⟨_, hb, congrArg HeatingSchedule.schedulerID hvalue⟩
  · rw [hprints]
  · rw [hheatings]
    split
    · rename_i hid
      rw [RecordHashSet.add_eq_self _ hfound, hid, hunit]
    · rfl
  · cases b with
    | beginMUHeating mmid hs =>
      cases mmid with
      | none => exact ⟨False.elim, fun hb => hb.elim False.elim fun heq => by cases heq⟩
      | some id' =>
        rw [MachineState.Stores, hheatings, TaskAction.beginMUHeating.injEq, Option.some.injEq]
        by_cases hid : id' = id
        · rw [if_pos hid, elems_add_of_not_contains hnew, List.mem_append, List.mem_singleton,
            and_iff_right hid, ← hunit, hid]
          exact Iff.rfl
        · rw [if_neg hid]
          exact (or_iff_left fun hb => hid hb.1).symm
    | printLocal sp => exact (or_iff_left fun heq => by cases heq).symm
  · exact h.nodup_scheduledPrints
  · rw [hheatings]
    split
    · rw [elems_add_of_not_contains hnew]
      refine List.nodup_append.mpr ⟨hunit ▸ h.nodup_heatingSchedules id, List.nodup_singleton r, ?_⟩
      rintro r' hr' _ hr rfl
      rw [List.mem_singleton] at hr
      have hmem : r ∈ (c.state.heatingSchedules id).elems := by rw [hunit]; exact hr ▸ hr'
      exact hnot hmem
    · exact h.nodup_heatingSchedules id'

/-! ### Other commits -/

omit [DecidableEq Cron] [Hashable (HeatingSchedule Cron)] [Hashable (ScheduledPrint Cron)] in
theorem mem_elems_of_mem_orphans {u : MachineStateUpdate} {sp : ScheduledPrintRef}
    (h : sp ∈ c.orphans u) : sp ∈ c.state.scheduledPrints.elems := by
  obtain ⟨job, -, hsp⟩ := List.mem_flatMap.mp h
  exact (List.mem_filter.mp hsp).1

/-- The steps of a commit without schedules of its own end the orphaned prints. -/
theorem steps_of_carriesNoSchedules {u : MachineStateUpdate} (hu : u.CarriesNoSchedules) :
    c.steps u = ((((c.orphans u).foldl (SetBuffer.remove (.records c.heap.scheduledPrints))
      default).removals (.records c.heap.scheduledPrints)).map ScheduleRef.print).map
        SchedulingStep.finish := by
  have hunits : (c.preprocessUpdate u).materialUnits.entries.flatMap (fun kv =>
      kv.2.schedulingSteps c.heap.ops.heatingSchedules kv.1) = [] := by
    rw [List.flatMap_eq_nil_iff]
    rintro ⟨id, mu⟩ hmem
    have hdefault : mu.heatingSchedule = default :=
      hu.heatingSchedules id mu (DictionaryBuffer.mem_entries_iff.mp hmem)
    rw [MUnitUpdate.schedulingSteps, hdefault]
    rfl
  have hbuffer : (c.preprocessUpdate u).scheduledPrints =
      (c.orphans u).foldl (SetBuffer.remove c.heap.ops.scheduledPrints) default := by
    rw [← hu.scheduledPrints]
    rfl
  have hadditions : ((c.orphans u).foldl (SetBuffer.remove c.heap.ops.scheduledPrints)
      default).additions c.heap.ops.scheduledPrints = [] := by
    rw [SetBuffer.additions, toSet_foldl_remove]
    rfl
  rw [steps, MachineStateUpdate.schedulingSteps, hunits, List.nil_append,
    MachineStateUpdate.printSteps, hbuffer, hadditions, List.map_nil, List.nil_append, List.map_map]
  rfl

/-- Taking the orphaned prints out, whose tasks preprocessing has ended. -/
theorem Tracks.removeOrphans (h : c.Tracks) {u : MachineStateUpdate} (hu : u.CarriesNoSchedules)
    (hfound : ∀ slot ∈ c.state.scheduledPrints.slots, slot.record ∈ c.orphans u →
      slot.hashCode = hash (c.heap.scheduledPrints slot.record)) :
    ∃ removed : List ScheduledPrintRef,
      c.steps u = (removed.map ScheduleRef.print).map SchedulingStep.finish ∧
      (∀ r, r ∈ c.orphanRefs u ↔ r ∈ removed.map ScheduleRef.print) ∧
      ∀ {s' : MachineState} {rs : List ScheduleRef},
        s'.scheduledPrints = (c.preprocessUpdate u).scheduledPrints.apply
          c.heap.ops.scheduledPrints c.state.scheduledPrints →
        (∀ id, (s'.heatingSchedules id).elems = (c.state.heatingSchedules id).elems) →
        (∀ r, r ∈ rs ↔ r ∈ removed.map ScheduleRef.print) →
        ((c.finishedAll rs).setState s').Tracks := by
  have hinj : ∀ r ∈ c.state.scheduledPrints.elems, ∀ r' ∈ c.state.scheduledPrints.elems,
      c.heap.scheduledPrints r' = c.heap.scheduledPrints r → r' = r :=
    fun r hr r' hr' => h.print_eq hr hr'
  have hstored : ∀ sp ∈ c.orphans u, sp ∈ c.state.scheduledPrints.elems :=
    fun sp hsp => mem_elems_of_mem_orphans hsp
  have hmem : ∀ r, r ∈ ((c.orphans u).foldl (SetBuffer.remove
      (.records c.heap.scheduledPrints)) default).removals (.records c.heap.scheduledPrints) ↔
        r ∈ c.orphans u := fun _ =>
    mem_removals_foldl_remove_iff fun r hr r' hr' => hinj r (hstored r hr) r' (hstored r' hr')
  have hbuffer : ((c.preprocessUpdate u).scheduledPrints.apply c.heap.ops.scheduledPrints
      c.state.scheduledPrints) = ((c.orphans u).foldl (SetBuffer.remove
        (.records c.heap.scheduledPrints)) default).apply (.records c.heap.scheduledPrints)
          c.state.scheduledPrints := by
    rw [← hu.scheduledPrints]
    rfl
  refine ⟨_, steps_of_carriesNoSchedules hu, fun r => ?_, fun hprints hheatings hrs => ?_⟩
  · simp only [orphanRefs, List.mem_map, hmem]
  · refine h.removedPrints _ (fun r => (hrs r).trans List.mem_map)
      (fun sp hsp => hstored sp ((hmem sp).mp hsp)) ?_ hheatings
    rw [hprints, hbuffer, elems_apply_foldl_remove hstored hfound hinj]

/-- The units that stay keep their schedules, and those that go have none. -/
theorem CommitsSafely.elems_heatingSchedules {u : MachineStateUpdate} (hsafe : c.CommitsSafely u)
    (hu : u.CarriesNoSchedules) (happlies : c.Applies u) (id : String) :
    ((c.appliedState u).heatingSchedules id).elems = (c.state.heatingSchedules id).elems := by
  have happly : (c.appliedState u).heatingSchedules id =
      if id ∈ u.materialUnits.removals then ∅ else c.state.heatingSchedules id :=
    hu.heatingSchedules_apply id
  rw [happly]
  split
  · rename_i hid
    exact (hsafe.units happlies.changes happlies.job happlies.units id hid).symm
  · rfl

/-- **A commit without schedules of its own.** -/
theorem Tracks.commit (h : c.Tracks) {u : MachineStateUpdate} (hu : u.CarriesNoSchedules)
    (hsafe : c.CommitsSafely u) : (afterCommit env u c).Tracks := by
  obtain ⟨removed, hsteps, hrefs, hremoved⟩ := h.removeOrphans hu hsafe.found
  -- Nothing is orphaned if the application does not get to the scheduled prints.
  have hkept : ∀ s', (u.RaisesInChanges c.state ∨ u.RaisesInJob) →
      s'.scheduledPrints = c.state.scheduledPrints →
      s'.materialUnits = c.state.materialUnits → (c.applied u s').Tracks := by
    intro s' hraises hprints hunits
    have hnone : c.orphanRefs u = [] := by
      rw [orphanRefs, List.map_eq_nil_iff]
      by_contra horphans
      obtain ⟨hchanges, hjob⟩ := hsafe.returns horphans
      exact hraises.elim hchanges hjob
    rw [applied_eq, hnone]
    refine h.setState (fun _ hr => absurd hr List.not_mem_nil)
      (congrArg RecordHashSet.elems hprints) fun id => ?_
    rw [MachineState.heatingSchedules, hunits]
    rfl
  obtain ⟨hraises, hafter⟩ | ⟨hraises, hafter⟩ | ⟨f, units, hunits, hafter⟩ |
    ⟨happlies, -, hafter⟩ | ⟨happlies, hafter⟩ := afterCommit_cases env u c
  · exact hafter ▸ hkept _ (.inl hraises) rfl rfl
  · exact hafter ▸ hkept _ (.inr hraises) rfl rfl
  · rw [hafter, applied_eq]
    refine hremoved rfl (fun id => ?_) hrefs
    exact congrArg RecordHashSet.elems (hu.schedulesOf_of_error hunits id)
  · rw [hafter, applied_eq]
    exact hremoved rfl (hsafe.elems_heatingSchedules hu happlies) hrefs
  · -- The steps end the tasks of the orphaned prints a second time.
    rw [hafter, hsteps, finalState_forM_finish, applied_eq, finishedAll_setState,
      ← finishedAll_append]
    refine hremoved rfl (hsafe.elems_heatingSchedules hu happlies) fun r => ?_
    rw [List.mem_append, hrefs, or_self]

end MachineConnection

end Connect3Dp
