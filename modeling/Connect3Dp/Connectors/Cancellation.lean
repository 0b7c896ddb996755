import Connect3Dp.Connectors.ScheduleRuns

/-!
# Canceled schedules

A cancellation removes a schedule from its set and ends its task, whatever else the state and the
scheduler hold. The set looks the schedule up under the hash code it has now, and was given it
before its `SchedulerID` was assigned. The scheduler goes by the `SchedulerID` alone, and a schedule
that is stored twice has one.

`cancels_iff` says which cancellations do what they are for, in any state that operations and
callers can lead to. A print that is scheduled once and then canceled is not among them
(`cancels_fails`).
-/

namespace Connect3Dp

namespace MachineConnection

variable {Cron : Type} {c c' : MachineConnection Cron}

/-! ### What a cancellation does -/

/-- None of the canceled schedules is stored, none of those that were has a task, and the other
schedules and their tasks are as before. -/
structure Cancels (c c' : MachineConnection Cron) (canceled : TaskAction → Prop) : Prop where
  gone : ∀ a, canceled a → ¬ c'.state.Stores a
  ended : ∀ a, canceled a → c.state.Stores a → ∀ t ∈ c'.scheduler.tasks,
    c.heap.schedulerID a.schedule ≠ some t.id
  kept : ∀ a, ¬ canceled a → (c'.state.Stores a ↔ c.state.Stores a)
  keptTasks : ∀ a, ¬ canceled a → c.state.Stores a → ∀ t,
    c.heap.schedulerID a.schedule = some t.id → (t ∈ c'.scheduler.tasks ↔ t ∈ c.scheduler.tasks)
  heap : c'.heap = c.heap

/-- No canceled schedule shares its task with another one. -/
def EndsAlone (c : MachineConnection Cron) (canceled : TaskAction → Prop) : Prop :=
  ∀ a b, canceled a → c.state.Stores a → ¬ canceled b → c.state.Stores b →
    ∀ t ∈ c.scheduler.tasks, c.heap.schedulerID a.schedule = some t.id →
      c.heap.schedulerID b.schedule ≠ some t.id

/-- The heating schedules of a unit that are equal to a schedule. -/
def EqualHeating (c : MachineConnection Cron) (unitID : String) (r : HeatingScheduleRef) :
    TaskAction → Prop
  | .beginMUHeating mmid r' =>
    mmid = some unitID ∧ c.heap.heatingSchedules r' = c.heap.heatingSchedules r
  | .printLocal _ => False

/-- The heating schedules of a unit. -/
def AnyHeating (unitID : String) : TaskAction → Prop
  | .beginMUHeating mmid _ => mmid = some unitID
  | .printLocal _ => False

/-- The scheduled prints that are equal to a print. -/
def EqualPrint (c : MachineConnection Cron) (r : ScheduledPrintRef) : TaskAction → Prop
  | .beginMUHeating _ _ => False
  | .printLocal r' => c.heap.scheduledPrints r' = c.heap.scheduledPrints r

/-- What ends just the tasks of the canceled schedules, and stores the others, has canceled them if
it stores none of them and none shares its task. -/
theorem cancels_iff_of_ends {canceled : TaskAction → Prop} (hheap : c'.heap = c.heap)
    (hkept : ∀ a, ¬ canceled a → (c'.state.Stores a ↔ c.state.Stores a))
    (htasks : ∀ t, t ∈ c'.scheduler.tasks ↔ t ∈ c.scheduler.tasks ∧
      ∀ a, canceled a → c.state.Stores a → c.heap.schedulerID a.schedule ≠ some t.id) :
    Cancels c c' canceled ↔ (∀ a, canceled a → ¬ c'.state.Stores a) ∧ c.EndsAlone canceled := by
  constructor
  · refine fun h => ⟨h.gone, fun a b ha hastored hb hbstored t ht hat hbt => ?_⟩
    have hafter : t ∈ c'.scheduler.tasks := (h.keptTasks b hb hbstored t hbt).mpr ht
    exact h.ended a ha hastored t hafter hat
  · rintro ⟨hgone, halone⟩
    refine ⟨hgone, fun a ha hastored t ht => ((htasks t).mp ht).2 a ha hastored, hkept, ?_, hheap⟩
    intro b hb hbstored t hbt
    refine ⟨fun ht => ((htasks t).mp ht).1, fun ht => (htasks t).mpr ⟨ht, ?_⟩⟩
    exact fun a ha hastored hat => halone a b ha hastored hb hbstored t ht hat hbt

/-- What ends the tasks of the canceled schedules, and then has another state. -/
theorem cancels_finishedAll_iff (h : c.FreshIDs) {canceled : TaskAction → Prop}
    {rs : List ScheduleRef} {s' : MachineState}
    (hrs : ∀ id, (∃ r ∈ rs, c.heap.schedulerID r = some id) ↔
      ∃ a, canceled a ∧ c.state.Stores a ∧ c.heap.schedulerID a.schedule = some id)
    (hkept : ∀ a, ¬ canceled a → (s'.Stores a ↔ c.state.Stores a)) :
    Cancels c ((c.finishedAll rs).setState s') canceled ↔
      (∀ a, canceled a → ¬ s'.Stores a) ∧ c.EndsAlone canceled := by
  refine cancels_iff_of_ends (finishedAll_frame c rs).2.2.1 hkept fun t => ?_
  refine (mem_tasks_finishedAll h).trans (and_congr_right fun _ => ?_)
  have hends : (∀ r ∈ rs, c.heap.schedulerID r ≠ some t.id) ↔
      ¬ ∃ r ∈ rs, c.heap.schedulerID r = some t.id := by simp
  rw [hends, hrs]
  simp

namespace ScheduledTasks

/-! ### Reachable states -/

/-- What callers and other machines do between two commits: they allocate and change schedules and
use the scheduler, but no machine's state. -/
structure LeavesState (c c' : MachineConnection Cron) : Prop where
  self : c'.self = c.self
  state : c'.state = c.state
  freshIDs : c'.FreshIDs

variable [DecidableEq Cron] [Hashable (HeatingSchedule Cron)] [Hashable (ScheduledPrint Cron)]

/-- A step of any run. -/
inductive AnyStep (c : MachineConnection Cron) : MachineConnection Cron → Prop
  | operation (env : Environment Cron) (op : Operation) : AnyStep c (op.after env c)
  | others (c' : MachineConnection Cron) (h : LeavesState c c') : AnyStep c c'

variable {env : Environment Cron}

/-- However a commit ends, the identifiers stay fresh. -/
theorem freshIDs_afterCommit (h : c.FreshIDs) (env : Environment Cron) (u : MachineStateUpdate) :
    (afterCommit env u c).FreshIDs := by
  have happlied : ∀ s, (c.applied u s).FreshIDs := fun s => by
    rw [applied_eq]
    exact FreshIDs.setState (h.finishedAll _) s
  obtain ⟨-, hafter⟩ | ⟨-, hafter⟩ | ⟨f, units, -, hafter⟩ | ⟨-, -, hafter⟩ | ⟨-, hafter⟩ :=
    afterCommit_cases env u c
  · exact hafter ▸ happlied _
  · exact hafter ▸ happlied _
  · exact hafter ▸ happlied _
  · exact hafter ▸ happlied _
  · exact hafter ▸ (happlied _).steps _

theorem freshIDs_after (h : c.FreshIDs) (env : Environment Cron) (op : Operation) :
    (op.after env c).FreshIDs := by
  obtain hafter | ⟨rs, u, hcommits⟩ := op.after_cases env c
  · rwa [hafter]
  · rw [hcommits.after_eq env]
    exact freshIDs_afterCommit (h.finishedAll rs) env u

theorem freshIDs_of_reachable (h : Reachable Initial AnyStep c) : c.FreshIDs := by
  refine h.induct (fun _ h₀ => h₀.freshIDs) fun c₁ c₂ _ h₁ hstep => ?_
  cases hstep with
  | operation env op => exact freshIDs_after h₁ env op
  | others _ hothers => exact hothers.freshIDs

/-! ### What a cancellation leaves -/

theorem after_cancelScheduledMUHeating (env : Environment Cron) {id : String}
    {r : HeatingScheduleRef} (hr : r ∈ (c.state.heatingSchedules id).elems) :
    ∃ s', (Operation.cancelScheduledMUHeating (some id) r).after env c =
        (c.finishedAll [.heating r]).setState s' ∧
      s'.scheduledPrints = c.state.scheduledPrints ∧
      ∀ id', s'.heatingSchedules id' = if id' = id then
        (c.state.heatingSchedules id).remove c.heap.heatingSchedules r
        else c.state.heatingSchedules id' := by
  cases hm : c.state.materialUnits.tryGetValue id with
  | none =>
    rw [MachineState.heatingSchedules, hm] at hr
    cases hr
  | some m =>
    obtain ⟨s', hprints, hheatings, hafter⟩ := afterCommit_removeHeatingSchedules env hm [r]
    have hcommits : (Operation.cancelScheduledMUHeating (some id) r).Commits c [] _ :=
      .cancelScheduledMUHeating hm
    refine ⟨s', (hcommits.after_eq env).trans hafter, hprints, fun id' => ?_⟩
    rw [hheatings, heatingSchedules_of_unit hm]
    rfl

/-- The tasks of all schedules of the unit are ended, and the buffer removes the schedules. -/
theorem after_cancelAllScheduledMUHeating (c : MachineConnection Cron) (env : Environment Cron)
    (id : String) :
    ∃ s' rs, (Operation.cancelAllScheduledMUHeating (some id)).after env c =
        (c.finishedAll rs).setState s' ∧
      (∀ r, r ∈ rs ↔ ∃ hs ∈ (c.state.heatingSchedules id).elems, .heating hs = r) ∧
      s'.scheduledPrints = c.state.scheduledPrints ∧
      ∀ id', s'.heatingSchedules id' = if id' = id then
        (HashSetOps.records c.heap.heatingSchedules).exceptWith (c.state.heatingSchedules id)
          ((HashSetOps.records c.heap.heatingSchedules).unionWith ∅
            (c.state.heatingSchedules id).elems).elems
        else c.state.heatingSchedules id' := by
  cases hm : c.state.materialUnits.tryGetValue id with
  | none =>
    have hnone : ∀ body, finalState ((withUnit (some id) body).run c) = c := by
      refine (unit_or_finalState_withUnit c (some id)).resolve_left ?_
      rintro ⟨id', m, hid, hm'⟩
      cases hid
      cases hm.symm.trans hm'
    have hempty : c.state.heatingSchedules id = ∅ := by
      rw [MachineState.heatingSchedules, hm]
      rfl
    refine ⟨c.state, [], (finalState_discard _).trans (hnone _), fun r => ?_, rfl, fun id' => ?_⟩
    · simp [hempty]
    · split
      · rename_i hid
        rw [hid, hempty]
        rfl
      · rfl
  | some m =>
    have hcommits : (Operation.cancelAllScheduledMUHeating (some id)).Commits c _ _ :=
      .cancelAllScheduledMUHeating hm
    rw [hcommits.after_eq env, heatingSchedules_of_unit hm]
    cases helems : m.heatingSchedule.elems with
    | nil =>
      -- nothing is removed, and the commit changes nothing
      have hlight : (default : MachineStateUpdate).Light :=
        ⟨rfl, rfl, rfl, fun id mu hmu => by cases hmu⟩
      refine ⟨c.appliedState default, [], afterCommit_of_light env c hlight, ?_, rfl,
        fun id' => ?_⟩
      · simp
      · have happly : (c.appliedState default).heatingSchedules id' =
            c.state.heatingSchedules id' := carriesNoSchedules_default.heatingSchedules_apply id'
        rw [happly]
        split
        · rename_i hid
          rw [hid, heatingSchedules_of_unit hm]
          rfl
        · rfl
    | cons r rs =>
      obtain ⟨s', hprints, hheatings, hafter⟩ := afterCommit_removeAllHeatingSchedules env hm
      rw [apply_foldl_remove] at hheatings
      rw [removals_foldl_remove] at hafter
      rw [helems] at hheatings hafter
      rw [List.foldl_cons, foldl_updateMaterialUnits id
        (fun mu r => mu.removeHeatingSchedule c.heap.ops.heatingSchedules r)]
      refine ⟨s', _, hafter, fun r' => ?_, hprints, hheatings⟩
      have hsub := (HashSetOps.elems_unionWith c.heap.heatingSchedules ∅ (r :: rs)
        List.nodup_nil fun slot hslot => by cases hslot).2.1
      rw [List.mem_map]
      refine exists_congr fun hs => and_congr_left fun _ => List.mem_append.trans ?_
      refine or_iff_left_of_imp fun hmem => ?_
      exact (hsub hs hmem).resolve_left List.not_mem_nil

theorem after_cancelScheduledPrint (c : MachineConnection Cron) (env : Environment Cron)
    (r : ScheduledPrintRef) :
    ∃ s', (Operation.cancelScheduledPrint r).after env c =
        (c.finishedAll [.print r]).setState s' ∧
      s'.scheduledPrints = c.state.scheduledPrints.remove c.heap.scheduledPrints r ∧
      ∀ id, s'.heatingSchedules id = c.state.heatingSchedules id := by
  obtain ⟨s', hprints, hheatings, hafter⟩ :=
    afterCommit_removeScheduledPrint (c := c) env (.refl _) r
  have hcommits : (Operation.cancelScheduledPrint r).Commits c [] _ := .cancelScheduledPrint r
  exact ⟨s', (hcommits.after_eq env).trans hafter, hprints, hheatings⟩

/-! ### Cancellations that cancel -/

/-- A cancellation of one heating schedule. -/
theorem cancels_heating_iff (h : c.FreshIDs) (env : Environment Cron) {id : String}
    {r : HeatingScheduleRef} (hr : r ∈ (c.state.heatingSchedules id).elems) :
    Cancels c ((Operation.cancelScheduledMUHeating (some id) r).after env c)
        (c.EqualHeating id r) ↔
      (c.state.heatingSchedules id).FoundOnce c.heap.heatingSchedules r ∧
        c.EndsAlone (c.EqualHeating id r) := by
  obtain ⟨s', hafter, hprints, hheatings⟩ := after_cancelScheduledMUHeating env hr
  have hself : s'.heatingSchedules id =
      (c.state.heatingSchedules id).remove c.heap.heatingSchedules r :=
    (hheatings id).trans (if_pos rfl)
  rw [hafter, cancels_finishedAll_iff h]
  · refine and_congr_left fun _ => ?_
    rw [← RecordHashSet.slotsOf_eraseP_eq_nil_iff c.heap.heatingSchedules hr,
      ← RecordHashSet.slotsOf_remove_self, ← hself, RecordHashSet.slotsOf_eq_nil_iff]
    constructor
    · exact fun hgone r' hr' heq => hgone (.beginMUHeating (some id) r') ⟨rfl, heq⟩ hr'
    · intro hgone a ha
      cases a with
      | beginMUHeating mmid r' =>
        obtain ⟨rfl, heq⟩ := ha
        exact fun hr' => hgone r' hr' heq
      | printLocal r' => exact ha.elim
  · intro gid
    constructor
    · rintro ⟨r', hr', hid⟩
      obtain rfl := List.mem_singleton.mp hr'
      exact ⟨.beginMUHeating (some id) r, ⟨rfl, rfl⟩, hr, hid⟩
    · rintro ⟨a, ha, -, hid⟩
      cases a with
      | beginMUHeating mmid r' =>
        -- equal schedules carry the same identifier
        refine ⟨.heating r, List.mem_singleton_self _, ?_⟩
        exact (congrArg HeatingSchedule.schedulerID ha.2).symm.trans hid
      | printLocal r' => exact ha.elim
  · intro a ha
    cases a with
    | beginMUHeating mmid r' =>
      cases mmid with
      | none => exact Iff.rfl
      | some id' =>
        rw [MachineState.Stores, MachineState.Stores, hheatings]
        split
        · rename_i hid
          subst hid
          exact RecordHashSet.mem_elems_remove_of_ne _ fun heq => ha ⟨rfl, heq⟩
        · exact Iff.rfl
    | printLocal r' =>
      rw [MachineState.Stores, MachineState.Stores, hprints]

/-- A cancellation of all heating schedules of a unit. -/
theorem cancels_allHeating_iff (h : c.FreshIDs) (env : Environment Cron) (id : String) :
    Cancels c ((Operation.cancelAllScheduledMUHeating (some id)).after env c) (AnyHeating id) ↔
      (∀ r ∈ (c.state.heatingSchedules id).elems,
        (c.state.heatingSchedules id).FoundOnce c.heap.heatingSchedules r) ∧
        c.EndsAlone (AnyHeating id) := by
  obtain ⟨s', rs, hafter, hrs, hprints, hheatings⟩ := after_cancelAllScheduledMUHeating c env id
  rw [hafter, cancels_finishedAll_iff h]
  · refine and_congr_left fun _ => ?_
    have hself : s'.heatingSchedules id = _ := (hheatings id).trans (if_pos rfl)
    rw [← HashSetOps.slots_exceptWith_elems_eq_nil_iff, ← hself]
    constructor
    · intro hgone
      have hnone : (s'.heatingSchedules id).elems = [] := List.eq_nil_iff_forall_not_mem.mpr
        fun r => hgone (.beginMUHeating (some id) r) rfl
      exact List.map_eq_nil_iff.mp hnone
    · intro hnone a ha
      cases a with
      | beginMUHeating mmid r =>
        obtain rfl : mmid = some id := ha
        rw [MachineState.Stores, RecordHashSet.elems, hnone]
        exact List.not_mem_nil
      | printLocal r => exact ha.elim
  · intro gid
    constructor
    · rintro ⟨r, hr, hid⟩
      obtain ⟨hs, hmem, rfl⟩ := (hrs r).mp hr
      exact ⟨.beginMUHeating (some id) hs, rfl, hmem, hid⟩
    · rintro ⟨a, ha, hstored, hid⟩
      cases a with
      | beginMUHeating mmid r =>
        obtain rfl : mmid = some id := ha
        exact ⟨.heating r, (hrs _).mpr ⟨r, hstored, rfl⟩, hid⟩
      | printLocal r => exact ha.elim
  · intro a ha
    cases a with
    | beginMUHeating mmid r =>
      cases mmid with
      | none => exact Iff.rfl
      | some id' =>
        have hne : id' ≠ id := fun heq => ha (congrArg some heq)
        rw [MachineState.Stores, MachineState.Stores, hheatings, if_neg hne]
    | printLocal r =>
      rw [MachineState.Stores, MachineState.Stores, hprints]

/-- A cancellation of a scheduled print. -/
theorem cancels_print_iff (h : c.FreshIDs) (env : Environment Cron) {r : ScheduledPrintRef}
    (hr : r ∈ c.state.scheduledPrints.elems) :
    Cancels c ((Operation.cancelScheduledPrint r).after env c) (c.EqualPrint r) ↔
      c.state.scheduledPrints.FoundOnce c.heap.scheduledPrints r ∧
        c.EndsAlone (c.EqualPrint r) := by
  obtain ⟨s', hafter, hprints, hheatings⟩ := after_cancelScheduledPrint c env r
  rw [hafter, cancels_finishedAll_iff h]
  · refine and_congr_left fun _ => ?_
    rw [← RecordHashSet.slotsOf_eraseP_eq_nil_iff c.heap.scheduledPrints hr,
      ← RecordHashSet.slotsOf_remove_self, ← hprints, RecordHashSet.slotsOf_eq_nil_iff]
    constructor
    · exact fun hgone r' hr' heq => hgone (.printLocal r') heq hr'
    · intro hgone a ha
      cases a with
      | beginMUHeating mmid r' => exact ha.elim
      | printLocal r' => exact fun hr' => hgone r' hr' ha
  · intro gid
    constructor
    · rintro ⟨r', hr', hid⟩
      obtain rfl := List.mem_singleton.mp hr'
      exact ⟨.printLocal r, rfl, hr, hid⟩
    · rintro ⟨a, ha, -, hid⟩
      cases a with
      | beginMUHeating mmid r' => exact ha.elim
      | printLocal r' =>
        refine ⟨.print r, List.mem_singleton_self _, ?_⟩
        exact (congrArg ScheduledPrint.schedulerID ha).symm.trans hid
  · intro a ha
    cases a with
    | beginMUHeating mmid r' =>
      cases mmid with
      | none => exact Iff.rfl
      | some id' => rw [MachineState.Stores, MachineState.Stores, hheatings]
    | printLocal r' =>
      rw [MachineState.Stores, MachineState.Stores, hprints]
      exact RecordHashSet.mem_elems_remove_of_ne _ ha

/-- **The cancellations that cancel.** In any state that operations and callers can lead to, a
cancellation removes its schedules, ends their tasks and touches no others just when each of them
is found where it is stored, is stored there once, and shares its task with no other schedule. -/
theorem cancels_iff (h : Reachable Initial AnyStep c) (env : Environment Cron) :
    (∀ id, ∀ r ∈ (c.state.heatingSchedules id).elems,
      (Cancels c ((Operation.cancelScheduledMUHeating (some id) r).after env c)
          (c.EqualHeating id r) ↔
        (c.state.heatingSchedules id).FoundOnce c.heap.heatingSchedules r ∧
          c.EndsAlone (c.EqualHeating id r))) ∧
    (∀ id,
      (Cancels c ((Operation.cancelAllScheduledMUHeating (some id)).after env c)
          (AnyHeating id) ↔
        (∀ r ∈ (c.state.heatingSchedules id).elems,
          (c.state.heatingSchedules id).FoundOnce c.heap.heatingSchedules r) ∧
          c.EndsAlone (AnyHeating id))) ∧
    ∀ r ∈ c.state.scheduledPrints.elems,
      (Cancels c ((Operation.cancelScheduledPrint r).after env c) (c.EqualPrint r) ↔
        c.state.scheduledPrints.FoundOnce c.heap.scheduledPrints r ∧
          c.EndsAlone (c.EqualPrint r)) := by
  have hfresh : c.FreshIDs := freshIDs_of_reachable h
  exact ⟨fun _ _ hr => cancels_heating_iff hfresh env hr,
    fun id => cancels_allHeating_iff hfresh env id,
    fun _ hr => cancels_print_iff hfresh env hr⟩

/-! ### A print that is scheduled and canceled -/

private def everyDay : Environment Daily where
  now := default
  getNextOccurrence _ := some default

/-- A new machine that can start local jobs. -/
private def printer : MachineConnection Daily where
  self := ⟨0⟩
  state := { (default : MachineState) with capabilities := .startLocalJob }
  heap := default
  scheduler := default

private theorem initial_printer : Initial printer where
  freshIDs := .of_unused rfl fun r => by cases r <;> rfl
  isRunning := rfl
  noSchedule := ⟨rfl, fun _ => rfl⟩
  noTask t ht := by cases ht

/-- Another machine has scheduled the print before, so it has its identifier already. -/
private def sharing : MachineConnection Daily :=
  { ({ printer with self := ⟨1⟩ } : MachineConnection Daily).started (.printLocal ⟨0⟩) default with
    self := ⟨0⟩ }

private theorem leavesState_sharing : LeavesState printer sharing where
  self := rfl
  state := rfl
  freshIDs := by
    have hother : ({ printer with self := ⟨1⟩ } : MachineConnection Daily).FreshIDs :=
      ⟨initial_printer.freshIDs.nodup, initial_printer.freshIDs.lt_of_mem,
        initial_printer.freshIDs.lt_of_schedulerID⟩
    have hstarted := hother.started (.printLocal ⟨0⟩) default
    exact ⟨hstarted.nodup, hstarted.lt_of_mem, hstarted.lt_of_schedulerID⟩

/-- A print that had its identifier before it was stored is canceled. -/
theorem cancels_iff_sharing :
    Cancels ((Operation.schedulePrint ⟨0⟩).after everyDay sharing)
      ((Operation.cancelScheduledPrint ⟨0⟩).after everyDay
        ((Operation.schedulePrint ⟨0⟩).after everyDay sharing))
      (((Operation.schedulePrint ⟨0⟩).after everyDay sharing).EqualPrint ⟨0⟩) := by
  have hreach : Reachable Initial AnyStep ((Operation.schedulePrint ⟨0⟩).after everyDay sharing) :=
    ⟨printer, initial_printer, .tail (.single (.others sharing leavesState_sharing))
      (.operation everyDay (.schedulePrint ⟨0⟩))⟩
  refine ((cancels_iff hreach everyDay).2.2 ⟨0⟩ (List.mem_singleton_self _)).mpr ⟨?_, ?_⟩
  · exact ⟨⟨⟨0⟩, 1⟩, rfl, rfl⟩
  · intro a b ha hastored hb hbstored
    -- the print is the only schedule of the machine
    cases b with
    | beginMUHeating mmid r =>
      cases mmid with
      | none => exact hbstored.elim
      | some id => cases hbstored
    | printLocal r =>
      obtain rfl : r = ⟨0⟩ := List.mem_singleton.mp hbstored
      exact absurd rfl hb

/-- **A print that is scheduled once and canceled** stays: the set has stored it under the hash
code it had without an identifier. -/
theorem cancels_fails :
    Reachable Initial AnyStep ((Operation.schedulePrint ⟨0⟩).after everyDay printer) ∧
      (⟨0⟩ : ScheduledPrintRef) ∈
        ((Operation.schedulePrint ⟨0⟩).after everyDay printer).state.scheduledPrints.elems ∧
      ¬ Cancels ((Operation.schedulePrint ⟨0⟩).after everyDay printer)
        ((Operation.cancelScheduledPrint ⟨0⟩).after everyDay
          ((Operation.schedulePrint ⟨0⟩).after everyDay printer))
        (((Operation.schedulePrint ⟨0⟩).after everyDay printer).EqualPrint ⟨0⟩) := by
  refine ⟨⟨printer, initial_printer, .single (.operation everyDay (.schedulePrint ⟨0⟩))⟩,
    List.mem_singleton_self _, fun h => ?_⟩
  exact h.gone (.printLocal ⟨0⟩) rfl (List.mem_singleton_self _)

end ScheduledTasks

end MachineConnection

end Connect3Dp
