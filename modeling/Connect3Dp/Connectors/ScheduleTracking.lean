import Connect3Dp.Connectors.Outcome
import Connect3Dp.Connectors.ScheduledTasks

/-!
# The schedules of a state and their tasks

A machine keeps its schedules in two stores: the sets of its state, and the list of tasks of the
scheduler. `SchedulesMatchTasks` says that the two agree. What a commit has to keep for that is
`Tracks`: in addition no schedule object of the heap carries an identifier that is not given out
yet, and the scheduler runs.

A commit changes the two stores in one of two ways: it ends the tasks of some schedules and takes
just the schedules with their identifiers out of the sets (`Tracks.finishedAll`), or it starts the
task of a schedule that has none and puts that schedule in (`Tracks.started`).
-/

namespace Connect3Dp

namespace MachineState

/-- The heating schedules of the unit with an ID, if there is one. -/
def heatingSchedules (s : MachineState) (unitID : String) : RecordHashSet HeatingScheduleRef :=
  ((s.materialUnits.tryGetValue unitID).map (·.heatingSchedule)).getD ∅

/-- The schedule that a task is for is in the state. -/
def Stores (s : MachineState) : TaskAction → Prop
  | .beginMUHeating (some unitID) r => r ∈ (s.heatingSchedules unitID).elems
  | .beginMUHeating none _ => False
  | .printLocal r => r ∈ s.scheduledPrints.elems

end MachineState

namespace MachineConnection

variable {Cron : Type} {c : MachineConnection Cron}

/-- A task of this machine is in the scheduler. -/
def HasTask (c : MachineConnection Cron) (id : Guid) (action : TaskAction) : Prop :=
  ∃ t ∈ c.scheduler.tasks, t.owner = c.self ∧ t.id = id ∧ t.action = action

/-- **The tasks of a machine and the schedules of its state are in bijection.** No schedule is
stored twice, each carries the identifier of exactly one task, which is this machine's and is for
that schedule, no two schedules share an identifier, and each task of the machine is for a stored
schedule that carries its identifier. -/
structure SchedulesMatchTasks (c : MachineConnection Cron) : Prop where
  nodup_scheduledPrints : c.state.scheduledPrints.elems.Nodup
  nodup_heatingSchedules : ∀ unitID, (c.state.heatingSchedules unitID).elems.Nodup
  exactlyOne : ∀ a, c.state.Stores a → ∃ t, t.owner = c.self ∧ t.action = a ∧
    c.scheduler.tasks.filter (fun t => c.heap.schedulerID a.schedule = some t.id) = [t]
  injective : ∀ a b, c.state.Stores a → c.state.Stores b →
    c.heap.schedulerID a.schedule = c.heap.schedulerID b.schedule → a = b
  stored : ∀ t ∈ c.scheduler.tasks, t.owner = c.self →
    c.state.Stores t.action ∧ c.heap.schedulerID t.action.schedule = some t.id

/-- What every commit has to keep. -/
structure Tracks (c : MachineConnection Cron) : Prop where
  freshIDs : c.FreshIDs
  isRunning : c.scheduler.isDisposed = false
  nodup_scheduledPrints : c.state.scheduledPrints.elems.Nodup
  nodup_heatingSchedules : ∀ unitID, (c.state.heatingSchedules unitID).elems.Nodup
  assigned : ∀ a, c.state.Stores a → ∃ id, c.heap.schedulerID a.schedule = some id
  hasTask_iff : ∀ id a, c.HasTask id a ↔
    c.state.Stores a ∧ c.heap.schedulerID a.schedule = some id

/-- Two tasks with the same identifier are the same. -/
theorem FreshIDs.eq_of_id (h : c.FreshIDs) {t t' : ScheduledTask Cron}
    (ht : t ∈ c.scheduler.tasks) (ht' : t' ∈ c.scheduler.tasks) (hid : t.id = t'.id) : t = t' :=
  List.inj_on_of_nodup_map h.nodup ht ht' hid

theorem FreshIDs.action_eq (h : c.FreshIDs) {id : Guid} {a b : TaskAction}
    (ha : c.HasTask id a) (hb : c.HasTask id b) : a = b := by
  obtain ⟨t, ht, -, rfl, rfl⟩ := ha
  obtain ⟨t', ht', -, hid, rfl⟩ := hb
  rw [h.eq_of_id ht' ht hid]

namespace Tracks

theorem hasTask (h : c.Tracks) {a : TaskAction} (ha : c.state.Stores a) :
    ∃ id, c.heap.schedulerID a.schedule = some id ∧ c.HasTask id a := by
  obtain ⟨id, hid⟩ := h.assigned a ha
  exact ⟨id, hid, (h.hasTask_iff id a).mpr ⟨ha, hid⟩⟩

theorem injective (h : c.Tracks) {a b : TaskAction} (ha : c.state.Stores a)
    (hb : c.state.Stores b) (hab : c.heap.schedulerID a.schedule = c.heap.schedulerID b.schedule) :
    a = b := by
  obtain ⟨id, hid, htask⟩ := h.hasTask ha
  exact h.freshIDs.action_eq htask ((h.hasTask_iff id b).mpr ⟨hb, hab ▸ hid⟩)

/-- A stored schedule has a task that runs. -/
theorem not_needsTask (h : c.Tracks) {a : TaskAction} (ha : c.state.Stores a) :
    ¬ c.NeedsTask a.schedule := by
  obtain ⟨id, hid, t, ht, -, htid, -⟩ := h.hasTask ha
  have hruns : c.scheduler.isTaskRunning id = true :=
    isTaskRunning_iff.mpr ⟨⟨t, ht, htid⟩, h.isRunning⟩
  rw [needsTask_some_iff hid, hruns]
  simp

theorem schedulesMatchTasks (h : c.Tracks) : c.SchedulesMatchTasks where
  nodup_scheduledPrints := h.nodup_scheduledPrints
  nodup_heatingSchedules := h.nodup_heatingSchedules
  exactlyOne a ha := by
    obtain ⟨id, hid, t, ht, howner, htid, haction⟩ := h.hasTask ha
    refine ⟨t, howner, haction, ?_⟩
    have hnodup : (c.scheduler.tasks.filter
        fun t => c.heap.schedulerID a.schedule = some t.id).Nodup :=
      h.freshIDs.nodup.of_map.filter _
    have hmem : ∀ t', t' ∈ (c.scheduler.tasks.filter
        fun t => c.heap.schedulerID a.schedule = some t.id) ↔ t' = t := by
      intro t'
      rw [List.mem_filter, decide_eq_true_eq, hid, Option.some.injEq]
      constructor
      · rintro ⟨ht', hid'⟩
        exact h.freshIDs.eq_of_id ht' ht (htid ▸ hid'.symm)
      · rintro rfl
        exact ⟨ht, htid.symm⟩
    refine List.perm_singleton.mp ((List.perm_ext_iff_of_nodup hnodup
      (List.nodup_singleton t)).mpr fun t' => ?_)
    rw [hmem, List.mem_singleton]
  injective _ _ := h.injective
  stored t ht howner := (h.hasTask_iff t.id t.action).mp ⟨t, ht, howner, rfl, rfl⟩

end Tracks

/-! ### Ending tasks -/

theorem hasTask_finishedAll (h : c.FreshIDs) {rs : List ScheduleRef} {id : Guid}
    {a : TaskAction} : (c.finishedAll rs).HasTask id a ↔
      c.HasTask id a ∧ ∀ r ∈ rs, c.heap.schedulerID r ≠ some id := by
  have hself : (c.finishedAll rs).self = c.self := (finishedAll_frame c rs).1
  rw [HasTask, HasTask, hself]
  constructor
  · rintro ⟨t, ht, howner, rfl, haction⟩
    obtain ⟨ht, hne⟩ := (mem_tasks_finishedAll h).mp ht
    exact ⟨⟨t, ht, howner, rfl, haction⟩, hne⟩
  · rintro ⟨⟨t, ht, howner, rfl, haction⟩, hne⟩
    exact ⟨t, (mem_tasks_finishedAll h).mpr ⟨ht, hne⟩, howner, rfl, haction⟩

/-- **Taking schedules out.** The state loses just the schedules that carry the identifier of an
ended task. -/
theorem Tracks.finishedAll (h : c.Tracks) {rs : List ScheduleRef} {s' : MachineState}
    (hstores : ∀ a, s'.Stores a ↔ c.state.Stores a ∧
      ∀ r ∈ rs, c.heap.schedulerID r ≠ c.heap.schedulerID a.schedule)
    (hprints : s'.scheduledPrints.elems.Nodup)
    (hheatings : ∀ unitID, (s'.heatingSchedules unitID).elems.Nodup) :
    ((c.finishedAll rs).setState s').Tracks := by
  obtain ⟨-, -, hheap, hdisposed⟩ := finishedAll_frame c rs
  have hids : ((c.finishedAll rs).setState s').heap = c.heap := hheap
  have hfresh := h.freshIDs.finishedAll rs
  refine ⟨⟨hfresh.nodup, hfresh.lt_of_mem, hfresh.lt_of_schedulerID⟩,
    hdisposed.trans h.isRunning, hprints, hheatings, fun a ha => ?_, fun id a => ?_⟩
  · rw [hids]
    exact h.assigned a ((hstores a).mp ha).1
  · have htask : ((c.finishedAll rs).setState s').HasTask id a ↔ (c.finishedAll rs).HasTask id a :=
      Iff.rfl
    have hstate : ((c.finishedAll rs).setState s').state = s' := rfl
    rw [htask, hasTask_finishedAll h.freshIDs, h.hasTask_iff, hids, hstate, hstores]
    constructor
    · rintro ⟨⟨ha, hid⟩, hrs⟩
      exact ⟨⟨ha, fun r hr => hid ▸ hrs r hr⟩, hid⟩
    · rintro ⟨⟨ha, hrs⟩, hid⟩
      exact ⟨⟨ha, hid⟩, fun r hr => hid ▸ hrs r hr⟩

/-- For schedules of the state, not to share an identifier with an ended one is to be none of
them. -/
theorem Tracks.forall_ne_iff (h : c.Tracks) {rs : List ScheduleRef}
    (hrs : ∀ r ∈ rs, ∃ b, c.state.Stores b ∧ b.schedule = r) {a : TaskAction}
    (ha : c.state.Stores a) :
    (∀ r ∈ rs, c.heap.schedulerID r ≠ c.heap.schedulerID a.schedule) ↔ a.schedule ∉ rs := by
  constructor
  · exact fun hne hmem => hne _ hmem rfl
  · intro hmem r hr heq
    obtain ⟨b, hb, rfl⟩ := hrs r hr
    have hba : b = a := h.injective hb ha heq
    exact hmem (hba ▸ hr)

/-- **Taking scheduled prints out** that are in the state. -/
theorem Tracks.removedPrints (h : c.Tracks) {rs : List ScheduleRef} {s' : MachineState}
    (removed : List ScheduledPrintRef) (hrs : ∀ r, r ∈ rs ↔ ∃ sp ∈ removed, .print sp = r)
    (hremoved : ∀ sp ∈ removed, sp ∈ c.state.scheduledPrints.elems)
    (hprints : s'.scheduledPrints.elems = c.state.scheduledPrints.elems.diff removed)
    (hheatings : ∀ id, (s'.heatingSchedules id).elems = (c.state.heatingSchedules id).elems) :
    ((c.finishedAll rs).setState s').Tracks := by
  have hstored : ∀ r ∈ rs, ∃ b, c.state.Stores b ∧ b.schedule = r := by
    intro r hr
    obtain ⟨sp, hsp, rfl⟩ := (hrs r).mp hr
    exact ⟨.printLocal sp, hremoved sp hsp, rfl⟩
  refine h.finishedAll (fun a => ?_) ?_ fun id => ?_
  · have hiff : s'.Stores a ↔ c.state.Stores a ∧ a.schedule ∉ rs := by
      cases a with
      | beginMUHeating id r =>
        have hnotMem : ScheduleRef.heating r ∉ rs := by
          intro hr
          obtain ⟨sp, -, hsp⟩ := (hrs _).mp hr
          cases hsp
        refine Iff.trans ?_ (and_iff_left hnotMem).symm
        cases id with
        | none => exact Iff.rfl
        | some id => rw [MachineState.Stores, hheatings]; exact Iff.rfl
      | printLocal sp =>
        have hmem : ScheduleRef.print sp ∈ rs ↔ sp ∈ removed := by
          rw [hrs]
          constructor
          · rintro ⟨sp', hsp', heq⟩
            cases heq
            exact hsp'
          · exact fun hsp => ⟨sp, hsp, rfl⟩
        rw [MachineState.Stores, hprints, h.nodup_scheduledPrints.mem_sdiff_iff]
        exact and_congr_right fun _ => not_congr hmem.symm
    rw [hiff]
    exact and_congr_right fun ha => (h.forall_ne_iff hstored ha).symm
  · rw [hprints]
    exact h.nodup_scheduledPrints.diff
  · rw [hheatings]
    exact h.nodup_heatingSchedules id

/-- **Taking heating schedules out** that are in one unit of the state. -/
theorem Tracks.removedHeatings (h : c.Tracks) {rs : List ScheduleRef} {s' : MachineState}
    (unitID : String) (removed : List HeatingScheduleRef)
    (hrs : ∀ r, r ∈ rs ↔ ∃ hs ∈ removed, .heating hs = r)
    (hremoved : ∀ hs ∈ removed, hs ∈ (c.state.heatingSchedules unitID).elems)
    (hprints : s'.scheduledPrints.elems = c.state.scheduledPrints.elems)
    (hheatings : ∀ id, (s'.heatingSchedules id).elems =
      if id = unitID then (c.state.heatingSchedules id).elems.diff removed
      else (c.state.heatingSchedules id).elems) :
    ((c.finishedAll rs).setState s').Tracks := by
  have hstored : ∀ r ∈ rs, ∃ b, c.state.Stores b ∧ b.schedule = r := by
    intro r hr
    obtain ⟨hs, hmem, rfl⟩ := (hrs r).mp hr
    exact ⟨.beginMUHeating (some unitID) hs, hremoved hs hmem, rfl⟩
  have hmem : ∀ hs, ScheduleRef.heating hs ∈ rs ↔ hs ∈ removed := by
    intro hs
    rw [hrs]
    constructor
    · rintro ⟨hs', hmem, heq⟩
      cases heq
      exact hmem
    · exact fun hmem => ⟨hs, hmem, rfl⟩
  refine h.finishedAll (fun a => ?_) ?_ fun id => ?_
  · have hiff : s'.Stores a ↔ c.state.Stores a ∧ a.schedule ∉ rs := by
      cases a with
      | beginMUHeating id hs =>
        cases id with
        | none => exact ⟨False.elim, fun h => h.1.elim⟩
        | some id =>
          rw [MachineState.Stores, hheatings]
          by_cases hid : id = unitID
          · rw [if_pos hid, (h.nodup_heatingSchedules id).mem_sdiff_iff]
            exact and_congr_right fun _ => not_congr (hmem hs).symm
          · rw [if_neg hid]
            refine (and_iff_left_of_imp fun ha hr => hid ?_).symm
            -- The object is in no other unit.
            have hother : c.state.Stores (.beginMUHeating (some unitID) hs) :=
              hremoved hs ((hmem hs).mp hr)
            have heq : TaskAction.beginMUHeating (some id) hs =
              .beginMUHeating (some unitID) hs := h.injective ha hother rfl
            cases heq
            rfl
      | printLocal sp =>
        have hnotMem : ScheduleRef.print sp ∉ rs := by
          intro hr
          obtain ⟨hs, -, hhs⟩ := (hrs _).mp hr
          cases hhs
        rw [MachineState.Stores, hprints]
        exact (and_iff_left hnotMem).symm
    rw [hiff]
    exact and_congr_right fun ha => (h.forall_ne_iff hstored ha).symm
  · rw [hprints]
    exact h.nodup_scheduledPrints
  · rw [hheatings]
    split
    · exact (h.nodup_heatingSchedules id).diff
    · exact h.nodup_heatingSchedules id

/-- A state that stores the same schedules, with the tasks ended of none of them. -/
theorem Tracks.setState (h : c.Tracks) {rs : List ScheduleRef} {s' : MachineState}
    (hrs : ∀ r ∈ rs, ∀ a, c.state.Stores a → c.heap.schedulerID a.schedule ≠ c.heap.schedulerID r)
    (hprints : s'.scheduledPrints.elems = c.state.scheduledPrints.elems)
    (hheatings : ∀ id, (s'.heatingSchedules id).elems = (c.state.heatingSchedules id).elems) :
    ((c.finishedAll rs).setState s').Tracks := by
  have hstores : ∀ a, s'.Stores a ↔ c.state.Stores a := by
    intro a
    cases a with
    | beginMUHeating id r =>
      cases id with
      | none => exact Iff.rfl
      | some id => rw [MachineState.Stores, hheatings]; exact Iff.rfl
    | printLocal r => rw [MachineState.Stores, hprints]; exact Iff.rfl
  refine h.finishedAll (fun a => ?_) (hprints ▸ h.nodup_scheduledPrints)
    fun id => hheatings id ▸ h.nodup_heatingSchedules id
  rw [hstores]
  exact (and_iff_left_of_imp fun ha r hr => (hrs r hr a ha).symm).symm

/-! ### Starting a task -/

theorem hasTask_started {a b : TaskAction} {next : DateTimeOffset} {id : Guid} :
    (c.started a next).HasTask id b ↔
      c.HasTask id b ∨ (c.scheduler.nextGuid = id ∧ a = b) := by
  have htasks : (c.started a next).scheduler.tasks = c.scheduler.tasks ++
      [⟨c.scheduler.nextGuid, c.heap.timing a.schedule, some next, c.self, a⟩] := by
    rw [MachineConnection.started, scheduler_setSchedulerID]
    rfl
  have hself : (c.started a next).self = c.self := by
    rw [MachineConnection.started, self_setSchedulerID]
    rfl
  rw [HasTask, htasks, hself]
  constructor
  · rintro ⟨t, ht, howner, hid, haction⟩
    rcases List.mem_append.mp ht with ht | ht
    · exact .inl ⟨t, ht, howner, hid, haction⟩
    · rw [List.mem_singleton] at ht
      subst ht
      exact .inr ⟨hid, haction⟩
  · rintro (⟨t, ht, h⟩ | ⟨hid, haction⟩)
    · exact ⟨t, List.mem_append_left _ ht, h⟩
    · exact ⟨_, List.mem_append_right _ (List.mem_singleton_self _), rfl, hid, haction⟩

/-- **Putting a schedule in** whose task was started. -/
theorem Tracks.started (h : c.Tracks) {a : TaskAction} (hneeds : c.NeedsTask a.schedule)
    {s' : MachineState} {next : DateTimeOffset}
    (hstores : ∀ b, s'.Stores b ↔ c.state.Stores b ∨ b = a)
    (hprints : s'.scheduledPrints.elems.Nodup)
    (hheatings : ∀ unitID, (s'.heatingSchedules unitID).elems.Nodup) :
    ((c.setState s').started a next).Tracks := by
  have hids : ∀ r, ((c.setState s').started a next).heap.schedulerID r =
      if r = a.schedule then some c.scheduler.nextGuid else c.heap.schedulerID r :=
    fun r => schedulerID_setSchedulerID _ _ _ _
  have hstate : ((c.setState s').started a next).state = s' := by
    obtain ⟨⟩ | ⟨⟩ := a <;> rfl
  -- No stored schedule is the object that needs a task.
  have hne : ∀ b, c.state.Stores b → b.schedule ≠ a.schedule := fun b hb heq =>
    h.not_needsTask hb (heq ▸ hneeds)
  have hfresh : (c.setState s').FreshIDs :=
    ⟨h.freshIDs.nodup, h.freshIDs.lt_of_mem, h.freshIDs.lt_of_schedulerID⟩
  have hrunning : ((c.setState s').started a next).scheduler.isDisposed = false := by
    rw [MachineConnection.started, scheduler_setSchedulerID]
    exact h.isRunning
  refine ⟨hfresh.started a next, hrunning, hstate.symm ▸ hprints, hstate.symm ▸ hheatings,
    fun b hb => ?_, fun id b => ?_⟩
  · rw [hstate, hstores] at hb
    rw [hids]
    split
    · exact ⟨_, rfl⟩
    · rename_i hba
      obtain hb | rfl := hb
      · exact h.assigned b hb
      · exact absurd rfl hba
  · have htask : (c.setState s').HasTask id b ↔ c.HasTask id b := Iff.rfl
    rw [hasTask_started, htask, h.hasTask_iff, hstate, hstores, hids]
    by_cases hba : b.schedule = a.schedule
    · rw [if_pos hba, Option.some.injEq]
      constructor
      · rintro (⟨hb, -⟩ | ⟨hid, rfl⟩)
        · exact absurd hba (hne b hb)
        · exact ⟨.inr rfl, hid⟩
      · rintro ⟨hb | rfl, hid⟩
        · exact absurd hba (hne b hb)
        · exact .inr ⟨hid, rfl⟩
    · rw [if_neg hba]
      constructor
      · rintro (⟨hb, hid⟩ | ⟨-, rfl⟩)
        · exact ⟨.inl hb, hid⟩
        · exact absurd rfl hba
      · rintro ⟨hb | rfl, hid⟩
        · exact .inl ⟨hb, hid⟩
        · exact absurd rfl hba

end MachineConnection

end Connect3Dp
