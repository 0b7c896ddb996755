import Connect3Dp.Connectors.MachineConnection

/-!
# The scheduling part of a commit

After the application a commit goes through the schedules of its update in a fixed order and
starts or ends their tasks. The two kinds of schedules are treated alike, so here a schedule is
a `ScheduleRef` of either kind and the whole part is a list of steps
(`updateSchedules_eq_forM`).

The part raises just when one of the schedules to start needs a task and has no next occurrence
(`exists_run_steps_error_iff`).
-/

namespace Connect3Dp

/-- A schedule object of either kind. -/
inductive ScheduleRef
  | heating (r : HeatingScheduleRef)
  | print (r : ScheduledPrintRef)
  deriving DecidableEq

/-- The schedule a task is for. -/
def TaskAction.schedule : TaskAction → ScheduleRef
  | .beginMUHeating _ r => .heating r
  | .printLocal r => .print r

namespace Heap

variable {Cron : Type}

def timing (heap : Heap Cron) : ScheduleRef → Cron
  | .heating r => (heap.heatingSchedules r).timing
  | .print r => (heap.scheduledPrints r).timing

def schedulerID (heap : Heap Cron) : ScheduleRef → Option Guid
  | .heating r => (heap.heatingSchedules r).schedulerID
  | .print r => (heap.scheduledPrints r).schedulerID

end Heap

/-- One step of the scheduling part: start the task of a schedule if it needs one, or end it. -/
inductive SchedulingStep
  | start (action : TaskAction)
  | finish (schedule : ScheduleRef)

/-- The steps for one unit of an update. -/
def MUnitUpdate.schedulingSteps (ops : HeatingScheduleOps) (id : String) (u : MUnitUpdate) :
    List SchedulingStep :=
  (u.heatingSchedule.additions ops).map (fun r => .start (.beginMUHeating (some id) r)) ++
    (u.heatingSchedule.removals ops).map fun r => .finish (.heating r)

/-- The steps for the scheduled prints of an update. -/
def MachineStateUpdate.printSteps (ops : ScheduleOps) (u : MachineStateUpdate) :
    List SchedulingStep :=
  (u.scheduledPrints.additions ops.scheduledPrints).map (fun r => .start (.printLocal r)) ++
    (u.scheduledPrints.removals ops.scheduledPrints).map fun r => .finish (.print r)

/-- The steps of the scheduling part. -/
def MachineStateUpdate.schedulingSteps (ops : ScheduleOps) (u : MachineStateUpdate) :
    List SchedulingStep :=
  (u.materialUnits.entries.flatMap fun kv =>
    kv.2.schedulingSteps ops.heatingSchedules kv.1) ++ u.printSteps ops

namespace MachineConnection

variable {Cron : Type}

def perform (env : Environment Cron) :
    SchedulingStep → EStateM Fault (MachineConnection Cron) Unit
  | .start (.beginMUHeating mmid r) => scheduleHeating env mmid r
  | .start (.printLocal r) => schedulePrint env r
  | .finish (.heating r) => endHeating r
  | .finish (.print r) => endPrint r

section Steps

variable [DecidableEq Cron] [Hashable (HeatingSchedule Cron)] [Hashable (ScheduledPrint Cron)]

theorem scheduleUnit_eq_forM (env : Environment Cron) (heap : Heap Cron)
    (kv : String × MUnitUpdate) :
    scheduleUnit env kv =
      forM (kv.2.schedulingSteps heap.ops.heatingSchedules kv.1) (perform env) := by
  rw [MUnitUpdate.schedulingSteps, List.forM_append, List.forM_map, List.forM_map]
  rfl

theorem schedulePrints_eq_forM (env : Environment Cron) (heap : Heap Cron)
    (u : MachineStateUpdate) :
    schedulePrints env u = forM (u.printSteps heap.ops) (perform env) := by
  rw [MachineStateUpdate.printSteps, List.forM_append, List.forM_map, List.forM_map]
  rfl

/-- **The scheduling part is a list of steps.** Which records a set holds does not depend on the
contents of the records, so any heap gives the list. -/
theorem updateSchedules_eq_forM (env : Environment Cron) (heap : Heap Cron)
    (u : MachineStateUpdate) :
    updateSchedules env u = forM (u.schedulingSteps heap.ops) (perform env) := by
  have hunits : ∀ kvs : List (String × MUnitUpdate), forM kvs (scheduleUnit env) =
      forM (kvs.flatMap fun kv => kv.2.schedulingSteps heap.ops.heatingSchedules kv.1)
        (perform env) := by
    intro kvs
    induction kvs with
    | nil => rfl
    | cons kv kvs ih =>
      rw [List.forM_cons, List.flatMap_cons, List.forM_append, scheduleUnit_eq_forM env heap, ih]
  rw [updateSchedules, hunits, schedulePrints_eq_forM env heap,
    MachineStateUpdate.schedulingSteps, List.forM_append]

end Steps

/-! ### One step -/

/-- `schedule.SchedulerID = id`. -/
def setSchedulerID (c : MachineConnection Cron) : ScheduleRef → Guid → MachineConnection Cron
  | .heating r, id => c.setHeatingSchedulerID r id
  | .print r, id => c.setPrintSchedulerID r id

@[simp]
theorem scheduler_setSchedulerID (c : MachineConnection Cron) (r : ScheduleRef) (id : Guid) :
    (c.setSchedulerID r id).scheduler = c.scheduler := by
  cases r <;> rfl

@[simp]
theorem self_setSchedulerID (c : MachineConnection Cron) (r : ScheduleRef) (id : Guid) :
    (c.setSchedulerID r id).self = c.self := by
  cases r <;> rfl

@[simp]
theorem timing_setSchedulerID (c : MachineConnection Cron) (r r' : ScheduleRef) (id : Guid) :
    (c.setSchedulerID r id).heap.timing r' = c.heap.timing r' := by
  cases r with
  | heating a =>
    cases r' with
    | heating b =>
      by_cases h : b = a
      · subst h
        simp [setSchedulerID, setHeatingSchedulerID, Heap.timing]
      · simp [setSchedulerID, setHeatingSchedulerID, Heap.timing, Function.update_of_ne h]
    | print b => rfl
  | print a =>
    cases r' with
    | heating b => rfl
    | print b =>
      by_cases h : b = a
      · subst h
        simp [setSchedulerID, setPrintSchedulerID, Heap.timing]
      · simp [setSchedulerID, setPrintSchedulerID, Heap.timing, Function.update_of_ne h]

@[simp]
theorem schedulerID_setSchedulerID (c : MachineConnection Cron) (r r' : ScheduleRef) (id : Guid) :
    (c.setSchedulerID r id).heap.schedulerID r' =
      if r' = r then some id else c.heap.schedulerID r' := by
  cases r with
  | heating a =>
    cases r' with
    | heating b =>
      by_cases h : b = a
      · subst h
        simp [setSchedulerID, setHeatingSchedulerID, Heap.schedulerID]
      · simp [setSchedulerID, setHeatingSchedulerID, Heap.schedulerID, h]
    | print b => rfl
  | print a =>
    cases r' with
    | heating b => rfl
    | print b =>
      by_cases h : b = a
      · subst h
        simp [setSchedulerID, setPrintSchedulerID, Heap.schedulerID]
      · simp [setSchedulerID, setPrintSchedulerID, Heap.schedulerID, h]

/-- The connection after a task was started for a schedule. -/
def started (c : MachineConnection Cron) (action : TaskAction) (next : DateTimeOffset) :
    MachineConnection Cron :=
  (c.setScheduler (c.scheduler.addTask (c.heap.timing action.schedule) (some next) c.self
    action)).setSchedulerID action.schedule c.scheduler.nextGuid

/-- The connection after the task of a schedule was ended. -/
def finished (c : MachineConnection Cron) (r : ScheduleRef) : MachineConnection Cron :=
  c.setScheduler (endSchedule c.scheduler (c.heap.schedulerID r))

/-- The schedule has no task that is running. -/
def NeedsTask (c : MachineConnection Cron) (r : ScheduleRef) : Prop :=
  needsTask c.scheduler (c.heap.schedulerID r) = true

/-- Both kinds of schedules are started alike. -/
theorem perform_start (env : Environment Cron) (action : TaskAction) :
    perform env (.start action) = (do
      let c ← get
      if needsTask c.scheduler (c.heap.schedulerID action.schedule) then
        let id ← onField MachineConnection.scheduler setScheduler
          (CronScheduler.scheduleAsync env.getNextOccurrence (c.heap.timing action.schedule)
            c.self action)
        modify (·.setSchedulerID action.schedule id)) := by
  cases action <;> rfl

section Run

variable {env : Environment Cron} {c : MachineConnection Cron} {action : TaskAction}

theorem run_start_of_not_needsTask (h : ¬ c.NeedsTask action.schedule) :
    (perform env (.start action)).run c = .ok () c := by
  have hget : (get : EStateM Fault (MachineConnection Cron) _).run c = .ok c c := rfl
  rw [NeedsTask, Bool.not_eq_true] at h
  rw [perform_start, run_bind_ok hget, h]
  rfl

theorem run_start_of_next {next : DateTimeOffset} (h : c.NeedsTask action.schedule)
    (hnext : env.getNextOccurrence (c.heap.timing action.schedule) = some next) :
    (perform env (.start action)).run c = .ok () (c.started action next) := by
  have hget : (get : EStateM Fault (MachineConnection Cron) _).run c = .ok c c := rfl
  rw [NeedsTask] at h
  rw [perform_start, run_bind_ok hget, h, if_pos rfl,
    run_bind_ok (run_onField_ok (CronScheduler.run_scheduleAsync_some hnext))]
  rfl

theorem run_start_of_no_next (h : c.NeedsTask action.schedule)
    (hnext : env.getNextOccurrence (c.heap.timing action.schedule) = none) :
    (perform env (.start action)).run c = .error .invalidOperation
      (c.setScheduler (c.scheduler.addTask (c.heap.timing action.schedule) none c.self
        action)) := by
  have hget : (get : EStateM Fault (MachineConnection Cron) _).run c = .ok c c := rfl
  rw [NeedsTask] at h
  rw [perform_start, run_bind_ok hget, h, if_pos rfl,
    run_bind_error (run_onField_error (CronScheduler.run_scheduleAsync_none hnext))]

theorem run_finish {r : ScheduleRef} :
    (perform env (.finish r)).run c = .ok () (c.finished r) := by
  cases r <;> rfl

end Run

/-- The steps do not write the state. -/
theorem sameState_steps (env : Environment Cron) (steps : List SchedulingStep) :
    Changes SameState (forM steps (perform env)) := by
  refine Changes.forM (fun step => ?_) steps
  cases step with
  | start action =>
    cases action with
    | beginMUHeating mmid r => exact sameState_scheduleHeating env mmid r
    | printLocal r => exact sameState_schedulePrint env r
  | finish r =>
    cases r with
    | heating r => exact sameState_endHeating r
    | print r => exact sameState_endPrint r

/-! ### Identifiers -/

/-- The identifiers in use come from the generator, and no two tasks share one. -/
structure FreshIDs (c : MachineConnection Cron) : Prop where
  nodup : (c.scheduler.tasks.map (·.id)).Nodup
  lt_of_mem : ∀ t ∈ c.scheduler.tasks, t.id < c.scheduler.nextGuid
  lt_of_schedulerID : ∀ r id, c.heap.schedulerID r = some id → id < c.scheduler.nextGuid

theorem isTaskRunning_iff {sch : CronScheduler Cron} {id : Guid} :
    sch.isTaskRunning id = true ↔ (∃ t ∈ sch.tasks, t.id = id) ∧ sch.isDisposed = false := by
  simp [CronScheduler.isTaskRunning]

theorem needsTask_some_iff {c : MachineConnection Cron} {r : ScheduleRef} {id : Guid}
    (h : c.heap.schedulerID r = some id) :
    c.NeedsTask r ↔ c.scheduler.isTaskRunning id = false := by
  rw [NeedsTask, h, needsTask, Bool.not_eq_true']

namespace FreshIDs

variable {c : MachineConnection Cron}

theorem of_unused (htasks : c.scheduler.tasks = []) (hids : ∀ r, c.heap.schedulerID r = none) :
    c.FreshIDs := by
  refine ⟨?_, fun t ht => ?_, fun r id hid => ?_⟩
  · rw [htasks]
    exact List.nodup_nil
  · rw [htasks] at ht
    cases ht
  · rw [hids] at hid
    cases hid

/-- The identifier of a new task is new. -/
theorem addTask (h : c.FreshIDs) (expression : Cron) (next : Option DateTimeOffset)
    (action : TaskAction) :
    (c.setScheduler (c.scheduler.addTask expression next c.self action)).FreshIDs := by
  refine ⟨?_, fun t ht => ?_, fun r id hid => Nat.lt_succ_of_lt (h.lt_of_schedulerID r id hid)⟩
  · change ((c.scheduler.tasks ++ [_]).map _).Nodup
    rw [List.map_append, List.nodup_append]
    refine ⟨h.nodup, List.nodup_singleton _, ?_⟩
    intro i hi j hj
    obtain ⟨t, ht, rfl⟩ := List.mem_map.mp hi
    rw [List.map_singleton, List.mem_singleton] at hj
    subst hj
    exact (h.lt_of_mem t ht).ne
  · change t.id < c.scheduler.nextGuid + 1
    rcases List.mem_append.mp ht with ht | ht
    · exact Nat.lt_succ_of_lt (h.lt_of_mem t ht)
    · rw [List.mem_singleton] at ht
      subst ht
      exact Nat.lt_succ_self _

theorem started (h : c.FreshIDs) (action : TaskAction) (next : DateTimeOffset) :
    (c.started action next).FreshIDs := by
  have hadded := h.addTask (c.heap.timing action.schedule) (some next) action
  unfold MachineConnection.started
  refine ⟨?_, fun t ht => ?_, fun r id hid => ?_⟩
  · rw [scheduler_setSchedulerID]
    exact hadded.nodup
  · rw [scheduler_setSchedulerID] at ht ⊢
    exact hadded.lt_of_mem t ht
  · rw [schedulerID_setSchedulerID] at hid
    rw [scheduler_setSchedulerID]
    change id < c.scheduler.nextGuid + 1
    split at hid
    · cases hid
      exact Nat.lt_succ_self _
    · exact Nat.lt_succ_of_lt (h.lt_of_schedulerID r id hid)

end FreshIDs

/-! ### Ending tasks -/

section Ending

variable {c : MachineConnection Cron}

/-- A task stays unless it has the identifier. -/
theorem mem_endSchedule_iff {sch : CronScheduler Cron} (h : (sch.tasks.map (·.id)).Nodup)
    {o : Option Guid} {t : ScheduledTask Cron} :
    t ∈ (endSchedule sch o).tasks ↔ t ∈ sch.tasks ∧ o ≠ some t.id := by
  cases o with
  | none => exact ⟨fun ht => ⟨ht, by simp⟩, fun ht => ht.1⟩
  | some id =>
    refine (CronScheduler.mem_endTask_iff h).trans (and_congr_right fun _ => ?_)
    rw [ne_eq, ne_eq, Option.some.injEq, eq_comm]

theorem nodup_endSchedule {sch : CronScheduler Cron} (h : (sch.tasks.map (·.id)).Nodup)
    (o : Option Guid) : ((endSchedule sch o).tasks.map (·.id)).Nodup := by
  cases o with
  | none => exact h
  | some id => exact h.sublist (List.eraseP_sublist.map _)

@[simp]
theorem isDisposed_endSchedule (sch : CronScheduler Cron) (o : Option Guid) :
    (endSchedule sch o).isDisposed = sch.isDisposed := by
  cases o <;> rfl

@[simp]
theorem nextGuid_endSchedule (sch : CronScheduler Cron) (o : Option Guid) :
    (endSchedule sch o).nextGuid = sch.nextGuid := by
  cases o <;> rfl

@[simp]
theorem heap_finished (c : MachineConnection Cron) (r : ScheduleRef) :
    (c.finished r).heap = c.heap := rfl

theorem mem_tasks_finished (h : c.FreshIDs) {r : ScheduleRef} {t : ScheduledTask Cron} :
    t ∈ (c.finished r).scheduler.tasks ↔
      t ∈ c.scheduler.tasks ∧ c.heap.schedulerID r ≠ some t.id :=
  mem_endSchedule_iff h.nodup

theorem FreshIDs.setState (h : c.FreshIDs) (s : MachineState) : (c.setState s).FreshIDs :=
  ⟨h.nodup, h.lt_of_mem, h.lt_of_schedulerID⟩

theorem FreshIDs.finished (h : c.FreshIDs) (r : ScheduleRef) : (c.finished r).FreshIDs := by
  have hguid : (c.finished r).scheduler.nextGuid = c.scheduler.nextGuid :=
    nextGuid_endSchedule c.scheduler _
  refine ⟨nodup_endSchedule h.nodup _, fun t ht => ?_, fun r' id hid => ?_⟩
  · rw [hguid]
    exact h.lt_of_mem t ((mem_tasks_finished h).mp ht).1
  · rw [hguid]
    exact h.lt_of_schedulerID r' id hid

/-- The connection after the tasks of some schedules were ended. -/
def finishedAll (c : MachineConnection Cron) (rs : List ScheduleRef) : MachineConnection Cron :=
  rs.foldl finished c

@[simp]
theorem finishedAll_nil (c : MachineConnection Cron) : c.finishedAll [] = c := rfl

@[simp]
theorem finishedAll_cons (c : MachineConnection Cron) (r : ScheduleRef) (rs : List ScheduleRef) :
    c.finishedAll (r :: rs) = (c.finished r).finishedAll rs := rfl

theorem finishedAll_append (c : MachineConnection Cron) (rs rs' : List ScheduleRef) :
    c.finishedAll (rs ++ rs') = (c.finishedAll rs).finishedAll rs' :=
  List.foldl_append

theorem finishedAll_setState (c : MachineConnection Cron) (rs : List ScheduleRef)
    (s : MachineState) : (c.setState s).finishedAll rs = (c.finishedAll rs).setState s := by
  induction rs generalizing c with
  | nil => rfl
  | cons r rs ih => exact ih (c.finished r)

theorem run_forM_finish {env : Environment Cron} {rs : List ScheduleRef} :
    (forM (rs.map SchedulingStep.finish) (perform env)).run c = .ok () (c.finishedAll rs) := by
  induction rs generalizing c with
  | nil => rfl
  | cons r rs ih => rw [List.map_cons, List.forM_cons, run_bind_ok run_finish, ih, finishedAll_cons]

theorem preprocessScheduler_eq (c : MachineConnection Cron) (u : MachineStateUpdate) :
    c.setScheduler (c.preprocessScheduler u) =
      c.finishedAll ((c.orphans u).map ScheduleRef.print) := by
  have hall : ∀ (prints : List ScheduledPrintRef) (sch : CronScheduler Cron),
      c.setScheduler (prints.foldl (fun sch sp =>
        endSchedule sch (c.heap.scheduledPrints sp).schedulerID) sch) =
      (c.setScheduler sch).finishedAll (prints.map ScheduleRef.print) := by
    intro prints
    induction prints with
    | nil => exact fun _ => rfl
    | cons sp prints ih => exact fun sch => ih _
  exact hall _ _

/-- Ending tasks leaves everything but the scheduler alone. -/
theorem finishedAll_frame (c : MachineConnection Cron) (rs : List ScheduleRef) :
    (c.finishedAll rs).self = c.self ∧ (c.finishedAll rs).state = c.state ∧
      (c.finishedAll rs).heap = c.heap ∧
      (c.finishedAll rs).scheduler.isDisposed = c.scheduler.isDisposed := by
  induction rs generalizing c with
  | nil => exact ⟨rfl, rfl, rfl, rfl⟩
  | cons r rs ih =>
    obtain ⟨hself, hstate, hheap, hdisposed⟩ := ih (c.finished r)
    exact ⟨hself, hstate, hheap, hdisposed.trans (isDisposed_endSchedule c.scheduler _)⟩

theorem FreshIDs.finishedAll (h : c.FreshIDs) (rs : List ScheduleRef) :
    (c.finishedAll rs).FreshIDs := by
  induction rs generalizing c with
  | nil => exact h
  | cons r rs ih => exact ih (h.finished r)

theorem mem_tasks_finishedAll (h : c.FreshIDs) {rs : List ScheduleRef} {t : ScheduledTask Cron} :
    t ∈ (c.finishedAll rs).scheduler.tasks ↔
      t ∈ c.scheduler.tasks ∧ ∀ r ∈ rs, c.heap.schedulerID r ≠ some t.id := by
  induction rs generalizing c with
  | nil => simp
  | cons r rs ih =>
    rw [finishedAll_cons, ih (h.finished r), mem_tasks_finished h, heap_finished, and_assoc,
      List.forall_mem_cons]

end Ending

/-- However far the steps get, the identifiers stay fresh. -/
theorem FreshIDs.steps {env : Environment Cron} {c : MachineConnection Cron} (h : c.FreshIDs)
    (steps : List SchedulingStep) :
    (finalState ((forM steps (perform env)).run c)).FreshIDs := by
  induction steps generalizing c with
  | nil => exact h
  | cons step steps ih =>
    rw [List.forM_cons]
    cases step with
    | finish r =>
      rw [run_bind_ok run_finish]
      exact ih (h.finished r)
    | start action =>
      by_cases hneeds : c.NeedsTask action.schedule
      · cases hnext : env.getNextOccurrence (c.heap.timing action.schedule) with
        | none =>
          rw [run_bind_error (run_start_of_no_next hneeds hnext)]
          exact h.addTask _ none action
        | some next =>
          rw [run_bind_ok (run_start_of_next hneeds hnext)]
          exact ih (h.started action next)
      · rw [run_bind_ok (run_start_of_not_needsTask hneeds)]
        exact ih h

/-! ### When the scheduling part raises -/

theorem isTaskRunning_started (c : MachineConnection Cron) (action : TaskAction)
    (next : DateTimeOffset) {id : Guid} (h : id ≠ c.scheduler.nextGuid) :
    (c.started action next).scheduler.isTaskRunning id = c.scheduler.isTaskRunning id := by
  rw [started, scheduler_setSchedulerID]
  change ((c.scheduler.tasks ++ [_]).any _ && !c.scheduler.isDisposed) = _
  have hne : ((c.scheduler.nextGuid == id) = false) := beq_eq_false_iff_ne.mpr h.symm
  rw [List.any_append, List.any_cons, List.any_nil, Bool.or_false]
  change ((_ || (c.scheduler.nextGuid == id)) && _) = _
  rw [hne, Bool.or_false]
  rfl

theorem isTaskRunning_finished {c : MachineConnection Cron} (hc : c.FreshIDs) (r : ScheduleRef)
    (id : Guid) : (c.finished r).scheduler.isTaskRunning id = true ↔
      c.scheduler.isTaskRunning id = true ∧ c.heap.schedulerID r ≠ some id := by
  have hdisposed : (c.finished r).scheduler.isDisposed = c.scheduler.isDisposed :=
    isDisposed_endSchedule c.scheduler _
  rw [isTaskRunning_iff, isTaskRunning_iff, hdisposed]
  simp only [mem_tasks_finished hc]
  constructor
  · rintro ⟨⟨t, ⟨ht, hne⟩, rfl⟩, hd⟩
    exact ⟨⟨⟨t, ht, rfl⟩, hd⟩, hne⟩
  · rintro ⟨⟨⟨t, ht, rfl⟩, hd⟩, hne⟩
    exact ⟨⟨t, ⟨ht, hne⟩, rfl⟩, hd⟩

/-- A schedule to start that has no next occurrence, although it needs a task: it has none that
runs, or an earlier step ends the one it has. -/
def LacksOccurrence (env : Environment Cron) (c : MachineConnection Cron)
    (pre : List SchedulingStep) (action : TaskAction) : Prop :=
  env.getNextOccurrence (c.heap.timing action.schedule) = none ∧
    (c.NeedsTask action.schedule ∨
      ∃ r, .finish r ∈ pre ∧ c.heap.schedulerID r = c.heap.schedulerID action.schedule)

/-- Some schedule that the steps start lacks an occurrence. -/
def StartsWithoutOccurrence (env : Environment Cron) (c : MachineConnection Cron)
    (steps : List SchedulingStep) : Prop :=
  ∃ pre action post, steps = pre ++ .start action :: post ∧ c.LacksOccurrence env pre action

section Raises

variable {env : Environment Cron} {c c' : MachineConnection Cron} {pre : List SchedulingStep}
  {action : TaskAction}

/-- Starting another task does not change what an occurrence is missing for. -/
theorem lacksOccurrence_started (hc : c.FreshIDs) {b : TaskAction} {next : DateTimeOffset}
    (hb : c.NeedsTask b.schedule)
    (hnext : env.getNextOccurrence (c.heap.timing b.schedule) = some next) :
    (c.started b next).LacksOccurrence env pre action ↔
      c.LacksOccurrence env (.start b :: pre) action := by
  have htiming : (c.started b next).heap.timing action.schedule =
      c.heap.timing action.schedule := timing_setSchedulerID _ _ _ _
  have hid : ∀ r, (c.started b next).heap.schedulerID r =
      if r = b.schedule then some c.scheduler.nextGuid else c.heap.schedulerID r :=
    fun r => schedulerID_setSchedulerID _ _ _ _
  rw [LacksOccurrence, LacksOccurrence, htiming]
  refine and_congr_right fun hnone => ?_
  have hne : action.schedule ≠ b.schedule := by
    intro h
    rw [h, hnext] at hnone
    cases hnone
  have hfresh : c.heap.schedulerID action.schedule ≠ some c.scheduler.nextGuid := fun h =>
    lt_irrefl _ (hc.lt_of_schedulerID _ _ h)
  have hneeds : (c.started b next).NeedsTask action.schedule ↔ c.NeedsTask action.schedule := by
    cases ha : c.heap.schedulerID action.schedule with
    | none => simp [NeedsTask, hid, hne, ha, needsTask]
    | some id =>
      have ha' : (c.started b next).heap.schedulerID action.schedule = some id := by
        rw [hid, if_neg hne, ha]
      rw [needsTask_some_iff ha, needsTask_some_iff ha',
        isTaskRunning_started _ _ _ fun h => hfresh (h ▸ ha)]
  rw [hneeds, hid action.schedule, if_neg hne]
  simp only [List.mem_cons, reduceCtorEq, false_or]
  refine ⟨Or.imp_right fun ⟨r, hr, heq⟩ => ⟨r, hr, ?_⟩, ?_⟩
  · rw [hid] at heq
    split at heq
    · exact absurd heq.symm hfresh
    · exact heq
  · rintro (h | ⟨r, hr, heq⟩)
    · exact .inl h
    · by_cases hrb : r = b.schedule
      · -- The schedule shares the identifier of one that needs a task.
        refine .inl ?_
        rw [NeedsTask, ← heq, hrb]
        exact hb
      · exact .inr ⟨r, hr, by rw [hid, if_neg hrb, heq]⟩

/-- Ending a task is remembered as an earlier step. -/
theorem lacksOccurrence_finished (hc : c.FreshIDs) {r : ScheduleRef} :
    (c.finished r).LacksOccurrence env pre action ↔
      c.LacksOccurrence env (.finish r :: pre) action := by
  rw [LacksOccurrence, LacksOccurrence]
  refine and_congr_right fun _ => ?_
  have hneeds : (c.finished r).NeedsTask action.schedule ↔
      c.NeedsTask action.schedule ∨ c.heap.schedulerID r = c.heap.schedulerID action.schedule := by
    cases ha : c.heap.schedulerID action.schedule with
    | none => simp [NeedsTask, ha, needsTask]
    | some id =>
      rw [needsTask_some_iff ha, needsTask_some_iff (c := c.finished r) ha,
        ← Bool.not_eq_true, ← Bool.not_eq_true, isTaskRunning_finished hc, not_and_or, not_not]
  rw [hneeds, heap_finished]
  simp only [List.mem_cons, SchedulingStep.finish.injEq]
  constructor
  · rintro ((h | h) | ⟨r', hr', heq⟩)
    · exact .inl h
    · exact .inr ⟨r, .inl rfl, h⟩
    · exact .inr ⟨r', .inr hr', heq⟩
  · rintro (h | ⟨r', rfl | hr', heq⟩)
    · exact .inl (.inl h)
    · exact .inl (.inr heq)
    · exact .inr ⟨r', hr', heq⟩

theorem startsWithoutOccurrence_cons_iff {step : SchedulingStep} {steps : List SchedulingStep}
    (hhead : ∀ a, step = .start a → ¬ c.LacksOccurrence env [] a)
    (htail : ∀ pre action, c'.LacksOccurrence env pre action ↔
      c.LacksOccurrence env (step :: pre) action) :
    c.StartsWithoutOccurrence env (step :: steps) ↔ c'.StartsWithoutOccurrence env steps := by
  constructor
  · rintro ⟨pre, action, post, heq, hlacks⟩
    cases pre with
    | nil =>
      rw [List.nil_append, List.cons.injEq] at heq
      exact absurd hlacks (hhead action heq.1)
    | cons p pre =>
      rw [List.cons_append, List.cons.injEq] at heq
      obtain ⟨rfl, rfl⟩ := heq
      exact ⟨pre, action, post, rfl, (htail pre action).mpr hlacks⟩
  · rintro ⟨pre, action, post, rfl, hlacks⟩
    exact ⟨step :: pre, action, post, rfl, (htail pre action).mp hlacks⟩

/-- **The scheduling part raises just when a schedule to start lacks an occurrence.** -/
theorem exists_run_steps_error_iff {steps : List SchedulingStep} (hc : c.FreshIDs) :
    (∃ f c', (forM steps (perform env)).run c = .error f c') ↔
      c.StartsWithoutOccurrence env steps := by
  induction steps generalizing c with
  | nil =>
    refine ⟨fun ⟨f, c', h⟩ => (by cases h), ?_⟩
    rintro ⟨pre, action, post, h, -⟩
    exact absurd h.symm (by simp)
  | cons step steps ih =>
    rw [List.forM_cons]
    cases step with
    | finish r =>
      rw [run_bind_ok run_finish, ih (hc.finished r)]
      exact (startsWithoutOccurrence_cons_iff (fun a h => by cases h)
        fun _ _ => lacksOccurrence_finished hc).symm
    | start b =>
      by_cases hb : c.NeedsTask b.schedule
      · cases hnext : env.getNextOccurrence (c.heap.timing b.schedule) with
        | none =>
          rw [run_bind_error (run_start_of_no_next hb hnext)]
          exact ⟨fun _ => ⟨[], b, steps, rfl, hnext, .inl hb⟩, fun _ => ⟨_, _, rfl⟩⟩
        | some next =>
          rw [run_bind_ok (run_start_of_next hb hnext), ih (hc.started b next)]
          refine (startsWithoutOccurrence_cons_iff (fun a h hlacks => ?_)
            fun _ _ => lacksOccurrence_started hc hb hnext).symm
          cases h
          rw [hlacks.1] at hnext
          cases hnext
      · rw [run_bind_ok (run_start_of_not_needsTask hb), ih hc]
        refine (startsWithoutOccurrence_cons_iff (fun a h hlacks => ?_) fun pre action => ?_).symm
        · cases h
          rcases hlacks.2 with h | ⟨r, hr, -⟩
          · exact hb h
          · cases hr
        · simp only [LacksOccurrence, List.mem_cons, reduceCtorEq, false_or]

end Raises

end MachineConnection

end Connect3Dp
