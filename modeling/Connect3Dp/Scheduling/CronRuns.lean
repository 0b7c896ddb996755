import Connect3Dp.Builder.Faulting
import Connect3Dp.Runtime.Transition
import Connect3Dp.Scheduling.CronScheduler
import Mathlib.Data.List.Basic

/-!
# Runs of the CRON scheduler

A timer callback reads the time, collects the due tasks under the lock and then hands them to the
thread pool one by one, which starts them when it likes. Callbacks overlap, so a time may be older
than one that was already used. `CronRun` is the scheduler with the callbacks and the queued work;
`collections` is what the callbacks have collected so far, as the tasks were then.

A task is never collected twice for one occurrence (`Ordered`). That it was ended is not looked at
again once it is collected: `startsNever_iff` says when it is not started any more.
-/

namespace Connect3Dp

namespace CronScheduler

variable {Cron : Type}

/-- `t.NextRun.HasValue && t.NextRun.Value <= now`. -/
def isDue (now : DateTimeOffset) (t : ScheduledTask Cron) : Bool :=
  t.nextRun.any fun nextRun => nextRun.utcTicks ≤ now.utcTicks

/-- The part of `CheckScheduledTasks` under the lock: `tasksToRun`, and the scheduler that is
left. -/
def checkScheduledTasks (getNextOccurrence : Cron → DateTimeOffset → Option DateTimeOffset)
    (now : DateTimeOffset) (sch : CronScheduler Cron) :
    List (ScheduledTask Cron) × CronScheduler Cron :=
  (sch.tasks.filter (isDue now),
    { sch with tasks := sch.tasks.map fun t =>
        if isDue now t then { t with nextRun := getNextOccurrence t.expression now } else t })

/-- What `End` returns. -/
def ends (sch : CronScheduler Cron) (taskId : Guid) : Bool := sch.tasks.any fun t => t.id == taskId

/-- The documented behaviour of `GetNextOccurrence`: the least occurrence after a time. -/
def IsNextOccurrence (occurs : Cron → DateTimeOffset → Prop)
    (getNextOccurrence : Cron → DateTimeOffset → Option DateTimeOffset) : Prop :=
  ∀ expression t,
    match getNextOccurrence expression t with
    | some o => occurs expression o ∧ t.utcTicks < o.utcTicks ∧
        ∀ o', occurs expression o' → t.utcTicks < o'.utcTicks → o.utcTicks ≤ o'.utcTicks
    | none => ∀ o', occurs expression o' → o'.utcTicks ≤ t.utcTicks

end CronScheduler

/-- A scheduler, the times of the callbacks that wait for the lock, what is left of `tasksToRun` of
those that had it, and the work that is queued on the thread pool. -/
structure CronRun (Cron : Type) where
  scheduler : CronScheduler Cron
  waiting : List DateTimeOffset
  callbacks : List (List (ScheduledTask Cron))
  pool : List (ScheduledTask Cron)
  collections : List (ScheduledTask Cron)

inductive CronEvent (Cron : Type)
  /-- `ScheduleAsync`, at a time. -/
  | schedule (now : DateTimeOffset) (expression : Cron) (owner : ConnectionRef)
      (action : TaskAction)
  | endTask (id : Guid)
  /-- A callback reads the time. -/
  | callback (now : DateTimeOffset)
  /-- A callback that waits gets the lock. -/
  | collect (callback : ℕ)
  /-- A callback comes to `Task.Run`. -/
  | queue (callback : ℕ)
  /-- The thread pool starts the action of a task. -/
  | start (work : ℕ)
  /-- `Dispose`, whose two parts are not one. -/
  | dispose
  | clear

namespace CronRun

variable {Cron : Type}

def perform (getNextOccurrence : Cron → DateTimeOffset → Option DateTimeOffset) (σ : CronRun Cron) :
    CronEvent Cron → Option (CronRun Cron)
  | .schedule now expression owner action =>
    some { σ with scheduler := finalState ((CronScheduler.scheduleAsync
      (fun expression => getNextOccurrence expression now) expression owner action).run
        σ.scheduler) }
  | .endTask id => some { σ with scheduler := σ.scheduler.endTask id }
  | .callback now =>
    if σ.scheduler.isDisposed then none else some { σ with waiting := σ.waiting ++ [now] }
  | .collect i =>
    σ.waiting[i]?.map fun now =>
      let (tasksToRun, scheduler) := σ.scheduler.checkScheduledTasks getNextOccurrence now
      { σ with
        scheduler
        waiting := σ.waiting.eraseIdx i
        callbacks := σ.callbacks ++ [tasksToRun]
        collections := σ.collections ++ tasksToRun }
  | .queue i =>
    match σ.callbacks[i]? with
    | some (task :: rest) =>
      some { σ with callbacks := σ.callbacks.set i rest, pool := σ.pool ++ [task] }
    | _ => none
  | .start j => if j < σ.pool.length then some { σ with pool := σ.pool.eraseIdx j } else none
  | .dispose => some { σ with scheduler := { σ.scheduler with isDisposed := true } }
  | .clear =>
    if σ.scheduler.isDisposed then
      some { σ with scheduler := { σ.scheduler with tasks := [] } }
    else none

def Step (getNextOccurrence : Cron → DateTimeOffset → Option DateTimeOffset)
    (σ σ' : CronRun Cron) : Prop := ∃ e, σ.perform getNextOccurrence e = some σ'

/-- No task was scheduled yet. -/
structure Initial (σ : CronRun Cron) : Prop where
  tasks : σ.scheduler.tasks = []
  waiting : σ.waiting = []
  callbacks : σ.callbacks = []
  pool : σ.pool = []
  collections : σ.collections = []

/-- The `NextRun` values at which a task was collected, in this order. -/
def collectedAt (σ : CronRun Cron) (id : Guid) : List DateTimeOffset :=
  (σ.collections.filter fun t => t.id == id).filterMap ScheduledTask.nextRun

/-- The event starts the action of a task. -/
def Starts (σ : CronRun Cron) (id : Guid) : CronEvent Cron → Prop
  | .start j => ∃ t, σ.pool[j]? = some t ∧ t.id = id
  | _ => False

/-- The task was collected and not started yet. -/
def Pending (σ : CronRun Cron) (id : Guid) : Prop :=
  (∃ tasksToRun ∈ σ.callbacks, ∃ t ∈ tasksToRun, t.id = id) ∨ ∃ t ∈ σ.pool, t.id = id

/-! ### The steps of the scheduler -/

variable {getNextOccurrence : Cron → DateTimeOffset → Option DateTimeOffset}
  {occurs : Cron → DateTimeOffset → Prop} {σ σ' : CronRun Cron} {e : CronEvent Cron}

theorem scheduler_schedule (sch : CronScheduler Cron) (next : Cron → Option DateTimeOffset)
    (expression : Cron) (owner : ConnectionRef) (action : TaskAction) :
    finalState ((CronScheduler.scheduleAsync next expression owner action).run sch) =
      sch.addTask expression (next expression) owner action := by
  cases h : next expression with
  | some o => rw [CronScheduler.run_scheduleAsync_some h, finalState]
  | none => rw [CronScheduler.run_scheduleAsync_none h, finalState]

/-- What is left of the tasks after a callback: the same tasks, and each with its `NextRun` or the
next occurrence. -/
theorem mem_checkScheduledTasks {now : DateTimeOffset} {sch : CronScheduler Cron}
    {t' : ScheduledTask Cron} :
    t' ∈ (sch.checkScheduledTasks getNextOccurrence now).2.tasks ↔ ∃ t ∈ sch.tasks,
      t' = if CronScheduler.isDue now t then
        { t with nextRun := getNextOccurrence t.expression now } else t := by
  simp only [CronScheduler.checkScheduledTasks, List.mem_map, eq_comm]

theorem isDue_iff {now : DateTimeOffset} {t : ScheduledTask Cron} :
    CronScheduler.isDue now t = true ↔
      ∃ o, t.nextRun = some o ∧ o.utcTicks ≤ now.utcTicks := by
  simp only [CronScheduler.isDue, Option.any_eq_true, decide_eq_true_eq]

/-- The ids of the tasks after a callback are those before it. -/
theorem map_id_checkScheduledTasks (now : DateTimeOffset) (sch : CronScheduler Cron) :
    (sch.checkScheduledTasks getNextOccurrence now).2.tasks.map ScheduledTask.id =
      sch.tasks.map ScheduledTask.id := by
  rw [CronScheduler.checkScheduledTasks, List.map_map]
  refine List.map_congr_left fun t _ => ?_
  dsimp only [Function.comp]
  split
  all_goals rfl

/-- What a step does to the tasks: some are taken away, one is added, or a callback collects. -/
theorem step_tasks_cases (hstep : Step getNextOccurrence σ σ') :
    (σ'.scheduler.tasks.Sublist σ.scheduler.tasks ∧
      σ'.scheduler.nextGuid = σ.scheduler.nextGuid ∧ σ'.collections = σ.collections) ∨
    (∃ now expression owner action, σ'.scheduler =
        σ.scheduler.addTask expression (getNextOccurrence expression now) owner action ∧
      σ'.collections = σ.collections) ∨
    ∃ now, σ'.scheduler = (σ.scheduler.checkScheduledTasks getNextOccurrence now).2 ∧
      σ'.collections =
        σ.collections ++ (σ.scheduler.checkScheduledTasks getNextOccurrence now).1 := by
  obtain ⟨e, he⟩ := hstep
  cases e with
  | schedule now expression owner action =>
    cases he
    exact .inr (.inl ⟨now, expression, owner, action, scheduler_schedule .., rfl⟩)
  | endTask id =>
    cases he
    exact .inl ⟨List.eraseP_sublist, rfl, rfl⟩
  | callback now =>
    simp only [perform] at he
    split at he
    · cases he
    · cases he
      exact .inl ⟨List.Sublist.refl _, rfl, rfl⟩
  | collect i =>
    obtain ⟨now, -, rfl⟩ := Option.map_eq_some_iff.mp he
    exact .inr (.inr ⟨now, rfl, rfl⟩)
  | queue i =>
    simp only [perform] at he
    split at he
    · cases he
      exact .inl ⟨List.Sublist.refl _, rfl, rfl⟩
    · cases he
  | start j =>
    simp only [perform] at he
    split at he
    · cases he
      exact .inl ⟨List.Sublist.refl _, rfl, rfl⟩
    · cases he
  | dispose =>
    cases he
    exact .inl ⟨List.Sublist.refl _, rfl, rfl⟩
  | clear =>
    simp only [perform] at he
    split at he
    · cases he
      exact .inl ⟨List.nil_sublist _, rfl, rfl⟩
    · cases he

/-! ### Ids -/

/-- No id is used twice. -/
structure UniqueIDs (σ : CronRun Cron) : Prop where
  nodup : (σ.scheduler.tasks.map ScheduledTask.id).Nodup
  fresh : ∀ t ∈ σ.scheduler.tasks, t.id < σ.scheduler.nextGuid
  freshCollections : ∀ t ∈ σ.collections, t.id < σ.scheduler.nextGuid

theorem mem_addTask_iff {sch : CronScheduler Cron} {expression : Cron}
    {next : Option DateTimeOffset} {owner : ConnectionRef} {action : TaskAction}
    {t : ScheduledTask Cron} : t ∈ (sch.addTask expression next owner action).tasks ↔
      t ∈ sch.tasks ∨ t = ⟨sch.nextGuid, expression, next, owner, action⟩ := by
  simp [CronScheduler.addTask]

theorem UniqueIDs.step (h : σ.UniqueIDs) (hstep : Step getNextOccurrence σ σ') :
    σ'.UniqueIDs := by
  obtain ⟨htasks, hguid, hcollections⟩ | ⟨now, expression, owner, action, hscheduler,
    hcollections⟩ | ⟨now, hscheduler, hcollections⟩ := step_tasks_cases hstep
  · exact ⟨h.nodup.sublist (htasks.map _), fun t ht => hguid ▸ h.fresh t (htasks.subset ht),
      fun t ht => hguid ▸ h.freshCollections t (hcollections ▸ ht)⟩
  · have hguid : σ'.scheduler.nextGuid = σ.scheduler.nextGuid + 1 := by
      rw [hscheduler]
      rfl
    refine ⟨?_, fun t ht => ?_, fun t ht => ?_⟩
    -- a new task has an id that no task had
    · have hnew : σ.scheduler.nextGuid ∉ σ.scheduler.tasks.map ScheduledTask.id := by
        intro hold
        obtain ⟨t, ht, hid⟩ := List.mem_map.mp hold
        exact absurd hid (Nat.ne_of_lt (h.fresh t ht))
      rw [hscheduler]
      simp only [CronScheduler.addTask, List.map_append, List.map_cons, List.map_nil]
      rw [List.nodup_append]
      refine ⟨h.nodup, List.nodup_singleton _, fun id hid id' hid' heq => hnew ?_⟩
      rw [← List.mem_singleton.mp hid', ← heq]
      exact hid
    · rw [hguid]
      rw [hscheduler] at ht
      rcases mem_addTask_iff.mp ht with hold | rfl
      · exact Nat.lt_succ_of_lt (h.fresh t hold)
      · exact Nat.lt_succ_self _
    · rw [hguid]
      exact Nat.lt_succ_of_lt (h.freshCollections t (hcollections ▸ ht))
  · have hguid : σ'.scheduler.nextGuid = σ.scheduler.nextGuid := by
      rw [hscheduler]
      rfl
    refine ⟨?_, fun t' ht' => ?_, fun t ht => ?_⟩
    · rw [hscheduler, map_id_checkScheduledTasks]
      exact h.nodup
    -- a callback changes `NextRun` only, so the ids are the old ones
    · have hid : t'.id ∈ σ.scheduler.tasks.map ScheduledTask.id := by
        rw [← map_id_checkScheduledTasks now, ← hscheduler]
        exact List.mem_map_of_mem ht'
      obtain ⟨t, ht, hid⟩ := List.mem_map.mp hid
      rw [hguid, ← hid]
      exact h.fresh t ht
    · rw [hguid]
      rcases List.mem_append.mp (hcollections ▸ ht) with hold | hnew
      · exact h.freshCollections t hold
      · exact h.fresh t (List.mem_filter.mp hnew).1

theorem uniqueIDs_of_reachable (hrun : Reachable Initial (Step getNextOccurrence) σ) :
    σ.UniqueIDs := by
  refine hrun.induct (fun σ h => ⟨?_, ?_, ?_⟩) fun _ _ _ h hstep => h.step hstep
  · simp [h.tasks]
  · simp [h.tasks]
  · simp [h.collections]

/-! ### Once per occurrence -/

/-- Every task that was collected runs next at a later time. -/
structure Ordered (occurs : Cron → DateTimeOffset → Prop) (σ : CronRun Cron) : Prop where
  expected : ∀ t ∈ σ.scheduler.tasks, ∀ o, t.nextRun = some o → occurs t.expression o
  collected : ∀ t ∈ σ.collections, ∃ o, t.nextRun = some o ∧ occurs t.expression o
  later : ∀ t ∈ σ.collections, ∀ t' ∈ σ.scheduler.tasks, t.id = t'.id →
    ∀ o o', t.nextRun = some o → t'.nextRun = some o' → o.utcTicks < o'.utcTicks
  increasing : σ.collections.Pairwise fun t t' => t.id = t'.id →
    ∀ o o', t.nextRun = some o → t'.nextRun = some o' → o.utcTicks < o'.utcTicks

theorem ordered_initial (h : Initial σ) : σ.Ordered occurs where
  expected := by simp [h.tasks]
  collected := by simp [h.collections]
  later := by simp [h.collections]
  increasing := by simp [h.collections]

/-- A callback leaves no task that runs next at or before its time, and a task that is left has its
old `NextRun` or was due. -/
theorem lt_nextRun_of_mem (hcronos : CronScheduler.IsNextOccurrence occurs getNextOccurrence)
    {now : DateTimeOffset} {sch : CronScheduler Cron} {t' : ScheduledTask Cron}
    {o' : DateTimeOffset}
    (ht' : t' ∈ (sch.checkScheduledTasks getNextOccurrence now).2.tasks)
    (ho' : t'.nextRun = some o') :
    now.utcTicks < o'.utcTicks ∧ ∃ t ∈ sch.tasks, t.id = t'.id ∧ t.expression = t'.expression ∧
      (t.nextRun = some o' ∨ CronScheduler.isDue now t = true ∧ occurs t'.expression o') := by
  obtain ⟨t, ht, rfl⟩ := mem_checkScheduledTasks.mp ht'
  by_cases hdue : CronScheduler.isDue now t = true
  · rw [if_pos hdue] at ho' ⊢
    have hnext := hcronos t.expression now
    rw [show getNextOccurrence t.expression now = some o' from ho'] at hnext
    exact ⟨hnext.2.1, t, ht, rfl, rfl, .inr ⟨hdue, hnext.1⟩⟩
  · rw [if_neg hdue] at ho' ⊢
    refine ⟨?_, t, ht, rfl, rfl, .inl ho'⟩
    by_contra hle
    exact hdue (isDue_iff.mpr ⟨o', ho', Int.not_lt.mp hle⟩)

/-- The collection of a callback. -/
theorem Ordered.collect (h : σ.Ordered occurs) (hids : σ.UniqueIDs)
    (hcronos : CronScheduler.IsNextOccurrence occurs getNextOccurrence) {now : DateTimeOffset}
    (hscheduler : σ'.scheduler = (σ.scheduler.checkScheduledTasks getNextOccurrence now).2)
    (hcollections : σ'.collections =
      σ.collections ++ (σ.scheduler.checkScheduledTasks getNextOccurrence now).1) :
    σ'.Ordered occurs := by
  have hdue : ∀ t ∈ (σ.scheduler.checkScheduledTasks getNextOccurrence now).1,
      t ∈ σ.scheduler.tasks ∧ ∃ o, t.nextRun = some o ∧ o.utcTicks ≤ now.utcTicks := by
    intro t ht
    obtain ⟨ht, hdue⟩ := List.mem_filter.mp ht
    exact ⟨ht, isDue_iff.mp hdue⟩
  refine ⟨fun t' ht' o' ho' => ?_, fun t ht => ?_, fun t ht t' ht' hid o o' ho ho' => ?_, ?_⟩
  · rw [hscheduler] at ht'
    obtain ⟨-, t, ht, -, hexpression, hsame | ⟨-, hoccurs⟩⟩ := lt_nextRun_of_mem hcronos ht' ho'
    · exact hexpression ▸ h.expected t ht o' hsame
    · exact hoccurs
  · rcases List.mem_append.mp (hcollections ▸ ht) with hold | hnew
    · exact h.collected t hold
    · obtain ⟨htask, o, ho, -⟩ := hdue t hnew
      exact ⟨o, ho, h.expected t htask o ho⟩
  · rw [hscheduler] at ht'
    obtain ⟨hlt, t₀, ht₀, hid₀, -, hnext⟩ := lt_nextRun_of_mem hcronos ht' ho'
    rcases List.mem_append.mp (hcollections ▸ ht) with hold | hnew
    · -- an older collection lies before the `NextRun` that the callback met
      rcases hnext with hsame | ⟨hdue₀, -⟩
      · exact h.later t hold t₀ ht₀ (hid.trans hid₀.symm) o o' ho hsame
      · obtain ⟨o₀, ho₀, hle⟩ := isDue_iff.mp hdue₀
        have hlater := h.later t hold t₀ ht₀ (hid.trans hid₀.symm) o o₀ ho ho₀
        omega
    -- the collection itself is at or before the time that every `NextRun` now lies after
    · obtain ⟨-, o₁, ho₁, hle⟩ := hdue t hnew
      have hsame : o₁ = o := Option.some.inj (ho₁.symm.trans ho)
      rw [hsame] at hle
      omega
  · rw [hcollections, List.pairwise_append]
    refine ⟨h.increasing, ?_, fun t hold t' hnew hid o o' ho ho' => ?_⟩
    · -- a callback collects a task once
      have hnodup : ((σ.scheduler.checkScheduledTasks getNextOccurrence now).1.map
          ScheduledTask.id).Nodup := hids.nodup.sublist (List.filter_sublist.map _)
      exact (List.pairwise_map.mp hnodup).imp fun hne hid => absurd hid hne
    · exact h.later t hold t' (hdue t' hnew).1 hid o o' ho ho'

theorem Ordered.step (h : σ.Ordered occurs) (hids : σ.UniqueIDs)
    (hcronos : CronScheduler.IsNextOccurrence occurs getNextOccurrence)
    (hstep : Step getNextOccurrence σ σ') : σ'.Ordered occurs := by
  obtain ⟨htasks, -, hcollections⟩ | ⟨now, expression, owner, action, hscheduler,
    hcollections⟩ | ⟨now, hscheduler, hcollections⟩ := step_tasks_cases hstep
  · exact ⟨fun t ht => h.expected t (htasks.subset ht),
      fun t ht => h.collected t (hcollections ▸ ht),
      fun t ht t' ht' => h.later t (hcollections ▸ ht) t' (htasks.subset ht'),
      hcollections ▸ h.increasing⟩
  · refine ⟨fun t ht o ho => ?_, fun t ht => h.collected t (hcollections ▸ ht),
      fun t ht t' ht' hid => ?_, hcollections ▸ h.increasing⟩
    · rw [hscheduler] at ht
      rcases mem_addTask_iff.mp ht with hold | rfl
      · exact h.expected t hold o ho
      · have hnext := hcronos expression now
        rw [show getNextOccurrence expression now = some o from ho] at hnext
        exact hnext.1
    · rw [hcollections] at ht
      rw [hscheduler] at ht'
      rcases mem_addTask_iff.mp ht' with hold | rfl
      · exact h.later t ht t' hold hid
      · exact absurd hid (Nat.ne_of_lt (hids.freshCollections t ht))
  · exact h.collect hids hcronos hscheduler hcollections

theorem ordered_of_reachable
    (hcronos : CronScheduler.IsNextOccurrence occurs getNextOccurrence)
    (hrun : Reachable Initial (Step getNextOccurrence) σ) : σ.Ordered occurs :=
  hrun.induct (fun _ h => ordered_initial h) fun _ _ hreached h hstep =>
    h.step (uniqueIDs_of_reachable hreached) hcronos hstep

/-- **Once per occurrence.** The `NextRun` values at which a task is collected are occurrences of
its expression and increase strictly, and a callback collects every task whose `NextRun` is at or
before its time and leaves every `NextRun` after it. -/
theorem collected_oncePerOccurrence
    (hcronos : CronScheduler.IsNextOccurrence occurs getNextOccurrence)
    (hrun : Reachable Initial (Step getNextOccurrence) σ) :
    (∀ id, (σ.collectedAt id).Nodup ∧
      (σ.collectedAt id).Pairwise fun o o' => o.utcTicks < o'.utcTicks) ∧
    (∀ t ∈ σ.collections, ∃ o, t.nextRun = some o ∧ occurs t.expression o) ∧
    ∀ i now, σ.waiting[i]? = some now → ∀ σ', σ.perform getNextOccurrence (.collect i) = some σ' →
      ∃ tasksToRun, σ'.collections = σ.collections ++ tasksToRun ∧
        (∀ t ∈ σ.scheduler.tasks, ∀ o, t.nextRun = some o →
          (t ∈ tasksToRun ↔ o.utcTicks ≤ now.utcTicks)) ∧
        ∀ t ∈ σ'.scheduler.tasks, ∀ o, t.nextRun = some o → now.utcTicks < o.utcTicks := by
  have hordered := ordered_of_reachable hcronos hrun
  have hincreasing : ∀ id, (σ.collectedAt id).Pairwise fun o o' => o.utcTicks < o'.utcTicks := by
    intro id
    rw [collectedAt, List.pairwise_filterMap]
    refine List.Pairwise.imp_of_mem ?_ (hordered.increasing.filter _)
    intro t t' ht ht' hlt o ho o' ho'
    have hid : t.id = id := by simpa using (List.mem_filter.mp ht).2
    have hid' : t'.id = id := by simpa using (List.mem_filter.mp ht').2
    exact hlt (hid.trans hid'.symm) o o' ho ho'
  refine ⟨fun id => ⟨?_, hincreasing id⟩, hordered.collected, fun i now hwaiting σ' hstep => ?_⟩
  -- times that increase strictly are all different
  · refine (hincreasing id).imp fun hlt heq => ?_
    rw [heq] at hlt
    omega
  · obtain ⟨now', hnow', rfl⟩ := Option.map_eq_some_iff.mp hstep
    have hnow : now' = now := Option.some.inj (hnow'.symm.trans hwaiting)
    subst hnow
    refine ⟨_, rfl, fun t ht o ho => ?_, fun t ht o ho => (lt_nextRun_of_mem hcronos ht ho).1⟩
    rw [CronScheduler.checkScheduledTasks, List.mem_filter, isDue_iff]
    constructor
    · rintro ⟨-, o', ho', hle⟩
      rw [ho] at ho'
      cases ho'
      exact hle
    · exact fun hle => ⟨ht, o, ho, hle⟩

/-- One task, on every tick. -/
private def everyTick : Unit → DateTimeOffset → Option DateTimeOffset :=
  fun _ t => some ⟨t.utcTicks + 1⟩

private def noTasks : CronRun Unit := ⟨⟨[], false, 0⟩, [], [], [], []⟩

private theorem initial_noTasks : Initial noTasks := ⟨rfl, rfl, rfl, rfl, rfl⟩

private theorem isNextOccurrence_everyTick :
    CronScheduler.IsNextOccurrence (fun _ _ => True) everyTick := by
  intro _ t
  refine ⟨trivial, Int.lt_succ _, fun o' _ hlt => ?_⟩
  exact Int.add_one_le_of_lt hlt

/-- Two callbacks wait, and the later one collects first. -/
theorem collected_oncePerOccurrence_twoCallbacks : ∃ σ : CronRun Unit,
    Reachable Initial (Step everyTick) σ ∧ σ.collections.length = 1 ∧ (σ.collectedAt 0).Nodup := by
  have h₀ : Reachable Initial (Step everyTick) noTasks := .refl initial_noTasks
  have h₁ := h₀.tail ⟨.schedule ⟨0⟩ () ⟨0⟩ (.printLocal ⟨0⟩), rfl⟩
  have h₂ := h₁.tail ⟨.callback ⟨3⟩, rfl⟩
  have h₃ := h₂.tail ⟨.callback ⟨5⟩, rfl⟩
  have h₄ := h₃.tail ⟨.collect 1, rfl⟩
  have h₅ := h₄.tail ⟨.collect 0, rfl⟩
  exact ⟨_, h₅, rfl, ((collected_oncePerOccurrence isNextOccurrence_everyTick h₅).1 0).1⟩

/-! ### Ended tasks -/

/-- The task is not scheduled, and nothing of it is left. -/
structure Gone (σ : CronRun Cron) (id : Guid) : Prop where
  notScheduled : ∀ t ∈ σ.scheduler.tasks, t.id ≠ id
  used : id < σ.scheduler.nextGuid
  notPending : ¬ σ.Pending id

theorem Gone.not_starts {id : Guid} (h : σ.Gone id) : ¬ σ.Starts id e := by
  intro hstarts
  cases e with
  | start j =>
    obtain ⟨t, ht, hid⟩ := hstarts
    exact h.notPending (.inr ⟨t, List.mem_of_getElem? ht, hid⟩)
  | _ => exact hstarts

/-- A task that is pending after a step is scheduled before it, or pending. -/
theorem Pending.of_step {id : Guid} (hstep : Step getNextOccurrence σ σ')
    (hscheduled : ∀ t ∈ σ.scheduler.tasks, t.id ≠ id) (hpending : σ'.Pending id) :
    σ.Pending id := by
  obtain ⟨e, he⟩ := hstep
  cases e with
  | schedule | endTask | dispose =>
    cases he
    exact hpending
  | callback | clear =>
    simp only [perform] at he
    split at he
    all_goals cases he
    exact hpending
  | collect i =>
    obtain ⟨now, -, rfl⟩ := Option.map_eq_some_iff.mp he
    refine hpending.imp_left fun ⟨tasksToRun, htasks, t, ht, hid⟩ => ?_
    rcases List.mem_append.mp htasks with hold | hnew
    · exact ⟨tasksToRun, hold, t, ht, hid⟩
    -- only tasks that are scheduled are collected
    · rw [List.mem_singleton.mp hnew] at ht
      exact absurd hid (hscheduled t (List.mem_filter.mp ht).1)
  | queue i =>
    simp only [perform] at he
    split at he
    case h_2 => cases he
    case h_1 task rest hcallback =>
      cases he
      have hmem : task :: rest ∈ σ.callbacks := List.mem_of_getElem? hcallback
      obtain ⟨tasksToRun, htasks, t, ht, hid⟩ | ⟨t, ht, hid⟩ := hpending
      · rcases List.mem_or_eq_of_mem_set htasks with hold | rfl
        · exact .inl ⟨tasksToRun, hold, t, ht, hid⟩
        · exact .inl ⟨task :: tasksToRun, hmem, t, List.mem_cons_of_mem task ht, hid⟩
      · rcases List.mem_append.mp ht with hold | hnew
        · exact .inr ⟨t, hold, hid⟩
        · rw [List.mem_singleton.mp hnew] at hid
          exact .inl ⟨task :: rest, hmem, task, List.mem_cons_self, hid⟩
  | start j =>
    simp only [perform] at he
    split at he
    all_goals cases he
    exact hpending.imp_right fun ⟨t, ht, hid⟩ => ⟨t, List.mem_of_mem_eraseIdx ht, hid⟩

/-- An identifier that was used is not used again. -/
theorem Gone.notScheduled_step {id : Guid} (h : σ.Gone id) (hstep : Step getNextOccurrence σ σ') :
    (∀ t ∈ σ'.scheduler.tasks, t.id ≠ id) ∧ id < σ'.scheduler.nextGuid := by
  obtain ⟨htasks, hguid, -⟩ | ⟨now, expression, owner, action, hscheduler, -⟩ |
    ⟨now, hscheduler, -⟩ := step_tasks_cases hstep
  · exact ⟨fun t ht => h.notScheduled t (htasks.subset ht), hguid ▸ h.used⟩
  · rw [hscheduler]
    refine ⟨fun t ht => ?_, Nat.lt_succ_of_lt h.used⟩
    rcases mem_addTask_iff.mp ht with hold | rfl
    · exact h.notScheduled t hold
    · exact (Nat.ne_of_lt h.used).symm
  · rw [hscheduler]
    refine ⟨fun t ht hid => ?_, h.used⟩
    have hmem := List.mem_map_of_mem (f := ScheduledTask.id) ht
    rw [map_id_checkScheduledTasks] at hmem
    obtain ⟨t₀, ht₀, hid₀⟩ := List.mem_map.mp hmem
    exact h.notScheduled t₀ ht₀ (hid₀.trans hid)

theorem Gone.step {id : Guid} (h : σ.Gone id) (hstep : Step getNextOccurrence σ σ') :
    σ'.Gone id := by
  obtain ⟨hscheduled, hused⟩ := h.notScheduled_step hstep
  exact ⟨hscheduled, hused, fun hpending => h.notPending (.of_step hstep h.notScheduled hpending)⟩

/-- A task that was collected can still be started. -/
theorem Pending.exists_starts {id : Guid} (h : σ.Pending id) :
    ∃ σ₁ e σ₂, Relation.ReflTransGen (Step getNextOccurrence) σ σ₁ ∧
      σ₁.perform getNextOccurrence e = some σ₂ ∧ σ₁.Starts id e := by
  have hpool : ∀ σ : CronRun Cron, (∃ t ∈ σ.pool, t.id = id) → ∃ e σ₂,
      σ.perform getNextOccurrence e = some σ₂ ∧ σ.Starts id e := by
    rintro σ ⟨t, ht, hid⟩
    obtain ⟨j, hj⟩ := List.getElem?_of_mem ht
    have hlt : j < σ.pool.length := (List.getElem?_eq_some_iff.mp hj).1
    exact ⟨.start j, _, if_pos hlt, t, hj, hid⟩
  obtain ⟨tasksToRun, htasks, t, ht, hid⟩ | hpending := h
  · obtain ⟨i, hi⟩ := List.getElem?_of_mem htasks
    clear htasks
    -- the callback hands over its tasks one by one
    induction tasksToRun generalizing σ with
    | nil => cases ht
    | cons task rest ih =>
      have hqueue : Step getNextOccurrence σ
          { σ with callbacks := σ.callbacks.set i rest, pool := σ.pool ++ [task] } := by
        refine ⟨.queue i, ?_⟩
        simp only [perform, hi]
      rcases List.mem_cons.mp ht with rfl | ht
      · obtain ⟨e, σ₂, hstart, hstarts⟩ := hpool
          { σ with callbacks := σ.callbacks.set i rest, pool := σ.pool ++ [t] }
          ⟨t, List.mem_append_right _ List.mem_cons_self, hid⟩
        exact ⟨_, e, σ₂, .single hqueue, hstart, hstarts⟩
      · have hi' : (σ.callbacks.set i rest)[i]? = some rest :=
          List.getElem?_set_self (List.getElem?_eq_some_iff.mp hi).1
        obtain ⟨σ₁, e, σ₂, hrun, hstart, hstarts⟩ := ih
          (σ := { σ with callbacks := σ.callbacks.set i rest, pool := σ.pool ++ [task] }) ht hi'
        exact ⟨σ₁, e, σ₂, .head hqueue hrun, hstart, hstarts⟩
  · obtain ⟨e, σ₂, hstart, hstarts⟩ := hpool σ hpending
    exact ⟨σ, e, σ₂, .refl, hstart, hstarts⟩

/-- **An ended task is not started any more** just when no callback has collected it without its
having been started. -/
theorem startsNever_iff (hrun : Reachable Initial (Step getNextOccurrence) σ) {id : Guid}
    (hends : σ.scheduler.ends id = true) :
    (∀ σ₁ e σ₂, Relation.ReflTransGen (Step getNextOccurrence)
        { σ with scheduler := σ.scheduler.endTask id } σ₁ →
      σ₁.perform getNextOccurrence e = some σ₂ → ¬ σ₁.Starts id e) ↔ ¬ σ.Pending id := by
  have hids := uniqueIDs_of_reachable hrun
  constructor
  · intro hnever hpending
    have hafter : Pending { σ with scheduler := σ.scheduler.endTask id } id := hpending
    obtain ⟨σ₁, e, σ₂, hrun₁, hstart, hstarts⟩ := hafter.exists_starts
    exact hnever σ₁ e σ₂ hrun₁ hstart hstarts
  · intro hpending σ₁ e σ₂ hrun₁ hstart
    clear hstart
    -- after `End` nothing of the task is left, and its id is not given out again
    have hgone : Gone { σ with scheduler := σ.scheduler.endTask id } id := by
      refine ⟨fun t ht => ((CronScheduler.mem_endTask_iff hids.nodup).mp ht).2, ?_, hpending⟩
      obtain ⟨t, ht, hid⟩ := List.any_eq_true.mp hends
      rw [← beq_iff_eq.mp hid]
      exact hids.fresh t ht
    suffices h : σ₁.Gone id from h.not_starts
    induction hrun₁ with
    | refl => exact hgone
    | tail _ hstep ih => exact ih.step hstep

/-- A task that no callback has met yet is ended. -/
theorem startsNever_iff_notCollected : ∃ σ : CronRun Unit, σ.scheduler.ends 0 = true ∧
    ∀ σ₁ e σ₂, Relation.ReflTransGen (Step everyTick)
        { σ with scheduler := σ.scheduler.endTask 0 } σ₁ →
      σ₁.perform everyTick e = some σ₂ → ¬ σ₁.Starts 0 e := by
  have h₀ : Reachable Initial (Step everyTick) noTasks := .refl initial_noTasks
  have h₁ := h₀.tail ⟨.schedule ⟨0⟩ () ⟨0⟩ (.printLocal ⟨0⟩), rfl⟩
  refine ⟨_, rfl, (startsNever_iff h₁ rfl).mpr ?_⟩
  rintro (⟨_, ⟨⟩, _⟩ | ⟨_, ⟨⟩, _⟩)

/-- The task is ended while a callback is between its collection and its start. -/
theorem startsNever_fails : ¬ ∀ σ : CronRun Unit, Reachable Initial (Step everyTick) σ →
    ∀ id, σ.scheduler.ends id = true →
      ∀ σ₁ e σ₂, Relation.ReflTransGen (Step everyTick)
          { σ with scheduler := σ.scheduler.endTask id } σ₁ →
        σ₁.perform everyTick e = some σ₂ → ¬ σ₁.Starts id e := by
  intro hall
  have h₀ : Reachable Initial (Step everyTick) noTasks := .refl initial_noTasks
  have h₁ := h₀.tail ⟨.schedule ⟨0⟩ () ⟨0⟩ (.printLocal ⟨0⟩), rfl⟩
  have h₂ := h₁.tail ⟨.callback ⟨3⟩, rfl⟩
  have h₃ := h₂.tail ⟨.collect 0, rfl⟩
  -- the callback has left the lock, and hands over the ended task
  exact hall _ h₃ 0 rfl _ (.start 0) _ (.single ⟨.queue 0, rfl⟩) rfl ⟨_, rfl, rfl⟩

end CronRun

end Connect3Dp
