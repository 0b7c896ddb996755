import Connect3Dp.State.Values

/-!
# The CRON scheduler

The scheduler is one list of tasks shared by all connections of the process. A task remembers
the connection that created it and what its action is about. When the next occurrence of an
expression is, `CronExpression.GetNextOccurrence`, is a parameter.
-/

namespace Connect3Dp

/-- The address of a `MachineConnection` object. -/
structure ConnectionRef where
  address : ℕ
  deriving DecidableEq, Inhabited

/-- The actions that connections hand to the scheduler. -/
inductive TaskAction
  | beginMUHeating (mmid : NetString) (schedule : HeatingScheduleRef)
  | printLocal (scheduledPrint : ScheduledPrintRef)
  deriving DecidableEq

/-- `AsyncScheduledTask`. -/
structure ScheduledTask (Cron : Type) where
  id : Guid
  expression : Cron
  nextRun : Option DateTimeOffset
  owner : ConnectionRef
  action : TaskAction

/-- `CronScheduler`. `nextGuid` is the next value of `Guid.NewGuid()`. -/
structure CronScheduler (Cron : Type) where
  tasks : List (ScheduledTask Cron)
  isDisposed : Bool
  nextGuid : Guid
  deriving Inhabited

namespace CronScheduler

variable {Cron : Type}

/-- `End`: remove the first task with the id. -/
def endTask (sch : CronScheduler Cron) (taskId : Guid) : CronScheduler Cron :=
  { sch with tasks := sch.tasks.eraseP fun t => t.id == taskId }

def isTaskRunning (sch : CronScheduler Cron) (taskId : Guid) : Bool :=
  sch.tasks.any (fun t => t.id == taskId) && !sch.isDisposed

/-- The scheduler with one more task, under a new id. -/
def addTask (sch : CronScheduler Cron) (expression : Cron) (nextRun : Option DateTimeOffset)
    (owner : ConnectionRef) (action : TaskAction) : CronScheduler Cron :=
  { sch with
    tasks := sch.tasks ++ [⟨sch.nextGuid, expression, nextRun, owner, action⟩]
    nextGuid := sch.nextGuid + 1 }

/-- `ScheduleAsync`. The task is in the list before the trace line dereferences `NextRun`. -/
def scheduleAsync (getNextOccurrence : Cron → Option DateTimeOffset) (expression : Cron)
    (owner : ConnectionRef) (action : TaskAction) :
    EStateM Fault (CronScheduler Cron) Guid := do
  let id := (← get).nextGuid
  let next := getNextOccurrence expression
  modify (·.addTask expression next owner action)
  match next with
  | some _ => return id
  | none => throw .invalidOperation

variable {getNextOccurrence : Cron → Option DateTimeOffset} {sch : CronScheduler Cron}
  {expression : Cron} {owner : ConnectionRef} {action : TaskAction}

theorem run_scheduleAsync_some {next : DateTimeOffset}
    (h : getNextOccurrence expression = some next) :
    (scheduleAsync getNextOccurrence expression owner action).run sch =
      .ok sch.nextGuid (sch.addTask expression (some next) owner action) := by
  simp only [scheduleAsync, h]
  rfl

theorem run_scheduleAsync_none (h : getNextOccurrence expression = none) :
    (scheduleAsync getNextOccurrence expression owner action).run sch =
      .error .invalidOperation (sch.addTask expression none owner action) := by
  simp only [scheduleAsync, h]
  rfl

/-- `End` takes away the one task with the id. -/
theorem mem_endTask_iff {sch : CronScheduler Cron} (h : (sch.tasks.map (·.id)).Nodup) {id : Guid}
    {t : ScheduledTask Cron} : t ∈ (sch.endTask id).tasks ↔ t ∈ sch.tasks ∧ t.id ≠ id := by
  change t ∈ sch.tasks.eraseP _ ↔ _
  generalize sch.tasks = ts at h
  induction ts with
  | nil => simp
  | cons t₀ ts ih =>
    rw [List.map_cons, List.nodup_cons] at h
    by_cases h₀ : t₀.id = id
    · rw [List.eraseP_cons_of_pos (by simpa using h₀), List.mem_cons]
      constructor
      · intro ht
        refine ⟨.inr ht, fun hid => h.1 ?_⟩
        rw [h₀, ← hid]
        exact List.mem_map_of_mem ht
      · rintro ⟨rfl | ht, hid⟩
        · exact absurd h₀ hid
        · exact ht
    · rw [List.eraseP_cons_of_neg (by simpa using h₀), List.mem_cons, List.mem_cons, ih h.2]
      constructor
      · rintro (rfl | ⟨ht, hid⟩)
        · exact ⟨.inl rfl, h₀⟩
        · exact ⟨.inr ht, hid⟩
      · rintro ⟨rfl | ht, hid⟩
        · exact .inl rfl
        · exact .inr ⟨ht, hid⟩

end CronScheduler

end Connect3Dp
