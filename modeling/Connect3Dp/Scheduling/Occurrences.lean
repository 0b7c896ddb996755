import Connect3Dp.Runtime.Alarm
import Connect3Dp.Scheduling.CronRuns
import Mathlib.Data.Int.Order.Basic
import Mathlib.Data.List.Perm.Basic

/-!
# Occurrences are attended to

A task of the scheduler is an alarm that is set when the task is scheduled and is shown the times of
the callbacks, in the order in which they get the lock (`Attends`). So a callback collects it just
when it is the first one that saw a time at or after some occurrence, and none is missed
(`occurrence_attended`). What is collected is started once, or waits to be (`Conserves`).
-/

namespace Connect3Dp

/-- What happens to the tasks, in the order of the lock. -/
inductive CronRecord (Cron : Type)
  | scheduled (id : Guid) (expression : Cron) (now : DateTimeOffset)
  /-- A callback had the lock, with the time that it had read. -/
  | collected (now : DateTimeOffset) (ids : List Guid)
  | started (id : Guid)

/-- A run of the scheduler, with what happened in it. -/
structure RecordedRun (Cron : Type) where
  run : CronRun Cron
  log : List (CronRecord Cron)

namespace CronRecord

variable {Cron : Type}

/-- The time of a callback. -/
def time : CronRecord Cron → Option ℤ
  | collected now _ => some now.utcTicks
  | _ => none

/-- The record is a start of the task. -/
def isStartOf (id : Guid) : CronRecord Cron → Bool
  | started id' => id' == id
  | _ => false

end CronRecord

namespace RecordedRun

variable {Cron : Type}

/-- What is recorded of an event. -/
def record (σ : CronRun Cron) : CronEvent Cron → List (CronRecord Cron)
  | .schedule now expression _ _ => [.scheduled σ.scheduler.nextGuid expression now]
  | .collect i => σ.waiting[i]?.toList.map fun now =>
      .collected now ((σ.scheduler.tasks.filter (CronScheduler.isDue now)).map (·.id))
  | .start j => σ.pool[j]?.toList.map fun task => .started task.id
  | _ => []

theorem record_collect {σ : CronRun Cron} {i : ℕ} {now : DateTimeOffset}
    (h : σ.waiting[i]? = some now) : record σ (.collect i) =
      [.collected now ((σ.scheduler.tasks.filter (CronScheduler.isDue now)).map (·.id))] := by
  rw [record, h]
  rfl

theorem record_start {σ : CronRun Cron} {j : ℕ} (h : j < σ.pool.length) :
    record σ (.start j) = [.started σ.pool[j].id] := by
  rw [record, List.getElem?_eq_getElem h]
  rfl

def Step (getNextOccurrence : Cron → DateTimeOffset → Option DateTimeOffset)
    (r r' : RecordedRun Cron) : Prop :=
  ∃ e, r.run.perform getNextOccurrence e = some r'.run ∧ r'.log = r.log ++ record r.run e

theorem Step.of_perform {getNextOccurrence : Cron → DateTimeOffset → Option DateTimeOffset}
    {r : RecordedRun Cron} {e : CronEvent Cron} {σ : CronRun Cron}
    (h : r.run.perform getNextOccurrence e = some σ) :
    Step getNextOccurrence r ⟨σ, r.log ++ record r.run e⟩ := ⟨e, h, rfl⟩

structure Initial (r : RecordedRun Cron) : Prop where
  run : r.run.Initial
  log : r.log = []

/-- The times of the callbacks that had the lock. -/
def times (log : List (CronRecord Cron)) : List ℤ := log.filterMap CronRecord.time

/-! ### The alarm of a task -/

variable {getNextOccurrence : Cron → DateTimeOffset → Option DateTimeOffset}
  {occurs : Cron → DateTimeOffset → Prop} {r r' : RecordedRun Cron}

/-- `GetNextOccurrence` of an expression, in ticks. -/
def nextTick (getNextOccurrence : Cron → DateTimeOffset → Option DateTimeOffset)
    (expression : Cron) (ticks : ℤ) : Option ℤ :=
  (getNextOccurrence expression ⟨ticks⟩).map DateTimeOffset.utcTicks

theorem isNext_nextTick (h : CronScheduler.IsNextOccurrence occurs getNextOccurrence)
    (expression : Cron) :
    Alarm.IsNext (fun ticks => occurs expression ⟨ticks⟩)
      (nextTick getNextOccurrence expression) where
  isLater := by
    intro t d hd
    obtain ⟨o, ho, rfl⟩ := Option.map_eq_some_iff.mp hd
    have hnext := h expression ⟨t⟩
    rw [ho] at hnext
    exact ⟨hnext.1, hnext.2.1⟩
  least := by
    intro t o hoccurs hlt
    have hnext := h expression ⟨t⟩
    cases hsome : getNextOccurrence expression ⟨t⟩ with
    | none =>
      rw [hsome] at hnext
      exact absurd (hnext ⟨o⟩ hoccurs) (Int.not_le.mpr hlt)
    | some o' =>
      rw [hsome] at hnext
      exact ⟨o'.utcTicks, by rw [nextTick, hsome, Option.map_some], hnext.2.2 ⟨o⟩ hoccurs hlt⟩

/-- The task was scheduled at a time, its `NextRun` is the deadline of an alarm that was shown the
callbacks since then, and it was collected whenever the alarm rang. -/
def Attended (getNextOccurrence : Cron → DateTimeOffset → Option DateTimeOffset)
    (log : List (CronRecord Cron)) (t : ScheduledTask Cron) : Prop :=
  ∃ past start since, log = past ++ .scheduled t.id t.expression start :: since ∧
    t.nextRun.map DateTimeOffset.utcTicks =
      Alarm.deadline (nextTick getNextOccurrence t.expression) start.utcTicks (times since) ∧
    ∀ before now ids after, since = before ++ .collected now ids :: after →
      (t.id ∈ ids ↔ Alarm.rings (Alarm.deadline (nextTick getNextOccurrence t.expression)
        start.utcTicks (times before)) now.utcTicks = true)

theorem isDue_eq_rings (now : DateTimeOffset) (t : ScheduledTask Cron) :
    CronScheduler.isDue now t =
      Alarm.rings (t.nextRun.map DateTimeOffset.utcTicks) now.utcTicks := by
  rw [CronScheduler.isDue, Alarm.rings, Option.any_map]

/-- A record that is no callback. -/
theorem Attended.append_quiet {log : List (CronRecord Cron)} {t : ScheduledTask Cron}
    (h : Attended getNextOccurrence log t) {x : CronRecord Cron} (hx : x.time = none) :
    Attended getNextOccurrence (log ++ [x]) t := by
  obtain ⟨past, start, since, rfl, hnext, hrang⟩ := h
  have htimes : times (since ++ [x]) = times since := by
    rw [times, List.filterMap_append, List.filterMap_cons_none hx, List.filterMap_nil,
      List.append_nil, ← times]
  refine ⟨past, start, since ++ [x], by simp, htimes ▸ hnext, fun before now ids after hsince => ?_⟩
  rcases List.eq_nil_or_concat after with rfl | ⟨after, last, rfl⟩
  · obtain ⟨-, hlast⟩ := List.append_inj' hsince rfl
    rw [List.singleton_inj.mp hlast] at hx
    cases hx
  · refine hrang before now ids after ?_
    rw [List.concat_eq_append, ← List.cons_append, ← List.append_assoc] at hsince
    exact (List.append_inj' hsince rfl).1

/-- A callback, which shows its time to the alarm. -/
theorem Attended.append_collected {log : List (CronRecord Cron)} {t : ScheduledTask Cron}
    (h : Attended getNextOccurrence log t) {now : DateTimeOffset} {ids : List Guid}
    (hids : t.id ∈ ids ↔ CronScheduler.isDue now t = true) :
    Attended getNextOccurrence (log ++ [.collected now ids])
      (if CronScheduler.isDue now t then
        { t with nextRun := getNextOccurrence t.expression now } else t) := by
  obtain ⟨past, start, since, rfl, hnext, hrang⟩ := h
  have hsame : (if CronScheduler.isDue now t then
      { t with nextRun := getNextOccurrence t.expression now } else t).id = t.id ∧
      (if CronScheduler.isDue now t then
        { t with nextRun := getNextOccurrence t.expression now } else t).expression =
          t.expression := by
    split <;> exact ⟨rfl, rfl⟩
  have htimes : times (since ++ [.collected now ids]) = times since ++ [now.utcTicks] := by
    rw [times, List.filterMap_append]
    rfl
  rw [isDue_eq_rings, hnext] at hids
  refine ⟨past, start, since ++ [.collected now ids], ?_, ?_, ?_⟩
  · rw [hsame.1, hsame.2]
    simp
  · rw [hsame.2, htimes, Alarm.deadline_concat, Alarm.see, ← hnext, ← isDue_eq_rings]
    split
    · rfl
    · rfl
  · rw [hsame.1, hsame.2]
    intro before now' ids' after hsince
    rcases List.eq_nil_or_concat after with rfl | ⟨after, last, rfl⟩
    · obtain ⟨rfl, hlast⟩ := List.append_inj' hsince rfl
      cases List.singleton_inj.mp hlast
      exact hids
    · refine hrang before now' ids' after ?_
      rw [List.concat_eq_append, ← List.cons_append, ← List.append_assoc] at hsince
      exact (List.append_inj' hsince rfl).1

/-- Every task has its alarm. -/
def Attends (getNextOccurrence : Cron → DateTimeOffset → Option DateTimeOffset)
    (r : RecordedRun Cron) : Prop :=
  ∀ t ∈ r.run.scheduler.tasks, Attended getNextOccurrence r.log t

theorem Attends.of_subset (h : Attends getNextOccurrence r)
    (htasks : r'.run.scheduler.tasks ⊆ r.run.scheduler.tasks) (hlog : r'.log = r.log) :
    Attends getNextOccurrence r' := by
  intro t ht
  rw [hlog]
  exact h t (htasks ht)

/-- **A step of the scheduler**: a new task gets an alarm, and a callback shows its time to all. -/
theorem Attends.step (h : Attends getNextOccurrence r) (hids : r.run.UniqueIDs)
    (hstep : Step getNextOccurrence r r') : Attends getNextOccurrence r' := by
  obtain ⟨e, hperform, hlog⟩ := hstep
  cases e with
  | schedule now expression owner action =>
    have hrun := (Option.some.inj hperform).symm
    intro t ht
    rw [hrun] at ht
    dsimp only at ht
    rw [CronRun.scheduler_schedule] at ht
    rw [hlog]
    rcases CronRun.mem_addTask_iff.mp ht with hold | rfl
    · exact (h t hold).append_quiet rfl
    · refine ⟨r.log, now, [], rfl, rfl, fun before now' ids after hsince => ?_⟩
      exact absurd hsince (List.append_ne_nil_of_right_ne_nil _ (List.cons_ne_nil _ _)).symm
  | endTask id =>
    have hrun := (Option.some.inj hperform).symm
    refine h.of_subset ?_ (hlog.trans (List.append_nil _))
    rw [hrun]
    exact List.eraseP_subset
  | callback now =>
    simp only [CronRun.perform] at hperform
    split at hperform
    · cases hperform
    · refine h.of_subset ?_ (hlog.trans (List.append_nil _))
      rw [← Option.some.inj hperform]
      exact List.Subset.refl _
  | collect i =>
    obtain ⟨now, hnow, hrun⟩ := Option.map_eq_some_iff.mp hperform
    intro t' ht'
    rw [← hrun] at ht'
    obtain ⟨t, ht, rfl⟩ := CronRun.mem_checkScheduledTasks.mp ht'
    rw [hlog, record_collect hnow]
    refine (h t ht).append_collected ?_
    constructor
    · intro hmem
      obtain ⟨t₀, ht₀, hid⟩ := List.mem_map.mp hmem
      obtain ⟨ht₀, hdue⟩ := List.mem_filter.mp ht₀
      rwa [← List.inj_on_of_nodup_map hids.nodup ht₀ ht hid]
    · intro hdue
      exact List.mem_map_of_mem (List.mem_filter.mpr ⟨ht, hdue⟩)
  | queue i =>
    simp only [CronRun.perform] at hperform
    split at hperform
    · refine h.of_subset ?_ (hlog.trans (List.append_nil _))
      rw [← Option.some.inj hperform]
      exact List.Subset.refl _
    · cases hperform
  | start j =>
    simp only [CronRun.perform] at hperform
    split at hperform
    · rename_i hj
      intro t ht
      rw [← Option.some.inj hperform] at ht
      rw [hlog, record_start hj]
      exact (h t ht).append_quiet rfl
    · cases hperform
  | dispose =>
    refine h.of_subset ?_ (hlog.trans (List.append_nil _))
    rw [← Option.some.inj hperform]
    exact List.Subset.refl _
  | clear =>
    simp only [CronRun.perform] at hperform
    split at hperform
    · refine h.of_subset ?_ (hlog.trans (List.append_nil _))
      rw [← Option.some.inj hperform]
      exact List.nil_subset _
    · cases hperform

/-! ### Starts -/

/-- How often a task is in a list. -/
def occurrencesOf (id : Guid) (tasks : List (ScheduledTask Cron)) : ℕ :=
  tasks.countP fun t => t.id == id

/-- What was collected of a task was started, is queued, or is in the hands of a callback. -/
def Conserves (r : RecordedRun Cron) : Prop :=
  ∀ id, r.log.countP (CronRecord.isStartOf id) + occurrencesOf id r.run.pool +
    occurrencesOf id r.run.callbacks.flatten = occurrencesOf id r.run.collections

/-- A callback hands one task over. -/
theorem occurrencesOf_set (id : Guid) {callbacks : List (List (ScheduledTask Cron))} {i : ℕ}
    {task : ScheduledTask Cron} {rest : List (ScheduledTask Cron)}
    (h : callbacks[i]? = some (task :: rest)) :
    occurrencesOf id (callbacks.set i rest).flatten + occurrencesOf id [task] =
      occurrencesOf id callbacks.flatten := by
  obtain ⟨hi, hget⟩ := List.getElem?_eq_some_iff.mp h
  have hsplit : callbacks = callbacks.take i ++ (task :: rest) :: callbacks.drop (i + 1) := by
    rw [← hget, ← List.drop_eq_getElem_cons hi, List.take_append_drop]
  have hset : callbacks.set i rest =
      callbacks.take i ++ rest :: callbacks.drop (i + 1) := by
    rw [List.set_eq_take_append_cons_drop, if_pos hi]
  conv_rhs => rw [hsplit]
  rw [hset]
  simp only [occurrencesOf, List.flatten_append, List.flatten_cons, List.countP_append,
    List.countP_cons, List.countP_nil, List.cons_append]
  omega

/-- The thread pool starts one task. -/
theorem occurrencesOf_eraseIdx (id : Guid) {pool : List (ScheduledTask Cron)} {j : ℕ}
    (hj : j < pool.length) :
    occurrencesOf id (pool.eraseIdx j) + occurrencesOf id [pool[j]] = occurrencesOf id pool := by
  have hperm := (List.getElem_cons_eraseIdx_perm hj).countP_eq fun t => t.id == id
  rw [List.countP_cons] at hperm
  simp only [occurrencesOf, List.countP_cons, List.countP_nil]
  omega

/-- **Nothing that was collected is lost or started twice**, by any step. -/
theorem Conserves.step (h : Conserves r) (hstep : Step getNextOccurrence r r') :
    Conserves r' := by
  obtain ⟨e, hperform, hlog⟩ := hstep
  have hquiet : record r.run e = [] → r'.run.pool = r.run.pool →
      r'.run.callbacks = r.run.callbacks → r'.run.collections = r.run.collections →
      Conserves r' := by
    intro hrecord hpool hcallbacks hcollections id
    rw [hlog, hrecord, List.append_nil, hpool, hcallbacks, hcollections]
    exact h id
  cases e with
  | schedule now expression owner action =>
    have hrun := (Option.some.inj hperform).symm
    intro id
    rw [hlog, hrun, record, List.countP_append]
    exact h id
  | endTask id =>
    have hrun := (Option.some.inj hperform).symm
    exact hquiet rfl (by rw [hrun]) (by rw [hrun]) (by rw [hrun])
  | callback now =>
    simp only [CronRun.perform] at hperform
    split at hperform
    · cases hperform
    · have hrun := (Option.some.inj hperform).symm
      exact hquiet rfl (by rw [hrun]) (by rw [hrun]) (by rw [hrun])
  | collect i =>
    obtain ⟨now, hnow, hrun⟩ := Option.map_eq_some_iff.mp hperform
    intro id
    have hid := h id
    rw [hlog, ← hrun, record_collect hnow]
    simp only [occurrencesOf, List.flatten_append, List.flatten_cons, List.flatten_nil,
      List.append_nil, List.countP_append, List.countP_singleton, CronRecord.isStartOf,
      CronScheduler.checkScheduledTasks, Bool.false_eq_true, if_false] at hid ⊢
    omega
  | queue i =>
    simp only [CronRun.perform] at hperform
    split at hperform
    · rename_i task rest hcallback
      have hrun := (Option.some.inj hperform).symm
      intro id
      have hid := h id
      have hset := occurrencesOf_set id hcallback
      have hrecord : record r.run (.queue i) = [] := rfl
      rw [hlog, hrecord, hrun, List.append_nil]
      simp only [occurrencesOf, List.countP_append] at hid hset ⊢
      omega
    · cases hperform
  | start j =>
    simp only [CronRun.perform] at hperform
    split at hperform
    · rename_i hj
      have hrun := (Option.some.inj hperform).symm
      intro id
      have hid := h id
      have herase := occurrencesOf_eraseIdx id hj
      have hstart : ([.started r.run.pool[j].id] : List (CronRecord Cron)).countP
          (CronRecord.isStartOf id) = occurrencesOf id [r.run.pool[j]] := rfl
      rw [hlog, hrun, record_start hj, List.countP_append, hstart]
      dsimp only
      omega
    · cases hperform
  | dispose =>
    have hrun := (Option.some.inj hperform).symm
    exact hquiet rfl (by rw [hrun]) (by rw [hrun]) (by rw [hrun])
  | clear =>
    simp only [CronRun.perform] at hperform
    split at hperform
    · have hrun := (Option.some.inj hperform).symm
      exact hquiet rfl (by rw [hrun]) (by rw [hrun]) (by rw [hrun])
    · cases hperform

/-! ### Runs -/

theorem attends_of_reachable (h : Reachable Initial (Step getNextOccurrence) r) :
    r.run.UniqueIDs ∧ Attends getNextOccurrence r ∧ Conserves r := by
  refine h.induct (I := fun r => r.run.UniqueIDs ∧ Attends getNextOccurrence r ∧ Conserves r)
    (fun r hinit => ⟨?_, fun t ht => ?_, fun id => ?_⟩) fun r r' _ hr hstep => ?_
  · have hreached : Reachable CronRun.Initial (CronRun.Step getNextOccurrence) r.run :=
      .refl hinit.run
    exact CronRun.uniqueIDs_of_reachable hreached
  · rw [hinit.run.tasks] at ht
    cases ht
  · rw [hinit.log, hinit.run.pool, hinit.run.callbacks, hinit.run.collections]
    rfl
  · obtain ⟨hids, hattends, hconserves⟩ := hr
    obtain ⟨e, hperform, -⟩ := id hstep
    exact ⟨hids.step ⟨e, hperform⟩, hattends.step hids hstep, hconserves.step hstep⟩

theorem mem_times {log : List (CronRecord Cron)} {ticks : ℤ} :
    ticks ∈ times log ↔ ∃ now ids, .collected now ids ∈ log ∧ now.utcTicks = ticks := by
  rw [times, List.mem_filterMap]
  constructor
  · rintro ⟨x, hx, htime⟩
    cases x with
    | collected now ids => exact ⟨now, ids, hx, Option.some.inj htime⟩
    | scheduled => cases htime
    | started => cases htime
  · rintro ⟨now, ids, hx, rfl⟩
    exact ⟨_, hx, rfl⟩

/-- **No occurrence is missed.** A callback collects a task just when there is an occurrence, after
the task was scheduled, that its time is not before and that the time of every callback in between
is before; and what is collected of a task is started once, or waits to be. -/
theorem occurrence_attended (hcronos : CronScheduler.IsNextOccurrence occurs getNextOccurrence)
    (h : Reachable Initial (Step getNextOccurrence) r) :
    (∀ t ∈ r.run.scheduler.tasks, ∃ past start since,
      r.log = past ++ .scheduled t.id t.expression start :: since ∧
      ∀ before now ids after, since = before ++ .collected now ids :: after →
        (t.id ∈ ids ↔ ∃ o, occurs t.expression o ∧ start.utcTicks < o.utcTicks ∧
          o.utcTicks ≤ now.utcTicks ∧ ∀ now' ids', .collected now' ids' ∈ before →
            now'.utcTicks < o.utcTicks)) ∧
      Conserves r := by
  obtain ⟨-, hattends, hconserves⟩ := attends_of_reachable h
  refine ⟨fun t ht => ?_, hconserves⟩
  obtain ⟨past, start, since, hlog, -, hrang⟩ := hattends t ht
  refine ⟨past, start, since, hlog, fun before now ids after hsince => ?_⟩
  rw [hrang before now ids after hsince, Alarm.rings_iff (isNext_nextTick hcronos t.expression)]
  constructor
  · rintro ⟨ticks, hoccurs, hstart, hbefore, hle⟩
    exact ⟨⟨ticks⟩, hoccurs, hstart, hle, fun now' ids' hmem =>
      hbefore _ (mem_times.mpr ⟨now', ids', hmem, rfl⟩)⟩
  · rintro ⟨o, hoccurs, hstart, hle, hbefore⟩
    refine ⟨o.utcTicks, hoccurs, hstart, fun ticks hticks => ?_, hle⟩
    obtain ⟨now', ids', hmem, rfl⟩ := mem_times.mp hticks
    exact hbefore now' ids' hmem

/-- The next occurrence of an expression that occurs at every tick. -/
private def eachTick (_ : Unit) (t : DateTimeOffset) : Option DateTimeOffset :=
  some ⟨t.utcTicks + 1⟩

private theorem isNextOccurrence_eachTick :
    CronScheduler.IsNextOccurrence (fun _ _ => True) eachTick := by
  intro _ t
  exact ⟨trivial, Int.lt_succ _, fun o' _ hlt => Int.add_one_le_of_lt hlt⟩

/-- The time of a callback is older than the one that collected before it. -/
theorem occurrence_attended_late : ∃ r : RecordedRun Unit,
    r.log = [.scheduled 0 () ⟨0⟩, .collected ⟨5⟩ [0], .collected ⟨3⟩ []] ∧ Conserves r ∧
      ∀ t ∈ r.run.scheduler.tasks, ∃ past start since,
        r.log = past ++ .scheduled t.id t.expression start :: since := by
  have h₀ : Reachable Initial (Step eachTick) ⟨⟨⟨[], false, 0⟩, [], [], [], []⟩, []⟩ :=
    .refl ⟨⟨rfl, rfl, rfl, rfl, rfl⟩, rfl⟩
  have h₁ := h₀.tail (.of_perform (e := .schedule ⟨0⟩ () ⟨0⟩ (.printLocal ⟨0⟩)) rfl)
  have h₂ := h₁.tail (.of_perform (e := .callback ⟨3⟩) rfl)
  have h₃ := h₂.tail (.of_perform (e := .callback ⟨5⟩) rfl)
  have h₄ := h₃.tail (.of_perform (e := .collect 1) rfl)
  have h₅ := h₄.tail (.of_perform (e := .collect 0) rfl)
  obtain ⟨hall, hconserves⟩ := occurrence_attended isNextOccurrence_eachTick h₅
  refine ⟨_, rfl, hconserves, fun t ht => ?_⟩
  obtain ⟨past, start, since, hlog, -⟩ := hall t ht
  exact ⟨past, start, since, hlog⟩

end RecordedRun

end Connect3Dp
