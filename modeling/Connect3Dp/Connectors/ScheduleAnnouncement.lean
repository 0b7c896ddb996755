import Connect3Dp.Builder.LastCall
import Connect3Dp.Connectors.AutoResolve
import Connect3Dp.Connectors.ScheduleKeeping

/-!
# Scheduling and its announcement

A call that schedules something does three things in one commit: it puts the schedule in the
state, it starts the task, and it raises `OnChanges`. Does it do all of them or none?

It does all of them unless the schedule has no next occurrence, or the state has an equal schedule
already (`ScheduleCall.call_atomic_iff`). Without a next occurrence the call raises when the task is
in the scheduler and the schedule in the state, and nobody is told.
-/

namespace Connect3Dp

/-- A set into which a record was put, after a change that no other record can have had. -/
theorem SetBuffer.shows_add_iff_of_fresh {R α : Type*} [DecidableEq α] [Hashable α]
    {value value' : R → α} {s : RecordHashSet R} {r : R}
    (hfresh : ∀ r', value' r' = value' r → r' = r) :
    SetBuffer.Shows value' (s.add value r) r ↔ (s.contains value r = true → r ∈ s.elems) := by
  have hshows : ∀ s : RecordHashSet R, SetBuffer.Shows value' s r ↔ r ∈ s.elems := by
    intro s
    constructor
    · rintro ⟨r', hr', hvalue⟩
      exact hfresh r' hvalue ▸ hr'
    · exact fun hr => ⟨r, hr, rfl⟩
  rw [hshows]
  cases hfound : s.contains value r with
  | true =>
    rw [RecordHashSet.add_eq_self value hfound]
    exact ⟨fun hr _ => hr, fun hr => hr rfl⟩
  | false =>
    refine iff_of_true ?_ fun h => by cases h
    rw [RecordHashSet.elems, RecordHashSet.slots_add_of_not_contains value hfound, List.map_append]
    exact List.mem_append_right _ (List.mem_singleton_self r)

namespace MachineConnection

variable {Cron : Type} [DecidableEq Cron] [Hashable (HeatingSchedule Cron)]
  [Hashable (ScheduledPrint Cron)]

/-! ### Light commits -/

section Light

variable {env : Environment Cron} {u : MachineStateUpdate} {c c' : MachineConnection Cron}
  {a : TaskAction}

/-- What `OnChanges` is raised with after a commit that returns. -/
def announcement (c : MachineConnection Cron) (u : MachineStateUpdate) :
    Option MachineStateChanges :=
  if (c.report u).hasChanged then some (c.report u) else none

/-- A light commit ends as its scheduling steps do. -/
theorem run_commitState_of_light (env : Environment Cron) (hc : c.FreshIDs) (hu : u.Light) :
    (∃ f c', (forM (c.steps u) (perform env)).run (c.setState (c.appliedState u)) = .error f c' ∧
      (commitState env u).run c = .error f c') ∨
    ∃ c', (forM (c.steps u) (perform env)).run (c.setState (c.appliedState u)) = .ok () c' ∧
      (commitState env u).run c = .ok (c.announcement u) c' := by
  have happlied : c.applied u (c.appliedState u) = c.setState (c.appliedState u) := by
    rw [applied_eq, orphanRefs, orphans, hu.localJobs]
    rfl
  have houtcome := commitOutcome env u hc
  generalize (commitState env u).run c = result at houtcome
  cases houtcome with
  | inChanges f hchanges => exact absurd hchanges hu.not_raisesInChanges
  | inJob f _ hjob => exact absurd hjob hu.not_raisesInJob
  | inUnits f units hchanges _ hunits =>
    exact absurd ((@MachineStateUpdate.units_appendUpdate_eq_error_iff c.heap.ops _ _
      hchanges).mpr hunits) hu.not_units_error
  | inHistory f _ hhistory => exact absurd hhistory.1 hu.not_endsPrint
  | inScheduler f c' _ _ _ hrun => exact .inl ⟨f, c', happlied ▸ hrun, rfl⟩
  | returned c' _ _ _ hrun => exact .inr ⟨c', happlied ▸ hrun, rfl⟩

/-- **What a light commit that starts one schedule does**: it raises with the task added, it
returns with the task started, or it returns without a new task. -/
theorem run_commitState_of_start (env : Environment Cron) (hc : c.FreshIDs) (hu : u.Light)
    (hsteps : c.steps u = [.start a]) :
    (c.NeedsTask a.schedule → env.getNextOccurrence (c.heap.timing a.schedule) = none →
      (commitState env u).run c = .error .invalidOperation
        ((c.setState (c.appliedState u)).setScheduler
          (c.scheduler.addTask (c.heap.timing a.schedule) none c.self a))) ∧
    (∀ next, c.NeedsTask a.schedule →
      env.getNextOccurrence (c.heap.timing a.schedule) = some next →
      (commitState env u).run c =
        .ok (c.announcement u) ((c.setState (c.appliedState u)).started a next)) ∧
    (¬ c.NeedsTask a.schedule →
      (commitState env u).run c = .ok (c.announcement u) (c.setState (c.appliedState u))) := by
  have hrun := run_commitState_of_light env hc hu
  rw [hsteps, List.forM_cons] at hrun
  refine ⟨fun hneeds hnext => ?_, fun next hneeds hnext => ?_, fun hneeds => ?_⟩
  · have hstart := run_start_of_no_next (c := c.setState (c.appliedState u)) hneeds hnext
    rw [run_bind_error hstart] at hrun
    obtain ⟨f, c', heq, hcommit⟩ | ⟨c', heq, -⟩ := hrun
    · cases heq
      exact hcommit
    · cases heq
  · have hstart := run_start_of_next (c := c.setState (c.appliedState u)) hneeds hnext
    rw [run_bind_ok hstart] at hrun
    obtain ⟨f, c', heq, -⟩ | ⟨c', heq, hcommit⟩ := hrun
    · cases heq
    · cases heq
      exact hcommit
  · have hstart : (perform env (.start a)).run (c.setState (c.appliedState u)) =
        .ok () (c.setState (c.appliedState u)) := run_start_of_not_needsTask hneeds
    rw [run_bind_ok hstart] at hrun
    obtain ⟨f, c', heq, -⟩ | ⟨c', heq, hcommit⟩ := hrun
    · cases heq
    · cases heq
      exact hcommit

end Light

/-! ### Reports -/

section Reports

variable {c : MachineConnection Cron} {ops : ScheduleOps} {s : MachineState}

omit [DecidableEq Cron] [Hashable (HeatingSchedule Cron)] [Hashable (ScheduledPrint Cron)] in
/-- The report of an update that has no other properties. -/
theorem hasChanged_changed (prints : SetBuffer (RecordHashSet ScheduledPrintRef))
    (units : DictionaryBuffer String MUnitUpdate)
    (notifications : DictionaryBuffer String NotificationUpdate) :
    (MachineStateUpdate.changed ops { (default : MachineStateUpdate) with
        scheduledPrints := prints, materialUnits := units, notifications } s).hasChanged =
      ((prints.changes ops.scheduledPrints s.scheduledPrints).hasChanged ||
        (units.changes (MUnitUpdate.total ops.heatingSchedules) s.materialUnits).hasChanged ||
        (notifications.changes NotificationUpdate.updater s.notifications).hasChanged) := by
  change (((((((((((((prints.changes ops.scheduledPrints s.scheduledPrints).hasChanged || false) ||
    false) ||
    (units.changes (MUnitUpdate.total ops.heatingSchedules) s.materialUnits).hasChanged) ||
    false) || false) || false) || false) || false) || false) || false) || false) || _) = _
  simp only [Bool.or_false]
  rfl

omit [DecidableEq Cron] [Hashable (HeatingSchedule Cron)] [Hashable (ScheduledPrint Cron)] in
/-- Of the notifications the update reports what is resolved. -/
theorem hasChanged_notifications :
    ((s.resolved.foldl DictionaryBuffer.remove
      (default : DictionaryBuffer String NotificationUpdate)).changes NotificationUpdate.updater
        s.notifications).hasChanged = false ↔ s.Settled := by
  rw [DictionaryBuffer.hasChanged_eq_false_iff]
  constructor
  · rintro ⟨-, hremovals⟩ id n hn hresolves
    have hmem := MachineState.mem_resolved_iff.mpr ⟨n, hn, hresolves⟩
    rw [hremovals id (DictionaryBuffer.mem_removals_foldl_remove.mpr (.inr hmem))] at hn
    cases hn
  · intro hsettled
    refine ⟨fun k u hu => ?_, fun k hk => ?_⟩
    · rw [DictionaryBuffer.lookup_foldl_remove] at hu
      cases hu
    · obtain hk | hk := DictionaryBuffer.mem_removals_foldl_remove.mp hk
      · cases hk
      · obtain ⟨n, hn, hresolves⟩ := MachineState.mem_resolved_iff.mp hk
        exact absurd hresolves (hsettled k n hn)

/-- What the commit of a new print reports. -/
theorem hasChanged_setScheduledPrints {r : ScheduledPrintRef} :
    (c.report ((default : MachineStateUpdate).setScheduledPrints c.heap.ops r)).hasChanged =
        false ↔
      c.state.scheduledPrints.contains c.heap.scheduledPrints r = true ∧ c.state.Settled := by
  have hreport : (c.report ((default : MachineStateUpdate).setScheduledPrints
      c.heap.ops r)).hasChanged = _ := hasChanged_changed _ _ _
  rw [hreport, Bool.or_eq_false_iff, Bool.or_eq_false_iff]
  have hunits : ((default : DictionaryBuffer String MUnitUpdate).changes
      (MUnitUpdate.total c.heap.ops.heatingSchedules) c.state.materialUnits).hasChanged = false :=
    rfl
  refine and_congr ?_ hasChanged_notifications
  refine (and_iff_left hunits).trans (SetBuffer.hasChanged_eq_false_iff.trans ?_)
  constructor
  · exact fun h => h.1 r (List.mem_singleton_self r)
  · intro hfound
    refine ⟨fun v hv => ?_, fun v hv => by cases hv⟩
    obtain rfl := List.mem_singleton.mp hv
    exact hfound

/-- What the commit of a new heating schedule reports. -/
theorem hasChanged_setHeatingSchedule {id : String} {m : MUnit} {r : HeatingScheduleRef}
    (hm : c.state.materialUnits.tryGetValue id = some m) :
    (c.report ((default : MachineStateUpdate).updateMaterialUnits id
        (·.setHeatingSchedule c.heap.ops.heatingSchedules r))).hasChanged = false ↔
      (m.id = some id ∧ m.heatingSchedule.contains c.heap.heatingSchedules r = true) ∧
        c.state.Settled := by
  have hreport : (c.report ((default : MachineStateUpdate).updateMaterialUnits id
      (·.setHeatingSchedule c.heap.ops.heatingSchedules r))).hasChanged = _ :=
    hasChanged_changed _ _ _
  rw [hreport, Bool.or_eq_false_iff, Bool.or_eq_false_iff]
  have hprints : ((default : SetBuffer (RecordHashSet ScheduledPrintRef)).changes
      c.heap.ops.scheduledPrints c.state.scheduledPrints).hasChanged = false := rfl
  refine and_congr ((and_iff_right hprints).trans ?_) hasChanged_notifications
  let mu := (MUnitUpdate.assertKey id default).setHeatingSchedule c.heap.ops.heatingSchedules r
  have hlookup : ∀ k, ((default : DictionaryBuffer String MUnitUpdate).update id
      (MUnitUpdate.assertKey id default)
        (·.setHeatingSchedule c.heap.ops.heatingSchedules r)).lookup k =
          if k = id then some mu else none := fun k => DictionaryBuffer.lookup_set _ _ _ _
  have hentry : (MUnitUpdate.total c.heap.ops.heatingSchedules).report id mu (some m) = none ↔
      m.id = some id ∧ m.heatingSchedule.contains c.heap.heatingSchedules r = true := by
    have hdiff : (MUnitUpdate.total c.heap.ops.heatingSchedules).report id mu (some m) = none ↔
        ((mu.assertKey id).changed c.heap.ops.heatingSchedules m).hasChanged = false := by
      rw [Updater.report, Option.map_eq_none_iff]
      simp [MUnitUpdate.total]
    rw [hdiff, MUnitUpdate.hasChanged_eq_false_iff, SetBuffer.hasChanged_eq_false_iff]
    constructor
    · rintro ⟨hagrees, -, hadded, -⟩
      exact ⟨(hagrees.1 rfl).symm, hadded r (List.mem_singleton_self r)⟩
    · rintro ⟨hid, hfound⟩
      have hunset : ∀ {α : Type} {old : α} [Inhabited α], (default : ScalarBuffer α).Agrees old :=
        fun h => by cases h
      refine ⟨⟨fun _ => hid.symm, hunset, hunset, hunset, hunset, hunset, hunset, hunset⟩, rfl,
        fun v hv => ?_, fun v hv => by cases hv⟩
      obtain rfl := List.mem_singleton.mp hv
      exact hfound
  rw [DictionaryBuffer.hasChanged_eq_false_iff, ← hentry, ← hm]
  constructor
  · exact fun h => h.1 id mu ((hlookup id).trans (if_pos rfl))
  · intro hnone
    refine ⟨fun k u hu => ?_, fun k hk => by cases hk⟩
    have hu := (hlookup k).symm.trans hu
    split at hu <;> rename_i hk
    · cases hu
      exact hk ▸ hnone
    · cases hu

end Reports

/-! ### Calls -/

namespace ScheduledTasks

/-- A call that schedules something. -/
inductive ScheduleCall
  | print (scheduledPrint : ScheduledPrintRef)
  | heating (unitID : NetString) (schedule : HeatingScheduleRef)

namespace ScheduleCall

/-- What the task of the schedule does. -/
def action : ScheduleCall → TaskAction
  | print r => .printLocal r
  | heating unitID r => .beginMUHeating unitID r

/-- The call, with what it raises `OnChanges` with besides its result. -/
def run (env : Environment Cron) : ScheduleCall → EStateM Fault (MachineConnection Cron)
    (MachineOperationResult × Option MachineStateChanges)
  | print r => do
    let c ← get
    match c.state.opIfNotCapable .startLocalJob with
    | some uncapableResult => return (uncapableResult, none)
    | none =>
      let raised ← commitState env ((default : MachineStateUpdate).setScheduledPrints c.heap.ops r)
      return (.ok, raised)
  | heating none _ => throw .argument
  | heating (some id) r => do
    let c ← get
    match c.state.materialUnits.tryGetValue id with
    | none => return (.fail (MachineMessages.muDoesNotExist id), none)
    | some unit =>
      match unit.ifNotCapable MUCapabilities.heating with
      | some uncapableResult => return (uncapableResult, none)
      | none =>
        let raised ← commitState env ((default : MachineStateUpdate).updateMaterialUnits id
          (·.setHeatingSchedule c.heap.ops.heatingSchedules r))
        return (.ok, raised)

/-- The operation of the source. -/
def operation (env : Environment Cron) :
    ScheduleCall → EStateM Fault (MachineConnection Cron) MachineOperationResult
  | print r => schedulePrint env r
  | heating unitID r => scheduleMUHeating env unitID r

variable {env : Environment Cron} {c c' : MachineConnection Cron} {call : ScheduleCall}

/-- A commit whose announcement is dropped. -/
private theorem run_fst_commit (u : MachineStateUpdate) :
    (Prod.fst <$> (do return (MachineOperationResult.ok, ← commitState env u) :
      EStateM Fault (MachineConnection Cron) _)).run c =
        (do discard (commitState env u); return .ok : EStateM Fault _ _).run c := by
  rw [map_bind]
  cases h : (commitState env u).run c with
  | ok raised c' => rw [run_bind_ok h, run_bind_ok (run_discard_ok h)]; rfl
  | error f c' => rw [run_bind_error h, run_bind_error (run_discard_error h)]

/-- **A call is the operation of the source**, but for what it tells of `OnChanges`. -/
theorem run_fst (env : Environment Cron) (call : ScheduleCall) (c : MachineConnection Cron) :
    (Prod.fst <$> call.run env).run c = (call.operation env).run c := by
  have hget : (get : EStateM Fault (MachineConnection Cron) _).run c = .ok c c := rfl
  cases call with
  | print r =>
    rw [operation, schedulePrint, run, map_bind, run_bind_ok hget, run_bind_ok hget]
    cases c.state.opIfNotCapable .startLocalJob with
    | some uncapableResult => rfl
    | none => exact run_fst_commit _
  | heating unitID r =>
    cases unitID with
    | none => rfl
    | some id =>
      rw [operation, scheduleMUHeating, withUnit, run, map_bind, run_bind_ok hget,
        run_bind_ok hget]
      dsimp only
      cases c.state.materialUnits.tryGetValue id with
      | none => rfl
      | some m =>
        dsimp only
        rw [run_bind_ok hget]
        cases m.ifNotCapable MUCapabilities.heating with
        | some uncapableResult => rfl
        | none => exact run_fst_commit _

/-! ### All or nothing -/

/-- The state has a schedule that is equal to the one of the call. -/
def Holds (c : MachineConnection Cron) : ScheduleCall → Prop
  | print r => SetBuffer.Shows c.heap.scheduledPrints c.state.scheduledPrints r
  | heating (some id) r => SetBuffer.Shows c.heap.heatingSchedules (c.state.heatingSchedules id) r
  | heating none _ => False

/-- The schedule carries the identifier of a task in the scheduler. -/
def HasTask (c : MachineConnection Cron) (call : ScheduleCall) : Prop :=
  ∃ t ∈ c.scheduler.tasks, c.heap.schedulerID call.action.schedule = some t.id

/-- The call schedules and announces, or it raises and leaves the state and the tasks alone. -/
def Atomic (env : Environment Cron) (c : MachineConnection Cron) (call : ScheduleCall) : Prop :=
  (∃ result changes c', (call.run env).run c = .ok (result, some changes) c' ∧
    call.Holds c' ∧ call.HasTask c') ∨
  ∃ f c', (call.run env).run c = .error f c' ∧
    c'.state = c.state ∧ c'.scheduler.tasks = c.scheduler.tasks

/-- The call returns a failure and changes nothing. -/
def Refused (env : Environment Cron) (c : MachineConnection Cron) (call : ScheduleCall) : Prop :=
  ∃ reasoning, (call.run env).run c = .ok (.fail reasoning, none) c

/-- The call gets through the checks. -/
def Accepts (c : MachineConnection Cron) : ScheduleCall → Prop
  | print _ => c.state.opIfNotCapable .startLocalJob = none
  | heating none _ => False
  | heating (some id) _ => ∃ m, c.state.materialUnits.tryGetValue id = some m ∧
      m.ifNotCapable MUCapabilities.heating = none

/-- The checks refuse the call. -/
def Refuses (c : MachineConnection Cron) : ScheduleCall → Prop
  | print _ => c.state.opIfNotCapable .startLocalJob ≠ none
  | heating none _ => False
  | heating (some id) _ => ∀ m, c.state.materialUnits.tryGetValue id = some m →
      m.ifNotCapable MUCapabilities.heating ≠ none

/-- The set for the schedule finds an equal one already. -/
def Found (c : MachineConnection Cron) : ScheduleCall → Prop
  | print r => c.state.scheduledPrints.contains c.heap.scheduledPrints r = true
  | heating none _ => False
  | heating (some id) r =>
      (c.state.heatingSchedules id).contains c.heap.heatingSchedules r = true

/-- The unit of the call has another `ID` than its key, which the commit corrects. -/
def Renames (c : MachineConnection Cron) : ScheduleCall → Prop
  | print _ | heating none _ => False
  | heating (some id) _ => ∃ m, c.state.materialUnits.tryGetValue id = some m ∧ m.id ≠ some id

/-- What makes an accepted call schedule and announce. -/
structure Announces (env : Environment Cron) (c : MachineConnection Cron) (call : ScheduleCall) :
    Prop where
  occurs : c.NeedsTask call.action.schedule →
    env.getNextOccurrence (c.heap.timing call.action.schedule) ≠ none
  reports : call.Found c → ¬ c.state.Settled ∨ call.Renames c
  stored : call.Found c → c.NeedsTask call.action.schedule → c.state.Stores call.action

/-- What an accepted call commits. -/
structure Commits (env : Environment Cron) (c : MachineConnection Cron) (call : ScheduleCall)
    (u : MachineStateUpdate) : Prop where
  light : u.Light
  steps : c.steps u = [.start call.action]
  run_ok : ∀ {raised c'}, (commitState env u).run c = .ok raised c' →
    (call.run env).run c = .ok (.ok, raised) c'
  run_error : ∀ {f c'}, (commitState env u).run c = .error f c' →
    (call.run env).run c = .error f c'
  hasChanged : (c.report u).hasChanged = false ↔
    call.Found c ∧ c.state.Settled ∧ ¬ call.Renames c
  holds : call.Holds (c.setState (c.appliedState u))
  holds_started : ∀ next, call.Holds ((c.setState (c.appliedState u)).started call.action next) ↔
    (call.Found c → c.state.Stores call.action)

omit [DecidableEq Cron] [Hashable (HeatingSchedule Cron)] [Hashable (ScheduledPrint Cron)] in
/-- No other schedule has the identifier of a task that was started. -/
theorem eq_of_schedulerID_started (hc : c.FreshIDs) {s : MachineState} {a : TaskAction}
    {next : DateTimeOffset} {r : ScheduleRef}
    (h : ((c.setState s).started a next).heap.schedulerID r =
      ((c.setState s).started a next).heap.schedulerID a.schedule) : r = a.schedule := by
  have hids : ∀ r, ((c.setState s).started a next).heap.schedulerID r =
      if r = a.schedule then some c.scheduler.nextGuid else c.heap.schedulerID r :=
    fun r => schedulerID_setSchedulerID _ _ _ _
  by_contra hr
  rw [hids, hids, if_neg hr, if_pos rfl] at h
  exact lt_irrefl _ (hc.lt_of_schedulerID r _ h)

theorem commits_print (hc : c.FreshIDs) {r : ScheduledPrintRef} (h : (print r).Accepts c) :
    (print r).Commits env c ((default : MachineStateUpdate).setScheduledPrints c.heap.ops r) := by
  have hget : (get : EStateM Fault (MachineConnection Cron) _).run c = .ok c c := rfl
  have hrun : ((print r).run env).run c = (do return (MachineOperationResult.ok, ← commitState env
      ((default : MachineStateUpdate).setScheduledPrints c.heap.ops r)) :
        EStateM Fault (MachineConnection Cron) _).run c := by
    rw [run, run_bind_ok hget, show c.state.opIfNotCapable .startLocalJob = none from h]
  refine ⟨⟨rfl, rfl, rfl, fun id mu hmu => by cases hmu⟩, rfl, fun hcommit => ?_,
    fun hcommit => ?_, ?_, ?_, fun next => ?_⟩
  · rw [hrun, run_bind_ok hcommit]
    rfl
  · rw [hrun, run_bind_error hcommit]
  · rw [hasChanged_setScheduledPrints]
    exact and_congr_right fun _ => (and_iff_left id).symm
  · exact SetBuffer.presence_shows.add.mpr (.inr rfl)
  · refine SetBuffer.shows_add_iff_of_fresh fun r' hr' => ?_
    have hid := congrArg ScheduledPrint.schedulerID hr'
    exact ScheduleRef.print.inj
      (eq_of_schedulerID_started hc (a := .printLocal r) (r := .print r') hid)

theorem commits_heating (hc : c.FreshIDs) {id : String} {m : MUnit} {r : HeatingScheduleRef}
    (hm : c.state.materialUnits.tryGetValue id = some m)
    (hcapable : m.ifNotCapable MUCapabilities.heating = none) :
    (heating (some id) r).Commits env c ((default : MachineStateUpdate).updateMaterialUnits id
      (·.setHeatingSchedule c.heap.ops.heatingSchedules r)) := by
  let configure : MUnitUpdate → MUnitUpdate :=
    (·.setHeatingSchedule c.heap.ops.heatingSchedules r)
  have hget : (get : EStateM Fault (MachineConnection Cron) _).run c = .ok c c := rfl
  have hunit : c.state.heatingSchedules id = m.heatingSchedule := heatingSchedules_of_unit hm
  have hadded : (c.appliedState ((default : MachineStateUpdate).updateMaterialUnits id
      configure)).heatingSchedules id = m.heatingSchedule.add c.heap.heatingSchedules r :=
    (MachineStateUpdate.heatingSchedules_apply_updateMaterialUnits hm configure id).trans
      (if_pos rfl)
  have hrun : ((heating (some id) r).run env).run c = (do return (MachineOperationResult.ok,
      ← commitState env ((default : MachineStateUpdate).updateMaterialUnits id configure)) :
        EStateM Fault (MachineConnection Cron) _).run c := by
    rw [run, run_bind_ok hget, hm]
    dsimp only
    rw [hcapable]
  refine ⟨light_updateMaterialUnits rfl, rfl, fun hcommit => ?_, fun hcommit => ?_, ?_, ?_,
    fun next => ?_⟩
  · rw [hrun, run_bind_ok hcommit]
    rfl
  · rw [hrun, run_bind_error hcommit]
  · have hrenames : ¬ (heating (some id) r).Renames c ↔ m.id = some id := by
      rw [Renames, hm]
      simp
    rw [hasChanged_setHeatingSchedule hm, Found, hunit, hrenames]
    tauto
  · rw [Holds]
    change SetBuffer.Shows _ ((c.appliedState _).heatingSchedules id) r
    rw [hadded]
    exact SetBuffer.presence_shows.add.mpr (.inr rfl)
  · rw [Holds, Found, hunit]
    change SetBuffer.Shows _ ((c.appliedState _).heatingSchedules id) r ↔ (_ → r ∈ _)
    rw [hadded, hunit]
    refine SetBuffer.shows_add_iff_of_fresh fun r' hr' => ?_
    have hid := congrArg HeatingSchedule.schedulerID hr'
    exact ScheduleRef.heating.inj
      (eq_of_schedulerID_started hc (a := .beginMUHeating (some id) r) (r := .heating r') hid)

/-- An accepted call makes one commit. -/
theorem exists_commits (env : Environment Cron) (hc : c.FreshIDs) (h : call.Accepts c) :
    ∃ u, call.Commits env c u := by
  cases call with
  | print r => exact ⟨_, commits_print hc h⟩
  | heating unitID r =>
    cases unitID with
    | none => exact h.elim
    | some id =>
      obtain ⟨m, hm, hcapable⟩ := h
      exact ⟨_, commits_heating hc hm hcapable⟩

omit [DecidableEq Cron] [Hashable (HeatingSchedule Cron)] [Hashable (ScheduledPrint Cron)] in
/-- The checks refuse a call, accept it, or raise as there is no ID. -/
theorem checks_cases (c : MachineConnection Cron) (call : ScheduleCall) :
    call.Accepts c ∧ ¬ call.Refuses c ∨ ¬ call.Accepts c ∧ call.Refuses c ∨
      ¬ call.Accepts c ∧ ¬ call.Refuses c ∧ ∃ r, call = heating none r := by
  cases call with
  | print r =>
    by_cases h : c.state.opIfNotCapable .startLocalJob = none
    · exact .inl ⟨h, fun hr => hr h⟩
    · exact .inr (.inl ⟨h, h⟩)
  | heating unitID r =>
    cases unitID with
    | none => exact .inr (.inr ⟨id, id, r, rfl⟩)
    | some id =>
      by_cases h : (heating (some id) r).Accepts c
      · obtain ⟨m, hm, hcapable⟩ := h
        exact .inl ⟨⟨m, hm, hcapable⟩, fun hr => hr m hm hcapable⟩
      · exact .inr (.inl ⟨h, fun m hm hcapable => h ⟨m, hm, hcapable⟩⟩)

theorem refused_of_refuses (h : call.Refuses c) : call.Refused env c := by
  have hget : (get : EStateM Fault (MachineConnection Cron) _).run c = .ok c c := rfl
  cases call with
  | print r =>
    have hfail : c.state.opIfNotCapable .startLocalJob =
        some (.fail (MachineMessages.noFeature .startLocalJob)) := by
      rw [Refuses, MachineState.opIfNotCapable] at h
      rw [MachineState.opIfNotCapable, if_neg fun hcapable => h (if_pos hcapable)]
    refine ⟨MachineMessages.noFeature .startLocalJob, ?_⟩
    rw [run, run_bind_ok hget, hfail]
    rfl
  | heating unitID r =>
    cases unitID with
    | none => exact h.elim
    | some id =>
      cases hm : c.state.materialUnits.tryGetValue id with
      | none =>
        refine ⟨MachineMessages.muDoesNotExist id, ?_⟩
        rw [run, run_bind_ok hget, hm]
        rfl
      | some m =>
        have hfail : m.ifNotCapable MUCapabilities.heating =
            some (.fail (MachineMessages.noMUFeature MUCapabilities.heating)) := by
          have hne := h m hm
          rw [MUnit.ifNotCapable] at hne
          rw [MUnit.ifNotCapable, if_neg fun hcapable => hne (if_pos hcapable)]
        refine ⟨MachineMessages.noMUFeature MUCapabilities.heating, ?_⟩
        rw [run, run_bind_ok hget, hm]
        dsimp only
        rw [hfail]
        rfl

/-- A call that is refused neither announces nor raises. -/
theorem not_atomic_of_refused (h : call.Refused env c) : ¬ call.Atomic env c := by
  obtain ⟨reasoning, hrun⟩ := h
  rintro (⟨result, changes, c', hrun', -⟩ | ⟨f, c', hrun', -⟩)
  all_goals rw [hrun] at hrun'; cases hrun'

/-- A call without an ID raises before it does anything. -/
theorem atomic_heating_none (r : HeatingScheduleRef) : (heating none r).Atomic env c :=
  .inr ⟨.argument, c, rfl, rfl, rfl⟩

/-- An accepted call is not refused. -/
theorem Commits.not_refused {u : MachineStateUpdate} (h : call.Commits env c u) :
    ¬ call.Refused env c := by
  rintro ⟨reasoning, hrun⟩
  cases hcommit : (commitState env u).run c with
  | ok raised c' =>
    rw [h.run_ok hcommit] at hrun
    cases hrun
  | error f c' =>
    rw [h.run_error hcommit] at hrun
    cases hrun

/-- What an accepted call raises `OnChanges` with. -/
theorem Commits.announcement_iff {u : MachineStateUpdate} (h : call.Commits env c u) :
    (∃ changes, c.announcement u = some changes) ↔
      (call.Found c → ¬ c.state.Settled ∨ call.Renames c) := by
  have hnone : (∃ changes, c.announcement u = some changes) ↔
      ¬ (c.report u).hasChanged = false := by
    rw [announcement]
    cases (c.report u).hasChanged <;> simp
  rw [hnone, h.hasChanged]
  tauto

/-- An accepted call that returns with a task for its schedule. -/
theorem Commits.atomic_of_ok {u : MachineStateUpdate} (h : call.Commits env c u)
    (hcommit : (commitState env u).run c = .ok (c.announcement u) c') (htask : call.HasTask c') :
    call.Atomic env c ↔
      (call.Found c → ¬ c.state.Settled ∨ call.Renames c) ∧ call.Holds c' := by
  rw [← h.announcement_iff]
  constructor
  · rintro (⟨result, changes, c₁, hrun, hholds, -⟩ | ⟨f, c₁, hrun, -⟩)
    all_goals rw [h.run_ok hcommit] at hrun
    · obtain ⟨hpair, rfl⟩ := EStateM.Result.ok.inj hrun
      exact ⟨⟨changes, (Prod.mk.inj hpair).2⟩, hholds⟩
    · cases hrun
  · rintro ⟨⟨changes, hchanges⟩, hholds⟩
    exact .inl ⟨.ok, changes, c', hchanges ▸ h.run_ok hcommit, hholds, htask⟩

/-- **When an accepted call is atomic.** -/
theorem Commits.atomic_iff_announces {u : MachineStateUpdate} (hc : c.FreshIDs)
    (h : call.Commits env c u) : call.Atomic env c ↔ call.Announces env c := by
  obtain ⟨hnever, hnext, hrunning⟩ := run_commitState_of_start env hc h.light h.steps
  by_cases hneeds : c.NeedsTask call.action.schedule
  · cases hoccurs : env.getNextOccurrence (c.heap.timing call.action.schedule) with
    | none =>
      refine iff_of_false ?_ fun hannounces => hannounces.occurs hneeds hoccurs
      rintro (⟨result, changes, c', hrun, -⟩ | ⟨f, c', hrun, -, htasks⟩)
      all_goals rw [h.run_error (hnever hneeds hoccurs)] at hrun; cases hrun
      -- the task was added before the exception
      have hlength := congrArg List.length htasks
      change (c.scheduler.tasks ++ [_]).length = c.scheduler.tasks.length at hlength
      simp at hlength
    | some next =>
      have htask : call.HasTask ((c.setState (c.appliedState u)).started call.action next) := by
        refine ⟨⟨c.scheduler.nextGuid, c.heap.timing call.action.schedule, some next, c.self,
          call.action⟩, ?_, ?_⟩
        · rw [started, scheduler_setSchedulerID]
          exact List.mem_append_right _ (List.mem_singleton_self _)
        · rw [started, schedulerID_setSchedulerID, if_pos rfl]
          rfl
      rw [h.atomic_of_ok (hnext next hneeds hoccurs) htask, h.holds_started]
      have hsome : env.getNextOccurrence (c.heap.timing call.action.schedule) ≠ none := by
        rw [hoccurs]
        exact Option.some_ne_none next
      exact ⟨fun ha => ⟨fun _ => hsome, ha.1, fun hfound _ => ha.2 hfound⟩,
        fun ha => ⟨ha.reports, fun hfound => ha.stored hfound hneeds⟩⟩
  · have htask : call.HasTask (c.setState (c.appliedState u)) := by
      cases hid : c.heap.schedulerID call.action.schedule with
      | none =>
        rw [NeedsTask, hid] at hneeds
        exact absurd rfl hneeds
      | some id =>
        rw [needsTask_some_iff hid, Bool.not_eq_false] at hneeds
        obtain ⟨⟨t, ht, rfl⟩, -⟩ := isTaskRunning_iff.mp hneeds
        exact ⟨t, ht, hid⟩
    rw [h.atomic_of_ok (hrunning hneeds) htask]
    exact ⟨fun ha => ⟨fun hn => absurd hn hneeds, ha.1, fun _ hn => absurd hn hneeds⟩,
      fun ha => ⟨ha.reports, h.holds⟩⟩

/-- **A call schedules and announces or leaves everything alone** just when an accepted one
announces. A refused one leaves everything alone without raising. -/
theorem call_atomic_iff (env : Environment Cron) (c : MachineConnection Cron) (call : ScheduleCall)
    (hc : c.FreshIDs) :
    (call.Atomic env c ∨ call.Refused env c ↔ (call.Accepts c → call.Announces env c)) ∧
      (call.Atomic env c ↔ ¬ call.Refuses c ∧ (call.Accepts c → call.Announces env c)) := by
  obtain ⟨haccepts, hrefuses⟩ | ⟨haccepts, hrefuses⟩ | ⟨haccepts, hrefuses, r, rfl⟩ :=
    checks_cases c call
  · obtain ⟨u, hu⟩ := exists_commits env hc haccepts
    rw [or_iff_left hu.not_refused, hu.atomic_iff_announces hc]
    exact ⟨⟨fun h _ => h, fun h => h haccepts⟩, fun h => ⟨hrefuses, fun _ => h⟩,
      fun h => h.2 haccepts⟩
  · have hrefused : call.Refused env c := refused_of_refuses hrefuses
    exact ⟨iff_of_true (.inr hrefused) fun h => absurd h haccepts,
      iff_of_false (not_atomic_of_refused hrefused) fun h => h.1 hrefuses⟩
  · exact ⟨iff_of_true (.inl (atomic_heating_none r)) fun h => absurd h haccepts,
      iff_of_true (atomic_heating_none r) ⟨hrefuses, fun h => absurd h haccepts⟩⟩

/-- A new machine that can start local jobs. -/
private def capable : MachineConnection Unit where
  self := ⟨0⟩
  state := { (default : MachineState) with capabilities := .startLocalJob }
  heap := default
  scheduler := default

private theorem freshIDs_capable : capable.FreshIDs := .of_unused rfl fun r => by cases r <;> rfl

private def always : Environment Unit := ⟨default, fun _ => some default⟩

private def never : Environment Unit := ⟨default, fun _ => none⟩

/-- A new print that occurs is scheduled and announced. -/
theorem call_atomic_iff_always : (print ⟨0⟩).Atomic always capable := by
  have hannounces : (print ⟨0⟩).Announces always capable := by
    refine ⟨fun _ h => ?_, fun h => ?_, fun h => ?_⟩
    all_goals cases h
  exact (call_atomic_iff always capable (print ⟨0⟩) freshIDs_capable).2.mpr
    ⟨fun h => h rfl, fun _ => hannounces⟩

/-- **A print that never occurs** is in the state and has a task when the call raises. -/
theorem call_atomic_fails : capable.FreshIDs ∧
    (∃ c', ((print ⟨0⟩).run never).run capable = .error .invalidOperation c' ∧
      c'.state.scheduledPrints.elems = [⟨0⟩] ∧ c'.scheduler.tasks.length = 1) ∧
    ¬ (print ⟨0⟩).Atomic never capable := by
  have hrun : ∃ c', ((print ⟨0⟩).run never).run capable = .error .invalidOperation c' ∧
      c'.state.scheduledPrints.elems = [⟨0⟩] ∧ c'.scheduler.tasks.length = 1 :=
    ⟨_, rfl, rfl, rfl⟩
  refine ⟨freshIDs_capable, hrun, ?_⟩
  obtain ⟨c', hrun, -, htask⟩ := hrun
  rintro (⟨result, changes, c'', hrun', -⟩ | ⟨f, c'', hrun', -, htasks⟩)
  all_goals rw [hrun] at hrun'; cases hrun'
  rw [htasks] at htask
  cases htask

end ScheduleCall

end ScheduledTasks

end MachineConnection

end Connect3Dp
