import Connect3Dp.Connectors.ScheduleKeeping
import Connect3Dp.Runtime.Transition

/-!
# Schedules and tasks along a run

Do the schedules in the state of a machine and its tasks in the scheduler stay in bijection?
They do along every run whose commits meet `Operation.Keeps`, from any connection that has
neither (`schedulesMatchTasks_of_reachable`). Between its commits, callers and other machines use
the heap and the scheduler too, without touching what is this machine's (`OthersChange`).

They do not in general: a scheduled print that is canceled right away keeps its place in the
state, because its `SchedulerID` was assigned after the set had hashed it
(`schedulesMatchTasks_fails`).
-/

namespace Connect3Dp

namespace MachineConnection

namespace ScheduledTasks

/-- The commits of a machine: the operations on schedules, the commit of a scheduled print whose
file is gone, and all other commits, none of which carries schedules. -/
inductive Operation
  | schedulePrint (scheduledPrint : ScheduledPrintRef)
  | scheduleMUHeating (unitID : NetString) (schedule : HeatingScheduleRef)
  | cancelScheduledPrint (scheduledPrint : ScheduledPrintRef)
  | cancelScheduledMUHeating (unitID : NetString) (schedule : HeatingScheduleRef)
  | cancelAllScheduledMUHeating (unitID : NetString)
  | skipScheduledPrint (utcNow : DateTimeOffset) (scheduledPrint : ScheduledPrintRef)
  | commit (u : MachineStateUpdate) (hu : u.CarriesNoSchedules)

variable {Cron : Type} [DecidableEq Cron] [Hashable (HeatingSchedule Cron)]
  [Hashable (ScheduledPrint Cron)]

namespace Operation

def run (env : Environment Cron) : Operation → EStateM Fault (MachineConnection Cron) Unit
  | schedulePrint r => discard (ScheduledTasks.schedulePrint env r)
  | scheduleMUHeating unitID r => discard (ScheduledTasks.scheduleMUHeating env unitID r)
  | cancelScheduledPrint r => ScheduledTasks.cancelScheduledPrint env r
  | cancelScheduledMUHeating unitID r =>
    discard (ScheduledTasks.cancelScheduledMUHeating env unitID r)
  | cancelAllScheduledMUHeating unitID =>
    discard (ScheduledTasks.cancelAllScheduledMUHeating env unitID)
  | skipScheduledPrint utcNow r => ScheduledTasks.skipScheduledPrint env utcNow r
  | commit u _ => discard (commitState env u)

/-- The connection that an operation leaves, whether it returns or raises. -/
def after (env : Environment Cron) (op : Operation) (c : MachineConnection Cron) :
    MachineConnection Cron := finalState ((op.run env).run c)

/-- When an operation keeps schedules and tasks together. What it asks of a schedule, it asks
only where the operation gets to its commit. -/
def Keeps (env : Environment Cron) (c : MachineConnection Cron) : Operation → Prop
  | schedulePrint r => c.state.opIfNotCapable .startLocalJob = none →
    StartsSafely env c (c.state.scheduledPrints.contains c.heap.scheduledPrints r) (.print r)
  | scheduleMUHeating unitID r => ∀ id m, unitID = some id →
    c.state.materialUnits.tryGetValue id = some m → m.ifNotCapable MUCapabilities.heating = none →
    StartsSafely env c (m.heatingSchedule.contains c.heap.heatingSchedules r) (.heating r)
  | cancelScheduledPrint r | skipScheduledPrint _ r =>
    c.EndsSafely (c.state.scheduledPrints.contains c.heap.scheduledPrints r) (.print r)
  | cancelScheduledMUHeating unitID r => ∀ id m, unitID = some id →
    c.state.materialUnits.tryGetValue id = some m →
    c.EndsSafely (m.heatingSchedule.contains c.heap.heatingSchedules r) (.heating r)
  | cancelAllScheduledMUHeating unitID => ∀ id m, unitID = some id →
    c.state.materialUnits.tryGetValue id = some m →
    ∀ slot ∈ m.heatingSchedule.slots, slot.hashCode = hash (c.heap.heatingSchedules slot.record)
  | commit u _ => c.CommitsSafely u

end Operation

/-- A machine without schedules and tasks, and a scheduler that runs. -/
structure Initial (c : MachineConnection Cron) : Prop where
  freshIDs : c.FreshIDs
  isRunning : c.scheduler.isDisposed = false
  noSchedule : c.state.scheduledPrints = ∅ ∧ ∀ id, c.state.heatingSchedules id = ∅
  noTask : ∀ t ∈ c.scheduler.tasks, t.owner ≠ c.self

/-- What callers and other machines do between two commits: they allocate schedules and use the
scheduler, but neither the tasks of this machine nor the identifiers of its schedules change. -/
structure OthersChange (c c' : MachineConnection Cron) : Prop where
  self : c'.self = c.self
  state : c'.state = c.state
  hasTask : ∀ id a, c'.HasTask id a ↔ c.HasTask id a
  schedulerID : ∀ a, c.state.Stores a →
    c'.heap.schedulerID a.schedule = c.heap.schedulerID a.schedule
  freshIDs : c'.FreshIDs
  isRunning : c'.scheduler.isDisposed = c.scheduler.isDisposed

/-- A step of a run all of whose commits meet their conditions. -/
inductive Step (c : MachineConnection Cron) : MachineConnection Cron → Prop
  | operation (env : Environment Cron) (op : Operation) (h : op.Keeps env c) :
    Step c (op.after env c)
  | others (c' : MachineConnection Cron) (h : OthersChange c c') : Step c c'

/-! ### One step -/

variable {env : Environment Cron} {c c' : MachineConnection Cron}

section Runs

variable {α : Type}

omit [DecidableEq Cron] [Hashable (HeatingSchedule Cron)] [Hashable (ScheduledPrint Cron)] in
theorem finalState_discard (m : EStateM Fault (MachineConnection Cron) α) :
    finalState ((discard m).run c) = finalState (m.run c) := by
  cases h : m.run c with
  | ok a c' => rw [run_discard_ok h]; rfl
  | error f c' => rw [run_discard_error h]; rfl

/-- The connection after a commit whose result is dropped. -/
theorem finalState_commitState_bind {u : MachineStateUpdate} (a : α) :
    finalState ((do discard (commitState env u); return a : EStateM Fault _ α).run c) =
      afterCommit env u c := by
  rw [afterCommit]
  cases h : (commitState env u).run c with
  | ok raised c' => rw [run_bind_ok (run_discard_ok h)]; rfl
  | error f c' => rw [run_bind_error (run_discard_error h)]; rfl

theorem finalState_commitState {u : MachineStateUpdate} :
    finalState ((discard (commitState env u)).run c) = afterCommit env u c := by
  rw [finalState_discard, afterCommit]
  cases (commitState env u).run c <;> rfl

omit [DecidableEq Cron] [Hashable (HeatingSchedule Cron)] [Hashable (ScheduledPrint Cron)] in
theorem run_withUnit {id : String} {m : MUnit}
    {body : String → MUnit → EStateM Fault (MachineConnection Cron) MachineOperationResult}
    (hm : c.state.materialUnits.tryGetValue id = some m) :
    (withUnit (some id) body).run c = (body id m).run c := by
  have hget : (get : EStateM Fault (MachineConnection Cron) _).run c = .ok c c := rfl
  rw [withUnit, run_bind_ok hget]
  dsimp only
  rw [hm]

omit [DecidableEq Cron] [Hashable (HeatingSchedule Cron)] [Hashable (ScheduledPrint Cron)] in
/-- An operation on a unit does nothing unless there is one with the ID. -/
theorem unit_or_finalState_withUnit (c : MachineConnection Cron) (unitID : NetString) :
    (∃ id m, unitID = some id ∧ c.state.materialUnits.tryGetValue id = some m) ∨
      ∀ body, finalState ((withUnit unitID body).run c) = c := by
  have hget : (get : EStateM Fault (MachineConnection Cron) _).run c = .ok c c := rfl
  cases unitID with
  | none => exact .inr fun body => rfl
  | some id =>
    cases hm : c.state.materialUnits.tryGetValue id with
    | some m => exact .inl ⟨id, m, rfl, hm⟩
    | none =>
      refine .inr fun body => ?_
      rw [withUnit, run_bind_ok hget]
      dsimp only
      rw [hm]
      rfl

end Runs

/-- Several updates of one unit are one update. -/
theorem foldl_updateMaterialUnits {R : Type} (id : String) (f : MUnitUpdate → R → MUnitUpdate)
    (rs : List R) (g : MUnitUpdate → MUnitUpdate) :
    rs.foldl (fun u r => u.updateMaterialUnits id fun mu => f mu r)
        ((default : MachineStateUpdate).updateMaterialUnits id g) =
      (default : MachineStateUpdate).updateMaterialUnits id fun mu => rs.foldl f (g mu) := by
  induction rs generalizing g with
  | nil => rfl
  | cons r rs ih =>
    have hone : ((default : MachineStateUpdate).updateMaterialUnits id g).updateMaterialUnits id
        (fun mu => f mu r) =
          (default : MachineStateUpdate).updateMaterialUnits id fun mu => f (g mu) r :=
      congrArg (fun units => { (default : MachineStateUpdate) with materialUnits := units })
        (DictionaryBuffer.update_update default id (MUnitUpdate.assertKey id default) g
          fun mu => f mu r)
    rw [List.foldl_cons, hone, ih]
    rfl

omit [DecidableEq Cron] [Hashable (HeatingSchedule Cron)] [Hashable (ScheduledPrint Cron)] in
/-- The task of each schedule of a unit is ended. -/
theorem run_forM_endHeating (rs : List HeatingScheduleRef) :
    (forM rs endHeating : EStateM Fault (MachineConnection Cron) _).run c =
      .ok () (c.finishedAll (rs.map ScheduleRef.heating)) := by
  induction rs generalizing c with
  | nil => rfl
  | cons r rs ih =>
    have hend : (endHeating r : EStateM Fault (MachineConnection Cron) _).run c =
      .ok () (c.finished (.heating r)) := rfl
    rw [List.forM_cons, run_bind_ok hend, ih]
    rfl

/-! ### What an operation commits -/

/-- An operation that gets through its checks: the schedules whose tasks it ends by itself, and
what it commits then. -/
inductive Operation.Commits (c : MachineConnection Cron) :
    Operation → List ScheduleRef → MachineStateUpdate → Prop
  | schedulePrint {r : ScheduledPrintRef}
    (hcapable : c.state.opIfNotCapable .startLocalJob = none) :
    Commits c (.schedulePrint r) []
      ((default : MachineStateUpdate).setScheduledPrints c.heap.ops r)
  | scheduleMUHeating {id : String} {m : MUnit} {r : HeatingScheduleRef}
    (hm : c.state.materialUnits.tryGetValue id = some m)
    (hcapable : m.ifNotCapable MUCapabilities.heating = none) :
    Commits c (.scheduleMUHeating (some id) r) []
      ((default : MachineStateUpdate).updateMaterialUnits id
        (·.setHeatingSchedule c.heap.ops.heatingSchedules r))
  | cancelScheduledPrint (r : ScheduledPrintRef) :
    Commits c (.cancelScheduledPrint r) []
      ((default : MachineStateUpdate).removeScheduledPrints c.heap.ops [r])
  | cancelScheduledMUHeating {id : String} {m : MUnit} {r : HeatingScheduleRef}
    (hm : c.state.materialUnits.tryGetValue id = some m) :
    Commits c (.cancelScheduledMUHeating (some id) r) []
      ((default : MachineStateUpdate).updateMaterialUnits id
        (·.removeHeatingSchedule c.heap.ops.heatingSchedules r))
  | cancelAllScheduledMUHeating {id : String} {m : MUnit}
    (hm : c.state.materialUnits.tryGetValue id = some m) :
    Commits c (.cancelAllScheduledMUHeating (some id))
      (m.heatingSchedule.elems.map ScheduleRef.heating)
      (m.heatingSchedule.elems.foldl (fun changes schedule =>
        changes.updateMaterialUnits id
          (·.removeHeatingSchedule c.heap.ops.heatingSchedules schedule)) default)
  | skipScheduledPrint {utcNow : DateTimeOffset} {r : ScheduledPrintRef} {u : MachineStateUpdate}
    (hchanges : (default : MachineStateUpdate).setNotifications utcNow
      (MachineMessages.scheduledPrintSkipped (c.heap.scheduledPrints r).localJob.name
        "Local file no longer exists on the machine") = .ok u) :
    Commits c (.skipScheduledPrint utcNow r) [] (u.removeScheduledPrints c.heap.ops [r])
  | commit (u : MachineStateUpdate) (hu : u.CarriesNoSchedules) : Commits c (.commit u hu) [] u

theorem Operation.Commits.after_eq {op : Operation} {rs : List ScheduleRef}
    {u : MachineStateUpdate} (h : op.Commits c rs u) (env : Environment Cron) :
    op.after env c = afterCommit env u (c.finishedAll rs) := by
  have hget : ∀ c₁ : MachineConnection Cron,
      (get : EStateM Fault (MachineConnection Cron) _).run c₁ = .ok c₁ c₁ := fun _ => rfl
  cases h with
  | schedulePrint hcapable =>
    rw [Operation.after, Operation.run, finalState_discard, ScheduledTasks.schedulePrint,
      run_bind_ok (hget c), hcapable]
    exact finalState_commitState_bind _
  | scheduleMUHeating hm hcapable =>
    rw [Operation.after, Operation.run, finalState_discard, ScheduledTasks.scheduleMUHeating,
      run_withUnit hm, run_bind_ok (hget c), hcapable]
    exact finalState_commitState_bind _
  | cancelScheduledPrint r =>
    rw [Operation.after, Operation.run, ScheduledTasks.cancelScheduledPrint, run_bind_ok (hget c)]
    exact finalState_commitState
  | cancelScheduledMUHeating hm =>
    rw [Operation.after, Operation.run, finalState_discard,
      ScheduledTasks.cancelScheduledMUHeating, run_withUnit hm, run_bind_ok (hget c)]
    exact finalState_commitState_bind _
  | @cancelAllScheduledMUHeating id m hm =>
    -- the tasks are ended one by one before the one commit that removes the schedules
    have hheap : (c.finishedAll (m.heatingSchedule.elems.map ScheduleRef.heating)).heap = c.heap :=
      (finishedAll_frame c _).2.2.1
    rw [Operation.after, Operation.run, finalState_discard,
      ScheduledTasks.cancelAllScheduledMUHeating, run_withUnit hm]
    dsimp only
    rw [run_bind_ok (run_forM_endHeating _), run_bind_ok (hget _), hheap]
    exact finalState_commitState_bind _
  | skipScheduledPrint hchanges =>
    rw [Operation.after, Operation.run, ScheduledTasks.skipScheduledPrint, run_bind_ok (hget c)]
    dsimp only
    rw [hchanges, ofExcept_ok_bind]
    exact finalState_commitState
  | commit u hu => exact finalState_commitState

/-- **Every operation commits once, or does nothing.** -/
theorem Operation.after_cases (env : Environment Cron) (op : Operation)
    (c : MachineConnection Cron) :
    op.after env c = c ∨ ∃ rs u, op.Commits c rs u := by
  have hget : (get : EStateM Fault (MachineConnection Cron) _).run c = .ok c c := rfl
  cases op with
  | schedulePrint r =>
    cases hcapable : c.state.opIfNotCapable .startLocalJob with
    | none => exact .inr ⟨_, _, .schedulePrint hcapable⟩
    | some uncapableResult =>
      left
      rw [Operation.after, Operation.run, finalState_discard, ScheduledTasks.schedulePrint,
        run_bind_ok hget, hcapable]
      rfl
  | scheduleMUHeating unitID r =>
    obtain ⟨id, m, rfl, hm⟩ | hnone := unit_or_finalState_withUnit c unitID
    · cases hcapable : m.ifNotCapable MUCapabilities.heating with
      | none => exact .inr ⟨_, _, .scheduleMUHeating hm hcapable⟩
      | some uncapableResult =>
        left
        rw [Operation.after, Operation.run, finalState_discard, ScheduledTasks.scheduleMUHeating,
          run_withUnit hm, run_bind_ok hget, hcapable]
        rfl
    · exact .inl ((finalState_discard _).trans (hnone _))
  | cancelScheduledPrint r => exact .inr ⟨_, _, .cancelScheduledPrint r⟩
  | cancelScheduledMUHeating unitID r =>
    obtain ⟨id, m, rfl, hm⟩ | hnone := unit_or_finalState_withUnit c unitID
    · exact .inr ⟨_, _, .cancelScheduledMUHeating hm⟩
    · exact .inl ((finalState_discard _).trans (hnone _))
  | cancelAllScheduledMUHeating unitID =>
    obtain ⟨id, m, rfl, hm⟩ | hnone := unit_or_finalState_withUnit c unitID
    · exact .inr ⟨_, _, .cancelAllScheduledMUHeating hm⟩
    · exact .inl ((finalState_discard _).trans (hnone _))
  | skipScheduledPrint utcNow r =>
    cases hchanges : (default : MachineStateUpdate).setNotifications utcNow
        (MachineMessages.scheduledPrintSkipped (c.heap.scheduledPrints r).localJob.name
          "Local file no longer exists on the machine") with
    | ok u => exact .inr ⟨_, _, .skipScheduledPrint hchanges⟩
    | error f =>
      left
      rw [Operation.after, Operation.run, ScheduledTasks.skipScheduledPrint, run_bind_ok hget]
      dsimp only
      rw [hchanges]
      rfl
  | commit u hu => exact .inr ⟨_, _, .commit u hu⟩

/-! ### Keeping schedules and tasks together -/

theorem carriesNoSchedules_default : (default : MachineStateUpdate).CarriesNoSchedules :=
  ⟨rfl, fun id mu hmu => by cases hmu⟩

omit [DecidableEq Cron] [Hashable (HeatingSchedule Cron)] in
theorem commitsSafely_default : c.CommitsSafely default where
  returns h := absurd rfl h
  found slot _ hslot := by cases hslot
  units _ _ _ id hid := by cases hid

/-- The cancellation of all the schedules of a unit, behind its checks. -/
theorem tracks_cancelAll (h : c.Tracks) {id : String} {m : MUnit}
    (hm : c.state.materialUnits.tryGetValue id = some m)
    (hfind : ∀ slot ∈ m.heatingSchedule.slots,
      slot.hashCode = hash (c.heap.heatingSchedules slot.record)) :
    (afterCommit env (m.heatingSchedule.elems.foldl (fun changes schedule =>
        changes.updateMaterialUnits id
          (·.removeHeatingSchedule c.heap.ops.heatingSchedules schedule)) default)
      (c.finishedAll (m.heatingSchedule.elems.map ScheduleRef.heating))).Tracks := by
  have hall := h.removeAllHeatingSchedules env hm hfind
  cases helems : m.heatingSchedule.elems with
  | nil => exact h.commit carriesNoSchedules_default commitsSafely_default
  | cons r rs =>
    rw [helems] at hall
    rw [List.foldl_cons, foldl_updateMaterialUnits id
      (fun mu r => mu.removeHeatingSchedule c.heap.ops.heatingSchedules r)]
    exact hall

/-- **Every commit that meets its condition** keeps schedules and tasks together. -/
theorem tracks_after (h : c.Tracks) (op : Operation) (hop : op.Keeps env c) :
    (op.after env c).Tracks := by
  obtain hafter | ⟨rs, u, hcommits⟩ := op.after_cases env c
  · rwa [hafter]
  rw [hcommits.after_eq env]
  cases hcommits with
  | schedulePrint hcapable => exact h.setScheduledPrint (hop hcapable)
  | scheduleMUHeating hm hcapable => exact h.setHeatingSchedule hm (hop _ _ rfl hm hcapable)
  | cancelScheduledPrint r => exact h.removeScheduledPrint (.refl _) hop
  | cancelScheduledMUHeating hm => exact h.removeHeatingSchedule hm (hop _ _ rfl hm)
  | cancelAllScheduledMUHeating hm => exact tracks_cancelAll h hm (hop _ _ rfl hm)
  | skipScheduledPrint hchanges =>
    exact h.removeScheduledPrint (MachineStateUpdate.extends_setNotifications _ hchanges) hop
  | commit u hu => exact h.commit hu hop

omit [DecidableEq Cron] [Hashable (HeatingSchedule Cron)] [Hashable (ScheduledPrint Cron)] in
theorem tracks_others (h : c.Tracks) (hothers : OthersChange c c') : c'.Tracks := by
  have hids : ∀ a, c'.state.Stores a ↔ c.state.Stores a := fun a => by rw [hothers.state]
  refine ⟨hothers.freshIDs, hothers.isRunning.trans h.isRunning, ?_, ?_, fun a ha => ?_,
    fun id a => ?_⟩
  · rw [hothers.state]
    exact h.nodup_scheduledPrints
  · rw [hothers.state]
    exact h.nodup_heatingSchedules
  · rw [hids] at ha
    rw [hothers.schedulerID a ha]
    exact h.assigned a ha
  · rw [hothers.hasTask, h.hasTask_iff, hids]
    exact and_congr_right fun ha => by rw [hothers.schedulerID a ha]

omit [DecidableEq Cron] [Hashable (HeatingSchedule Cron)] [Hashable (ScheduledPrint Cron)] in
theorem tracks_initial (h : Initial c) : c.Tracks := by
  obtain ⟨hprints, hheatings⟩ := h.noSchedule
  have hnone : ∀ a, ¬ c.state.Stores a := by
    intro a
    cases a with
    | beginMUHeating mmid hs =>
      cases mmid with
      | none => exact id
      | some id => rw [MachineState.Stores, hheatings]; exact List.not_mem_nil
    | printLocal sp => rw [MachineState.Stores, hprints]; exact List.not_mem_nil
  refine ⟨h.freshIDs, h.isRunning, ?_, fun id => ?_, fun a ha => absurd ha (hnone a),
    fun id a => ?_⟩
  · rw [hprints]
    exact List.nodup_nil
  · rw [hheatings]
    exact List.nodup_nil
  · constructor
    · rintro ⟨t, ht, howner, -⟩
      exact absurd howner (h.noTask t ht)
    · exact fun ha => absurd ha.1 (hnone a)

/-! ### Runs -/

theorem tracks_of_reachable (h : Reachable Initial Step c) : c.Tracks := by
  refine h.induct (fun _ h₀ => tracks_initial h₀) fun c₁ c₂ _ h₁ hstep => ?_
  cases hstep with
  | operation env op hop => exact tracks_after h₁ op hop
  | others _ hothers => exact tracks_others h₁ hothers

/-- **Along every run whose commits meet their conditions, the schedules of the state and the
tasks of the machine are in bijection.** -/
theorem schedulesMatchTasks_of_reachable (h : Reachable Initial Step c) : c.SchedulesMatchTasks :=
  (tracks_of_reachable h).schedulesMatchTasks

/-! ### A scheduled print and its cancellation -/

/-- The CRON expression of the runs below. -/
inductive Daily
  | midnight
  deriving DecidableEq, Inhabited

/-- Like the synthesized hash codes, these depend on `SchedulerID`. -/
instance : Hashable (HeatingSchedule Daily) :=
  ⟨fun s => (s.schedulerID.map fun id => UInt64.ofNat (id + 1)).getD 0⟩

instance : Hashable (ScheduledPrint Daily) :=
  ⟨fun s => (s.schedulerID.map fun id => UInt64.ofNat (id + 1)).getD 0⟩

private def daily : Environment Daily where
  now := default
  getNextOccurrence _ := some default

/-- A new machine that can start local jobs. -/
private def startable : MachineConnection Daily where
  self := ⟨0⟩
  state := { (default : MachineState) with capabilities := .startLocalJob }
  heap := default
  scheduler := default

private theorem initial_startable : Initial startable where
  freshIDs := .of_unused rfl fun r => by cases r <;> rfl
  isRunning := rfl
  noSchedule := ⟨rfl, fun _ => rfl⟩
  noTask _ := nofun

/-- The machine once a print is scheduled. -/
private def scheduledOnce : MachineConnection Daily :=
  (Operation.schedulePrint ⟨0⟩).after daily startable

theorem schedulesMatchTasks_of_reachable_scheduledOnce :
    scheduledOnce.state.scheduledPrints.elems = [⟨0⟩] ∧ scheduledOnce.SchedulesMatchTasks := by
  refine ⟨rfl, schedulesMatchTasks_of_reachable ⟨startable, initial_startable, .single ?_⟩⟩
  exact .operation daily (.schedulePrint ⟨0⟩) fun _ => .inr ⟨rfl, default, rfl⟩

/-- **The print stays when its task is ended**: the set has stored it under the hash code it had
without an identifier. -/
theorem schedulesMatchTasks_fails : Initial startable ∧
    ¬ ((Operation.cancelScheduledPrint ⟨0⟩).after daily scheduledOnce).SchedulesMatchTasks := by
  refine ⟨initial_startable, fun h => ?_⟩
  have hstored : ((Operation.cancelScheduledPrint ⟨0⟩).after daily scheduledOnce).state.Stores
      (.printLocal ⟨0⟩) := List.mem_singleton_self _
  have hended : ((Operation.cancelScheduledPrint ⟨0⟩).after daily scheduledOnce).scheduler.tasks =
      [] := rfl
  obtain ⟨t, -, -, htask⟩ := h.exactlyOne _ hstored
  rw [hended] at htask
  cases htask

end ScheduledTasks

end MachineConnection

end Connect3Dp
