import Connect3Dp.Connectors.ScheduleTracking

/-!
# What a commit does to the schedules

The connection a commit leaves, by where the commit ends (`afterCommit_cases`), and what it has
done to the two kinds of sets of schedules by then: an update that carries no schedules for a
unit leaves its set alone, however far the merge of the units gets
(`CarriesNoSchedules.schedulesOf_of_error`).

The operations on schedules commit updates that neither raise in the application nor end a print
(`Light`), so what they leave is what the scheduling steps make of the applied state
(`afterCommit_of_light`).
-/

namespace Connect3Dp

/-! ### Units -/

namespace MUnitUpdate

variable {ops : HeatingScheduleOps} {mu : MUnitUpdate} {id : String}

/-- The schedules of a unit, if there is one. -/
def schedulesOf (o : Option MUnit) : RecordHashSet HeatingScheduleRef :=
  (o.map (·.heatingSchedule)).getD ∅

theorem schedulesOf_merge_of_default (h : mu.heatingSchedule = default) (o : Option MUnit) :
    schedulesOf ((total ops).merge id mu o) = schedulesOf o := by
  cases o with
  | some m =>
    have hmerge : schedulesOf ((total ops).merge id mu (some m)) =
        mu.heatingSchedule.apply ops m.heatingSchedule := rfl
    rw [hmerge, h]
    rfl
  | none =>
    have hmerge : (total ops).merge id mu none = (mu.assertKey id).created ops := rfl
    rw [hmerge, created]
    split
    · have hcreated : schedulesOf (some ((mu.assertKey id).apply ops
          (mu.assertKey id).initializer)) = mu.heatingSchedule.apply ops ∅ := rfl
      rw [hcreated, h]
      rfl
    · rfl

/-- A merge that raises does not get to the schedules of the unit. -/
theorem schedulesOf_of_merge_error {o o' : Option MUnit} {f : Fault}
    (h : ((updater ops).merge id mu).run o = .error f o') : schedulesOf o' = schedulesOf o := by
  cases o with
  | none => rw [(FaultingUpdater.run_merge_none_eq_error_iff.mp h).2]
  | some m =>
    obtain ⟨m', hm', rfl⟩ := FaultingUpdater.run_merge_some_eq_error_iff.mp h
    have hrun : ((mu.assertKey id).appendUpdate ops).run m = .error f m' :=
      run_updater_appendUpdate_eq_error_iff.mp hm'
    obtain ⟨f', -, hr⟩ | ⟨c, f', trays, -, -, hr⟩ | ⟨c, trays, -, -, hr⟩ :=
      run_appendUpdate_cases ops (mu.assertKey id) m
    all_goals rw [hr] at hrun; cases hrun
    · rfl
    · rfl

theorem schedulesOf_or {o o' : Option MUnit} (h : schedulesOf o = schedulesOf o') :
    schedulesOf (o.or o') = schedulesOf o' := by
  cases o with
  | none => rfl
  | some m => exact h

theorem trays_lookup_of_default (h : mu.trays = default) (k : Int32) :
    mu.trays.lookup k = none := by
  rw [h]
  rfl

/-- Without trays the report of an update does not raise. -/
theorem not_raisesInEntry_of_default (h : mu.trays = default) (o : Option MUnit) :
    ¬ mu.RaisesInEntry id o := by
  have hchanges : ∀ trays, ¬ mu.RaisesInChanges trays := by
    rintro trays ⟨k, su, hsu, -⟩
    rw [trays_lookup_of_default h] at hsu
    cases hsu
  cases o with
  | none => exact fun hraises => hchanges ∅ hraises.2
  | some m => exact hchanges m.trays

/-- Nor does its merge. -/
theorem not_mergeRaises_of_default (h : mu.trays = default) (o : Option MUnit) :
    ¬ (updater ops).MergeRaises id mu o := by
  intro hraises
  obtain hentry | ⟨m, -, k, su, s, hsu, -⟩ := mergeRaises_iff.mp hraises
  · exact not_raisesInEntry_of_default h o hentry
  · rw [trays_lookup_of_default h] at hsu
    cases hsu

end MUnitUpdate

namespace MachineStateUpdate

variable {ops : ScheduleOps} {u : MachineStateUpdate} {s : MachineState}

open MUnitUpdate

/-- The update carries no schedules. -/
structure CarriesNoSchedules (u : MachineStateUpdate) : Prop where
  scheduledPrints : u.scheduledPrints = default
  heatingSchedules : ∀ id mu, u.materialUnits.lookup id = some mu → mu.heatingSchedule = default

theorem schedulesOf_alterAll {kus : List (String × MUnitUpdate)} {d : Dictionary String MUnit}
    {ops : HeatingScheduleOps} (hn : (kus.map Prod.fst).Nodup)
    (h : ∀ ku ∈ kus, ku.2.heatingSchedule = default) (id : String) :
    schedulesOf ((d.alterAll (MUnitUpdate.total ops).merge kus).tryGetValue id) =
      schedulesOf (d.tryGetValue id) := by
  rw [Dictionary.tryGetValue_alterAll _ hn]
  cases hlookup : kus.lookup id with
  | none => rfl
  | some mu =>
    have hmem : (id, mu) ∈ kus := (Dictionary.lookup_eq_some_iff_mem hn).mp hlookup
    exact schedulesOf_or (schedulesOf_merge_of_default (h _ hmem) _)

/-- A merge of the units that raises has changed no schedules. -/
theorem CarriesNoSchedules.schedulesOf_of_error (hu : u.CarriesNoSchedules)
    {ops : HeatingScheduleOps} {d units : Dictionary String MUnit} {f : Fault}
    (h : (u.materialUnits.appendUpdate (MUnitUpdate.updater ops)).run d = .error f units)
    (id : String) : schedulesOf (units.tryGetValue id) = schedulesOf (d.tryGetValue id) := by
  obtain ⟨pre, k, mu, post, o, hentries, -, herr, rfl⟩ :=
    DictionaryBuffer.appendUpdate_error MUnitUpdate.refines h
  have hn : ((pre ++ (k, mu) :: post).map Prod.fst).Nodup :=
    hentries ▸ u.materialUnits.nodup_entries
  rw [List.map_append, List.nodup_append] at hn
  have hpre : ∀ ku ∈ pre, ku.2.heatingSchedule = default := by
    intro ku hku
    refine hu.heatingSchedules ku.1 ku.2 (DictionaryBuffer.mem_entries_iff.mp ?_)
    rw [hentries]
    exact List.mem_append_left _ hku
  rw [Dictionary.tryGetValue_assign]
  split
  · rename_i hk
    have hbefore : schedulesOf ((d.alterAll (MUnitUpdate.total ops).merge pre).tryGetValue k) =
        schedulesOf (d.tryGetValue k) := schedulesOf_alterAll hn.1 hpre k
    rw [hk, schedulesOf_or ((schedulesOf_of_merge_error herr).trans hbefore.symm), hbefore]
  · exact schedulesOf_alterAll hn.1 hpre id

/-- A merge of the units that returns takes just the schedules of the removed units out. -/
theorem CarriesNoSchedules.heatingSchedules_apply (hu : u.CarriesNoSchedules) (id : String) :
    (u.apply ops s).heatingSchedules id =
      if id ∈ u.materialUnits.removals then ∅ else s.heatingSchedules id := by
  have hunits : (u.apply ops s).heatingSchedules id = schedulesOf
      ((u.materialUnits.apply (MUnitUpdate.total ops.heatingSchedules)
        s.materialUnits).tryGetValue id) := rfl
  rw [hunits, DictionaryBuffer.tryGetValue_apply]
  split
  · rfl
  · cases hlookup : u.materialUnits.lookup id with
    | none => rfl
    | some mu => exact schedulesOf_merge_of_default (hu.heatingSchedules id mu hlookup) _

/-- The schedules of an existing unit, after an update of that unit alone. -/
theorem heatingSchedules_apply_updateMaterialUnits {id : String} {m : MUnit}
    (hm : s.materialUnits.tryGetValue id = some m) (configure : MUnitUpdate → MUnitUpdate)
    (id' : String) :
    (((default : MachineStateUpdate).updateMaterialUnits id configure).apply ops
        s).heatingSchedules id' =
      if id' = id then
        (configure (MUnitUpdate.assertKey id default)).heatingSchedule.apply ops.heatingSchedules
          m.heatingSchedule
      else s.heatingSchedules id' := by
  have hunits : (((default : MachineStateUpdate).updateMaterialUnits id configure).apply ops
      s).heatingSchedules id' = schedulesOf ((((default : DictionaryBuffer String
        MUnitUpdate).update id (MUnitUpdate.assertKey id default) configure).apply
          (MUnitUpdate.total ops.heatingSchedules) s.materialUnits).tryGetValue id') := rfl
  have hremovals : ((default : DictionaryBuffer String MUnitUpdate).update id
      (MUnitUpdate.assertKey id default) configure).removals = [] := rfl
  have hlookup : ((default : DictionaryBuffer String MUnitUpdate).update id
      (MUnitUpdate.assertKey id default) configure).lookup id' =
        if id' = id then some (configure (MUnitUpdate.assertKey id default)) else none :=
    DictionaryBuffer.lookup_set _ _ _ _
  rw [hunits, DictionaryBuffer.tryGetValue_apply, hremovals, if_neg List.not_mem_nil, hlookup]
  by_cases hid : id' = id
  · rw [if_pos hid, if_pos hid, hid, hm]
    rfl
  · rw [if_neg hid, if_neg hid]
    rfl

/-- An update whose application returns and that ends no print. -/
structure Light (u : MachineStateUpdate) : Prop where
  localJobs : u.localJobs = default
  status : u.status.isSet = false
  currentJob : u.currentJob = default
  trays : ∀ id mu, u.materialUnits.lookup id = some mu → mu.trays = default

namespace Light

theorem not_raisesInChanges (hu : u.Light) : ¬ u.RaisesInChanges s := by
  rintro ⟨id, mu, hmu, hentry⟩
  exact not_raisesInEntry_of_default (hu.trays id mu hmu) _ hentry

theorem not_raisesInJob (hu : u.Light) : ¬ u.RaisesInJob := by
  rw [RaisesInJob, hu.currentJob]
  rintro (⟨hset, -⟩ | ⟨ju, hju, -⟩)
  · cases hset
  · cases hju

theorem not_units_error (hu : u.Light) {ops : HeatingScheduleOps} {d : Dictionary String MUnit} :
    ¬ ∃ f units, (u.materialUnits.appendUpdate (MUnitUpdate.updater ops)).run d =
      .error f units := by
  intro herror
  obtain ⟨id, mu, hmu, hraises⟩ := DictionaryBuffer.exists_appendUpdate_error_iff.mp herror
  exact not_mergeRaises_of_default (hu.trays id mu hmu) _ hraises

theorem not_endsPrint (hu : u.Light) : ¬ u.EndsPrint s := by
  rintro ⟨-, hset, -⟩
  rw [hu.status] at hset
  cases hset

end Light

end MachineStateUpdate

namespace MachineConnection

variable {Cron : Type} [DecidableEq Cron] [Hashable (HeatingSchedule Cron)]
  [Hashable (ScheduledPrint Cron)] {env : Environment Cron} {u : MachineStateUpdate}
  {c : MachineConnection Cron}

/-- The schedules of the orphaned prints. -/
def orphanRefs (c : MachineConnection Cron) (u : MachineStateUpdate) : List ScheduleRef :=
  (c.orphans u).map ScheduleRef.print

omit [DecidableEq Cron] [Hashable (HeatingSchedule Cron)] [Hashable (ScheduledPrint Cron)] in
theorem applied_eq (c : MachineConnection Cron) (u : MachineStateUpdate) (s : MachineState) :
    c.applied u s = (c.finishedAll (c.orphanRefs u)).setState s := by
  rw [applied, preprocessScheduler_eq]
  rfl

theorem afterCommit_of_error {f : Fault} {s' : MachineState}
    (h : ((c.preprocessUpdate u).appendUpdate c.heap.ops).run c.state = .error f s') :
    afterCommit env u c = c.applied u s' := by
  obtain ⟨f', s'', happly, hr⟩ | ⟨changes, s'', happly, -⟩ := run_commitState_cases env u c
  all_goals rw [h] at happly; cases happly
  rw [afterCommit, hr]

/-- **What a commit leaves**, by where it ends: in `Changes`, at `CurrentJob`, in the units, in
the history, or in the scheduling part or behind it. -/
theorem afterCommit_cases (env : Environment Cron) (u : MachineStateUpdate)
    (c : MachineConnection Cron) :
    (u.RaisesInChanges c.state ∧ afterCommit env u c = c.applied u c.state) ∨
    (u.RaisesInJob ∧ afterCommit env u c =
      c.applied u ((c.preprocessUpdate u).applyIdentity c.state)) ∨
    (∃ f units, (u.materialUnits.appendUpdate
        (MUnitUpdate.updater c.heap.ops.heatingSchedules)).run c.state.materialUnits =
          .error f units ∧
      afterCommit env u c = c.applied u
        (((c.preprocessUpdate u).applyUntilUnits c.heap.ops c.state).setMaterialUnits units)) ∨
    (c.Applies u ∧ u.RaisesInHistory c.state ∧
      afterCommit env u c = c.applied u (c.appliedState u)) ∨
    (c.Applies u ∧ afterCommit env u c = finalState
      ((forM (c.steps u) (perform env)).run (c.applied u (c.appliedState u)))) := by
  obtain ⟨hraises, f, hr⟩ | ⟨-, hraises, f, hr⟩ | ⟨-, -, -, f, units, hunits, hr⟩ |
    ⟨hch, hj, hu, hr⟩ :=
    MachineStateUpdate.run_appendUpdate_raise_cases c.heap.ops (c.preprocessUpdate u) c.state
  · exact .inl ⟨hraises, afterCommit_of_error hr⟩
  · exact .inr (.inl ⟨hraises, afterCommit_of_error hr⟩)
  · exact .inr (.inr (.inl ⟨f, units, hunits, afterCommit_of_error hr⟩))
  · have happlies : c.Applies u := ⟨hch, hj, hu⟩
    obtain ⟨f, s', happly, -⟩ | ⟨changes, s', happly, hrest⟩ := run_commitState_cases env u c
    all_goals rw [hr] at happly; cases happly
    obtain ⟨f, hhist, hrun⟩ | ⟨u', hhist, hrun⟩ := hrest
    · have hraises : (c.preprocessUpdate u).RaisesInHistory c.state :=
        appendHistory_eq_error_iff.mp ⟨f, hhist⟩
      refine .inr (.inr (.inr (.inl ⟨happlies, hraises, ?_⟩)))
      rw [afterCommit, hrun]
      rfl
    · refine .inr (.inr (.inr (.inr ⟨happlies, ?_⟩)))
      rw [updateSchedules_eq_forM env c.heap, schedulingSteps_of_appendHistory hhist] at hrun
      obtain ⟨f, c', hsteps, hrun⟩ | ⟨c', hsteps, hrun⟩ := hrun
      all_goals
        have hsteps' : (forM (c.steps u) (perform env)).run (c.applied u (c.appliedState u)) = _ :=
          hsteps
        rw [afterCommit, hrun, hsteps']
        rfl

/-- **What a light commit leaves** is what the scheduling steps make of the applied state. -/
theorem afterCommit_of_light (env : Environment Cron) (c : MachineConnection Cron)
    (hu : u.Light) :
    afterCommit env u c = finalState
      ((forM (c.steps u) (perform env)).run (c.setState (c.appliedState u))) := by
  have horphans : c.orphanRefs u = [] := by
    rw [orphanRefs, orphans, hu.localJobs]
    rfl
  obtain ⟨hraises, -⟩ | ⟨hraises, -⟩ | ⟨f, units, hraises, -⟩ | ⟨-, hraises, -⟩ | ⟨-, hafter⟩ :=
    afterCommit_cases env u c
  · exact absurd hraises hu.not_raisesInChanges
  · exact absurd hraises hu.not_raisesInJob
  · exact absurd ⟨f, units, hraises⟩ hu.not_units_error
  · exact absurd hraises.1 hu.not_endsPrint
  · rw [hafter, applied_eq, horphans]
    rfl

end MachineConnection

end Connect3Dp
