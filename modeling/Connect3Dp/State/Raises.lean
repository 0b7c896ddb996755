import Connect3Dp.State.MachineState

/-!
# When an application raises

`AppendUpdate` on a state has no rollback: what it had written when it raised stays. It can raise
in three places, each of them a builder that was removed or a dictionary that is `null`:

* in `Changes`, before anything is written: a unit would create a tray from an update that
  removes the tray's material (`MachineStateUpdate.RaisesInChanges`);
* at `CurrentJob`, after the properties before it (`RaisesInJob`);
* inside `MaterialUnits`, at a tray that exists and whose material is removed (`RaisesInUnits`).

For each of them there is a condition on the update and the state under which what was written
until then is what was there already (`appendUpdate_error_eq_iff`).
-/

namespace Connect3Dp

/-! ### Trays -/

namespace SpoolUpdate

/-- `RemoveMaterial()` was the last word on the material. -/
def RemovesMaterial (u : SpoolUpdate) : Prop := u.material.isSet = true ∧ u.material.value = none

theorem rebuildMaterial_eq_error_iff {u : SpoolUpdate} :
    (∃ f, u.rebuildMaterial = .error f) ↔ u.RemovesMaterial := by
  unfold RemovesMaterial rebuildMaterial
  cases hv : u.material.value with
  | some m => simp [NestedBuffer.rebuild_of_value hv]
  | none =>
    cases hs : u.material.isSet with
    | true => simp [NestedBuffer.rebuild_of_removed hs hv]
    | false => simp [NestedBuffer.rebuild_of_not_isSet hs]

theorem appendUpdate_eq_error_iff {u : SpoolUpdate} {s : Spool} :
    (∃ f, u.appendUpdate s = .error f) ↔ u.RemovesMaterial := by
  rw [← rebuildMaterial_eq_error_iff, appendUpdate]
  cases u.rebuildMaterial with
  | error f => exact ⟨fun _ => ⟨f, rfl⟩, fun _ => ⟨f, rfl⟩⟩
  | ok o => exact ⟨nofun, nofun⟩

theorem exists_appendUpdate_ok {u : SpoolUpdate} (h : ¬ u.RemovesMaterial) (s : Spool) :
    ∃ s', u.appendUpdate s = .ok s' := by
  cases ha : u.appendUpdate s with
  | ok s' => exact ⟨s', rfl⟩
  | error f => exact absurd (appendUpdate_eq_error_iff.mp ⟨f, ha⟩) h

theorem tryCreate_eq_error_iff {u : SpoolUpdate} :
    (∃ f, u.tryCreate = .error f) ↔ u.number.isSet = true ∧ u.RemovesMaterial := by
  unfold tryCreate
  cases hn : u.number.isSet with
  | false => exact ⟨nofun, nofun⟩
  | true =>
    cases hm : u.material.isSet with
    | false =>
      refine ⟨nofun, fun h => ?_⟩
      have := h.2.1
      rw [hm] at this
      cases this
    | true =>
      simp only [Bool.not_true, Bool.false_eq_true, if_false, true_and]
      cases hr : u.rebuildMaterial with
      | error f => exact ⟨fun _ => rebuildMaterial_eq_error_iff.mp ⟨f, hr⟩, fun _ => ⟨f, rfl⟩⟩
      | ok o =>
        have hkeeps : ¬ u.RemovesMaterial := fun h => by
          obtain ⟨f, hf⟩ := rebuildMaterial_eq_error_iff.mpr h
          rw [hr] at hf
          cases hf
        refine ⟨fun ⟨f, hf⟩ => ?_, fun h => absurd h hkeeps⟩
        cases o with
        | none => cases hf
        | some material =>
          obtain ⟨s, hs⟩ := exists_appendUpdate_ok hkeeps
            { (default : Spool) with number := u.number.value, material }
          change (do
            let s ← u.appendUpdate { (default : Spool) with number := u.number.value, material }
            return some s : Except Fault (Option Spool)) = _ at hf
          rw [hs] at hf
          cases hf

theorem run_updater_appendUpdate_eq_error_iff {u : SpoolUpdate} {s s' : Spool} {f : Fault} :
    (updater.appendUpdate u).run s = .error f s' ↔ u.appendUpdate s = .error f ∧ s' = s := by
  simp only [updater, EStateM.run]
  cases u.appendUpdate s with
  | ok s'' =>
    constructor
    · intro h
      cases h
    · rintro ⟨h, -⟩
      cases h
  | error f' =>
    constructor
    · intro h
      cases h
      exact ⟨rfl, rfl⟩
    · rintro ⟨h, rfl⟩
      cases h
      rfl

theorem reportRaises_iff {k : Int32} {u : SpoolUpdate} {o : Option Spool} :
    updater.ReportRaises k u o ↔ o = none ∧ u.number.isSet = true ∧ u.RemovesMaterial := by
  cases o with
  | some s =>
    rw [FaultingUpdater.reportRaises_some_iff]
    exact ⟨nofun, nofun⟩
  | none =>
    rw [FaultingUpdater.reportRaises_none_iff, and_iff_right rfl, ← tryCreate_eq_error_iff]
    exact Iff.rfl

theorem mergeRaises_iff {k : Int32} {u : SpoolUpdate} {o : Option Spool} :
    updater.MergeRaises k u o ↔ u.RemovesMaterial ∧ (o = none → u.number.isSet = true) := by
  cases o with
  | some s =>
    simp only [FaultingUpdater.mergeRaises_some_iff, run_updater_appendUpdate_eq_error_iff,
      exists_and_left, exists_eq, and_true, reduceCtorEq, false_imp_iff]
    exact appendUpdate_eq_error_iff
  | none =>
    simp only [FaultingUpdater.mergeRaises_none_iff, true_imp_iff]
    rw [and_comm, ← tryCreate_eq_error_iff]
    exact Iff.rfl

/-- A tray is a struct: an exception leaves the stored one as it was. -/
theorem eq_of_merge_error {k : Int32} {u : SpoolUpdate} {o o' : Option Spool} {f : Fault}
    (h : (updater.merge k u).run o = .error f o') : o' = o := by
  cases o with
  | none => exact (FaultingUpdater.run_merge_none_eq_error_iff.mp h).2
  | some s =>
    obtain ⟨s', hs, rfl⟩ := FaultingUpdater.run_merge_some_eq_error_iff.mp h
    rw [(run_updater_appendUpdate_eq_error_iff.mp hs).2]

end SpoolUpdate

/-! ### Units -/

namespace MUnitUpdate

/-- The update would create a tray although it removes the tray's material. -/
def RaisesInChanges (u : MUnitUpdate) (trays : Dictionary Int32 Spool) : Prop :=
  ∃ k su, u.trays.lookup k = some su ∧ trays.tryGetValue k = none ∧ su.number.isSet = true ∧
    su.RemovesMaterial

/-- The update removes the material of a tray that exists. -/
def RaisesInTrays (u : MUnitUpdate) (trays : Dictionary Int32 Spool) : Prop :=
  ∃ k su s, u.trays.lookup k = some su ∧ trays.tryGetValue k = some s ∧ su.RemovesMaterial

/-- The properties that a unit's update writes before the trays are set to what is there. -/
def AgreesHead (u : MUnitUpdate) (m : MUnit) : Prop :=
  u.id.Agrees m.id ∧ u.capacity.Agrees m.capacity ∧ u.model.Agrees m.model ∧
  u.capabilities.Agrees m.capabilities ∧ u.heatingConstraints.Agrees m.heatingConstraints

/-- What a unit's update writes before it raises at a tray is what is there already. -/
def StillUntilTray (u : MUnitUpdate) (m : MUnit) : Prop :=
  u.AgreesHead m ∧
    u.trays.StillUntilRaise SpoolUpdate.updater SpoolUpdate.total (fun _ _ _ => True) m.trays

variable {ops : HeatingScheduleOps} {u : MUnitUpdate} {m : MUnit}

theorem trays_reportRaises_iff {trays : Dictionary Int32 Spool} :
    u.trays.ReportRaises SpoolUpdate.updater trays ↔ u.RaisesInChanges trays := by
  simp only [DictionaryBuffer.ReportRaises, SpoolUpdate.reportRaises_iff, RaisesInChanges]

/-- Merging the trays raises where the report does, or at a tray that exists. -/
theorem trays_mergeRaises_iff {trays : Dictionary Int32 Spool} :
    u.trays.MergeRaises SpoolUpdate.updater trays ↔
      u.RaisesInChanges trays ∨ u.RaisesInTrays trays := by
  simp only [DictionaryBuffer.MergeRaises, SpoolUpdate.mergeRaises_iff]
  constructor
  · rintro ⟨k, su, hsu, hremoves, hnumber⟩
    cases hs : trays.tryGetValue k with
    | none => exact .inl ⟨k, su, hsu, hs, hnumber hs, hremoves⟩
    | some s => exact .inr ⟨k, su, s, hsu, hs, hremoves⟩
  · rintro (⟨k, su, hsu, -, hnumber, hremoves⟩ | ⟨k, su, s, hsu, hs, hremoves⟩)
    · exact ⟨k, su, hsu, hremoves, fun _ => hnumber⟩
    · exact ⟨k, su, hsu, hremoves, fun hn => by rw [hs] at hn; cases hn⟩

theorem not_raisesInTrays_empty : ¬ u.RaisesInTrays ∅ := by
  rintro ⟨k, su, s, -, hs, -⟩
  cases hs

theorem changes_eq_error_iff : (∃ f, u.changes ops m = .error f) ↔ u.RaisesInChanges m.trays := by
  rw [← trays_reportRaises_iff, ← DictionaryBuffer.exists_tryChanges_error_iff, changes]
  cases u.trays.tryChanges SpoolUpdate.updater m.trays with
  | error f => exact ⟨fun _ => ⟨f, rfl⟩, fun _ => ⟨f, rfl⟩⟩
  | ok c => exact ⟨nofun, nofun⟩

theorem run_appendUpdate_eq_error_iff :
    (∃ f m', (u.appendUpdate ops).run m = .error f m') ↔
      u.RaisesInChanges m.trays ∨ u.RaisesInTrays m.trays := by
  obtain ⟨f, hc, hr⟩ | ⟨c, f, trays, -, ht, hr⟩ | ⟨c, trays, hc, ht, hr⟩ :=
    run_appendUpdate_cases ops u m
  · exact ⟨fun _ => .inl (changes_eq_error_iff.mp ⟨f, hc⟩), fun _ => ⟨f, m, hr⟩⟩
  · refine ⟨fun _ => ?_, fun _ => ⟨f, _, hr⟩⟩
    exact trays_mergeRaises_iff.mp (DictionaryBuffer.exists_appendUpdate_error_iff.mp ⟨f, _, ht⟩)
  · constructor
    · rintro ⟨f, m', h⟩
      rw [hr] at h
      cases h
    · intro h
      obtain ⟨f, trays', h⟩ :=
        DictionaryBuffer.exists_appendUpdate_error_iff.mpr (trays_mergeRaises_iff.mpr h)
      rw [ht] at h
      cases h

theorem tryCreate_eq_error_iff :
    (∃ f, u.tryCreate ops = .error f) ↔ u.isCreatable = true ∧ u.RaisesInChanges ∅ := by
  have hrun : (∃ f m', (u.appendUpdate ops).run u.initializer = .error f m') ↔
      u.RaisesInChanges ∅ :=
    run_appendUpdate_eq_error_iff.trans (or_iff_left not_raisesInTrays_empty)
  rw [← hrun, tryCreate]
  split
  · rename_i hc
    rw [and_iff_right hc]
    cases (u.appendUpdate ops).run u.initializer with
    | ok c m' => simp
    | error f m' => simp
  · rename_i hc
    simp [hc]

/-- Where `Changes` and the merge both raise for an entry: it would create a tray without its
material. -/
def RaisesInEntry (id : String) (u : MUnitUpdate) : Option MUnit → Prop
  | some m => u.RaisesInChanges m.trays
  | none => (u.assertKey id).isCreatable = true ∧ u.RaisesInChanges ∅

theorem reportRaises_iff {id : String} {o : Option MUnit} :
    (updater ops).ReportRaises id u o ↔ u.RaisesInEntry id o := by
  cases o with
  | some m =>
    have hchanges : (∃ f, (u.assertKey id).changes ops m = .error f) ↔
        u.RaisesInEntry id (some m) := changes_eq_error_iff
    rw [FaultingUpdater.reportRaises_some_iff]
    refine Iff.trans ?_ hchanges
    change (∃ f, (fun c : MUnitChanges => if c.hasChanged then some c else none) <$>
      (u.assertKey id).changes ops m = Except.error f) ↔ _
    cases (u.assertKey id).changes ops m with
    | error f => exact ⟨fun _ => ⟨f, rfl⟩, fun _ => ⟨f, rfl⟩⟩
    | ok c => exact ⟨nofun, nofun⟩
  | none =>
    rw [FaultingUpdater.reportRaises_none_iff]
    exact tryCreate_eq_error_iff

theorem run_updater_appendUpdate_eq_error_iff {f : Fault} {m' : MUnit} :
    ((updater ops).appendUpdate u).run m = .error f m' ↔
      (u.appendUpdate ops).run m = .error f m' := run_discard_eq_error_iff

theorem mergeRaises_iff {id : String} {o : Option MUnit} :
    (updater ops).MergeRaises id u o ↔
      u.RaisesInEntry id o ∨ ∃ m, o = some m ∧ u.RaisesInTrays m.trays := by
  cases o with
  | some m =>
    simp only [FaultingUpdater.mergeRaises_some_iff, run_updater_appendUpdate_eq_error_iff,
      run_appendUpdate_eq_error_iff, Option.some.injEq, exists_eq_left']
    exact Iff.rfl
  | none =>
    simp only [FaultingUpdater.mergeRaises_none_iff, reduceCtorEq, false_and, exists_false,
      or_false]
    exact tryCreate_eq_error_iff

theorem applyHead_eq_self_iff {trays : Dictionary Int32 Spool} :
    ({ u.applyHead m with trays } : MUnit) = m ↔ u.AgreesHead m ∧ trays = m.trays := by
  obtain ⟨⟩ := m
  simp only [applyHead, AgreesHead, MUnit.mk.injEq, ScalarBuffer.apply_eq_self_iff, and_true,
    and_assoc]

/-- A merge that raises behind the entry raises at a tray of an existing unit. -/
theorem trays_of_merge_error {id : String} {o : Option MUnit} {f : Fault} {o' : Option MUnit}
    (hentry : ¬ u.RaisesInEntry id o) (h : ((updater ops).merge id u).run o = .error f o') :
    ∃ m trays, o = some m ∧
      (u.trays.appendUpdate SpoolUpdate.updater).run m.trays = .error f trays ∧
      o' = some { (u.assertKey id).applyHead m with trays } := by
  cases o with
  | none =>
    have hraises : (updater ops).MergeRaises id u none := ⟨f, o', h⟩
    obtain hentry' | ⟨m, hm, -⟩ := mergeRaises_iff.mp hraises
    · exact absurd hentry' hentry
    · cases hm
  | some m =>
    obtain ⟨m', hm', rfl⟩ := FaultingUpdater.run_merge_some_eq_error_iff.mp h
    rw [run_updater_appendUpdate_eq_error_iff] at hm'
    change ((u.assertKey id).appendUpdate ops).run m = _ at hm'
    obtain ⟨f', hc, hr⟩ | ⟨c, f', trays, -, ht, hr⟩ | ⟨c, trays, -, ht, hr⟩ :=
      run_appendUpdate_cases ops (u.assertKey id) m
    · exact absurd (changes_eq_error_iff.mp ⟨f', hc⟩) hentry
    · rw [hr] at hm'
      cases hm'
      exact ⟨m, trays, rfl, ht, rfl⟩
    · rw [hr] at hm'
      cases hm'

/-- What a merge that raised has made of an existing unit. -/
theorem merge_error_eq_iff {id : String} {o : Option MUnit} {f : Fault} {o' : Option MUnit}
    (hentry : ¬ u.RaisesInEntry id o) (h : ((updater ops).merge id u).run o = .error f o') :
    o' = o ↔ ∀ m, o = some m → (u.assertKey id).StillUntilTray m := by
  obtain ⟨m, trays, rfl, ht, rfl⟩ := trays_of_merge_error hentry h
  simp only [Option.some.injEq, forall_eq']
  have htrays := DictionaryBuffer.appendUpdate_error_eq_iff SpoolUpdate.refines
    (fun k su f o' _ herr => by
      rw [SpoolUpdate.eq_of_merge_error herr]
      exact (iff_true_left rfl).mpr fun _ _ => trivial) ht
  rw [applyHead_eq_self_iff, htrays]
  exact Iff.rfl

end MUnitUpdate

/-! ### The state of a machine -/

namespace MachineStateUpdate

/-- A unit of the update would create a tray without its material. -/
def RaisesInChanges (u : MachineStateUpdate) (s : MachineState) : Prop :=
  ∃ id mu, u.materialUnits.lookup id = some mu ∧
    mu.RaisesInEntry id (s.materialUnits.tryGetValue id)

/-- The job is removed, or built with usages, for which a new job has no dictionary. -/
def RaisesInJob (u : MachineStateUpdate) : Prop :=
  (u.currentJob.isSet = true ∧ u.currentJob.value = none) ∨
    ∃ ju, u.currentJob.value = some ju ∧ ju.Faults

/-- A unit of the update removes the material of a tray that exists. -/
def RaisesInUnits (u : MachineStateUpdate) (s : MachineState) : Prop :=
  ∃ id mu m, u.materialUnits.lookup id = some mu ∧ s.materialUnits.tryGetValue id = some m ∧
    mu.RaisesInTrays m.trays

/-- The properties before `CurrentJob` are set to what is there. -/
def AgreesIdentity (u : MachineStateUpdate) (s : MachineState) : Prop :=
  u.brand.Agrees s.brand ∧ u.model.Agrees s.model ∧ u.nickname.Agrees s.nickname ∧
  u.capabilities.Agrees s.capabilities ∧ u.status.Agrees s.status

/-- The job that is built, if one is, is the job there is. -/
def KeepsJob (u : MachineStateUpdate) (s : MachineState) : Prop :=
  ∀ ju, u.currentJob.value = some ju → ju.isCreatable = true →
    s.currentJob = some (ju.applyScalars default)

/-- The buffers between `CurrentJob` and `MaterialUnits` add nothing that is not there and remove
nothing that is. -/
def KeepsStores (ops : ScheduleOps) (u : MachineStateUpdate) (s : MachineState) : Prop :=
  u.jobHistory.apply (.values HistoricPrintJob) s.jobHistory = s.jobHistory ∧
  u.localJobs.apply (.values LocalPrintJob) s.localJobs = s.localJobs ∧
  u.scheduledPrints.apply ops.scheduledPrints s.scheduledPrints = s.scheduledPrints ∧
  u.extruders.apply MachineExtruderUpdate.updater s.extruders = s.extruders ∧
  u.nozzles.apply MachineNozzleUpdate.updater s.nozzles = s.nozzles

/-- What is written before the first tray that raises is what is there already. -/
def StillUntilUnits (ops : ScheduleOps) (u : MachineStateUpdate) (s : MachineState) : Prop :=
  u.AgreesIdentity s ∧ u.KeepsJob s ∧ u.KeepsStores ops s ∧
    u.materialUnits.StillUntilRaise (MUnitUpdate.updater ops.heatingSchedules)
      (MUnitUpdate.total ops.heatingSchedules)
      (fun id mu m => (mu.assertKey id).StillUntilTray m) s.materialUnits

/-- Everything that is written is what is there already. -/
def Inert (ops : ScheduleOps) (u : MachineStateUpdate) (s : MachineState) : Prop :=
  u.AgreesIdentity s ∧ u.KeepsJob s ∧ u.KeepsStores ops s ∧
  u.materialUnits.apply (MUnitUpdate.total ops.heatingSchedules) s.materialUnits =
    s.materialUnits ∧
  u.airDuctMode.Agrees s.airDuctMode ∧
  u.fans.apply (.value String Int32) s.fans = s.fans ∧
  u.lights.apply (.value String Bool) s.lights = s.lights ∧
  u.heatingElements.apply (.value String HeatingElement) s.heatingElements = s.heatingElements ∧
  u.isLocalStorageScanning.Agrees s.isLocalStorageScanning ∧
  u.streamingURLs.Agrees s.streamingURLs ∧ u.speedRange.Agrees s.speedRange ∧
  u.speedPresets.apply (.value String Int32) s.speedPresets = s.speedPresets ∧
  u.notifications.apply NotificationUpdate.updater s.notifications = s.notifications

variable {ops : ScheduleOps} {u : MachineStateUpdate} {s s' : MachineState}

theorem changes_eq_error_iff : (∃ f, u.changes ops s = .error f) ↔ u.RaisesInChanges s := by
  have hunits : (∃ f, u.materialUnits.tryChanges (MUnitUpdate.updater ops.heatingSchedules)
      s.materialUnits = .error f) ↔ u.RaisesInChanges s := by
    rw [DictionaryBuffer.exists_tryChanges_error_iff]
    simp only [DictionaryBuffer.ReportRaises, MUnitUpdate.reportRaises_iff]
    exact Iff.rfl
  rw [← hunits, changes]
  cases u.materialUnits.tryChanges (MUnitUpdate.updater ops.heatingSchedules) s.materialUnits with
  | error f => exact ⟨fun _ => ⟨f, rfl⟩, fun _ => ⟨f, rfl⟩⟩
  | ok c =>
    constructor
    · rintro ⟨f, h⟩
      cases h
    · rintro ⟨f, h⟩
      cases h

theorem rebuild_eq_error_iff :
    (∃ f, u.currentJob.rebuild .nullReference PrintJobUpdate.tryCreate = .error f) ↔
      u.RaisesInJob := by
  unfold RaisesInJob
  cases hv : u.currentJob.value with
  | some ju =>
    rw [NestedBuffer.rebuild_of_value hv]
    simp only [reduceCtorEq, and_false, false_or, Option.some.injEq, exists_eq_left']
    by_cases hf : ju.Faults
    · exact ⟨fun _ => hf, fun _ => ⟨_, PrintJobUpdate.tryCreate_of_faults hf⟩⟩
    · rw [PrintJobUpdate.tryCreate_of_not_faults hf]
      exact ⟨nofun, fun h => absurd h hf⟩
  | none =>
    cases hs : u.currentJob.isSet with
    | true => simp [NestedBuffer.rebuild_of_removed hs hv]
    | false => simp [NestedBuffer.rebuild_of_not_isSet hs]

theorem units_appendUpdate_eq_error_iff (h : ¬ u.RaisesInChanges s) :
    (∃ f units, (u.materialUnits.appendUpdate (MUnitUpdate.updater ops.heatingSchedules)).run
      s.materialUnits = .error f units) ↔ u.RaisesInUnits s := by
  rw [DictionaryBuffer.exists_appendUpdate_error_iff]
  simp only [DictionaryBuffer.MergeRaises, MUnitUpdate.mergeRaises_iff]
  constructor
  · rintro ⟨id, mu, hmu, hentry | ⟨m, hm, htrays⟩⟩
    · exact absurd ⟨id, mu, hmu, hentry⟩ h
    · exact ⟨id, mu, m, hmu, hm, htrays⟩
  · rintro ⟨id, mu, m, hmu, hm, htrays⟩
    exact ⟨id, mu, hmu, .inr ⟨m, hm, htrays⟩⟩

theorem applyIdentity_eq_self_iff : u.applyIdentity s = s ↔ u.AgreesIdentity s := by
  obtain ⟨⟩ := s
  simp only [applyIdentity, AgreesIdentity, MachineState.mk.injEq, ScalarBuffer.apply_eq_self_iff,
    and_true]

theorem createdJob_or_eq_self_iff :
    u.createdJob.or s.currentJob = s.currentJob ↔ u.KeepsJob s := by
  rw [createdJob, NestedBuffer.created, KeepsJob]
  cases u.currentJob.value with
  | none => simp
  | some ju =>
    simp only [Option.bind_some, Option.some.injEq, forall_eq', PrintJobUpdate.created]
    split
    · rename_i hc
      simp [hc, eq_comm]
    · rename_i hc
      simp [hc]

theorem applyUntilUnits_eq_self_iff {units : Dictionary String MUnit} :
    (u.applyUntilUnits ops s).setMaterialUnits units = s ↔ u.AgreesIdentity s ∧ u.KeepsJob s ∧
      u.KeepsStores ops s ∧ units = s.materialUnits := by
  rw [← createdJob_or_eq_self_iff]
  obtain ⟨⟩ := s
  simp only [applyUntilUnits, applyStores, applyIdentity, MachineState.setCurrentJob,
    MachineState.setMaterialUnits, AgreesIdentity, KeepsStores, MachineState.mk.injEq,
    ScalarBuffer.apply_eq_self_iff, and_true, and_assoc]

theorem apply_eq_self_iff : u.apply ops s = s ↔ u.Inert ops s := by
  rw [Inert, ← createdJob_or_eq_self_iff]
  obtain ⟨⟩ := s
  simp only [apply, AgreesIdentity, KeepsStores, MachineState.mk.injEq,
    ScalarBuffer.apply_eq_self_iff, and_assoc]

/-- Where an application raises, if it does, and what it has written by then. -/
theorem run_appendUpdate_raise_cases (ops : ScheduleOps) (u : MachineStateUpdate)
    (s : MachineState) :
    (u.RaisesInChanges s ∧ ∃ f, (u.appendUpdate ops).run s = .error f s) ∨
    (¬ u.RaisesInChanges s ∧ u.RaisesInJob ∧
      ∃ f, (u.appendUpdate ops).run s = .error f (u.applyIdentity s)) ∨
    (¬ u.RaisesInChanges s ∧ ¬ u.RaisesInJob ∧ u.RaisesInUnits s ∧
      ∃ f units, (u.materialUnits.appendUpdate (MUnitUpdate.updater ops.heatingSchedules)).run
          s.materialUnits = .error f units ∧
        (u.appendUpdate ops).run s =
          .error f ((u.applyUntilUnits ops s).setMaterialUnits units)) ∨
    (¬ u.RaisesInChanges s ∧ ¬ u.RaisesInJob ∧ ¬ u.RaisesInUnits s ∧
      (u.appendUpdate ops).run s = .ok (u.changed ops s) (u.apply ops s)) := by
  have hreturns : ∀ {o}, u.currentJob.rebuild .nullReference PrintJobUpdate.tryCreate = .ok o →
      ¬ u.RaisesInJob := fun hj h => by
    obtain ⟨f, hf⟩ := rebuild_eq_error_iff.mpr h
    rw [hj] at hf
    cases hf
  have hreports : ∀ {c}, u.changes ops s = .ok c → ¬ u.RaisesInChanges s := fun hc h => by
    obtain ⟨f, hf⟩ := changes_eq_error_iff.mpr h
    rw [hc] at hf
    cases hf
  obtain ⟨f, hc, hr⟩ | ⟨c, f, hc, hj, hr⟩ | ⟨c, o, f, units, hc, hj, hm, hr⟩ |
    ⟨o, units, hc, hj, hm, hr⟩ := run_appendUpdate_cases ops u s
  · exact .inl ⟨changes_eq_error_iff.mp ⟨f, hc⟩, f, hr⟩
  · exact .inr (.inl ⟨hreports hc, rebuild_eq_error_iff.mp ⟨f, hj⟩, f, hr⟩)
  · exact .inr (.inr (.inl ⟨hreports hc, hreturns hj,
      (units_appendUpdate_eq_error_iff (hreports hc)).mp ⟨f, units, hm⟩, f, units, hm, hr⟩))
  · refine .inr (.inr (.inr ⟨hreports hc, hreturns hj, fun h => ?_, hr⟩))
    obtain ⟨f, units', hf⟩ := (units_appendUpdate_eq_error_iff (hreports hc)).mpr h
    rw [hm] at hf
    cases hf

/-- **What an application raises, and what it has changed by then.** -/
theorem run_appendUpdate_raises (ops : ScheduleOps) (u : MachineStateUpdate) (s : MachineState) :
    (u.RaisesInChanges s ∧ ∃ f, (u.appendUpdate ops).run s = .error f s) ∨
    (¬ u.RaisesInChanges s ∧ u.RaisesInJob ∧
      ∃ f, (u.appendUpdate ops).run s = .error f (u.applyIdentity s)) ∨
    (¬ u.RaisesInChanges s ∧ ¬ u.RaisesInJob ∧ u.RaisesInUnits s ∧
      ∃ f units, (u.appendUpdate ops).run s =
          .error f ((u.applyUntilUnits ops s).setMaterialUnits units) ∧
        ((u.applyUntilUnits ops s).setMaterialUnits units = s ↔ u.StillUntilUnits ops s)) ∨
    (¬ u.RaisesInChanges s ∧ ¬ u.RaisesInJob ∧ ¬ u.RaisesInUnits s ∧
      (u.appendUpdate ops).run s = .ok (u.changed ops s) (u.apply ops s)) := by
  obtain hchanges | hjob | ⟨hch, hj, hraises, f, units, hm, hr⟩ | hreturns :=
    run_appendUpdate_raise_cases ops u s
  · exact .inl hchanges
  · exact .inr (.inl hjob)
  · refine .inr (.inr (.inl ⟨hch, hj, hraises, f, units, hr, ?_⟩))
    have hunits := DictionaryBuffer.appendUpdate_error_eq_iff MUnitUpdate.refines
      (fun id mu f o' hmu herr => MUnitUpdate.merge_error_eq_iff
        (fun hentry => hch ⟨id, mu, hmu, hentry⟩) herr) hm
    rw [applyUntilUnits_eq_self_iff, hunits]
    exact Iff.rfl
  · exact .inr (.inr (.inr hreturns))

end MachineStateUpdate

end Connect3Dp
