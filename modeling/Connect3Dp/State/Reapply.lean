import Connect3Dp.Builder.Reapply
import Connect3Dp.State.Raises

/-!
# Applying a state update again

Repeated telemetry makes the same update again. Once an update has been applied it should change
nothing more, and report nothing, so that nothing is broadcast.

`MachineStateUpdate.Settles` is the condition under which this is so (`reapply_iff`). An update
unsettles a state if it removes what it also sets, because the merge of a dictionary or a set puts
in before it takes out and the report sees each time an entry to create; or if it asks for something
that the merge cannot write, a job or a material from an update that does not carry all of it.
-/

namespace Connect3Dp

/-! ### Extruders, nozzles and notifications -/

theorem MachineExtruderUpdate.mergesOnce : updater.MergesOnce := by
  refine Updater.mergesOnce_of_created (fun u v => by simp [updater, apply]) (fun u v h => ?_)
    fun u v h => if_neg (by simpa using hasChanged_eq_false_iff.mpr h)
  simp only [updater, tryCreate] at h
  split at h
  · exact ⟨_, Option.some.inj h⟩
  · cases h

theorem MachineNozzleUpdate.mergesOnce : updater.MergesOnce := by
  refine Updater.mergesOnce_of_created (fun u v => by simp [updater, apply]) (fun u v h => ?_)
    fun u v h => if_neg (by simpa using hasChanged_eq_false_iff.mpr h)
  simp only [updater, tryCreate] at h
  split at h
  · exact ⟨_, Option.some.inj h⟩
  · cases h

theorem NotificationUpdate.mergesOnce : updater.MergesOnce := by
  refine Updater.mergesOnce_of_created (fun u v => by simp [updater, apply]) (fun u v h => ?_)
    fun u v h => if_neg (by simpa using hasChanged_eq_false_iff.mpr h)
  simp only [updater, tryCreate] at h
  split at h
  · exact ⟨_, Option.some.inj h⟩
  · cases h

/-! ### Jobs -/

namespace PrintJobUpdate

/-- An update that cannot create a job asks for nothing that the existing job does not have. -/
def Settles (u : PrintJobUpdate) (o : Option PrintJob) : Prop :=
  u.isCreatable = false → ∀ j, o = some j →
    u.Agrees j ∧ u.spoolMaterialUsages.Agrees (j.spoolMaterialUsages.getD ∅)

variable {u : PrintJobUpdate} {o : Option PrintJob}

theorem applyScalars_applyScalars (u : PrintJobUpdate) (j : PrintJob) :
    u.applyScalars (u.applyScalars j) = u.applyScalars j := by
  simp [applyScalars]

/-- A job that was just created agrees, and has no usages to compare with. -/
theorem hasChanged_created (h : ¬ u.Faults) (hc : u.isCreatable = true) :
    (u.changes (u.applyScalars default)).hasChanged = false := by
  have hentries : u.spoolMaterialUsages.entries = [] := by
    by_contra hne
    exact h ⟨hc, hne⟩
  refine hasChanged_eq_false_iff.mpr
    ⟨applyScalars_eq_self_iff.mp (u.applyScalars_applyScalars default), ?_⟩
  refine DictionaryBuffer.hasChanged_value_eq_false_iff.mpr ⟨fun k v hv => ?_, fun k _ => rfl⟩
  rw [DictionaryBuffer.lookup, hentries] at hv
  cases hv

theorem hasChanged_reapply_iff (h : ¬ u.Faults) :
    (u.changesOf (u.created.or o)).hasChanged = false ↔ u.Settles o := by
  rw [created, Settles]
  cases hc : u.isCreatable with
  | true => simp [changesOf, hasChanged_created h hc]
  | false =>
    cases o with
    | none => simp [changesOf]; rfl
    | some j =>
      simp only [Bool.false_eq_true, if_false, Option.none_or, changesOf, true_imp_iff,
        Option.some.injEq, forall_eq']
      rw [hasChanged_eq_false_iff, ← DictionaryBuffer.hasChanged_value_eq_false_iff]
      exact Iff.rfl

end PrintJobUpdate

/-! ### Trays -/

theorem MaterialUpdate.agrees_of_tryCreate {u : MaterialUpdate} {m : Material}
    (h : u.tryCreate = some m) : u.Agrees m := by
  rw [tryCreate] at h
  split at h
  · cases h
    exact ⟨u.name.agrees_apply _, u.color.agrees_apply _, u.fProfileIDX.agrees_apply _⟩
  · cases h

namespace SpoolUpdate

/-- An update of the material that cannot create one asks for nothing that the tray's does not
have. -/
def Settles (u : SpoolUpdate) (s : Spool) : Prop :=
  ∀ mat, u.material.value = some mat → mat.isCreatable = false → mat.Agrees s.material

variable {u : SpoolUpdate} {s : Spool}

theorem apply_apply (u : SpoolUpdate) (s : Spool) : u.apply (u.apply s) = u.apply s := by
  cases h : u.material.created MaterialUpdate.tryCreate <;> simp [apply, h]

theorem hasChanged_apply_iff : (u.changes (u.apply s)).hasChanged = false ↔ u.Settles s := by
  have hscalars : u.number.Agrees (u.apply s).number ∧
      u.gramsMaximum.Agrees (u.apply s).gramsMaximum ∧
        u.gramsRemaining.Agrees (u.apply s).gramsRemaining :=
    ⟨u.number.agrees_apply _, u.gramsMaximum.agrees_apply _, u.gramsRemaining.agrees_apply _⟩
  rw [hasChanged_eq_false_iff, and_iff_right hscalars.1, and_iff_left hscalars.2]
  refine forall₂_congr fun mat hmat => ?_
  have hmaterial : (u.apply s).material = mat.tryCreate.getD s.material := by
    rw [apply, NestedBuffer.created, hmat]
    rfl
  rw [hmaterial]
  cases hcreate : mat.tryCreate with
  | some m =>
    have hc : mat.isCreatable = true := by
      by_contra hc
      rw [MaterialUpdate.tryCreate, if_neg hc] at hcreate
      cases hcreate
    have hnot : ¬ mat.isCreatable = false := by simp [hc]
    exact ⟨fun _ hn => absurd hn hnot, fun _ => MaterialUpdate.agrees_of_tryCreate hcreate⟩
  | none =>
    have hc : mat.isCreatable = false := by
      by_contra hc
      rw [MaterialUpdate.tryCreate, if_pos (by simpa using hc)] at hcreate
      cases hcreate
    exact ⟨fun h _ => h, fun h => h hc⟩

/-- A tray that was created has been applied to one whose material was created. -/
theorem exists_of_created (h : u.created = some s) : ∃ s₀, u.Settles s₀ ∧ s = u.apply s₀ := by
  rw [created] at h
  split at h
  · obtain ⟨material, hmaterial, rfl⟩ := Option.map_eq_some_iff.mp h
    refine ⟨_, fun mat hmat hc => ?_, rfl⟩
    rw [NestedBuffer.created, hmat, Option.bind_some, MaterialUpdate.tryCreate, hc] at hmaterial
    cases hmaterial
  · cases h

/-- Every tray that an entry leaves is one that it was applied to. -/
theorem exists_of_merge {k : Int32} {o : Option Spool} (h : total.merge k u o = some s) :
    ∃ s₀, s = u.apply s₀ ∧ (u.Settles s₀ ↔ ∀ old, o = some old → u.Settles old) := by
  cases o with
  | some old =>
    cases h
    exact ⟨old, rfl, by simp⟩
  | none =>
    have hcreated : u.created = some s := h
    obtain ⟨s₀, hs₀, rfl⟩ := exists_of_created hcreated
    exact ⟨s₀, rfl, by simp [hs₀]⟩

end SpoolUpdate

/-! ### Units -/

namespace MUnitUpdate

/-- No tray that the update removes could be created by it again, and the other trays settle. -/
def TraysSettle (u : MUnitUpdate) (trays : Dictionary Int32 Spool) : Prop :=
  u.trays.CreatesNoRemoved SpoolUpdate.total ∧
    ∀ k su, u.trays.lookup k = some su → k ∉ u.trays.removals →
      ∀ tray, trays.tryGetValue k = some tray → su.Settles tray

/-- The trays settle, and so do the heating schedules. -/
structure Settles {α : Type} [DecidableEq α] [Hashable α] (value : HeatingScheduleRef → α)
    (u : MUnitUpdate) (m : MUnit) : Prop where
  trays : u.TraysSettle m.trays
  apart : u.heatingSchedule.Apart (.records value) value
  removesAll : u.heatingSchedule.RemovesAll value m.heatingSchedule

/-- The unit that an entry is applied to: the one of its key, or a new one. -/
def target (u : MUnitUpdate) (o : Option MUnit) : Option MUnit :=
  o.or (if u.isCreatable then some u.initializer else none)

theorem merge_eq_map_target (ops : HeatingScheduleOps) (id : String) (u : MUnitUpdate)
    (o : Option MUnit) :
    (total ops).merge id u o = ((u.assertKey id).target o).map ((u.assertKey id).apply ops) := by
  cases o with
  | some m => rfl
  | none =>
    have hcreated : (total ops).merge id u none = (u.assertKey id).created ops := rfl
    rw [hcreated, created, target, Option.none_or]
    split <;> rfl

theorem trays_hasChanged_apply_iff {u : MUnitUpdate} {trays : Dictionary Int32 Spool} :
    (u.trays.changes SpoolUpdate.total (u.trays.apply SpoolUpdate.total trays)).hasChanged =
      false ↔ u.TraysSettle trays := by
  rw [DictionaryBuffer.hasChanged_apply_iff, TraysSettle]
  refine and_congr_right fun _ => forall₄_congr fun k su _ _ => ?_
  have hdiff : ∀ s, SpoolUpdate.total.diff (SpoolUpdate.total.assertKey k su) s = none ↔
      (su.changes s).hasChanged = false := by
    intro s
    simp [SpoolUpdate.total]
  constructor
  · intro h tray htray
    have hmerge : SpoolUpdate.total.merge k su (trays.tryGetValue k) = some (su.apply tray) := by
      rw [htray]
      rfl
    exact SpoolUpdate.hasChanged_apply_iff.mp ((hdiff _).mp (h _ hmerge))
  · intro h s hs
    obtain ⟨s₀, rfl, hs₀⟩ := SpoolUpdate.exists_of_merge hs
    exact (hdiff _).mpr (SpoolUpdate.hasChanged_apply_iff.mpr (hs₀.mpr h))

theorem trays_apply_apply {u : MUnitUpdate} {trays : Dictionary Int32 Spool}
    (h : u.TraysSettle trays) :
    u.trays.apply SpoolUpdate.total (u.trays.apply SpoolUpdate.total trays) =
      u.trays.apply SpoolUpdate.total trays := by
  refine DictionaryBuffer.apply_apply (trays_hasChanged_apply_iff.mpr h) fun k su o s _ hs _ => ?_
  obtain ⟨s₀, rfl, -⟩ := SpoolUpdate.exists_of_merge hs
  exact su.apply_apply s₀

variable {α : Type} [DecidableEq α] [Hashable α] {value : HeatingScheduleRef → α}
  {u : MUnitUpdate} {m : MUnit}

/-- **A unit that an update was applied to** has nothing more to report just when the update
settles. -/
theorem hasChanged_apply_iff :
    (u.changed (.records value) (u.apply (.records value) m)).hasChanged = false ↔
      u.Settles value m := by
  have hagrees : u.Agrees (u.apply (.records value) m) :=
    ⟨u.id.agrees_apply _, u.capacity.agrees_apply _, u.model.agrees_apply _,
      u.capabilities.agrees_apply _, u.heatingConstraints.agrees_apply _,
      u.humidityPercent.agrees_apply _, u.temperatureC.agrees_apply _, u.heatingJob.agrees_apply _⟩
  have htrays : (u.apply (.records value) m).trays =
      u.trays.apply SpoolUpdate.total m.trays := rfl
  have hschedule : (u.apply (.records value) m).heatingSchedule =
      u.heatingSchedule.apply (.records value) m.heatingSchedule := rfl
  rw [hasChanged_eq_false_iff, and_iff_right hagrees, htrays, hschedule,
    trays_hasChanged_apply_iff, SetBuffer.hasChanged_apply_records_iff]
  exact ⟨fun ⟨h₁, h₂, h₃⟩ => ⟨h₁, h₂, h₃⟩, fun h => ⟨h.trays, h.apart, h.removesAll⟩⟩

theorem apply_apply (h : u.Settles value m) :
    u.apply (.records value) (u.apply (.records value) m) = u.apply (.records value) m := by
  have hschedule := SetBuffer.apply_eq_self (HashSetOps.lawful_records value)
    (SetBuffer.hasChanged_apply_records_iff.mpr ⟨h.apart, h.removesAll⟩)
  simp only [apply, ScalarBuffer.apply_apply, trays_apply_apply h.trays, hschedule]

/-- The trays that an update leaves raise nothing that those before did not raise. -/
theorem not_raises_apply (ops : HeatingScheduleOps) (hchanges : ¬ u.RaisesInChanges m.trays)
    (htrays : ¬ u.RaisesInTrays m.trays) :
    ¬ u.RaisesInChanges (u.apply ops m).trays ∧ ¬ u.RaisesInTrays (u.apply ops m).trays := by
  have hremoves : ∀ k su, u.trays.lookup k = some su → su.number.isSet = true →
      ¬ su.RemovesMaterial := by
    intro k su hsu hnumber hremoves
    cases hs : m.trays.tryGetValue k with
    | none => exact hchanges ⟨k, su, hsu, hs, hnumber, hremoves⟩
    | some s => exact htrays ⟨k, su, s, hsu, hs, hremoves⟩
  refine ⟨fun ⟨k, su, hsu, _, hnumber, h⟩ => hremoves k su hsu hnumber h, ?_⟩
  rintro ⟨k, su, s, hsu, hs, h⟩
  have happly : (u.trays.apply SpoolUpdate.total m.trays).tryGetValue k = some s := hs
  rw [DictionaryBuffer.tryGetValue_apply, hsu] at happly
  split at happly
  · cases happly
  · cases hm : m.trays.tryGetValue k with
    | some old => exact htrays ⟨k, su, old, hsu, hm, h⟩
    | none =>
      -- a tray is created with its number
      rw [hm] at happly
      have hcreated : su.created = some s := happly
      have hnumber : su.number.isSet = true := by
        by_contra hn
        rw [SpoolUpdate.created, if_neg hn] at hcreated
        cases hcreated
      exact hremoves k su hsu hnumber h

/-- The unit that an entry is applied to has no trays yet, or raised nothing. -/
theorem not_raises_of_target {id : String} {o : Option MUnit}
    (hentry : ¬ u.RaisesInEntry id o) (htrays : ∀ m, o = some m → ¬ u.RaisesInTrays m.trays)
    (h : (u.assertKey id).target o = some m) :
    ¬ (u.assertKey id).RaisesInChanges m.trays ∧ ¬ (u.assertKey id).RaisesInTrays m.trays := by
  cases o with
  | some old =>
    cases h
    exact ⟨hentry, htrays _ rfl⟩
  | none =>
    rw [target, Option.none_or] at h
    split at h
    · rename_i hcreate
      cases h
      exact ⟨fun hraises => hentry ⟨hcreate, hraises⟩, not_raisesInTrays_empty⟩
    · cases h

/-- What an entry leaves raises nothing that was not raised before. -/
theorem not_raises_merge (ops : HeatingScheduleOps) {id : String} {o : Option MUnit}
    (hentry : ¬ u.RaisesInEntry id o) (htrays : ∀ m, o = some m → ¬ u.RaisesInTrays m.trays) :
    ¬ u.RaisesInEntry id ((total ops).merge id u o) ∧
      ∀ m, (total ops).merge id u o = some m → ¬ u.RaisesInTrays m.trays := by
  rw [merge_eq_map_target]
  cases htarget : (u.assertKey id).target o with
  | none =>
    rw [Option.map_none]
    refine ⟨fun hraises => ?_, fun m hm => by cases hm⟩
    -- the entry cannot create a unit
    rw [target, if_pos hraises.1] at htarget
    cases o <;> cases htarget
  | some m =>
    rw [Option.map_some]
    have hbefore := not_raises_of_target hentry htrays htarget
    obtain ⟨hchanges', htrays'⟩ := not_raises_apply ops hbefore.1 hbefore.2
    refine ⟨hchanges', fun m' hm' => ?_⟩
    rw [← Option.some.inj hm']
    exact htrays'

theorem created_eq_none_iff {ops : HeatingScheduleOps} :
    u.created ops = none ↔ u.isCreatable = false := by
  rw [created]
  cases u.isCreatable <;> simp

end MUnitUpdate

/-! ### The state of a machine -/

namespace MachineStateUpdate

variable {Cron : Type} [DecidableEq Cron] [Hashable (HeatingSchedule Cron)]
  [Hashable (ScheduledPrint Cron)]

/-- No unit that the update removes could be created by it again, and the other units settle. -/
structure UnitsSettle (heap : Heap Cron) (u : MachineStateUpdate) (s : MachineState) : Prop where
  removed : ∀ id mu, u.materialUnits.lookup id = some mu → id ∈ u.materialUnits.removals →
    (mu.assertKey id).isCreatable = false
  kept : ∀ id mu, u.materialUnits.lookup id = some mu → id ∉ u.materialUnits.removals →
    ∀ m, (mu.assertKey id).target (s.materialUnits.tryGetValue id) = some m →
      (mu.assertKey id).Settles heap.heatingSchedules m

/-- The update removes nothing that it puts in, and asks for nothing that it cannot write. -/
structure Settles (heap : Heap Cron) (u : MachineStateUpdate) (s : MachineState) : Prop where
  currentJob : ∀ ju, u.currentJob.value = some ju → ju.Settles s.currentJob
  jobHistory : u.jobHistory.Apart (.values HistoricPrintJob) id
  localJobs : u.localJobs.Apart (.values LocalPrintJob) id
  scheduledPrints : u.scheduledPrints.Apart (.records heap.scheduledPrints) heap.scheduledPrints
  removesAll : u.scheduledPrints.RemovesAll heap.scheduledPrints s.scheduledPrints
  extruders : u.extruders.CreatesNoRemoved MachineExtruderUpdate.updater
  nozzles : u.nozzles.CreatesNoRemoved MachineNozzleUpdate.updater
  materialUnits : u.UnitsSettle heap s
  fans : ∀ k v, u.fans.lookup k = some v → k ∉ u.fans.removals
  lights : ∀ k v, u.lights.lookup k = some v → k ∉ u.lights.removals
  heatingElements : ∀ k v, u.heatingElements.lookup k = some v → k ∉ u.heatingElements.removals
  speedPresets : ∀ k v, u.speedPresets.lookup k = some v → k ∉ u.speedPresets.removals
  notifications : u.notifications.CreatesNoRemoved NotificationUpdate.updater

variable {heap : Heap Cron} {u : MachineStateUpdate} {s s' : MachineState}

theorem job_hasChanged_apply_iff (h : ¬ u.RaisesInJob) :
    (u.changed heap.ops (u.apply heap.ops s)).currentJob.any PrintJobChanges.hasChanged = false ↔
      ∀ ju, u.currentJob.value = some ju → ju.Settles s.currentJob := by
  have hjob : (u.apply heap.ops s).currentJob = u.createdJob.or s.currentJob := rfl
  have hreport : (u.changed heap.ops (u.apply heap.ops s)).currentJob =
      (u.currentJob.value.map (·.changesOf (u.createdJob.or s.currentJob))).filter
        (·.hasChanged) := rfl
  rw [hreport, createdJob, NestedBuffer.created]
  cases hvalue : u.currentJob.value with
  | none => simp
  | some ju =>
    have hfaults : ¬ ju.Faults := fun hf => h (.inr ⟨ju, hvalue, hf⟩)
    simp only [Option.map_some, Option.bind_some, Option.some.injEq, forall_eq',
      ← PrintJobUpdate.hasChanged_reapply_iff hfaults]
    cases hc : (ju.changesOf (ju.created.or s.currentJob)).hasChanged <;> simp [Option.filter, hc]

theorem units_hasChanged_apply_iff :
    (u.materialUnits.changes (MUnitUpdate.total heap.ops.heatingSchedules)
      (u.materialUnits.apply (MUnitUpdate.total heap.ops.heatingSchedules)
        s.materialUnits)).hasChanged = false ↔ u.UnitsSettle heap s := by
  rw [DictionaryBuffer.hasChanged_apply_iff]
  have hremoved : u.materialUnits.CreatesNoRemoved (MUnitUpdate.total heap.ops.heatingSchedules) ↔
      ∀ id mu, u.materialUnits.lookup id = some mu → id ∈ u.materialUnits.removals →
        (mu.assertKey id).isCreatable = false :=
    forall₄_congr fun _ _ _ _ => MUnitUpdate.created_eq_none_iff
  have hdiff : ∀ (mu : MUnitUpdate) m,
      (MUnitUpdate.total heap.ops.heatingSchedules).diff mu m = none ↔
        (mu.changed heap.ops.heatingSchedules m).hasChanged = false := by
    intro mu m
    simp [MUnitUpdate.total]
  have hkept : ∀ id (mu : MUnitUpdate) o,
      (∀ m, (MUnitUpdate.total heap.ops.heatingSchedules).merge id mu o = some m →
        (MUnitUpdate.total heap.ops.heatingSchedules).diff (mu.assertKey id) m = none) ↔
      ∀ m, (mu.assertKey id).target o = some m →
        (mu.assertKey id).Settles heap.heatingSchedules m := by
    intro id mu o
    rw [MUnitUpdate.merge_eq_map_target]
    cases (mu.assertKey id).target o with
    | none => simp
    | some m =>
      simp only [Option.map_some, Option.some.injEq, forall_eq', hdiff]
      exact MUnitUpdate.hasChanged_apply_iff
  rw [hremoved]
  constructor
  · exact fun h => ⟨h.1, fun id mu hmu hid => (hkept id mu _).mp (h.2 id mu hmu hid)⟩
  · exact fun h => ⟨h.removed, fun id mu hmu hid => (hkept id mu _).mpr (h.kept id mu hmu hid)⟩

/-- **A state that an update was applied to** gives it nothing more to report just when the update
settles. -/
theorem hasChanged_apply_iff (hjob : ¬ u.RaisesInJob) :
    (u.changed heap.ops (u.apply heap.ops s)).hasChanged = false ↔ u.Settles heap s := by
  have hscalar : ∀ {α : Type} [DecidableEq α] (b : ScalarBuffer α) (old : α),
      (b.changes (b.apply old)).hasChanged = false :=
    fun b old => ScalarChanges.hasChanged_eq_false_iff.mpr (b.agrees_apply old)
  have hextruders := DictionaryBuffer.hasChanged_apply_iff_of_mergesOnce
    (b := u.extruders) (d := s.extruders) MachineExtruderUpdate.mergesOnce
  have hnozzles := DictionaryBuffer.hasChanged_apply_iff_of_mergesOnce
    (b := u.nozzles) (d := s.nozzles) MachineNozzleUpdate.mergesOnce
  have hnotifications := DictionaryBuffer.hasChanged_apply_iff_of_mergesOnce
    (b := u.notifications) (d := s.notifications) NotificationUpdate.mergesOnce
  simp only [MachineStateChanges.hasChanged, Bool.or_eq_false_iff, and_assoc]
  constructor
  · rintro ⟨-, -, -, -, -, hj, hhistory, hlocal, hprints, hext, hnoz, hunits, -, hfans, hlights,
      hheating, -, -, -, hpresets, hnotes⟩
    have hprints := SetBuffer.hasChanged_apply_records_iff.mp hprints
    exact {
      currentJob := (job_hasChanged_apply_iff hjob).mp hj
      jobHistory := SetBuffer.hasChanged_apply_values_iff.mp hhistory
      localJobs := SetBuffer.hasChanged_apply_values_iff.mp hlocal
      scheduledPrints := hprints.1
      removesAll := hprints.2
      extruders := hextruders.mp hext
      nozzles := hnozzles.mp hnoz
      materialUnits := units_hasChanged_apply_iff.mp hunits
      fans := DictionaryBuffer.hasChanged_apply_value_iff.mp hfans
      lights := DictionaryBuffer.hasChanged_apply_value_iff.mp hlights
      heatingElements := DictionaryBuffer.hasChanged_apply_value_iff.mp hheating
      speedPresets := DictionaryBuffer.hasChanged_apply_value_iff.mp hpresets
      notifications := hnotifications.mp hnotes }
  · intro h
    exact ⟨hscalar _ _, hscalar _ _, hscalar _ _, hscalar _ _, hscalar _ _,
      (job_hasChanged_apply_iff hjob).mpr h.currentJob,
      SetBuffer.hasChanged_apply_values_iff.mpr h.jobHistory,
      SetBuffer.hasChanged_apply_values_iff.mpr h.localJobs,
      SetBuffer.hasChanged_apply_records_iff.mpr ⟨h.scheduledPrints, h.removesAll⟩,
      hextruders.mpr h.extruders, hnozzles.mpr h.nozzles,
      units_hasChanged_apply_iff.mpr h.materialUnits, hscalar _ _,
      DictionaryBuffer.hasChanged_apply_value_iff.mpr h.fans,
      DictionaryBuffer.hasChanged_apply_value_iff.mpr h.lights,
      DictionaryBuffer.hasChanged_apply_value_iff.mpr h.heatingElements,
      hscalar _ _, hscalar _ _, hscalar _ _,
      DictionaryBuffer.hasChanged_apply_value_iff.mpr h.speedPresets,
      hnotifications.mpr h.notifications⟩

/-- Nothing changes either. -/
theorem apply_apply (h : u.Settles heap s) :
    u.apply heap.ops (u.apply heap.ops s) = u.apply heap.ops s := by
  have hjob : u.createdJob.or (u.createdJob.or s.currentJob) = u.createdJob.or s.currentJob := by
    cases u.createdJob <;> rfl
  have hhistory : u.jobHistory.apply (.values HistoricPrintJob)
      (u.jobHistory.apply (.values HistoricPrintJob) s.jobHistory) =
        u.jobHistory.apply (.values HistoricPrintJob) s.jobHistory :=
    SetBuffer.apply_eq_self HashSetOps.lawful_values
      (SetBuffer.hasChanged_apply_values_iff.mpr h.jobHistory)
  have hlocal : u.localJobs.apply (.values LocalPrintJob)
      (u.localJobs.apply (.values LocalPrintJob) s.localJobs) =
        u.localJobs.apply (.values LocalPrintJob) s.localJobs :=
    SetBuffer.apply_eq_self HashSetOps.lawful_values
      (SetBuffer.hasChanged_apply_values_iff.mpr h.localJobs)
  have hprints : u.scheduledPrints.apply heap.ops.scheduledPrints
      (u.scheduledPrints.apply heap.ops.scheduledPrints s.scheduledPrints) =
        u.scheduledPrints.apply heap.ops.scheduledPrints s.scheduledPrints :=
    SetBuffer.apply_eq_self (HashSetOps.lawful_records heap.scheduledPrints)
      (SetBuffer.hasChanged_apply_records_iff.mpr ⟨h.scheduledPrints, h.removesAll⟩)
  have hunits : u.materialUnits.apply (MUnitUpdate.total heap.ops.heatingSchedules)
      (u.materialUnits.apply (MUnitUpdate.total heap.ops.heatingSchedules) s.materialUnits) =
        u.materialUnits.apply (MUnitUpdate.total heap.ops.heatingSchedules) s.materialUnits := by
    refine DictionaryBuffer.apply_apply (units_hasChanged_apply_iff.mpr h.materialUnits)
      fun id mu o m _ hm hdiff => ?_
    rw [MUnitUpdate.merge_eq_map_target] at hm
    obtain ⟨m₀, -, rfl⟩ := Option.map_eq_some_iff.mp hm
    -- what reports nothing has settled
    have hquiet : ((mu.assertKey id).changed heap.ops.heatingSchedules
        ((mu.assertKey id).apply heap.ops.heatingSchedules m₀)).hasChanged = false := by
      simpa [MUnitUpdate.total] using hdiff
    exact MUnitUpdate.apply_apply (MUnitUpdate.hasChanged_apply_iff.mp hquiet)
  simp only [apply, ScalarBuffer.apply_apply, hjob, hhistory, hlocal, hprints, hunits,
    DictionaryBuffer.apply_apply_of_mergesOnce MachineExtruderUpdate.mergesOnce h.extruders,
    DictionaryBuffer.apply_apply_of_mergesOnce MachineNozzleUpdate.mergesOnce h.nozzles,
    DictionaryBuffer.apply_apply_of_mergesOnce NotificationUpdate.mergesOnce h.notifications,
    DictionaryBuffer.apply_apply_value h.fans, DictionaryBuffer.apply_apply_value h.lights,
    DictionaryBuffer.apply_apply_value h.heatingElements,
    DictionaryBuffer.apply_apply_value h.speedPresets]

/-- A unit that an update was applied to raises nothing that it did not raise before. -/
theorem not_raises_apply (h : u.Settles heap s) (hchanges : ¬ u.RaisesInChanges s)
    (hunits : ¬ u.RaisesInUnits s) :
    ¬ u.RaisesInChanges (u.apply heap.ops s) ∧ ¬ u.RaisesInUnits (u.apply heap.ops s) := by
  have hentry : ∀ id mu, u.materialUnits.lookup id = some mu →
      ¬ mu.RaisesInEntry id ((u.apply heap.ops s).materialUnits.tryGetValue id) ∧
        ∀ m, (u.apply heap.ops s).materialUnits.tryGetValue id = some m →
          ¬ mu.RaisesInTrays m.trays := by
    intro id mu hmu
    have happly : (u.apply heap.ops s).materialUnits = u.materialUnits.apply
      (MUnitUpdate.total heap.ops.heatingSchedules) s.materialUnits := rfl
    rw [happly, DictionaryBuffer.tryGetValue_apply, hmu]
    by_cases hid : id ∈ u.materialUnits.removals
    · rw [if_pos hid]
      refine ⟨fun hraises => ?_, fun m hm => by cases hm⟩
      have hcreate := h.materialUnits.removed id mu hmu hid
      rw [hraises.1] at hcreate
      cases hcreate
    · rw [if_neg hid]
      exact MUnitUpdate.not_raises_merge heap.ops.heatingSchedules
        (fun hraises => hchanges ⟨id, mu, hmu, hraises⟩)
        fun m hm hraises => hunits ⟨id, mu, m, hmu, hm, hraises⟩
  refine ⟨?_, ?_⟩
  · rintro ⟨id, mu, hmu, hraises⟩
    exact (hentry id mu hmu).1 hraises
  · rintro ⟨id, mu, m, hmu, hm, hraises⟩
    exact (hentry id mu hmu).2 m hm hraises

variable {c : MachineStateChanges} {s₁ : MachineState}

/-- What an application that returns leaves, settles. -/
theorem appendUpdate_again (h : (u.appendUpdate heap.ops).run s = .ok c s₁)
    (hsettles : u.Settles heap s) :
    ∃ c', (u.appendUpdate heap.ops).run s₁ = .ok c' s₁ ∧ c'.hasChanged = false := by
  obtain ⟨-, f, hr⟩ | ⟨-, -, f, hr⟩ | ⟨-, -, -, f, units, -, hr⟩ | ⟨hchanges, hjob, hunits, hr⟩ :=
    run_appendUpdate_raise_cases heap.ops u s
  all_goals rw [hr] at h; cases h
  obtain ⟨hchanges', hunits'⟩ := not_raises_apply hsettles hchanges hunits
  refine ⟨_, ?_, (hasChanged_apply_iff hjob).mpr hsettles⟩
  obtain ⟨hraises, -⟩ | ⟨-, hraises, -⟩ | ⟨-, -, hraises, -⟩ | ⟨-, -, -, hagain⟩ :=
    run_appendUpdate_raise_cases heap.ops u (u.apply heap.ops s)
  · exact absurd hraises hchanges'
  · exact absurd hraises hjob
  · exact absurd hraises hunits'
  · rw [hagain, apply_apply hsettles]

/-- **Applying an update again.** Where an application returns, a second one changes nothing and
reports nothing just when the update settles. -/
theorem reapply_iff (h : (u.appendUpdate heap.ops).run s = .ok c s₁) :
    (∃ c', (u.appendUpdate heap.ops).run s₁ = .ok c' s₁ ∧ c'.hasChanged = false) ↔
      u.Settles heap s := by
  refine ⟨?_, appendUpdate_again h⟩
  rintro ⟨c', hagain, hquiet⟩
  obtain ⟨-, f, hr⟩ | ⟨-, -, f, hr⟩ | ⟨-, -, -, f, units, -, hr⟩ | ⟨-, hjob, -, hr⟩ :=
    run_appendUpdate_raise_cases heap.ops u s
  all_goals rw [hr] at h; cases h
  -- the second application has returned, so its report is the one of what the first has left
  obtain ⟨rfl, -⟩ := run_appendUpdate_ok heap.ops hagain
  exact (hasChanged_apply_iff hjob).mp hquiet

/-! ### Two updates -/

/-- A machine that is printing a job. -/
private def printing : MachineState :=
  { (default : MachineState) with
    currentJob := some { (default : PrintJob) with name := "benchy" } }

/-- The machine reports the speed of a fan. -/
private def fanUpdate : MachineStateUpdate :=
  { (default : MachineStateUpdate) with
    fans := (default : DictionaryBuffer String Int32).set "part" 50 }

/-- The machine reports of its job only how far it is. -/
private def progressUpdate : MachineStateUpdate :=
  { (default : MachineStateUpdate) with
    currentJob := (default : NestedBuffer PrintJobUpdate).update fun ju =>
      { ju with percentageComplete := ju.percentageComplete.set 50 } }

/-- The speed of a fan is reported once. -/
theorem reapply_iff_fan :
    ∃ c' : MachineStateChanges, (fanUpdate.appendUpdate (default : Heap Unit).ops).run
        (fanUpdate.apply (default : Heap Unit).ops printing) =
          .ok c' (fanUpdate.apply (default : Heap Unit).ops printing) ∧ c'.hasChanged = false := by
  have hrun : (fanUpdate.appendUpdate (default : Heap Unit).ops).run printing =
      .ok (fanUpdate.changed (default : Heap Unit).ops printing)
        (fanUpdate.apply (default : Heap Unit).ops printing) := rfl
  exact (reapply_iff hrun).mpr {
    currentJob := fun ju hju => by cases hju
    jobHistory := fun v hv => by cases hv
    localJobs := fun v hv => by cases hv
    scheduledPrints := fun v hv => by cases hv
    removesAll := fun v hv => by cases hv
    extruders := fun k v hv => by cases hv
    nozzles := fun k v hv => by cases hv
    materialUnits :=
      { removed := fun id mu hmu => by cases hmu
        kept := fun id mu hmu => by cases hmu }
    fans := fun k v _ hk => by cases hk
    lights := fun k v hv => by cases hv
    heatingElements := fun k v hv => by cases hv
    speedPresets := fun k v hv => by cases hv
    notifications := fun k v hv => by cases hv }

/-- **The progress of a job is reported each time**, and never written: it is not enough to create a
job. -/
theorem reapply_fails :
    ∃ c, (progressUpdate.appendUpdate (default : Heap Unit).ops).run printing = .ok c printing ∧
      ¬ ∃ c' : MachineStateChanges,
        (progressUpdate.appendUpdate (default : Heap Unit).ops).run printing = .ok c' printing ∧
          c'.hasChanged = false := by
  refine ⟨_, rfl, ?_⟩
  rintro ⟨c', hrun, hquiet⟩
  cases hrun
  cases hquiet

end MachineStateUpdate

end Connect3Dp
