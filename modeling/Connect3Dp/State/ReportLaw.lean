import Connect3Dp.State.MaterialChange

/-!
# The report of a state update

A client rebuilds the state of a machine from the reports of its updates. `ReportLaw` says that
a report is right for that: every dictionary's part is the difference of the dictionary before
and after and replays to it, down to the trays of the material units, and every set's part is
the pair of set differences.

`MachineStateUpdate.ReportsExactly` is the condition on the update under which this is so
(`reportLaw_iff`). It fails in two ways: something is set and removed by the same update, or the
material of a tray is rebuilt from an update that does not carry all of it.
-/

namespace Connect3Dp

/-- The report on the trays of a unit: the part of the unit's own report, empty for a unit that
is not reported. -/
def MachineStateChanges.trays (c : MachineStateChanges) (id : String) :
    DictionaryChanges Int32 Spool SpoolChanges :=
  ((c.materialUnits.updated.lookup id).map MUnitChanges.trays).getD default

/-- The report `c` of an update from `s` to `s'` is exact on every dictionary and on the sets
of jobs. -/
structure ReportLaw (ops : ScheduleOps) (s s' : MachineState) (c : MachineStateChanges) :
    Prop where
  fans : DictionaryLaw (· = ·) (fun v _ => v) s.fans s'.fans c.fans
  lights : DictionaryLaw (· = ·) (fun v _ => v) s.lights s'.lights c.lights
  heatingElements : DictionaryLaw (· = ·) (fun v _ => v) s.heatingElements s'.heatingElements
    c.heatingElements
  speedPresets : DictionaryLaw (· = ·) (fun v _ => v) s.speedPresets s'.speedPresets
    c.speedPresets
  notifications : DictionaryLaw (· = ·) NotificationChanges.replay s.notifications
    s'.notifications c.notifications
  extruders : DictionaryLaw (· = ·) MachineExtruderChanges.replay s.extruders s'.extruders
    c.extruders
  nozzles : DictionaryLaw (· = ·) MachineNozzleChanges.replay s.nozzles s'.nozzles c.nozzles
  materialUnits : DictionaryLaw MUnit.Same (MUnitChanges.replay ops.heatingSchedules)
    s.materialUnits s'.materialUnits c.materialUnits
  trays : ∀ id m m', s.materialUnits.tryGetValue id = some m →
    s'.materialUnits.tryGetValue id = some m' →
    DictionaryLaw (· = ·) SpoolChanges.replay m.trays m'.trays (c.trays id)
  localJobs : SetDiff s.localJobs s'.localJobs c.localJobs
  jobHistory : SetDiff s.jobHistory s'.jobHistory c.jobHistory

/-- No unit that the update removes has an update to report, and every other unit it updates
merges. -/
def DictionaryBuffer.UnitsMerge {β : Type*} (ops : HeatingScheduleOps)
    (key : HeatingScheduleRef → β) (b : DictionaryBuffer String MUnitUpdate)
    (d : Dictionary String MUnit) : Prop :=
  b.Unmixed (MUnitUpdate.total ops) d ∧
    ∀ id u m, b.lookup id = some u → id ∉ b.removals → d.tryGetValue id = some m →
      (u.assertKey id).Merges ops key m

/-- The condition for an exact report. -/
structure MachineStateUpdate.ReportsExactly {β : Type*} (ops : ScheduleOps)
    (key : HeatingScheduleRef → β) (u : MachineStateUpdate) (s : MachineState) : Prop where
  fans : u.fans.Unmixed (.value String Int32) s.fans
  lights : u.lights.Unmixed (.value String Bool) s.lights
  heatingElements : u.heatingElements.Unmixed (.value String HeatingElement) s.heatingElements
  speedPresets : u.speedPresets.Unmixed (.value String Int32) s.speedPresets
  notifications : u.notifications.Unmixed NotificationUpdate.updater s.notifications
  extruders : u.extruders.Unmixed MachineExtruderUpdate.updater s.extruders
  nozzles : u.nozzles.Unmixed MachineNozzleUpdate.updater s.nozzles
  materialUnits : u.materialUnits.UnitsMerge ops.heatingSchedules key s.materialUnits
  localJobs : u.localJobs.Separated (.values LocalPrintJob) id s.localJobs
  jobHistory : u.jobHistory.Separated (.values HistoricPrintJob) id s.jobHistory

section Values

variable {K V : Type*} [DecidableEq K] [DecidableEq V] {b : DictionaryBuffer K V}
  {d : Dictionary K V}

theorem dictionaryLaw_value_iff :
    DictionaryLaw (· = ·) (fun v _ => v) d (b.apply (.value K V) d) (b.changes (.value K V) d) ↔
      b.Unmixed (.value K V) d := by
  rw [DictionaryBuffer.dictionaryLaw_iff fun _ => rfl]
  exact DictionaryBuffer.exact_iff_unmixed Updater.faithful_value

end Values

section Units

variable {β : Type*} {ops : HeatingScheduleOps} {key : HeatingScheduleRef → β}
  {b : DictionaryBuffer String MUnitUpdate} {d : Dictionary String MUnit}

/-- What the report says about the trays of a unit is what the unit's update would report. -/
theorem trays_report {id : String} {u : MUnitUpdate} {m : MUnit} (hu : b.lookup id = some u)
    (hd : d.tryGetValue id = some m) :
    (((b.changes (MUnitUpdate.total ops) d).updated.lookup id).map MUnitChanges.trays).getD
      default = ((u.assertKey id).changed ops m).trays := by
  cases hc : ((u.assertKey id).changed ops m).hasChanged with
  | true =>
    have hmem : (id, (u.assertKey id).changed ops m) ∈
        (b.changes (MUnitUpdate.total ops) d).updated :=
      DictionaryBuffer.mem_updated_iff.mpr ⟨u, m, hu, hd, if_pos hc⟩
    rw [(Dictionary.lookup_eq_some_iff_mem DictionaryBuffer.nodup_updated).mpr hmem]
    rfl
  | false =>
    have hnone : (b.changes (MUnitUpdate.total ops) d).updated.lookup id = none := by
      refine Option.eq_none_iff_forall_ne_some.mpr fun c hc' => ?_
      obtain ⟨u', m', hu', hd', hdiff⟩ := DictionaryBuffer.mem_updated_iff.mp
        ((Dictionary.lookup_eq_some_iff_mem DictionaryBuffer.nodup_updated).mp hc')
      rw [hu] at hu'
      rw [hd] at hd'
      cases hu'
      cases hd'
      change (if _ then _ else _) = _ at hdiff
      rw [if_neg (by simpa [MUnitUpdate.total] using hc)] at hdiff
      cases hdiff
    have htrays := (MUnitUpdate.hasChanged_eq_false_iff.mp hc).2.1
    rw [hnone, Option.map_none, Option.getD_none]
    exact (DictionaryChanges.eq_default_of_not_hasChanged htrays).symm

/-- **The report on the units is exact, down to their trays, just when the units merge.** -/
theorem unitsLaw_iff (hops : ops.Lawful key) :
    (DictionaryLaw MUnit.Same (MUnitChanges.replay ops) d (b.apply (MUnitUpdate.total ops) d)
        (b.changes (MUnitUpdate.total ops) d) ∧
      ∀ id m m', d.tryGetValue id = some m →
        (b.apply (MUnitUpdate.total ops) d).tryGetValue id = some m' →
        DictionaryLaw (· = ·) SpoolChanges.replay m.trays m'.trays
          (((b.changes (MUnitUpdate.total ops) d).updated.lookup id).map
            MUnitChanges.trays |>.getD default)) ↔ b.UnitsMerge ops key d := by
  have happly : ∀ id u m, b.lookup id = some u → id ∉ b.removals → d.tryGetValue id = some m →
      (b.apply (MUnitUpdate.total ops) d).tryGetValue id =
        some ((u.assertKey id).apply ops m) := by
    intro id u m hu hid hd
    rw [DictionaryBuffer.tryGetValue_apply, if_neg hid, hu, hd]
    rfl
  rw [DictionaryBuffer.dictionaryLaw_iff MUnit.same_equivalence.refl]
  constructor
  · rintro ⟨hexact, htrays⟩
    refine ⟨fun id u hu hid => ?_, fun id u m hu hid hd => ?_⟩
    · have := hexact id u hu
      rwa [if_pos hid] at this
    · have hfaithful := hexact id u hu
      rw [if_neg hid] at hfaithful
      have htray := htrays id m _ hd (happly id u m hu hid hd)
      rw [trays_report hu hd] at htray
      exact (MUnitUpdate.faithful_and_trays_iff hops).mp
        ⟨hfaithful m hd, htray.toDictionaryDiff⟩
  · rintro ⟨hunmixed, hmerge⟩
    refine ⟨fun id u hu => ?_, fun id m m' hd hd' => ?_⟩
    · split
      · rename_i hid
        exact hunmixed id u hu hid
      · rename_i hid
        intro m hd
        exact ((MUnitUpdate.faithful_and_trays_iff hops).mpr (hmerge id u m hu hid hd)).1
    -- a unit without an entry is reported and merged by nothing
    · cases hu : b.lookup id with
      | none =>
        have hnone : (b.changes (MUnitUpdate.total ops) d).updated.lookup id = none := by
          refine Option.eq_none_iff_forall_ne_some.mpr fun c hc => ?_
          obtain ⟨u, -, hu', -⟩ := DictionaryBuffer.mem_updated_iff.mp
            ((Dictionary.lookup_eq_some_iff_mem DictionaryBuffer.nodup_updated).mp hc)
          rw [hu] at hu'
          cases hu'
        rw [DictionaryBuffer.tryGetValue_apply, hu] at hd'
        split at hd'
        · cases hd'
        · rw [hd] at hd'
          cases hd'
          rw [hnone]
          exact DictionaryLaw.refl (fun _ => rfl) m.trays
      | some u =>
        have hid : id ∉ b.removals := fun hid => by
          rw [DictionaryBuffer.tryGetValue_apply, if_pos hid] at hd'
          cases hd'
        rw [happly id u m hu hid hd] at hd'
        cases hd'
        rw [trays_report hu hd]
        exact (DictionaryBuffer.dictionaryLaw_iff fun _ => rfl).mpr
          (DictionaryBuffer.exact_iff_traysMerge.mpr (hmerge id u m hu hid hd).1)

end Units

variable {Cron : Type} [DecidableEq Cron] [Hashable (HeatingSchedule Cron)]
  [Hashable (ScheduledPrint Cron)]

theorem reportLaw_iff (heap : Heap Cron) (u : MachineStateUpdate) (s : MachineState) :
    ReportLaw heap.ops s (u.apply heap.ops s) (u.changed heap.ops s) ↔
      u.ReportsExactly heap.ops heap.heatingSchedules s := by
  have hunits := unitsLaw_iff (b := u.materialUnits) (d := s.materialUnits)
    (HashSetOps.lawful_records heap.heatingSchedules)
  constructor
  · intro h
    exact {
      fans := dictionaryLaw_value_iff.mp h.fans
      lights := dictionaryLaw_value_iff.mp h.lights
      heatingElements := dictionaryLaw_value_iff.mp h.heatingElements
      speedPresets := dictionaryLaw_value_iff.mp h.speedPresets
      notifications := (DictionaryBuffer.exact_iff_unmixed NotificationUpdate.faithful).mp
        ((DictionaryBuffer.dictionaryLaw_iff fun _ => rfl).mp h.notifications)
      extruders := (DictionaryBuffer.exact_iff_unmixed MachineExtruderUpdate.faithful).mp
        ((DictionaryBuffer.dictionaryLaw_iff fun _ => rfl).mp h.extruders)
      nozzles := (DictionaryBuffer.exact_iff_unmixed MachineNozzleUpdate.faithful).mp
        ((DictionaryBuffer.dictionaryLaw_iff fun _ => rfl).mp h.nozzles)
      materialUnits := hunits.mp ⟨h.materialUnits, h.trays⟩
      localJobs := setDiff_iff.mp h.localJobs
      jobHistory := setDiff_iff.mp h.jobHistory }
  · intro h
    obtain ⟨hm, ht⟩ := hunits.mpr h.materialUnits
    exact {
      fans := dictionaryLaw_value_iff.mpr h.fans
      lights := dictionaryLaw_value_iff.mpr h.lights
      heatingElements := dictionaryLaw_value_iff.mpr h.heatingElements
      speedPresets := dictionaryLaw_value_iff.mpr h.speedPresets
      notifications := (DictionaryBuffer.dictionaryLaw_iff fun _ => rfl).mpr
        ((DictionaryBuffer.exact_iff_unmixed NotificationUpdate.faithful).mpr h.notifications)
      extruders := (DictionaryBuffer.dictionaryLaw_iff fun _ => rfl).mpr
        ((DictionaryBuffer.exact_iff_unmixed MachineExtruderUpdate.faithful).mpr h.extruders)
      nozzles := (DictionaryBuffer.dictionaryLaw_iff fun _ => rfl).mpr
        ((DictionaryBuffer.exact_iff_unmixed MachineNozzleUpdate.faithful).mpr h.nozzles)
      materialUnits := hm
      trays := ht
      localJobs := setDiff_iff.mpr h.localJobs
      jobHistory := setDiff_iff.mpr h.jobHistory }

/-- **When a returned `AppendUpdate` reports exactly what it did.** -/
theorem appendUpdate_reportLaw_iff (heap : Heap Cron) (u : MachineStateUpdate)
    (s s' : MachineState) (c : MachineStateChanges)
    (h : (u.appendUpdate heap.ops).run s = .ok c s') :
    ReportLaw heap.ops s s' c ↔ u.ReportsExactly heap.ops heap.heatingSchedules s := by
  obtain ⟨rfl, rfl⟩ := MachineStateUpdate.run_appendUpdate_ok heap.ops h
  exact reportLaw_iff heap u s

/-- **A change of material is reported exactly**, whatever the machine holds: its builder carries
all of the material. -/
theorem MachineStateUpdate.reportsExactly_changeMaterial (heap : Heap Cron) (unitID : String)
    (slot : Int32) (material : Material) (s : MachineState) :
    ((default : MachineStateUpdate).changeMaterial unitID slot material).ReportsExactly heap.ops
      heap.heatingSchedules s where
  fans k u _ hk := by cases hk
  lights k u _ hk := by cases hk
  heatingElements k u _ hk := by cases hk
  speedPresets k u _ hk := by cases hk
  notifications k u _ hk := by cases hk
  extruders k u _ hk := by cases hk
  nozzles k u _ hk := by cases hk
  materialUnits := by
    refine ⟨fun id u _ hid => ?_, fun id u m hu _ _ => ?_⟩
    · cases hid
    rw [MachineStateUpdate.changeMaterial, MachineStateUpdate.updateMaterialUnits,
      DictionaryBuffer.lookup_update] at hu
    split at hu
    case isFalse => cases hu
    case isTrue =>
      cases hu
      refine ⟨⟨fun k tray _ hk => ?_, fun k tray spool htray _ _ => ?_⟩, fun v hv => ?_⟩
      · cases hk
      · have hlookup := (DictionaryBuffer.lookup_update default slot k
          (SpoolUpdate.setNumber slot default)
          (·.updateMaterial (·.setMaterial material))).symm.trans htray
        split at hlookup
        case isFalse => cases hlookup
        case isTrue =>
          cases hlookup
          intro m hm
          cases hm
          exact fun hprofile => by cases hprofile
      · cases hv
  localJobs v hv := by cases hv
  jobHistory v hv := by cases hv

/-- A unit with an empty tray. -/
def oneTray : MachineState :=
  { (default : MachineState) with
    materialUnits := (∅ : Dictionary String MUnit).set "A"
      { (default : MUnit) with
        id := some "A"
        trays := (∅ : Dictionary Int32 Spool).set 1 { (default : Spool) with number := 1 } } }

/-- The change of its material. -/
def trayToPLA : MachineStateUpdate :=
  (default : MachineStateUpdate).changeMaterial "A" 1 ⟨some "PLA", default, none⟩

/-- The tray is reported, and the report is exact. -/
theorem appendUpdate_reportLaw_iff_tray :
    ∃ c s', (trayToPLA.appendUpdate (default : Heap Unit).ops).run oneTray = .ok c s' ∧
      ((c.trays "A").updated.map Prod.fst = [1]) ∧
      ReportLaw (default : Heap Unit).ops oneTray s' c := by
  have hrun : (trayToPLA.appendUpdate (default : Heap Unit).ops).run oneTray =
      .ok (trayToPLA.changed (default : Heap Unit).ops oneTray)
        (trayToPLA.apply (default : Heap Unit).ops oneTray) := rfl
  exact ⟨_, _, hrun, rfl, (appendUpdate_reportLaw_iff _ _ _ _ _ hrun).mpr
    (MachineStateUpdate.reportsExactly_changeMaterial _ _ _ _ _)⟩

/-- A fan that is set and removed by one update is reported as added, and is not there. -/
theorem appendUpdate_not_reportLaw :
    ¬ ∀ (u : MachineStateUpdate) (s s' : MachineState) (c : MachineStateChanges),
      (u.appendUpdate (default : Heap Unit).ops).run s = .ok c s' →
        ReportLaw (default : Heap Unit).ops s s' c := by
  intro hall
  have hlaw := hall { (default : MachineStateUpdate) with
    fans := ((default : DictionaryBuffer String Int32).set "part" 50).remove "part" }
    default _ _ rfl
  obtain ⟨-, hpart⟩ := (hlaw.fans.added_iff "part" 50).mp (by decide)
  exact absurd hpart (by decide)

end Connect3Dp
