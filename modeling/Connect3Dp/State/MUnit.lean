import Connect3Dp.State.Spool

/-!
# Material units and their builder

`MUnit` is a class: `AppendUpdate` works on the unit in place, so an exception raised by one of
its trays leaves the unit changed up to that tray (`MUnitUpdate.appendUpdate`).
`MUnitUpdate.apply`, `MUnitUpdate.created` and `MUnitUpdate.changed` are what the builder's
functions return otherwise (`MUnitUpdate.refines`).

The operations of `HashSet<HeatingSchedule>` depend on the current contents of the schedules and
are a parameter.
-/

namespace Connect3Dp

/-- `MUnit`. -/
structure MUnit where
  id : NetString
  capacity : Int32
  model : NetString
  capabilities : MUCapabilities
  heatingConstraints : Option HeatingConstraints
  trays : Dictionary Int32 Spool
  humidityPercent : Option Double
  temperatureC : Option Double
  heatingJob : Option HeatingJob
  heatingSchedule : RecordHashSet HeatingScheduleRef
  deriving DecidableEq, Inhabited

/-- `MUnitUpdate`. -/
structure MUnitUpdate where
  id : ScalarBuffer NetString
  capacity : ScalarBuffer Int32
  model : ScalarBuffer NetString
  capabilities : ScalarBuffer MUCapabilities
  heatingConstraints : ScalarBuffer (Option HeatingConstraints)
  trays : DictionaryBuffer Int32 SpoolUpdate
  humidityPercent : ScalarBuffer (Option Double)
  temperatureC : ScalarBuffer (Option Double)
  heatingJob : ScalarBuffer (Option HeatingJob)
  heatingSchedule : SetBuffer (RecordHashSet HeatingScheduleRef)
  deriving DecidableEq, Inhabited

/-- `MUnitChanges`. -/
structure MUnitChanges where
  id : ScalarChanges NetString
  capacity : ScalarChanges Int32
  model : ScalarChanges NetString
  capabilities : ScalarChanges MUCapabilities
  heatingConstraints : ScalarChanges (Option HeatingConstraints)
  trays : DictionaryChanges Int32 Spool SpoolChanges
  humidityPercent : ScalarChanges (Option Double)
  temperatureC : ScalarChanges (Option Double)
  heatingJob : ScalarChanges (Option HeatingJob)
  heatingSchedule : SetChanges HeatingScheduleRef
  deriving DecidableEq, Inhabited

/-- The operations of `HashSet<HeatingSchedule>`. -/
abbrev HeatingScheduleOps := HashSetOps (RecordHashSet HeatingScheduleRef) HeatingScheduleRef

namespace MUnitChanges

def hasChanged (c : MUnitChanges) : Bool :=
  c.id.hasChanged || c.capacity.hasChanged || c.model.hasChanged || c.capabilities.hasChanged ||
  c.heatingConstraints.hasChanged || c.trays.hasChanged || c.humidityPercent.hasChanged ||
  c.temperatureC.hasChanged || c.heatingJob.hasChanged || c.heatingSchedule.hasChanged

/-- Write everything that is reported into a unit. -/
def replay (ops : HeatingScheduleOps) (c : MUnitChanges) (m : MUnit) : MUnit where
  id := c.id.replay m.id
  capacity := c.capacity.replay m.capacity
  model := c.model.replay m.model
  capabilities := c.capabilities.replay m.capabilities
  heatingConstraints := c.heatingConstraints.replay m.heatingConstraints
  trays := c.trays.replay SpoolChanges.replay m.trays
  humidityPercent := c.humidityPercent.replay m.humidityPercent
  temperatureC := c.temperatureC.replay m.temperatureC
  heatingJob := c.heatingJob.replay m.heatingJob
  heatingSchedule := c.heatingSchedule.replay ops m.heatingSchedule

end MUnitChanges

/-- Two units are the same up to the order in which their trays are enumerated. -/
structure MUnit.Same (m m' : MUnit) : Prop where
  id : m.id = m'.id
  capacity : m.capacity = m'.capacity
  model : m.model = m'.model
  capabilities : m.capabilities = m'.capabilities
  heatingConstraints : m.heatingConstraints = m'.heatingConstraints
  trays : ∀ k, m.trays.tryGetValue k = m'.trays.tryGetValue k
  humidityPercent : m.humidityPercent = m'.humidityPercent
  temperatureC : m.temperatureC = m'.temperatureC
  heatingJob : m.heatingJob = m'.heatingJob
  heatingSchedule : m.heatingSchedule = m'.heatingSchedule

theorem MUnit.same_equivalence : Equivalence MUnit.Same where
  refl _ := ⟨rfl, rfl, rfl, rfl, rfl, fun _ => rfl, rfl, rfl, rfl, rfl⟩
  symm h := ⟨h.1.symm, h.2.symm, h.3.symm, h.4.symm, h.5.symm, fun k => (h.6 k).symm, h.7.symm,
    h.8.symm, h.9.symm, h.10.symm⟩
  trans h h' := ⟨h.1.trans h'.1, h.2.trans h'.2, h.3.trans h'.3, h.4.trans h'.4, h.5.trans h'.5,
    fun k => (h.6 k).trans (h'.6 k), h.7.trans h'.7, h.8.trans h'.8, h.9.trans h'.9,
    h.10.trans h'.10⟩

namespace MUnitUpdate

variable (ops : HeatingScheduleOps)

/-- `Changes(MUnit)`. -/
def changes (u : MUnitUpdate) (m : MUnit) : Except Fault MUnitChanges := do
  let trays ← u.trays.tryChanges SpoolUpdate.updater m.trays
  return {
    id := u.id.changes m.id
    capacity := u.capacity.changes m.capacity
    model := u.model.changes m.model
    capabilities := u.capabilities.changes m.capabilities
    heatingConstraints := u.heatingConstraints.changes m.heatingConstraints
    trays
    humidityPercent := u.humidityPercent.changes m.humidityPercent
    temperatureC := u.temperatureC.changes m.temperatureC
    heatingJob := u.heatingJob.changes m.heatingJob
    heatingSchedule := u.heatingSchedule.changes ops m.heatingSchedule }

/-- The properties before `Trays`. -/
def applyHead (u : MUnitUpdate) (m : MUnit) : MUnit :=
  { m with
    id := u.id.apply m.id
    capacity := u.capacity.apply m.capacity
    model := u.model.apply m.model
    capabilities := u.capabilities.apply m.capabilities
    heatingConstraints := u.heatingConstraints.apply m.heatingConstraints }

/-- The properties after `Trays`. -/
def applyTail (u : MUnitUpdate) (m : MUnit) : MUnit :=
  { m with
    humidityPercent := u.humidityPercent.apply m.humidityPercent
    temperatureC := u.temperatureC.apply m.temperatureC
    heatingJob := u.heatingJob.apply m.heatingJob
    heatingSchedule := u.heatingSchedule.apply ops m.heatingSchedule }

/-- `AppendUpdate(MUnit, out changes)`. -/
def appendUpdate (u : MUnitUpdate) : EStateM Fault MUnit MUnitChanges := do
  let changes ← ofExcept (u.changes ops (← get))
  modify u.applyHead
  onField MUnit.trays (fun m trays => { m with trays }) (u.trays.appendUpdate SpoolUpdate.updater)
  modify (u.applyTail ops)
  return changes

/-- Every property that `TryCreate` requires is set. -/
def isCreatable (u : MUnitUpdate) : Bool :=
  u.id.isSet && u.capacity.isSet && u.capabilities.isSet

/-- The unit that `TryCreate` builds before it applies the rest. -/
def initializer (u : MUnitUpdate) : MUnit :=
  { (default : MUnit) with
    id := u.id.value
    capacity := u.capacity.value
    capabilities := u.capabilities.value }

/-- `TryCreate`. -/
def tryCreate (u : MUnitUpdate) : Except Fault (Option MUnit) :=
  if u.isCreatable then
    match (u.appendUpdate ops).run u.initializer with
    | .ok _ m => .ok (some m)
    | .error f _ => .error f
  else .ok none

/-- `SetID(key)`, which the code around a dictionary of units calls on its entries. -/
def assertKey (k : String) (u : MUnitUpdate) : MUnitUpdate := { u with id := u.id.set (some k) }

/-- What `changes` returns when it does not raise. -/
def changed (u : MUnitUpdate) (m : MUnit) : MUnitChanges where
  id := u.id.changes m.id
  capacity := u.capacity.changes m.capacity
  model := u.model.changes m.model
  capabilities := u.capabilities.changes m.capabilities
  heatingConstraints := u.heatingConstraints.changes m.heatingConstraints
  trays := u.trays.changes SpoolUpdate.total m.trays
  humidityPercent := u.humidityPercent.changes m.humidityPercent
  temperatureC := u.temperatureC.changes m.temperatureC
  heatingJob := u.heatingJob.changes m.heatingJob
  heatingSchedule := u.heatingSchedule.changes ops m.heatingSchedule

/-- What `appendUpdate` makes of a unit when it does not raise. -/
def apply (u : MUnitUpdate) (m : MUnit) : MUnit where
  id := u.id.apply m.id
  capacity := u.capacity.apply m.capacity
  model := u.model.apply m.model
  capabilities := u.capabilities.apply m.capabilities
  heatingConstraints := u.heatingConstraints.apply m.heatingConstraints
  trays := u.trays.apply SpoolUpdate.total m.trays
  humidityPercent := u.humidityPercent.apply m.humidityPercent
  temperatureC := u.temperatureC.apply m.temperatureC
  heatingJob := u.heatingJob.apply m.heatingJob
  heatingSchedule := u.heatingSchedule.apply ops m.heatingSchedule

/-- What `tryCreate` returns when it does not raise. -/
def created (u : MUnitUpdate) : Option MUnit :=
  if u.isCreatable then some (u.apply ops u.initializer) else none

/-- How an entry of `MachineState.MaterialUnits` is merged. -/
def updater : FaultingUpdater String MUnitUpdate MUnit MUnitChanges where
  assertKey := assertKey
  diff u m := (fun c => if c.hasChanged then some c else none) <$> u.changes ops m
  tryCreate := tryCreate ops
  appendUpdate u := discard (u.appendUpdate ops)

/-- `updater` without its exceptions. -/
def total : Updater String MUnitUpdate MUnit MUnitChanges where
  assertKey := assertKey
  diff u m := if (u.changed ops m).hasChanged then some (u.changed ops m) else none
  tryCreate := created ops
  appendUpdate := apply ops

/-! ### Exceptions -/

variable {ops} {u : MUnitUpdate} {m m' : MUnit}

theorem changed_of_changes {c : MUnitChanges} (h : u.changes ops m = .ok c) :
    u.changed ops m = c := by
  obtain ⟨trays, ht, h⟩ := bind_eq_ok_iff.mp h
  injection h with h
  rw [← h, changed, DictionaryBuffer.tryChanges_ok SpoolUpdate.refines ht]

/-- **What `AppendUpdate` on a unit does**: it returns, it raises before it changes anything, or
it raises in a tray, with the properties before `Trays` already written. -/
theorem run_appendUpdate_cases (ops : HeatingScheduleOps) (u : MUnitUpdate) (m : MUnit) :
    (∃ f, u.changes ops m = .error f ∧ (u.appendUpdate ops).run m = .error f m) ∨
    (∃ c f trays, u.changes ops m = .ok c ∧
      (u.trays.appendUpdate SpoolUpdate.updater).run m.trays = .error f trays ∧
      (u.appendUpdate ops).run m = .error f { u.applyHead m with trays }) ∨
    (∃ c trays, u.changes ops m = .ok c ∧
      (u.trays.appendUpdate SpoolUpdate.updater).run m.trays = .ok () trays ∧
      (u.appendUpdate ops).run m = .ok c (u.apply ops m)) := by
  have hget : (get : EStateM Fault MUnit MUnit).run m = .ok m m := rfl
  have hhead : (modify u.applyHead : EStateM Fault MUnit Unit).run m = .ok () (u.applyHead m) := rfl
  cases hc : u.changes ops m with
  | error f =>
    refine .inl ⟨f, rfl, ?_⟩
    rw [appendUpdate, run_bind_ok hget, hc]
    rfl
  | ok c =>
    have hlift : (ofExcept (Except.ok (ε := Fault) c) : EStateM Fault MUnit MUnitChanges).run m =
        .ok c m := rfl
    cases ht : (u.trays.appendUpdate SpoolUpdate.updater).run (u.applyHead m).trays with
    | error f trays =>
      refine .inr (.inl ⟨c, f, trays, rfl, ht, ?_⟩)
      rw [appendUpdate, run_bind_ok hget, hc, run_bind_ok hlift, run_bind_ok hhead,
        run_bind_error (run_onField_error ht)]
    | ok x trays =>
      refine .inr (.inr ⟨c, trays, rfl, ht, ?_⟩)
      rw [appendUpdate, run_bind_ok hget, hc, run_bind_ok hlift, run_bind_ok hhead,
        run_bind_ok (run_onField_ok ht), DictionaryBuffer.appendUpdate_ok SpoolUpdate.refines ht]
      rfl

theorem apply_of_run_appendUpdate {c : MUnitChanges}
    (h : (u.appendUpdate ops).run m = .ok c m') : u.apply ops m = m' := by
  obtain ⟨f, -, hr⟩ | ⟨c', f, trays, -, -, hr⟩ | ⟨c', trays, -, -, hr⟩ :=
    run_appendUpdate_cases ops u m
  all_goals rw [hr] at h; cases h
  rfl

theorem created_of_tryCreate {o : Option MUnit} (h : u.tryCreate ops = .ok o) :
    u.created ops = o := by
  unfold tryCreate at h
  unfold created
  split at h
  · rename_i hc
    rw [if_pos hc]
    split at h
    · rename_i c m hm
      cases h
      rw [apply_of_run_appendUpdate hm]
    · cases h
  · rename_i hc
    rw [if_neg hc]
    injection h

theorem refines : (updater ops).Refines (total ops) where
  assertKey := rfl
  diff u m o h := by
    obtain ⟨c, hc, rfl⟩ := map_eq_ok_iff.mp h
    simp only [total, changed_of_changes hc]
  tryCreate _ _ h := created_of_tryCreate h
  appendUpdate u m m' h := by
    change (discard (u.appendUpdate ops)).run m = _ at h
    cases hrun : (u.appendUpdate ops).run m with
    | ok c m'' =>
      rw [run_discard_ok hrun] at h
      cases h
      exact apply_of_run_appendUpdate hrun
    | error f m'' =>
      rw [run_discard_error hrun] at h
      cases h

/-! ### What a unit reports -/

/-- Every scalar property that is set is set to what the unit has already. -/
def Agrees (u : MUnitUpdate) (m : MUnit) : Prop :=
  u.id.Agrees m.id ∧ u.capacity.Agrees m.capacity ∧ u.model.Agrees m.model ∧
  u.capabilities.Agrees m.capabilities ∧ u.heatingConstraints.Agrees m.heatingConstraints ∧
  u.humidityPercent.Agrees m.humidityPercent ∧ u.temperatureC.Agrees m.temperatureC ∧
  u.heatingJob.Agrees m.heatingJob

theorem hasChanged_eq_false_iff :
    (u.changed ops m).hasChanged = false ↔ u.Agrees m ∧
      (u.trays.changes SpoolUpdate.total m.trays).hasChanged = false ∧
      (u.heatingSchedule.changes ops m.heatingSchedule).hasChanged = false := by
  simp only [MUnitChanges.hasChanged, changed, Bool.or_eq_false_iff, Agrees,
    ScalarChanges.hasChanged_eq_false_iff]
  tauto

theorem replay_changed (ops : HeatingScheduleOps) (u : MUnitUpdate) (m : MUnit) :
    (u.changed ops m).replay ops m = { u.apply ops m with
      trays := (u.trays.changes SpoolUpdate.total m.trays).replay SpoolChanges.replay m.trays
      heatingSchedule :=
        (u.heatingSchedule.changes ops m.heatingSchedule).replay ops m.heatingSchedule } := by
  simp only [MUnitChanges.replay, changed, ScalarChanges.replay_changes, apply]

/-- Replaying a unit's report gives what the update makes of it just when the trays and the
heating schedule do. -/
theorem same_replay_apply_iff :
    MUnit.Same ((u.changed ops m).replay ops m) (u.apply ops m) ↔
      (∀ k, ((u.trays.changes SpoolUpdate.total m.trays).replay
        SpoolChanges.replay m.trays).tryGetValue k =
          (u.trays.apply SpoolUpdate.total m.trays).tryGetValue k) ∧
      (u.heatingSchedule.changes ops m.heatingSchedule).replay ops m.heatingSchedule =
        u.heatingSchedule.apply ops m.heatingSchedule := by
  rw [replay_changed]
  exact ⟨fun h => ⟨h.trays, h.heatingSchedule⟩,
    fun h => ⟨rfl, rfl, rfl, rfl, rfl, h.1, rfl, rfl, rfl, h.2⟩⟩

/-- Replaying a unit's report changes the unit just when something is reported. -/
theorem same_replay_self_iff {β : Type*} {key : HeatingScheduleRef → β} (hops : ops.Lawful key) :
    MUnit.Same ((u.changed ops m).replay ops m) m ↔ (u.changed ops m).hasChanged = false := by
  rw [hasChanged_eq_false_iff, replay_changed]
  constructor
  · intro h
    refine ⟨?_, ?_, ?_⟩
    · simp only [Agrees, ← ScalarBuffer.apply_eq_self_iff]
      exact ⟨h.1, h.2, h.3, h.4, h.5, h.7, h.8, h.9⟩
    · by_contra hc
      rw [Bool.not_eq_false] at hc
      refine DictionaryBuffer.not_replay_same (· = ·) SpoolChanges.replay ?_ hc fun k => ?_
      · intro k u s c _ _ hdiff hs
        simp only [SpoolUpdate.total] at hdiff
        split at hdiff
        · rename_i hchanged
          cases hdiff
          rw [SpoolUpdate.hasChanged_eq_false_iff_replay.mpr hs] at hchanged
          cases hchanged
        · cases hdiff
      · have hk := h.trays k
        simp only at hk
        rw [hk]
        cases m.trays.tryGetValue k with
        | none => exact .none
        | some s => exact .some rfl
    · by_contra hc
      rw [Bool.not_eq_false] at hc
      exact SetBuffer.replay_changes_ne hops hc h.heatingSchedule
  · rintro ⟨hagrees, htrays, hschedule⟩
    rw [DictionaryChanges.eq_default_of_not_hasChanged htrays,
      SetChanges.eq_default_of_not_hasChanged hschedule]
    simp only [Agrees, ← ScalarBuffer.apply_eq_self_iff] at hagrees
    obtain ⟨h₁, h₂, h₃, h₄, h₅, h₇, h₈, h₉⟩ := hagrees
    exact ⟨h₁, h₂, h₃, h₄, h₅, fun _ => rfl, h₇, h₈, h₉, rfl⟩

theorem faithful_iff {β : Type*} {key : HeatingScheduleRef → β} (hops : ops.Lawful key) :
    (total ops).Faithful MUnit.Same (MUnitChanges.replay ops) u m ↔
      MUnit.Same ((u.changed ops m).replay ops m) (u.apply ops m) := by
  refine Updater.faithful_iff (r := (u.changed ops m).hasChanged = true)
    MUnit.same_equivalence rfl (fun h => ?_) fun h hs => ?_
  · rw [Bool.not_eq_true] at h
    exact (same_replay_self_iff hops).mpr h
  · rw [(same_replay_self_iff hops).mp hs] at h
    cases h

/-- The trays merge, and no schedule that is not there is both added and removed. -/
def Merges (ops : HeatingScheduleOps) {β : Type*} (key : HeatingScheduleRef → β) (u : MUnitUpdate)
    (m : MUnit) : Prop :=
  u.trays.TraysMerge m.trays ∧ u.heatingSchedule.Separated ops key m.heatingSchedule

/-- **A unit's report is exact, down to its trays, just when its update merges.** -/
theorem faithful_and_trays_iff {β : Type*} {key : HeatingScheduleRef → β}
    (hops : ops.Lawful key) :
    ((total ops).Faithful MUnit.Same (MUnitChanges.replay ops) u m ∧
      DictionaryDiff (· = ·) SpoolChanges.replay m.trays (u.apply ops m).trays
        (u.changed ops m).trays) ↔ u.Merges ops key m := by
  have htrays : DictionaryDiff (· = ·) SpoolChanges.replay m.trays (u.apply ops m).trays
      (u.changed ops m).trays ↔
        u.trays.TraysMerge m.trays :=
    (DictionaryBuffer.dictionaryDiff_iff fun _ => rfl).trans DictionaryBuffer.exact_iff_traysMerge
  rw [htrays, faithful_iff hops, same_replay_apply_iff, SetBuffer.replay_changes_iff hops]
  refine ⟨fun h => ⟨h.2, h.1.2⟩, fun h => ⟨⟨fun k => ?_, h.2⟩, h.1⟩⟩
  exact (htrays.mpr h.1).replay_eq DictionaryBuffer.nodup_added DictionaryBuffer.nodup_updated k

end MUnitUpdate

end Connect3Dp
