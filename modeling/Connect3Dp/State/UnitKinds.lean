import Connect3Dp.State.Keys
import Connect3Dp.State.Setters

/-!
# What a unit is

Some properties of a unit say what it is, its model and what the model can do; the others say what
is in it and how it is. An update that says what a unit is says it whole, or it says nothing about
it (`MUnitUpdate.SaysKind`). Then every unit of the state is of a kind that was said of its key
(`MachineStateUpdate.kinds_appendUpdate`), whether the update is applied or raises on the way.
-/

namespace Connect3Dp

/-- What a unit is. -/
structure MUnitKind where
  capacity : Int32
  model : NetString
  capabilities : MUCapabilities
  heatingConstraints : Option HeatingConstraints

def MUnit.kind (m : MUnit) : MUnitKind :=
  ⟨m.capacity, m.model, m.capabilities, m.heatingConstraints⟩

namespace MUnitUpdate

/-- Nothing is said of what the unit is. -/
structure LeavesKind (u : MUnitUpdate) : Prop where
  capacity : u.capacity.isSet = false
  model : u.model.isSet = false
  capabilities : u.capabilities.isSet = false
  heatingConstraints : u.heatingConstraints.isSet = false

/-- The whole of what the unit is. -/
structure SetsKind (u : MUnitUpdate) (kind : MUnitKind) : Prop where
  capacity : u.capacity = ⟨kind.capacity, true⟩
  model : u.model = ⟨kind.model, true⟩
  capabilities : u.capabilities = ⟨kind.capabilities, true⟩
  heatingConstraints : u.heatingConstraints = ⟨kind.heatingConstraints, true⟩

/-- Nothing, or that the unit is of a kind that it can be of. -/
def SaysKind (u : MUnitUpdate) (isKind : MUnitKind → Prop) : Prop :=
  u.LeavesKind ∨ ∃ kind, isKind kind ∧ u.SetsKind kind

variable {ops : HeatingScheduleOps} {u u' : MUnitUpdate} {m : MUnit} {kind : MUnitKind}
  {isKind : MUnitKind → Prop} {id : String}

/-- The kind of a unit depends on four properties of the update. -/
theorem SaysKind.congr (h : u.SaysKind isKind) (hcapacity : u'.capacity = u.capacity)
    (hmodel : u'.model = u.model) (hcapabilities : u'.capabilities = u.capabilities)
    (hconstraints : u'.heatingConstraints = u.heatingConstraints) : u'.SaysKind isKind := by
  obtain h | ⟨kind, hkind, h⟩ := h
  · refine .inl ⟨?_, ?_, ?_, ?_⟩
    · exact hcapacity ▸ h.capacity
    · exact hmodel ▸ h.model
    · exact hcapabilities ▸ h.capabilities
    · exact hconstraints ▸ h.heatingConstraints
  · exact .inr ⟨kind, hkind, hcapacity.trans h.capacity, hmodel.trans h.model,
      hcapabilities.trans h.capabilities, hconstraints.trans h.heatingConstraints⟩

theorem kind_apply (ops : HeatingScheduleOps) (u : MUnitUpdate) (m : MUnit) :
    (u.apply ops m).kind = ⟨u.capacity.apply m.capacity, u.model.apply m.model,
      u.capabilities.apply m.capabilities, u.heatingConstraints.apply m.heatingConstraints⟩ := rfl

/-- A unit that is there stays of its kind, or becomes of the one that is said. -/
theorem SaysKind.apply_kind (h : u.SaysKind isKind) (hm : isKind m.kind) :
    isKind ⟨u.capacity.apply m.capacity, u.model.apply m.model,
      u.capabilities.apply m.capabilities, u.heatingConstraints.apply m.heatingConstraints⟩ := by
  obtain h | ⟨kind, hkind, h⟩ := h
  · rw [ScalarBuffer.apply_of_not_isSet h.capacity, ScalarBuffer.apply_of_not_isSet h.model,
      ScalarBuffer.apply_of_not_isSet h.capabilities,
      ScalarBuffer.apply_of_not_isSet h.heatingConstraints]
    exact hm
  · rw [h.capacity, h.model, h.capabilities, h.heatingConstraints]
    exact hkind

/-- A unit cannot be made without its kind. -/
theorem SaysKind.of_isCreatable (h : u.SaysKind isKind) (hcreate : u.isCreatable = true)
    (m : MUnit) : isKind (u.apply ops m).kind := by
  obtain h | ⟨kind, hkind, h⟩ := h
  · rw [isCreatable, h.capacity, Bool.and_false, Bool.false_and] at hcreate
    cases hcreate
  · rw [kind_apply, h.capacity, h.model, h.capabilities, h.heatingConstraints]
    exact hkind

theorem kind_merge {o : Option MUnit} (hu : u.SaysKind isKind)
    (ho : ∀ m, o = some m → isKind m.kind) (h : (total ops).merge id u o = some m) :
    isKind m.kind := by
  have hassert : (u.assertKey id).SaysKind isKind := hu.congr rfl rfl rfl rfl
  cases o with
  | some old =>
    cases h
    exact hassert.apply_kind (ho old rfl)
  | none =>
    have hcreated : (total ops).merge id u none =
        if (u.assertKey id).isCreatable then
          some ((u.assertKey id).apply ops (u.assertKey id).initializer) else none := rfl
    rw [hcreated] at h
    split at h
    · rename_i hcreate
      cases h
      exact hassert.of_isCreatable hcreate _
    · cases h

theorem kind_merge_error {o o' : Option MUnit} {f : Fault} (hu : u.SaysKind isKind)
    (ho : ∀ m, o = some m → isKind m.kind)
    (h : ((updater ops).merge id u).run o = .error f o') : ∀ m, o' = some m → isKind m.kind := by
  have hassert : (u.assertKey id).SaysKind isKind := hu.congr rfl rfl rfl rfl
  cases o with
  | none =>
    rw [(FaultingUpdater.run_merge_none_eq_error_iff.mp h).2]
    exact ho
  | some m =>
    obtain ⟨m', hm', rfl⟩ := FaultingUpdater.run_merge_some_eq_error_iff.mp h
    change (discard ((u.assertKey id).appendUpdate ops)).run m = _ at hm'
    rw [run_discard_eq_error_iff] at hm'
    rintro _ ⟨⟩
    obtain ⟨f', -, hr⟩ | ⟨c, f', trays, -, -, hr⟩ | ⟨c, trays, -, -, hr⟩ :=
      run_appendUpdate_cases ops (u.assertKey id) m
    all_goals rw [hr] at hm'; cases hm'
    · exact ho m rfl
    · -- A tray raised, and the properties before the trays are written.
      exact hassert.apply_kind (ho m rfl)

end MUnitUpdate

namespace MachineStateUpdate

/-- Every unit of the update is said to be of a kind that it can be of, or nothing is said. -/
def SaysKinds (isKind : String → MUnitKind → Prop) (u : MachineStateUpdate) : Prop :=
  ∀ id mu, u.materialUnits.lookup id = some mu → mu.SaysKind (isKind id)

variable {isKind : String → MUnitKind → Prop} {ops : ScheduleOps} {u : MachineStateUpdate}
  {s : MachineState}

theorem saysKinds_of_eq {u' : MachineStateUpdate} (hu : u.SaysKinds isKind)
    (h : u'.materialUnits = u.materialUnits) : u'.SaysKinds isKind := by
  intro id mu hmu
  exact hu id mu (h ▸ hmu)

/-- The builder of a unit is changed, or a fresh one is. -/
theorem SaysKinds.updateMaterialUnits (hu : u.SaysKinds isKind) {unitID : String}
    {configure : MUnitUpdate → MUnitUpdate}
    (hconfigure : ∀ mu : MUnitUpdate, mu.SaysKind (isKind unitID) →
      (configure mu).SaysKind (isKind unitID)) :
    (u.updateMaterialUnits unitID configure).SaysKinds isKind := by
  intro id mu hmu
  have hlookup : (u.materialUnits.update unitID (MUnitUpdate.assertKey unitID default)
      configure).lookup id = some mu := hmu
  rw [DictionaryBuffer.lookup_update] at hlookup
  split at hlookup
  · rename_i hid
    cases hlookup
    rw [hid]
    refine hconfigure _ ?_
    cases hold : u.materialUnits.lookup unitID with
    | none => exact .inl ⟨rfl, rfl, rfl, rfl⟩
    | some old => exact hu unitID old hold
  · exact hu id mu hlookup

/-- **Every unit is of a kind that it can be of**, after an update that says no other. -/
theorem kinds_appendUpdate (hu : u.SaysKinds isKind)
    (hs : ∀ id m, s.materialUnits.tryGetValue id = some m → isKind id m.kind) {id : String}
    {m : MUnit}
    (hm : (finalState ((u.appendUpdate ops).run s)).materialUnits.tryGetValue id = some m) :
    isKind id m.kind := by
  obtain ⟨-, f, hr⟩ | ⟨-, -, f, hr⟩ | ⟨-, -, -, f, units, herr, hr⟩ | ⟨-, -, -, hr⟩ :=
    run_appendUpdate_raise_cases ops u s
  all_goals rw [hr, finalState] at hm
  · exact hs id m hm
  · exact hs id m hm
  · have hunits := DictionaryBuffer.forall_appendUpdate_error_iff MUnitUpdate.refines hs
      (fun id mu f o' hmu herr => (iff_true_intro
        (MUnitUpdate.kind_merge_error (hu id mu hmu) (hs id) herr) : _ ↔ (fun _ _ => True) id mu))
      herr
    refine hunits.mpr (stillUntil_of_forall (fun p hp m hm => ?_) fun _ _ => trivial) id m hm
    exact MUnitUpdate.kind_merge (hu p.1 p.2 (DictionaryBuffer.mem_entries_iff.mp hp)) (hs p.1) hm
  · have hunits := DictionaryBuffer.forall_apply_iff (b := u.materialUnits)
      (t := MUnitUpdate.total ops.heatingSchedules) hs
    exact hunits.mpr (fun id mu hmu _ _ => MUnitUpdate.kind_merge (hu id mu hmu) (hs id)) id m hm

end MachineStateUpdate

end Connect3Dp
