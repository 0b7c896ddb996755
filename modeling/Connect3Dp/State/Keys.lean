import Connect3Dp.State.Raises

/-!
# Keys and the numbers of their entries

The values of four dictionaries of the state have a property that says which key they are stored
under. Before an entry is merged the key is written into its builder. This works for material units,
whose builder is a class. The builders of extruders, nozzles and trays are structs: what is written
into is a copy, and an entry whose number was set to something else keeps that number
(`keysAgree_appendUpdate_iff`).
-/

namespace Connect3Dp

/-! ### Structs with a number -/

section Numbers

variable {U V C : Type}

/-- The number of a struct is merged like any other property, and the key is not asserted. -/
structure Updater.HasNumber (t : Updater Int32 U V C) (buffer : U → ScalarBuffer Int32)
    (number : V → Int32) : Prop where
  assertKey : ∀ k u, t.assertKey k u = u
  appendUpdate : ∀ u v, number (t.appendUpdate u v) = (buffer u).apply (number v)
  tryCreate : ∀ u v, t.tryCreate u = some v → (buffer u).isSet = true ∧ number v = (buffer u).value

/-- An entry that changes or makes something does not set its number to anything but its key. -/
def Updater.NumberAgrees (t : Updater Int32 U V C) (buffer : U → ScalarBuffer Int32) (k : Int32)
    (u : U) (o : Option V) : Prop :=
  o.isSome = true ∨ (t.tryCreate u).isSome = true → (buffer u).Agrees k

variable {t : Updater Int32 U V C} {buffer : U → ScalarBuffer Int32} {number : V → Int32}

theorem Updater.HasNumber.merge_iff (h : t.HasNumber buffer number) {k : Int32} {u : U}
    {o : Option V} (ho : ∀ v, o = some v → number v = k) :
    (∀ v, t.merge k u o = some v → number v = k) ↔ t.NumberAgrees buffer k u o := by
  cases o with
  | some v =>
    have hk : number v = k := ho v rfl
    simp only [Updater.merge, Option.some.injEq, forall_eq', Updater.NumberAgrees,
      Option.isSome_some, true_or, true_imp_iff, h.assertKey, h.appendUpdate, hk,
      ScalarBuffer.apply_eq_self_iff]
  | none =>
    simp only [Updater.merge, Updater.NumberAgrees, Option.isSome_none, Bool.false_eq_true,
      false_or, h.assertKey]
    cases hcreate : t.tryCreate u with
    | none => simp
    | some v =>
      obtain ⟨hset, hnumber⟩ := h.tryCreate u v hcreate
      simp [ScalarBuffer.Agrees, hset, hnumber]

/-- The entries of a merge that returns. -/
def DictionaryBuffer.NumbersAgree (t : Updater Int32 U V C) (buffer : U → ScalarBuffer Int32)
    (b : DictionaryBuffer Int32 U) (d : Dictionary Int32 V) : Prop :=
  ∀ k u, b.lookup k = some u → k ∉ b.removals → t.NumberAgrees buffer k u (d.tryGetValue k)

theorem Updater.HasNumber.apply_iff (h : t.HasNumber buffer number) {b : DictionaryBuffer Int32 U}
    {d : Dictionary Int32 V} (hd : ∀ k v, d.tryGetValue k = some v → number v = k) :
    (∀ k v, (b.apply t d).tryGetValue k = some v → number v = k) ↔ b.NumbersAgree t buffer d :=
  (DictionaryBuffer.forall_apply_iff hd).trans
    (forall₄_congr fun k _ _ _ => h.merge_iff (hd k))

end Numbers

theorem MachineExtruderUpdate.hasNumber :
    updater.HasNumber MachineExtruderUpdate.number MachineExtruder.number where
  assertKey _ _ := rfl
  appendUpdate _ _ := rfl
  tryCreate u v h := by
    simp only [updater, tryCreate] at h
    split at h
    · rename_i hcreate
      cases h
      have hset : u.number.isSet = true := by simp_all
      exact ⟨hset, ScalarBuffer.apply_of_isSet hset _⟩
    · cases h

theorem MachineNozzleUpdate.hasNumber :
    updater.HasNumber MachineNozzleUpdate.number MachineNozzle.number where
  assertKey _ _ := rfl
  appendUpdate _ _ := rfl
  tryCreate u v h := by
    simp only [updater, tryCreate] at h
    split at h
    · rename_i hcreate
      cases h
      have hset : u.number.isSet = true := by simp_all
      exact ⟨hset, ScalarBuffer.apply_of_isSet hset _⟩
    · cases h

theorem SpoolUpdate.hasNumber : total.HasNumber SpoolUpdate.number Spool.number where
  assertKey _ _ := rfl
  appendUpdate _ _ := rfl
  tryCreate u v h := by
    simp only [total, created] at h
    split at h
    · rename_i hset
      obtain ⟨material, -, rfl⟩ := Option.map_eq_some_iff.mp h
      exact ⟨hset, ScalarBuffer.apply_of_isSet hset _⟩
    · cases h

/-! ### Units -/

/-- The unit says which key it is stored under, and so do its trays. -/
structure MUnit.KeysAgree (m : MUnit) (id : String) : Prop where
  id : m.id = some id
  trays : ∀ k tray, m.trays.tryGetValue k = some tray → tray.number = k

namespace MUnitUpdate

/-- The trays of an entry do not set their numbers to anything but their keys, if it changes or
makes a unit. -/
def TraysAgree (u : MUnitUpdate) (id : String) (o : Option MUnit) : Prop :=
  o.isSome = true ∨ (u.assertKey id).isCreatable = true →
    u.trays.NumbersAgree SpoolUpdate.total SpoolUpdate.number ((o.map MUnit.trays).getD ∅)

/-- The same for the trays that are merged before one raises. -/
def TraysAgreeUntilRaise (u : MUnitUpdate) (m : MUnit) : Prop :=
  StillUntil (fun p => SpoolUpdate.updater.MergeRaises p.1 p.2 (m.trays.tryGetValue p.1))
    (fun p => SpoolUpdate.total.NumberAgrees SpoolUpdate.number p.1 p.2 (m.trays.tryGetValue p.1))
    (fun _ => True) u.trays.entries

variable {ops : HeatingScheduleOps} {u : MUnitUpdate} {id : String}

/-- **What an entry makes of a unit says its key just when the trays of the entry do.** -/
theorem keysAgree_merge_iff {o : Option MUnit} (ho : ∀ m, o = some m → m.KeysAgree id) :
    (∀ m, (total ops).merge id u o = some m → m.KeysAgree id) ↔ u.TraysAgree id o := by
  have hunit : ∀ m : MUnit, (∀ k tray, m.trays.tryGetValue k = some tray → tray.number = k) →
      (((u.assertKey id).apply ops m).KeysAgree id ↔
        u.trays.NumbersAgree SpoolUpdate.total SpoolUpdate.number m.trays) := by
    intro m hm
    rw [← SpoolUpdate.hasNumber.apply_iff hm]
    exact ⟨fun h => h.trays, fun h => ⟨rfl, h⟩⟩
  cases o with
  | some m =>
    simp only [Updater.merge, Option.some.injEq, forall_eq', TraysAgree, Option.isSome_some,
      true_or, true_imp_iff, Option.map_some, Option.getD_some]
    exact hunit m (ho m rfl).trays
  | none =>
    have hcreated : (total ops).merge id u none =
        if (u.assertKey id).isCreatable then
          some ((u.assertKey id).apply ops (u.assertKey id).initializer) else none := rfl
    rw [hcreated, TraysAgree]
    by_cases hcreate : (u.assertKey id).isCreatable = true
    · simp only [hcreate, if_true, Option.some.injEq, forall_eq', or_true, true_imp_iff,
        Option.map_none, Option.getD_none]
      exact hunit _ fun _ _ h => by cases h
    · simp [hcreate]

/-- What is left of a unit at one of whose trays the merge raised. -/
theorem keysAgree_merge_error_iff {o o' : Option MUnit} {f : Fault}
    (ho : ∀ m, o = some m → m.KeysAgree id) (hentry : ¬ u.RaisesInEntry id o)
    (h : ((updater ops).merge id u).run o = .error f o') :
    (∀ m, o' = some m → m.KeysAgree id) ↔ ∀ m, o = some m → u.TraysAgreeUntilRaise m := by
  obtain ⟨m, trays, rfl, ht, rfl⟩ := trays_of_merge_error hentry h
  simp only [Option.some.injEq, forall_eq']
  have hstuck : ∀ k su f o', u.trays.lookup k = some su →
      (SpoolUpdate.updater.merge k su).run (m.trays.tryGetValue k) = .error f o' →
      ((∀ tray, o' = some tray → tray.number = k) ↔ (fun _ _ => True) k su) := by
    intro k su f o' _ herr
    rw [SpoolUpdate.eq_of_merge_error herr]
    exact iff_true_intro ((ho m rfl).trays k)
  have htrays := DictionaryBuffer.forall_appendUpdate_error_iff SpoolUpdate.refines
    (ho m rfl).trays hstuck ht
  refine Iff.trans ⟨fun h => h.trays, fun h => ⟨rfl, h⟩⟩ (htrays.trans ?_)
  exact stillUntil_congr (fun _ _ => Iff.rfl) fun p _ =>
    SpoolUpdate.hasNumber.merge_iff ((ho m rfl).trays p.1)

/-- The builder of a unit is a class: the key it is told is the one that is written. -/
theorem id_merge {o : Option MUnit} {m : MUnit} (h : (total ops).merge id u o = some m) :
    m.id = some id := by
  have hid : ∀ old : MUnit, ((u.assertKey id).apply ops old).id = some id := fun _ => rfl
  cases o with
  | some old =>
    cases h
    exact hid old
  | none =>
    have hcreated : (total ops).merge id u none =
        if (u.assertKey id).isCreatable then
          some ((u.assertKey id).apply ops (u.assertKey id).initializer) else none := rfl
    rw [hcreated] at h
    split at h
    · cases h
      exact hid _
    · cases h

theorem id_merge_error {o o' : Option MUnit} {f : Fault} (ho : ∀ m, o = some m → m.id = some id)
    (h : ((updater ops).merge id u).run o = .error f o') : ∀ m, o' = some m → m.id = some id := by
  cases o with
  | none =>
    rw [(FaultingUpdater.run_merge_none_eq_error_iff.mp h).2]
    exact ho
  | some m =>
    obtain ⟨m', hm', rfl⟩ := FaultingUpdater.run_merge_some_eq_error_iff.mp h
    change (discard ((u.assertKey id).appendUpdate ops)).run m = _ at hm'
    rw [run_discard_eq_error_iff] at hm'
    rintro _ ⟨⟩
    obtain ⟨f', -, hr⟩ | ⟨c, f', trays, -, -, hr⟩ | ⟨c, trays, -, -, hr⟩ :=
      run_appendUpdate_cases ops (u.assertKey id) m
    all_goals rw [hr] at hm'; cases hm'
    · exact ho m rfl
    · rfl

end MUnitUpdate

/-! ### The state of a machine -/

/-- Every extruder, nozzle, unit and tray says which key it is stored under. -/
structure MachineState.KeysAgree (s : MachineState) : Prop where
  extruders : ∀ k e, s.extruders.tryGetValue k = some e → e.number = k
  nozzles : ∀ k n, s.nozzles.tryGetValue k = some n → n.number = k
  materialUnits : ∀ id m, s.materialUnits.tryGetValue id = some m → m.KeysAgree id

theorem MachineState.keysAgree_default : (default : MachineState).KeysAgree := by
  refine ⟨fun _ _ h => ?_, fun _ _ h => ?_, fun _ _ h => ?_⟩
  all_goals cases h

namespace MachineStateUpdate

/-- Extruders and nozzles of the update do not set their numbers to anything but their keys. -/
structure DevicesAgree (u : MachineStateUpdate) (s : MachineState) : Prop where
  extruders : u.extruders.NumbersAgree MachineExtruderUpdate.updater MachineExtruderUpdate.number
    s.extruders
  nozzles : u.nozzles.NumbersAgree MachineNozzleUpdate.updater MachineNozzleUpdate.number s.nozzles

/-- Nor do the trays of its units. -/
def UnitsAgree (u : MachineStateUpdate) (s : MachineState) : Prop :=
  ∀ id mu, u.materialUnits.lookup id = some mu → id ∉ u.materialUnits.removals →
    mu.TraysAgree id (s.materialUnits.tryGetValue id)

/-- Nor do the trays that are merged before one raises. -/
def UnitsAgreeUntilRaise (u : MachineStateUpdate) (s : MachineState) : Prop :=
  StillUntil (fun p => ∃ m, s.materialUnits.tryGetValue p.1 = some m ∧ p.2.RaisesInTrays m.trays)
    (fun p => p.2.TraysAgree p.1 (s.materialUnits.tryGetValue p.1))
    (fun p => ∀ m, s.materialUnits.tryGetValue p.1 = some m → p.2.TraysAgreeUntilRaise m)
    u.materialUnits.entries

/-- What the update writes before it raises, or all of it, has its keys for numbers. -/
structure KeepsKeys (u : MachineStateUpdate) (s : MachineState) : Prop where
  devices : ¬ u.RaisesInChanges s → ¬ u.RaisesInJob → u.DevicesAgree s
  units : ¬ u.RaisesInChanges s → ¬ u.RaisesInJob → ¬ u.RaisesInUnits s → u.UnitsAgree s
  untilRaise : ¬ u.RaisesInChanges s → ¬ u.RaisesInJob → u.RaisesInUnits s →
    u.UnitsAgreeUntilRaise s

variable {ops : ScheduleOps} {u : MachineStateUpdate} {s s' : MachineState}

theorem devicesAgree_iff (hs : s.KeysAgree) :
    ((∀ k e, (u.extruders.apply MachineExtruderUpdate.updater s.extruders).tryGetValue k = some e →
        e.number = k) ∧
      ∀ k n, (u.nozzles.apply MachineNozzleUpdate.updater s.nozzles).tryGetValue k = some n →
        n.number = k) ↔ u.DevicesAgree s := by
  rw [MachineExtruderUpdate.hasNumber.apply_iff hs.extruders,
    MachineNozzleUpdate.hasNumber.apply_iff hs.nozzles]
  exact ⟨fun h => ⟨h.1, h.2⟩, fun h => ⟨h.extruders, h.nozzles⟩⟩

theorem unitsAgree_iff (hs : s.KeysAgree) :
    (∀ id m, (u.materialUnits.apply (MUnitUpdate.total ops.heatingSchedules)
        s.materialUnits).tryGetValue id = some m → m.KeysAgree id) ↔ u.UnitsAgree s :=
  (DictionaryBuffer.forall_apply_iff hs.materialUnits).trans
    (forall₄_congr fun id _ _ _ => MUnitUpdate.keysAgree_merge_iff (hs.materialUnits id))

theorem unitsAgreeUntilRaise_iff (hs : s.KeysAgree) (hch : ¬ u.RaisesInChanges s) {f : Fault}
    {units : Dictionary String MUnit}
    (h : (u.materialUnits.appendUpdate (MUnitUpdate.updater ops.heatingSchedules)).run
      s.materialUnits = .error f units) :
    (∀ id m, units.tryGetValue id = some m → m.KeysAgree id) ↔ u.UnitsAgreeUntilRaise s := by
  have hentry : ∀ id mu, u.materialUnits.lookup id = some mu →
      ¬ mu.RaisesInEntry id (s.materialUnits.tryGetValue id) :=
    fun id mu hmu hraises => hch ⟨id, mu, hmu, hraises⟩
  have hunits := DictionaryBuffer.forall_appendUpdate_error_iff MUnitUpdate.refines
    hs.materialUnits (fun id mu f o' hmu herr => MUnitUpdate.keysAgree_merge_error_iff
      (hs.materialUnits id) (hentry id mu hmu) herr) h
  refine hunits.trans (stillUntil_congr (fun p hp => ?_) fun p _ => ?_)
  · have hp' := DictionaryBuffer.mem_entries_iff.mp hp
    rw [MUnitUpdate.mergeRaises_iff, or_iff_right (hentry p.1 p.2 hp')]
  · exact MUnitUpdate.keysAgree_merge_iff (hs.materialUnits p.1)

/-- **Keys after an application**, whether it returns or raises. -/
theorem keysAgree_appendUpdate_iff (hs : s.KeysAgree) :
    (finalState ((u.appendUpdate ops).run s)).KeysAgree ↔ u.KeepsKeys s := by
  obtain ⟨hch, f, hr⟩ | ⟨-, hjob, f, hr⟩ | ⟨hch, hj, hraises, f, units, hm, hr⟩ |
    ⟨hch, hj, hquiet, hr⟩ := run_appendUpdate_raise_cases ops u s
  all_goals rw [hr, finalState]
  · exact iff_of_true hs ⟨fun h => absurd hch h, fun h => absurd hch h, fun h => absurd hch h⟩
  · -- The job comes before the extruders.
    exact iff_of_true ⟨hs.extruders, hs.nozzles, hs.materialUnits⟩
      ⟨fun _ h => absurd hjob h, fun _ h => absurd hjob h, fun _ h => absurd hjob h⟩
  · constructor
    · intro h
      exact ⟨fun _ _ => (devicesAgree_iff hs).mp ⟨h.extruders, h.nozzles⟩,
        fun _ _ hn => absurd hraises hn,
        fun _ _ _ => (unitsAgreeUntilRaise_iff hs hch hm).mp h.materialUnits⟩
    · intro h
      obtain ⟨hextruders, hnozzles⟩ := (devicesAgree_iff hs).mpr (h.devices hch hj)
      exact ⟨hextruders, hnozzles,
        (unitsAgreeUntilRaise_iff hs hch hm).mpr (h.untilRaise hch hj hraises)⟩
  · constructor
    · intro h
      exact ⟨fun _ _ => (devicesAgree_iff hs).mp ⟨h.extruders, h.nozzles⟩,
        fun _ _ _ => (unitsAgree_iff hs).mp h.materialUnits, fun _ _ hn => absurd hn hquiet⟩
    · intro h
      obtain ⟨hextruders, hnozzles⟩ := (devicesAgree_iff hs).mpr (h.devices hch hj)
      exact ⟨hextruders, hnozzles, (unitsAgree_iff hs).mpr (h.units hch hj hquiet)⟩

/-- The identifiers of units need no condition. -/
theorem unitIDs_appendUpdate (hs : ∀ id m, s.materialUnits.tryGetValue id = some m → m.id = some id)
    {id : String} {m : MUnit}
    (hm : (finalState ((u.appendUpdate ops).run s)).materialUnits.tryGetValue id = some m) :
    m.id = some id := by
  obtain ⟨-, f, hr⟩ | ⟨-, -, f, hr⟩ | ⟨-, -, -, f, units, herr, hr⟩ | ⟨-, -, -, hr⟩ :=
    run_appendUpdate_raise_cases ops u s
  all_goals rw [hr, finalState] at hm
  · exact hs id m hm
  · exact hs id m hm
  · have hunits := DictionaryBuffer.forall_appendUpdate_error_iff MUnitUpdate.refines hs
      (fun id mu f o' _ herr => (iff_true_intro (MUnitUpdate.id_merge_error (hs id) herr) :
        _ ↔ (fun _ _ => True) id mu)) herr
    refine hunits.mpr (stillUntil_of_forall (fun p _ m hm => ?_) fun _ _ => trivial) id m hm
    exact MUnitUpdate.id_merge hm
  · have hunits := DictionaryBuffer.forall_apply_iff (b := u.materialUnits)
      (t := MUnitUpdate.total ops.heatingSchedules) hs
    exact hunits.mpr (fun _ _ _ _ _ => MUnitUpdate.id_merge) id m hm

end MachineStateUpdate

end Connect3Dp
