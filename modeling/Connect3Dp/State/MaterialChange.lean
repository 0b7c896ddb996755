import Connect3Dp.State.Keys
import Connect3Dp.State.Setters

/-!
# Changing the material of a tray

`changeMaterial` is the update that writes a material into one tray of one unit. It passes through
three builders: the one of the unit, which is a class, the one of the tray, a struct in a
dictionary, and the one of the material, which always rebuilds. On a unit and a tray that say which
key they are stored under, the three together exchange the material and touch nothing else
(`MachineStateUpdate.materialUnits_apply_changeMaterial`), and they report the one tray if its
material is another one than before (`MachineStateUpdate.materialUnits_changed_changeMaterial`).
-/

namespace Connect3Dp

/-- Users may modify the trays inside a unit. -/
def MUCapabilities.modifyTray : MUCapabilities := 1 <<< 6

/-! ### The updates -/

/-- `m.SetName(material.Name).SetColor(material.Color).SetFProfileIDX(material.FProfileIDX)`. -/
def MaterialUpdate.setMaterial (material : Material) (u : MaterialUpdate) : MaterialUpdate where
  name := u.name.set material.name
  color := u.color.set material.color
  fProfileIDX := u.fProfileIDX.set material.fProfileIDX

def SpoolUpdate.updateMaterial (configure : MaterialUpdate → MaterialUpdate) (u : SpoolUpdate) :
    SpoolUpdate :=
  { u with material := u.material.update configure }

/-- `mu.UpdateTrays(slot, t => t.UpdateMaterial(...))`. -/
def MUnitUpdate.changeMaterial (slot : Int32) (material : Material) (u : MUnitUpdate) :
    MUnitUpdate :=
  u.updateTrays slot (·.updateMaterial (·.setMaterial material))

/-- The update of `Invoke_ChangeMaterial`. -/
def MachineStateUpdate.changeMaterial (unitID : String) (slot : Int32) (material : Material)
    (u : MachineStateUpdate) : MachineStateUpdate :=
  u.updateMaterialUnits unitID (·.changeMaterial slot material)

/-! ### A buffer with one entry -/

namespace DictionaryBuffer

variable {K U V C : Type*} [DecidableEq K] {k : K} {fresh : U} {configure : U → U}

/-- A buffer with one entry merges that entry. -/
theorem apply_update_default (t : Updater K U V C) (d : Dictionary K V) :
    ((default : DictionaryBuffer K U).update k fresh configure).apply t d =
      d.assign k (t.merge k (configure fresh) (d.tryGetValue k)) := rfl

/-- A buffer with one entry reports that entry. -/
theorem changes_update_default (t : Updater K U V C) (d : Dictionary K V) :
    ((default : DictionaryBuffer K U).update k fresh configure).changes t d =
      .ofReports [(k, t.report k (configure fresh) (d.tryGetValue k))] [] := rfl

end DictionaryBuffer

/-! ### The tray -/

/-- The tray that holds the material afterwards: the one that was there, or a new one. -/
def Spool.withMaterial (slot : Int32) (material : Material) : Option Spool → Spool
  | some tray => { tray with material }
  | none => ⟨slot, material, none, none⟩

@[simp]
theorem Spool.withMaterial_material (slot : Int32) (material : Material) (o : Option Spool) :
    (Spool.withMaterial slot material o).material = material := by
  cases o <;> rfl

namespace SpoolUpdate

/-- The builder of the tray. -/
def changeMaterial (slot : Int32) (material : Material) : SpoolUpdate :=
  ((default : SpoolUpdate).setNumber slot).updateMaterial (·.setMaterial material)

variable {slot : Int32} {material : Material}

theorem apply_changeMaterial {tray : Spool} (h : tray.number = slot) :
    (changeMaterial slot material).apply tray = { tray with material } := by
  rw [← h]
  rfl

theorem agrees_setMaterial_iff {m : Material} :
    ((default : MaterialUpdate).setMaterial material).Agrees m ↔ m = material := by
  obtain ⟨name, color, profile⟩ := m
  obtain ⟨name', color', profile'⟩ := material
  simp [MaterialUpdate.Agrees, ScalarBuffer.Agrees, MaterialUpdate.setMaterial, ScalarBuffer.set,
    eq_comm]

/-- Of a tray that says its key, the material is all that can be reported, and it is if it is
another one. -/
theorem diff_changeMaterial {tray : Spool} (h : tray.number = slot) :
    total.diff (changeMaterial slot material) tray =
      if tray.material = material then none
      else some { (default : SpoolChanges) with
        material := some (((default : MaterialUpdate).setMaterial material).changes
          tray.material) } := by
  have hnumber : (changeMaterial slot material).number.changes tray.number = default := by
    rw [h, ScalarBuffer.changes]
    exact if_neg (by simp [changeMaterial, setNumber, updateMaterial, ScalarBuffer.set])
  have hchanges : (changeMaterial slot material).changes tray = { (default : SpoolChanges) with
      number := (changeMaterial slot material).number.changes tray.number
      material := (some (((default : MaterialUpdate).setMaterial material).changes
        tray.material)).filter (·.hasChanged) } := rfl
  have hagrees : ((default : MaterialUpdate).setMaterial material).Agrees tray.material ↔
      tray.material = material := agrees_setMaterial_iff
  have hchanged := MaterialUpdate.hasChanged_eq_false_iff.trans hagrees
  simp only [total, hchanges, hnumber, Option.filter_some]
  by_cases heq : tray.material = material
  · rw [hchanged.mpr heq, if_pos heq]
    rfl
  · have htrue := (Bool.not_eq_false _).mp (mt hchanged.mp heq)
    rw [htrue, if_neg heq]
    simp [SpoolChanges.hasChanged, htrue]
    rfl

end SpoolUpdate

/-! ### The unit -/

/-- The unit with the material in the slot. -/
def MUnit.withMaterial (slot : Int32) (material : Material) (m : MUnit) : MUnit :=
  { m with
    trays := m.trays.set slot (Spool.withMaterial slot material (m.trays.tryGetValue slot)) }

/-- What is reported of the trays: a new one, one whose material is another one than before, or
nothing. -/
def trayReport (slot : Int32) (material : Material) :
    Option Spool → DictionaryChanges Int32 Spool SpoolChanges
  | none => ⟨[(slot, ⟨slot, material, none, none⟩)], [], []⟩
  | some tray =>
    if tray.material = material then default
    else ⟨[], [], [(slot, { (default : SpoolChanges) with
      material := some (((default : MaterialUpdate).setMaterial material).changes
        tray.material) })]⟩

/-- What is reported of the units. -/
def unitReport (unitID : String) (trays : DictionaryChanges Int32 Spool SpoolChanges) :
    DictionaryChanges String MUnit MUnitChanges :=
  if trays.hasChanged then ⟨[], [], [(unitID, { (default : MUnitChanges) with trays })]⟩
  else default

namespace MUnitUpdate

variable {ops : HeatingScheduleOps} {unitID : String} {slot : Int32} {material : Material}
  {m : MUnit}

/-- The builder of the unit. -/
def materialChange (unitID : String) (slot : Int32) (material : Material) : MUnitUpdate :=
  (assertKey unitID default).changeMaterial slot material

theorem merge_changeMaterial {o : Option Spool} (ho : ∀ tray, o = some tray → tray.number = slot) :
    SpoolUpdate.total.merge slot (SpoolUpdate.changeMaterial slot material) o =
      some (Spool.withMaterial slot material o) := by
  cases o with
  | none => rfl
  | some tray => exact congrArg some (SpoolUpdate.apply_changeMaterial (ho tray rfl))

theorem apply_materialChange (hm : m.KeysAgree unitID) :
    (materialChange unitID slot material).apply ops m = m.withMaterial slot material := by
  have hid : (materialChange unitID slot material).id.apply m.id = m.id := hm.id.symm
  have htrays : (materialChange unitID slot material).trays.apply SpoolUpdate.total m.trays =
      m.trays.set slot (Spool.withMaterial slot material (m.trays.tryGetValue slot)) := by
    refine (DictionaryBuffer.apply_update_default SpoolUpdate.total m.trays).trans ?_
    exact congrArg (m.trays.assign slot) (merge_changeMaterial (hm.trays slot))
  rw [apply, hid, htrays]
  rfl

theorem changes_trays_materialChange (hm : m.KeysAgree unitID) :
    (materialChange unitID slot material).trays.changes SpoolUpdate.total m.trays =
      trayReport slot material (m.trays.tryGetValue slot) := by
  refine (DictionaryBuffer.changes_update_default SpoolUpdate.total m.trays).trans ?_
  cases htray : m.trays.tryGetValue slot with
  | none => rfl
  | some tray =>
    have hreport : SpoolUpdate.total.report slot (SpoolUpdate.changeMaterial slot material)
        (some tray) = _ :=
      congrArg (Option.map Sum.inr) (SpoolUpdate.diff_changeMaterial (hm.trays slot tray htray))
    refine (congrArg (fun r => DictionaryChanges.ofReports [(slot, r)] []) hreport).trans ?_
    rw [trayReport]
    split <;> rfl

theorem changed_materialChange (hm : m.KeysAgree unitID) :
    (materialChange unitID slot material).changed ops m =
      { (default : MUnitChanges) with
        trays := trayReport slot material (m.trays.tryGetValue slot) } := by
  have hid : (materialChange unitID slot material).id.changes m.id = default := by
    rw [hm.id, ScalarBuffer.changes]
    exact if_neg (by simp [materialChange, changeMaterial, updateTrays, assertKey,
      ScalarBuffer.set])
  rw [changed, hid, changes_trays_materialChange hm]
  rfl

end MUnitUpdate

/-! ### The state -/

namespace MachineStateUpdate

variable {ops : ScheduleOps} {s : MachineState} {unitID : String} {slot : Int32}
  {material : Material} {m : MUnit}

/-- **The unit exchanges the material of the tray**, and no other unit is touched. -/
theorem materialUnits_apply_changeMaterial
    (hm : s.materialUnits.tryGetValue unitID = some m) (hkeys : m.KeysAgree unitID) :
    (((default : MachineStateUpdate).changeMaterial unitID slot material).apply ops
      s).materialUnits = s.materialUnits.set unitID (m.withMaterial slot material) := by
  refine (DictionaryBuffer.apply_update_default (MUnitUpdate.total ops.heatingSchedules)
    s.materialUnits).trans ?_
  rw [hm]
  exact congrArg (s.materialUnits.set unitID) (MUnitUpdate.apply_materialChange hkeys)

/-- **The tray is reported** if its material is another one than before, and nothing else of the
units is. -/
theorem materialUnits_changed_changeMaterial
    (hm : s.materialUnits.tryGetValue unitID = some m) (hkeys : m.KeysAgree unitID) :
    (((default : MachineStateUpdate).changeMaterial unitID slot material).changed ops
      s).materialUnits =
        unitReport unitID (trayReport slot material (m.trays.tryGetValue slot)) := by
  refine (DictionaryBuffer.changes_update_default (MUnitUpdate.total ops.heatingSchedules)
    s.materialUnits).trans ?_
  have hdiff : (MUnitUpdate.total ops.heatingSchedules).report unitID
      (MUnitUpdate.materialChange unitID slot material) (some m) =
        (if ({ (default : MUnitChanges) with
            trays := trayReport slot material (m.trays.tryGetValue slot) }).hasChanged then
          some { (default : MUnitChanges) with
            trays := trayReport slot material (m.trays.tryGetValue slot) }
        else none).map .inr := by
    have hunit : (MUnitUpdate.materialChange unitID slot material).changed ops.heatingSchedules m =
        { (default : MUnitChanges) with
          trays := trayReport slot material (m.trays.tryGetValue slot) } :=
      MUnitUpdate.changed_materialChange hkeys
    rw [← hunit]
    rfl
  rw [hm]
  refine (congrArg (fun r => DictionaryChanges.ofReports [(unitID, r)] []) hdiff).trans ?_
  have hchanged : ∀ trays : DictionaryChanges Int32 Spool SpoolChanges,
      ({ (default : MUnitChanges) with trays }).hasChanged = trays.hasChanged := by
    intro trays
    change (false || trays.hasChanged || false || false || false || false) = _
    simp only [Bool.false_or, Bool.or_false]
  rw [hchanged, unitReport]
  split <;> rfl

end MachineStateUpdate

end Connect3Dp
