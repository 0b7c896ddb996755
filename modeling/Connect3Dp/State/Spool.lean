import Connect3Dp.Builder.DiffLaw
import Connect3Dp.Builder.Faulting
import Connect3Dp.State.Values

/-!
# Materials and trays, and their builders

A tray of a material unit is a `Spool` that holds a `Material`. Both are structs with generated
builders: the material of a tray is not updated but rebuilt by `TryCreate`, and a tray is
copied, updated and written back.

`SpoolUpdate.appendUpdate` and `SpoolUpdate.tryCreate` raise when the material was removed.
`SpoolUpdate.apply` and `SpoolUpdate.created` are what they return otherwise
(`SpoolUpdate.refines`).
-/

namespace Connect3Dp

/-! ### Materials -/

/-- `MaterialUpdate`. -/
structure MaterialUpdate where
  name : ScalarBuffer NetString
  color : ScalarBuffer MaterialColor
  fProfileIDX : ScalarBuffer NetString
  deriving DecidableEq, Inhabited

/-- `MaterialChanges`. -/
structure MaterialChanges where
  name : ScalarChanges NetString
  color : ScalarChanges MaterialColor
  fProfileIDX : ScalarChanges NetString
  deriving DecidableEq, Inhabited

namespace MaterialChanges

def hasChanged (c : MaterialChanges) : Bool :=
  c.name.hasChanged || c.color.hasChanged || c.fProfileIDX.hasChanged

def replay (c : MaterialChanges) (m : Material) : Material where
  name := c.name.replay m.name
  color := c.color.replay m.color
  fProfileIDX := c.fProfileIDX.replay m.fProfileIDX

end MaterialChanges

namespace MaterialUpdate

/-- `Changes(in Material)`. -/
def changes (u : MaterialUpdate) (m : Material) : MaterialChanges where
  name := u.name.changes m.name
  color := u.color.changes m.color
  fProfileIDX := u.fProfileIDX.changes m.fProfileIDX

/-- `AppendUpdate(ref Material, out _)`. -/
def apply (u : MaterialUpdate) (m : Material) : Material where
  name := u.name.apply m.name
  color := u.color.apply m.color
  fProfileIDX := u.fProfileIDX.apply m.fProfileIDX

def isCreatable (u : MaterialUpdate) : Bool := u.name.isSet && u.color.isSet

/-- `TryCreate`. -/
def tryCreate (u : MaterialUpdate) : Option Material :=
  if u.isCreatable then
    some (u.apply { (default : Material) with name := u.name.value, color := u.color.value })
  else none

/-- Every property that is set is set to what the material has already. -/
def Agrees (u : MaterialUpdate) (m : Material) : Prop :=
  u.name.Agrees m.name ∧ u.color.Agrees m.color ∧ u.fProfileIDX.Agrees m.fProfileIDX

/-- Rebuilding the material loses nothing: both required properties are set and the profile is
set or was `null`, or nothing is rebuilt and nothing was to be written. -/
def Merges (u : MaterialUpdate) (m : Material) : Prop :=
  if u.isCreatable then u.fProfileIDX.isSet = false → m.fProfileIDX = none else u.Agrees m

theorem apply_eq_self_iff {u : MaterialUpdate} {m : Material} : u.apply m = m ↔ u.Agrees m := by
  obtain ⟨⟩ := m
  simp only [apply, Agrees, Material.mk.injEq, ScalarBuffer.apply_eq_self_iff]

/-- **A rebuilt material is the merged material just when the rebuild loses nothing.** -/
theorem tryCreate_getD_eq_iff {u : MaterialUpdate} {m : Material} :
    u.tryCreate.getD m = u.apply m ↔ u.Merges m := by
  unfold tryCreate Merges
  split
  · rename_i h
    simp only [isCreatable, Bool.and_eq_true] at h
    simp only [Option.getD_some, apply, Material.mk.injEq, ScalarBuffer.apply_eq_apply_iff, h,
      Bool.true_eq_false, false_imp_iff, true_and]
    simp only [eq_comm]
    exact Iff.rfl
  · rw [Option.getD_none, eq_comm, apply_eq_self_iff]

theorem hasChanged_eq_false_iff {u : MaterialUpdate} {m : Material} :
    (u.changes m).hasChanged = false ↔ u.Agrees m := by
  simp only [MaterialChanges.hasChanged, changes, Bool.or_eq_false_iff, Agrees, and_assoc,
    ScalarChanges.hasChanged_eq_false_iff]

theorem replay_changes (u : MaterialUpdate) (m : Material) :
    (u.changes m).replay m = u.apply m := by
  simp only [MaterialChanges.replay, changes, ScalarChanges.replay_changes, apply]

end MaterialUpdate

/-! ### Trays -/

/-- `Spool`. -/
structure Spool where
  number : Int32
  material : Material
  gramsMaximum : Option Int32
  gramsRemaining : Option Int32
  deriving DecidableEq, Inhabited

/-- `SpoolUpdate`. -/
structure SpoolUpdate where
  number : ScalarBuffer Int32
  material : NestedBuffer MaterialUpdate
  gramsMaximum : ScalarBuffer (Option Int32)
  gramsRemaining : ScalarBuffer (Option Int32)
  deriving DecidableEq, Inhabited

/-- `SpoolChanges`. -/
structure SpoolChanges where
  number : ScalarChanges Int32
  material : Option MaterialChanges
  gramsMaximum : ScalarChanges (Option Int32)
  gramsRemaining : ScalarChanges (Option Int32)
  deriving DecidableEq, Inhabited

namespace SpoolChanges

def hasChanged (c : SpoolChanges) : Bool :=
  c.number.hasChanged || c.material.any MaterialChanges.hasChanged ||
  c.gramsMaximum.hasChanged || c.gramsRemaining.hasChanged

def replay (c : SpoolChanges) (s : Spool) : Spool where
  number := c.number.replay s.number
  material := (c.material.map (·.replay s.material)).getD s.material
  gramsMaximum := c.gramsMaximum.replay s.gramsMaximum
  gramsRemaining := c.gramsRemaining.replay s.gramsRemaining

end SpoolChanges

namespace SpoolUpdate

/-- `Changes(in Spool)`. -/
def changes (u : SpoolUpdate) (s : Spool) : SpoolChanges where
  number := u.number.changes s.number
  material := (u.material.value.map (·.changes s.material)).filter (·.hasChanged)
  gramsMaximum := u.gramsMaximum.changes s.gramsMaximum
  gramsRemaining := u.gramsRemaining.changes s.gramsRemaining

/-- The value of the buffer for a rebuilt material: a removed builder is a `null` struct. -/
def rebuildMaterial (u : SpoolUpdate) : Except Fault (Option Material) :=
  u.material.rebuild .invalidOperation fun m => .ok m.tryCreate

/-- `AppendUpdate(ref Spool, out _)`. -/
def appendUpdate (u : SpoolUpdate) (s : Spool) : Except Fault Spool := do
  let created ← u.rebuildMaterial
  return {
    number := u.number.apply s.number
    material := created.getD s.material
    gramsMaximum := u.gramsMaximum.apply s.gramsMaximum
    gramsRemaining := u.gramsRemaining.apply s.gramsRemaining }

/-- `TryCreate`. -/
def tryCreate (u : SpoolUpdate) : Except Fault (Option Spool) := do
  if !u.number.isSet then return none
  if !u.material.isSet then return none
  let some material ← u.rebuildMaterial | return none
  return some (← u.appendUpdate { (default : Spool) with number := u.number.value, material })

/-- What `appendUpdate` returns when it does not raise. -/
def apply (u : SpoolUpdate) (s : Spool) : Spool where
  number := u.number.apply s.number
  material := (u.material.created MaterialUpdate.tryCreate).getD s.material
  gramsMaximum := u.gramsMaximum.apply s.gramsMaximum
  gramsRemaining := u.gramsRemaining.apply s.gramsRemaining

/-- What `tryCreate` returns when it does not raise. -/
def created (u : SpoolUpdate) : Option Spool :=
  if u.number.isSet then
    (u.material.created MaterialUpdate.tryCreate).map fun material =>
      u.apply { (default : Spool) with number := u.number.value, material }
  else none

/-- How an entry of `MUnit.Trays` is merged. `SetNumber(kv.Key)` works on a copy of the builder,
so no key is asserted. -/
def updater : FaultingUpdater Int32 SpoolUpdate Spool SpoolChanges where
  assertKey _ u := u
  diff u s := .ok (if (u.changes s).hasChanged then some (u.changes s) else none)
  tryCreate := tryCreate
  appendUpdate u s :=
    match u.appendUpdate s with
    | .ok s' => .ok () s'
    | .error f => .error f s

/-- `updater` without its exceptions. -/
def total : Updater Int32 SpoolUpdate Spool SpoolChanges where
  assertKey _ u := u
  diff u s := if (u.changes s).hasChanged then some (u.changes s) else none
  tryCreate := created
  appendUpdate := apply

theorem created_of_rebuildMaterial {u : SpoolUpdate} {o : Option Material}
    (h : u.rebuildMaterial = .ok o) : u.material.created MaterialUpdate.tryCreate = o :=
  NestedBuffer.created_of_rebuild (fun _ _ h => by injection h) h

theorem apply_of_appendUpdate {u : SpoolUpdate} {s s' : Spool} (h : u.appendUpdate s = .ok s') :
    u.apply s = s' := by
  obtain ⟨created, hc, h⟩ := bind_eq_ok_iff.mp h
  injection h with h
  rw [← h, apply, created_of_rebuildMaterial hc]

theorem created_of_tryCreate {u : SpoolUpdate} {o : Option Spool} (h : u.tryCreate = .ok o) :
    u.created = o := by
  unfold tryCreate at h
  unfold created
  cases hn : u.number.isSet with
  | false =>
    simp only [hn] at h
    cases h
    rfl
  | true =>
    cases hm : u.material.isSet with
    | false =>
      simp only [hn, hm] at h
      cases h
      simp [NestedBuffer.created, NestedBuffer.value_eq_none_of_not_isSet hm]
    | true =>
      simp only [hn, hm, Bool.not_true, Bool.false_eq_true, if_false] at h
      obtain ⟨material, hmat, h⟩ := bind_eq_ok_iff.mp h
      rw [if_pos rfl, created_of_rebuildMaterial hmat]
      cases material with
      | none =>
        cases h
        rfl
      | some material =>
        obtain ⟨s', hs', h⟩ := bind_eq_ok_iff.mp h
        cases h
        rw [Option.map_some, apply_of_appendUpdate hs']

theorem refines : updater.Refines total where
  assertKey := rfl
  diff _ _ _ h := by injection h
  tryCreate _ _ h := created_of_tryCreate h
  appendUpdate u v v' h := by
    simp only [updater, EStateM.run] at h
    split at h
    · rename_i hs
      injection h with _ h
      rw [← h]
      exact apply_of_appendUpdate hs
    · cases h

/-! ### What a tray reports -/

/-- The tray's material, if it is to be rebuilt, loses nothing by it. -/
def Merges (u : SpoolUpdate) (s : Spool) : Prop :=
  ∀ m, u.material.value = some m → m.Merges s.material

theorem replay_changes (u : SpoolUpdate) (s : Spool) :
    (u.changes s).replay s = { u.apply s with
      material := (u.material.value.map (·.apply s.material)).getD s.material } := by
  simp only [SpoolChanges.replay, changes, ScalarChanges.replay_changes, apply, Spool.mk.injEq,
    and_true, true_and]
  cases u.material.value with
  | none => rfl
  | some m =>
    cases hc : (m.changes s.material).hasChanged with
    | true => simp [Option.filter, hc, MaterialUpdate.replay_changes]
    | false =>
      have hagrees := MaterialUpdate.hasChanged_eq_false_iff.mp hc
      simp [Option.filter, hc, MaterialUpdate.apply_eq_self_iff.mpr hagrees]

theorem replay_changes_eq_apply_iff {u : SpoolUpdate} {s : Spool} :
    (u.changes s).replay s = u.apply s ↔ u.Merges s := by
  rw [replay_changes]
  simp only [apply, Spool.mk.injEq, and_true, true_and, Merges, NestedBuffer.created]
  cases u.material.value with
  | none => simp
  | some m =>
    simp only [Option.map_some, Option.getD_some, Option.bind_some, Option.some.injEq,
      forall_eq']
    rw [eq_comm, MaterialUpdate.tryCreate_getD_eq_iff]

theorem hasChanged_eq_false_iff {u : SpoolUpdate} {s : Spool} :
    (u.changes s).hasChanged = false ↔ u.number.Agrees s.number ∧
      (∀ m, u.material.value = some m → m.Agrees s.material) ∧
      u.gramsMaximum.Agrees s.gramsMaximum ∧ u.gramsRemaining.Agrees s.gramsRemaining := by
  simp only [SpoolChanges.hasChanged, changes, Bool.or_eq_false_iff, and_assoc,
    ScalarChanges.hasChanged_eq_false_iff]
  refine and_congr_right fun _ => and_congr_left fun _ => ?_
  cases u.material.value with
  | none => simp
  | some m =>
    simp only [Option.map_some, Option.some.injEq, forall_eq',
      ← MaterialUpdate.hasChanged_eq_false_iff]
    cases hc : (m.changes s.material).hasChanged <;> simp [Option.filter, hc]

theorem hasChanged_eq_false_iff_replay {u : SpoolUpdate} {s : Spool} :
    (u.changes s).hasChanged = false ↔ (u.changes s).replay s = s := by
  rw [hasChanged_eq_false_iff, replay_changes]
  obtain ⟨⟩ := s
  simp only [apply, Spool.mk.injEq, ScalarBuffer.apply_eq_self_iff]
  refine and_congr_right fun _ => and_congr_left fun _ => ?_
  cases u.material.value with
  | none => simp
  | some m => simp [MaterialUpdate.apply_eq_self_iff]

/-- **A tray's report is exact just when its material loses nothing by being rebuilt.** -/
theorem faithful_iff {u : SpoolUpdate} {s : Spool} :
    total.Faithful (· = ·) SpoolChanges.replay u s ↔ u.Merges s := by
  rw [Updater.faithful_iff (c := u.changes s) (r := (u.changes s).hasChanged = true)
    ⟨fun _ => rfl, Eq.symm, Eq.trans⟩ rfl, ← replay_changes_eq_apply_iff]
  · rfl
  · intro h
    rw [Bool.not_eq_true] at h
    exact hasChanged_eq_false_iff_replay.mp h
  · intro h hs
    rw [hasChanged_eq_false_iff_replay.mpr hs] at h
    cases h

end SpoolUpdate

namespace DictionaryBuffer

variable {b : DictionaryBuffer Int32 SpoolUpdate} {d : Dictionary Int32 Spool}

/-- No tray that is both updated and removed has anything to report, and every other tray that is
updated loses nothing when its material is rebuilt. -/
def TraysMerge (b : DictionaryBuffer Int32 SpoolUpdate) (d : Dictionary Int32 Spool) : Prop :=
  b.Unmixed SpoolUpdate.total d ∧
    ∀ k u s, b.lookup k = some u → k ∉ b.removals → d.tryGetValue k = some s → u.Merges s

/-- **The report on the trays is exact just when the trays merge.** -/
theorem exact_iff_traysMerge :
    b.Exact (· = ·) SpoolChanges.replay SpoolUpdate.total d ↔ b.TraysMerge d := by
  rw [exact_iff]
  refine and_congr_right fun _ => forall₃_congr fun k u s => ?_
  exact imp_congr_right fun _ => imp_congr_right fun _ => imp_congr_right fun _ =>
    SpoolUpdate.faithful_iff

end DictionaryBuffer

end Connect3Dp
