import Connect3Dp.State.MachineState

/-!
# What a report has to flag

A report *flags* the change from one value to another when everything that differs between them
is flagged in it, down to the fields of the values with builders of their own
(`MachineStateChanges.Flags`). It may flag more.

What the application of an update writes, its report flags; what escapes the report is what
`TryCreate` drops when it rebuilds a job or the material of a tray.
`MachineStateUpdate.DropsNothing` is the condition that it drops nothing (`flags_changed_iff`).
-/

namespace Connect3Dp

/-! ### Values, sets and dictionaries -/

namespace ScalarChanges

variable {α : Type*} {c : ScalarChanges α} {old new : α}

def Flags (c : ScalarChanges α) (old new : α) : Prop := old ≠ new → c.hasChanged = true

theorem flags_refl (c : ScalarChanges α) (v : α) : c.Flags v v := fun h => absurd rfl h

theorem Flags.eq (h : c.Flags old new) (hc : c.hasChanged = false) : old = new := by
  by_contra hne
  rw [h hne] at hc
  cases hc

variable [DecidableEq α] {b : ScalarBuffer α}

theorem eq_default_of_not_hasChanged (h : (b.changes old).hasChanged = false) :
    b.changes old = default := by
  unfold ScalarBuffer.changes at h ⊢
  split at h
  · cases h
  · rename_i hb
    rw [if_neg hb]
    rfl

/-- What a buffer writes, its report flags. -/
theorem flags_changes : (b.changes old).Flags old (b.apply old) := by
  intro hne
  by_contra hc
  rw [Bool.not_eq_true, hasChanged_eq_false_iff, ← ScalarBuffer.apply_eq_self_iff] at hc
  exact hne hc.symm

/-- A buffer that is not set flags nothing. -/
theorem flags_changes_of_not_isSet (h : b.isSet = false) :
    (b.changes old).Flags old new ↔ old = new := by
  have hc : (b.changes old).hasChanged = false := by
    rw [hasChanged_eq_false_iff, ScalarBuffer.Agrees, h]
    intro hset
    cases hset
  exact ⟨fun hf => hf.eq hc, fun he => he ▸ flags_refl _ _⟩

/-- What a buffer writes into another value is flagged, if it is set or nothing differs. -/
theorem flags_changes_apply_iff {other : α} :
    (b.changes old).Flags old (b.apply other) ↔ (b.isSet = false → old = other) := by
  cases h : b.isSet with
  | true =>
    rw [ScalarBuffer.apply_of_isSet h, ← ScalarBuffer.apply_of_isSet h old]
    exact ⟨fun _ => nofun, fun _ => flags_changes⟩
  | false =>
    rw [flags_changes_of_not_isSet h, ScalarBuffer.apply_of_not_isSet h]
    exact ⟨fun he _ => he, fun he => he rfl⟩

end ScalarChanges

namespace SetChanges

variable {S α β : Type*}

def Flags (c : SetChanges α) (s s' : S) : Prop := s ≠ s' → c.hasChanged = true

theorem Flags.eq {c : SetChanges α} {s s' : S} (h : c.Flags s s') (hc : c.hasChanged = false) :
    s = s' := by
  by_contra hne
  rw [h hne] at hc
  cases hc

theorem flags_changes {ops : HashSetOps S α} {key : α → β} (hops : ops.Lawful key)
    {b : SetBuffer S} {s : S} : (b.changes ops s).Flags s (b.apply ops s) := by
  intro hne
  by_contra hc
  rw [Bool.not_eq_true] at hc
  exact hne (SetBuffer.apply_eq_self hops hc).symm

end SetChanges

/-- Every key that came is listed as added and every key that went as removed. A key whose value
is not the `same` is listed as updated, and its change record flags the change of the value. -/
structure DictionaryChanges.Flags {K V C : Type*} [DecidableEq K] (same : V → V → Prop)
    (flags : C → V → V → Prop) (c : DictionaryChanges K V C) (d d' : Dictionary K V) : Prop where
  added : ∀ k v', d.tryGetValue k = none → d'.tryGetValue k = some v' → (k, v') ∈ c.added
  removed : ∀ k v, d.tryGetValue k = some v → d'.tryGetValue k = none → k ∈ c.removed
  updated : ∀ k v v', d.tryGetValue k = some v → d'.tryGetValue k = some v' → ¬ same v v' →
    ∃ e, (k, e) ∈ c.updated ∧ flags e v v'

section Dictionaries

variable {K U V C : Type*} [DecidableEq K] {same : V → V → Prop} {flags : C → V → V → Prop}
  {t : Updater K U V C} {b : DictionaryBuffer K U} {d d' : Dictionary K V}

/-- An entry flags what it does to an existing value. -/
def Updater.FlagsUpdate (same : V → V → Prop) (flags : C → V → V → Prop) (t : Updater K U V C)
    (u : U) (v : V) : Prop :=
  ¬ same v (t.appendUpdate u v) → ∃ e, t.diff u v = some e ∧ flags e v (t.appendUpdate u v)

omit [DecidableEq K] in
/-- For an entry with a change record, flagging means that the record flags the change. -/
theorem Updater.flagsUpdate_iff {u : U} {v : V} {c : C} {changed : Bool}
    (hdiff : t.diff u v = if changed then some c else none)
    (hquiet : changed = false → flags c v (t.appendUpdate u v) → same v (t.appendUpdate u v))
    (hsame : same v (t.appendUpdate u v) → flags c v (t.appendUpdate u v)) :
    t.FlagsUpdate same flags u v ↔ flags c v (t.appendUpdate u v) := by
  rw [Updater.FlagsUpdate, hdiff]
  constructor
  · intro h
    by_cases hs : same v (t.appendUpdate u v)
    · exact hsame hs
    · obtain ⟨e, he, hf⟩ := h hs
      split at he
      · cases he
        exact hf
      · cases he
  · intro hf hs
    cases hc : changed with
    | true => exact ⟨c, rfl, hf⟩
    | false => exact absurd (hquiet hc hf) hs

/-- **A dictionary's report flags every change just when its entries do.** -/
theorem DictionaryBuffer.flags_changes_iff (hsame : ∀ v, same v v) :
    (b.changes t d).Flags same flags d (b.apply t d) ↔
      ∀ k u v, b.lookup k = some u → k ∉ b.removals → d.tryGetValue k = some v →
        t.FlagsUpdate same flags (t.assertKey k u) v := by
  constructor
  · intro h k u v hu hk hv hne
    have happly : (b.apply t d).tryGetValue k = some (t.appendUpdate (t.assertKey k u) v) := by
      rw [tryGetValue_apply, if_neg hk, hu, hv]
      rfl
    obtain ⟨e, he, hf⟩ := h.updated k v _ hv happly hne
    obtain ⟨u', v', hu', hv', hdiff⟩ := mem_updated_iff.mp he
    rw [hu] at hu'
    cases hu'
    rw [hv] at hv'
    cases hv'
    exact ⟨e, hdiff, hf⟩
  · intro h
    constructor
    -- additions and removals are always reported; only updates can be silent
    · intro k v' hd hd'
      rw [tryGetValue_apply, hd] at hd'
      split at hd'
      · cases hd'
      · split at hd'
        · rename_i u hu
          exact mem_added_iff.mpr ⟨u, hu, hd, hd'⟩
        · cases hd'
    · intro k v hd hd'
      rw [tryGetValue_apply, hd] at hd'
      split at hd'
      · rename_i hk
        exact mem_removed_iff.mpr ⟨hk, v, hd⟩
      · split at hd'
        · cases hd'
        · cases hd'
    · intro k v v' hd hd' hne
      rw [tryGetValue_apply, hd] at hd'
      split at hd'
      · cases hd'
      · rename_i hk
        split at hd'
        · rename_i u hu
          cases hd'
          obtain ⟨e, he, hf⟩ := h k u v hu hk hd hne
          exact ⟨e, mem_updated_iff.mpr ⟨u, v, hu, hd, he⟩, hf⟩
        · cases hd'
          exact absurd (hsame v) hne

/-- A dictionary of plain values: the update is the new value. -/
theorem flags_value [DecidableEq V] (b : DictionaryBuffer K V) (d : Dictionary K V) :
    (b.changes (.value K V) d).Flags (· = ·) (fun new _ v' => new = v') d
      (b.apply (.value K V) d) := by
  refine (DictionaryBuffer.flags_changes_iff fun _ => rfl).mpr fun k u v _ _ _ hne => ?_
  exact ⟨u, if_neg hne, rfl⟩

theorem DictionaryChanges.flags_refl (hsame : ∀ v, same v v)
    (c : DictionaryChanges K V C) (d : Dictionary K V) : c.Flags same flags d d := by
  refine ⟨fun k v' hk hk' => ?_, fun k v hk hk' => ?_, fun k v v' hk hk' hne => ?_⟩
  all_goals rw [hk] at hk'; cases hk'
  exact absurd (hsame v) hne

/-- A dictionary that flags a change but reports nothing has the same values. -/
theorem DictionaryChanges.Flags.rel {c : DictionaryChanges K V C}
    (h : c.Flags same flags d d') (hc : c.hasChanged = false) (k : K) :
    Option.Rel same (d.tryGetValue k) (d'.tryGetValue k) := by
  have hempty := DictionaryChanges.eq_default_of_not_hasChanged hc
  subst hempty
  cases hd : d.tryGetValue k with
  | none =>
    cases hd' : d'.tryGetValue k with
    | none => exact .none
    | some v' => cases h.added k v' hd hd'
  | some v =>
    cases hd' : d'.tryGetValue k with
    | none => cases h.removed k v hd hd'
    | some v' =>
      refine .some ?_
      by_contra hne
      obtain ⟨e, he, -⟩ := h.updated k v v' hd hd' hne
      cases he

end Dictionaries

/-! ### Extruders, nozzles and notifications -/

structure MachineExtruderChanges.Flags (c : MachineExtruderChanges) (e e' : MachineExtruder) :
    Prop where
  number : c.number.Flags e.number e'.number
  heatingConstraint : c.heatingConstraint.Flags e.heatingConstraint e'.heatingConstraint
  tempC : c.tempC.Flags e.tempC e'.tempC
  targetTempC : c.targetTempC.Flags e.targetTempC e'.targetTempC
  nozzleNumber : c.nozzleNumber.Flags e.nozzleNumber e'.nozzleNumber
  loadedSpool : c.loadedSpool.Flags e.loadedSpool e'.loadedSpool

structure MachineNozzleChanges.Flags (c : MachineNozzleChanges) (n n' : MachineNozzle) :
    Prop where
  number : c.number.Flags n.number n'.number
  diameter : c.diameter.Flags n.diameter n'.diameter

/-- The time a notification was issued has no flag. -/
structure NotificationChanges.Flags (c : NotificationChanges) (n n' : Notification) : Prop where
  message : c.message.Flags n.message n'.message
  issuedAt : n.issuedAt = n'.issuedAt
  lastSeenAt : c.lastSeenAt.Flags n.lastSeenAt n'.lastSeenAt

theorem MachineExtruderUpdate.flagsUpdate (u : MachineExtruderUpdate) (e : MachineExtruder) :
    updater.FlagsUpdate (· = ·) MachineExtruderChanges.Flags u e := by
  have hf : (u.changes e).Flags e (u.apply e) :=
    ⟨ScalarChanges.flags_changes, ScalarChanges.flags_changes, ScalarChanges.flags_changes,
      ScalarChanges.flags_changes, ScalarChanges.flags_changes, ScalarChanges.flags_changes⟩
  exact (Updater.flagsUpdate_iff rfl (fun hc _ => (hasChanged_eq_false_iff.mp hc).symm)
    fun _ => hf).mpr hf

theorem MachineNozzleUpdate.flagsUpdate (u : MachineNozzleUpdate) (n : MachineNozzle) :
    updater.FlagsUpdate (· = ·) MachineNozzleChanges.Flags u n := by
  have hf : (u.changes n).Flags n (u.apply n) :=
    ⟨ScalarChanges.flags_changes, ScalarChanges.flags_changes⟩
  exact (Updater.flagsUpdate_iff rfl (fun hc _ => (hasChanged_eq_false_iff.mp hc).symm)
    fun _ => hf).mpr hf

theorem NotificationUpdate.flagsUpdate (u : NotificationUpdate) (n : Notification) :
    updater.FlagsUpdate (· = ·) NotificationChanges.Flags u n := by
  have hf : (u.changes n).Flags n (u.apply n) :=
    ⟨ScalarChanges.flags_changes, rfl, ScalarChanges.flags_changes⟩
  exact (Updater.flagsUpdate_iff rfl (fun hc _ => (hasChanged_eq_false_iff.mp hc).symm)
    fun _ => hf).mpr hf

/-! ### Trays and units -/

structure MaterialChanges.Flags (c : MaterialChanges) (m m' : Material) : Prop where
  name : c.name.Flags m.name m'.name
  color : c.color.Flags m.color m'.color
  fProfileIDX : c.fProfileIDX.Flags m.fProfileIDX m'.fProfileIDX

structure SpoolChanges.Flags (c : SpoolChanges) (s s' : Spool) : Prop where
  number : c.number.Flags s.number s'.number
  material : (c.material.getD default).Flags s.material s'.material
  gramsMaximum : c.gramsMaximum.Flags s.gramsMaximum s'.gramsMaximum
  gramsRemaining : c.gramsRemaining.Flags s.gramsRemaining s'.gramsRemaining

structure MUnitChanges.Flags (c : MUnitChanges) (m m' : MUnit) : Prop where
  id : c.id.Flags m.id m'.id
  capacity : c.capacity.Flags m.capacity m'.capacity
  model : c.model.Flags m.model m'.model
  capabilities : c.capabilities.Flags m.capabilities m'.capabilities
  heatingConstraints : c.heatingConstraints.Flags m.heatingConstraints m'.heatingConstraints
  trays : c.trays.Flags (· = ·) SpoolChanges.Flags m.trays m'.trays
  humidityPercent : c.humidityPercent.Flags m.humidityPercent m'.humidityPercent
  temperatureC : c.temperatureC.Flags m.temperatureC m'.temperatureC
  heatingJob : c.heatingJob.Flags m.heatingJob m'.heatingJob
  heatingSchedule : c.heatingSchedule.Flags m.heatingSchedule m'.heatingSchedule

/-- A rebuild of the material leaves its profile as it is, or carries one. -/
def SpoolUpdate.KeepsProfile (u : SpoolUpdate) (s : Spool) : Prop :=
  ∀ mat, u.material.value = some mat → mat.isCreatable = true → mat.fProfileIDX.isSet = false →
    s.material.fProfileIDX = none

theorem MaterialChanges.flags_default_iff {m m' : Material} :
    (default : MaterialChanges).Flags m m' ↔ m = m' := by
  constructor
  · intro h
    obtain ⟨⟩ := m
    obtain ⟨⟩ := m'
    rw [Material.mk.injEq]
    exact ⟨h.name.eq rfl, h.color.eq rfl, h.fProfileIDX.eq rfl⟩
  · rintro rfl
    exact ⟨ScalarChanges.flags_refl _ _, ScalarChanges.flags_refl _ _,
      ScalarChanges.flags_refl _ _⟩

theorem MaterialUpdate.eq_default_of_not_hasChanged {u : MaterialUpdate} {m : Material}
    (h : (u.changes m).hasChanged = false) : u.changes m = default := by
  simp only [MaterialChanges.hasChanged, Bool.or_eq_false_iff] at h
  obtain ⟨⟨h₁, h₂⟩, h₃⟩ := h
  simp only [changes] at h₁ h₂ h₃ ⊢
  rw [ScalarChanges.eq_default_of_not_hasChanged h₁, ScalarChanges.eq_default_of_not_hasChanged h₂,
    ScalarChanges.eq_default_of_not_hasChanged h₃]
  rfl

theorem MaterialUpdate.flags_iff {u : MaterialUpdate} {m : Material} :
    (u.changes m).Flags m (u.tryCreate.getD m) ↔
      (u.isCreatable = true → u.fProfileIDX.isSet = false → m.fProfileIDX = none) := by
  rw [tryCreate]
  split
  · rename_i hc
    have hset := hc
    simp only [isCreatable, Bool.and_eq_true] at hset
    rw [Option.getD_some]
    refine ⟨fun h _ hp => ScalarChanges.flags_changes_apply_iff.mp h.fProfileIDX hp, fun h => ?_⟩
    refine ⟨ScalarChanges.flags_changes_apply_iff.mpr fun hn => ?_,
      ScalarChanges.flags_changes_apply_iff.mpr fun hn => ?_,
      ScalarChanges.flags_changes_apply_iff.mpr (h hc)⟩
    · rw [hset.1] at hn
      cases hn
    · rw [hset.2] at hn
      cases hn
  · rename_i hc
    rw [Option.getD_none]
    exact ⟨fun _ h => absurd h hc, fun _ => ⟨ScalarChanges.flags_refl _ _,
      ScalarChanges.flags_refl _ _, ScalarChanges.flags_refl _ _⟩⟩

theorem SpoolUpdate.flags_iff {u : SpoolUpdate} {s : Spool} :
    (u.changes s).Flags s (u.apply s) ↔ u.KeepsProfile s := by
  have hmaterial : ((u.changes s).material.getD default).Flags s.material (u.apply s).material ↔
      u.KeepsProfile s := by
    simp only [changes, apply, KeepsProfile, NestedBuffer.created]
    cases u.material.value with
    | none => simp [MaterialChanges.flags_default_iff]
    | some mat =>
      have hreport : ((some (mat.changes s.material)).filter (·.hasChanged)).getD default =
          mat.changes s.material := by
        cases hc : (mat.changes s.material).hasChanged with
        | true => simp [Option.filter, hc]
        | false => rw [MaterialUpdate.eq_default_of_not_hasChanged hc]; rfl
      rw [Option.map_some, hreport, Option.bind_some, MaterialUpdate.flags_iff]
      simp
  exact ⟨fun h => hmaterial.mp h.material, fun h => ⟨ScalarChanges.flags_changes,
    hmaterial.mpr h, ScalarChanges.flags_changes, ScalarChanges.flags_changes⟩⟩

theorem SpoolChanges.Flags.eq {c : SpoolChanges} {s s' : Spool} (h : c.Flags s s')
    (hc : c.hasChanged = false)
    (hmaterial : ∀ m, c.material = some m → m.hasChanged = true) : s = s' := by
  simp only [SpoolChanges.hasChanged, Bool.or_eq_false_iff] at hc
  obtain ⟨⟨⟨h₁, h₂⟩, h₃⟩, h₄⟩ := hc
  have hnone : c.material = none := by
    cases hm : c.material with
    | none => rfl
    | some m => rw [hm, Option.any_some, hmaterial m hm] at h₂; cases h₂
  have hm := h.material
  rw [hnone, Option.getD_none, MaterialChanges.flags_default_iff] at hm
  obtain ⟨⟩ := s
  obtain ⟨⟩ := s'
  rw [Spool.mk.injEq]
  exact ⟨h.number.eq h₁, hm, h.gramsMaximum.eq h₃, h.gramsRemaining.eq h₄⟩

/-- A tray's entry flags what it does just when it keeps the profile. -/
theorem SpoolUpdate.flagsUpdate_iff {u : SpoolUpdate} {s : Spool} :
    total.FlagsUpdate (· = ·) SpoolChanges.Flags u s ↔ u.KeepsProfile s := by
  rw [← flags_iff]
  refine Updater.flagsUpdate_iff rfl (fun hc hf => hf.eq hc fun m hm => ?_) fun hs => ?_
  · exact (Option.filter_eq_some_iff.mp hm).2
  · change s = u.apply s at hs
    change (u.changes s).Flags s (u.apply s)
    rw [← hs]
    refine ⟨ScalarChanges.flags_refl _ _, ?_, ScalarChanges.flags_refl _ _,
      ScalarChanges.flags_refl _ _⟩
    exact ⟨ScalarChanges.flags_refl _ _, ScalarChanges.flags_refl _ _,
      ScalarChanges.flags_refl _ _⟩

/-- Every tray that a unit's update changes and keeps, keeps its profile. -/
def MUnitUpdate.KeepsProfiles (u : MUnitUpdate) (m : MUnit) : Prop :=
  ∀ k su s, u.trays.lookup k = some su → k ∉ u.trays.removals → m.trays.tryGetValue k = some s →
    su.KeepsProfile s

section Units

variable {β : Type*} {ops : HeatingScheduleOps} {key : HeatingScheduleRef → β} {u : MUnitUpdate}
  {m m' : MUnit}

theorem MUnitUpdate.flags_iff (hops : ops.Lawful key) :
    (u.changed ops m).Flags m (u.apply ops m) ↔ u.KeepsProfiles m := by
  have htrays : (u.changed ops m).trays.Flags (· = ·) SpoolChanges.Flags m.trays
      (u.apply ops m).trays ↔ u.KeepsProfiles m := by
    refine (DictionaryBuffer.flags_changes_iff fun _ => rfl).trans ?_
    simp only [SpoolUpdate.flagsUpdate_iff]
    exact Iff.rfl
  refine ⟨fun h => htrays.mp h.trays, fun h => ?_⟩
  exact ⟨ScalarChanges.flags_changes, ScalarChanges.flags_changes, ScalarChanges.flags_changes,
    ScalarChanges.flags_changes, ScalarChanges.flags_changes, htrays.mpr h,
    ScalarChanges.flags_changes, ScalarChanges.flags_changes, ScalarChanges.flags_changes,
    SetChanges.flags_changes hops⟩

theorem MUnitChanges.Flags.same {c : MUnitChanges} (h : c.Flags m m')
    (hc : c.hasChanged = false) : m.Same m' := by
  simp only [MUnitChanges.hasChanged, Bool.or_eq_false_iff] at hc
  obtain ⟨⟨⟨⟨⟨⟨⟨⟨⟨h₁, h₂⟩, h₃⟩, h₄⟩, h₅⟩, h₆⟩, h₇⟩, h₈⟩, h₉⟩, h₁₀⟩ := hc
  refine ⟨h.id.eq h₁, h.capacity.eq h₂, h.model.eq h₃, h.capabilities.eq h₄,
    h.heatingConstraints.eq h₅, fun k => ?_, h.humidityPercent.eq h₇, h.temperatureC.eq h₈,
    h.heatingJob.eq h₉, h.heatingSchedule.eq h₁₀⟩
  have hrel := h.trays.rel h₆ k
  generalize m.trays.tryGetValue k = o at hrel
  generalize m'.trays.tryGetValue k = o' at hrel
  cases hrel with
  | none => rfl
  | some he => rw [he]

theorem MUnitChanges.flags_of_same {c : MUnitChanges} (h : m.Same m') : c.Flags m m' := by
  refine ⟨fun hn => absurd h.id hn, fun hn => absurd h.capacity hn, fun hn => absurd h.model hn,
    fun hn => absurd h.capabilities hn, fun hn => absurd h.heatingConstraints hn,
    ⟨fun k v' hk hk' => ?_, fun k v hk hk' => ?_, fun k v v' hk hk' hn => ?_⟩,
    fun hn => absurd h.humidityPercent hn, fun hn => absurd h.temperatureC hn,
    fun hn => absurd h.heatingJob hn, fun hn => absurd h.heatingSchedule hn⟩
  all_goals rw [h.trays, hk'] at hk; cases hk
  exact absurd rfl hn

/-- A unit's entry flags what it does just when its trays keep their profiles. -/
theorem MUnitUpdate.flagsUpdate_iff (hops : ops.Lawful key) :
    (total ops).FlagsUpdate MUnit.Same MUnitChanges.Flags u m ↔ u.KeepsProfiles m := by
  rw [← flags_iff hops]
  exact Updater.flagsUpdate_iff rfl (fun hc hf => hf.same hc) fun hs =>
    MUnitChanges.flags_of_same hs

end Units

/-! ### Jobs -/

structure PrintJobChanges.Flags (c : PrintJobChanges) (j j' : PrintJob) : Prop where
  name : c.name.Flags j.name j'.name
  customID : c.customID.Flags j.customID j'.customID
  percentageComplete : c.percentageComplete.Flags j.percentageComplete j'.percentageComplete
  remainingTime : c.remainingTime.Flags j.remainingTime j'.remainingTime
  totalTime : c.totalTime.Flags j.totalTime j'.totalTime
  issue : c.issue.Flags j.issue j'.issue
  thumbnail : c.thumbnail.Flags j.thumbnail j'.thumbnail
  file : c.file.Flags j.file j'.file
  subStage : c.subStage.Flags j.subStage j'.subStage
  totalMaterialUsage : c.totalMaterialUsage.Flags j.totalMaterialUsage j'.totalMaterialUsage
  localPath : c.localPath.Flags j.localPath j'.localPath
  printSpeedPercent : c.printSpeedPercent.Flags j.printSpeedPercent j'.printSpeedPercent
  /-- A dictionary that comes or goes as a whole is flagged by any change of it. -/
  spoolMaterialUsages : (j.spoolMaterialUsages.isSome ≠ j'.spoolMaterialUsages.isSome →
      c.spoolMaterialUsages.hasChanged = true) ∧
    c.spoolMaterialUsages.Flags (· = ·) (fun new _ v' => new = v')
      (j.spoolMaterialUsages.getD ∅) (j'.spoolMaterialUsages.getD ∅)

theorem PrintJobChanges.flags_refl (c : PrintJobChanges) (j : PrintJob) : c.Flags j j := by
  refine ⟨ScalarChanges.flags_refl _ _, ScalarChanges.flags_refl _ _, ScalarChanges.flags_refl _ _,
    ScalarChanges.flags_refl _ _, ScalarChanges.flags_refl _ _, ScalarChanges.flags_refl _ _,
    ScalarChanges.flags_refl _ _, ScalarChanges.flags_refl _ _, ScalarChanges.flags_refl _ _,
    ScalarChanges.flags_refl _ _, ScalarChanges.flags_refl _ _, ScalarChanges.flags_refl _ _,
    fun h => absurd rfl h, DictionaryChanges.flags_refl (fun _ => rfl) _ _⟩

namespace PrintJobUpdate

variable {u : PrintJobUpdate} {j : PrintJob}

/-- The dictionary of usages that a rebuild drops is emptied by the update in any case. -/
def EmptiesUsages (u : PrintJobUpdate) (j : PrintJob) : Prop :=
  ∀ d, j.spoolMaterialUsages = some d → (∃ k v, d.tryGetValue k = some v) ∧
    ∀ k v, d.tryGetValue k = some v → k ∈ u.spoolMaterialUsages.removals

/-- The part of the report about the usages, when the new job has none. -/
theorem flags_usages_iff (hempty : u.spoolMaterialUsages.entries = []) :
    ((j.spoolMaterialUsages.isSome ≠ (none : Option (Dictionary SpoolLocation Int32)).isSome →
        (u.changes j).spoolMaterialUsages.hasChanged = true) ∧
      (u.changes j).spoolMaterialUsages.Flags (· = ·) (fun new _ v' => new = v')
        (j.spoolMaterialUsages.getD ∅) ((none : Option (Dictionary SpoolLocation Int32)).getD ∅)) ↔
      u.EmptiesUsages j := by
  have hlookup : ∀ k v, u.spoolMaterialUsages.lookup k ≠ some v := by
    intro k v h
    rw [DictionaryBuffer.lookup, hempty] at h
    cases h
  have hreport : (u.changes j).spoolMaterialUsages.hasChanged = false ↔
      ∀ k ∈ u.spoolMaterialUsages.removals,
        (j.spoolMaterialUsages.getD ∅).tryGetValue k = none := by
    change (DictionaryBuffer.changes _ _ _).hasChanged = false ↔ _
    rw [DictionaryBuffer.hasChanged_eq_false_iff]
    exact and_iff_right fun k v h => absurd h (hlookup k v)
  rw [EmptiesUsages]
  cases hd : j.spoolMaterialUsages with
  | none =>
    constructor
    · intro _ d h
      cases h
    · intro _
      refine ⟨fun h => absurd rfl h, ?_, ?_, ?_⟩
      all_goals intros; simp_all
  | some d =>
    rw [hd] at hreport
    simp only [Option.isSome_some, Option.isSome_none, ne_eq, Bool.true_eq_false, not_false_eq_true,
      true_imp_iff, Option.getD_some, Option.getD_none, Option.some.injEq, forall_eq']
    constructor
    · rintro ⟨hc, hf⟩
      have hall : ∀ k v, d.tryGetValue k = some v → k ∈ u.spoolMaterialUsages.removals :=
        fun k v hk => (DictionaryBuffer.mem_removed_iff.mp (hf.removed k v hk rfl)).1
      refine ⟨?_, hall⟩
      by_contra hno
      rw [hreport.mpr fun k _ => Option.eq_none_iff_forall_ne_some.mpr
        fun v hv => hno ⟨k, v, hv⟩] at hc
      cases hc
    · rintro ⟨⟨k, v, hk⟩, hall⟩
      refine ⟨?_, ⟨fun _ _ _ h => ?_, fun k v hk _ => ?_, fun _ _ _ _ h => ?_⟩⟩
      · by_contra hc
        rw [Bool.not_eq_true] at hc
        have hnone := hreport.mp hc k (hall k v hk)
        rw [Option.getD_some, hk] at hnone
        cases hnone
      · cases h
      · refine DictionaryBuffer.mem_removed_iff.mpr ⟨hall k v hk, v, ?_⟩
        rw [hd]
        exact hk
      · cases h

/-- **The report of a job flags everything just when a rebuild drops nothing unflagged.** -/
theorem flags_created_iff (hf : ¬ u.Faults) :
    (u.changes j).Flags j (u.created.getD j) ↔
      (u.isCreatable = true → u.KeepsOptional j ∧ u.EmptiesUsages j) := by
  rw [created]
  split
  · rename_i hc
    -- a rebuild with usages would fault
    have hempty : u.spoolMaterialUsages.entries = [] := by
      by_contra hne
      exact hf ⟨hc, hne⟩
    have hset := hc
    simp only [isCreatable, Bool.and_eq_true] at hset
    obtain ⟨⟨⟨h₁, h₂⟩, h₃⟩, h₄⟩ := hset
    rw [Option.getD_some, ← flags_usages_iff hempty]
    constructor
    · intro h _
      refine ⟨⟨?_, ?_, ?_, ?_, ?_, ?_, ?_, ?_⟩, h.spoolMaterialUsages⟩
      · exact ScalarChanges.flags_changes_apply_iff.mp h.customID
      · exact ScalarChanges.flags_changes_apply_iff.mp h.issue
      · exact ScalarChanges.flags_changes_apply_iff.mp h.thumbnail
      · exact ScalarChanges.flags_changes_apply_iff.mp h.file
      · exact ScalarChanges.flags_changes_apply_iff.mp h.subStage
      · exact ScalarChanges.flags_changes_apply_iff.mp h.totalMaterialUsage
      · exact ScalarChanges.flags_changes_apply_iff.mp h.localPath
      · exact ScalarChanges.flags_changes_apply_iff.mp h.printSpeedPercent
    · intro h
      obtain ⟨⟨k₁, k₂, k₃, k₄, k₅, k₆, k₇, k₈⟩, husages⟩ := h hc
      have hrequired : ∀ {α : Type} [DecidableEq α] {b : ScalarBuffer α} {old other : α},
          b.isSet = true → (b.changes old).Flags old (b.apply other) := fun hs =>
        ScalarChanges.flags_changes_apply_iff.mpr fun hn => by rw [hs] at hn; cases hn
      exact ⟨hrequired h₁, ScalarChanges.flags_changes_apply_iff.mpr k₁, hrequired h₂,
        hrequired h₃, hrequired h₄, ScalarChanges.flags_changes_apply_iff.mpr k₂,
        ScalarChanges.flags_changes_apply_iff.mpr k₃, ScalarChanges.flags_changes_apply_iff.mpr k₄,
        ScalarChanges.flags_changes_apply_iff.mpr k₅, ScalarChanges.flags_changes_apply_iff.mpr k₆,
        ScalarChanges.flags_changes_apply_iff.mpr k₇, ScalarChanges.flags_changes_apply_iff.mpr k₈,
        husages⟩
  · rename_i hc
    rw [Option.getD_none]
    exact ⟨fun _ h => absurd h hc, fun _ => PrintJobChanges.flags_refl _ _⟩

end PrintJobUpdate

/-! ### The state of a machine -/

/-- The report on a job: a job that comes or goes is flagged by any report on it. -/
structure JobFlags (c : Option PrintJobChanges) (job job' : Option PrintJob) : Prop where
  isSome : job.isSome ≠ job'.isSome → c.isSome = true
  flags : ∀ j j', job = some j → job' = some j' → (c.getD default).Flags j j'

/-- Everything that differs between two states is flagged in the report. -/
structure MachineStateChanges.Flags (c : MachineStateChanges) (s s' : MachineState) : Prop where
  brand : c.brand.Flags s.brand s'.brand
  model : c.model.Flags s.model s'.model
  nickname : c.nickname.Flags s.nickname s'.nickname
  capabilities : c.capabilities.Flags s.capabilities s'.capabilities
  status : c.status.Flags s.status s'.status
  currentJob : JobFlags c.currentJob s.currentJob s'.currentJob
  jobHistory : c.jobHistory.Flags s.jobHistory s'.jobHistory
  localJobs : c.localJobs.Flags s.localJobs s'.localJobs
  scheduledPrints : c.scheduledPrints.Flags s.scheduledPrints s'.scheduledPrints
  extruders : c.extruders.Flags (· = ·) MachineExtruderChanges.Flags s.extruders s'.extruders
  nozzles : c.nozzles.Flags (· = ·) MachineNozzleChanges.Flags s.nozzles s'.nozzles
  materialUnits : c.materialUnits.Flags MUnit.Same MUnitChanges.Flags s.materialUnits
    s'.materialUnits
  airDuctMode : c.airDuctMode.Flags s.airDuctMode s'.airDuctMode
  fans : c.fans.Flags (· = ·) (fun new _ v' => new = v') s.fans s'.fans
  lights : c.lights.Flags (· = ·) (fun new _ v' => new = v') s.lights s'.lights
  heatingElements : c.heatingElements.Flags (· = ·) (fun new _ v' => new = v') s.heatingElements
    s'.heatingElements
  isLocalStorageScanning : c.isLocalStorageScanning.Flags s.isLocalStorageScanning
    s'.isLocalStorageScanning
  streamingURLs : c.streamingURLs.Flags s.streamingURLs s'.streamingURLs
  speedRange : c.speedRange.Flags s.speedRange s'.speedRange
  speedPresets : c.speedPresets.Flags (· = ·) (fun new _ v' => new = v') s.speedPresets
    s'.speedPresets
  notifications : c.notifications.Flags (· = ·) NotificationChanges.Flags s.notifications
    s'.notifications

/-- A rebuild of the current job or of the material of a tray drops nothing: a job is only built
where there is one, keeps its optional properties and empties its usages, and every tray that
is changed and kept keeps its profile. -/
structure MachineStateUpdate.DropsNothing (u : MachineStateUpdate) (s : MachineState) : Prop where
  currentJob : ∀ ju, u.currentJob.value = some ju → ju.isCreatable = true →
    ∃ j, s.currentJob = some j ∧ ju.KeepsOptional j ∧ ju.EmptiesUsages j
  materialUnits : ∀ id mu m, u.materialUnits.lookup id = some mu → id ∉ u.materialUnits.removals →
    s.materialUnits.tryGetValue id = some m → mu.KeepsProfiles m

theorem PrintJobUpdate.eq_default_of_not_hasChanged {u : PrintJobUpdate} {j : PrintJob}
    (h : (u.changes j).hasChanged = false) : u.changes j = default := by
  simp only [PrintJobChanges.hasChanged, Bool.or_eq_false_iff, and_assoc] at h
  simp only [changes] at h ⊢
  obtain ⟨h₁, h₂, h₃, h₄, h₅, h₆, h₇, h₈, h₉, h₁₀, h₁₁, h₁₂, h₁₃⟩ := h
  rw [ScalarChanges.eq_default_of_not_hasChanged h₁, ScalarChanges.eq_default_of_not_hasChanged h₂,
    ScalarChanges.eq_default_of_not_hasChanged h₃, ScalarChanges.eq_default_of_not_hasChanged h₄,
    ScalarChanges.eq_default_of_not_hasChanged h₅, ScalarChanges.eq_default_of_not_hasChanged h₆,
    ScalarChanges.eq_default_of_not_hasChanged h₇, ScalarChanges.eq_default_of_not_hasChanged h₈,
    ScalarChanges.eq_default_of_not_hasChanged h₉, ScalarChanges.eq_default_of_not_hasChanged h₁₀,
    ScalarChanges.eq_default_of_not_hasChanged h₁₁, ScalarChanges.eq_default_of_not_hasChanged h₁₂,
    DictionaryChanges.eq_default_of_not_hasChanged h₁₃]
  rfl

namespace MachineStateUpdate

variable {u : MachineStateUpdate} {s : MachineState}

theorem jobFlags_iff {ops : ScheduleOps} (hf : ∀ ju, u.currentJob.value = some ju → ¬ ju.Faults) :
    JobFlags (u.changed ops s).currentJob s.currentJob (u.apply ops s).currentJob ↔
      ∀ ju, u.currentJob.value = some ju → ju.isCreatable = true →
        ∃ j, s.currentJob = some j ∧ ju.KeepsOptional j ∧ ju.EmptiesUsages j := by
  have happly : (u.apply ops s).currentJob = u.createdJob.or s.currentJob := rfl
  have hreport : (u.changed ops s).currentJob =
      (u.currentJob.value.map (·.changesOf s.currentJob)).filter (·.hasChanged) := rfl
  rw [happly, hreport, createdJob, NestedBuffer.created]
  cases hv : u.currentJob.value with
  | none =>
    rw [Option.bind_none, Option.none_or]
    refine ⟨fun _ ju hju => ?_, fun _ => ⟨fun h => absurd rfl h, fun j j' hj hj' => ?_⟩⟩
    · cases hju
    · rw [hj] at hj'
      cases hj'
      exact PrintJobChanges.flags_refl _ _
  | some ju =>
    simp only [Option.map_some, Option.bind_some, Option.some.injEq, forall_eq']
    cases hj : s.currentJob with
    | none =>
      -- No report is made against `null`, so no job may be created.
      have hquiet : ((some (ju.changesOf none)).filter (·.hasChanged)) = none := rfl
      rw [hquiet]
      constructor
      · intro h hc
        have := h.isSome (by simp [PrintJobUpdate.created, hc])
        cases this
      · intro h
        have hc : ju.isCreatable = false := by
          by_contra hne
          rw [Bool.not_eq_false] at hne
          obtain ⟨j, hj, -⟩ := h hne
          cases hj
        have hnone : ju.created = none := by simp [PrintJobUpdate.created, hc]
        rw [hnone]
        exact ⟨fun hne => absurd rfl hne, fun _ _ hj => by cases hj⟩
    | some j =>
      have hor : ju.created.or (some j) = some (ju.created.getD j) := by
        cases ju.created <;> rfl
      have hchanges : ((some (ju.changesOf (some j))).filter (·.hasChanged)).getD default =
          ju.changes j := by
        change ((some (ju.changes j)).filter (·.hasChanged)).getD default = _
        cases hc : (ju.changes j).hasChanged with
        | true => simp [Option.filter, hc]
        | false => rw [PrintJobUpdate.eq_default_of_not_hasChanged hc]; rfl
      rw [hor]
      simp only [Option.some.injEq, exists_eq_left']
      rw [← PrintJobUpdate.flags_created_iff (hf ju hv)]
      constructor
      · intro h
        have hflags := h.flags j _ rfl rfl
        rwa [hchanges] at hflags
      · refine fun h => ⟨fun hne => absurd rfl hne, fun j₁ j' hj₁ hj' => ?_⟩
        cases hj₁
        cases hj'
        rw [hchanges]
        exact h

/-- **A returned application flags everything it changed just when it drops nothing.** -/
theorem flags_changed_iff {Cron : Type} [DecidableEq Cron] [Hashable (HeatingSchedule Cron)]
    [Hashable (ScheduledPrint Cron)] (heap : Heap Cron)
    (hf : ∀ ju, u.currentJob.value = some ju → ¬ ju.Faults) :
    (u.changed heap.ops s).Flags s (u.apply heap.ops s) ↔ u.DropsNothing s := by
  have hlawful : heap.ops.heatingSchedules.Lawful heap.heatingSchedules :=
    HashSetOps.lawful_records _
  have hunits : (u.changed heap.ops s).materialUnits.Flags MUnit.Same MUnitChanges.Flags
      s.materialUnits (u.apply heap.ops s).materialUnits ↔
      ∀ id mu m, u.materialUnits.lookup id = some mu → id ∉ u.materialUnits.removals →
        s.materialUnits.tryGetValue id = some m → mu.KeepsProfiles m := by
    refine (DictionaryBuffer.flags_changes_iff MUnit.same_equivalence.refl).trans ?_
    simp only [MUnitUpdate.flagsUpdate_iff hlawful]
    exact Iff.rfl
  constructor
  · exact fun h => ⟨(jobFlags_iff hf).mp h.currentJob, hunits.mp h.materialUnits⟩
  · intro h
    exact {
      brand := ScalarChanges.flags_changes
      model := ScalarChanges.flags_changes
      nickname := ScalarChanges.flags_changes
      capabilities := ScalarChanges.flags_changes
      status := ScalarChanges.flags_changes
      currentJob := (jobFlags_iff hf).mpr h.currentJob
      jobHistory := SetChanges.flags_changes HashSetOps.lawful_values
      localJobs := SetChanges.flags_changes HashSetOps.lawful_values
      scheduledPrints := SetChanges.flags_changes (HashSetOps.lawful_records heap.scheduledPrints)
      extruders := (DictionaryBuffer.flags_changes_iff fun _ => rfl).mpr
        fun _ _ _ _ _ _ => MachineExtruderUpdate.flagsUpdate _ _
      nozzles := (DictionaryBuffer.flags_changes_iff fun _ => rfl).mpr
        fun _ _ _ _ _ _ => MachineNozzleUpdate.flagsUpdate _ _
      materialUnits := hunits.mpr h.materialUnits
      airDuctMode := ScalarChanges.flags_changes
      fans := flags_value _ _
      lights := flags_value _ _
      heatingElements := flags_value _ _
      isLocalStorageScanning := ScalarChanges.flags_changes
      streamingURLs := ScalarChanges.flags_changes
      speedRange := ScalarChanges.flags_changes
      speedPresets := flags_value _ _
      notifications := (DictionaryBuffer.flags_changes_iff fun _ => rfl).mpr
        fun _ _ _ _ _ _ => NotificationUpdate.flagsUpdate _ _ }

end MachineStateUpdate

end Connect3Dp
