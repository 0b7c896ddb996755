import Connect3Dp.Builder.DiffLaw

/-!
# Applying a buffer again

A buffer that has been applied is applied again. When does its report say nothing, and when does
nothing change?

A plain value is written once and for all. A set settles unless the buffer both adds and removes an
element, or the set finds a removed record more often than the buffer removes it
(`SetBuffer.hasChanged_apply_records_iff`). A dictionary settles unless an entry can create the
value of a removed key, or an entry reports something against what it has made of a value
(`DictionaryBuffer.hasChanged_apply_iff`).
-/

namespace Connect3Dp

/-! ### Plain values -/

namespace ScalarBuffer

variable {α : Type*}

@[simp]
theorem apply_apply (b : ScalarBuffer α) (old : α) : b.apply (b.apply old) = b.apply old := by
  cases h : b.isSet <;> simp [apply, h]

@[simp]
theorem agrees_apply (b : ScalarBuffer α) (old : α) : b.Agrees (b.apply old) :=
  apply_eq_self_iff.mp (b.apply_apply old)

end ScalarBuffer

/-! ### Sets -/

namespace SetBuffer

variable {S α β : Type*}

/-- No element is both added and removed. -/
def Apart (ops : HashSetOps S α) (key : α → β) (b : SetBuffer S) : Prop :=
  ∀ v ∈ b.additions ops, ∀ w ∈ b.removals ops, key w ≠ key v

/-- No record to remove is found in more slots than the buffer takes away. -/
def RemovesAll {R : Type*} [DecidableEq α] [Hashable α] (value : R → α)
    (b : SetBuffer (RecordHashSet R)) (s : RecordHashSet R) : Prop :=
  ∀ w ∈ b.removals (.records value),
    s.count value w ≤ (b.removals (.records value)).countP fun w' => value w' = value w

/-- **A set of values** that a buffer was applied to has nothing more to report just when the buffer
adds nothing that it removes. -/
theorem hasChanged_apply_values_iff [DecidableEq α] {b : SetBuffer (HashSet α)} {s : HashSet α} :
    (b.changes (.values α) (b.apply (.values α) s)).hasChanged = false ↔
      b.Apart (.values α) id := by
  have hmem : ∀ v, (HashSetOps.values α).contains (b.apply (.values α) s) v = true ↔
      (v ∈ s ∨ v ∈ b.additions (.values α)) ∧ v ∉ b.removals (.values α) := fun v => by
    rw [apply, ← HashSetOps.mem_unionWith, ← HashSetOps.mem_exceptWith]
    exact decide_eq_true_iff
  have hnot : ∀ w ∈ b.removals (.values α),
      (HashSetOps.values α).contains (b.apply (.values α) s) w = false := fun w hw => by
    rw [← Bool.not_eq_true, hmem]
    exact fun h => h.2 hw
  rw [hasChanged_eq_false_iff, and_iff_left hnot]
  constructor
  · rintro h v hv w hw rfl
    exact ((hmem _).mp (h _ hv)).2 hw
  · exact fun h v hv => (hmem v).mpr ⟨.inr hv, fun hr => h v hv v hr rfl⟩

/-- **A set of records** needs in addition that the buffer removes all that is found. -/
theorem hasChanged_apply_records_iff {R : Type*} [DecidableEq α] [Hashable α] {value : R → α}
    {b : SetBuffer (RecordHashSet R)} {s : RecordHashSet R} :
    (b.changes (.records value) (b.apply (.records value) s)).hasChanged = false ↔
      b.Apart (.records value) value ∧ b.RemovesAll value s := by
  have hops := HashSetOps.lawful_records value
  rw [hasChanged_eq_false_iff]
  have hremoved : ∀ w ∈ b.removals (.records value), b.Apart (.records value) value →
      ((HashSetOps.records value).contains (b.apply (.records value) s) w = false ↔
        s.count value w ≤ (b.removals (.records value)).countP fun w' => value w' = value w) := by
    intro w hw hapart
    have hcount : ((HashSetOps.records value).unionWith s (b.additions (.records value))).count
        value w = s.count value w :=
      HashSetOps.count_unionWith_of_ne fun v hv => (hapart v hv w hw).symm
    refine (RecordHashSet.contains_eq_false_iff value).trans ?_
    rw [apply, HashSetOps.count_exceptWith, hcount, Nat.sub_eq_zero_iff_le]
  constructor
  · rintro ⟨hadded, hgone⟩
    have hapart : b.Apart (.records value) value := by
      intro v hv w hw heq
      have hcontains := hadded v hv
      rw [← hops.contains_congr heq, hgone w hw] at hcontains
      cases hcontains
    exact ⟨hapart, fun w hw => (hremoved w hw hapart).mp (hgone w hw)⟩
  · rintro ⟨hapart, hall⟩
    refine ⟨fun v hv => ?_, fun w hw => (hremoved w hw hapart).mpr (hall w hw)⟩
    rw [apply, exceptWith_unionWith hops hapart, contains_unionWith hops]
    exact .inr ⟨v, hv, rfl⟩

end SetBuffer

/-! ### Dictionaries -/

/-- An entry makes no more of what it has made, and reports nothing against it. -/
structure Updater.MergesOnce {K U V C : Type*} (t : Updater K U V C) : Prop where
  appendUpdate : ∀ k u o v, t.merge k u o = some v → t.appendUpdate (t.assertKey k u) v = v
  diff : ∀ u v, t.appendUpdate u v = v → t.diff u v = none

/-- What an entry creates, it has been applied to as well. -/
theorem Updater.mergesOnce_of_created {K U V C : Type*} {t : Updater K U V C}
    (happly : ∀ u v, t.appendUpdate u (t.appendUpdate u v) = t.appendUpdate u v)
    (hcreate : ∀ u v, t.tryCreate u = some v → ∃ v₀, t.appendUpdate u v₀ = v)
    (hdiff : ∀ u v, t.appendUpdate u v = v → t.diff u v = none) : t.MergesOnce where
  appendUpdate k u o v h := by
    cases o with
    | some old =>
      cases h
      exact happly _ old
    | none =>
      obtain ⟨v₀, rfl⟩ := hcreate _ v h
      exact happly _ v₀
  diff := hdiff

theorem Updater.mergesOnce_value {K V : Type*} [DecidableEq V] :
    (Updater.value K V).MergesOnce where
  appendUpdate k u o v h := by cases o <;> exact Option.some.inj h
  diff u v h := if_pos h.symm

namespace DictionaryBuffer

variable {K U V C : Type*} [DecidableEq K] {t : Updater K U V C} {b : DictionaryBuffer K U}
  {d : Dictionary K V}

/-- No entry can create the value of a removed key. -/
def CreatesNoRemoved (t : Updater K U V C) (b : DictionaryBuffer K U) : Prop :=
  ∀ k u, b.lookup k = some u → k ∈ b.removals → t.tryCreate (t.assertKey k u) = none

/-- **A dictionary** that a buffer was applied to has nothing more to report just when no entry can
create the value of a removed key, and no entry reports anything against what it has made. -/
theorem hasChanged_apply_iff :
    (b.changes t (b.apply t d)).hasChanged = false ↔ b.CreatesNoRemoved t ∧
      ∀ k u, b.lookup k = some u → k ∉ b.removals →
        ∀ v, t.merge k u (d.tryGetValue k) = some v → t.diff (t.assertKey k u) v = none := by
  have hremoved : ∀ k ∈ b.removals, (b.apply t d).tryGetValue k = none := fun k hk => by
    rw [tryGetValue_apply, if_pos hk]
  have hkept : ∀ k u, b.lookup k = some u → k ∉ b.removals →
      (t.report k u ((b.apply t d).tryGetValue k) = none ↔
        ∀ v, t.merge k u (d.tryGetValue k) = some v → t.diff (t.assertKey k u) v = none) := by
    intro k u hu hk
    rw [tryGetValue_apply, if_neg hk, hu]
    cases hmerge : t.merge k u (d.tryGetValue k) with
    | some v => simp [Updater.report, hmerge]
    | none =>
      -- nothing was there, and nothing was made
      have hnone : t.tryCreate (t.assertKey k u) = none := by
        cases hd : d.tryGetValue k with
        | none => rwa [hd] at hmerge
        | some v => rw [hd] at hmerge; cases hmerge
      simp [Updater.report, hmerge, hnone]
  rw [hasChanged_eq_false_iff, and_iff_left hremoved]
  constructor
  · refine fun h => ⟨fun k u hu hk => ?_, fun k u hu hk => (hkept k u hu hk).mp (h k u hu)⟩
    have hreport := h k u hu
    rw [hremoved k hk, Updater.report, Option.map_eq_none_iff] at hreport
    exact hreport
  · rintro ⟨hcreates, hquiet⟩ k u hu
    by_cases hk : k ∈ b.removals
    · rw [hremoved k hk, Updater.report, hcreates k u hu hk]
      rfl
    · exact (hkept k u hu hk).mpr (hquiet k u hu hk)

/-- Nothing changes either, if an entry that reports nothing against what it has made would make
nothing else of it. -/
theorem apply_apply (h : (b.changes t (b.apply t d)).hasChanged = false)
    (hmerge : ∀ k u o v, b.lookup k = some u → t.merge k u o = some v →
      t.diff (t.assertKey k u) v = none → t.appendUpdate (t.assertKey k u) v = v) :
    b.apply t (b.apply t d) = b.apply t d := by
  refine apply_eq_self h fun k u v hu hv hdiff => ?_
  rw [tryGetValue_apply, hu] at hv
  split at hv
  · cases hv
  · exact hmerge k u _ v hu hv hdiff

/-- Entries that merge once spoil nothing. -/
theorem hasChanged_apply_iff_of_mergesOnce (ht : t.MergesOnce) :
    (b.changes t (b.apply t d)).hasChanged = false ↔ b.CreatesNoRemoved t := by
  rw [hasChanged_apply_iff]
  exact and_iff_left fun k u _ _ v hv => ht.diff _ v (ht.appendUpdate k u _ v hv)

theorem apply_apply_of_mergesOnce (ht : t.MergesOnce) (h : b.CreatesNoRemoved t) :
    b.apply t (b.apply t d) = b.apply t d :=
  apply_apply ((hasChanged_apply_iff_of_mergesOnce ht).mpr h)
    fun k u o v _ hv _ => ht.appendUpdate k u o v hv

section Values

variable {V : Type*} [DecidableEq V] {b : DictionaryBuffer K V} {d : Dictionary K V}

/-- An entry of plain values always creates its value. -/
theorem createsNoRemoved_value_iff :
    b.CreatesNoRemoved (.value K V) ↔ ∀ k v, b.lookup k = some v → k ∉ b.removals := by
  refine forall₃_congr fun k v _ => ⟨fun h hk => ?_, fun h hk => absurd hk h⟩
  cases h hk

theorem hasChanged_apply_value_iff :
    (b.changes (.value K V) (b.apply (.value K V) d)).hasChanged = false ↔
      ∀ k v, b.lookup k = some v → k ∉ b.removals := by
  rw [hasChanged_apply_iff_of_mergesOnce Updater.mergesOnce_value, createsNoRemoved_value_iff]

theorem apply_apply_value (h : ∀ k v, b.lookup k = some v → k ∉ b.removals) :
    b.apply (.value K V) (b.apply (.value K V) d) = b.apply (.value K V) d :=
  apply_apply_of_mergesOnce Updater.mergesOnce_value (createsNoRemoved_value_iff.mpr h)

end Values

end DictionaryBuffer

end Connect3Dp
