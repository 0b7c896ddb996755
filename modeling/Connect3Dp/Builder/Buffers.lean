import Connect3Dp.Collections.Dictionary
import Connect3Dp.Collections.HashSet
import Connect3Dp.Runtime.Values

/-!
# Builder buffers

A generated builder holds one buffer for each property of the class it updates. The property's
type decides the kind of the buffer, and for each kind the generator emits the builder methods,
a part of `Changes` (what the builder would change) and a part of `AppendUpdate` (the change
itself). Each kind is defined once here, with these parts as functions:

* `ScalarBuffer` for a plain value;
* `NestedBuffer` for a value that has a builder of its own;
* `SetBuffer` for a `HashSet`;
* `DictionaryBuffer` for a `Dictionary`, whose entries are plain values or builders. How an
  entry is diffed, created and updated is its `Updater`.

A value that holds every change of a change record is its `replay`.
-/

namespace Connect3Dp

/-! ### Plain values -/

/-- The buffer of a plain value: the backing property and its `IsSet` flag. -/
structure ScalarBuffer (α : Type*) where
  value : α
  isSet : Bool
  deriving DecidableEq, Inhabited

/-- What `Changes` reports for a plain value. -/
structure ScalarChanges (α : Type*) where
  hasChanged : Bool
  previous : Option α
  new : Option α
  deriving DecidableEq, Inhabited

namespace ScalarBuffer

variable {α : Type*}

/-- `SetX(value)`. -/
def set (_ : ScalarBuffer α) (value : α) : ScalarBuffer α := ⟨value, true⟩

/-- `RemoveX()`. -/
def remove [Inhabited α] (_ : ScalarBuffer α) : ScalarBuffer α := ⟨default, true⟩

/-- `UnsetX()`. -/
def unset [Inhabited α] (_ : ScalarBuffer α) : ScalarBuffer α := ⟨default, false⟩

def changes [DecidableEq α] (b : ScalarBuffer α) (old : α) : ScalarChanges α :=
  if b.isSet && !decide (old = b.value) then ⟨true, some old, some b.value⟩
  else ⟨false, none, none⟩

def apply (b : ScalarBuffer α) (old : α) : α := if b.isSet then b.value else old

theorem apply_of_isSet {b : ScalarBuffer α} (h : b.isSet = true) (old : α) :
    b.apply old = b.value := if_pos h

theorem apply_of_not_isSet {b : ScalarBuffer α} (h : b.isSet = false) (old : α) :
    b.apply old = old := by
  simp [apply, h]

/-- The buffer is not set, or set to what is there already. -/
def Agrees (b : ScalarBuffer α) (old : α) : Prop := b.isSet = true → b.value = old

instance [DecidableEq α] (b : ScalarBuffer α) (old : α) : Decidable (b.Agrees old) :=
  inferInstanceAs (Decidable (_ → _))

theorem apply_eq_self_iff {b : ScalarBuffer α} {old : α} : b.apply old = old ↔ b.Agrees old := by
  cases h : b.isSet <;> simp [apply, Agrees, h]

/-- Two values become equal just when the buffer is set or they were equal. -/
theorem apply_eq_apply_iff {b : ScalarBuffer α} {old old' : α} :
    b.apply old = b.apply old' ↔ (b.isSet = false → old = old') := by
  cases h : b.isSet <;> simp [apply, h]

end ScalarBuffer

namespace ScalarChanges

variable {α : Type*}

/-- Write the new value, if one is flagged. -/
def replay (c : ScalarChanges α) (old : α) : α := if c.hasChanged then c.new.getD old else old

variable [DecidableEq α] {b : ScalarBuffer α} {old : α}

theorem hasChanged_eq_false_iff : (b.changes old).hasChanged = false ↔ b.Agrees old := by
  rw [ScalarBuffer.changes, ScalarBuffer.Agrees]
  by_cases hv : b.value = old
  · simp [hv]
  · cases hb : b.isSet <;> simp [hv, Ne.symm hv]

theorem new_of_hasChanged (h : (b.changes old).hasChanged = true) :
    (b.changes old).new = some (b.apply old) := by
  unfold ScalarBuffer.changes at h ⊢
  split at h
  · rename_i hb
    simp only [Bool.and_eq_true] at hb
    simp [ScalarBuffer.apply, hb.1, hb.2]
  · cases h

/-- A scalar's report is exact: writing the flagged new value is applying the buffer. -/
@[simp]
theorem replay_changes : (b.changes old).replay old = b.apply old := by
  unfold replay
  split
  · rename_i h
    rw [new_of_hasChanged h, Option.getD_some]
  · rename_i h
    rw [Bool.not_eq_true, hasChanged_eq_false_iff, ← ScalarBuffer.apply_eq_self_iff] at h
    exact h.symm

end ScalarChanges

/-! ### Values with a builder of their own -/

/-- The buffer of a nested builder. Only `update` stores one, and it sets the flag too. -/
structure NestedBuffer (U : Type*) where
  value : Option U
  isSet : Bool
  isSet_of_isSome : value.isSome = true → isSet = true
  deriving DecidableEq

namespace NestedBuffer

variable {U V : Type*}

instance : Inhabited (NestedBuffer U) := ⟨⟨none, false, by simp⟩⟩

/-- `UpdateX(configure)`: configure the stored builder, or a fresh one. -/
def update [Inhabited U] (b : NestedBuffer U) (configure : U → U) : NestedBuffer U :=
  ⟨some (configure (b.value.getD default)), true, fun _ => rfl⟩

/-- `RemoveX()`. -/
def remove (_ : NestedBuffer U) : NestedBuffer U := ⟨none, true, by simp⟩

/-- `UnsetX()`. -/
def unset (_ : NestedBuffer U) : NestedBuffer U := ⟨none, false, by simp⟩

/-- The part of `AppendUpdate`: what the property is replaced by, if it is replaced. `absent` is
the exception that `TryCreate` on a removed builder raises. -/
def rebuild (absent : Fault) (tryCreate : U → Except Fault (Option V)) (b : NestedBuffer U) :
    Except Fault (Option V) :=
  if b.isSet then
    match b.value with
    | none => throw absent
    | some u => tryCreate u
  else return none

/-- What `rebuild` returns when nothing is raised. -/
def created (tryCreate : U → Option V) (b : NestedBuffer U) : Option V := b.value.bind tryCreate

variable {absent : Fault} {tryCreate : U → Except Fault (Option V)} {b : NestedBuffer U}

theorem isSet_of_value {u : U} (h : b.value = some u) : b.isSet = true :=
  b.isSet_of_isSome (by simp [h])

theorem rebuild_of_value {u : U} (h : b.value = some u) :
    b.rebuild absent tryCreate = tryCreate u := by
  simp [rebuild, isSet_of_value h, h]

theorem rebuild_of_removed (hb : b.isSet = true) (h : b.value = none) :
    b.rebuild absent tryCreate = .error absent := by
  simp only [rebuild, hb, h, if_true]
  rfl

theorem rebuild_of_not_isSet (hb : b.isSet = false) :
    b.rebuild absent tryCreate = .ok none := by
  simp only [rebuild, hb, Bool.false_eq_true, if_false]
  rfl

theorem value_eq_none_of_not_isSet (hb : b.isSet = false) : b.value = none := by
  by_contra h
  have := b.isSet_of_isSome (Option.isSome_iff_ne_none.mpr h)
  rw [hb] at this
  cases this

/-- Without an exception, what is created is what the stored builder creates. -/
theorem created_of_rebuild {total : U → Option V}
    (htotal : ∀ u o, tryCreate u = .ok o → total u = o) {o : Option V}
    (h : b.rebuild absent tryCreate = .ok o) : b.created total = o := by
  cases hv : b.value with
  | some u =>
    rw [rebuild_of_value hv] at h
    simp [created, hv, htotal u o h]
  | none =>
    cases hb : b.isSet with
    | true => rw [rebuild_of_removed hb hv] at h; cases h
    | false =>
      rw [rebuild_of_not_isSet hb] at h
      cases h
      simp [created, hv]

end NestedBuffer

/-! ### Sets -/

/-- The buffer of a set property: elements to add and elements to remove, both `null` at first. -/
structure SetBuffer (S : Type*) where
  toSet : Option S
  toRemove : Option S
  deriving DecidableEq, Inhabited

/-- What `Changes` reports for a set. -/
structure SetChanges (α : Type*) where
  added : List α
  removed : List α
  deriving DecidableEq, Inhabited

def SetChanges.hasChanged {α : Type*} (c : SetChanges α) : Bool :=
  !c.added.isEmpty || !c.removed.isEmpty

namespace SetBuffer

variable {S α : Type*}

/-- `SetX(v)`. -/
def set [EmptyCollection S] (ops : HashSetOps S α) (b : SetBuffer S) (v : α) : SetBuffer S :=
  { b with toSet := some (ops.add (b.toSet.getD ∅) v) }

/-- `RemoveX(v)`. -/
def remove [EmptyCollection S] (ops : HashSetOps S α) (b : SetBuffer S) (v : α) : SetBuffer S :=
  { b with toRemove := some (ops.add (b.toRemove.getD ∅) v) }

/-- `UnsetX()`. -/
def unset (_ : SetBuffer S) : SetBuffer S := ⟨none, none⟩

/-- The elements of the set buffer, in enumeration order. -/
def additions (ops : HashSetOps S α) (b : SetBuffer S) : List α := (b.toSet.map ops.elems).getD []

/-- The elements of the removal buffer, in enumeration order. -/
def removals (ops : HashSetOps S α) (b : SetBuffer S) : List α :=
  (b.toRemove.map ops.elems).getD []

def changes (ops : HashSetOps S α) (b : SetBuffer S) (s : S) : SetChanges α where
  added := (b.additions ops).filter fun v => !ops.contains s v
  removed := (b.removals ops).filter fun v => ops.contains s v

/-- `UnionWith` the set buffer, then `ExceptWith` the removal buffer. -/
def apply (ops : HashSetOps S α) (b : SetBuffer S) (s : S) : S :=
  ops.exceptWith (ops.unionWith s (b.additions ops)) (b.removals ops)

theorem toSet_foldl_set [EmptyCollection S] (ops : HashSetOps S α) (b : SetBuffer S)
    (vs : List α) :
    (vs.foldl (SetBuffer.set ops) b).toSet.getD ∅ = ops.unionWith (b.toSet.getD ∅) vs := by
  induction vs generalizing b with
  | nil => rfl
  | cons v vs ih => exact ih _

theorem toRemove_foldl_remove [EmptyCollection S] (ops : HashSetOps S α) (b : SetBuffer S)
    (vs : List α) :
    (vs.foldl (SetBuffer.remove ops) b).toRemove.getD ∅ =
      ops.unionWith (b.toRemove.getD ∅) vs := by
  induction vs generalizing b with
  | nil => rfl
  | cons v vs ih => exact ih _

/-- Removals leave the additions alone. -/
theorem additions_foldl_remove [EmptyCollection S] (ops : HashSetOps S α) (b : SetBuffer S)
    (vs : List α) :
    (vs.foldl (SetBuffer.remove ops) b).additions ops = b.additions ops := by
  induction vs generalizing b with
  | nil => rfl
  | cons v vs ih => exact ih _

/-- Additions leave the removals alone. -/
theorem removals_foldl_set [EmptyCollection S] (ops : HashSetOps S α) (b : SetBuffer S)
    (vs : List α) :
    (vs.foldl (SetBuffer.set ops) b).removals ops = b.removals ops := by
  induction vs generalizing b with
  | nil => rfl
  | cons v vs ih => exact ih _

theorem mem_additions_foldl_set [DecidableEq α] {b : SetBuffer (HashSet α)} {vs : List α} {v : α} :
    v ∈ (vs.foldl (SetBuffer.set (.values α)) b).additions (.values α) ↔
      v ∈ b.additions (.values α) ∨ v ∈ vs := by
  have hadditions (b : SetBuffer (HashSet α)) :
      v ∈ b.additions (.values α) ↔ v ∈ b.toSet.getD ∅ := by
    rw [additions]
    cases b.toSet <;> rfl
  rw [hadditions, hadditions, toSet_foldl_set, HashSetOps.mem_unionWith]

theorem mem_removals_foldl_remove [DecidableEq α] {b : SetBuffer (HashSet α)} {vs : List α}
    {v : α} :
    v ∈ (vs.foldl (SetBuffer.remove (.values α)) b).removals (.values α) ↔
      v ∈ b.removals (.values α) ∨ v ∈ vs := by
  have hremovals (b : SetBuffer (HashSet α)) :
      v ∈ b.removals (.values α) ↔ v ∈ b.toRemove.getD ∅ := by
    rw [removals]
    cases b.toRemove <;> rfl
  rw [hremovals, hremovals, toRemove_foldl_remove, HashSetOps.mem_unionWith]

end SetBuffer

/-- Remove what was removed, then add what was added. -/
def SetChanges.replay {S α : Type*} (ops : HashSetOps S α) (c : SetChanges α) (s : S) : S :=
  ops.unionWith (ops.exceptWith s c.removed) c.added

/-! ### Dictionaries -/

/-- The buffer of a dictionary property: entries to set or update (`U` is the value type, or its
builder) and keys to remove, both `null` at first. -/
structure DictionaryBuffer (K U : Type*) where
  toSet : Option (Dictionary K U)
  toRemove : Option (HashSet K)
  deriving DecidableEq, Inhabited

/-- What `Changes` reports for a dictionary. An update is the new value, or its change record
when the values have a builder. -/
structure DictionaryChanges (K V C : Type*) where
  added : List (K × V)
  removed : List K
  updated : List (K × C)
  deriving DecidableEq, Inhabited

def DictionaryChanges.hasChanged {K V C : Type*} (c : DictionaryChanges K V C) : Bool :=
  !c.added.isEmpty || !c.removed.isEmpty || !c.updated.isEmpty

/-- How an entry of a dictionary buffer meets the value at its key: `diff` is its report against
an existing value, if there is something to report; `appendUpdate` changes an existing value;
`tryCreate` makes the value of a new key. `assertKey` writes the key into a builder first. -/
structure Updater (K U V C : Type*) where
  assertKey : K → U → U
  diff : U → V → Option C
  tryCreate : U → Option V
  appendUpdate : U → V → V

namespace Updater

variable {K U V C : Type*}

/-- The entries of a dictionary of plain values. -/
def value (K V : Type*) [DecidableEq V] : Updater K V V V where
  assertKey _ v := v
  diff v old := if old = v then none else some v
  tryCreate v := some v
  appendUpdate v _ := v

variable (t : Updater K U V C)

/-- What an entry reports against what its key holds: a new value, or an update. -/
def report (k : K) (u : U) : Option V → Option (V ⊕ C)
  | some existing => (t.diff (t.assertKey k u) existing).map .inr
  | none => (t.tryCreate (t.assertKey k u)).map .inl

/-- What an entry makes of what its key holds. -/
def merge (k : K) (u : U) : Option V → Option V
  | some existing => some (t.appendUpdate (t.assertKey k u) existing)
  | none => t.tryCreate (t.assertKey k u)

end Updater

/-- Sort the reports of the entries into the two lists of a change record. -/
def DictionaryChanges.ofReports {K V C : Type*} (reports : List (K × Option (V ⊕ C)))
    (removed : List K) : DictionaryChanges K V C where
  added := reports.filterMap fun r => (r.2.bind Sum.getLeft?).map (r.1, ·)
  removed := removed
  updated := reports.filterMap fun r => (r.2.bind Sum.getRight?).map (r.1, ·)

namespace DictionaryBuffer

variable {K U V C : Type*} [DecidableEq K]

/-- `SetX(key, val)`. -/
def set (b : DictionaryBuffer K U) (k : K) (v : U) : DictionaryBuffer K U :=
  { b with toSet := some ((b.toSet.getD ∅).set k v) }

/-- `UpdateX(key, configure)`: configure the stored builder of the key, or a fresh one. -/
def update (b : DictionaryBuffer K U) (k : K) (fresh : U) (configure : U → U) :
    DictionaryBuffer K U :=
  b.set k (configure (((b.toSet.getD ∅).tryGetValue k).getD fresh))

/-- `RemoveX(key)`. -/
def remove (b : DictionaryBuffer K U) (k : K) : DictionaryBuffer K U :=
  { b with toRemove := some ((b.toRemove.getD ∅).add k) }

omit [DecidableEq K] in
/-- `UnsetX()`. -/
def unset (_ : DictionaryBuffer K U) : DictionaryBuffer K U := ⟨none, none⟩

omit [DecidableEq K] in
/-- The entries of the set buffer, in enumeration order. -/
def entries (b : DictionaryBuffer K U) : List (K × U) := (b.toSet.map (·.entries)).getD []

omit [DecidableEq K] in
/-- The keys of the removal buffer, in enumeration order. -/
def removals (b : DictionaryBuffer K U) : List K := (b.toRemove.map (·.elems)).getD []

/-- The entry of a key in the set buffer. -/
def lookup (b : DictionaryBuffer K U) (k : K) : Option U := b.entries.lookup k

omit [DecidableEq K] in
theorem nodup_entries (b : DictionaryBuffer K U) : (b.entries.map Prod.fst).Nodup := by
  cases h : b.toSet with
  | none => simp [entries, h]
  | some d => simpa [entries, h] using d.nodup_keys

theorem mem_entries_iff {b : DictionaryBuffer K U} {k : K} {u : U} :
    (k, u) ∈ b.entries ↔ b.lookup k = some u :=
  (Dictionary.lookup_eq_some_iff_mem b.nodup_entries).symm

theorem lookup_eq_tryGetValue (b : DictionaryBuffer K U) (k : K) :
    b.lookup k = (b.toSet.getD ∅).tryGetValue k := by
  cases h : b.toSet <;> rw [lookup, entries, h] <;> rfl

theorem lookup_set (b : DictionaryBuffer K U) (k k' : K) (u : U) :
    (b.set k u).lookup k' = if k' = k then some u else b.lookup k' := by
  have hset : (b.set k u).lookup k' = ((b.toSet.getD ∅).set k u).tryGetValue k' := rfl
  rw [hset, lookup_eq_tryGetValue, Dictionary.tryGetValue_set]

theorem lookup_update (b : DictionaryBuffer K U) (k k' : K) (fresh : U) (configure : U → U) :
    (b.update k fresh configure).lookup k' =
      if k' = k then some (configure ((b.lookup k).getD fresh)) else b.lookup k' := by
  rw [update, lookup_set, lookup_eq_tryGetValue b k]

theorem mem_removals_remove {b : DictionaryBuffer K U} {k k' : K} :
    k ∈ (b.remove k').removals ↔ k ∈ b.removals ∨ k = k' := by
  change k ∈ ((b.toRemove.getD ∅).add k').elems ↔ k ∈ (b.toRemove.map (·.elems)).getD [] ∨ _
  rw [← HashSet.mem_def, HashSet.mem_add]
  cases b.toRemove <;> rfl

theorem lookup_update_self (b : DictionaryBuffer K U) (k : K) (fresh : U) (configure : U → U) :
    (b.update k fresh configure).lookup k =
      some (configure (((b.toSet.getD ∅).tryGetValue k).getD fresh)) := by
  rw [update, lookup_set, if_pos rfl]

/-- Two updates of one key are one update. -/
theorem update_update (b : DictionaryBuffer K U) (k : K) (fresh : U) (f g : U → U) :
    (b.update k fresh f).update k fresh g = b.update k fresh fun u => g (f u) := by
  simp only [update, set, Option.getD_some, Dictionary.tryGetValue_set_self, Dictionary.set_set]

variable (t : Updater K U V C) (b : DictionaryBuffer K U) (d : Dictionary K V)

def changes : DictionaryChanges K V C :=
  .ofReports (b.entries.map fun e => (e.1, t.report e.1 e.2 (d.tryGetValue e.1)))
    (b.removals.filter d.containsKey)

/-- Merge every entry of the set buffer, then remove the keys of the removal buffer. -/
def apply : Dictionary K V := (d.alterAll t.merge b.entries).removeAll b.removals

variable {t b d}

theorem mem_added_iff {k : K} {v : V} :
    (k, v) ∈ (b.changes t d).added ↔
      ∃ u, b.lookup k = some u ∧ d.tryGetValue k = none ∧
        t.tryCreate (t.assertKey k u) = some v := by
  simp only [changes, DictionaryChanges.ofReports, List.filterMap_map, List.mem_filterMap,
    Function.comp_apply, Prod.exists, Option.map_eq_some_iff, Option.bind_eq_some_iff,
    Sum.getLeft?_eq_some_iff, Prod.mk.injEq, mem_entries_iff]
  constructor
  · rintro ⟨k', u, hu, v', ⟨r, hr, rfl⟩, rfl, rfl⟩
    refine ⟨u, hu, ?_⟩
    cases hd : d.tryGetValue k' with
    | some old => simp [Updater.report, hd] at hr
    | none => simpa [Updater.report, hd] using hr
  · rintro ⟨u, hu, hd, hv⟩
    exact ⟨k, u, hu, v, ⟨.inl v, by simp [Updater.report, hd, hv], rfl⟩, rfl, rfl⟩

theorem mem_updated_iff {k : K} {c : C} :
    (k, c) ∈ (b.changes t d).updated ↔
      ∃ u v, b.lookup k = some u ∧ d.tryGetValue k = some v ∧
        t.diff (t.assertKey k u) v = some c := by
  simp only [changes, DictionaryChanges.ofReports, List.filterMap_map, List.mem_filterMap,
    Function.comp_apply, Prod.exists, Option.map_eq_some_iff, Option.bind_eq_some_iff,
    Sum.getRight?_eq_some_iff, Prod.mk.injEq, mem_entries_iff]
  constructor
  · rintro ⟨k', u, hu, c', ⟨r, hr, rfl⟩, rfl, rfl⟩
    cases hd : d.tryGetValue k' with
    | some old => exact ⟨u, old, hu, rfl, by simpa [Updater.report, hd] using hr⟩
    | none => simp [Updater.report, hd] at hr
  · rintro ⟨u, v, hu, hd, hc⟩
    exact ⟨k, u, hu, c, ⟨.inr c, by simp [Updater.report, hd, hc], rfl⟩, rfl, rfl⟩

theorem mem_removed_iff {k : K} :
    k ∈ (b.changes t d).removed ↔ k ∈ b.removals ∧ ∃ v, d.tryGetValue k = some v := by
  simp only [changes, DictionaryChanges.ofReports, List.mem_filter, Dictionary.containsKey_iff]

/-- **What a key holds after a merge**: nothing if it was removed, else what its own entry made
of its old value, and its old value if it has no entry. -/
theorem tryGetValue_apply (k : K) :
    (b.apply t d).tryGetValue k =
      if k ∈ b.removals then none
      else match b.lookup k with
        | some u => t.merge k u (d.tryGetValue k)
        | none => d.tryGetValue k := by
  rw [apply, Dictionary.tryGetValue_removeAll, Dictionary.tryGetValue_alterAll _ b.nodup_entries]
  split
  · rfl
  · change ((b.lookup k).bind _).or _ = _
    cases b.lookup k with
    | none => simp
    | some u => cases h : d.tryGetValue k <;> simp [Updater.merge]

/-- **What is true of every entry** stays true of every entry just when the entries that are merged
and not removed make it so. -/
theorem forall_apply_iff {P : K → V → Prop} (hd : ∀ k v, d.tryGetValue k = some v → P k v) :
    (∀ k v, (b.apply t d).tryGetValue k = some v → P k v) ↔
      ∀ k u, b.lookup k = some u → k ∉ b.removals →
        ∀ v, t.merge k u (d.tryGetValue k) = some v → P k v := by
  simp only [tryGetValue_apply]
  constructor
  · intro h k u hu hk v hv
    refine h k v ?_
    rw [if_neg hk, hu]
    exact hv
  · intro h k v hv
    split at hv
    · cases hv
    · rename_i hk
      cases hu : b.lookup k with
      | some u =>
        rw [hu] at hv
        exact h k u hu hk v hv
      | none =>
        rw [hu] at hv
        exact hd k v hv

end DictionaryBuffer

/-! ### Nullable dictionaries -/

namespace DictionaryBuffer

variable {K V : Type*} [DecidableEq K] [DecidableEq V]

/-- `Changes` for a dictionary of plain values that may be `null`. -/
def changesNullable (b : DictionaryBuffer K V) (d : Option (Dictionary K V)) :
    DictionaryChanges K V V := b.changes (.value K V) (d.getD ∅)

/-- `AppendUpdate` for a dictionary of plain values that may be `null`: assigning an entry
dereferences it, while removals are skipped. -/
def applyNullable (b : DictionaryBuffer K V) :
    Option (Dictionary K V) → Except Fault (Option (Dictionary K V))
  | some d => return some (b.apply (.value K V) d)
  | none => if b.entries.isEmpty then return none else throw .nullReference

theorem applyNullable_none_of_isEmpty {b : DictionaryBuffer K V} (h : b.entries = []) :
    b.applyNullable (none : Option (Dictionary K V)) = .ok none := by
  simp only [applyNullable, h, List.isEmpty_nil, if_true]
  rfl

end DictionaryBuffer

namespace DictionaryChanges

variable {K V C : Type*} [DecidableEq K]

/-- Remove what was removed, add what was added, then replay each update on the value its key
holds. -/
def replay (replayValue : C → V → V) (c : DictionaryChanges K V C) (d : Dictionary K V) :
    Dictionary K V :=
  (((d.removeAll c.removed).alterAll (fun _ v _ => some v) c.added).alterAll
    (fun _ u old => old.map (replayValue u)) c.updated)

/-- A change of a dictionary that may be `null` makes a dictionary of it. -/
def replayNullable (c : DictionaryChanges K V V) (d : Option (Dictionary K V)) :
    Option (Dictionary K V) :=
  if c.hasChanged then some (c.replay (fun v _ => v) (d.getD ∅)) else d

end DictionaryChanges

end Connect3Dp
