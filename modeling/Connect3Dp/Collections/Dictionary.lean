import Mathlib.Data.List.Nodup

/-!
# Dictionaries

`Dictionary K V` is a finite map whose entries are enumerated in the order in which their
keys were first set. The keys of the entries are pairwise different, which the structure
carries as a field, so lookups and enumeration agree (`mem_entries_iff`).

`alterAll` and `removeAll` are the loops that merge a buffer into a dictionary; their lookup
equations are what every statement about merged dictionaries is derived from.
-/

namespace Connect3Dp

/-- A finite map with an enumeration order: the entries, with pairwise different keys. -/
structure Dictionary (K V : Type*) where
  entries : List (K × V)
  nodup_keys : (entries.map Prod.fst).Nodup
  deriving DecidableEq

namespace Dictionary

variable {K V : Type*} [DecidableEq K]

instance : EmptyCollection (Dictionary K V) := ⟨⟨[], List.nodup_nil⟩⟩

instance : Inhabited (Dictionary K V) := ⟨∅⟩

/-- The value at a key, if the key is present. -/
def tryGetValue (d : Dictionary K V) (k : K) : Option V := d.entries.lookup k

/-- Whether a key is present. -/
def containsKey (d : Dictionary K V) (k : K) : Bool := (d.tryGetValue k).isSome

/-- The keys, in enumeration order. -/
def keys (d : Dictionary K V) : List K := d.entries.map Prod.fst

/-- The values, in enumeration order. -/
def values (d : Dictionary K V) : List V := d.entries.map Prod.snd

/-- Replace the value at a key in place, or append a new entry. -/
def setEntry (k : K) (v : V) : List (K × V) → List (K × V)
  | [] => [(k, v)]
  | e :: es => if e.1 = k then (k, v) :: es else e :: setEntry k v es

theorem map_fst_setEntry (k : K) (v : V) (es : List (K × V)) :
    (setEntry k v es).map Prod.fst =
      if k ∈ es.map Prod.fst then es.map Prod.fst else es.map Prod.fst ++ [k] := by
  induction es with
  | nil => simp [setEntry]
  | cons e es ih =>
    by_cases h : e.1 = k
    · simp [setEntry, h]
    · have h' : ¬ k = e.1 := fun hk => h hk.symm
      simp only [setEntry, if_neg h, List.map_cons, ih, List.mem_cons, h', false_or]
      split <;> simp

/-- The indexer assignment `d[k] = v`. -/
def set (d : Dictionary K V) (k : K) (v : V) : Dictionary K V :=
  ⟨setEntry k v d.entries, by
    rw [map_fst_setEntry]
    split
    · exact d.nodup_keys
    · rename_i h
      exact List.nodup_append.mpr ⟨d.nodup_keys, List.nodup_singleton k, by
        intro a ha b hb
        rw [List.mem_singleton] at hb
        rintro rfl
        exact h (hb ▸ ha)⟩⟩

/-- Remove the entry of a key, if there is one. -/
def remove (d : Dictionary K V) (k : K) : Dictionary K V :=
  ⟨d.entries.filter fun e => e.1 ≠ k,
    d.nodup_keys.sublist (List.filter_sublist.map Prod.fst)⟩

/-- Assign a value to a key, or leave the dictionary as it is. -/
def assign (d : Dictionary K V) (k : K) : Option V → Dictionary K V
  | some v => d.set k v
  | none => d

/-- Compute a new value for each of the given keys from what the key holds, and assign it. -/
def alterAll {X : Type*} (f : K → X → Option V → Option V) (d : Dictionary K V)
    (kxs : List (K × X)) : Dictionary K V :=
  kxs.foldl (fun d kx => d.assign kx.1 (f kx.1 kx.2 (d.tryGetValue kx.1))) d

/-- Remove the given keys one after another. -/
def removeAll (d : Dictionary K V) (ks : List K) : Dictionary K V := ks.foldl remove d

/-! ### Lookups and enumeration -/

theorem lookup_eq_some_iff_mem {es : List (K × V)} (h : (es.map Prod.fst).Nodup) {k : K} {v : V} :
    es.lookup k = some v ↔ (k, v) ∈ es := by
  induction es with
  | nil => simp
  | cons e es ih =>
    obtain ⟨k', v'⟩ := e
    simp only [List.map_cons, List.nodup_cons] at h
    rcases eq_or_ne k k' with rfl | hk
    · simp only [List.lookup_cons_self, Option.some.injEq, List.mem_cons, Prod.mk.injEq, true_and]
      refine ⟨fun hv => .inl hv.symm, ?_⟩
      rintro (hv | hv)
      · exact hv.symm
      · exact absurd (List.mem_map.mpr ⟨_, hv, rfl⟩) h.1
    · have hb : (k == k') = false := by simpa using hk
      simp only [List.lookup_cons, hb, ih h.2, List.mem_cons, Prod.mk.injEq, hk, false_and,
        false_or]

/-- Enumeration and lookup agree. -/
theorem mem_entries_iff {d : Dictionary K V} {k : K} {v : V} :
    (k, v) ∈ d.entries ↔ d.tryGetValue k = some v :=
  (lookup_eq_some_iff_mem d.nodup_keys).symm

theorem mem_values_iff {d : Dictionary K V} {v : V} :
    v ∈ d.values ↔ ∃ k, d.tryGetValue k = some v := by
  simp only [values, List.mem_map, Prod.exists, exists_eq_right, mem_entries_iff]

theorem mem_keys_iff {d : Dictionary K V} {k : K} :
    k ∈ d.keys ↔ ∃ v, d.tryGetValue k = some v := by
  simp only [keys, List.mem_map, Prod.exists, exists_and_right, exists_eq_right, mem_entries_iff]

theorem containsKey_iff {d : Dictionary K V} {k : K} :
    d.containsKey k = true ↔ ∃ v, d.tryGetValue k = some v := by
  simp [containsKey, Option.isSome_iff_exists]

theorem containsKey_eq_false_iff {d : Dictionary K V} {k : K} :
    d.containsKey k = false ↔ d.tryGetValue k = none := by
  simp [containsKey]

@[simp]
theorem tryGetValue_empty (k : K) : (∅ : Dictionary K V).tryGetValue k = none := rfl

omit [DecidableEq K] in
@[simp]
theorem entries_empty : (∅ : Dictionary K V).entries = [] := rfl

theorem lookup_setEntry (k k' : K) (v : V) (es : List (K × V)) :
    (setEntry k v es).lookup k' = if k' = k then some v else es.lookup k' := by
  induction es with
  | nil =>
    rcases eq_or_ne k' k with rfl | h
    · simp [setEntry]
    · simp [setEntry, List.lookup_cons, h, beq_eq_false_iff_ne.mpr h]
  | cons e es ih =>
    obtain ⟨k₀, v₀⟩ := e
    rcases eq_or_ne k₀ k with rfl | h₀
    · rcases eq_or_ne k' k₀ with rfl | h
      · simp [setEntry]
      · simp [setEntry, List.lookup_cons, h, beq_eq_false_iff_ne.mpr h]
    · rcases eq_or_ne k' k₀ with rfl | h
      · simp [setEntry, h₀]
      · simp [setEntry, h₀, List.lookup_cons, beq_eq_false_iff_ne.mpr h, ih]

theorem tryGetValue_set (d : Dictionary K V) (k k' : K) (v : V) :
    (d.set k v).tryGetValue k' = if k' = k then some v else d.tryGetValue k' :=
  lookup_setEntry k k' v d.entries

@[simp]
theorem tryGetValue_set_self (d : Dictionary K V) (k : K) (v : V) :
    (d.set k v).tryGetValue k = some v := by
  simp [tryGetValue_set]

theorem tryGetValue_set_of_ne (d : Dictionary K V) {k k' : K} (h : k' ≠ k) (v : V) :
    (d.set k v).tryGetValue k' = d.tryGetValue k' := by
  simp [tryGetValue_set, h]

theorem containsKey_set_iff (d : Dictionary K V) (k k' : K) (v : V) :
    (d.set k v).containsKey k' = true ↔ k' = k ∨ d.containsKey k' = true := by
  rw [containsKey, tryGetValue_set]
  split
  · rename_i heq
    exact iff_of_true rfl (.inl heq)
  · rename_i hne
    exact (or_iff_right hne).symm

/-- A dictionary filled from entries with different keys finds each of them. -/
theorem tryGetValue_foldl_set {l : List (K × V)} (h : (l.map Prod.fst).Nodup)
    (d : Dictionary K V) (k : K) :
    (l.foldl (fun d e => d.set e.1 e.2) d).tryGetValue k = (l.lookup k).or (d.tryGetValue k) := by
  induction l generalizing d with
  | nil => simp
  | cons e l ih =>
    obtain ⟨k', v⟩ := e
    obtain ⟨hnotMem, hnodup⟩ := List.nodup_cons.mp h
    rw [List.foldl_cons, ih hnodup, tryGetValue_set]
    rcases eq_or_ne k k' with rfl | hk
    · have hnone : l.lookup k = none := by
        rw [List.lookup_eq_none_iff]
        intro p hp
        rw [bne_iff_ne]
        exact fun hkey => hnotMem (List.mem_map.mpr ⟨p, hp, hkey.symm⟩)
      rw [hnone, List.lookup_cons_self]
      simp
    · have hb : (k == k') = false := by simpa using hk
      simp [List.lookup_cons, hb, hk]

/-- The second assignment to a key is the one that counts. -/
theorem set_set (d : Dictionary K V) (k : K) (v w : V) : (d.set k v).set k w = d.set k w := by
  have hentries : ∀ es : List (K × V), setEntry k w (setEntry k v es) = setEntry k w es := by
    intro es
    induction es with
    | nil => simp [setEntry]
    | cons e es ih =>
      by_cases h : e.1 = k
      · simp [setEntry, h]
      · simp [setEntry, h, ih]
  simp only [set, hentries]

theorem tryGetValue_remove (d : Dictionary K V) (k k' : K) :
    (d.remove k).tryGetValue k' = if k' = k then none else d.tryGetValue k' := by
  ext v
  rw [← mem_entries_iff]
  simp only [remove, List.mem_filter, decide_eq_true_eq, mem_entries_iff]
  split <;> simp_all

theorem containsKey_remove_iff (d : Dictionary K V) (k k' : K) :
    (d.remove k).containsKey k' = true ↔ k' ≠ k ∧ d.containsKey k' = true := by
  rw [containsKey, tryGetValue_remove]
  split
  · rename_i heq
    exact iff_of_false Bool.false_ne_true fun h => h.1 heq
  · rename_i hne
    exact (and_iff_right hne).symm

/-- Assigning the value that is already there changes nothing, not even the order. -/
theorem set_eq_self {d : Dictionary K V} {k : K} {v : V} (h : d.tryGetValue k = some v) :
    d.set k v = d := by
  obtain ⟨es, hn⟩ := d
  simp only [set, tryGetValue, mk.injEq] at h ⊢
  clear hn
  induction es with
  | nil => simp at h
  | cons e es ih =>
    obtain ⟨k₀, v₀⟩ := e
    rcases eq_or_ne k₀ k with rfl | h₀
    · simp only [List.lookup_cons_self, Option.some.injEq] at h
      simp [setEntry, h]
    · rw [List.lookup_cons, beq_eq_false_iff_ne.mpr h₀.symm] at h
      simp [setEntry, h₀, ih h]

/-- Removing a key that is not there changes nothing. -/
theorem remove_eq_self {d : Dictionary K V} {k : K} (h : d.tryGetValue k = none) :
    d.remove k = d := by
  obtain ⟨es, hn⟩ := d
  simp only [remove, mk.injEq]
  refine List.filter_eq_self.mpr fun e he => ?_
  rw [decide_eq_true_eq]
  rintro rfl
  have := mem_entries_iff (d := ⟨es, hn⟩) (k := e.1) (v := e.2) |>.mp he
  rw [h] at this
  cases this

/-- Setting a key puts one entry beside those of the other keys. -/
theorem entries_set_perm (d : Dictionary K V) (k : K) (v : V) :
    (d.set k v).entries.Perm ((k, v) :: (d.remove k).entries) := by
  obtain ⟨es, hn⟩ := d
  simp only [set, remove]
  induction es with
  | nil => exact List.Perm.refl _
  | cons e es ih =>
    simp only [List.map_cons, List.nodup_cons] at hn
    by_cases h : e.1 = k
    · have hkeep : es.filter (fun e => decide (e.1 ≠ k)) = es := by
        refine List.filter_eq_self.mpr fun e' he' => decide_eq_true fun hk => hn.1 ?_
        exact h.symm ▸ hk ▸ List.mem_map_of_mem he'
      rw [setEntry, if_pos h, List.filter_cons, if_neg (by simp [h]), hkeep]
    · have hfilter : (e :: es).filter (fun e => decide (e.1 ≠ k)) =
          e :: es.filter (fun e => decide (e.1 ≠ k)) := by simp [h]
      rw [setEntry, if_neg h, hfilter]
      exact ((ih hn.2).cons e).trans (List.Perm.swap ..)

/-- The entry of a key beside those of the other keys. -/
theorem entries_perm {d : Dictionary K V} {k : K} {v : V} (h : d.tryGetValue k = some v) :
    d.entries.Perm ((k, v) :: (d.remove k).entries) := by
  have hset := d.entries_set_perm k v
  rwa [set_eq_self h] at hset

/-! ### Merging a buffer -/

theorem tryGetValue_assign (d : Dictionary K V) (k k' : K) (o : Option V) :
    (d.assign k o).tryGetValue k' =
      if k' = k then o.or (d.tryGetValue k) else d.tryGetValue k' := by
  cases o with
  | some v => simp [assign, tryGetValue_set]
  | none =>
    rw [assign]
    split
    · rename_i h
      rw [h, Option.none_or]
    · rfl

/-- Assigning back what the key holds changes nothing. -/
theorem assign_eq_self {d : Dictionary K V} {k : K} {o : Option V}
    (h : ∀ v, o = some v → d.tryGetValue k = some v) : d.assign k o = d := by
  cases o with
  | none => rfl
  | some v => exact set_eq_self (h v rfl)

theorem lookup_eq_none_of_notMem {X : Type*} {kxs : List (K × X)} {k : K}
    (h : k ∉ kxs.map Prod.fst) : kxs.lookup k = none := by
  rw [List.lookup_eq_none_iff]
  intro p hp
  rw [bne_iff_ne]
  rintro rfl
  exact h (List.mem_map.mpr ⟨p, hp, rfl⟩)

theorem alterAll_cons {X : Type*} (f : K → X → Option V → Option V) (d : Dictionary K V)
    (kx : K × X) (kxs : List (K × X)) :
    d.alterAll f (kx :: kxs) =
      (d.assign kx.1 (f kx.1 kx.2 (d.tryGetValue kx.1))).alterAll f kxs := rfl

/-- Altering leaves a dictionary as it is when every key computes what it holds. -/
theorem alterAll_eq_self {X : Type*} {f : K → X → Option V → Option V} {d : Dictionary K V}
    {kxs : List (K × X)}
    (h : ∀ kx ∈ kxs, ∀ v, f kx.1 kx.2 (d.tryGetValue kx.1) = some v → d.tryGetValue kx.1 = some v) :
    d.alterAll f kxs = d := by
  induction kxs with
  | nil => rfl
  | cons kx kxs ih =>
    rw [alterAll_cons, assign_eq_self (h kx List.mem_cons_self),
      ih fun kx' hkx' => h kx' (List.mem_cons_of_mem kx hkx')]

/-- Altering pairwise different keys alters each of them once: a key holds what its own entry
computed from its old value, and its old value if there is no entry or it computed nothing. -/
theorem tryGetValue_alterAll {X : Type*} (f : K → X → Option V → Option V)
    {kxs : List (K × X)} (hn : (kxs.map Prod.fst).Nodup) (d : Dictionary K V) (k : K) :
    (d.alterAll f kxs).tryGetValue k =
      ((kxs.lookup k).bind fun x => f k x (d.tryGetValue k)).or (d.tryGetValue k) := by
  induction kxs generalizing d with
  | nil => simp [alterAll]
  | cons kx kxs ih =>
    obtain ⟨k₀, x₀⟩ := kx
    simp only [List.map_cons, List.nodup_cons] at hn
    rw [alterAll_cons, ih hn.2, tryGetValue_assign]
    rcases eq_or_ne k k₀ with rfl | h
    · simp [lookup_eq_none_of_notMem hn.1]
    · simp [List.lookup_cons, beq_eq_false_iff_ne.mpr h, h]

/-- After removing keys, exactly the other keys keep their values. -/
theorem tryGetValue_removeAll (ks : List K) (d : Dictionary K V) (k : K) :
    (d.removeAll ks).tryGetValue k = if k ∈ ks then none else d.tryGetValue k := by
  induction ks generalizing d with
  | nil => simp [removeAll]
  | cons k₀ ks ih =>
    have hstep : d.removeAll (k₀ :: ks) = (d.remove k₀).removeAll ks := rfl
    rw [hstep, ih, tryGetValue_remove]
    by_cases h : k = k₀ <;> simp [h]

theorem removeAll_eq_self {ks : List K} {d : Dictionary K V}
    (h : ∀ k ∈ ks, d.tryGetValue k = none) : d.removeAll ks = d := by
  induction ks with
  | nil => rfl
  | cons k ks ih =>
    have hstep : d.removeAll (k :: ks) = (d.remove k).removeAll ks := rfl
    rw [hstep, remove_eq_self (h k List.mem_cons_self),
      ih fun k' hk' => h k' (List.mem_cons_of_mem k hk')]

end Dictionary

end Connect3Dp
