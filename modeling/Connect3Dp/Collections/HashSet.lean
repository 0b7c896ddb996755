import Mathlib.Data.List.Nodup

/-!
# Hash sets

Two kinds of hash set occur, told apart by whether an element can change while it is stored.

* `HashSet α` holds immutable values. The hash code of an element never changes, so it is
  invisible: the set is a duplicate-free list, and the four operations are membership,
  append and erase.
* `RecordHashSet R` holds references to records that stay mutable. A slot keeps the hash code
  its record had **when it was added**, while a lookup hashes and compares the record as it is
  now (`value : R → α` gives the current contents of every record). A record that changed
  after insertion is therefore enumerated but no longer found.

`HashSetOps` is the interface the two share. The two loops `unionWith` and `exceptWith`, which
merge a buffer into a set, are written once over it.
-/

namespace Connect3Dp

/-! ### Sets of immutable values -/

/-- A hash set of immutable values: its elements in enumeration order, without repeats. -/
@[ext]
structure HashSet (α : Type*) where
  elems : List α
  nodup : elems.Nodup
  deriving DecidableEq

namespace HashSet

variable {α : Type*} [DecidableEq α]

instance : EmptyCollection (HashSet α) := ⟨⟨[], List.nodup_nil⟩⟩

instance : Inhabited (HashSet α) := ⟨∅⟩

instance : Membership α (HashSet α) := ⟨fun s v => v ∈ s.elems⟩

instance (v : α) (s : HashSet α) : Decidable (v ∈ s) := inferInstanceAs (Decidable (v ∈ s.elems))

omit [DecidableEq α] in
theorem mem_def {v : α} {s : HashSet α} : v ∈ s ↔ v ∈ s.elems := Iff.rfl

omit [DecidableEq α] in
@[simp]
theorem notMem_empty (v : α) : v ∉ (∅ : HashSet α) := List.not_mem_nil

/-- Add an element, if it is not there yet. -/
def add (s : HashSet α) (v : α) : HashSet α :=
  if h : v ∈ s then s
  else ⟨s.elems ++ [v], List.nodup_append.mpr ⟨s.nodup, List.nodup_singleton v, by
    intro a ha b hb
    rw [List.mem_singleton] at hb
    rintro rfl
    exact h (hb ▸ ha)⟩⟩

/-- Remove an element, if it is there. -/
def remove (s : HashSet α) (v : α) : HashSet α := ⟨s.elems.erase v, s.nodup.erase v⟩

@[simp]
theorem mem_add {s : HashSet α} {v w : α} : w ∈ s.add v ↔ w ∈ s ∨ w = v := by
  unfold add
  split
  · rename_i h
    exact ⟨.inl, fun hw => hw.elim id fun he => he ▸ h⟩
  · simp [mem_def]

@[simp]
theorem mem_remove {s : HashSet α} {v w : α} : w ∈ s.remove v ↔ w ∈ s ∧ w ≠ v := by
  simp only [mem_def, remove, s.nodup.mem_erase_iff, and_comm]

theorem add_eq_self {s : HashSet α} {v : α} (h : v ∈ s) : s.add v = s := dif_pos h

theorem remove_eq_self {s : HashSet α} {v : α} (h : v ∉ s) : s.remove v = s := by
  simp only [remove, List.erase_of_not_mem h]

theorem elems_add_of_notMem {s : HashSet α} {v : α} (h : v ∉ s) :
    (s.add v).elems = s.elems ++ [v] := by
  rw [add, dif_neg h]

theorem elems_remove {s : HashSet α} {v : α} : (s.remove v).elems = s.elems.erase v := rfl

/-- Removing a new element undoes adding it. -/
theorem remove_add_self {s : HashSet α} {v : α} (h : v ∉ s) : (s.add v).remove v = s := by
  ext1
  rw [elems_remove, elems_add_of_notMem h, List.erase_append_right _ h, List.erase_cons_head,
    List.append_nil]

theorem remove_comm {s : HashSet α} (v w : α) : (s.remove v).remove w = (s.remove w).remove v :=
  HashSet.ext (List.erase_comm v w)

/-- Adding one element and removing another can be exchanged. -/
theorem remove_add_comm {s : HashSet α} {v w : α} (h : v ≠ w) :
    (s.add w).remove v = (s.remove v).add w := by
  by_cases hw : w ∈ s
  · rw [add_eq_self hw, add_eq_self (mem_remove.mpr ⟨hw, h.symm⟩)]
  · have hw' : w ∉ s.remove v := fun hm => hw (mem_remove.mp hm).1
    have hv : v ∉ [w] := by simpa using h
    ext1
    rw [elems_add_of_notMem hw', elems_remove, elems_remove, elems_add_of_notMem hw]
    by_cases hs : v ∈ s.elems
    · rw [List.erase_append_left _ hs]
    · rw [List.erase_append_right _ hs, List.erase_of_not_mem hs, List.erase_of_not_mem hv]

end HashSet

/-! ### Sets of mutable records -/

/-- One slot of a hash set of records: the record, and the hash code it had when it was added. -/
structure HashSlot (R : Type*) where
  record : R
  hashCode : UInt64
  deriving DecidableEq

/-- A hash set of records that may change while they are stored. -/
@[ext]
structure RecordHashSet (R : Type*) where
  slots : List (HashSlot R)
  deriving DecidableEq

namespace RecordHashSet

variable {R α : Type*}

instance : EmptyCollection (RecordHashSet R) := ⟨⟨[]⟩⟩

instance : Inhabited (RecordHashSet R) := ⟨∅⟩

/-- The stored records, in enumeration order. -/
def elems (s : RecordHashSet R) : List R := s.slots.map HashSlot.record

@[simp]
theorem slots_empty : (∅ : RecordHashSet R).slots = [] := rfl

@[simp]
theorem elems_empty : (∅ : RecordHashSet R).elems = [] := rfl

variable [DecidableEq α] [Hashable α] (value : R → α)

/-- Whether a lookup of `r` stops at a slot: the stored hash code is the one `r` has now, and
the two records are equal now. -/
def Finds (r : R) (slot : HashSlot R) : Bool :=
  slot.hashCode == hash (value r) && decide (value slot.record = value r)

/-- Whether a record is found. -/
def contains (s : RecordHashSet R) (r : R) : Bool := s.slots.any (Finds value r)

/-- Add a record under its current hash code, unless it is found already. -/
def add (s : RecordHashSet R) (r : R) : RecordHashSet R :=
  if s.contains value r then s else ⟨s.slots ++ [⟨r, hash (value r)⟩]⟩

/-- Remove the slot a lookup of the record finds, if it finds one. -/
def remove (s : RecordHashSet R) (r : R) : RecordHashSet R := ⟨s.slots.eraseP (Finds value r)⟩

theorem finds_iff {r : R} {slot : HashSlot R} :
    Finds value r slot = true ↔ slot.hashCode = hash (value r) ∧ value slot.record = value r := by
  simp [Finds]

theorem contains_iff {s : RecordHashSet R} {r : R} :
    s.contains value r = true ↔ ∃ slot ∈ s.slots, Finds value r slot = true := by
  simp [contains, List.any_eq_true]

theorem add_eq_self {s : RecordHashSet R} {r : R} (h : s.contains value r = true) :
    s.add value r = s := if_pos h

theorem slots_add_of_not_contains {s : RecordHashSet R} {r : R} (h : s.contains value r = false) :
    (s.add value r).slots = s.slots ++ [⟨r, hash (value r)⟩] := by
  simp [add, h]

theorem mem_elems_add {s : RecordHashSet R} {r r' : R} (h : r' ∈ (s.add value r).elems) :
    r' ∈ s.elems ∨ r' = r := by
  cases hc : s.contains value r with
  | true => exact .inl (by rwa [add_eq_self value hc] at h)
  | false =>
    rw [elems, slots_add_of_not_contains value hc, List.map_append, List.mem_append] at h
    exact h.imp_right fun h => by simpa using h

theorem mem_elems_add_of_mem {s : RecordHashSet R} {r r' : R} (h : r' ∈ s.elems) :
    r' ∈ (s.add value r).elems := by
  cases hc : s.contains value r with
  | true => rwa [add_eq_self value hc]
  | false =>
    rw [elems, slots_add_of_not_contains value hc, List.map_append]
    exact List.mem_append_left _ h

theorem remove_eq_self {s : RecordHashSet R} {r : R} (h : s.contains value r = false) :
    s.remove value r = s := by
  have hp : ∀ slot ∈ s.slots, ¬ Finds value r slot = true := by
    simpa [contains, List.any_eq_false] using h
  simp only [remove, List.eraseP_of_forall_not hp]

/-- A lookup sees nothing of a record but its current contents. -/
theorem finds_congr {r r' : R} (h : value r = value r') : Finds value r = Finds value r' := by
  funext slot
  simp only [Finds, h]

theorem contains_congr {s : RecordHashSet R} {r r' : R} (h : value r = value r') :
    s.contains value r = s.contains value r' := by
  simp only [contains, finds_congr value h]

theorem contains_add {s : RecordHashSet R} {r r' : R} :
    (s.add value r).contains value r' = true ↔
      s.contains value r' = true ∨ value r = value r' := by
  cases hr : s.contains value r with
  | true =>
    rw [add_eq_self value hr]
    exact ⟨.inl, fun h => h.elim id fun hrr => contains_congr value hrr ▸ hr⟩
  | false =>
    simp only [contains_iff, slots_add_of_not_contains value hr, List.mem_append,
      List.mem_singleton, or_and_right, exists_or, exists_eq_left, finds_iff]
    exact or_congr_right ⟨fun h => h.2, fun h => ⟨by rw [h], h⟩⟩

theorem contains_remove_of_ne {s : RecordHashSet R} {r r' : R} (h : value r ≠ value r') :
    (s.remove value r).contains value r' = s.contains value r' := by
  rw [Bool.eq_iff_iff, contains_iff, contains_iff]
  refine exists_congr fun slot => and_congr_left fun hf' => List.mem_eraseP_of_neg fun hf => h ?_
  rw [finds_iff] at hf hf'
  exact hf.2.symm.trans hf'.2

theorem remove_congr {s : RecordHashSet R} {r r' : R} (h : value r = value r') :
    s.remove value r = s.remove value r' := by
  simp only [remove, finds_congr value h]

/-- Removing a new record undoes adding it. -/
theorem remove_add_self {s : RecordHashSet R} {r : R} (h : s.contains value r = false) :
    (s.add value r).remove value r = s := by
  have hnone : ∀ slot ∈ s.slots, ¬ Finds value r slot = true := by
    simpa [contains, List.any_eq_false] using h
  have hself : Finds value r ⟨r, hash (value r)⟩ = true := (finds_iff value).mpr ⟨rfl, rfl⟩
  ext1
  rw [remove, slots_add_of_not_contains value h, List.eraseP_append_right _ hnone,
    List.eraseP_cons_of_pos hself, List.append_nil]

private theorem eraseP_comm {β : Type*} {p q : β → Bool} (h : ∀ x, p x = true → q x = false)
    (l : List β) : (l.eraseP p).eraseP q = (l.eraseP q).eraseP p := by
  induction l with
  | nil => rfl
  | cons x l ih =>
    cases hp : p x <;> cases hq : q x
    · simp [hp, hq, ih]
    · simp [hp, hq]
    · simp [hp, hq]
    · rw [h x hp] at hq
      cases hq

theorem remove_comm {s : RecordHashSet R} {r r' : R} (h : value r ≠ value r') :
    (s.remove value r).remove value r' = (s.remove value r').remove value r := by
  ext1
  refine eraseP_comm (fun slot hf => Bool.eq_false_iff.mpr fun hf' => h ?_) s.slots
  rw [finds_iff] at hf hf'
  exact hf.2.symm.trans hf'.2

/-- Adding one record and removing a different one can be exchanged. -/
theorem remove_add_comm {s : RecordHashSet R} {r r' : R} (h : value r ≠ value r') :
    (s.add value r').remove value r = (s.remove value r).add value r' := by
  have hkeep := contains_remove_of_ne value (s := s) h
  cases hr' : s.contains value r' with
  | true => rw [add_eq_self value hr', add_eq_self value (hkeep.trans hr')]
  | false =>
    have hnew : ∀ slot ∈ [(⟨r', hash (value r')⟩ : HashSlot R)], ¬ Finds value r slot = true := by
      intro slot hslot hf
      rw [List.mem_singleton] at hslot
      exact h (hslot ▸ (finds_iff value).mp hf).2.symm
    ext1
    rw [slots_add_of_not_contains value (hkeep.trans hr'), remove, remove,
      slots_add_of_not_contains value hr']
    by_cases hany : ∃ slot ∈ s.slots, Finds value r slot = true
    · obtain ⟨slot, hmem, hf⟩ := hany
      rw [List.eraseP_append_left hf _ hmem]
    · have hnone : ∀ slot ∈ s.slots, ¬ Finds value r slot = true :=
        fun slot hm hf => hany ⟨slot, hm, hf⟩
      rw [List.eraseP_append_right _ hnone, List.eraseP_of_forall_not hnone,
        List.eraseP_of_forall_not hnew]

theorem mem_elems_add_iff {s : RecordHashSet R} {r r' : R}
    (hinj : ∀ r₀ ∈ s.elems, value r₀ = value r → r₀ = r) :
    r' ∈ (s.add value r).elems ↔ r' ∈ s.elems ∨ r' = r := by
  refine ⟨mem_elems_add value, ?_⟩
  cases hc : s.contains value r with
  | true =>
    rw [add_eq_self value hc]
    obtain ⟨slot, hslot, hfinds⟩ := (contains_iff value).mp hc
    have hmem : slot.record ∈ s.elems := List.mem_map_of_mem hslot
    have hr : slot.record = r := hinj _ hmem ((finds_iff value).mp hfinds).2
    rintro (h | rfl)
    · exact h
    · exact hr ▸ hmem
  | false =>
    have helems : (s.add value r).elems = s.elems ++ [r] := by
      rw [elems, slots_add_of_not_contains value hc, List.map_append]
      rfl
    rw [helems, List.mem_append, List.mem_singleton]
    exact id

private theorem map_eraseP_eq_erase {β γ : Type*} [DecidableEq γ] {f : β → γ} {p : β → Bool} {c : γ}
    {l : List β} (h : ∀ x ∈ l, p x = (f x == c)) : (l.eraseP p).map f = (l.map f).erase c := by
  induction l with
  | nil => rfl
  | cons x l ih =>
    rw [List.forall_mem_cons] at h
    cases hx : p x with
    | true =>
      have hc : f x = c := by rw [← beq_iff_eq, ← h.1, hx]
      rw [List.eraseP_cons_of_pos hx, List.map_cons, hc, List.erase_cons_head]
    | false =>
      have hne : ¬ (f x == c) = true := by rw [← h.1, hx]; exact Bool.false_ne_true
      rw [List.eraseP_cons_of_neg (by rw [hx]; exact Bool.false_ne_true), List.map_cons,
        List.map_cons, List.erase_cons_tail hne, ih h.2]

/-- A record that differs from all the others and whose slot has its current hash code is taken
out of the enumeration. -/
theorem elems_remove_eq_erase [DecidableEq R] {s : RecordHashSet R} {r : R}
    (hfind : ∀ slot ∈ s.slots, slot.record = r → slot.hashCode = hash (value r))
    (hinj : ∀ r' ∈ s.elems, value r' = value r → r' = r) :
    (s.remove value r).elems = s.elems.erase r := by
  have hfinds : ∀ slot ∈ s.slots, Finds value r slot = (slot.record == r) := by
    intro slot hslot
    rw [Bool.eq_iff_iff, finds_iff, beq_iff_eq]
    constructor
    · exact fun h => hinj _ (List.mem_map_of_mem hslot) h.2
    · intro h
      exact ⟨hfind slot hslot h, by rw [h]⟩
  exact map_eraseP_eq_erase hfinds

/-! ### Records that are found -/

/-- The slots whose records have the given contents. -/
def slotsOf (s : RecordHashSet R) (v : α) : List (HashSlot R) :=
  s.slots.filter fun slot => value slot.record = v

/-- One slot has the contents of the record, and it has stored its current hash code. -/
def FoundOnce (s : RecordHashSet R) (r : R) : Prop :=
  ∃ slot, s.slotsOf value (value r) = [slot] ∧ slot.hashCode = hash (value r)

omit [Hashable α] in
theorem mem_slotsOf {s : RecordHashSet R} {v : α} {slot : HashSlot R} :
    slot ∈ s.slotsOf value v ↔ slot ∈ s.slots ∧ value slot.record = v := by
  simp [slotsOf]

omit [Hashable α] in
theorem slotsOf_eq_nil_iff {s : RecordHashSet R} {v : α} :
    s.slotsOf value v = [] ↔ ∀ r ∈ s.elems, value r ≠ v := by
  simp [slotsOf, elems]

theorem mem_elems_remove_of_ne {s : RecordHashSet R} {r r' : R} (h : value r' ≠ value r) :
    r' ∈ (s.remove value r).elems ↔ r' ∈ s.elems := by
  have hnot : ∀ slot : HashSlot R, slot.record = r' → ¬ Finds value r slot = true := by
    rintro slot rfl hfinds
    exact h ((finds_iff value).mp hfinds).2
  simp only [elems, remove, List.mem_map]
  exact exists_congr fun slot => and_congr_left fun hr => List.mem_eraseP_of_neg (hnot slot hr)

theorem slotsOf_remove_self (s : RecordHashSet R) (r : R) :
    (s.remove value r).slotsOf value (value r) =
      (s.slotsOf value (value r)).eraseP (Finds value r) := by
  have hfinds : (fun slot => Finds value r slot && decide (value slot.record = value r)) =
      Finds value r := by
    funext slot
    simp only [Finds, Bool.and_assoc, Bool.and_self]
  rw [slotsOf, slotsOf, List.eraseP_filter, hfinds, remove]

theorem slotsOf_remove_of_ne (s : RecordHashSet R) {r : R} {v : α} (h : value r ≠ v) :
    (s.remove value r).slotsOf value v = s.slotsOf value v := by
  induction hslots : s.slots generalizing s with
  | nil => simp [slotsOf, remove, hslots]
  | cons slot slots ih =>
    have ih := ih ⟨slots⟩ rfl
    simp only [slotsOf, remove, hslots] at ih ⊢
    cases hfinds : Finds value r slot with
    | true =>
      have hne : ¬ value slot.record = v := fun heq => h (((finds_iff value).mp hfinds).2 ▸ heq)
      rw [List.eraseP_cons_of_pos hfinds, List.filter_cons_of_neg (by simpa using hne)]
    | false =>
      rw [List.eraseP_cons_of_neg (by simp [hfinds]), List.filter_cons, List.filter_cons, ih]

/-- Adding a record adds a slot with its contents, unless one is found. -/
theorem slotsOf_add_self (s : RecordHashSet R) (r : R) :
    (s.add value r).slotsOf value (value r) = s.slotsOf value (value r) ++
      if s.contains value r then [] else [⟨r, hash (value r)⟩] := by
  cases hc : s.contains value r with
  | true => rw [add_eq_self value hc, if_pos rfl, List.append_nil]
  | false =>
    rw [slotsOf, slots_add_of_not_contains value hc, List.filter_append, slotsOf,
      if_neg Bool.false_ne_true]
    simp

theorem slotsOf_add_of_ne (s : RecordHashSet R) {r : R} {v : α} (h : value r ≠ v) :
    (s.add value r).slotsOf value v = s.slotsOf value v := by
  cases hc : s.contains value r with
  | true => rw [add_eq_self value hc]
  | false =>
    rw [slotsOf, slots_add_of_not_contains value hc, List.filter_append,
      List.filter_singleton, decide_eq_false h]
    simp [slotsOf]

/-- Removing a stored record leaves none with its contents just when it is found once. -/
theorem slotsOf_eraseP_eq_nil_iff {s : RecordHashSet R} {r : R} (hr : r ∈ s.elems) :
    (s.slotsOf value (value r)).eraseP (Finds value r) = [] ↔ s.FoundOnce value r := by
  obtain ⟨slot, hslot, rfl⟩ := List.mem_map.mp hr
  have hmem : slot ∈ s.slotsOf value (value slot.record) := (mem_slotsOf value).mpr ⟨hslot, rfl⟩
  have hvalue : ∀ slot' ∈ s.slotsOf value (value slot.record),
      value slot'.record = value slot.record := fun slot' h => ((mem_slotsOf value).mp h).2
  rw [FoundOnce]
  generalize s.slotsOf value (value slot.record) = slots at hmem hvalue
  constructor
  · intro hnil
    cases slots with
    | nil => cases hmem
    | cons slot' slots =>
      cases hfinds : Finds value slot.record slot' with
      | true =>
        rw [List.eraseP_cons_of_pos hfinds] at hnil
        exact ⟨slot', by rw [hnil], ((finds_iff value).mp hfinds).1⟩
      | false =>
        rw [List.eraseP_cons_of_neg (by simp [hfinds])] at hnil
        cases hnil
  · rintro ⟨slot', rfl, hhash⟩
    have hfinds : Finds value slot.record slot' = true :=
      (finds_iff value).mpr ⟨hhash, hvalue slot' (List.mem_singleton.mpr rfl)⟩
    rw [List.eraseP_cons_of_pos hfinds]

/-- How many slots a lookup of a record would stop at. -/
def count (s : RecordHashSet R) (r : R) : Nat := s.slots.countP (Finds value r)

theorem contains_eq_false_iff {s : RecordHashSet R} {r : R} :
    s.contains value r = false ↔ s.count value r = 0 := by
  simp [contains, count]

theorem count_add_of_ne {s : RecordHashSet R} {r r' : R} (h : value r ≠ value r') :
    (s.add value r).count value r' = s.count value r' := by
  cases hc : s.contains value r with
  | true => rw [add_eq_self value hc]
  | false =>
    have hnot : ¬ Finds value r' ⟨r, hash (value r)⟩ = true := fun hfinds =>
      h ((finds_iff value).mp hfinds).2
    rw [count, slots_add_of_not_contains value hc, List.countP_append,
      List.countP_singleton, if_neg hnot]
    rfl

theorem count_remove (s : RecordHashSet R) (r r' : R) :
    (s.remove value r).count value r' =
      s.count value r' - if value r = value r' then 1 else 0 := by
  induction hslots : s.slots generalizing s with
  | nil => simp [count, remove, hslots]
  | cons slot slots ih =>
    have ih := ih ⟨slots⟩ rfl
    simp only [count, remove, hslots] at ih ⊢
    by_cases h : value r = value r'
    · rw [← finds_congr value h] at ih ⊢
      cases hfinds : Finds value r slot with
      | true => rw [List.eraseP_cons_of_pos hfinds, List.countP_cons, if_pos hfinds, if_pos h]; rfl
      | false =>
        have hnot : ¬ Finds value r slot = true := by rw [hfinds]; exact Bool.false_ne_true
        rw [List.eraseP_cons_of_neg hnot, List.countP_cons_of_neg hnot,
          List.countP_cons_of_neg hnot, ih]
    · rw [if_neg h, Nat.sub_zero] at ih ⊢
      cases hfinds : Finds value r slot with
      | true =>
        have hnot : ¬ Finds value r' slot = true := fun hfinds' =>
          h (((finds_iff value).mp hfinds).2.symm.trans ((finds_iff value).mp hfinds').2)
        rw [List.eraseP_cons_of_pos hfinds, List.countP_cons_of_neg hnot]
      | false =>
        have hnot : ¬ Finds value r slot = true := by rw [hfinds]; exact Bool.false_ne_true
        rw [List.eraseP_cons_of_neg hnot, List.countP_cons, List.countP_cons, ih]

end RecordHashSet

/-! ### The shared interface -/

/-- What a set property of the generated code is accessed through. -/
structure HashSetOps (S α : Type*) where
  elems : S → List α
  contains : S → α → Bool
  add : S → α → S
  remove : S → α → S

namespace HashSetOps

variable {S R α : Type*}

/-- The operations of a set of immutable values. -/
def values (α : Type*) [DecidableEq α] : HashSetOps (HashSet α) α where
  elems s := s.elems
  contains s v := decide (v ∈ s)
  add := HashSet.add
  remove := HashSet.remove

/-- The operations of a set of records, with the given current contents. -/
def records [DecidableEq α] [Hashable α] (value : R → α) : HashSetOps (RecordHashSet R) R where
  elems := RecordHashSet.elems
  contains := RecordHashSet.contains value
  add := RecordHashSet.add value
  remove := RecordHashSet.remove value

variable (ops : HashSetOps S α)

/-- Add the given elements one after another. -/
def unionWith (s : S) (vs : List α) : S := vs.foldl ops.add s

/-- Remove the given elements one after another. -/
def exceptWith (s : S) (vs : List α) : S := vs.foldl ops.remove s

@[simp]
theorem unionWith_nil (s : S) : ops.unionWith s [] = s := rfl

@[simp]
theorem unionWith_cons (s : S) (v : α) (vs : List α) :
    ops.unionWith s (v :: vs) = ops.unionWith (ops.add s v) vs := rfl

@[simp]
theorem exceptWith_nil (s : S) : ops.exceptWith s [] = s := rfl

@[simp]
theorem exceptWith_cons (s : S) (v : α) (vs : List α) :
    ops.exceptWith s (v :: vs) = ops.exceptWith (ops.remove s v) vs := rfl

section Records

variable [DecidableEq α] [Hashable α] {value : R → α} {s : RecordHashSet R} {rs : List R} {r' : R}

/-- Records whose contents are pairwise different are all added. -/
theorem mem_elems_unionWith_iff
    (hinj : ∀ r ∈ rs, ∀ r', r' ∈ s.elems ∨ r' ∈ rs → value r' = value r → r' = r) :
    r' ∈ ((records value).unionWith s rs).elems ↔ r' ∈ s.elems ∨ r' ∈ rs := by
  induction rs generalizing s with
  | nil => simp
  | cons r rs ih =>
    have hadd : ∀ r₀, r₀ ∈ (s.add value r).elems ↔ r₀ ∈ s.elems ∨ r₀ = r := fun r₀ =>
      RecordHashSet.mem_elems_add_iff value fun r₁ hr₁ => hinj r List.mem_cons_self r₁ (.inl hr₁)
    have hrest : ∀ r₀ ∈ rs, ∀ r₁, r₁ ∈ (s.add value r).elems ∨ r₁ ∈ rs → value r₁ = value r₀ →
        r₁ = r₀ := by
      intro r₀ hr₀ r₁ hr₁
      refine hinj r₀ (List.mem_cons_of_mem r hr₀) r₁ ?_
      rw [hadd, or_assoc] at hr₁
      rwa [List.mem_cons]
    rw [unionWith_cons]
    refine (ih hrest).trans ?_
    rw [hadd, or_assoc, List.mem_cons]

/-- Records that differ from all the others and whose slots have their current hash codes are
all taken out. -/
theorem elems_exceptWith_eq_diff [DecidableEq R]
    (hfind : ∀ slot ∈ s.slots, slot.record ∈ rs → slot.hashCode = hash (value slot.record))
    (hinj : ∀ r' ∈ s.elems, ∀ r ∈ rs, value r' = value r → r' = r) :
    ((records value).exceptWith s rs).elems = s.elems.diff rs := by
  induction rs generalizing s with
  | nil => rfl
  | cons r rs ih =>
    have hslots : (s.remove value r).slots.Sublist s.slots := List.eraseP_sublist
    have herase : (s.remove value r).elems = s.elems.erase r :=
      RecordHashSet.elems_remove_eq_erase value
        (fun slot hslot hr => hr ▸ hfind slot hslot (hr ▸ List.mem_cons_self))
        fun r' hr' => hinj r' hr' r List.mem_cons_self
    rw [exceptWith_cons, List.diff_cons, ← herase]
    refine ih (fun slot hslot hr => ?_) fun r' hr' r₀ hr₀ => ?_
    · exact hfind slot (hslots.subset hslot) (List.mem_cons_of_mem r hr)
    · exact hinj r' ((hslots.map _).subset hr') r₀ (List.mem_cons_of_mem r hr₀)

theorem slots_exceptWith_sublist (s : RecordHashSet R) (rs : List R) :
    ((records value).exceptWith s rs).slots.Sublist s.slots := by
  induction rs generalizing s with
  | nil => exact List.Sublist.refl _
  | cons r rs ih => exact (ih (s.remove value r)).trans List.eraseP_sublist

/-- Removals of other records leave a record alone, and of those with equal contents one is made. -/
theorem slotsOf_exceptWith (hn : (rs.map value).Nodup) (v : α) :
    ((∀ r ∈ rs, value r ≠ v) →
      ((records value).exceptWith s rs).slotsOf value v = s.slotsOf value v) ∧
    ∀ r ∈ rs, value r = v → ((records value).exceptWith s rs).slotsOf value v =
      (s.slotsOf value v).eraseP (RecordHashSet.Finds value r) := by
  induction rs generalizing s with
  | nil => exact ⟨fun _ => rfl, nofun⟩
  | cons r rs ih =>
    rw [List.map_cons, List.nodup_cons] at hn
    obtain ⟨hother, hequal⟩ := ih (s := s.remove value r) hn.2
    refine ⟨fun hne => ?_, fun r₀ hr₀ hv => ?_⟩
    · rw [List.forall_mem_cons] at hne
      exact (hother hne.2).trans (RecordHashSet.slotsOf_remove_of_ne value s hne.1)
    · obtain rfl | hr₀ := List.mem_cons.mp hr₀
      · -- no record behind it has its contents
        have hrest : ∀ r ∈ rs, value r ≠ v := fun r hr heq =>
          hn.1 (List.mem_map.mpr ⟨r, hr, heq.trans hv.symm⟩)
        subst hv
        exact (hother hrest).trans (RecordHashSet.slotsOf_remove_self value s r₀)
      · have hne : value r ≠ v := fun heq =>
          hn.1 (List.mem_map.mpr ⟨r₀, hr₀, hv.trans heq.symm⟩)
        refine (hequal r₀ hr₀ hv).trans ?_
        rw [RecordHashSet.slotsOf_remove_of_ne value s hne]

variable (value s rs) in
/-- What a set gathers has pairwise different contents, and each of the records has one of them. -/
theorem elems_unionWith (hn : (s.elems.map value).Nodup)
    (hcurrent : ∀ slot ∈ s.slots, slot.hashCode = hash (value slot.record)) :
    (((records value).unionWith s rs).elems.map value).Nodup ∧
      (∀ r ∈ ((records value).unionWith s rs).elems, r ∈ s.elems ∨ r ∈ rs) ∧
      ∀ r, r ∈ s.elems ∨ r ∈ rs →
        ∃ r' ∈ ((records value).unionWith s rs).elems, value r' = value r := by
  induction rs generalizing s with
  | nil =>
    exact ⟨hn, fun r hr => .inl hr, fun r hr => ⟨r, hr.resolve_right List.not_mem_nil, rfl⟩⟩
  | cons r rs ih =>
    have hadd : ((s.add value r).elems.map value).Nodup ∧
        (∀ slot ∈ (s.add value r).slots, slot.hashCode = hash (value slot.record)) ∧
        ∃ r' ∈ (s.add value r).elems, value r' = value r := by
      cases hfound : s.contains value r with
      | true =>
        rw [RecordHashSet.add_eq_self value hfound]
        obtain ⟨slot, hslot, hfinds⟩ := (RecordHashSet.contains_iff value).mp hfound
        exact ⟨hn, hcurrent, slot.record, List.mem_map_of_mem hslot,
          ((RecordHashSet.finds_iff value).mp hfinds).2⟩
      | false =>
        have hslots := RecordHashSet.slots_add_of_not_contains value hfound
        rw [RecordHashSet.elems, hslots, List.map_append, List.map_append]
        refine ⟨?_, fun slot hslot => ?_, r, by simp, rfl⟩
        · refine List.nodup_append.mpr ⟨hn, List.nodup_singleton _, ?_⟩
          rintro v hv _ hr rfl
          obtain ⟨r', hr', hvalue⟩ := List.mem_map.mp hv
          obtain ⟨slot, hslot, rfl⟩ := List.mem_map.mp hr'
          -- an equal record would have been found under its current hash code
          have heq : value slot.record = value r := hvalue.trans (List.mem_singleton.mp hr)
          have hfinds : RecordHashSet.Finds value r slot = true :=
            (RecordHashSet.finds_iff value).mpr ⟨heq ▸ hcurrent slot hslot, heq⟩
          rw [(RecordHashSet.contains_iff value).mpr ⟨slot, hslot, hfinds⟩] at hfound
          cases hfound
        · obtain hslot | hslot := List.mem_append.mp hslot
          · exact hcurrent slot hslot
          · obtain rfl := List.mem_singleton.mp hslot
            rfl
    obtain ⟨hn', hcurrent', hself⟩ := hadd
    obtain ⟨hnodup, hsub, hrep⟩ := ih _ hn' hcurrent'
    rw [unionWith_cons]
    refine ⟨hnodup, fun r' hr' => ?_, fun r' hr' => ?_⟩
    · obtain hr' | hr' := hsub r' hr'
      · obtain hr' | rfl := RecordHashSet.mem_elems_add value hr'
        · exact .inl hr'
        · exact .inr List.mem_cons_self
      · exact .inr (List.mem_cons_of_mem r hr')
    · obtain hr' | hr' := hr'
      · exact hrep r' (.inl (RecordHashSet.mem_elems_add_of_mem value hr'))
      · obtain rfl | hr' := List.mem_cons.mp hr'
        · obtain ⟨r₁, hr₁, hvalue⟩ := hself
          obtain ⟨r₂, hr₂, hvalue'⟩ := hrep r₁ (.inl hr₁)
          exact ⟨r₂, hr₂, hvalue'.trans hvalue⟩
        · exact hrep r' (.inr hr')

/-- **Removing all records of a set** empties it just when each of them is found once. -/
theorem slots_exceptWith_elems_eq_nil_iff :
    ((records value).exceptWith s ((records value).unionWith ∅ s.elems).elems).slots = [] ↔
      ∀ r ∈ s.elems, s.FoundOnce value r := by
  obtain ⟨hnodup, hsub, hrep⟩ := elems_unionWith value ∅ s.elems List.nodup_nil nofun
  -- the slots with the contents of a record lose the one that is found
  have hslots : ∀ r ∈ s.elems,
      ((records value).exceptWith s ((records value).unionWith ∅ s.elems).elems).slotsOf value
        (value r) = (s.slotsOf value (value r)).eraseP (RecordHashSet.Finds value r) := by
    intro r hr
    obtain ⟨r', hr', hvalue⟩ := hrep r (.inr hr)
    rw [← RecordHashSet.finds_congr value hvalue]
    exact (slotsOf_exceptWith hnodup (value r)).2 r' hr' hvalue
  constructor
  · intro hnil r hr
    rw [← RecordHashSet.slotsOf_eraseP_eq_nil_iff value hr, ← hslots r hr,
      RecordHashSet.slotsOf, hnil, List.filter_nil]
  · intro hfound
    rw [List.eq_nil_iff_forall_not_mem]
    intro slot hslot
    have hstored : slot ∈ s.slots := (slots_exceptWith_sublist s _).subset hslot
    have hr : slot.record ∈ s.elems := List.mem_map_of_mem hstored
    have hmem := (RecordHashSet.mem_slotsOf value).mpr ⟨hslot, rfl⟩
    rw [hslots slot.record hr,
      (RecordHashSet.slotsOf_eraseP_eq_nil_iff value hr).mpr (hfound _ hr)] at hmem
    cases hmem

theorem count_unionWith_of_ne {r : R} (h : ∀ v ∈ rs, value v ≠ value r) :
    ((records value).unionWith s rs).count value r = s.count value r := by
  induction rs generalizing s with
  | nil => rfl
  | cons v rs ih =>
    rw [List.forall_mem_cons] at h
    exact (ih h.2).trans (RecordHashSet.count_add_of_ne value h.1)

/-- Each removal of a record's contents takes one of the slots that a lookup finds. -/
theorem count_exceptWith (s : RecordHashSet R) (ws : List R) (r : R) :
    ((records value).exceptWith s ws).count value r =
      s.count value r - ws.countP fun w => value w = value r := by
  induction ws generalizing s with
  | nil => rfl
  | cons w ws ih =>
    have hremove : ((records value).remove s w).count value r = _ :=
      RecordHashSet.count_remove value s w r
    rw [exceptWith_cons, ih, hremove, List.countP_cons, Nat.sub_sub, Nat.add_comm]
    simp only [decide_eq_true_eq]

end Records

variable [DecidableEq α]

theorem mem_unionWith {s : HashSet α} {vs : List α} {w : α} :
    w ∈ (values α).unionWith s vs ↔ w ∈ s ∨ w ∈ vs := by
  induction vs generalizing s with
  | nil => simp
  | cons v vs ih =>
    rw [unionWith_cons, ih]
    simp [values, or_assoc]

/-- New elements that differ from each other come behind the others. -/
theorem elems_unionWith_of_nodup {s : HashSet α} {vs : List α} (h : (s.elems ++ vs).Nodup) :
    ((values α).unionWith s vs).elems = s.elems ++ vs := by
  induction vs generalizing s with
  | nil => rw [List.append_nil]; rfl
  | cons v vs ih =>
    have hv : v ∉ s := fun hv =>
      (List.nodup_append.mp h).2.2 v hv v List.mem_cons_self rfl
    have helems : (s.add v).elems = s.elems ++ [v] := HashSet.elems_add_of_notMem hv
    have hadd : ((s.add v).elems ++ vs).Nodup := by
      rw [helems, List.append_assoc]
      exact h
    rw [unionWith_cons]
    refine (ih hadd).trans ?_
    rw [helems, List.append_assoc]
    rfl

theorem mem_exceptWith {s : HashSet α} {vs : List α} {w : α} :
    w ∈ (values α).exceptWith s vs ↔ w ∈ s ∧ w ∉ vs := by
  induction vs generalizing s with
  | nil => simp
  | cons v vs ih =>
    rw [exceptWith_cons, ih]
    simp [values, and_assoc]

end HashSetOps

end Connect3Dp
