import Connect3Dp.Builder.Buffers

/-!
# When a report is exact

`Changes` and `AppendUpdate` are separate programs: one reports what a buffer would do, the
other does it. This file says when the two agree, for a set and for a dictionary.

A set's report is exact unless an element that is not in the set is both added and removed by
the same buffer (`SetBuffer.Separated`). A dictionary's report is exact unless an entry under a
removed key is reported, or an entry is reported differently from what it does to an existing
value (`DictionaryBuffer.Exact`).
-/

namespace Connect3Dp

/-! ### Sets -/

/-- What the two kinds of hash set have in common: membership is decided by a key, and an
operation on one key does not disturb another. -/
structure HashSetOps.Lawful {S α β : Type*} (ops : HashSetOps S α) (key : α → β) : Prop where
  contains_congr : ∀ {s a b}, key a = key b → ops.contains s a = ops.contains s b
  contains_add : ∀ {s a b},
    ops.contains (ops.add s a) b = true ↔ ops.contains s b = true ∨ key a = key b
  contains_remove_of_ne : ∀ {s a b}, key a ≠ key b →
    ops.contains (ops.remove s a) b = ops.contains s b
  add_eq_self : ∀ {s a}, ops.contains s a = true → ops.add s a = s
  remove_eq_self : ∀ {s a}, ops.contains s a = false → ops.remove s a = s
  remove_congr : ∀ {s a b}, key a = key b → ops.remove s a = ops.remove s b
  remove_add_self : ∀ {s a}, ops.contains s a = false → ops.remove (ops.add s a) a = s
  remove_add_comm : ∀ {s a b}, key a ≠ key b →
    ops.remove (ops.add s b) a = ops.add (ops.remove s a) b
  remove_comm : ∀ {s a b}, key a ≠ key b →
    ops.remove (ops.remove s a) b = ops.remove (ops.remove s b) a
  length_remove : ∀ {s a}, ops.contains s a = true →
    (ops.elems (ops.remove s a)).length < (ops.elems s).length

theorem HashSetOps.lawful_values {α : Type*} [DecidableEq α] :
    (HashSetOps.values α).Lawful id where
  contains_congr h := congrArg _ h
  contains_add := by
    simp only [HashSetOps.values, decide_eq_true_eq, HashSet.mem_add]
    exact or_congr_right eq_comm
  contains_remove_of_ne h := by
    simp only [HashSetOps.values, decide_eq_decide, HashSet.mem_remove, and_iff_left_iff_imp]
    exact fun _ hb => h hb.symm
  add_eq_self h := HashSet.add_eq_self (of_decide_eq_true h)
  remove_eq_self h := HashSet.remove_eq_self (of_decide_eq_false h)
  remove_congr h := congrArg _ h
  remove_add_self h := HashSet.remove_add_self (of_decide_eq_false h)
  remove_add_comm h := HashSet.remove_add_comm h
  remove_comm _ := HashSet.remove_comm _ _
  length_remove {s a} h := by
    have ha : a ∈ s.elems := of_decide_eq_true h
    change (s.elems.erase a).length < _
    rw [List.length_erase_of_mem ha]
    exact Nat.sub_lt (List.length_pos_of_mem ha) Nat.one_pos

theorem HashSetOps.lawful_records {R α : Type*} [DecidableEq α] [Hashable α] (value : R → α) :
    (HashSetOps.records value).Lawful value where
  contains_congr := RecordHashSet.contains_congr value
  contains_add := RecordHashSet.contains_add value
  contains_remove_of_ne := RecordHashSet.contains_remove_of_ne value
  add_eq_self := RecordHashSet.add_eq_self value
  remove_eq_self := RecordHashSet.remove_eq_self value
  remove_congr := RecordHashSet.remove_congr value
  remove_add_self := RecordHashSet.remove_add_self value
  remove_add_comm := RecordHashSet.remove_add_comm value
  remove_comm := RecordHashSet.remove_comm value
  length_remove {s a} h := by
    obtain ⟨slot, hmem, hf⟩ := (RecordHashSet.contains_iff value).mp h
    change (List.map _ (s.slots.eraseP _)).length < (List.map _ s.slots).length
    rw [List.length_map, List.length_map, List.length_eraseP_of_mem hmem hf]
    exact Nat.sub_lt (List.length_pos_of_mem hmem) Nat.one_pos

namespace SetBuffer

variable {S α β : Type*} {ops : HashSetOps S α} {key : α → β}

/-- No element that is absent from the set is both added and removed. -/
def Separated (ops : HashSetOps S α) (key : α → β) (b : SetBuffer S) (s : S) : Prop :=
  ∀ v ∈ b.additions ops, ops.contains s v = false → ∀ w ∈ b.removals ops, key w ≠ key v

theorem unionWith_filter (hops : ops.Lawful key) {s t : S} {vs : List α}
    (hsub : ∀ v, ops.contains s v = true → ops.contains t v = true) :
    ops.unionWith t (vs.filter fun v => !ops.contains s v) = ops.unionWith t vs := by
  induction vs generalizing t with
  | nil => rfl
  | cons v vs ih =>
    have hsub' : ∀ w, ops.contains s w = true → ops.contains (ops.add t v) w = true :=
      fun w hw => hops.contains_add.mpr (.inl (hsub w hw))
    cases hv : ops.contains s v with
    | true =>
      rw [List.filter_cons_of_neg (by simp [hv]), HashSetOps.unionWith_cons,
        hops.add_eq_self (hsub v hv), ih hsub]
    | false =>
      rw [List.filter_cons_of_pos (by simp [hv]), HashSetOps.unionWith_cons,
        HashSetOps.unionWith_cons, ih hsub']

theorem contains_of_contains_remove (hops : ops.Lawful key) {s : S} {v w : α}
    (h : ops.contains (ops.remove s v) w = true) : ops.contains s w = true := by
  by_cases hvw : key v = key w
  · by_contra hw
    rw [← hops.contains_congr hvw, Bool.not_eq_true] at hw
    rw [hops.remove_eq_self hw, ← hops.contains_congr hvw, hw] at h
    cases h
  · exact hops.contains_remove_of_ne hvw ▸ h

theorem exceptWith_filter (hops : ops.Lawful key) {s t : S} {vs : List α}
    (hsub : ∀ v, ops.contains t v = true → ops.contains s v = true) :
    ops.exceptWith t (vs.filter fun v => ops.contains s v) = ops.exceptWith t vs := by
  induction vs generalizing t with
  | nil => rfl
  | cons v vs ih =>
    have hsub' : ∀ w, ops.contains (ops.remove t v) w = true → ops.contains s w = true :=
      fun w hw => hsub w (contains_of_contains_remove hops hw)
    cases hv : ops.contains s v with
    | true =>
      rw [List.filter_cons_of_pos hv, HashSetOps.exceptWith_cons, HashSetOps.exceptWith_cons,
        ih hsub']
    | false =>
      have hv' : ops.contains t v = false :=
        Bool.eq_false_iff.mpr fun h => Bool.eq_false_iff.mp hv (hsub v h)
      rw [List.filter_cons_of_neg (by simp [hv]), HashSetOps.exceptWith_cons,
        hops.remove_eq_self hv', ih hsub]

theorem remove_unionWith (hops : ops.Lawful key) {s : S} {w : α} {vs : List α}
    (hne : ∀ v ∈ vs, key w ≠ key v) :
    ops.remove (ops.unionWith s vs) w = ops.unionWith (ops.remove s w) vs := by
  induction vs generalizing s with
  | nil => rfl
  | cons v vs ih =>
    rw [HashSetOps.unionWith_cons, ih fun x hx => hne x (List.mem_cons_of_mem v hx),
      hops.remove_add_comm (hne v List.mem_cons_self), HashSetOps.unionWith_cons]

theorem exceptWith_unionWith (hops : ops.Lawful key) {s : S} {vs ws : List α}
    (hne : ∀ v ∈ vs, ∀ w ∈ ws, key w ≠ key v) :
    ops.exceptWith (ops.unionWith s vs) ws = ops.unionWith (ops.exceptWith s ws) vs := by
  induction ws generalizing s with
  | nil => rfl
  | cons w ws ih =>
    rw [HashSetOps.exceptWith_cons,
      remove_unionWith hops fun v hv => hne v hv w List.mem_cons_self,
      ih fun v hv x hx => hne v hv x (List.mem_cons_of_mem w hx), HashSetOps.exceptWith_cons]

theorem contains_unionWith (hops : ops.Lawful key) {s : S} {vs : List α} {w : α} :
    ops.contains (ops.unionWith s vs) w = true ↔
      ops.contains s w = true ∨ ∃ v ∈ vs, key v = key w := by
  induction vs generalizing s with
  | nil => simp
  | cons v vs ih =>
    rw [HashSetOps.unionWith_cons, ih, hops.contains_add, or_assoc]
    simp only [List.mem_cons, exists_eq_or_imp]

theorem contains_of_contains_exceptWith (hops : ops.Lawful key) {s : S} {vs : List α} {w : α}
    (h : ops.contains (ops.exceptWith s vs) w = true) : ops.contains s w = true := by
  induction vs generalizing s with
  | nil => exact h
  | cons v vs ih => exact contains_of_contains_remove hops (ih h)

/-- An element that was absent is in the set at most once after a union. -/
theorem remove_unionWith_of_absent (hops : ops.Lawful key) {s : S} {vs : List α} {v : α}
    (h : ops.contains (ops.remove s v) v = false) :
    ops.contains (ops.remove (ops.unionWith s vs) v) v = false := by
  induction vs generalizing s with
  | nil => exact h
  | cons x vs ih =>
    refine ih ?_
    by_cases hxv : key v = key x
    · cases hx : ops.contains s x with
      | true => rwa [hops.add_eq_self hx]
      | false => rw [hops.remove_congr hxv, hops.remove_add_self hx, hops.contains_congr hxv, hx]
    · rw [hops.remove_add_comm hxv, Bool.eq_false_iff, ne_eq, hops.contains_add, not_or, h]
      exact ⟨Bool.false_ne_true, fun hx => hxv hx.symm⟩

theorem not_contains_exceptWith (hops : ops.Lawful key) {s : S} {ws : List α} {v w : α}
    (h : ops.contains (ops.remove s v) v = false) (hw : w ∈ ws) (hwv : key w = key v) :
    ops.contains (ops.exceptWith s ws) v = false := by
  induction ws generalizing s with
  | nil => cases hw
  | cons x ws ih =>
    rw [HashSetOps.exceptWith_cons]
    by_cases hxv : key x = key v
    · rw [hops.remove_congr hxv, Bool.eq_false_iff]
      exact fun hc => Bool.eq_false_iff.mp h (contains_of_contains_exceptWith hops hc)
    · rcases List.mem_cons.mp hw with rfl | hw
      · exact absurd hwv hxv
      · refine ih ?_ hw
        rw [hops.remove_comm hxv, hops.contains_remove_of_ne hxv, h]

/-- A set's report is exact just when the buffer is separated: replaying it gives what
`AppendUpdate` gives. -/
theorem replay_changes_iff (hops : ops.Lawful key) {b : SetBuffer S} {s : S} :
    (b.changes ops s).replay ops s = b.apply ops s ↔ b.Separated ops key s := by
  have hreplay : (b.changes ops s).replay ops s =
      ops.unionWith (ops.exceptWith s (b.removals ops)) (b.changes ops s).added := by
    rw [SetChanges.replay, changes, exceptWith_filter hops fun _ h => h]
  rw [hreplay]
  constructor
  · intro heq v hv hsv w hw hwv
    have hadded : v ∈ (b.changes ops s).added := by simp [changes, hv, hsv]
    have hin : ops.contains (b.apply ops s) v = true := by
      rw [← heq, contains_unionWith hops]
      exact .inr ⟨v, hadded, rfl⟩
    have hout : ops.contains (b.apply ops s) v = false := by
      refine not_contains_exceptWith hops (remove_unionWith_of_absent hops ?_) hw hwv
      rw [hops.remove_eq_self hsv, hsv]
    rw [hin] at hout
    cases hout
  · intro hsep
    have happly : b.apply ops s =
        ops.exceptWith (ops.unionWith s (b.changes ops s).added) (b.removals ops) := by
      rw [apply, changes, unionWith_filter hops fun _ h => h]
    rw [happly, exceptWith_unionWith hops]
    intro v hv w hw
    obtain ⟨hv, hsv⟩ := List.mem_filter.mp hv
    exact hsep v hv (by simpa using hsv) w hw

theorem hasChanged_eq_false_iff {b : SetBuffer S} {s : S} :
    (b.changes ops s).hasChanged = false ↔
      (∀ v ∈ b.additions ops, ops.contains s v = true) ∧
        ∀ v ∈ b.removals ops, ops.contains s v = false := by
  simp [SetChanges.hasChanged, changes, List.filter_eq_nil_iff]

/-- A set that reports nothing changes nothing. -/
theorem apply_eq_self (hops : ops.Lawful key) {b : SetBuffer S} {s : S}
    (h : (b.changes ops s).hasChanged = false) : b.apply ops s = s := by
  have hsep : b.Separated ops key s := by
    intro v hv hsv
    rw [(hasChanged_eq_false_iff.mp h).1 v hv] at hsv
    cases hsv
  rw [← (replay_changes_iff hops).mpr hsep]
  simp only [SetChanges.hasChanged, Bool.or_eq_false_iff, Bool.not_eq_false',
    List.isEmpty_iff] at h
  rw [SetChanges.replay, h.1, h.2, HashSetOps.exceptWith_nil, HashSetOps.unionWith_nil]

theorem length_exceptWith_le (hops : ops.Lawful key) (s : S) (vs : List α) :
    (ops.elems (ops.exceptWith s vs)).length ≤ (ops.elems s).length := by
  induction vs generalizing s with
  | nil => exact le_rfl
  | cons v vs ih =>
    refine (ih _).trans ?_
    cases hv : ops.contains s v with
    | true => exact (hops.length_remove hv).le
    | false => rw [hops.remove_eq_self hv]

/-- Replaying a report that is not empty is a real change. -/
theorem replay_changes_ne (hops : ops.Lawful key) {b : SetBuffer S} {s : S}
    (h : (b.changes ops s).hasChanged = true) : (b.changes ops s).replay ops s ≠ s := by
  intro heq
  cases hadd : (b.changes ops s).added with
  | cons v vs =>
    have hv : v ∈ (b.changes ops s).added := by simp [hadd]
    have hsv : ops.contains s v = false := by simpa using (List.mem_filter.mp hv).2
    rw [← heq, SetChanges.replay, Bool.eq_false_iff, ne_eq, contains_unionWith hops] at hsv
    exact hsv (.inr ⟨v, hv, rfl⟩)
  | nil =>
    cases hrem : (b.changes ops s).removed with
    | nil => simp [SetChanges.hasChanged, hadd, hrem] at h
    | cons v vs =>
      have hv : v ∈ (b.changes ops s).removed := by simp [hrem]
      have hsv : ops.contains s v = true := (List.mem_filter.mp hv).2
      rw [SetChanges.replay, hadd, hrem, HashSetOps.unionWith_nil, HashSetOps.exceptWith_cons]
        at heq
      have hlt := hops.length_remove hsv
      have hle := length_exceptWith_le hops (ops.remove s v) vs
      rw [heq] at hle
      omega

end SetBuffer

/-- A report lists the two differences between the sets before and after. -/
structure SetDiff {α : Type*} (s s' : HashSet α) (c : SetChanges α) : Prop where
  added_iff : ∀ v, v ∈ c.added ↔ v ∈ s' ∧ v ∉ s
  removed_iff : ∀ v, v ∈ c.removed ↔ v ∈ s ∧ v ∉ s'

/-- **A set's report is the pair of set differences just when its buffer is separated.** -/
theorem setDiff_iff {α : Type*} [DecidableEq α] {b : SetBuffer (HashSet α)} {s : HashSet α} :
    SetDiff s (b.apply (.values α) s) (b.changes (.values α) s) ↔ b.Separated (.values α) id s := by
  have hmem : ∀ v, v ∈ b.apply (.values α) s ↔
      (v ∈ s ∨ v ∈ b.additions (.values α)) ∧ v ∉ b.removals (.values α) := fun v => by
    rw [SetBuffer.apply, HashSetOps.mem_exceptWith, HashSetOps.mem_unionWith]
  have hadded : ∀ v, v ∈ (b.changes (.values α) s).added ↔
      v ∈ b.additions (.values α) ∧ v ∉ s := fun v => by
    simp [SetBuffer.changes, HashSetOps.values]
  have hremoved : ∀ v, v ∈ (b.changes (.values α) s).removed ↔
      v ∈ b.removals (.values α) ∧ v ∈ s := fun v => by
    simp [SetBuffer.changes, HashSetOps.values]
  constructor
  · intro h v hv hsv w hw hwv
    have hnot : v ∉ s := of_decide_eq_false hsv
    have hin := ((h.added_iff v).mp ((hadded v).mpr ⟨hv, hnot⟩)).1
    rw [id, id] at hwv
    exact ((hmem v).mp hin).2 (hwv ▸ hw)
  · intro hsep
    constructor
    · intro v
      rw [hadded, hmem]
      constructor
      · rintro ⟨hv, hnot⟩
        have hkept : v ∉ b.removals (.values α) := fun hr =>
          hsep v hv (decide_eq_false hnot) v hr rfl
        exact ⟨⟨.inr hv, hkept⟩, hnot⟩
      · rintro ⟨⟨hv, -⟩, hnot⟩
        exact ⟨hv.resolve_left hnot, hnot⟩
    · intro v
      rw [hremoved, hmem]
      constructor
      · rintro ⟨hr, hv⟩
        exact ⟨hv, fun h => h.2 hr⟩
      · rintro ⟨hv, hout⟩
        refine ⟨?_, hv⟩
        by_contra hr
        exact hout ⟨.inl hv, hr⟩

/-! ### Dictionaries -/

/-- A report lists the keys that disappeared, the new entries, and the keys whose value differs
(up to `same`), each with an update that gives the new value when it is replayed on the old. -/
structure DictionaryDiff {K V C : Type*} [DecidableEq K] (same : V → V → Prop)
    (replayValue : C → V → V) (d d' : Dictionary K V) (c : DictionaryChanges K V C) : Prop where
  removed_iff : ∀ k, k ∈ c.removed ↔ (∃ v, d.tryGetValue k = some v) ∧ d'.tryGetValue k = none
  added_iff : ∀ k v, (k, v) ∈ c.added ↔ d.tryGetValue k = none ∧ d'.tryGetValue k = some v
  updated_iff : ∀ k, (∃ x, (k, x) ∈ c.updated) ↔
    ∃ v v', d.tryGetValue k = some v ∧ d'.tryGetValue k = some v' ∧ ¬ same v v'
  replay_updated : ∀ k x v v', (k, x) ∈ c.updated → d.tryGetValue k = some v →
    d'.tryGetValue k = some v' → same (replayValue x v) v'

namespace DictionaryDiff

variable {K V C : Type*} [DecidableEq K] {same : V → V → Prop} {replayValue : C → V → V}
  {d d' : Dictionary K V} {c : DictionaryChanges K V C}

/-- Nothing is to be reported about a dictionary that stays as it is. -/
theorem refl (hsame : ∀ v, same v v) (d : Dictionary K V) :
    DictionaryDiff same replayValue d d (default : DictionaryChanges K V C) := by
  refine ⟨fun k => ⟨nofun, ?_⟩, fun k v => ⟨nofun, ?_⟩, fun k => ⟨nofun, ?_⟩, fun k x v v' => nofun⟩
  · rintro ⟨⟨v, hv⟩, hnone⟩
    rw [hv] at hnone
    cases hnone
  · rintro ⟨hnone, hv⟩
    rw [hv] at hnone
    cases hnone
  · rintro ⟨v, v', hv, hv', hne⟩
    rw [hv] at hv'
    cases hv'
    exact absurd (hsame v) hne

/-- No key is reported twice. -/
theorem disjoint (h : DictionaryDiff same replayValue d d' c) (k : K) :
    (k ∈ c.removed → ∀ v, (k, v) ∉ c.added) ∧ (k ∈ c.removed → ∀ x, (k, x) ∉ c.updated) ∧
      ∀ v x, (k, v) ∈ c.added → (k, x) ∉ c.updated := by
  refine ⟨fun hr v ha => ?_, fun hr x hu => ?_, fun v x ha hu => ?_⟩
  · obtain ⟨⟨w, hw⟩, -⟩ := (h.removed_iff k).mp hr
    rw [((h.added_iff k v).mp ha).1] at hw
    cases hw
  · obtain ⟨w, w', -, hw', -⟩ := (h.updated_iff k).mp ⟨x, hu⟩
    rw [((h.removed_iff k).mp hr).2] at hw'
    cases hw'
  · obtain ⟨w, w', hw, -, -⟩ := (h.updated_iff k).mp ⟨x, hu⟩
    rw [((h.added_iff k v).mp ha).1] at hw
    cases hw

/-- Replaying what was removed, then what was added, then what was updated on the old dictionary
gives the new one, up to `same`. -/
theorem replay (h : DictionaryDiff same replayValue d d' c) (hsame : ∀ v, same v v)
    (hadded : (c.added.map Prod.fst).Nodup) (hupdated : (c.updated.map Prod.fst).Nodup) (k : K) :
    Option.Rel same ((c.replay replayValue d).tryGetValue k) (d'.tryGetValue k) := by
  rw [DictionaryChanges.replay, Dictionary.tryGetValue_alterAll _ hupdated,
    Dictionary.tryGetValue_alterAll _ hadded, Dictionary.tryGetValue_removeAll]
  have ha : ∀ v, c.added.lookup k = some v ↔ d.tryGetValue k = none ∧ d'.tryGetValue k = some v :=
    fun v => (Dictionary.lookup_eq_some_iff_mem hadded).trans (h.added_iff k v)
  have hu : ∀ x, c.updated.lookup k = some x ↔ (k, x) ∈ c.updated := fun x =>
    Dictionary.lookup_eq_some_iff_mem hupdated
  have hu' := h.updated_iff k
  have hr := h.removed_iff k
  cases hd : d.tryGetValue k with
  | none =>
    -- nothing to remove or to update: the key is added, or stays absent
    have hnou : c.updated.lookup k = none := Option.eq_none_iff_forall_not_mem.mpr fun x hx => by
      obtain ⟨v, v', hv, -⟩ := hu'.mp ⟨x, (hu x).mp hx⟩
      rw [hd] at hv
      cases hv
    have hadd : c.added.lookup k = d'.tryGetValue k := Option.ext fun v => by
      rw [ha, and_iff_right hd]
    rw [hnou, hadd, Option.bind_none, Option.none_or, ite_self, Option.or_none]
    cases d'.tryGetValue k with
    | none => exact .none
    | some v' => exact .some (hsame v')
  | some v =>
    have hnoa : c.added.lookup k = none := Option.eq_none_iff_forall_not_mem.mpr fun w hw => by
      rw [((ha w).mp hw).1] at hd
      cases hd
    rw [hnoa, Option.bind_none, Option.none_or]
    cases hd' : d'.tryGetValue k with
    | none =>
      rw [if_pos (hr.mpr ⟨⟨v, hd⟩, hd'⟩)]
      cases c.updated.lookup k <;> exact .none
    | some v' =>
      have hkeep : k ∉ c.removed := fun hk => by
        rw [(hr.mp hk).2] at hd'
        cases hd'
      rw [if_neg hkeep]
      cases hlook : c.updated.lookup k with
      | some x => exact .some (h.replay_updated k x v v' ((hu x).mp hlook) hd hd')
      | none =>
        refine .some ?_
        by_contra hne
        obtain ⟨x, hx⟩ := hu'.mpr ⟨v, v', hd, hd', hne⟩
        rw [(hu x).mpr hx] at hlook
        cases hlook

/-- The replay gives the new dictionary itself when values are compared by equality. -/
theorem replay_eq {replayValue : C → V → V}
    (h : DictionaryDiff (· = ·) replayValue d d' c)
    (hadded : (c.added.map Prod.fst).Nodup) (hupdated : (c.updated.map Prod.fst).Nodup) (k : K) :
    (c.replay replayValue d).tryGetValue k = d'.tryGetValue k := by
  have hrel := h.replay (fun _ => rfl) hadded hupdated k
  generalize (c.replay replayValue d).tryGetValue k = o at hrel ⊢
  generalize d'.tryGetValue k = o' at hrel ⊢
  cases hrel with
  | none => rfl
  | some heq => rw [heq]

end DictionaryDiff

theorem DictionaryChanges.eq_default_of_not_hasChanged {K V C : Type*}
    {c : DictionaryChanges K V C} (h : c.hasChanged = false) : c = default := by
  obtain ⟨added, removed, updated⟩ := c
  simp only [DictionaryChanges.hasChanged, Bool.or_eq_false_iff, Bool.not_eq_false',
    List.isEmpty_iff] at h
  obtain ⟨⟨rfl, rfl⟩, rfl⟩ := h
  rfl

theorem SetChanges.eq_default_of_not_hasChanged {α : Type*} {c : SetChanges α}
    (h : c.hasChanged = false) : c = default := by
  obtain ⟨added, removed⟩ := c
  simp only [SetChanges.hasChanged, Bool.or_eq_false_iff, Bool.not_eq_false',
    List.isEmpty_iff] at h
  obtain ⟨rfl, rfl⟩ := h
  rfl

/-- An entry reports to an existing value exactly what it does to it. -/
def Updater.Faithful {K U V C : Type*} (t : Updater K U V C) (same : V → V → Prop)
    (replayValue : C → V → V) (u : U) (v : V) : Prop :=
  match t.diff u v with
  | some c => same (replayValue c v) (t.appendUpdate u v) ∧ ¬ same v (t.appendUpdate u v)
  | none => same v (t.appendUpdate u v)

/-- For an entry with a change record, being faithful means that replaying the record gives what
the entry does. -/
theorem Updater.faithful_iff {K U V C : Type*} {t : Updater K U V C} {same : V → V → Prop}
    {replayValue : C → V → V} (hsame : Equivalence same) {u : U} {v : V} {c : C} {r : Prop}
    [Decidable r] (hdiff : t.diff u v = if r then some c else none)
    (hsilent : ¬ r → same (replayValue c v) v) (hproper : r → ¬ same (replayValue c v) v) :
    t.Faithful same replayValue u v ↔ same (replayValue c v) (t.appendUpdate u v) := by
  rw [Updater.Faithful, hdiff]
  by_cases h : r
  · rw [if_pos h]
    exact and_iff_left_of_imp fun hr hv => hproper h (hsame.trans hr (hsame.symm hv))
  · rw [if_neg h]
    exact ⟨fun hv => hsame.trans (hsilent h) hv,
      fun hr => hsame.trans (hsame.symm (hsilent h)) hr⟩

/-- An entry whose change record replays to what it does is faithful. -/
theorem Updater.faithful_of_replay {K U V C : Type*} {t : Updater K U V C} {replayValue : C → V → V}
    {u : U} {v : V} {c : C} {changed : Bool}
    (hdiff : t.diff u v = if changed then some c else none)
    (hreplay : replayValue c v = t.appendUpdate u v)
    (hchanged : changed = false ↔ t.appendUpdate u v = v) :
    t.Faithful (· = ·) replayValue u v := by
  refine (Updater.faithful_iff ⟨fun _ => rfl, Eq.symm, Eq.trans⟩ hdiff (fun h => ?_)
    fun h hv => ?_).mpr hreplay
  · rw [hreplay, hchanged.mp (Bool.not_eq_true _ ▸ h)]
  · rw [hchanged.mpr (hreplay ▸ hv)] at h
    cases h

theorem Updater.faithful_value {K V : Type*} [DecidableEq V] (u v : V) :
    (Updater.value K V).Faithful (· = ·) (fun x _ => x) u v := by
  by_cases h : v = u <;> simp [Updater.Faithful, Updater.value, h]

namespace DictionaryBuffer

variable {K U V C : Type*} [DecidableEq K] {t : Updater K U V C} {b : DictionaryBuffer K U}
  {d : Dictionary K V}

/-- No entry under a removed key is reported, and every other entry is faithful to the value its
key holds. -/
def Exact (same : V → V → Prop) (replayValue : C → V → V) (t : Updater K U V C)
    (b : DictionaryBuffer K U) (d : Dictionary K V) : Prop :=
  ∀ k u, b.lookup k = some u →
    if k ∈ b.removals then t.report k u (d.tryGetValue k) = none
    else ∀ v, d.tryGetValue k = some v → t.Faithful same replayValue (t.assertKey k u) v

private theorem nodup_filterMap {X Y Z : Type*} (f : X → Option Z) {l : List (Y × X)}
    (h : (l.map Prod.fst).Nodup) :
    ((l.filterMap fun e => (f e.2).map (e.1, ·)).map Prod.fst).Nodup := by
  refine h.sublist ?_
  induction l with
  | nil => exact List.Sublist.refl _
  | cons e l ih =>
    have h' : (l.map Prod.fst).Nodup := by
      rw [List.map_cons, List.nodup_cons] at h
      exact h.2
    cases he : f e.2 with
    | none => simpa [he] using (ih h').cons e.1
    | some z => simpa [he] using (ih h').cons_cons e.1

private theorem map_fst_reports (b : DictionaryBuffer K U) (d : Dictionary K V)
    (t : Updater K U V C) :
    (b.entries.map fun e => (e.1, t.report e.1 e.2 (d.tryGetValue e.1))).map Prod.fst =
      b.entries.map Prod.fst := by
  rw [List.map_map]
  rfl

theorem nodup_added : ((b.changes t d).added.map Prod.fst).Nodup :=
  nodup_filterMap (fun r => r.bind Sum.getLeft?) (map_fst_reports b d t ▸ b.nodup_entries)

theorem nodup_updated : ((b.changes t d).updated.map Prod.fst).Nodup :=
  nodup_filterMap (fun r => r.bind Sum.getRight?) (map_fst_reports b d t ▸ b.nodup_entries)

variable {same : V → V → Prop} {replayValue : C → V → V}

/-- A key that disappears is one that is removed and had a value. This needs no condition. -/
theorem mem_removed_iff_lost {k : K} : k ∈ (b.changes t d).removed ↔
    (∃ v, d.tryGetValue k = some v) ∧ (b.apply t d).tryGetValue k = none := by
  rw [mem_removed_iff, tryGetValue_apply]
  constructor
  · rintro ⟨hk, hv⟩
    exact ⟨hv, if_pos hk⟩
  · rintro ⟨⟨v, hv⟩, hnone⟩
    refine ⟨?_, v, hv⟩
    by_contra hk
    rw [if_neg hk, hv] at hnone
    cases hu : b.lookup k <;> rw [hu] at hnone <;> cases hnone

/-- A reported entry of a removed key would have to be in the new dictionary. -/
theorem report_eq_none_of_dictionaryDiff
    (h : DictionaryDiff same replayValue d (b.apply t d) (b.changes t d)) {k : K} {u : U}
    (hu : b.lookup k = some u) (hk : k ∈ b.removals) :
    t.report k u (d.tryGetValue k) = none := by
  have hnone : (b.apply t d).tryGetValue k = none := by rw [tryGetValue_apply, if_pos hk]
  by_contra hne
  obtain ⟨r, hr⟩ := Option.ne_none_iff_exists'.mp hne
  cases hd : d.tryGetValue k with
  | none =>
    rw [hd] at hr
    obtain ⟨v, hv, -⟩ := Option.map_eq_some_iff.mp hr
    have hadded : (k, v) ∈ (b.changes t d).added := mem_added_iff.mpr ⟨u, hu, hd, hv⟩
    have hsome := ((h.added_iff k v).mp hadded).2
    rw [hnone] at hsome
    cases hsome
  | some v =>
    rw [hd] at hr
    obtain ⟨c, hc, -⟩ := Option.map_eq_some_iff.mp hr
    have hupdated : (k, c) ∈ (b.changes t d).updated := mem_updated_iff.mpr ⟨u, v, hu, hd, hc⟩
    obtain ⟨w, w', -, hw', -⟩ := (h.updated_iff k).mp ⟨c, hupdated⟩
    rw [hnone] at hw'
    cases hw'

theorem faithful_of_dictionaryDiff
    (h : DictionaryDiff same replayValue d (b.apply t d) (b.changes t d)) {k : K} {u : U} {v : V}
    (hu : b.lookup k = some u) (hk : k ∉ b.removals) (hd : d.tryGetValue k = some v) :
    t.Faithful same replayValue (t.assertKey k u) v := by
  have hnew : (b.apply t d).tryGetValue k = some (t.appendUpdate (t.assertKey k u) v) := by
    rw [tryGetValue_apply, if_neg hk, hu, hd]
    rfl
  unfold Updater.Faithful
  split
  · rename_i c hc
    have hmem : (k, c) ∈ (b.changes t d).updated := mem_updated_iff.mpr ⟨u, v, hu, hd, hc⟩
    refine ⟨h.replay_updated k c v _ hmem hd hnew, ?_⟩
    obtain ⟨w, w', hw, hw', hne⟩ := (h.updated_iff k).mp ⟨c, hmem⟩
    rw [hd] at hw
    rw [hnew] at hw'
    cases hw
    cases hw'
    exact hne
  · rename_i hc
    by_contra hne
    obtain ⟨c, hmem⟩ := (h.updated_iff k).mpr ⟨v, _, hd, hnew, hne⟩
    obtain ⟨u', w, hu', hw, hc'⟩ := mem_updated_iff.mp hmem
    rw [hu] at hu'
    rw [hd] at hw
    cases hu'
    cases hw
    rw [hc] at hc'
    cases hc'

namespace Exact

variable (h : b.Exact same replayValue t d) {k : K} {u : U} {v : V}
include h

/-- The key of a reported entry is not removed. -/
theorem notMem_removals {r : V ⊕ C} (hu : b.lookup k = some u)
    (hr : t.report k u (d.tryGetValue k) = some r) : k ∉ b.removals := by
  intro hk
  have hnone := h k u hu
  rw [if_pos hk, hr] at hnone
  cases hnone

theorem faithful (hu : b.lookup k = some u) (hk : k ∉ b.removals)
    (hd : d.tryGetValue k = some v) : t.Faithful same replayValue (t.assertKey k u) v := by
  have hkept := h k u hu
  rw [if_neg hk] at hkept
  exact hkept v hd

/-- A reported update, with what it makes of the value. -/
theorem of_mem_updated {c : C} (hmem : (k, c) ∈ (b.changes t d).updated) :
    ∃ v v', d.tryGetValue k = some v ∧ (b.apply t d).tryGetValue k = some v' ∧
      same (replayValue c v) v' ∧ ¬ same v v' := by
  obtain ⟨u, v, hu, hd, hc⟩ := mem_updated_iff.mp hmem
  have hk : k ∉ b.removals :=
    h.notMem_removals (r := .inr c) hu (by simp [Updater.report, hd, hc])
  have hfaithful := h.faithful hu hk hd
  rw [Updater.Faithful, hc] at hfaithful
  refine ⟨v, t.appendUpdate (t.assertKey k u) v, hd, ?_, hfaithful.1, hfaithful.2⟩
  rw [tryGetValue_apply, if_neg hk, hu, hd]
  rfl

theorem mem_added_iff_gained : (k, v) ∈ (b.changes t d).added ↔
    d.tryGetValue k = none ∧ (b.apply t d).tryGetValue k = some v := by
  rw [mem_added_iff, tryGetValue_apply]
  constructor
  · rintro ⟨u, hu, hd, hv⟩
    have hk : k ∉ b.removals :=
      h.notMem_removals (r := .inl v) hu (by simp [Updater.report, hd, hv])
    rw [if_neg hk, hu, hd]
    exact ⟨rfl, hv⟩
  · rintro ⟨hd, hv⟩
    split at hv
    · cases hv
    · rw [hd] at hv
      cases hu : b.lookup k with
      | none => rw [hu] at hv; cases hv
      | some u => rw [hu] at hv; exact ⟨u, rfl, hd, hv⟩

theorem exists_mem_updated_iff (hsame : ∀ v, same v v) :
    (∃ c, (k, c) ∈ (b.changes t d).updated) ↔
      ∃ v v', d.tryGetValue k = some v ∧ (b.apply t d).tryGetValue k = some v' ∧
        ¬ same v v' := by
  constructor
  · rintro ⟨c, hmem⟩
    obtain ⟨v, v', hd, hv', -, hne⟩ := h.of_mem_updated hmem
    exact ⟨v, v', hd, hv', hne⟩
  · rintro ⟨v, v', hd, hv', hne⟩
    rw [tryGetValue_apply] at hv'
    split at hv'
    · cases hv'
    · rename_i hk
      rw [hd] at hv'
      cases hu : b.lookup k with
      | none =>
        rw [hu] at hv'
        cases hv'
        exact absurd (hsame v) hne
      | some u =>
        rw [hu] at hv'
        cases hv'
        have hfaithful := h.faithful hu hk hd
        cases hc : t.diff (t.assertKey k u) v with
        | none => rw [Updater.Faithful, hc] at hfaithful; exact absurd hfaithful hne
        | some c => exact ⟨c, mem_updated_iff.mpr ⟨u, v, hu, hd, hc⟩⟩

end Exact

/-- **A dictionary's report is the difference of the dictionaries just when its buffer is
exact.** -/
theorem dictionaryDiff_iff (hsame : ∀ v, same v v) :
    DictionaryDiff same replayValue d (b.apply t d) (b.changes t d) ↔
      b.Exact same replayValue t d := by
  constructor
  · intro h k u hu
    split
    · rename_i hk
      exact report_eq_none_of_dictionaryDiff h hu hk
    · rename_i hk
      exact fun v hd => faithful_of_dictionaryDiff h hu hk hd
  · intro h
    refine ⟨fun k => mem_removed_iff_lost, fun k v => h.mem_added_iff_gained,
      fun k => h.exists_mem_updated_iff hsame, fun k c v v' hmem hd hd' => ?_⟩
    obtain ⟨w, w', hw, hw', hreplay, -⟩ := h.of_mem_updated hmem
    rw [hd] at hw
    rw [hd'] at hw'
    cases hw
    cases hw'
    exact hreplay

end DictionaryBuffer

/-- What a subscriber relies on: the report is the difference of the dictionaries, no key is
reported twice, and replaying the report on the old dictionary gives the new one. -/
structure DictionaryLaw {K V C : Type*} [DecidableEq K] (same : V → V → Prop)
    (replayValue : C → V → V) (d d' : Dictionary K V) (c : DictionaryChanges K V C) : Prop
    extends DictionaryDiff same replayValue d d' c where
  disjoint : ∀ k, (k ∈ c.removed → ∀ v, (k, v) ∉ c.added) ∧
    (k ∈ c.removed → ∀ x, (k, x) ∉ c.updated) ∧ ∀ v x, (k, v) ∈ c.added → (k, x) ∉ c.updated
  replay : ∀ k, Option.Rel same ((c.replay replayValue d).tryGetValue k) (d'.tryGetValue k)

theorem DictionaryLaw.refl {K V C : Type*} [DecidableEq K] {same : V → V → Prop}
    {replayValue : C → V → V} (hsame : ∀ v, same v v) (d : Dictionary K V) :
    DictionaryLaw same replayValue d d (default : DictionaryChanges K V C) :=
  have h := DictionaryDiff.refl hsame d
  { h with disjoint := h.disjoint, replay := h.replay hsame List.nodup_nil List.nodup_nil }

namespace DictionaryBuffer

variable {K U V C : Type*} [DecidableEq K] {t : Updater K U V C} {b : DictionaryBuffer K U}
  {d : Dictionary K V} {same : V → V → Prop} {replayValue : C → V → V}

theorem dictionaryLaw_iff (hsame : ∀ v, same v v) :
    DictionaryLaw same replayValue d (b.apply t d) (b.changes t d) ↔
      b.Exact same replayValue t d := by
  refine ⟨fun h => (dictionaryDiff_iff hsame).mp h.toDictionaryDiff, fun h => ?_⟩
  have hdiff := (dictionaryDiff_iff hsame).mpr h
  exact { hdiff with
    disjoint := hdiff.disjoint
    replay := hdiff.replay hsame nodup_added nodup_updated }

/-- No entry under a removed key has anything to report: what the key holds agrees with it, or
the key is absent and the entry cannot create a value. -/
def Unmixed (t : Updater K U V C) (b : DictionaryBuffer K U) (d : Dictionary K V) : Prop :=
  ∀ k u, b.lookup k = some u → k ∈ b.removals → t.report k u (d.tryGetValue k) = none

/-- A buffer is exact when nothing is mixed and every entry of a key that is kept is faithful. -/
theorem exact_iff : b.Exact same replayValue t d ↔ b.Unmixed t d ∧
    ∀ k u v, b.lookup k = some u → k ∉ b.removals → d.tryGetValue k = some v →
      t.Faithful same replayValue (t.assertKey k u) v := by
  constructor
  · intro h
    refine ⟨fun k u hu hk => ?_, fun k u v hu hk hd => h.faithful hu hk hd⟩
    have hnone := h k u hu
    rwa [if_pos hk] at hnone
  · rintro ⟨hunmixed, hfaithful⟩ k u hu
    split
    · rename_i hk
      exact hunmixed k u hu hk
    · rename_i hk
      exact fun v hd => hfaithful k u v hu hk hd

/-- When every entry is faithful, only mixed entries spoil a report. -/
theorem exact_iff_unmixed (hfaithful : ∀ u v, t.Faithful same replayValue u v) :
    b.Exact same replayValue t d ↔ b.Unmixed t d := by
  rw [exact_iff]
  exact and_iff_left fun k u v _ _ _ => hfaithful _ v

/-! ### Silent buffers -/

theorem hasChanged_eq_false_iff :
    (b.changes t d).hasChanged = false ↔
      (∀ k u, b.lookup k = some u → t.report k u (d.tryGetValue k) = none) ∧
        ∀ k ∈ b.removals, d.tryGetValue k = none := by
  have hempty : (b.changes t d).hasChanged = false ↔
      (b.changes t d).added = [] ∧ (b.changes t d).removed = [] ∧ (b.changes t d).updated = [] := by
    simp [DictionaryChanges.hasChanged, and_assoc]
  simp only [hempty, List.eq_nil_iff_forall_not_mem, Prod.forall, mem_added_iff, mem_removed_iff,
    mem_updated_iff]
  constructor
  · rintro ⟨ha, hr, hu⟩
    refine ⟨fun k u hku => ?_, fun k hk => ?_⟩
    · cases hd : d.tryGetValue k with
      | none =>
        have hnone : t.tryCreate (t.assertKey k u) = none :=
          Option.eq_none_iff_forall_ne_some.mpr fun v hv => ha k v ⟨u, hku, hd, hv⟩
        simp [Updater.report, hnone]
      | some v =>
        have hnone : t.diff (t.assertKey k u) v = none :=
          Option.eq_none_iff_forall_ne_some.mpr fun c hc => hu k c ⟨u, v, hku, hd, hc⟩
        simp [Updater.report, hnone]
    · by_contra hne
      exact hr k ⟨hk, Option.ne_none_iff_exists'.mp hne⟩
  · rintro ⟨hrep, hrem⟩
    refine ⟨?_, ?_, ?_⟩
    · rintro k v ⟨u, hku, hd, hv⟩
      have := hrep k u hku
      simp [Updater.report, hd, hv] at this
    · rintro k ⟨hk, v, hv⟩
      rw [hrem k hk] at hv
      cases hv
    · rintro k c ⟨u, v, hku, hd, hc⟩
      have := hrep k u hku
      simp [Updater.report, hd, hc] at this

/-- A dictionary that reports nothing changes nothing, if its entries do not. -/
theorem apply_eq_self (h : (b.changes t d).hasChanged = false)
    (hentry : ∀ k u v, b.lookup k = some u → d.tryGetValue k = some v →
      t.diff (t.assertKey k u) v = none → t.appendUpdate (t.assertKey k u) v = v) :
    b.apply t d = d := by
  obtain ⟨hrep, hrem⟩ := hasChanged_eq_false_iff.mp h
  have hmerge : d.alterAll t.merge b.entries = d := by
    refine Dictionary.alterAll_eq_self fun e he v hv => ?_
    obtain ⟨k, u⟩ := e
    have hu := mem_entries_iff.mp he
    have hnone := hrep k u hu
    cases hd : d.tryGetValue k with
    | none =>
      rw [hd, Updater.merge] at hv
      rw [hd, Updater.report, Option.map_eq_none_iff] at hnone
      rw [hnone] at hv
      cases hv
    | some old =>
      rw [hd, Updater.merge] at hv
      rw [hd, Updater.report, Option.map_eq_none_iff] at hnone
      rw [← hv, hentry k u old hu hd hnone]
  rw [apply, hmerge, Dictionary.removeAll_eq_self hrem]

/-- Replaying a report that is not empty is a real change, if replaying each update is. -/
theorem not_replay_same (same : V → V → Prop) (replayValue : C → V → V)
    (hproper : ∀ k u v c, b.lookup k = some u → d.tryGetValue k = some v →
      t.diff (t.assertKey k u) v = some c → ¬ same (replayValue c v) v)
    (h : (b.changes t d).hasChanged = true) :
    ¬ ∀ k, Option.Rel same (((b.changes t d).replay replayValue d).tryGetValue k)
      (d.tryGetValue k) := by
  intro hall
  have hvalue : ∀ k, ((b.changes t d).replay replayValue d).tryGetValue k =
      _ := fun k => by
    rw [DictionaryChanges.replay, Dictionary.tryGetValue_alterAll _ nodup_updated,
      Dictionary.tryGetValue_alterAll _ nodup_added, Dictionary.tryGetValue_removeAll]
  simp only [hvalue] at hall
  have hnoa : ∀ k v, d.tryGetValue k = some v → (b.changes t d).added.lookup k = none :=
    fun k v hd => Option.eq_none_iff_forall_ne_some.mpr fun w hw => by
      obtain ⟨u, -, hnone, -⟩ := mem_added_iff.mp
        ((Dictionary.lookup_eq_some_iff_mem nodup_added).mp hw)
      rw [hd] at hnone
      cases hnone
  have hrem : (b.changes t d).removed = [] := List.eq_nil_iff_forall_not_mem.mpr fun k hk => by
    obtain ⟨-, v, hd⟩ := mem_removed_iff.mp hk
    have := hall k
    rw [hnoa k v hd, if_pos hk, hd] at this
    simp at this
  have hadd : (b.changes t d).added = [] := by
    refine List.eq_nil_iff_forall_not_mem.mpr fun kv hk => ?_
    obtain ⟨k, v⟩ := kv
    obtain ⟨u, -, hd, -⟩ := mem_added_iff.mp hk
    have := hall k
    rw [(Dictionary.lookup_eq_some_iff_mem nodup_added).mpr hk, hrem, hd] at this
    cases (b.changes t d).updated.lookup k <;> simp at this
  have hupd : (b.changes t d).updated = [] := by
    refine List.eq_nil_iff_forall_not_mem.mpr fun kc hk => ?_
    obtain ⟨k, c⟩ := kc
    obtain ⟨u, v, hu, hd, hc⟩ := mem_updated_iff.mp hk
    have := hall k
    rw [(Dictionary.lookup_eq_some_iff_mem nodup_updated).mpr hk, hnoa k v hd, hrem, hd] at this
    simp at this
    exact hproper k u v c hu hd hc this
  simp [DictionaryChanges.hasChanged, hrem, hadd, hupd] at h

/-- The buffer of a dictionary of plain values sets what is there and removes what is not. -/
def Agrees (b : DictionaryBuffer K V) (d : Dictionary K V) : Prop :=
  (∀ k v, b.lookup k = some v → d.tryGetValue k = some v) ∧
    ∀ k ∈ b.removals, d.tryGetValue k = none

variable [DecidableEq V] {b : DictionaryBuffer K V}

theorem hasChanged_value_eq_false_iff :
    (b.changes (.value K V) d).hasChanged = false ↔ b.Agrees d := by
  rw [hasChanged_eq_false_iff]
  refine and_congr_left fun _ => forall₂_congr fun k v => imp_congr_right fun _ => ?_
  cases hd : d.tryGetValue k with
  | none => simp [Updater.report, Updater.value]
  | some old => simp [Updater.report, Updater.value]

/-- Writing the reported changes of a nullable dictionary into a copy leaves the copy as it is
just when nothing is reported. -/
theorem replayNullable_eq_self_iff {d : Option (Dictionary K V)} :
    (b.changesNullable d).replayNullable d = d ↔ (b.changesNullable d).hasChanged = false := by
  rw [DictionaryChanges.replayNullable]
  split
  · rename_i h
    refine ⟨fun heq => absurd h ?_, fun hf => absurd h (by simp [hf])⟩
    rw [Bool.not_eq_true]
    by_contra hc
    rw [Bool.not_eq_false] at hc
    refine not_replay_same (· = ·) (fun v _ => v) ?_ hc fun k => ?_
    · intro k u v c _ _ hdiff heq
      simp only [Updater.value] at hdiff
      split at hdiff
      · cases hdiff
      · rename_i hne
        cases hdiff
        exact hne heq.symm
    · cases d with
      | none => cases heq
      | some d =>
        rw [Option.some.injEq] at heq
        simp only [changesNullable] at heq
        rw [heq, Option.getD_some]
        cases d.tryGetValue k with
        | none => exact .none
        | some v => exact .some rfl
  · rename_i h
    simp [Bool.not_eq_true _ ▸ h]

end DictionaryBuffer

end Connect3Dp
