import Mathlib.Data.List.Induction
import Connect3Dp.Builder.DiffLaw

/-!
# The last call of a builder

The builder of a dictionary or a set keeps what to set and what to remove, and not the order of the
calls that filled the two. It would have to: `expected` is what the last call that names a key says
of it, and the buffers are applied removals last.

So the last call wins unless it sets what another call removes. For a dictionary and a set of
values that is all (`DictionaryBuffer.tryGetValue_perform_iff`, `SetBuffer.mem_perform_iff`). A set
of records can keep the contents of a removed record in another slot
(`SetBuffer.present_perform_iff`).
-/

namespace Connect3Dp

/-! ### Calls -/

/-- A call of one of the builder methods of a property. The elements of a set have no value. -/
inductive BuilderCall (K V : Type*)
  | set (key : K) (value : V)
  | remove (key : K)

namespace BuilderCall

variable {K V : Type*}

def key : BuilderCall K V → K
  | set key _ => key
  | remove key => key

variable (names : K → Prop) [DecidablePred names]

/-- The last of the calls that name a key. -/
def last (calls : List (BuilderCall K V)) : Option (BuilderCall K V) :=
  calls.reverse.find? fun call => names call.key

/-- What a key should hold after the calls, if it held `old` before them. -/
def expected (calls : List (BuilderCall K V)) (old : Option V) : Option V :=
  match last names calls with
  | some (.set _ value) => some value
  | some (.remove _) => none
  | none => old

/-- Whether a set should have a key after the calls, if it did as `before` says before them. -/
def ExpectedIn (calls : List (BuilderCall K V)) (before : Prop) : Prop :=
  match last names calls with
  | some (.set _ _) => True
  | some (.remove _) => False
  | none => before

/-- The last call that names a key sets it. -/
def SetsLast (calls : List (BuilderCall K V)) : Prop := ∃ k v, last names calls = some (.set k v)

omit [DecidablePred names] in
/-- A call removes the key. -/
def Removes (calls : List (BuilderCall K V)) : Prop := ∃ k, .remove k ∈ calls ∧ names k

omit [DecidablePred names] in
/-- A call sets the key. -/
def Sets (calls : List (BuilderCall K V)) : Prop := ∃ k v, .set k v ∈ calls ∧ names k

/-- The value that the last of the calls that set a key gives it. -/
def written (calls : List (BuilderCall K V)) : Option V :=
  calls.reverse.findSome? fun
    | .set k v => if names k then some v else none
    | .remove _ => none

variable {names} {calls : List (BuilderCall K V)}

theorem last_concat_of {call : BuilderCall K V} (h : names call.key) :
    last names (calls ++ [call]) = some call := by
  rw [last, List.reverse_concat, List.find?_cons_of_pos (by simpa using h)]

theorem last_concat_of_not {call : BuilderCall K V} (h : ¬ names call.key) :
    last names (calls ++ [call]) = last names calls := by
  rw [last, List.reverse_concat, List.find?_cons_of_neg (by simpa using h), last]

theorem written_concat_set (k : K) (v : V) :
    written names (calls ++ [.set k v]) = if names k then some v else written names calls := by
  rw [written, List.reverse_concat, List.findSome?_cons]
  by_cases h : names k <;> simp [h, written]

theorem written_concat_remove (k : K) :
    written names (calls ++ [.remove k]) = written names calls := by
  rw [written, List.reverse_concat, List.findSome?_cons]
  rfl

omit [DecidablePred names] in
theorem removes_concat_set (k : K) (v : V) :
    Removes names (calls ++ [.set k v]) ↔ Removes names calls := by
  simp [Removes]

omit [DecidablePred names] in
theorem removes_concat_remove (k : K) :
    Removes names (calls ++ [.remove k] : List (BuilderCall K V)) ↔
      Removes names calls ∨ names k := by
  simp [Removes, or_and_right, exists_or]

omit [DecidablePred names] in
theorem sets_concat_set (k : K) (v : V) :
    Sets names (calls ++ [.set k v]) ↔ Sets names calls ∨ names k := by
  simp [Sets, or_and_right, exists_or]

omit [DecidablePred names] in
theorem sets_concat_remove (k : K) :
    Sets names (calls ++ [.remove k]) ↔ Sets names calls := by
  simp [Sets]

/-- A key that is removed is named, so the last call sets it or removes it. -/
theorem last_of_removes (h : Removes names calls) :
    SetsLast names calls ∨ ∃ k, last names calls = some (.remove k) := by
  induction calls using List.reverseRecOn with
  | nil =>
    obtain ⟨k, hk, -⟩ := h
    cases hk
  | append_singleton calls call ih =>
    by_cases hcall : names call.key
    · rw [SetsLast, last_concat_of hcall]
      cases call with
      | set k v => exact .inl ⟨k, v, rfl⟩
      | remove k => exact .inr ⟨k, rfl⟩
    · rw [SetsLast, last_concat_of_not hcall]
      refine ih ?_
      cases call with
      | set k v => exact (removes_concat_set k v).mp h
      | remove k => exact ((removes_concat_remove k).mp h).resolve_right hcall

/-- The last call that names a key that is not removed gives it its value. -/
theorem expected_of_not_removes (h : ¬ Removes names calls) (old : Option V) :
    expected names calls old = (written names calls).or old := by
  induction calls using List.reverseRecOn with
  | nil => rfl
  | append_singleton calls call ih =>
    rw [expected]
    cases call with
    | set k v =>
      rw [removes_concat_set] at h
      rw [written_concat_set]
      by_cases hk : names k
      · rw [last_concat_of hk]
        simp [hk]
      · rw [last_concat_of_not hk, if_neg hk]
        exact ih h
    | remove k =>
      rw [removes_concat_remove, not_or] at h
      rw [last_concat_of_not h.2, written_concat_remove]
      exact ih h.1

theorem expectedIn_of_not_removes (h : ¬ Removes names calls) (before : Prop) :
    ExpectedIn names calls before ↔ Sets names calls ∨ before := by
  induction calls using List.reverseRecOn with
  | nil => simp [ExpectedIn, last, Sets]
  | append_singleton calls call ih =>
    rw [ExpectedIn]
    cases call with
    | set k v =>
      rw [removes_concat_set] at h
      rw [sets_concat_set]
      by_cases hk : names k
      · rw [last_concat_of hk]
        simp [hk]
      · rw [last_concat_of_not hk, or_iff_left hk]
        exact ih h
    | remove k =>
      rw [removes_concat_remove, not_or] at h
      rw [last_concat_of_not h.2, sets_concat_remove]
      exact ih h.1

theorem expected_eq_none_iff (h : Removes names calls) (old : Option V) :
    expected names calls old = none ↔ ¬ SetsLast names calls := by
  obtain ⟨k, v, hlast⟩ | ⟨k, hlast⟩ := last_of_removes h
  · simp [expected, SetsLast, hlast]
  · simp [expected, SetsLast, hlast]

theorem expectedIn_of_removes (h : Removes names calls) (before : Prop) :
    ExpectedIn names calls before ↔ SetsLast names calls := by
  obtain ⟨k, v, hlast⟩ | ⟨k, hlast⟩ := last_of_removes h
  · simp [ExpectedIn, SetsLast, hlast]
  · simp [ExpectedIn, SetsLast, hlast]

/-- **A set does as the last call says** just when what it has of a removed key is what the last
call says. -/
theorem expectedIn_iff {before after left : Prop} (hremoved : Removes names calls → (after ↔ left))
    (hkept : ¬ Removes names calls → (after ↔ Sets names calls ∨ before)) :
    (after ↔ ExpectedIn names calls before) ↔
      (Removes names calls → (left ↔ SetsLast names calls)) := by
  by_cases h : Removes names calls
  · rw [hremoved h, expectedIn_of_removes h]
    exact ⟨fun hp _ => hp, fun hp => hp h⟩
  · rw [hkept h, expectedIn_of_not_removes h]
    exact iff_of_true Iff.rfl fun hr => absurd hr h

end BuilderCall

/-! ### Builders -/

/-- What a builder has become by calls on one of its properties, between which there may be calls
on others. -/
inductive Built {U B C : Type*} (init : U) (buffer : U → B) (perform : U → C → U) :
    List C → U → Prop
  | init : Built init buffer perform [] init
  | call {calls : List C} {u : U} (h : Built init buffer perform calls u) (c : C) :
    Built init buffer perform (calls ++ [c]) (perform u c)
  | other {calls : List C} {u u' : U} (h : Built init buffer perform calls u)
    (hkeeps : buffer u' = buffer u) : Built init buffer perform calls u'

/-- The buffer of a property has seen the calls on the property. -/
theorem Built.buffer_eq {U B C : Type*} {init : U} {buffer : U → B} {perform : U → C → U}
    {step : B → C → B} (hperform : ∀ u c, buffer (perform u c) = step (buffer u) c)
    {calls : List C} {u : U} (h : Built init buffer perform calls u) :
    buffer u = calls.foldl step (buffer init) := by
  induction h with
  | init => rfl
  | call h c ih => rw [hperform, ih, List.foldl_concat]
  | other h hkeeps ih => rw [hkeeps, ih]

/-! ### Dictionaries -/

namespace DictionaryBuffer

variable {K V : Type*} [DecidableEq K]

def perform (b : DictionaryBuffer K V) : BuilderCall K V → DictionaryBuffer K V
  | .set k v => b.set k v
  | .remove k => b.remove k

variable {calls : List (BuilderCall K V)} {k : K}

theorem lookup_perform : (calls.foldl perform default).lookup k =
    BuilderCall.written (· = k) calls := by
  induction calls using List.reverseRecOn with
  | nil => rfl
  | append_singleton calls call ih =>
    rw [List.foldl_concat]
    cases call with
    | set k' v =>
      rw [perform, lookup_set, BuilderCall.written_concat_set, ih]
      simp only [eq_comm]
    | remove k' =>
      rw [BuilderCall.written_concat_remove, ← ih]
      rfl

theorem mem_removals_perform : k ∈ (calls.foldl perform default).removals ↔
    BuilderCall.Removes (· = k) calls := by
  induction calls using List.reverseRecOn with
  | nil =>
    refine iff_of_false (fun h => ?_) fun ⟨_, h, _⟩ => ?_
    · cases h
    · cases h
  | append_singleton calls call ih =>
    rw [List.foldl_concat]
    cases call with
    | set k' v =>
      rw [BuilderCall.removes_concat_set, ← ih]
      rfl
    | remove k' =>
      rw [perform, mem_removals_remove, BuilderCall.removes_concat_remove, ih, eq_comm]

/-- **The last call wins** in a dictionary just when it does not set a key that is removed. -/
theorem tryGetValue_perform_iff [DecidableEq V] {d : Dictionary K V} :
    ((calls.foldl perform default).apply (.value K V) d).tryGetValue k =
        BuilderCall.expected (· = k) calls (d.tryGetValue k) ↔
      (BuilderCall.Removes (· = k) calls → ¬ BuilderCall.SetsLast (· = k) calls) := by
  rw [tryGetValue_apply]
  by_cases h : BuilderCall.Removes (· = k) calls
  · rw [if_pos (mem_removals_perform.mpr h), eq_comm, BuilderCall.expected_eq_none_iff h]
    exact ⟨fun hp _ => hp, fun hp => hp h⟩
  · rw [if_neg (mt mem_removals_perform.mp h), lookup_perform,
      BuilderCall.expected_of_not_removes h]
    refine iff_of_true ?_ fun hr => absurd hr h
    cases BuilderCall.written (· = k) calls with
    | none => rfl
    | some v => cases d.tryGetValue k <;> rfl

end DictionaryBuffer

/-! ### Sets -/

namespace SetBuffer

section Presence

variable {S α β : Type*} [EmptyCollection S] {ops : HashSetOps S α} {key : α → β}

/-- What a buffer gathers has pairwise different keys, and they are the keys it was given. -/
structure Gathers (ops : HashSetOps S α) (key : α → β) : Prop where
  empty : ops.elems ∅ = []
  nodup : ∀ vs, ((ops.elems (ops.unionWith ∅ vs)).map key).Nodup
  exists_iff : ∀ vs v, (∃ w ∈ ops.elems (ops.unionWith ∅ vs), key w = key v) ↔
    ∃ w ∈ vs, key w = key v

/-- A way to say that a set has an element, which adding and removing others leave alone. -/
structure Presence (ops : HashSetOps S α) (key : α → β) (present : S → α → Prop) : Prop where
  add : ∀ {s v w}, present (ops.add s v) w ↔ present s w ∨ key v = key w
  remove_of_ne : ∀ {s v w}, key v ≠ key w → (present (ops.remove s v) w ↔ present s w)

variable {present : S → α → Prop}

omit [EmptyCollection S] in
theorem Presence.unionWith (h : Presence ops key present) {s : S} {vs : List α} {w : α} :
    present (ops.unionWith s vs) w ↔ present s w ∨ ∃ v ∈ vs, key v = key w := by
  induction vs generalizing s with
  | nil => simp
  | cons v vs ih =>
    rw [HashSetOps.unionWith_cons, ih, h.add, or_assoc]
    simp only [List.mem_cons, exists_eq_or_imp]

omit [EmptyCollection S] in
theorem Presence.exceptWith_of_ne (h : Presence ops key present) {s : S} {ws : List α} {v : α}
    (hne : ∀ w ∈ ws, key w ≠ key v) : present (ops.exceptWith s ws) v ↔ present s v := by
  induction ws generalizing s with
  | nil => rfl
  | cons w ws ih =>
    rw [List.forall_mem_cons] at hne
    rw [HashSetOps.exceptWith_cons, ih hne.2, h.remove_of_ne hne.1]

omit [EmptyCollection S] in
/-- Of the removals only the one with the key of an element concerns it. -/
theorem Presence.exceptWith_of_mem (h : Presence ops key present) (hops : ops.Lawful key) {s : S}
    {ws : List α} (hn : (ws.map key).Nodup) {v w : α} (hw : w ∈ ws) (hwv : key w = key v) :
    present (ops.exceptWith s ws) v ↔ present (ops.remove s v) v := by
  induction ws generalizing s with
  | nil => cases hw
  | cons x ws ih =>
    rw [List.map_cons, List.nodup_cons] at hn
    rw [HashSetOps.exceptWith_cons]
    by_cases hxv : key x = key v
    · have hrest : ∀ y ∈ ws, key y ≠ key v := fun y hy heq =>
        hn.1 (List.mem_map.mpr ⟨y, hy, heq.trans hxv.symm⟩)
      rw [h.exceptWith_of_ne hrest, hops.remove_congr hxv]
    · have hmem : w ∈ ws := (List.mem_cons.mp hw).resolve_left fun heq => hxv (heq ▸ hwv)
      rw [ih hn.2 hmem, hops.remove_comm hxv, h.remove_of_ne hxv]

omit [EmptyCollection S] in
/-- Removing an element takes back what adding it has done. -/
theorem Presence.remove_unionWith (h : Presence ops key present) (hops : ops.Lawful key) {s : S}
    {vs : List α} {v : α} :
    present (ops.remove (ops.unionWith s vs) v) v ↔ present (ops.remove s v) v := by
  induction vs generalizing s with
  | nil => rfl
  | cons x vs ih =>
    rw [HashSetOps.unionWith_cons, ih]
    by_cases hvx : key v = key x
    · cases hx : ops.contains s x with
      | true => rw [hops.add_eq_self hx]
      | false =>
        rw [hops.remove_congr hvx, hops.remove_add_self hx, hops.remove_congr hvx,
          hops.remove_eq_self hx]
    · rw [hops.remove_add_comm hvx, h.add]
      exact or_iff_left fun hxv => hvx hxv.symm

def perform (ops : HashSetOps S α) (b : SetBuffer S) : BuilderCall α Unit → SetBuffer S
  | .set v _ => b.set ops v
  | .remove v => b.remove ops v

/-- The elements that the calls set. -/
def setElements (calls : List (BuilderCall α Unit)) : List α :=
  calls.filterMap fun
    | .set v _ => some v
    | .remove _ => none

/-- The elements that the calls remove. -/
def removedElements (calls : List (BuilderCall α Unit)) : List α :=
  calls.filterMap fun
    | .set _ _ => none
    | .remove v => some v

/-- The calls go into the two sets of the buffer in their order. -/
theorem foldl_perform (calls : List (BuilderCall α Unit)) :
    (calls.foldl (perform ops) default).toSet.getD ∅ = ops.unionWith ∅ (setElements calls) ∧
      (calls.foldl (perform ops) default).toRemove.getD ∅ =
        ops.unionWith ∅ (removedElements calls) := by
  induction calls using List.reverseRecOn with
  | nil => exact ⟨rfl, rfl⟩
  | append_singleton calls call ih =>
    obtain ⟨hset, hremove⟩ := ih
    rw [List.foldl_concat, setElements, removedElements, List.filterMap_append,
      List.filterMap_append, HashSetOps.unionWith, HashSetOps.unionWith, List.foldl_append,
      List.foldl_append]
    cases call with
    | set v _ => exact ⟨congrArg (ops.add · v) hset, hremove⟩
    | remove v => exact ⟨hset, congrArg (ops.add · v) hremove⟩

variable {calls : List (BuilderCall α Unit)}

omit [EmptyCollection S] in
theorem sets_iff {names : α → Prop} :
    BuilderCall.Sets names calls ↔ ∃ v ∈ setElements calls, names v := by
  simp only [BuilderCall.Sets, setElements, List.mem_filterMap]
  constructor
  · rintro ⟨v, _, hmem, hv⟩
    exact ⟨v, ⟨_, hmem, rfl⟩, hv⟩
  · rintro ⟨v, ⟨call, hmem, hcall⟩, hv⟩
    cases call with
    | set w _ =>
      obtain rfl := Option.some.inj hcall
      exact ⟨w, (), hmem, hv⟩
    | remove w => cases hcall

omit [EmptyCollection S] in
theorem removes_iff {names : α → Prop} :
    BuilderCall.Removes names calls ↔ ∃ v ∈ removedElements calls, names v := by
  simp only [BuilderCall.Removes, removedElements, List.mem_filterMap]
  constructor
  · rintro ⟨v, hmem, hv⟩
    exact ⟨v, ⟨_, hmem, rfl⟩, hv⟩
  · rintro ⟨v, ⟨call, hmem, hcall⟩, hv⟩
    cases call with
    | set w _ => cases hcall
    | remove w =>
      obtain rfl := Option.some.inj hcall
      exact ⟨w, hmem, hv⟩

theorem additions_foldl_perform (hgathers : Gathers ops key) :
    (calls.foldl (perform ops) default).additions ops =
      ops.elems (ops.unionWith ∅ (setElements calls)) := by
  rw [← (foldl_perform calls).1, additions]
  cases (calls.foldl (perform ops) default).toSet with
  | none => exact hgathers.empty.symm
  | some s => rfl

theorem removals_foldl_perform (hgathers : Gathers ops key) :
    (calls.foldl (perform ops) default).removals ops =
      ops.elems (ops.unionWith ∅ (removedElements calls)) := by
  rw [← (foldl_perform calls).2, removals]
  cases (calls.foldl (perform ops) default).toRemove with
  | none => exact hgathers.empty.symm
  | some s => rfl

/-- What a set has of an element that a call removes is what removing it alone leaves. -/
theorem present_perform_of_removes (hops : ops.Lawful key) (hgathers : Gathers ops key)
    (h : Presence ops key present) {s : S} {v : α}
    (hremoves : BuilderCall.Removes (key · = key v) calls) :
    present ((calls.foldl (perform ops) default).apply ops s) v ↔ present (ops.remove s v) v := by
  obtain ⟨w, hw, hwv⟩ := (hgathers.exists_iff _ v).mpr (removes_iff.mp hremoves)
  rw [apply, removals_foldl_perform hgathers,
    h.exceptWith_of_mem hops (hgathers.nodup _) hw hwv, h.remove_unionWith hops]

theorem present_perform_of_not_removes (hgathers : Gathers ops key)
    (h : Presence ops key present) {s : S} {v : α}
    (hremoves : ¬ BuilderCall.Removes (key · = key v) calls) :
    present ((calls.foldl (perform ops) default).apply ops s) v ↔
      BuilderCall.Sets (key · = key v) calls ∨ present s v := by
  have hne : ∀ w ∈ ops.elems (ops.unionWith ∅ (removedElements calls)), key w ≠ key v :=
    fun w hw heq => hremoves (removes_iff.mpr ((hgathers.exists_iff _ v).mp ⟨w, hw, heq⟩))
  rw [apply, removals_foldl_perform hgathers, h.exceptWith_of_ne hne, h.unionWith,
    additions_foldl_perform hgathers, hgathers.exists_iff, sets_iff, or_comm]

/-- **The last call wins** in a set just when what is left of a removed element is what the last
call says. -/
theorem present_perform_iff [DecidableEq β] (hops : ops.Lawful key) (hgathers : Gathers ops key)
    (h : Presence ops key present) {s : S} {v : α} :
    (present ((calls.foldl (perform ops) default).apply ops s) v ↔
        BuilderCall.ExpectedIn (key · = key v) calls (present s v)) ↔
      (BuilderCall.Removes (key · = key v) calls →
        (present (ops.remove s v) v ↔ BuilderCall.SetsLast (key · = key v) calls)) :=
  BuilderCall.expectedIn_iff (present_perform_of_removes hops hgathers h)
    (present_perform_of_not_removes hgathers h)

end Presence

/-! ### The two kinds of set -/

section Values

variable {α : Type*} [DecidableEq α]

theorem gathers_values : Gathers (.values α) id where
  empty := rfl
  nodup vs := by
    rw [List.map_id]
    exact (HashSetOps.unionWith (.values α) ∅ vs).nodup
  exists_iff vs v := by
    simp only [id, exists_eq_right]
    exact HashSetOps.mem_unionWith.trans (or_iff_right (HashSet.notMem_empty v))

theorem presence_values : Presence (.values α) id fun s v => v ∈ s where
  add := by
    intro s v w
    exact HashSet.mem_add.trans (or_congr_right eq_comm)
  remove_of_ne h := HashSet.mem_remove.trans (and_iff_left (Ne.symm h))

/-- **The last call wins** in a set of values just when it does not set what is removed. -/
theorem mem_perform_iff {calls : List (BuilderCall α Unit)} {s : HashSet α} {v : α} :
    (v ∈ (calls.foldl (perform (.values α)) default).apply (.values α) s ↔
        BuilderCall.ExpectedIn (· = v) calls (v ∈ s)) ↔
      (BuilderCall.Removes (· = v) calls → ¬ BuilderCall.SetsLast (· = v) calls) := by
  have hremove : v ∈ (HashSetOps.values α).remove s v ↔ False :=
    iff_of_false (fun h => (HashSet.mem_remove.mp h).2 rfl) id
  refine (present_perform_iff HashSetOps.lawful_values gathers_values presence_values).trans ?_
  rw [hremove, false_iff]
  rfl

end Values

section Records

variable {R α : Type*} [DecidableEq α] [Hashable α] {value : R → α}

theorem gathers_records : Gathers (.records value) value where
  empty := rfl
  nodup vs := (HashSetOps.elems_unionWith value ∅ vs List.nodup_nil (by simp)).1
  exists_iff vs v := by
    obtain ⟨-, hsub, hrep⟩ := HashSetOps.elems_unionWith value ∅ vs List.nodup_nil (by simp)
    constructor
    · rintro ⟨w, hw, hwv⟩
      exact ⟨w, (hsub w hw).resolve_left List.not_mem_nil, hwv⟩
    · rintro ⟨w, hw, hwv⟩
      obtain ⟨w', hw', hvalue⟩ := hrep w (.inr hw)
      exact ⟨w', hw', hvalue.trans hwv⟩

theorem presence_contains : Presence (.records value) value fun s r => s.contains value r where
  add := RecordHashSet.contains_add value
  remove_of_ne h := Iff.of_eq (congrArg (· = true) (RecordHashSet.contains_remove_of_ne value h))

/-- A set of records shows the contents of a record. -/
def Shows (value : R → α) (s : RecordHashSet R) (r : R) : Prop := ∃ r' ∈ s.elems, value r' = value r

omit [Hashable α] in
theorem shows_iff {s : RecordHashSet R} {r : R} :
    Shows value s r ↔ s.slotsOf value (value r) ≠ [] := by
  rw [ne_eq, RecordHashSet.slotsOf_eq_nil_iff]
  simp [Shows]

theorem presence_shows : Presence (.records value) value (Shows value) where
  add := by
    intro s v w
    by_cases hvw : value v = value w
    · refine iff_of_true ?_ (.inr hvw)
      change Shows value (s.add value v) w
      rw [shows_iff, ← hvw]
      cases hfound : s.contains value v with
      | true =>
        -- the record that is found has the contents
        rw [RecordHashSet.add_eq_self value hfound, ← shows_iff]
        obtain ⟨slot, hslot, hfinds⟩ := (RecordHashSet.contains_iff value).mp hfound
        exact ⟨slot.record, List.mem_map_of_mem hslot,
          ((RecordHashSet.finds_iff value).mp hfinds).2⟩
      | false =>
        rw [RecordHashSet.slotsOf_add_self, hfound]
        simp
    · change Shows value (s.add value v) w ↔ _
      rw [shows_iff, shows_iff, RecordHashSet.slotsOf_add_of_ne value s hvw]
      exact (or_iff_left hvw).symm
  remove_of_ne := by
    intro s v w hne
    change Shows value (s.remove value v) w ↔ _
    rw [shows_iff, shows_iff, RecordHashSet.slotsOf_remove_of_ne value s hne]

end Records

end SetBuffer

end Connect3Dp
