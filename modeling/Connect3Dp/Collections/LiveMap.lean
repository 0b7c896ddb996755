import Connect3Dp.Collections.Dictionary
import Mathlib.Data.List.MinMax

/-!
# Maps with live iterators

A JavaScript `Map` is enumerated in the order in which its keys were inserted, and an iterator sees
what is inserted and deleted while it runs. Every key has a stamp here, given by the call of `set`
that inserted it. An iterator is the stamp that it has come to: it goes on with the first key that
was not inserted before that (`next`).
-/

namespace Connect3Dp

/-- A `Map`. -/
structure LiveMap (K V : Type*) [DecidableEq K] where
  dictionary : Dictionary K (ℕ × V)
  nextStamp : ℕ
  below : ∀ {k e}, dictionary.tryGetValue k = some e → e.1 < nextStamp
  distinct : ∀ {k k' e e'}, dictionary.tryGetValue k = some e →
    dictionary.tryGetValue k' = some e' → e.1 = e'.1 → k = k'

namespace LiveMap

variable {K V : Type*} [DecidableEq K]

instance : EmptyCollection (LiveMap K V) where
  emptyCollection := {
    dictionary := ∅
    nextStamp := 0
    below := fun h => by cases h
    distinct := fun h => by cases h }

/-- The stamp and the value of a key. -/
def entry (m : LiveMap K V) (k : K) : Option (ℕ × V) := m.dictionary.tryGetValue k

def get (m : LiveMap K V) (k : K) : Option V := (m.entry k).map Prod.snd

/-- The stamp that a key has, or would be given. -/
def stampFor (m : LiveMap K V) (k : K) : ℕ := ((m.entry k).map Prod.fst).getD m.nextStamp

theorem stampFor_le (m : LiveMap K V) (k : K) : m.stampFor k ≤ m.nextStamp := by
  unfold stampFor
  cases h : m.entry k with
  | none => exact le_rfl
  | some e => exact (m.below h).le

/-- A key that is there keeps its place. -/
def set (m : LiveMap K V) (k : K) (v : V) : LiveMap K V where
  dictionary := m.dictionary.set k (m.stampFor k, v)
  nextStamp := m.nextStamp + 1
  below {k' e} h := by
    rw [Dictionary.tryGetValue_set] at h
    split at h
    · cases h
      exact Nat.lt_succ_of_le (m.stampFor_le k)
    · exact Nat.lt_succ_of_lt (m.below h)
  distinct {k₁ k₂ e₁ e₂} h₁ h₂ heq := by
    -- The stamp of the key is its old one, or one that no key has.
    have hother : ∀ {k' e}, m.dictionary.tryGetValue k' = some e → m.stampFor k = e.1 →
        k = k' := by
      intro k' e h hstamp
      unfold stampFor at hstamp
      cases hk : m.entry k with
      | none =>
        rw [hk] at hstamp
        exact absurd (m.below h) (by simp_all)
      | some old =>
        rw [hk] at hstamp
        exact m.distinct hk h hstamp
    rw [Dictionary.tryGetValue_set] at h₁ h₂
    split at h₁
    · rename_i hk₁
      cases h₁
      split at h₂
      · rename_i hk₂
        rw [hk₁, hk₂]
      · rw [hk₁]
        exact hother h₂ heq
    · split at h₂
      · rename_i hk₂
        cases h₂
        rw [hk₂]
        exact (hother h₁ heq.symm).symm
      · exact m.distinct h₁ h₂ heq

def delete (m : LiveMap K V) (k : K) : LiveMap K V where
  dictionary := m.dictionary.remove k
  nextStamp := m.nextStamp
  below {k' e} h := by
    rw [Dictionary.tryGetValue_remove] at h
    split at h
    · cases h
    · exact m.below h
  distinct {k₁ k₂ e₁ e₂} h₁ h₂ heq := by
    rw [Dictionary.tryGetValue_remove] at h₁ h₂
    split at h₁
    · cases h₁
    · split at h₂
      · cases h₂
      · exact m.distinct h₁ h₂ heq

/-- Where an iterator goes from a stamp on: the key, its stamp and its value. -/
def next (m : LiveMap K V) (position : ℕ) : Option (K × ℕ × V) :=
  (m.dictionary.entries.filter fun e => position ≤ e.2.1).argmin fun e => e.2.1

variable {m : LiveMap K V} {k k' : K} {v : V}

theorem entry_set_self : (m.set k v).entry k = some (m.stampFor k, v) :=
  Dictionary.tryGetValue_set_self ..

theorem entry_set_of_ne (h : k' ≠ k) : (m.set k v).entry k' = m.entry k' :=
  Dictionary.tryGetValue_set_of_ne _ h _

theorem get_set (m : LiveMap K V) (k k' : K) (v : V) :
    (m.set k v).get k' = if k' = k then some v else m.get k' := by
  split
  · rename_i h
    rw [get, h, entry_set_self, Option.map_some]
  · rename_i h
    rw [get, entry_set_of_ne h, get]

theorem entry_delete (m : LiveMap K V) (k k' : K) :
    (m.delete k).entry k' = if k' = k then none else m.entry k' :=
  Dictionary.tryGetValue_remove ..

theorem get_delete (m : LiveMap K V) (k k' : K) :
    (m.delete k).get k' = if k' = k then none else m.get k' := by
  rw [get, entry_delete]
  split <;> rfl

theorem entry_of_get (h : m.get k = some v) : ∃ stamp, m.entry k = some (stamp, v) := by
  obtain ⟨⟨stamp, v'⟩, hentry, rfl⟩ := Option.map_eq_some_iff.mp h
  exact ⟨stamp, hentry⟩

/-- The iterator goes to a key that is there and has not been passed, and passes no other. -/
theorem of_next_eq_some {position stamp : ℕ} (h : m.next position = some (k, stamp, v)) :
    m.entry k = some (stamp, v) ∧ position ≤ stamp ∧
      ∀ k' e, m.entry k' = some e → position ≤ e.1 → k' ≠ k → stamp < e.1 := by
  have hmem := List.argmin_mem (show (k, stamp, v) ∈ (m.dictionary.entries.filter
    fun e => position ≤ e.2.1).argmin fun e => e.2.1 from h)
  obtain ⟨hentry, hposition⟩ := List.mem_filter.mp hmem
  have hkey : m.entry k = some (stamp, v) := Dictionary.mem_entries_iff.mp hentry
  refine ⟨hkey, of_decide_eq_true hposition, fun k' e he hle hne => ?_⟩
  have hmem' : (k', e) ∈ m.dictionary.entries.filter fun e => position ≤ e.2.1 :=
    List.mem_filter.mpr ⟨Dictionary.mem_entries_iff.mpr he, decide_eq_true hle⟩
  have hmin : stamp ≤ e.1 := List.le_of_mem_argmin hmem' h
  refine lt_of_le_of_ne hmin fun heq => hne ?_
  exact m.distinct he hkey heq.symm

/-- The iterator ends when every key has been passed. -/
theorem lt_of_next_eq_none {position : ℕ} (h : m.next position = none) {e : ℕ × V}
    (he : m.entry k = some e) : e.1 < position := by
  have hnil := List.argmin_eq_none.mp h
  by_contra hle
  have hmem : (k, e) ∈ m.dictionary.entries.filter fun e => position ≤ e.2.1 :=
    List.mem_filter.mpr ⟨Dictionary.mem_entries_iff.mpr he, decide_eq_true (not_lt.mp hle)⟩
  rw [hnil] at hmem
  cases hmem

end LiveMap

end Connect3Dp
