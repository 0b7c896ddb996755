import Mathlib.Data.List.Nodup

/-!
# Lists in the order of use

A list is kept in the order in which its elements were used last, the newest first (`ByRecency`):
what is used moves to the front, and what is dropped is dropped at the end. `UsedAfter` says of a
history of uses that one element was used after the last use of another.
-/

namespace RecentlyUsed

variable {α : Type*} {uses : List α} {a b : α}

/-- `a` was used, and `b` was not since. -/
def UsedAfter (uses : List α) (a b : α) : Prop :=
  ∃ before after, uses = before ++ a :: after ∧ b ∉ a :: after

theorem usedAfter_concat (uses : List α) (h : b ≠ a) : UsedAfter (uses ++ [a]) a b :=
  ⟨uses, [], rfl, fun hmem => h (List.mem_singleton.mp hmem)⟩

/-- The use of a third element makes no difference. -/
theorem UsedAfter.concat {c : α} (h : UsedAfter uses a b) (hne : b ≠ c) :
    UsedAfter (uses ++ [c]) a b := by
  obtain ⟨before, after, rfl, hnot⟩ := h
  refine ⟨before, after ++ [c], by rw [List.append_assoc, List.cons_append], ?_⟩
  rw [← List.cons_append, List.mem_append, List.mem_singleton]
  exact not_or.mpr ⟨hnot, hne⟩

/-- Nothing was used after the last use. -/
theorem not_usedAfter_concat (uses : List α) (a b : α) : ¬ UsedAfter (uses ++ [b]) a b := by
  rintro ⟨before, after, huses, hnot⟩
  obtain rfl | ⟨rest, last, rfl⟩ := after.eq_nil_or_concat'
  · obtain ⟨-, hlast⟩ := List.append_inj' huses rfl
    exact hnot (List.mem_singleton.mpr (List.singleton_inj.mp hlast))
  · rw [← List.cons_append, ← List.append_assoc] at huses
    obtain ⟨-, hlast⟩ := List.append_inj' huses rfl
    exact hnot (List.mem_cons_of_mem a (List.mem_append_right rest (List.mem_singleton.mpr
      (List.singleton_inj.mp hlast))))

/-- The list has elements that were used, without duplicates, in the order of their last uses. -/
structure ByRecency (uses list : List α) : Prop where
  nodup : list.Nodup
  used : ∀ a ∈ list, a ∈ uses
  ordered : list.Pairwise (UsedAfter uses)

namespace ByRecency

variable {list list' : List α}

theorem nil : ByRecency uses [] := ⟨List.nodup_nil, fun _ h => absurd h List.not_mem_nil, .nil⟩

theorem sublist (h : ByRecency uses list) (hsublist : List.Sublist list' list) :
    ByRecency uses list' where
  nodup := h.nodup.sublist hsublist
  used a ha := h.used a (hsublist.subset ha)
  ordered := h.ordered.sublist hsublist

/-- What does not occur in the list can be used in between. -/
theorem concat (h : ByRecency uses list) (hnot : a ∉ list) : ByRecency (uses ++ [a]) list where
  nodup := h.nodup
  used b hb := List.mem_append_left _ (h.used b hb)
  ordered := h.ordered.imp_of_mem fun _ hb husedAfter =>
    husedAfter.concat (ne_of_mem_of_not_mem hb hnot)

/-- **What is used moves to the front.** -/
theorem moveToFront [DecidableEq α] (h : ByRecency uses list) (a : α) :
    ByRecency (uses ++ [a]) (a :: list.erase a) := by
  have hnot : a ∉ list.erase a := h.nodup.not_mem_erase
  have hrest : ByRecency (uses ++ [a]) (list.erase a) :=
    (h.sublist List.erase_sublist).concat hnot
  refine ⟨List.nodup_cons.mpr ⟨hnot, hrest.nodup⟩, ?_, List.pairwise_cons.mpr ⟨?_, hrest.ordered⟩⟩
  · intro b hb
    obtain rfl | hb := List.mem_cons.mp hb
    · exact List.mem_append_right _ List.mem_cons_self
    · exact hrest.used b hb
  · exact fun b hb => usedAfter_concat uses (ne_of_mem_of_not_mem hb hnot)

/-- **An element that is used and stays where it is** is at the front. -/
theorem concat_iff (h : ByRecency uses list) (hmem : a ∈ list) :
    ByRecency (uses ++ [a]) list ↔ list.head? = some a := by
  classical
  obtain ⟨first, rest, rfl⟩ := List.exists_cons_of_ne_nil (List.ne_nil_of_mem hmem)
  rw [List.head?_cons, Option.some_inj]
  constructor
  · intro hconcat
    obtain rfl | hrest := List.mem_cons.mp hmem
    · rfl
    · exact absurd ((List.pairwise_cons.mp hconcat.ordered).1 a hrest)
        (not_usedAfter_concat uses first a)
  · rintro rfl
    have hfront := h.moveToFront first
    rwa [List.erase_cons_head] at hfront

/-- The last element is the one that was used least recently. -/
theorem usedAfter_getLast (h : ByRecency uses list) (hlast : list.getLast? = some b) (ha : a ∈ list)
    (hne : a ≠ b) : UsedAfter uses a b := by
  obtain ⟨front, rfl⟩ := List.getLast?_eq_some_iff.mp hlast
  have hfront : a ∈ front :=
    (List.mem_append.mp ha).resolve_right fun hb => hne (List.mem_singleton.mp hb)
  exact (List.pairwise_append.mp h.ordered).2.2 a hfront b List.mem_cons_self

end ByRecency

/-- What stays when the last element is dropped. -/
theorem mem_front_iff {front : List α} {last : α} (h : (front ++ [last]).Nodup) :
    a ∈ front ↔ a ≠ last ∧ a ∈ front ++ [last] := by
  rw [List.mem_append, List.mem_singleton]
  constructor
  · intro hmem
    exact ⟨(List.nodup_append.mp h).2.2 a hmem last List.mem_cons_self, .inl hmem⟩
  · rintro ⟨hne, hmem⟩
    exact hmem.resolve_right hne

end RecentlyUsed
