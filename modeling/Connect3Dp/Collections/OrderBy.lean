import Mathlib.Data.List.Sort
import Mathlib.Order.Defs.LinearOrder

/-!
# Ordering by a key

`OrderBy` sorts by a key and keeps elements with equal keys in their order, so the first element of
the result is the first of those with the least key (`head?_orderBy_eq_some_iff`).
-/

namespace Connect3Dp

variable {α D : Type*} [LinearOrder D]

/-- `OrderBy(key)`, a stable sort. -/
def orderBy (key : α → D) (l : List α) : List α := l.insertionSort fun a b => key a ≤ key b

/-- The element has the least key of the list, and comes before the others that have it. -/
def IsFirstLeast (key : α → D) (l : List α) (a : α) : Prop :=
  ∃ before after, l = before ++ a :: after ∧ (∀ b ∈ before, key a < key b) ∧
    ∀ b ∈ after, key a ≤ key b

variable {key : α → D} {a : α} {l : List α}

theorem IsFirstLeast.le (h : IsFirstLeast key l a) : ∀ b ∈ l, key a ≤ key b := by
  obtain ⟨before, after, rfl, hbefore, hafter⟩ := h
  intro b hb
  obtain hb | hb := List.mem_append.mp hb
  · exact (hbefore b hb).le
  · obtain rfl | hb := List.mem_cons.mp hb
    · exact le_rfl
    · exact hafter b hb

/-- In front of a list, an element is the first least if it is least, or it is larger than the one
before. -/
theorem isFirstLeast_cons_iff {b : α} :
    IsFirstLeast key (b :: l) a ↔
      (a = b ∧ ∀ c ∈ l, key b ≤ key c) ∨ (key a < key b ∧ IsFirstLeast key l a) := by
  constructor
  · rintro ⟨before, after, hl, hbefore, hafter⟩
    cases before with
    | nil =>
      obtain ⟨rfl, rfl⟩ := List.cons.inj hl
      exact .inl ⟨rfl, hafter⟩
    | cons c before =>
      obtain ⟨rfl, rfl⟩ := List.cons.inj hl
      obtain ⟨hb, hbefore⟩ := List.forall_mem_cons.mp hbefore
      exact .inr ⟨hb, before, after, rfl, hbefore, hafter⟩
  · rintro (⟨rfl, hle⟩ | ⟨hlt, before, after, rfl, hbefore, hafter⟩)
    · exact ⟨[], l, rfl, List.forall_mem_nil _, hle⟩
    · exact ⟨b :: before, after, rfl, List.forall_mem_cons.mpr ⟨hlt, hbefore⟩, hafter⟩

theorem orderBy_eq_nil_iff : orderBy key l = [] ↔ l = [] := by
  rw [← List.length_eq_zero_iff, orderBy, List.length_insertionSort, List.length_eq_zero_iff]

/-- **The first element of an ordering** is the first that is least. -/
theorem head?_orderBy_eq_some_iff : (orderBy key l).head? = some a ↔ IsFirstLeast key l a := by
  induction l generalizing a with
  | nil =>
    refine iff_of_false (fun h => by cases h) ?_
    rintro ⟨before, after, hl, -⟩
    cases before <;> cases hl
  | cons b l ih =>
    rw [isFirstLeast_cons_iff, ← ih, orderBy, List.insertionSort_cons, ← orderBy]
    cases hsorted : orderBy key l with
    | nil =>
      rw [orderBy_eq_nil_iff.mp hsorted]
      simp [eq_comm]
    | cons m rest =>
      have hleast : ∀ c ∈ l, key m ≤ key c := (ih.mp (by rw [hsorted, List.head?_cons])).le
      have hmem : m ∈ l := by
        have hm : m ∈ orderBy key l := hsorted ▸ List.mem_cons_self
        exact (List.mem_insertionSort _).mp hm
      by_cases hle : key b ≤ key m
      · -- the element is inserted before those that are sorted already
        rw [List.orderedInsert_cons_of_le _ rest hle, List.head?_cons, List.head?_cons,
          Option.some.injEq, Option.some.injEq]
        constructor
        · rintro rfl
          exact .inl ⟨rfl, fun c hc => hle.trans (hleast c hc)⟩
        · rintro (⟨rfl, -⟩ | ⟨hlt, rfl⟩)
          · rfl
          · exact absurd hlt hle.not_gt
      · rw [List.orderedInsert_of_not_le _ rest hle, List.head?_cons, List.head?_cons,
          Option.some.injEq]
        constructor
        · rintro rfl
          exact .inr ⟨not_le.mp hle, rfl⟩
        · rintro (⟨rfl, hb⟩ | ⟨-, rfl⟩)
          · exact absurd (hb m hmem) hle
          · rfl

end Connect3Dp
