import Mathlib.Algebra.Order.Group.Nat
import Mathlib.Data.List.Infix
import Mathlib.Data.List.Nodup
import Mathlib.Data.Option.Basic

/-!
# Arrays that are written in a circle

Of a log that is written into `n` slots in a circle, an array holds the newest `n` elements, each in
the slot with its number modulo `n` (`HoldsNewest`). Who reads a slot later than intended finds the
element `latest` in it, whose number is larger by a multiple of `n`.
-/

namespace RingBuffer

variable {α : Type*} {n : ℕ}

/-- The array holds the newest elements of the log, each where its number says. -/
def HoldsNewest (slots : Vector (Option α) n) (log : List α) : Prop :=
  ∀ p < log.length, log.length ≤ p + n → slots[p % n]? = some log[p]?

namespace HoldsNewest

variable {slots : Vector (Option α) n} {log : List α}

theorem nil (slots : Vector (Option α) n) : HoldsNewest slots [] := by
  intro p hp
  rw [List.length_nil] at hp
  omega

/-- Numbers that are less than `n` apart are in different slots. -/
theorem mod_ne_mod_of_lt {p q : ℕ} (hless : p < q) (hnear : q < p + n) :
    p % n ≠ q % n := by
  intro heq
  have hdvd := Nat.dvd_of_mod_eq_zero (Nat.sub_mod_eq_zero_of_mod_eq heq.symm)
  have hle := Nat.le_of_dvd (by omega) hdvd
  omega

/-- **The next element** replaces the oldest. -/
theorem append (h : HoldsNewest slots log) (e : α) {i : Fin n} (hi : i.val = log.length % n) :
    HoldsNewest (slots.set i (some e) i.isLt) (log ++ [e]) := by
  intro p hp hnew
  rw [List.length_append, List.length_singleton] at hp hnew
  obtain heq | hless : p = log.length ∨ p < log.length := by omega
  · subst heq
    rw [← hi, Vector.getElem?_set_self, List.getElem?_concat_length]
  · have hne : i.val ≠ p % n := hi ▸ (mod_ne_mod_of_lt hless (by omega)).symm
    rw [Vector.getElem?_set_ne _ hne, List.getElem?_append_left hless]
    exact h p hless (by omega)

end HoldsNewest

/-! ### Late reads -/

/-- How often the slot of an element has been overwritten, when there are `total` elements. -/
def overwritten (n total number : ℕ) : ℕ := (total - 1 - number) / n

/-- The number of the element that is in the slot of an element, when there are `total`. -/
def latest (n total number : ℕ) : ℕ := number + n * overwritten n total number

theorem latest_lt {total number : ℕ} (h : number < total) : latest n total number < total := by
  have hmul := Nat.mul_div_le (total - 1 - number) n
  rw [latest, overwritten]
  omega

theorem le_latest_add (hn : 0 < n) (total number : ℕ) : total ≤ latest n total number + n := by
  have hmul := Nat.lt_mul_div_succ (total - 1 - number) hn
  rw [Nat.mul_succ] at hmul
  rw [latest, overwritten]
  omega

theorem latest_mod (n total number : ℕ) : latest n total number % n = number % n :=
  Nat.add_mul_mod_self_left ..

/-- **A late read** finds the latest element with the same slot. -/
theorem HoldsNewest.getElem?_mod {slots : Vector (Option α) n} {log : List α}
    (h : HoldsNewest slots log) (hn : 0 < n) {number : ℕ} (hnumber : number < log.length) :
    slots[number % n]? = some log[latest n log.length number]? := by
  rw [← latest_mod n log.length number]
  exact h _ (latest_lt hnumber) (le_latest_add hn ..)

/-- The numbers of the elements that are found when the elements from a number on are read, the
log having had these lengths at the reads. -/
def numbersRead (n first : ℕ) (totals : List ℕ) : List ℕ :=
  totals.mapIdx fun i total => latest n total (first + i)

theorem numbersRead_cons (n first total : ℕ) (totals : List ℕ) :
    numbersRead n first (total :: totals) =
      latest n total first :: numbersRead n (first + 1) totals := by
  rw [numbersRead, numbersRead, List.mapIdx_cons]
  simp only [Nat.add_zero, Nat.add_assoc, Nat.add_comm 1]

theorem length_numbersRead (n first : ℕ) (totals : List ℕ) :
    (numbersRead n first totals).length = totals.length :=
  List.length_mapIdx

theorem getElem?_numbersRead (n first : ℕ) {totals : List ℕ} {i : ℕ} (hi : i < totals.length) :
    (numbersRead n first totals)[i]? = some (latest n totals[i] (first + i)) := by
  rw [numbersRead, List.getElem?_mapIdx, List.getElem?_eq_getElem hi, Option.map_some]

theorem lt_of_mem_numbersRead {first bound : ℕ} {totals : List ℕ}
    (h : ∀ (i : ℕ) (hi : i < totals.length), first + i < totals[i] ∧ totals[i] ≤ bound) :
    ∀ number ∈ numbersRead n first totals, number < bound := by
  intro number hnumber
  obtain ⟨i, hget⟩ := List.mem_iff_getElem?.mp hnumber
  have hi := (List.getElem?_eq_some_iff.mp hget).choose
  rw [length_numbersRead] at hi
  obtain ⟨hless, hle⟩ := h i hi
  rw [getElem?_numbersRead n first hi, Option.some_inj] at hget
  rw [← hget]
  exact (latest_lt hless).trans_le hle

/-- The numbers follow each other when every slot has been overwritten equally often. -/
theorem numbersRead_eq_range'_iff (hn : 0 < n) (first : ℕ) (totals : List ℕ) :
    (∃ k, numbersRead n first totals = List.range' k totals.length) ↔
      ∃ times, ∀ (i : ℕ) (hi : i < totals.length), overwritten n totals[i] (first + i) = times := by
  constructor
  · rintro ⟨k, hk⟩
    have hread : ∀ (i : ℕ) (hi : i < totals.length),
        first + n * overwritten n totals[i] (first + i) = k := by
      intro i hi
      have hget := getElem?_numbersRead n first hi
      rw [hk, List.getElem?_range' hi, Option.some_inj, latest] at hget
      omega
    refine ⟨(k - first) / n, fun i hi => ?_⟩
    rw [← hread i hi, Nat.add_sub_cancel_left, Nat.mul_div_cancel_left _ hn]
  · rintro ⟨times, htimes⟩
    refine ⟨first + n * times, ?_⟩
    apply List.ext_getElem?'
    intro i hi
    rw [length_numbersRead, List.length_range', max_self] at hi
    rw [getElem?_numbersRead n first hi, List.getElem?_range' hi, latest, htimes i hi,
      Option.some_inj]
    omega

/-- Elements that are read by their numbers are a window of the log when the numbers follow each
other. -/
theorem map_getElem?_infix_iff {log : List α} (hlog : log.Nodup) {numbers : List ℕ}
    (hnumbers : ∀ number ∈ numbers, number < log.length) :
    numbers.map (log[·]?) <:+: log.map some ↔ ∃ k, numbers = List.range' k numbers.length := by
  constructor
  · rintro ⟨before, after, hlist⟩
    refine ⟨before.length, ?_⟩
    apply List.ext_getElem?'
    intro i hi
    rw [List.length_range', max_self] at hi
    have hread : (log.map some)[before.length + i]? = some log[numbers[i]]? := by
      rw [← hlist, List.append_assoc, List.getElem?_append_right (by omega),
        Nat.add_sub_cancel_left, List.getElem?_append_left (by rwa [List.length_map]),
        List.getElem?_map, List.getElem?_eq_getElem hi, Option.map_some]
    have hnumber := hnumbers _ (List.getElem_mem hi)
    rw [List.getElem?_map, List.getElem?_eq_getElem hnumber] at hread
    have heq : log[before.length + i]? = some log[numbers[i]] :=
      Option.map_injective (Option.some_injective α) hread
    rw [← List.getElem?_eq_getElem hnumber] at heq
    rw [List.getElem?_range' hi, List.getElem?_eq_getElem hi, Nat.one_mul,
      (List.getElem?_inj hnumber hlog).mp heq.symm]
  · rintro ⟨k, hk⟩
    have hwindow : numbers.map (log[·]?) = ((log.drop k).take numbers.length).map some := by
      apply List.ext_getElem?
      intro i
      by_cases hi : i < numbers.length
      · have hget : numbers[i]? = some (k + 1 * i) := by rw [hk, List.getElem?_range' hi]
        rw [Nat.one_mul] at hget
        have hnumber := hnumbers _ (List.mem_of_getElem? hget)
        rw [List.getElem?_map, hget, List.getElem?_map, List.getElem?_take_of_lt hi,
          List.getElem?_drop, List.getElem?_eq_getElem hnumber, Option.map_some, Option.map_some,
          List.getElem?_eq_getElem hnumber]
      · rw [List.getElem?_eq_none (by rw [List.length_map]; omega),
          List.getElem?_eq_none (by rw [List.length_map, List.length_take]; omega)]
    rw [hwindow]
    exact ((List.take_prefix ..).isInfix.trans (List.drop_suffix ..).isInfix).map some

end RingBuffer
