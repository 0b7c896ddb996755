import Mathlib.Data.BitVec

/-!
# Sets of flags

A bit vector is a set of flags: those of its bits that are set. Two such sets are disjoint if their
conjunction is zero, and the first is within the second if its conjunction with the complement of
the second is. Both are statements about single bits (`and_eq_zero_iff`, `and_not_eq_zero_iff`), and
as equations they are decided where the sets are given.
-/

namespace Connect3Dp

namespace Flags

variable {w : ℕ} {a b f g x : BitVec w}

/-- No flag is in both. -/
theorem and_eq_zero_iff :
    a &&& g = 0 ↔ ∀ i, a.getLsbD i = true → g.getLsbD i = false := by
  constructor
  · intro h i ha
    have hi : (a &&& g).getLsbD i = false := by rw [h, BitVec.ofNat_eq_ofNat, BitVec.getLsbD_zero]
    rwa [BitVec.getLsbD_and, ha, Bool.true_and] at hi
  · intro h
    refine BitVec.eq_of_getLsbD_eq fun i _ => ?_
    rw [BitVec.getLsbD_and, BitVec.ofNat_eq_ofNat, BitVec.getLsbD_zero]
    cases ha : a.getLsbD i with
    | false => rfl
    | true => exact h i ha

/-- Each flag of the first is one of the second. -/
theorem and_not_eq_zero_iff :
    a &&& ~~~g = 0 ↔ ∀ i, a.getLsbD i = true → g.getLsbD i = true := by
  refine and_eq_zero_iff.trans (forall_congr' fun i => forall_congr' fun ha => ?_)
  rw [BitVec.getLsbD_not, decide_eq_true (BitVec.lt_of_getLsbD ha), Bool.true_and,
    Bool.not_eq_false']

theorem and_eq_zero_of_within (hb : b &&& ~~~g = 0) (ha : a &&& g = 0) : a &&& b = 0 := by
  refine and_eq_zero_iff.mpr fun i hai => Bool.eq_false_iff.mpr fun hbi => ?_
  have hgi := and_not_eq_zero_iff.mp hb i hbi
  rw [and_eq_zero_iff.mp ha i hai] at hgi
  cases hgi

theorem within_trans (hab : a &&& ~~~b = 0) (hbg : b &&& ~~~g = 0) : a &&& ~~~g = 0 :=
  and_not_eq_zero_iff.mpr fun i hai =>
    and_not_eq_zero_iff.mp hbg i (and_not_eq_zero_iff.mp hab i hai)

theorem and_within_left (a b : BitVec w) : a &&& b &&& ~~~a = 0 :=
  and_not_eq_zero_iff.mpr fun i h => by
    rw [BitVec.getLsbD_and, Bool.and_eq_true] at h
    exact h.1

theorem within_or_left (a b : BitVec w) : a &&& ~~~(a ||| b) = 0 :=
  and_not_eq_zero_iff.mpr fun i h => by rw [BitVec.getLsbD_or, h, Bool.true_or]

/-- If all of some flags but certain ones are kept, what is missing of them is one of these. -/
theorem missing_within (ha : a &&& ~~~f = 0) (hf : f &&& ~~~g &&& ~~~b = 0) :
    a &&& ~~~b &&& ~~~g = 0 := by
  refine and_not_eq_zero_iff.mpr fun i h => by_contra fun hgi => ?_
  rw [BitVec.getLsbD_and, Bool.and_eq_true, BitVec.getLsbD_not, Bool.and_eq_true,
    decide_eq_true_eq, Bool.not_eq_true'] at h
  obtain ⟨hai, hi, hbi⟩ := h
  have hkept : (f &&& ~~~g).getLsbD i = true := by
    rw [BitVec.getLsbD_and, BitVec.getLsbD_not, and_not_eq_zero_iff.mp ha i hai,
      decide_eq_true hi, Bool.eq_false_iff.mpr hgi]
    rfl
  rw [and_not_eq_zero_iff.mp hf i hkept] at hbi
  cases hbi

/-- What is kept of some flags stays if others are taken away. -/
theorem kept_and_not (hf : f &&& ~~~g &&& ~~~b = 0) (hx : x &&& ~~~g = 0) :
    f &&& ~~~g &&& ~~~(b &&& ~~~x) = 0 := by
  refine and_not_eq_zero_iff.mpr fun i h => ?_
  have hb := and_not_eq_zero_iff.mp hf i h
  rw [BitVec.getLsbD_and, Bool.and_eq_true, BitVec.getLsbD_not, Bool.and_eq_true,
    decide_eq_true_eq, Bool.not_eq_true'] at h
  obtain ⟨-, hi, hgi⟩ := h
  have hxi : x.getLsbD i = false := Bool.eq_false_iff.mpr fun hxi => by
    rw [and_not_eq_zero_iff.mp hx i hxi] at hgi
    cases hgi
  rw [BitVec.getLsbD_and, BitVec.getLsbD_not, hb, hxi, decide_eq_true hi]
  rfl

end Flags

end Connect3Dp
