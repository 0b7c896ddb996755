import Mathlib.Data.List.Induction
import Mathlib.Order.Lattice

/-!
# Alarms

An alarm is set at a time and is shown other times, in any order. It rings at one that is not before
its deadline, and has the next occurrence after that time as its deadline then.

`deadline_spec` says what the deadline is at any point, the least occurrence after the time at which
the alarm was set and after all times that it was shown, and so when it rings (`rings_iff`).
-/

namespace Connect3Dp

namespace Alarm

variable {T : Type*} [LinearOrder T]

/-- The least occurrence after a time. -/
structure IsNext (occurs : T → Prop) (next : T → Option T) : Prop where
  isLater : ∀ {t d}, next t = some d → occurs d ∧ t < d
  least : ∀ {t o}, occurs o → t < o → ∃ d, next t = some d ∧ d ≤ o

def rings (deadline : Option T) (now : T) : Bool := deadline.any (· ≤ now)

/-- The deadline after a time that is shown. -/
def see (next : T → Option T) (deadline : Option T) (now : T) : Option T :=
  if rings deadline now then next now else deadline

/-- The deadline of an alarm that is set at a time and shown others. -/
def deadline (next : T → Option T) (start : T) (times : List T) : Option T :=
  times.foldl (see next) (next start)

variable {occurs : T → Prop} {next : T → Option T}

theorem deadline_concat (next : T → Option T) (start : T) (times : List T) (now : T) :
    deadline next start (times ++ [now]) = see next (deadline next start times) now := by
  rw [deadline, List.foldl_append, List.foldl_cons, List.foldl_nil, ← deadline]

theorem rings_iff_exists {deadline : Option T} {now : T} :
    rings deadline now = true ↔ ∃ d, deadline = some d ∧ d ≤ now := by
  rw [rings, Option.any_eq_true]
  simp only [decide_eq_true_eq]

/-- **The deadline** is the least occurrence after the start and all times that were shown. -/
theorem deadline_spec (h : IsNext occurs next) (start : T) (times : List T) :
    (∀ d, deadline next start times = some d → occurs d ∧ start < d ∧ ∀ t ∈ times, t < d) ∧
      ∀ o, occurs o → start < o → (∀ t ∈ times, t < o) →
        ∃ d, deadline next start times = some d ∧ d ≤ o := by
  induction times using List.reverseRecOn with
  | nil =>
    refine ⟨fun d hd => ?_, fun o ho hstart _ => h.least ho hstart⟩
    obtain ⟨ho, hlt⟩ := h.isLater hd
    exact ⟨ho, hlt, fun t ht => (by cases ht)⟩
  | append_singleton times now ih =>
    obtain ⟨hbefore, hleast⟩ := ih
    rw [deadline_concat, see]
    cases hrings : rings (deadline next start times) now with
    | true =>
      -- everything that was shown before is before the deadline, which is not after `now`
      obtain ⟨d₀, hd₀, hle⟩ := rings_iff_exists.mp hrings
      obtain ⟨-, hstart, htimes⟩ := hbefore d₀ hd₀
      rw [if_pos rfl]
      refine ⟨fun d hd => ?_, fun o ho _ hall => h.least ho (hall now (by simp))⟩
      obtain ⟨ho, hlt⟩ := h.isLater hd
      have hd₀lt : d₀ < d := lt_of_le_of_lt hle hlt
      refine ⟨ho, hstart.trans hd₀lt, fun t ht => ?_⟩
      rcases List.mem_append.mp ht with ht | ht
      · exact (htimes t ht).trans hd₀lt
      · rwa [List.mem_singleton.mp ht]
    | false =>
      rw [if_neg Bool.false_ne_true]
      refine ⟨fun d hd => ?_, fun o ho hstart hall => ?_⟩
      · obtain ⟨ho, hstart, htimes⟩ := hbefore d hd
        refine ⟨ho, hstart, fun t ht => ?_⟩
        rcases List.mem_append.mp ht with ht | ht
        · exact htimes t ht
        · rw [List.mem_singleton.mp ht]
          by_contra hnot
          rw [rings_iff_exists.mpr ⟨d, hd, not_lt.mp hnot⟩] at hrings
          cases hrings
      · exact hleast o ho hstart fun t ht => hall t (List.mem_append_left _ ht)

/-- **The alarm rings** at a time just when it is not before some occurrence that all earlier times
are before. -/
theorem rings_iff (h : IsNext occurs next) {start : T} {times : List T} {now : T} :
    rings (deadline next start times) now = true ↔
      ∃ o, occurs o ∧ start < o ∧ (∀ t ∈ times, t < o) ∧ o ≤ now := by
  obtain ⟨hbefore, hleast⟩ := deadline_spec h start times
  rw [rings_iff_exists]
  constructor
  · rintro ⟨d, hd, hle⟩
    obtain ⟨ho, hstart, htimes⟩ := hbefore d hd
    exact ⟨d, ho, hstart, htimes, hle⟩
  · rintro ⟨o, ho, hstart, htimes, hle⟩
    obtain ⟨d, hd, hdo⟩ := hleast o ho hstart htimes
    exact ⟨d, hd, hdo.trans hle⟩

end Alarm

end Connect3Dp
