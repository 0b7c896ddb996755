import Mathlib.Data.List.Infix
import Mathlib.Logic.Relation

/-!
# Reachable states

A transition system is given by its initial states and its step relation. `Reachable.induct` is
the one induction every safety statement about runs goes through: what holds initially and is
kept by every step from a reachable state holds of every reachable state. What happened on the way
is said of the states of a run (`IsRun`), and `IsRun.exists_cause` finds where it did.

Where the steps are labelled, a run is the list of its labels and its prefixes are the points that
it passes. `forall_prefix_iff` says which runs keep a property that single steps may lose. Where
something outside of the system answers each step, a run leads to one of several states
(`Executes`), and `forall_executes_iff` says the same of all of them.
-/

namespace Connect3Dp

variable {σ : Type*}

/-- The states some run from an initial state passes through. -/
def Reachable (init : σ → Prop) (step : σ → σ → Prop) (s : σ) : Prop :=
  ∃ s₀, init s₀ ∧ Relation.ReflTransGen step s₀ s

namespace Reachable

variable {init : σ → Prop} {step : σ → σ → Prop} {s s' : σ}

theorem refl (h : init s) : Reachable init step s := ⟨s, h, .refl⟩

theorem tail (h : Reachable init step s) (hs : step s s') : Reachable init step s' :=
  let ⟨s₀, h₀, hr⟩ := h
  ⟨s₀, h₀, hr.tail hs⟩

/-- What some steps reach, all steps reach. -/
theorem mono {step' : σ → σ → Prop} (hstep : ∀ s s', step s s' → step' s s')
    (h : Reachable init step s) : Reachable init step' s :=
  let ⟨s₀, h₀, hr⟩ := h
  ⟨s₀, h₀, Relation.ReflTransGen.mono hstep _ _ hr⟩

/-- **The invariant rule.** -/
theorem induct {I : σ → Prop} (hinit : ∀ s, init s → I s)
    (hstep : ∀ s s', Reachable init step s → I s → step s s' → I s')
    (h : Reachable init step s) : I s := by
  obtain ⟨s₀, h₀, hr⟩ := h
  induction hr with
  | refl => exact hinit s₀ h₀
  | tail hrun hs ih => exact hstep _ _ ⟨s₀, h₀, hrun⟩ ih hs

end Reachable

/-! ### Runs as sequences of states -/

/-- The states of a run up to the number `n`: the system takes a step from each, or it is left
alone. -/
structure IsRun (init : σ → Prop) (step : σ → σ → Prop) (run : ℕ → σ) (n : ℕ) : Prop where
  init : init (run 0)
  step : ∀ t, t < n → run (t + 1) = run t ∨ step (run t) (run (t + 1))

namespace IsRun

variable {init : σ → Prop} {step : σ → σ → Prop} {run : ℕ → σ} {n : ℕ}

theorem take (h : IsRun init step run n) {t : ℕ} (ht : t ≤ n) : IsRun init step run t :=
  ⟨h.init, fun t' ht' => h.step t' (ht'.trans_le ht)⟩

/-- The states between two of a run. -/
theorem reaches (h : IsRun init step run n) {t u : ℕ} (htu : t ≤ u) (hun : u ≤ n) :
    Relation.ReflTransGen step (run t) (run u) := by
  induction u, htu using Nat.le_induction with
  | base => exact .refl
  | succ u _ ih =>
    obtain heq | hstep := h.step u hun
    · rw [heq]
      exact ih (Nat.le_of_succ_le hun)
    · exact (ih (Nat.le_of_succ_le hun)).tail hstep

theorem reachable (h : IsRun init step run n) : Reachable init step (run n) :=
  ⟨run 0, h.init, h.reaches (Nat.zero_le n) le_rfl⟩

/-- What a step keeps stays so from any point of the run on. -/
theorem stays (h : IsRun init step run n) {I : σ → Prop}
    (hstep : ∀ s s', I s → step s s' → I s') {t u : ℕ} (htu : t ≤ u) (hun : u ≤ n)
    (ht : I (run t)) : I (run u) := by
  refine Relation.ReflTransGen.rec ht (fun _ hs ih => hstep _ _ ih hs) (h.reaches htu hun)

/-- **The rule of causes.** What is so at the end and was not at some point of the run became so by
a step in between. -/
theorem exists_cause (h : IsRun init step run n) {Q : σ → Prop} {t u : ℕ} (htu : t ≤ u)
    (hun : u ≤ n) (hstart : ¬ Q (run t)) (hend : Q (run u)) :
    ∃ v, t ≤ v ∧ v < u ∧ step (run v) (run (v + 1)) ∧ ¬ Q (run v) ∧ Q (run (v + 1)) := by
  induction u, htu using Nat.le_induction with
  | base => exact absurd hend hstart
  | succ u htu ih =>
    by_cases hbefore : Q (run u)
    · obtain ⟨v, htv, hvu, hcause⟩ := ih (Nat.le_of_succ_le hun) hbefore
      exact ⟨v, htv, hvu.trans u.lt_succ_self, hcause⟩
    · obtain heq | hstep := h.step u hun
      · rw [heq] at hend
        exact absurd hend hbefore
      · exact ⟨u, htu, u.lt_succ_self, hstep, hbefore, hend⟩

/-- A run goes on with a step. -/
theorem snoc (h : IsRun init step run n) {s : σ} (hs : step (run n) s) :
    ∃ run', IsRun init step run' (n + 1) ∧ (∀ t, t ≤ n → run' t = run t) ∧ run' (n + 1) = s := by
  have hbefore : ∀ t, t ≤ n → Function.update run (n + 1) s t = run t := fun t ht =>
    Function.update_of_ne (by omega) ..
  have hlast : Function.update run (n + 1) s (n + 1) = s := Function.update_self ..
  refine ⟨Function.update run (n + 1) s, ⟨?_, fun t ht => ?_⟩, hbefore, hlast⟩
  · rw [hbefore 0 (Nat.zero_le n)]
    exact h.init
  · rcases (Nat.lt_succ_iff.mp ht).lt_or_eq with hlt | rfl
    · rw [hbefore t hlt.le, hbefore (t + 1) hlt]
      exact h.step t hlt
    · rw [hbefore t le_rfl, hlast]
      exact .inr hs

/-- A run goes on to whatever can be reached. -/
theorem extend (h : IsRun init step run n) {s : σ}
    (hreaches : Relation.ReflTransGen step (run n) s) :
    ∃ run' n', n ≤ n' ∧ IsRun init step run' n' ∧ (∀ t, t ≤ n → run' t = run t) ∧
      run' n' = s := by
  induction hreaches with
  | refl => exact ⟨run, n, le_rfl, h, fun _ _ => rfl, rfl⟩
  | tail _ hs ih =>
    obtain ⟨run₁, n₁, hn₁, hrun₁, hbefore₁, rfl⟩ := ih
    obtain ⟨run₂, hrun₂, hbefore₂, hlast⟩ := hrun₁.snoc hs
    refine ⟨run₂, n₁ + 1, hn₁.trans (Nat.le_succ n₁), hrun₂, fun t ht => ?_, hlast⟩
    rw [hbefore₂ t (ht.trans hn₁), hbefore₁ t ht]

/-- A part of a system runs, too, if it makes a step of its own or none in every step. -/
theorem map {τ : Type*} {init' : τ → Prop} {step' : τ → τ → Prop} (h : IsRun init step run n)
    {part : σ → τ} (hinit : ∀ s, init s → init' (part s))
    (hstep : ∀ s s', step s s' → part s' = part s ∨ step' (part s) (part s')) :
    IsRun init' step' (fun t => part (run t)) n := by
  refine ⟨hinit _ h.init, fun t ht => ?_⟩
  obtain heq | hs := h.step t ht
  · exact .inl (congrArg part heq)
  · exact hstep _ _ hs

end IsRun

/-! ### Runs as lists of labels -/

/-- A property that holds at the start holds all along a run if and only if no step of the run loses
it. -/
theorem forall_prefix_iff_of_mem {α : Type*} {P : List α → Prop} {keeps : List α → α → Prop}
    {run : List α} (hstart : P [])
    (hstep : ∀ past a, a ∈ run → P past → (P (past ++ [a]) ↔ keeps past a)) :
    (∀ past, past <+: run → P past) ↔ ∀ past a, past ++ [a] <+: run → keeps past a := by
  have hmem : ∀ past a, past ++ [a] <+: run → a ∈ run := fun past a hrun =>
    hrun.subset (List.mem_append_right past (List.mem_singleton.mpr rfl))
  constructor
  · intro h past a hrun
    have hpast : P past := h past ((List.prefix_append past [a]).trans hrun)
    exact (hstep past a (hmem past a hrun) hpast).mp (h (past ++ [a]) hrun)
  · intro h past
    induction past using List.reverseRecOn with
    | nil => exact fun _ => hstart
    | append_singleton past a ih =>
      intro hrun
      have hpast : P past := ih ((List.prefix_append past [a]).trans hrun)
      exact (hstep past a (hmem past a hrun) hpast).mpr (h past a hrun)

/-- The same, where no step loses it in any run. -/
theorem forall_prefix_iff {α : Type*} {P : List α → Prop} {keeps : List α → α → Prop}
    (hstart : P []) (hstep : ∀ past a, P past → (P (past ++ [a]) ↔ keeps past a))
    (run : List α) :
    (∀ past, past <+: run → P past) ↔ ∀ past a, past ++ [a] <+: run → keeps past a :=
  forall_prefix_iff_of_mem hstart fun past a _ => hstep past a

/-! ### Runs whose steps are answered from outside -/

section Answers

variable {α β : Type*} {perform : σ → β → α → σ} {s₀ s : σ} {run : List α}

/-- The states that a run can lead to. -/
inductive Executes (perform : σ → β → α → σ) (s₀ : σ) : List α → σ → Prop
  | start : Executes perform s₀ [] s₀
  | step {past : List α} {s : σ} (a : α) (answer : β) (h : Executes perform s₀ past s) :
      Executes perform s₀ (past ++ [a]) (perform s answer a)

namespace Executes

theorem eq_start (h : Executes perform s₀ [] s) : s = s₀ := by
  generalize hrun : ([] : List α) = run at h
  cases h with
  | start => rfl
  | step => cases List.append_ne_nil_of_right_ne_nil _ (List.cons_ne_nil _ []) hrun.symm

theorem last {past : List α} {a : α} (h : Executes perform s₀ (past ++ [a]) s) :
    ∃ s' answer, Executes perform s₀ past s' ∧ s = perform s' answer a := by
  generalize hrun : past ++ [a] = run at h
  cases h with
  | start => cases List.append_ne_nil_of_right_ne_nil _ (List.cons_ne_nil _ []) hrun
  | step a' answer h' =>
    obtain ⟨rfl, ha⟩ := List.append_inj' hrun rfl
    cases ha
    exact ⟨_, answer, h', rfl⟩

/-- **The invariant rule**, of runs with answers. -/
theorem induct {I : σ → Prop} (h : Executes perform s₀ run s) (hstart : I s₀)
    (hstep : ∀ s answer a, I s → I (perform s answer a)) : I s := by
  induction h with
  | start => exact hstart
  | step a answer _ ih => exact hstep _ answer a ih

end Executes

/-- A property that holds at the start holds all along a run, whatever the answers are, if and only
if no step can lose it. -/
theorem forall_executes_iff {P : σ → Prop} {keeps : σ → α → Prop} (hstart : P s₀)
    (hstep : ∀ past s a, Executes perform s₀ past s → P s →
      ((∀ answer, P (perform s answer a)) ↔ keeps s a)) (run : List α) :
    (∀ past, past <+: run → ∀ s, Executes perform s₀ past s → P s) ↔
      ∀ past a, past ++ [a] <+: run → ∀ s, Executes perform s₀ past s → keeps s a := by
  refine forall_prefix_iff ?_ ?_ run
  · intro s hs
    rw [hs.eq_start]
    exact hstart
  · intro past a hpast
    constructor
    · intro hnext s hs
      exact (hstep past s a hs (hpast s hs)).mp fun answer => hnext _ (.step a answer hs)
    · intro hkeeps s' hs'
      obtain ⟨s, answer, hs, rfl⟩ := hs'.last
      exact (hstep past s a hs (hpast s hs)).mpr (hkeeps s hs) answer

end Answers

end Connect3Dp
