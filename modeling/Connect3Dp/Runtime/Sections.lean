import Connect3Dp.Builder.Faulting

/-!
# Sections that can raise

A computation in sections that share a state can treat an exception in one of them in two ways. It
stops there (`runAll`), or it leaves the section out and goes on (`runIsolated`). The two agree just
when every section returns in its turn (`run_runAll_ok_iff`), and where they do not, the first stops
with the exception of the first section that raises (`run_runAll_error_iff`).
-/

namespace Connect3Dp

variable {ε σ τ : Type} {sections : List (EStateM ε σ Unit)} {m : EStateM ε σ Unit} {s s' : σ}
  {e : ε}

/-- Run sections one after the other, until one raises. -/
def runAll (sections : List (EStateM ε σ Unit)) : EStateM ε σ Unit := forM sections id

/-- The state after a section that is left out if it raises. -/
def isolate (s : σ) (m : EStateM ε σ Unit) : σ :=
  match m.run s with
  | .ok _ s' => s'
  | .error _ _ => s

/-- Run sections one after the other, each as if those that raise were not there. -/
def runIsolated (sections : List (EStateM ε σ Unit)) (s : σ) : σ := sections.foldl isolate s

/-- Each section returns in its turn. -/
def eachReturns : List (EStateM ε σ Unit) → σ → Bool
  | [], _ => true
  | m :: ms, s => returned (m.run s) && eachReturns ms (isolate s m)

theorem isolate_of_ok (h : m.run s = .ok () s') : isolate s m = s' := by rw [isolate, h]

theorem run_runAll_nil : (runAll ([] : List (EStateM ε σ Unit))).run s = .ok () s := rfl

theorem run_runAll_cons_ok (h : m.run s = .ok () s') :
    (runAll (m :: sections)).run s = (runAll sections).run s' := run_bind_ok h

theorem run_runAll_cons_error (h : m.run s = .error e s') :
    (runAll (m :: sections)).run s = .error e s' := run_bind_error h

theorem eachReturns_cons_ok (h : m.run s = .ok () s') :
    eachReturns (m :: sections) s = eachReturns sections s' := by
  rw [eachReturns, isolate_of_ok h, h]
  rfl

theorem eachReturns_cons_error (h : m.run s = .error e s') :
    eachReturns (m :: sections) s = false := by
  rw [eachReturns, h]
  rfl

/-- **The computation returns** just when each section does, and then with what all of them together
make of the state. -/
theorem run_runAll_ok_iff : (runAll sections).run s = .ok () s' ↔
    eachReturns sections s = true ∧ s' = runIsolated sections s := by
  induction sections generalizing s with
  | nil =>
    rw [run_runAll_nil]
    refine ⟨fun h => ?_, fun ⟨_, h⟩ => ?_⟩
    · cases h
      exact ⟨rfl, rfl⟩
    · rw [h]
      rfl
  | cons m ms ih =>
    rw [runIsolated, List.foldl_cons]
    cases hm : m.run s with
    | ok _ s₁ =>
      rw [run_runAll_cons_ok hm, eachReturns_cons_ok hm, isolate_of_ok hm]
      exact ih
    | error e s₁ =>
      rw [run_runAll_cons_error hm, eachReturns_cons_error hm]
      refine ⟨fun h => ?_, fun ⟨h, _⟩ => ?_⟩
      · cases h
      · cases h

/-- **The computation raises** what the first section raises that does not return. -/
theorem run_runAll_error_iff : (runAll sections).run s = .error e s' ↔
    ∃ before m after, sections = before ++ m :: after ∧ eachReturns before s = true ∧
      m.run (runIsolated before s) = .error e s' := by
  induction sections generalizing s with
  | nil =>
    rw [run_runAll_nil]
    refine ⟨fun h => ?_, ?_⟩
    · cases h
    · rintro ⟨before, m, after, h, -⟩
      cases List.append_eq_nil_iff.mp h.symm |>.2
  | cons m ms ih =>
    cases hm : m.run s with
    | error e₁ s₁ =>
      rw [run_runAll_cons_error hm]
      constructor
      · intro h
        cases h
        exact ⟨[], m, ms, rfl, rfl, hm⟩
      · rintro ⟨_ | ⟨m', before⟩, m'', after, hsections, hreturns, h⟩
        · cases hsections
          exact hm.symm.trans h
        · -- The first section raises, so no other comes before it.
          cases hsections
          rw [eachReturns_cons_error hm] at hreturns
          cases hreturns
    | ok _ s₁ =>
      rw [run_runAll_cons_ok hm, ih]
      constructor
      · rintro ⟨before, m', after, rfl, hreturns, h⟩
        refine ⟨m :: before, m', after, rfl, ?_, ?_⟩
        · rw [eachReturns_cons_ok hm]
          exact hreturns
        · rw [runIsolated, List.foldl_cons, isolate_of_ok hm]
          exact h
      · rintro ⟨_ | ⟨m', before⟩, m'', after, hsections, hreturns, h⟩
        · cases hsections
          cases hm.symm.trans h
        · cases hsections
          rw [eachReturns_cons_ok hm] at hreturns
          rw [runIsolated, List.foldl_cons, isolate_of_ok hm] at h
          exact ⟨before, m'', after, rfl, hreturns, h⟩

/-- Without a section that raises, sections return. -/
theorem exists_run_runAll_ok_iff :
    (∃ s', (runAll sections).run s = .ok () s') ↔ eachReturns sections s = true :=
  ⟨fun ⟨_, h⟩ => (run_runAll_ok_iff.mp h).1, fun h => ⟨_, run_runAll_ok_iff.mpr ⟨h, rfl⟩⟩⟩

theorem runAll_append (sections sections' : List (EStateM ε σ Unit)) :
    runAll (sections ++ sections') = (do runAll sections; runAll sections') :=
  List.forM_append

/-- Sections on a part of the state. -/
theorem run_runAll_map_onField {get : σ → τ} {set : σ → τ → σ} (hget : ∀ s t, get (set s t) = t)
    (hset : ∀ s t t', set (set s t) t' = set s t') (hself : ∀ s, set s (get s) = s)
    (sections : List (EStateM ε τ Unit)) (s : σ) :
    (runAll (sections.map (onField get set))).run s =
      (onField get set (runAll sections)).run s := by
  induction sections generalizing s with
  | nil =>
    rw [run_onField_ok (run_runAll_nil (s := get s)), hself]
    rfl
  | cons m ms ih =>
    rw [List.map_cons]
    cases hm : m.run (get s) with
    | ok _ t =>
      rw [run_runAll_cons_ok (run_onField_ok hm), ih]
      -- the part that the first section leaves is written back once, at the end
      cases hms : (runAll ms).run t with
      | ok _ t' =>
        have hall : (runAll (m :: ms)).run (get s) = .ok () t' := (run_runAll_cons_ok hm).trans hms
        rw [run_onField_ok hall, run_onField_ok (by rw [hget]; exact hms), hset]
      | error e t' =>
        have hall : (runAll (m :: ms)).run (get s) = .error e t' :=
          (run_runAll_cons_ok hm).trans hms
        rw [run_onField_error hall, run_onField_error (by rw [hget]; exact hms), hset]
    | error e t =>
      have hall : (runAll (m :: ms)).run (get s) = .error e t := run_runAll_cons_error hm
      rw [run_runAll_cons_error (run_onField_error hm), run_onField_error hall]

end Connect3Dp
