import Connect3Dp.Builder.Faulting
import Connect3Dp.Collections.HashSet

/-!
# Loops that fill collections

What is in a dictionary or a set that a loop has filled, key by key.
-/

namespace Connect3Dp

/-- `ToDictionary`, of entries with different keys. -/
def toDictionary {K V : Type} [DecidableEq K] (entries : List (K × V)) : Dictionary K V :=
  entries.foldl (fun d e => d.set e.1 e.2) ∅

variable {ε K V : Type} [DecidableEq K] {entries : List (K × V)} {k : K} {v : V}

theorem tryGetValue_toDictionary_iff (h : (entries.map Prod.fst).Nodup) :
    (toDictionary entries).tryGetValue k = some v ↔ (k, v) ∈ entries := by
  rw [toDictionary, Dictionary.tryGetValue_foldl_set h, Dictionary.tryGetValue_empty,
    Option.or_none, Dictionary.lookup_eq_some_iff_mem h]

theorem mem_foldl_add {α : Type} [DecidableEq α] {l : List α} {s : HashSet α} {a : α} :
    a ∈ l.foldl HashSet.add s ↔ a ∈ s ∨ a ∈ l := by
  induction l generalizing s with
  | nil => simp
  | cons b l ih => rw [List.foldl_cons, ih, HashSet.mem_add, List.mem_cons, or_assoc]

omit [DecidableEq K] in
theorem map_fst_filter_nodup {d : Dictionary K V} {p : K × V → Bool} :
    ((d.entries.filter p).map Prod.fst).Nodup :=
  d.nodup_keys.sublist (List.filter_sublist.map Prod.fst)

theorem tryGetValue_toDictionary_filter_iff {d : Dictionary K V} {p : K × V → Bool} :
    (toDictionary (d.entries.filter p)).tryGetValue k = some v ↔
      d.tryGetValue k = some v ∧ p (k, v) = true := by
  rw [tryGetValue_toDictionary_iff map_fst_filter_nodup, List.mem_filter,
    Dictionary.mem_entries_iff]

omit [DecidableEq K] in
/-- The entries that a loop over some entries makes, with the same keys. -/
theorem mem_of_mapM_entries {W : Type} {f : V → Except ε W} {results : List (K × W)}
    (h : (entries.mapM fun e => do return (e.1, ← f e.2)) = .ok results) :
    results.map Prod.fst = entries.map Prod.fst ∧
      ∀ k w, (k, w) ∈ results ↔ ∃ v, (k, v) ∈ entries ∧ f v = .ok w := by
  induction entries generalizing results with
  | nil =>
    cases h
    exact ⟨rfl, fun k w => by simp⟩
  | cons e entries ih =>
    simp only [List.mapM_cons, bind_eq_ok_iff] at h
    obtain ⟨_, ⟨w, hw, hpair⟩, results', hresults, h⟩ := h
    cases hpair
    cases h
    obtain ⟨hkeys, hmem⟩ := ih hresults
    refine ⟨by rw [List.map_cons, List.map_cons, hkeys], fun k w' => ?_⟩
    rw [List.mem_cons, hmem, Prod.mk.injEq]
    constructor
    · rintro (⟨rfl, rfl⟩ | ⟨v, hv, hf⟩)
      · exact ⟨e.2, List.mem_cons_self, hw⟩
      · exact ⟨v, List.mem_cons_of_mem e hv, hf⟩
    · rintro ⟨v, hv, hf⟩
      obtain rfl | hv := List.mem_cons.mp hv
      · rw [hw] at hf
        cases hf
        exact .inl ⟨rfl, rfl⟩
      · exact .inr ⟨v, hv, hf⟩

/-- A loop that computes a new value for each entry of a dictionary, if the computations return. -/
theorem exists_mapM_entries {W : Type} {d : Dictionary K V} {f : V → Except ε W}
    (h : ∀ k v, d.tryGetValue k = some v → ∃ w, f v = .ok w) :
    ∃ results, (d.entries.mapM fun e => do return (e.1, ← f e.2)) = .ok results ∧
      ∀ k w, (toDictionary results).tryGetValue k = some w ↔
        ∃ v, d.tryGetValue k = some v ∧ f v = .ok w := by
  have hstep : ∀ e ∈ d.entries, ∃ r, (do return (e.1, ← f e.2) : Except ε (K × W)) = .ok r := by
    intro e he
    obtain ⟨w, hw⟩ := h e.1 e.2 (Dictionary.mem_entries_iff.mp he)
    exact ⟨(e.1, w), bind_eq_ok_iff.mpr ⟨w, hw, rfl⟩⟩
  obtain ⟨results, hresults⟩ := exists_mapM_eq_ok_iff.mpr hstep
  obtain ⟨hkeys, hmem⟩ := mem_of_mapM_entries hresults
  refine ⟨results, hresults, fun k w => ?_⟩
  rw [tryGetValue_toDictionary_iff (hkeys ▸ d.nodup_keys), hmem]
  simp only [Dictionary.mem_entries_iff]

/-- A loop that sets each key to a value, until there is none. -/
theorem foldlM_set {f : K → Option V} {step : Dictionary K V → K → Option (Dictionary K V)}
    (hstep : ∀ d k, step d k = (f k).map (d.set k)) (keys : List K) (d : Dictionary K V) :
    ((∃ k ∈ keys, f k = none) ∧ keys.foldlM step d = none) ∨
      ((∀ k ∈ keys, f k ≠ none) ∧ ∃ d', keys.foldlM step d = some d' ∧
        ∀ k, d'.tryGetValue k = if k ∈ keys then f k else d.tryGetValue k) := by
  induction keys generalizing d with
  | nil => exact .inr ⟨List.forall_mem_nil _, d, rfl, fun k => by rw [if_neg List.not_mem_nil]⟩
  | cons k keys ih =>
    rw [List.foldlM_cons, hstep]
    cases hk : f k with
    | none => exact .inl ⟨⟨k, List.mem_cons_self, hk⟩, rfl⟩
    | some v =>
      rw [Option.map_some, Option.bind_eq_bind, Option.bind_some]
      obtain ⟨⟨k', hk', hnone⟩, hfold⟩ | ⟨hsome, d', hfold, hvalue⟩ := ih (d.set k v)
      · exact .inl ⟨⟨k', List.mem_cons_of_mem k hk', hnone⟩, hfold⟩
      · refine .inr ⟨List.forall_mem_cons.mpr ⟨by simp [hk], hsome⟩, d', hfold, fun k' => ?_⟩
        rw [hvalue, Dictionary.tryGetValue_set]
        by_cases hmem : k' ∈ keys
        · rw [if_pos hmem, if_pos (List.mem_cons_of_mem k hmem)]
        · by_cases hkey : k' = k
          · subst hkey
            rw [if_neg hmem, if_pos rfl, if_pos List.mem_cons_self, hk]
          · rw [if_neg hmem, if_neg hkey, if_neg (by simp [hmem, hkey])]

end Connect3Dp
