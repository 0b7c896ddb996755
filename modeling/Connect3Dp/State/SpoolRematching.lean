import Connect3Dp.State.SpoolMatching

/-!
# Rematching spools

`TryRematchMatchedSpools` repairs an earlier choice of trays. It replaces the matches whose tray
does not have the material any more and whose filament the print requires, and returns true without
a look at the others (`repairs_iff`).
-/

namespace Connect3Dp

namespace MachineState

section Definitions

variable {D : Type} [LinearOrder D] (sim : Similarity D) (s : MachineState)

/-- `mu.ID.Equals(location.MUID) && spool.Number == location.Slot`. -/
def isAt (location : SpoolLocation) (mu : MUnit) (spool : Spool) : Except Fault Bool :=
  match mu.id with
  | none => .error .nullReference
  | some id => .ok (location.muid = some id ∧ spool.number = location.slot)

/-- `TryGetLoadedSpool`. -/
def tryGetLoadedSpool (location : SpoolLocation) : Except Fault (Option Material) :=
  s.materialUnits.values.findSomeM? fun mu => mu.trays.values.findSomeM? fun spool => do
    return if ← isAt location mu spool then some spool.material else none

/-- The entry is for a tray that does not have the material any more. -/
def isInvalid (previousMatch : SpoolMatch D) : Except Fault Bool := do
  match ← s.tryGetLoadedSpool previousMatch.location with
  | none => return true
  | some currentMaterial =>
    return !(← sim.isSimilar previousMatch.materialInMatchedSpool currentMaterial)

/-- The first match of each filament, if all have one. -/
def confirmedReplacements (rematchResults : Matches Int32 (SpoolMatch D)) (ids : List Int32) :
    Option (Dictionary Int32 (SpoolMatch D)) :=
  ids.foldlM (fun confirmed filamentId => do
    let similarMatches ← rematchResults.all.tryGetValue filamentId
    return confirmed.set filamentId (← similarMatches.head?)) ∅

/-- `TryRematchMatchedSpools`: what it returns, and the map afterwards. -/
def tryRematchMatchedSpools (materialsToPrint : Dictionary Int32 MaterialToPrint)
    (previousMap : Dictionary Int32 (SpoolMatch D)) :
    Except Fault (Bool × Dictionary Int32 (SpoolMatch D)) := do
  let invalidFilamentIds ← previousMap.entries.foldlM (fun invalid entry =>
    return if ← s.isInvalid sim entry.2 then invalid.add entry.1 else invalid) (∅ : HashSet Int32)
  if invalidFilamentIds.elems.length = 0 then return (true, previousMap)
  let materialsToRematch :=
    toDictionary (materialsToPrint.entries.filter fun kv => kv.1 ∈ invalidFilamentIds)
  let rematchResults ← s.findMatchingSpools sim materialsToRematch
  match confirmedReplacements rematchResults materialsToRematch.keys with
  | none => return (false, previousMap)
  | some confirmed =>
    return (true, confirmed.entries.foldl (fun map e => map.set e.1 e.2) previousMap)

end Definitions

variable {D : Type} [LinearOrder D] {sim : Similarity D} {s : MachineState}

/-! ### The trays of a choice -/

theorem findSome?_ite {α β : Type} {q : α → Bool} {f : α → β} {l : List α} :
    l.findSome? (fun a => if q a then some (f a) else none) = (l.find? q).map f := by
  rw [List.find?_eq_findSome?_guard, List.map_findSome?]
  congr 1
  funext a
  cases hq : q a <;> simp [Option.guard, hq]

/-- Every unit has an id, which its type promises. -/
def Identified (s : MachineState) : Prop := ∀ mu ∈ s.materialUnits.values, mu.id ≠ none

/-- The location of a match is loaded with a material that is similar to the one matched. -/
def IsValid (sim : Similarity D) (s : MachineState) (m : SpoolMatch D) : Prop :=
  ∃ material, s.tryGetLoadedSpool m.location = .ok (some material) ∧
    sim.isSimilar m.materialInMatchedSpool material = .ok true

/-- The tray is at the location. -/
def IsAt (location : SpoolLocation) (p : NetString × Spool) : Bool :=
  location = ⟨p.1, p.2.number⟩

/-- **`TryGetLoadedSpool`** finds the first tray at a location. -/
theorem tryGetLoadedSpool_eq (h : s.Identified) (location : SpoolLocation) :
    s.tryGetLoadedSpool location =
      .ok ((s.spools.find? (IsAt location)).map fun p => p.2.material) := by
  have hunit : ∀ mu ∈ s.materialUnits.values, (mu.trays.values.findSomeM? fun spool => do
      return if ← isAt location mu spool then some spool.material else none) =
        .ok (mu.trays.values.findSome? fun spool =>
          if IsAt location (mu.id, spool) then some spool.material else none) := by
    intro mu hmu
    obtain ⟨id, hid⟩ := Option.ne_none_iff_exists'.mp (h mu hmu)
    refine findSomeM_eq_ok fun spool _ => ?_
    have hat : isAt location mu spool = .ok (IsAt location (mu.id, spool)) := by
      obtain ⟨muid, slot⟩ := location
      simp only [isAt, IsAt, hid, SpoolLocation.mk.injEq, eq_comm (a := slot)]
    rw [hat]
    rfl
  rw [tryGetLoadedSpool, findSomeM_eq_ok hunit, spools, List.find?_flatMap, List.map_findSome?]
  refine congrArg (fun f => Except.ok (s.materialUnits.values.findSome? f)) (funext fun mu => ?_)
  rw [findSome?_ite, Function.comp_apply, List.find?_map, Option.map_map]
  rfl

/-- **A match found now is valid**, if no two trays are at one location and equal colors are
similar. -/
theorem isValid_of_mem_matching (hid : s.Identified)
    (hsame : ∀ c, sim.deltaE c c ≤ sim.threshold)
    (hdistinct : (s.spools.map fun p => (p.1, p.2.number)).Nodup) {required : Material}
    {m : SpoolMatch D} (hm : m ∈ s.matching sim required) : s.IsValid sim m := by
  obtain ⟨p, hp, rfl⟩ := List.mem_map.mp hm
  obtain ⟨hp, hfits⟩ := List.mem_filter.mp hp
  have hfind : s.spools.find? (IsAt (matchWith sim required p).location) = some p := by
    cases hq : s.spools.find? (IsAt (matchWith sim required p).location) with
    | none => exact absurd (decide_eq_true rfl) (List.find?_eq_none.mp hq p hp)
    | some q =>
      have hq' : IsAt (matchWith sim required p).location q = true := List.find?_some hq
      have hat := of_decide_eq_true hq'
      rw [matchWith, SpoolLocation.mk.injEq] at hat
      have hkey : (fun p : NetString × Spool => (p.1, p.2.number)) q = (p.1, p.2.number) :=
        Prod.ext hat.1.symm hat.2.symm
      rw [List.inj_on_of_nodup_map hdistinct (List.mem_of_find?_eq_some hq) hp hkey]
  obtain ⟨name, hname⟩ : ∃ name, p.2.material.name = some name := by
    cases hname : p.2.material.name with
    | some name => exact ⟨name, rfl⟩
    | none =>
      rw [Similarity.fits, hname] at hfits
      cases hfits
  refine ⟨p.2.material, by rw [tryGetLoadedSpool_eq hid, hfind]; rfl, ?_⟩
  have hequals : sim.nameEquals p.2.material.name p.2.material.name = .ok true := by
    rw [hname, Similarity.nameEquals, Similarity.equalsIgnoreCase, decide_eq_true rfl]
  have hcolor : sim.isSimilarTo p.2.material.color p.2.material.color = true :=
    decide_eq_true (hsame _)
  change sim.isSimilar p.2.material p.2.material = .ok true
  rw [Similarity.isSimilar, hequals, ok_bind, hcolor]
  rfl

theorem eq_true_iff_of_isInvalid_eq_ok {m : SpoolMatch D} {b : Bool}
    (h : s.isInvalid sim m = .ok b) : b = true ↔ ¬ s.IsValid sim m := by
  obtain ⟨o, ho, h⟩ := bind_eq_ok_iff.mp h
  rw [IsValid, ho]
  cases o with
  | none =>
    cases h
    simp
  | some material =>
    obtain ⟨similar, hsimilar, h⟩ := bind_eq_ok_iff.mp h
    cases h
    simp [hsimilar]

/-- The id has a match that is not valid any more. -/
def IsStale (sim : Similarity D) (s : MachineState)
    (previousMap : Dictionary Int32 (SpoolMatch D)) (id : Int32) : Prop :=
  ∃ m, previousMap.tryGetValue id = some m ∧ ¬ s.IsValid sim m

/-- The first match of the material that is required for an id. -/
def replacement (sim : Similarity D) (s : MachineState)
    (materialsToPrint : Dictionary Int32 MaterialToPrint) (id : Int32) : Option (SpoolMatch D) :=
  (materialsToPrint.tryGetValue id).bind fun required => (s.matching sim required.material).head?

/-- An id needs another match, its material is required, and no tray fits. -/
def IsIrreparable (sim : Similarity D) (s : MachineState)
    (materialsToPrint : Dictionary Int32 MaterialToPrint)
    (previousMap : Dictionary Int32 (SpoolMatch D)) : Prop :=
  ∃ id required, s.IsStale sim previousMap id ∧ materialsToPrint.tryGetValue id = some required ∧
    s.matching sim required.material = []

/-- There the replacement is valid just when there is one: the material is required, and fits. -/
theorem exists_valid_replacement_iff (hid : s.Identified)
    (hsame : ∀ c, sim.deltaE c c ≤ sim.threshold)
    (hdistinct : (s.spools.map fun p => (p.1, p.2.number)).Nodup)
    {materialsToPrint : Dictionary Int32 MaterialToPrint} {id : Int32} :
    (∃ m, s.replacement sim materialsToPrint id = some m ∧ s.IsValid sim m) ↔
      ∃ required, materialsToPrint.tryGetValue id = some required ∧
        s.matching sim required.material ≠ [] := by
  simp only [replacement, Option.bind_eq_some_iff]
  constructor
  · rintro ⟨m, ⟨required, hrequired, hm⟩, -⟩
    exact ⟨required, hrequired, List.ne_nil_of_mem (List.mem_of_mem_head? hm)⟩
  · rintro ⟨required, hrequired, hne⟩
    refine ⟨_, ⟨required, hrequired, List.head?_eq_some_head hne⟩, ?_⟩
    exact isValid_of_mem_matching hid hsame hdistinct (List.head_mem hne)

variable {previousMap : Dictionary Int32 (SpoolMatch D)}

/-- **The first loop** collects the ids whose matches are not valid. -/
theorem mem_of_foldlM_isInvalid {l : List (Int32 × SpoolMatch D)} {invalid invalid' : HashSet Int32}
    (h : l.foldlM (fun (invalid : HashSet Int32) entry => do
      return if ← s.isInvalid sim entry.2 then invalid.add entry.1 else invalid) invalid =
        .ok invalid') (id : Int32) :
    id ∈ invalid' ↔ id ∈ invalid ∨ ∃ m, (id, m) ∈ l ∧ ¬ s.IsValid sim m := by
  induction l generalizing invalid with
  | nil =>
    cases h
    simp
  | cons e l ih =>
    obtain ⟨next, hnext, hrest⟩ := bind_eq_ok_iff.mp h
    obtain ⟨b, hb, hnext⟩ := bind_eq_ok_iff.mp hnext
    cases hnext
    have hvalid := eq_true_iff_of_isInvalid_eq_ok hb
    have hadd : ∀ id, id ∈ (if b = true then invalid.add e.1 else invalid) ↔
        id ∈ invalid ∨ (id = e.1 ∧ ¬ s.IsValid sim e.2) := by
      intro id
      cases b with
      | false => simp [not_not.mp (mt hvalid.mpr Bool.false_ne_true)]
      | true => simp [hvalid.mp rfl, HashSet.mem_add]
    rw [ih hrest, hadd, or_assoc]
    refine or_congr Iff.rfl ⟨?_, ?_⟩
    · rintro (⟨rfl, hinvalid⟩ | ⟨m, hm, hinvalid⟩)
      · exact ⟨e.2, List.mem_cons_self, hinvalid⟩
      · exact ⟨m, List.mem_cons_of_mem e hm, hinvalid⟩
    · rintro ⟨m, hm, hinvalid⟩
      obtain rfl | hm := List.mem_cons.mp hm
      · exact .inl ⟨rfl, hinvalid⟩
      · exact .inr ⟨m, hm, hinvalid⟩

/-- The matches of `FindMatchingSpools` that are not empty, key by key. -/
def AllMatches (sim : Similarity D) (s : MachineState)
    (materialsToPrint : Dictionary Int32 MaterialToPrint)
    (all : Dictionary Int32 (List (SpoolMatch D))) : Prop :=
  ∀ id found, all.tryGetValue id = some found ↔ found ≠ [] ∧
    ∃ required, materialsToPrint.tryGetValue id = some required ∧
      found = s.matching sim required.material

variable {all : Dictionary Int32 (List (SpoolMatch D))}
  {rematch : Dictionary Int32 MaterialToPrint}

/-- The first match of a required material, which is that of its trays. -/
theorem AllMatches.head? (h : AllMatches sim s rematch all) {id : Int32}
    {required : MaterialToPrint} (hrequired : rematch.tryGetValue id = some required) :
    (all.tryGetValue id).bind List.head? = (s.matching sim required.material).head? := by
  cases hfound : all.tryGetValue id with
  | some found =>
    obtain ⟨-, required', hrequired', rfl⟩ := (h id found).mp hfound
    cases hrequired.symm.trans hrequired'
    rfl
  | none =>
    by_cases hnone : s.matching sim required.material = []
    · rw [hnone]
      rfl
    · cases hfound.symm.trans ((h id _).mpr ⟨hnone, required, hrequired, rfl⟩)

omit [LinearOrder D] in
theorem confirm_eq (all : Dictionary Int32 (List (SpoolMatch D)))
    (d : Dictionary Int32 (SpoolMatch D)) (id : Int32) : (do
      let similarMatches ← all.tryGetValue id
      return d.set id (← similarMatches.head?)) =
        ((all.tryGetValue id).bind List.head?).map (d.set id) := by
  cases all.tryGetValue id with
  | none => rfl
  | some found => cases found <;> rfl

/-- **The confirmed replacements** are the first matches, and there are none just when a material
has no match. -/
theorem confirmedReplacements_cases {m : Matches Int32 (SpoolMatch D)}
    (hall : AllMatches sim s rematch m.all) :
    ((∃ id required, rematch.tryGetValue id = some required ∧
        s.matching sim required.material = []) ∧
      confirmedReplacements m rematch.keys = none) ∨
    ((∀ id required, rematch.tryGetValue id = some required →
        s.matching sim required.material ≠ []) ∧
      ∃ confirmed, confirmedReplacements m rematch.keys = some confirmed ∧
        ∀ id, confirmed.tryGetValue id = s.replacement sim rematch id) := by
  obtain ⟨⟨id, hid, hnone⟩, hfold⟩ | ⟨hsome, confirmed, hfold, hconfirmed⟩ :=
    foldlM_set (confirm_eq m.all) rematch.keys ∅
  · obtain ⟨required, hrequired⟩ := Dictionary.mem_keys_iff.mp hid
    rw [hall.head? hrequired, List.head?_eq_none_iff] at hnone
    exact .inl ⟨⟨id, required, hrequired, hnone⟩, hfold⟩
  · refine .inr ⟨fun id required hrequired hnone => ?_, confirmed, hfold, fun id => ?_⟩
    · refine hsome id (Dictionary.mem_keys_iff.mpr ⟨required, hrequired⟩) ?_
      rw [hall.head? hrequired, hnone]
      rfl
    · rw [hconfirmed, replacement]
      cases hrequired : rematch.tryGetValue id with
      | none =>
        rw [if_neg, Dictionary.tryGetValue_empty, Option.bind_none]
        rw [Dictionary.mem_keys_iff, hrequired]
        rintro ⟨required, hnone⟩
        cases hnone
      | some required =>
        rw [if_pos (Dictionary.mem_keys_iff.mpr ⟨required, hrequired⟩), hall.head? hrequired,
          Option.bind_some]

/-- The replacement of an id among the materials that need rematching. -/
theorem replacement_rematch {materialsToPrint : Dictionary Int32 MaterialToPrint} {id : Int32}
    {stale : Prop} (h : ∀ required, rematch.tryGetValue id = some required ↔
      materialsToPrint.tryGetValue id = some required ∧ stale) :
    (stale → s.replacement sim rematch id = s.replacement sim materialsToPrint id) ∧
      (¬ stale → s.replacement sim rematch id = none) := by
  constructor
  · intro hstale
    have hsame : rematch.tryGetValue id = materialsToPrint.tryGetValue id := by
      ext required
      rw [h, and_iff_left hstale]
    rw [replacement, hsame, replacement]
  · intro hfresh
    have hnone : rematch.tryGetValue id = none := by
      ext required
      simp [h, hfresh]
    rw [replacement, hnone, Option.bind_none]

/-- **What `TryRematchMatchedSpools` has done when it returns**: nothing if a required material is
missing, and otherwise it has replaced the stale matches whose material is required. -/
theorem tryRematchMatchedSpools_cases {materialsToPrint : Dictionary Int32 MaterialToPrint}
    {r : Bool × Dictionary Int32 (SpoolMatch D)}
    (h : s.tryRematchMatchedSpools sim materialsToPrint previousMap = .ok r) :
    (s.IsIrreparable sim materialsToPrint previousMap ∧ r = (false, previousMap)) ∨
      (¬ s.IsIrreparable sim materialsToPrint previousMap ∧ r.1 = true ∧
        (∀ id, s.IsStale sim previousMap id → r.2.tryGetValue id =
          (s.replacement sim materialsToPrint id).or (previousMap.tryGetValue id)) ∧
        ∀ id, ¬ s.IsStale sim previousMap id →
          r.2.tryGetValue id = previousMap.tryGetValue id) := by
  obtain ⟨invalid, hinvalid, h⟩ := bind_eq_ok_iff.mp h
  have hstale : ∀ id, id ∈ invalid ↔ s.IsStale sim previousMap id := by
    intro id
    rw [mem_of_foldlM_isInvalid hinvalid, or_iff_right (HashSet.notMem_empty id)]
    simp only [Dictionary.mem_entries_iff, IsStale]
  by_cases hnone : invalid.elems.length = 0
  · have hfresh : ∀ id, ¬ s.IsStale sim previousMap id := by
      intro id
      rw [← hstale, HashSet.mem_def, List.length_eq_zero_iff.mp hnone]
      exact List.not_mem_nil
    rw [if_pos hnone] at h
    cases h
    refine .inr ⟨?_, rfl, ?_, fun _ _ => rfl⟩
    · rintro ⟨id, required, hid, -⟩
      exact hfresh id hid
    · intro id hid
      exact absurd hid (hfresh id)
  · rw [if_neg hnone] at h
    generalize hfilter : toDictionary (materialsToPrint.entries.filter fun kv =>
      decide (kv.1 ∈ invalid)) = rematch at h
    have hrematch : ∀ id required, rematch.tryGetValue id = some required ↔
        materialsToPrint.tryGetValue id = some required ∧ s.IsStale sim previousMap id := by
      intro id required
      rw [← hfilter, tryGetValue_toDictionary_filter_iff, decide_eq_true_iff, hstale]
    obtain ⟨m, hm, h⟩ := bind_eq_ok_iff.mp h
    obtain ⟨m', hm', hall, -, -⟩ :=
      exists_findMatchingSpools sim (namedFor_of_findMatchingSpools_eq_ok hm)
    cases hm.symm.trans hm'
    obtain ⟨⟨id, required, hrequired, hnone⟩, hconfirmed⟩ |
        ⟨hsome, confirmed, hconfirmed, hvalue⟩ := confirmedReplacements_cases hall
    · obtain ⟨hrequires, hinvalid⟩ := (hrematch id required).mp hrequired
      rw [hconfirmed] at h
      cases h
      exact .inl ⟨⟨id, required, hinvalid, hrequires, hnone⟩, rfl⟩
    · have hmap' : ∀ id, (confirmed.entries.foldl (fun map e => map.set e.1 e.2)
          previousMap).tryGetValue id =
            (confirmed.tryGetValue id).or (previousMap.tryGetValue id) :=
        Dictionary.tryGetValue_foldl_set confirmed.nodup_keys previousMap
      simp only [hvalue] at hmap'
      rw [hconfirmed] at h
      cases h
      refine .inr ⟨?_, rfl, fun id hinvalid => ?_, fun id hvalid => ?_⟩
      · rintro ⟨id, required, hinvalid, hrequires, hnone⟩
        exact hsome id required ((hrematch id required).mpr ⟨hrequires, hinvalid⟩) hnone
      · rw [← (replacement_rematch (hrematch id)).1 hinvalid]
        exact hmap' id
      · refine (hmap' id).trans ?_
        rw [(replacement_rematch (hrematch id)).2 hvalid, Option.none_or]

/-- Repairs or leaves alone: if it returns true then every match is valid, those that were are
unchanged and so are the ids, and if it returns false then nothing has changed. -/
structure Repairs (sim : Similarity D) (s : MachineState)
    (previousMap : Dictionary Int32 (SpoolMatch D)) (r : Bool × Dictionary Int32 (SpoolMatch D)) :
    Prop where
  valid : r.1 = true → ∀ id m, r.2.tryGetValue id = some m → s.IsValid sim m
  unchanged : r.1 = true → ∀ id m, previousMap.tryGetValue id = some m → s.IsValid sim m →
    r.2.tryGetValue id = some m
  keys : r.1 = true → ∀ id, r.2.containsKey id = previousMap.containsKey id
  atomic : r.1 = false → r.2 = previousMap

/-- **`TryRematchMatchedSpools` repairs or leaves alone**, whenever it returns, just when a required
material is missing, or each stale id is required and its replacement is valid. -/
theorem repairs_iff {materialsToPrint : Dictionary Int32 MaterialToPrint}
    {r : Bool × Dictionary Int32 (SpoolMatch D)}
    (h : s.tryRematchMatchedSpools sim materialsToPrint previousMap = .ok r) :
    s.Repairs sim previousMap r ↔ s.IsIrreparable sim materialsToPrint previousMap ∨
      ∀ id, s.IsStale sim previousMap id →
        ∃ m, s.replacement sim materialsToPrint id = some m ∧ s.IsValid sim m := by
  obtain ⟨hmissing, rfl⟩ | ⟨hfound, htrue, hstale, hvalid⟩ := tryRematchMatchedSpools_cases h
  · refine iff_of_true ⟨?_, ?_, ?_, fun _ => rfl⟩ (.inl hmissing)
    · intro h
      cases h
    · intro h
      cases h
    · intro h
      cases h
  · refine ⟨fun h => .inr fun id hid => ?_, fun h => ?_⟩
    · obtain ⟨m, hm, hinvalid⟩ := hid
      have hvalue := hstale id ⟨m, hm, hinvalid⟩
      cases hreplace : s.replacement sim materialsToPrint id with
      | some m' => exact ⟨m', rfl, h.valid htrue id m' (by rw [hvalue, hreplace, Option.some_or])⟩
      | none =>
        -- the stale match is still there
        refine absurd (h.valid htrue id m ?_) hinvalid
        rw [hvalue, hreplace, Option.none_or, hm]
    · have hreplaced := h.resolve_left hfound
      have hvalue : ∀ id, s.IsStale sim previousMap id →
          ∃ m, r.2.tryGetValue id = some m ∧ s.IsValid sim m := by
        intro id hid
        obtain ⟨m, hm, hm'⟩ := hreplaced id hid
        exact ⟨m, by rw [hstale id hid, hm, Option.some_or], hm'⟩
      refine ⟨fun _ id m hm => ?_, fun _ id m hm hm' => ?_, fun _ id => ?_, fun hfalse => ?_⟩
      · by_cases hid : s.IsStale sim previousMap id
        · obtain ⟨m', hvalue', hm'⟩ := hvalue id hid
          cases hm.symm.trans hvalue'
          exact hm'
        · exact not_not.mp fun hinvalid => hid ⟨m, (hvalid id hid).symm.trans hm, hinvalid⟩
      · refine (hvalid id ?_).trans hm
        rintro ⟨m', hm'', hinvalid⟩
        cases hm.symm.trans hm''
        exact hinvalid hm'
      · by_cases hid : s.IsStale sim previousMap id
        · obtain ⟨m', hvalue', -⟩ := hvalue id hid
          obtain ⟨m, hm, -⟩ := hid
          rw [Dictionary.containsKey, Dictionary.containsKey, hvalue', hm]
          rfl
        · rw [Dictionary.containsKey, Dictionary.containsKey, hvalid id hid]
      · cases htrue.symm.trans hfalse

/-- The filament was taken from a tray that the unit does not have any more. -/
def emptiedTray (id : Int32) : Dictionary Int32 (SpoolMatch ℕ) :=
  (∅ : Dictionary Int32 (SpoolMatch ℕ)).set id ⟨⟨some "A", 3⟩, black, 0⟩

/-- The filament that is required gets the second tray. -/
theorem repairs_iff_emptiedTray :
    whiteAndBlack.Repairs blackOrWhite (emptiedTray 1)
      (true, (emptiedTray 1).set 1 ⟨⟨some "A", 2⟩, black, 0⟩) := by
  have hrun : whiteAndBlack.tryRematchMatchedSpools blackOrWhite requiringBlack (emptiedTray 1) =
      .ok (true, (emptiedTray 1).set 1 ⟨⟨some "A", 2⟩, black, 0⟩) := rfl
  refine (repairs_iff hrun).mpr (.inr ?_)
  rintro id ⟨m, hm, -⟩
  obtain rfl : id = 1 := by
    by_contra hne
    rw [emptiedTray, Dictionary.tryGetValue_set_of_ne _ hne] at hm
    cases hm
  exact ⟨_, rfl, black, rfl, rfl⟩

/-- One that is not required keeps the tray, which is not there. -/
theorem repairs_fails :
    whiteAndBlack.tryRematchMatchedSpools blackOrWhite requiringBlack (emptiedTray 2) =
        .ok (true, emptiedTray 2) ∧
      ¬ whiteAndBlack.Repairs blackOrWhite (emptiedTray 2) (true, emptiedTray 2) := by
  refine ⟨rfl, fun h => ?_⟩
  obtain ⟨material, hloaded, -⟩ := h.valid rfl 2 _ (Dictionary.tryGetValue_set_self ..)
  cases hloaded

end MachineState

end Connect3Dp
