import Connect3Dp.Collections.Filling
import Connect3Dp.Collections.OrderBy
import Connect3Dp.State.MaterialChange

/-!
# Matching spools

`FindMatchingSpools` looks for the trays that a print can take its materials from. It finds exactly
the trays with the required name and a similar color, and the best of them, as long as no material
is without a name (`findMatchingSpools_exact_iff`). One that is makes it raise.
-/

namespace Connect3Dp

/-- What the comparison of two materials depends on: the distance of colors, how far similar colors
may be apart, and the case mapping of `StringComparison.OrdinalIgnoreCase`. -/
structure Similarity (D : Type) where
  deltaE : MaterialColor → MaterialColor → D
  threshold : D
  toUpper : Char → Char

structure SpoolMatch (D : Type) where
  location : SpoolLocation
  materialInMatchedSpool : Material
  deltaE : D
  deriving DecidableEq

structure Matches (K V : Type) where
  all : Dictionary K (List V)
  «match» : Dictionary K V
  missing : HashSet K

namespace Similarity

variable {D : Type} [LinearOrder D] (sim : Similarity D)

def equalsIgnoreCase (a b : String) : Bool := a.toList.map sim.toUpper = b.toList.map sim.toUpper

/-- `a.Equals(b, StringComparison.OrdinalIgnoreCase)`. -/
def nameEquals : NetString → NetString → Except Fault Bool
  | none, _ => .error .nullReference
  | some _, none => .ok false
  | some a, some b => .ok (sim.equalsIgnoreCase a b)

/-- `MaterialColor.IsSimilarTo`. -/
def isSimilarTo (a b : MaterialColor) : Bool := sim.deltaE a b ≤ sim.threshold

/-- `Material.IsSimilar`. -/
def isSimilar (a b : Material) : Except Fault Bool := do
  return (← sim.nameEquals a.name b.name) && sim.isSimilarTo a.color b.color

end Similarity

/-- `First()`. -/
def first {α : Type} : List α → Except Fault α
  | [] => .error .invalidOperation
  | a :: _ => .ok a

namespace MachineState

variable {D : Type} [LinearOrder D] (sim : Similarity D) (s : MachineState)

/-- The matches of one required material: one step of the inner loop adds a tray. -/
def addSpool (required : MaterialToPrint) (mu : MUnit) (found : List (SpoolMatch D))
    (spool : Spool) : Except Fault (List (SpoolMatch D)) := do
  if !(← sim.nameEquals spool.material.name required.material.name) then return found
  let location : SpoolLocation := ⟨mu.id, spool.number⟩
  let deltaE := sim.deltaE spool.material.color required.material.color
  let colorMatches := sim.isSimilarTo spool.material.color required.material.color
  return if colorMatches then found ++ [⟨location, spool.material, deltaE⟩] else found

def similarColorMatches (required : MaterialToPrint) : Except Fault (List (SpoolMatch D)) :=
  s.materialUnits.values.foldlM
    (fun found mu => mu.trays.values.foldlM (addSpool sim required mu) found) []

/-- `FindMatchingSpools`. -/
def findMatchingSpools (materialsToPrint : Dictionary Int32 MaterialToPrint) :
    Except Fault (Matches Int32 (SpoolMatch D)) := do
  let similarColorMatches ← toDictionary <$> materialsToPrint.entries.mapM fun entry =>
    return (entry.1, ← s.similarColorMatches sim entry.2)
  let allMatches := toDictionary (similarColorMatches.entries.filter fun c => 0 < c.2.length)
  let bestMatches ← toDictionary <$> allMatches.entries.mapM fun kvp =>
    return (kvp.1, ← first (orderBy (·.deltaE) kvp.2))
  let missing := (similarColorMatches.entries.filter fun c => c.2.length = 0).map Prod.fst
  return ⟨allMatches, bestMatches, missing.foldl HashSet.add ∅⟩

end MachineState

/-! ### What is found -/

namespace Similarity

variable {D : Type} [LinearOrder D] (sim : Similarity D)

/-- The names are equal up to case. -/
def nameFits : NetString → NetString → Bool
  | some a, some b => sim.equalsIgnoreCase a b
  | _, _ => false

/-- The names are equal up to case, and the colors are at most the threshold apart. -/
def fits (material required : Material) : Bool :=
  sim.nameFits material.name required.name &&
    sim.deltaE material.color required.color ≤ sim.threshold

end Similarity

namespace MachineState

variable {D : Type} [LinearOrder D] {sim : Similarity D} {s : MachineState}

/-- The trays of all units, with the ids of the units. -/
def spools (s : MachineState) : List (NetString × Spool) :=
  s.materialUnits.values.flatMap fun mu => mu.trays.values.map fun spool => (mu.id, spool)

/-- The match with a tray. -/
def matchWith (sim : Similarity D) (required : Material) (p : NetString × Spool) :
    SpoolMatch D where
  location := ⟨p.1, p.2.number⟩
  materialInMatchedSpool := p.2.material
  deltaE := sim.deltaE p.2.material.color required.color

/-- The matches with those of the trays that fit. -/
def matchesAmong (sim : Similarity D) (required : Material) (l : List (NetString × Spool)) :
    List (SpoolMatch D) :=
  (l.filter fun p => sim.fits p.2.material required).map (matchWith sim required)

/-- The matches of a required material in a state. -/
def matching (sim : Similarity D) (s : MachineState) (required : Material) : List (SpoolMatch D) :=
  matchesAmong sim required s.spools

/-- Every material that is loaded has a name, as its type says. -/
def Named (s : MachineState) : Prop := ∀ p ∈ s.spools, p.2.material.name ≠ none

theorem matchesAmong_flatMap {α : Type} {required : Material} {l : List α}
    {f : α → List (NetString × Spool)} : matchesAmong sim required (l.flatMap f) =
      l.flatMap fun a => matchesAmong sim required (f a) := by
  rw [matchesAmong, List.filter_flatMap, List.map_flatMap]
  rfl

theorem addSpool_eq {required : MaterialToPrint} {mu : MUnit} {found : List (SpoolMatch D)}
    {spool : Spool} (h : spool.material.name ≠ none) :
    addSpool sim required mu found spool =
      .ok (found ++ matchesAmong sim required.material [(mu.id, spool)]) := by
  obtain ⟨name, hname⟩ := Option.ne_none_iff_exists'.mp h
  have hequals : sim.nameEquals spool.material.name required.material.name =
      .ok (sim.nameFits spool.material.name required.material.name) := by
    rw [hname]
    cases required.material.name <;> rfl
  have hfits : sim.fits spool.material required.material =
      (sim.nameFits spool.material.name required.material.name &&
        sim.isSimilarTo spool.material.color required.material.color) := rfl
  rw [addSpool, hequals, ok_bind, matchesAmong, List.filter_singleton, hfits]
  cases sim.nameFits spool.material.name required.material.name with
  | false => rw [Bool.false_and, cond_false, List.map_nil, List.append_nil]; rfl
  | true =>
    cases sim.isSimilarTo spool.material.color required.material.color with
    | false => rw [Bool.and_false, cond_false, List.map_nil, List.append_nil]; rfl
    | true => rfl

/-- **The inner loops** find the trays that fit. -/
theorem similarColorMatches_eq (h : s.Named) (required : MaterialToPrint) :
    s.similarColorMatches sim required = .ok (s.matching sim required.material) := by
  have hunit : ∀ mu ∈ s.materialUnits.values, ∀ found,
      mu.trays.values.foldlM (addSpool sim required mu) found =
        .ok (found ++ matchesAmong sim required.material
          (mu.trays.values.map fun spool => (mu.id, spool))) := by
    intro mu hmu found
    rw [List.map_eq_flatMap, matchesAmong_flatMap]
    refine foldlM_append fun spool hspool found => addSpool_eq (h (mu.id, spool) ?_)
    exact List.mem_flatMap_of_mem hmu (List.mem_map_of_mem hspool)
  rw [similarColorMatches, foldlM_append hunit, matching, spools, matchesAmong_flatMap,
    List.nil_append]

/-- They return only when every material has a name. -/
theorem named_of_similarColorMatches_eq_ok {required : MaterialToPrint}
    {found : List (SpoolMatch D)} (h : s.similarColorMatches sim required = .ok found) :
    s.Named := by
  have hspool (mu : MUnit) (spool : Spool) (found found' : List (SpoolMatch D))
      (h : addSpool sim required mu found spool = .ok found') : spool.material.name ≠ none := by
    obtain ⟨b, hequals, -⟩ := bind_eq_ok_iff.mp h
    intro hnone
    rw [hnone] at hequals
    cases hequals
  have hunits := forall_of_foldlM_eq_ok (fun mu found found' hmu =>
    forall_of_foldlM_eq_ok (fun spool => hspool mu spool) hmu) h
  intro p hp
  obtain ⟨mu, hmu, hp⟩ := List.mem_flatMap.mp hp
  obtain ⟨spool, hmem, rfl⟩ := List.mem_map.mp hp
  exact hunits mu hmu spool hmem

theorem first_orderBy_eq_ok_iff {found : List (SpoolMatch D)} {best : SpoolMatch D} :
    first (orderBy (·.deltaE) found) = .ok best ↔ IsFirstLeast (·.deltaE) found best := by
  rw [← head?_orderBy_eq_some_iff]
  cases orderBy (·.deltaE) found with
  | nil => exact iff_of_false (fun h => by cases h) (fun h => by cases h)
  | cons a l => rw [first, List.head?_cons, Except.ok.injEq, Option.some.injEq]

theorem exists_first_orderBy {found : List (SpoolMatch D)} (h : found ≠ []) :
    ∃ best, first (orderBy (·.deltaE) found) = .ok best := by
  cases hsorted : orderBy (·.deltaE) found with
  | nil => exact absurd (orderBy_eq_nil_iff.mp hsorted) h
  | cons a l => exact ⟨a, rfl⟩

/-- Nothing is required, or every material that is loaded has a name. -/
def NamedFor (s : MachineState) (materialsToPrint : Dictionary Int32 MaterialToPrint) : Prop :=
  materialsToPrint.entries = [] ∨ s.Named

variable {materialsToPrint : Dictionary Int32 MaterialToPrint}

theorem NamedFor.named (h : s.NamedFor materialsToPrint) {id : Int32} {required : MaterialToPrint}
    (hid : materialsToPrint.tryGetValue id = some required) : s.Named := by
  refine h.resolve_left fun hnone => ?_
  have hmem := Dictionary.mem_entries_iff.mpr hid
  rw [hnone] at hmem
  exact List.not_mem_nil hmem

/-- **`FindMatchingSpools` returns** only then. -/
theorem namedFor_of_findMatchingSpools_eq_ok {m : Matches Int32 (SpoolMatch D)}
    (h : s.findMatchingSpools sim materialsToPrint = .ok m) : s.NamedFor materialsToPrint := by
  obtain ⟨similar, hsimilar, -⟩ := bind_eq_ok_iff.mp h
  obtain ⟨results, hresults, -⟩ := map_eq_ok_iff.mp hsimilar
  cases hentries : materialsToPrint.entries with
  | nil => exact .inl hentries
  | cons entry entries =>
    rw [hentries] at hresults
    obtain ⟨found, hfound⟩ := exists_mapM_eq_ok_iff.mp ⟨results, hresults⟩ entry List.mem_cons_self
    obtain ⟨found, hfound, -⟩ := bind_eq_ok_iff.mp hfound
    exact .inr (named_of_similarColorMatches_eq_ok hfound)

/-- **What `FindMatchingSpools` returns**, key by key. -/
theorem exists_findMatchingSpools (sim : Similarity D) (h : s.NamedFor materialsToPrint) :
    ∃ m, s.findMatchingSpools sim materialsToPrint = .ok m ∧
      (∀ id found, m.all.tryGetValue id = some found ↔ found ≠ [] ∧
        ∃ required, materialsToPrint.tryGetValue id = some required ∧
          found = s.matching sim required.material) ∧
      (∀ id, id ∈ m.missing ↔ ∃ required, materialsToPrint.tryGetValue id = some required ∧
        s.matching sim required.material = []) ∧
      ∀ id best, m.match.tryGetValue id = some best ↔
        ∃ found, m.all.tryGetValue id = some found ∧ IsFirstLeast (·.deltaE) found best := by
  obtain ⟨similar, hsimilar, hfound⟩ := exists_mapM_entries (d := materialsToPrint)
    (f := fun required => s.similarColorMatches sim required)
    fun _ required hid => ⟨_, similarColorMatches_eq (h.named hid) required⟩
  have hfound (id : Int32) (found : List (SpoolMatch D)) :
      (toDictionary similar).tryGetValue id = some found ↔ ∃ required,
        materialsToPrint.tryGetValue id = some required ∧
          s.matching sim required.material = found := by
    refine (hfound id found).trans (exists_congr fun required => and_congr_right fun hid => ?_)
    rw [similarColorMatches_eq (h.named hid), Except.ok.injEq]
  let all := toDictionary ((toDictionary similar).entries.filter fun c => 0 < c.2.length)
  let missing := ((toDictionary similar).entries.filter fun c => c.2.length = 0).map Prod.fst
  have hall : ∀ id found, all.tryGetValue id = some found ↔ found ≠ [] ∧
      ∃ required, materialsToPrint.tryGetValue id = some required ∧
        found = s.matching sim required.material := by
    intro id found
    rw [tryGetValue_toDictionary_filter_iff, hfound, decide_eq_true_iff, List.length_pos_iff,
      and_comm]
    simp only [eq_comm]
  have hmissing : ∀ id, id ∈ missing.foldl HashSet.add ∅ ↔
      ∃ required, materialsToPrint.tryGetValue id = some required ∧
        s.matching sim required.material = [] := by
    intro id
    rw [mem_foldl_add]
    simp only [missing, HashSet.notMem_empty, false_or, List.mem_map, List.mem_filter, Prod.exists,
      exists_and_right, exists_eq_right, Dictionary.mem_entries_iff, hfound, decide_eq_true_iff,
      List.length_eq_zero_iff]
  obtain ⟨best, hbest, hfirst⟩ := exists_mapM_entries (d := all)
    (f := fun found => first (orderBy (·.deltaE) found))
    fun id found hid => exists_first_orderBy ((hall id found).mp hid).1
  simp only [first_orderBy_eq_ok_iff] at hfirst
  refine ⟨⟨all, toDictionary best, missing.foldl HashSet.add ∅⟩, ?_, hall, hmissing, hfirst⟩
  rw [findMatchingSpools, hsimilar]
  simp only [Functor.map, Except.map]
  rw [ok_bind, hbest]
  rfl

/-- What `FindMatchingSpools` is for. The required ids are those of the matches and those that are
missing. The matches of an id are those with all trays that fit, and the best of them is the first
that has the least distance. -/
structure MatchesExactly (sim : Similarity D) (s : MachineState)
    (materialsToPrint : Dictionary Int32 MaterialToPrint) (m : Matches Int32 (SpoolMatch D)) :
    Prop where
  required : ∀ id, materialsToPrint.containsKey id = true ↔
    m.all.containsKey id = true ∨ id ∈ m.missing
  disjoint : ∀ id, ¬ (m.all.containsKey id = true ∧ id ∈ m.missing)
  all : ∀ id found, m.all.tryGetValue id = some found ↔ found ≠ [] ∧
    ∃ required, materialsToPrint.tryGetValue id = some required ∧
      found = s.matching sim required.material
  missing : ∀ id, id ∈ m.missing ↔ ∃ required, materialsToPrint.tryGetValue id = some required ∧
    s.matching sim required.material = []
  match_keys : ∀ id, m.match.containsKey id = m.all.containsKey id
  «match» : ∀ id best, m.match.tryGetValue id = some best ↔
    ∃ found, m.all.tryGetValue id = some found ∧ IsFirstLeast (·.deltaE) found best

theorem exists_matchesExactly (sim : Similarity D) (h : s.NamedFor materialsToPrint) :
    ∃ m, s.findMatchingSpools sim materialsToPrint = .ok m ∧
      s.MatchesExactly sim materialsToPrint m := by
  obtain ⟨m, hm, hall, hmissing, hfirst⟩ := exists_findMatchingSpools sim h
  refine ⟨m, hm, ?_, ?_, hall, hmissing, ?_, hfirst⟩
  · intro id
    simp only [Dictionary.containsKey_iff, hall, hmissing]
    constructor
    · rintro ⟨required, hrequired⟩
      by_cases hnone : s.matching sim required.material = []
      · exact .inr ⟨required, hrequired, hnone⟩
      · exact .inl ⟨_, hnone, required, hrequired, rfl⟩
    · rintro (⟨_, -, required, hrequired, -⟩ | ⟨required, hrequired, -⟩)
      · exact ⟨required, hrequired⟩
      · exact ⟨required, hrequired⟩
  · rintro id ⟨hkey, hmem⟩
    obtain ⟨found, hid⟩ := Dictionary.containsKey_iff.mp hkey
    obtain ⟨hfound, required, hrequired, rfl⟩ := (hall id found).mp hid
    obtain ⟨required', hrequired', hnone⟩ := (hmissing id).mp hmem
    cases hrequired.symm.trans hrequired'
    exact hfound hnone
  · intro id
    rw [Bool.eq_iff_iff, Dictionary.containsKey_iff, Dictionary.containsKey_iff]
    simp only [hfirst]
    constructor
    · rintro ⟨best, found, hid, -⟩
      exact ⟨found, hid⟩
    · rintro ⟨found, hid⟩
      obtain ⟨best, hbest⟩ := exists_first_orderBy ((hall id found).mp hid).1
      exact ⟨best, found, hid, first_orderBy_eq_ok_iff.mp hbest⟩

/-- **`FindMatchingSpools` is exact** just when nothing is required or every material that is loaded
has a name. -/
theorem findMatchingSpools_exact_iff (sim : Similarity D) (s : MachineState)
    (materialsToPrint : Dictionary Int32 MaterialToPrint) :
    (∃ m, s.findMatchingSpools sim materialsToPrint = .ok m ∧
      s.MatchesExactly sim materialsToPrint m) ↔ materialsToPrint.entries = [] ∨ s.Named :=
  ⟨fun ⟨_, hm, _⟩ => namedFor_of_findMatchingSpools_eq_ok hm, exists_matchesExactly sim⟩

/-- Black and white are 100 apart. -/
def blackOrWhite : Similarity ℕ where
  deltaE a b := if a = b then 0 else 100
  threshold := 40
  toUpper := Char.toUpper

def white : Material := ⟨some "PLA", ⟨255, 255, 255⟩, none⟩

def black : Material := ⟨some "PLA", ⟨0, 0, 0⟩, none⟩

/-- A unit with a white and a black spool. -/
def whiteAndBlack : MachineState :=
  let trays := ((∅ : Dictionary Int32 Spool).set 1 ⟨1, white, none, none⟩).set 2
    ⟨2, black, none, none⟩
  let unit : MUnit := { (default : MUnit) with id := some "A", trays }
  { (default : MachineState) with materialUnits := (∅ : Dictionary String MUnit).set "A" unit }

def requiringBlack : Dictionary Int32 MaterialToPrint :=
  (∅ : Dictionary Int32 MaterialToPrint).set 1 ⟨black, 10, default⟩

/-- The first spool of the unit after a change of its material to one that has no name. -/
def withoutName : MachineState :=
  ((default : MachineStateUpdate).changeMaterial "A" 1 { white with name := none }).apply
    (default : Heap Unit).ops whiteAndBlack

/-- No match is found for a black spool that is still there. -/
theorem findMatchingSpools_raises :
    withoutName.findMatchingSpools blackOrWhite requiringBlack = .error .nullReference ∧
      ¬ ∃ m, withoutName.findMatchingSpools blackOrWhite requiringBlack = .ok m ∧
        withoutName.MatchesExactly blackOrWhite requiringBlack m := by
  have hraises : withoutName.findMatchingSpools blackOrWhite requiringBlack =
      .error .nullReference := rfl
  refine ⟨hraises, fun ⟨m, hm, _⟩ => ?_⟩
  rw [hraises] at hm
  cases hm

end MachineState

end Connect3Dp
