import Connect3Dp.Connectors.PrintMetadata

/-!
# The filaments of a print

A print names a spool for each filament of the project that the plate uses. The command tells the
printer where these spools are in the array `ams_mapping2`, whose position is the number of the
filament. The array has as many positions as there are filaments in the map, so a filament whose
number is larger is left out: `everyFilamentReaches_iff`.
-/

namespace Connect3Dp

namespace BambuLab

/-- The array `ams_mapping2` of a command. -/
def amsMapping2 : JsonElement → List JsonElement
  | .object [(_, .object commandData)] =>
    match commandData.lookup "ams_mapping2" with
    | some (.array entries) => entries
    | _ => []
  | _ => []

/-- The place of a spool in terms of the printer's own units, if it has reported the unit. -/
def amsSlot (mqtt : MQTTConnection) (location : SpoolLocation) : Option AMSSlot :=
  (location.muid.bind mqtt.snToAMSID.tryGetValue).map (⟨·, location.slot⟩)

/-- The command has the place of every mapped filament at the position of its number, counted from
one, and marks the other positions. -/
structure Reaches (mqtt : MQTTConnection) (map : Dictionary Int32 SpoolLocation)
    (command : JsonElement) : Prop where
  mapped : ∀ k location, map.tryGetValue k = some location →
    ∃ slot, amsSlot mqtt location = some slot ∧
      (amsMapping2 command)[k.toInt.toNat - 1]? = some (amsMappingEntry (some slot))
  unmapped : ∀ i entry, (amsMapping2 command)[i]? = some entry →
    map.tryGetValue (.ofNat (i + 1)) = none → entry = amsMappingEntry none

/-- Every mapped filament reaches the printer, whenever the print is published. -/
def EveryFilamentReaches (culture : Culture) (host : Host) (mqtt : MQTTConnection)
    (thumbnailSmallHash : NetString) (localPrint : LocalPrintJob) (options : PrintOptions) : Prop :=
  ∀ command, printLocal culture host mqtt thumbnailSmallHash localPrint options =
      .ok (some command) →
    ∀ map, options.materialMap = some map → Reaches mqtt map.object command

variable {culture : Culture} {host : Host} {mqtt : MQTTConnection} {thumbnailSmallHash : NetString}
  {localPrint : LocalPrintJob} {options : PrintOptions}
  {map : ObjectRef (Dictionary Int32 SpoolLocation)}

/-! ### The mapping in the printer's units -/

theorem resolveSlot_eq_ok_iff_amsSlot {kvp : Int32 × SpoolLocation} {resolved : Int32 × AMSSlot} :
    resolveSlot mqtt kvp = .ok resolved ↔
      resolved.1 = kvp.1 ∧ amsSlot mqtt kvp.2 = some resolved.2 := by
  obtain ⟨k, slot⟩ := resolved
  unfold resolveSlot amsSlot
  cases kvp.2.muid with
  | none => simp
  | some sn => cases h : mqtt.snToAMSID.tryGetValue sn <;> simp [h, eq_comm]

/-- The resolved entries have the keys of the map and the places of its spools. -/
theorem mapM_resolveSlot {entries : List (Int32 × SpoolLocation)}
    {slots : List (Int32 × AMSSlot)} (h : entries.mapM (resolveSlot mqtt) = .ok slots) :
    slots.map Prod.fst = entries.map Prod.fst ∧
      ∀ k, slots.lookup k = (entries.lookup k).bind (amsSlot mqtt) := by
  induction entries generalizing slots with
  | nil =>
    cases h
    exact ⟨rfl, fun _ => rfl⟩
  | cons entry entries ih =>
    rw [List.mapM_cons, bind_eq_ok_iff] at h
    obtain ⟨⟨k', slot⟩, hslot, h⟩ := h
    obtain ⟨rest, hrest, h⟩ := bind_eq_ok_iff.mp h
    cases h
    obtain ⟨hkeys, hlookup⟩ := ih hrest
    obtain ⟨rfl, hplace⟩ := resolveSlot_eq_ok_iff_amsSlot.mp hslot
    refine ⟨by simp [hkeys], fun k => ?_⟩
    obtain ⟨k', location⟩ := entry
    rcases eq_or_ne k k' with rfl | hk
    · simpa using hplace.symm
    · have hb : (k == k') = false := by simpa using hk
      simp [List.lookup_cons, hb, hlookup]

/-- A map that is resolved is the one that is published, unless it is empty. -/
theorem resolveMapping_of_map {mapping : Option (Dictionary Int32 AMSSlot)}
    (hmap : options.materialMap = some map) (hne : map.object.entries ≠ [])
    (h : resolveMapping mqtt options = .ok mapping) :
    ∃ d, mapping = some d ∧ d.entries ≠ [] ∧
      ∀ k, d.tryGetValue k = (map.object.tryGetValue k).bind (amsSlot mqtt) := by
  simp only [resolveMapping, hmap, if_neg hne] at h
  obtain ⟨slots, hslots, h⟩ := bind_eq_ok_iff.mp h
  cases h
  obtain ⟨hkeys, hlookup⟩ := mapM_resolveSlot hslots
  have hfind : ∀ k, (slots.foldl (fun (d : Dictionary Int32 AMSSlot) kv => d.set kv.1 kv.2)
      ∅).tryGetValue k = (map.object.tryGetValue k).bind (amsSlot mqtt) := by
    intro k
    have hnodup : (slots.map Prod.fst).Nodup := hkeys ▸ map.object.nodup_keys
    rw [Dictionary.tryGetValue_foldl_set hnodup, Dictionary.tryGetValue_empty, Option.or_none,
      hlookup]
    rfl
  refine ⟨_, rfl, fun hempty => ?_, hfind⟩
  obtain ⟨entry, hentry⟩ := List.exists_mem_of_ne_nil _ hne
  obtain ⟨resolved, hresolved⟩ := exists_mapM_eq_ok_iff.mp ⟨slots, hslots⟩ entry hentry
  have hsome := hfind entry.1
  rw [Dictionary.mem_entries_iff.mp hentry, Option.bind_some,
    (resolveSlot_eq_ok_iff_amsSlot.mp hresolved).2, Dictionary.tryGetValue, hempty] at hsome
  cases hsome

/-! ### The published array -/

theorem amsMapping2_publishPrint {printOptions : BBLPrintOptions} {command : JsonElement}
    {d : Dictionary Int32 AMSSlot} (hmapping : printOptions.amsMapping = some d)
    (hne : d.entries ≠ []) (h : publishPrint culture host mqtt printOptions = some command) :
    amsMapping2 command = (List.range printOptions.projectFilamentCount).map fun i =>
      amsMappingEntry (d.tryGetValue (.ofNat (i + 1))) := by
  unfold publishPrint publishCommand at h
  split at h
  · cases h
    simp only [amsProperties, hmapping, if_neg hne]
    rfl
  · cases h

theorem amsMapping2_publishPrint_none {printOptions : BBLPrintOptions} {command : JsonElement}
    (hmapping : printOptions.amsMapping = none)
    (h : publishPrint culture host mqtt printOptions = some command) :
    amsMapping2 command = [] := by
  unfold publishPrint publishCommand at h
  split at h
  · cases h
    simp only [amsProperties, hmapping]
    rfl
  · cases h

/-- What the command of a print has in its array. -/
theorem amsMapping2_printLocal {command : JsonElement} (hmap : options.materialMap = some map)
    (h : printLocal culture host mqtt thumbnailSmallHash localPrint options =
      .ok (some command)) :
    amsMapping2 command = (List.range map.object.entries.length).map fun i =>
      amsMappingEntry ((map.object.tryGetValue (.ofNat (i + 1))).bind (amsSlot mqtt)) := by
  obtain ⟨mapping, hmapping, h⟩ := bind_eq_ok_iff.mp h
  obtain ⟨path, -, h⟩ := bind_eq_ok_iff.mp h
  cases path with
  | none => cases h
  | some path =>
    have hpublish := Except.ok.inj h
    by_cases hne : map.object.entries = []
    · have hnone : mapping = none := by
        simp only [resolveMapping, hmap, if_pos hne] at hmapping
        exact (Except.ok.inj hmapping).symm
      rw [amsMapping2_publishPrint_none hnone hpublish, hne]
      rfl
    · obtain ⟨d, rfl, hd, hfind⟩ := resolveMapping_of_map hmap hne hmapping
      rw [amsMapping2_publishPrint rfl hd hpublish]
      simp only [hmap, Option.map_some, Option.getD_some, hfind]

/-! ### Which filaments reach the printer -/

theorem ofNat_position {k : Int32} (h : 1 ≤ k.toInt) :
    Int32.ofNat (k.toInt.toNat - 1 + 1) = k := by
  have hposition : k.toInt.toNat - 1 + 1 = k.toInt.toNat := by omega
  have hcast : ((k.toInt.toNat : ℕ) : ℤ) = k.toInt := Int.toNat_of_nonneg (by omega)
  rw [hposition, ← Int32.ofInt_eq_ofNat, hcast, Int32.ofInt_toInt]

/-- The command has the mapped filaments that the array has a position for. -/
theorem reaches_iff {command : JsonElement} (hmap : options.materialMap = some map)
    (hids : ∀ k ∈ map.object.keys, 1 ≤ k.toInt)
    (hknown : ∀ kvp ∈ map.object.entries, (amsSlot mqtt kvp.2).isSome = true)
    (h : printLocal culture host mqtt thumbnailSmallHash localPrint options =
      .ok (some command)) :
    Reaches mqtt map.object command ↔
      ∀ k ∈ map.object.keys, k.toInt ≤ map.object.entries.length := by
  have harray := amsMapping2_printLocal hmap h
  constructor
  · intro hreaches k hk
    obtain ⟨location, hlocation⟩ := Dictionary.mem_keys_iff.mp hk
    obtain ⟨slot, -, hentry⟩ := hreaches.mapped k location hlocation
    obtain ⟨hlt, -⟩ := List.getElem?_eq_some_iff.mp hentry
    rw [harray, List.length_map, List.length_range] at hlt
    have hid := hids k hk
    omega
  · intro hle
    refine ⟨fun k location hlocation => ?_, fun i entry hentry hunmapped => ?_⟩
    · have hk : k ∈ map.object.keys := Dictionary.mem_keys_iff.mpr ⟨location, hlocation⟩
      have hid := hids k hk
      have hlt : k.toInt.toNat - 1 < map.object.entries.length := by
        have := hle k hk
        omega
      obtain ⟨slot, hslot⟩ := Option.isSome_iff_exists.mp
        (hknown (k, location) (Dictionary.mem_entries_iff.mpr hlocation))
      refine ⟨slot, hslot, ?_⟩
      rw [harray, List.getElem?_map, List.getElem?_range hlt, Option.map_some, ofNat_position hid,
        hlocation, Option.bind_some, hslot]
    · obtain ⟨hlt, rfl⟩ := List.getElem?_eq_some_iff.mp hentry
      simp only [harray, List.getElem_map, List.getElem_range, hunmapped, Option.bind_none]

/-- **Every mapped filament reaches the printer just when no number is larger than the map**, that
is when the filaments are numbered without a gap from one on, or when nothing is published. -/
theorem everyFilamentReaches_iff (culture : Culture) (host : Host) (mqtt : MQTTConnection)
    (thumbnailSmallHash : NetString) (localPrint : LocalPrintJob) (options : PrintOptions)
    (hids : ∀ map, options.materialMap = some map → ∀ k ∈ map.object.keys, 1 ≤ k.toInt)
    (hknown : ∀ map, options.materialMap = some map →
      ∀ kvp ∈ map.object.entries, (amsSlot mqtt kvp.2).isSome = true) :
    EveryFilamentReaches culture host mqtt thumbnailSmallHash localPrint options ↔
      mqtt.isConnected = false ∨
      (∀ path, tryParseAs3MFHandle localPrint.file ≠ .ok (some path)) ∨
      ∀ map, options.materialMap = some map →
        ∀ k ∈ map.object.keys, k.toInt ≤ map.object.entries.length := by
  constructor
  · intro hreaches
    rw [or_iff_not_imp_left, or_iff_not_imp_left]
    intro hconnected hpath map hmap
    push Not at hpath
    obtain ⟨path, hpath⟩ := hpath
    -- Nothing stands in the way of the command.
    have hpublished : ¬ Unpublished mqtt options := by
      rintro (hnot | ⟨map', hmap', kvp, hkvp, hunknown⟩)
      · exact hconnected hnot
      · obtain ⟨slot, hslot⟩ := Option.isSome_iff_exists.mp (hknown map' hmap' kvp hkvp)
        obtain ⟨amsId, hamsId, -⟩ := Option.map_eq_some_iff.mp hslot
        obtain ⟨sn, hsn, hfound⟩ := Option.bind_eq_some_iff.mp hamsId
        rw [hunknown sn hsn] at hfound
        cases hfound
    obtain ⟨command, -, hprint, -⟩ :=
      printLocal_of_published culture host thumbnailSmallHash hpath hpublished
    exact (reaches_iff hmap (hids map hmap) (hknown map hmap) hprint).mp
      (hreaches command hprint map hmap)
  · rintro (hnot | hpath | hle) command hprint map hmap
    · exact absurd (.inl hnot) (not_unpublished_of_printLocal hprint)
    · obtain ⟨mapping, -, h⟩ := bind_eq_ok_iff.mp hprint
      obtain ⟨path, hparse, h⟩ := bind_eq_ok_iff.mp h
      cases path with
      | none => cases h
      | some path => exact absurd hparse (hpath path)
    · exact (reaches_iff hmap (hids map hmap) (hknown map hmap) hprint).mpr (hle map hmap)

/-- A printer that is connected and has reported one unit. -/
def reportingMQTT : MQTTConnection :=
  ⟨true, some "01S00A", (∅ : Dictionary String Int32).set "AMS" 0⟩

/-- A plate that uses one filament of its project. -/
def singleFilament (k : Int32) : PrintOptions :=
  { (default : PrintOptions) with
    materialMap := some ⟨0, (∅ : Dictionary Int32 SpoolLocation).set k ⟨some "AMS", 3⟩⟩ }

def plate3MF : LocalPrintJob :=
  { (default : LocalPrintJob) with file := handleAs3MF (some "01S00A") "/plate.3mf" (some "ab") }

theorem forall_keys_singleFilament {k : Int32} {P : Int32 → Prop} (h : P k)
    (map : ObjectRef (Dictionary Int32 SpoolLocation))
    (hmap : (singleFilament k).materialMap = some map) : ∀ k' ∈ map.object.keys, P k' := by
  cases hmap
  exact List.forall_mem_singleton.mpr h

theorem amsSlot_singleFilament {k : Int32} (map : ObjectRef (Dictionary Int32 SpoolLocation))
    (hmap : (singleFilament k).materialMap = some map) :
    ∀ kvp ∈ map.object.entries, (amsSlot reportingMQTT kvp.2).isSome = true := by
  cases hmap
  intro kvp hkvp
  obtain rfl := List.mem_singleton.mp hkvp
  show (amsSlot reportingMQTT ⟨some "AMS", 3⟩).isSome = true
  decide

/-- The first filament of a project reaches the printer. -/
theorem everyFilamentReaches_first :
    EveryFilamentReaches .ordinal default reportingMQTT none plate3MF (singleFilament 1) :=
  (everyFilamentReaches_iff .ordinal default reportingMQTT none plate3MF (singleFilament 1)
    (forall_keys_singleFilament (by decide)) amsSlot_singleFilament).mpr
    (.inr (.inr fun map hmap => forall_keys_singleFilament (by cases hmap; decide) map hmap))

/-- A plate that uses the second filament of its project only: the printer is not told. -/
theorem everyFilamentReaches_fails :
    ¬ ∀ (mqtt : MQTTConnection) (localPrint : LocalPrintJob) (options : PrintOptions),
      (∀ map, options.materialMap = some map → ∀ k ∈ map.object.keys, 1 ≤ k.toInt) →
      (∀ map, options.materialMap = some map →
        ∀ kvp ∈ map.object.entries, (amsSlot mqtt kvp.2).isSome = true) →
      EveryFilamentReaches .ordinal default mqtt none localPrint options := by
  intro hall
  have hreaches := hall reportingMQTT plate3MF (singleFilament 2)
    (forall_keys_singleFilament (by decide)) amsSlot_singleFilament
  have hpath : tryParseAs3MFHandle plate3MF.file = .ok (some "/plate.3mf") := by decide +kernel
  have hpublished : ¬ Unpublished reportingMQTT (singleFilament 2) := by
    rintro (h | ⟨map, hmap, kvp, hkvp, hunknown⟩)
    · cases h
    · cases hmap
      obtain rfl := List.mem_singleton.mp hkvp
      cases hunknown "AMS" rfl
  obtain ⟨command, -, hprint, -⟩ :=
    printLocal_of_published .ordinal default none hpath hpublished
  have hle := (reaches_iff rfl (forall_keys_singleFilament (by decide) _ rfl)
    (amsSlot_singleFilament _ rfl) hprint).mp
    (hreaches command hprint _ rfl) 2 (List.mem_singleton.mpr rfl)
  exact absurd hle (by decide)

end BambuLab

end Connect3Dp
