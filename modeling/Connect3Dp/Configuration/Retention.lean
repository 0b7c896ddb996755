import Connect3Dp.Configuration.Store
import Mathlib.Data.List.Induction

/-!
# What storing a configuration loses

A store writes what is in its map. A map that was not loaded has nothing, and a map that was loaded
has the entries that were read: so a configuration that is stored deletes every entry that this
build does not know or cannot read, and all entries behind one that raises (`retains_iff`).
-/

namespace Connect3Dp

namespace JsonFileBasedMachineConfigurationStore

variable {Kind Configuration : Type} (codec : ConfigurationCodec Kind Configuration)

/-- A property of an entry. -/
def property (name : String) : JsonElement → Option JsonElement
  | .object properties => properties.reverse.lookup name
  | _ => none

def idOf (entry : JsonElement) : Option String :=
  match property "id" entry with
  | some (.string id) => some id
  | _ => none

/-- The entries of the `printers` array of a file. -/
def originalEntries : FileContent → List JsonElement
  | .text (some document) =>
    match property "printers" document with
    | some (.array entries) => entries
    | _ => []
  | _ => []

/-- The entries have one id and one discrimination, and one configuration up to a rewrite by the
serializer. -/
def SameEntry (entry written : JsonElement) : Prop :=
  idOf written = idOf entry ∧ property "discrimination" written = property "discrimination" entry ∧
    (property "configuration" written = property "configuration" entry ∨
      ∃ discrimination kind node configuration,
        property "discrimination" entry = some (.string discrimination) ∧
        codec.configurationType discrimination = some kind ∧
        property "configuration" entry = some node ∧
        codec.deserialize kind node = .ok configuration ∧
        property "configuration" written = some (codec.serializeToNode configuration))

/-- The file after `StoreConfiguration` on a fresh store, which may have been loaded before. -/
def fileAfter (file : FileContent) (load : Bool) (machineId : String)
    (configuration : ConfigurationWithDiscrimination Configuration) : Except Fault FileContent :=
  let store := if load then (loadConfigurations codec file ∅).2 else ∅
  Prod.snd <$> storeConfiguration codec (some machineId) (some configuration.configuration)
    configuration.discrimination store

/-- Every entry of another machine is still in the file, if it was written. -/
def Retains (file : FileContent) (load : Bool) (machineId : String)
    (configuration : ConfigurationWithDiscrimination Configuration) : Prop :=
  ∀ after, fileAfter codec file load machineId configuration = .ok after →
    ∀ entry ∈ originalEntries file, isObject entry = true → idOf entry ≠ some machineId →
      ∃ written ∈ originalEntries after, SameEntry codec entry written

/-! ### What is loaded -/

/-- The loop passes over the entry. -/
def readable (entry : JsonElement) : Bool :=
  !isObject entry || match readEntry codec entry with
    | .ok _ => true
    | .error _ => false

/-- What the loop makes of an entry. -/
def itemOf (entry : JsonElement) :
    Option (String × ConfigurationWithDiscrimination Configuration) :=
  if isObject entry then
    match readEntry codec entry with
    | .ok item => item
    | .error _ => none
  else none

/-- The items of the entries before the first one that raises. -/
def readItems (entries : List JsonElement) :
    List (String × ConfigurationWithDiscrimination Configuration) :=
  (entries.takeWhile (readable codec)).filterMap (itemOf codec)

/-- The last item of an id, if the store is loaded and the document has no name twice. -/
def lastItem (file : FileContent) (load : Bool) (id : String) :
    Option (ConfigurationWithDiscrimination Configuration) :=
  match load, file with
  | true, .text (some (.object properties)) =>
    if (properties.map Prod.fst).Nodup then
      (readItems codec (originalEntries file)).reverse.lookup id
    else none
  | _, _ => none

/-- The loop returns what it read before the first entry that raises. -/
theorem loadEntries_eq (entries : List JsonElement) :
    loadEntries codec entries = readItems codec entries := by
  induction entries with
  | nil => rfl
  | cons entry entries ih =>
    rw [loadEntries, ih]
    by_cases hobject : isObject entry = true
    · rw [if_pos hobject]
      cases hread : readEntry codec entry with
      | error e =>
        have hraises : readable codec entry = false := by simp [readable, hobject, hread]
        simp [readItems, hraises]
      | ok item =>
        have hpasses : readable codec entry = true := by simp [readable, hread]
        have hitem : itemOf codec entry = item := by simp [itemOf, hobject, hread]
        cases item with
        | none => simp [readItems, hpasses, hitem]
        | some item => simp [readItems, hpasses, hitem]
    · have hpasses : readable codec entry = true := by simp [readable, hobject]
      have hitem : itemOf codec entry = none := by simp [itemOf, hobject]
      rw [if_neg hobject]
      simp [readItems, hpasses, hitem]

variable {codec}

/-- The last item of an id stays. -/
theorem tryGetValue_setAll
    (items : List (String × ConfigurationWithDiscrimination Configuration)) (id : String) :
    (setAll items).tryGetValue id = items.reverse.lookup id := by
  induction items using List.reverseRecOn with
  | nil => rfl
  | append_singleton items item ih =>
    have hlast : setAll (items ++ [item]) = (setAll items).set item.1 item.2 := by
      simp [setAll]
    rw [hlast, Dictionary.tryGetValue_set, ih, List.reverse_append, List.reverse_singleton,
      List.singleton_append, List.lookup_cons]
    split
    · rename_i h
      simp [h]
    · rename_i h
      rw [beq_eq_false_iff_ne.mpr h]

/-- In an object without a name twice, the first property of a name is the last. -/
theorem lookup_reverse {properties : List (String × JsonElement)}
    (h : (properties.map Prod.fst).Nodup) (name : String) :
    properties.reverse.lookup name = properties.lookup name := by
  have hreverse : (properties.reverse.map Prod.fst).Nodup := by
    rw [List.map_reverse]
    exact List.nodup_reverse.mpr h
  ext value
  rw [Dictionary.lookup_eq_some_iff_mem hreverse, Dictionary.lookup_eq_some_iff_mem h,
    List.mem_reverse]

/-- **What is in the map** of a fresh store when a configuration is stored. -/
theorem tryGetValue_loaded (file : FileContent) (load : Bool) (id : String) :
    (if load then (loadConfigurations codec file ∅).2 else ∅ :
      ConfigurationMap Configuration).tryGetValue id = lastItem codec file load id := by
  cases load with
  | false => rfl
  | true =>
    rw [if_pos rfl]
    cases file with
    | absent => rfl
    | text document =>
      cases document with
      | none => rfl
      | some document =>
        cases document with
        | object properties =>
          by_cases hnodup : (properties.map Prod.fst).Nodup
          · have hproperty : property "printers" (.object properties) =
                properties.lookup "printers" := lookup_reverse hnodup "printers"
            have hlast : lastItem codec (.text (some (.object properties))) true id =
                (readItems codec
                  (originalEntries (.text (some (.object properties))))).reverse.lookup
                  id := if_pos hnodup
            rw [hlast, originalEntries, hproperty, loadConfigurations, printerEntries,
              JsonElement.item, if_pos hnodup]
            cases properties.lookup "printers" with
            | none => rfl
            | some value =>
              cases value with
              | array entries =>
                change (setAll (loadEntries codec entries)).tryGetValue id = _
                rw [tryGetValue_setAll, loadEntries_eq]
              | _ => rfl
          · have hrefused : printerEntries (.object properties) = .error .argument := by
              simp [printerEntries, isObject, JsonElement.item, hnodup]
              rfl
            rw [loadConfigurations, hrefused]
            simp only [lastItem, if_neg hnodup]
            rfl
        | _ => rfl

theorem originalEntries_persisted (store : ConfigurationMap Configuration) :
    originalEntries (persisted codec store) = store.entries.map (printerEntry codec) := by
  simp [originalEntries, persisted, property]

theorem idOf_printerEntry (entry : String × ConfigurationWithDiscrimination Configuration) :
    idOf (printerEntry codec entry) = some entry.1 := by
  simp [idOf, printerEntry, property, List.lookup_cons]

/-- An identifier that is not blank is stored. -/
theorem fileAfter_eq {machineId : String} (hid : isNullOrWhiteSpace (some machineId) = false)
    (file : FileContent) (load : Bool)
    (configuration : ConfigurationWithDiscrimination Configuration) :
    fileAfter codec file load machineId configuration =
      .ok (persisted codec ((if load then (loadConfigurations codec file ∅).2 else ∅ :
        ConfigurationMap Configuration).set machineId configuration)) := by
  simp only [fileAfter, storeConfiguration, hid]
  rfl

/-- **An entry is retained just when the last item of its id says the same**, or when nothing is
stored. -/
theorem retains_iff (codec : ConfigurationCodec Kind Configuration) (file : FileContent)
    (load : Bool) (machineId : String)
    (configuration : ConfigurationWithDiscrimination Configuration) :
    Retains codec file load machineId configuration ↔
      isNullOrWhiteSpace (some machineId) = true ∨
      ∀ entry ∈ originalEntries file, isObject entry = true → idOf entry ≠ some machineId →
        ∃ id item, lastItem codec file load id = some item ∧
          SameEntry codec entry (printerEntry codec (id, item)) := by
  cases hblank : isNullOrWhiteSpace (some machineId) with
  | true =>
    refine iff_of_true (fun after hafter => ?_) (.inl rfl)
    simp only [fileAfter, storeConfiguration, hblank] at hafter
    cases hafter
  | false =>
    have hstore : ∀ id, (if load then (loadConfigurations codec file ∅).2 else ∅ :
        ConfigurationMap Configuration).tryGetValue id = lastItem codec file load id :=
      tryGetValue_loaded file load
    rw [or_iff_right (by simp), Retains, fileAfter_eq hblank]
    generalize (if load then (loadConfigurations codec file ∅).2 else ∅ :
      ConfigurationMap Configuration) = store at hstore ⊢
    have hother : ∀ id, id ≠ machineId →
        (store.set machineId configuration).tryGetValue id = lastItem codec file load id :=
      fun id hid => (Dictionary.tryGetValue_set_of_ne store hid configuration).trans (hstore id)
    simp only [Except.ok.injEq, forall_eq']
    refine forall₄_congr fun entry _ _ hid => ?_
    rw [originalEntries_persisted]
    constructor
    · rintro ⟨written, hwritten, hsame⟩
      obtain ⟨⟨id, item⟩, hitem, rfl⟩ := List.mem_map.mp hwritten
      have hne : id ≠ machineId := by
        rintro rfl
        exact hid (hsame.1.symm.trans (idOf_printerEntry _))
      refine ⟨id, item, ?_, hsame⟩
      rw [← hother id hne]
      exact Dictionary.mem_entries_iff.mp hitem
    · rintro ⟨id, item, hitem, hsame⟩
      have hne : id ≠ machineId := by
        rintro rfl
        exact hid (hsame.1.symm.trans (idOf_printerEntry _))
      rw [← hother id hne] at hitem
      exact ⟨_, List.mem_map_of_mem (Dictionary.mem_entries_iff.mpr hitem), hsame⟩

/-- A build without connectors. -/
private def noTypes : ConfigurationCodec Empty Unit :=
  ⟨fun _ => none, fun kind _ => kind.elim, fun _ => .object []⟩

/-- An entry of a connector that the build does not know. -/
private def unknownEntry : JsonElement :=
  .object [("id", .string "a"), ("discrimination", .string "Older.Configuration"),
    ("configuration", .object [])]

/-- A printer of an unknown connector is deleted when another printer is stored. -/
theorem retains_fails :
    ¬ ∀ (file : FileContent) (load : Bool) (machineId : String)
      (configuration : ConfigurationWithDiscrimination Unit),
      Retains noTypes file load machineId configuration := by
  intro hall
  let file : FileContent := .text (some (.object [("printers", .array [unknownEntry])]))
  have hid : idOf unknownEntry = some "a" := by decide
  have hblank : isNullOrWhiteSpace (some "b") = false := by decide
  obtain ⟨written, hwritten, hsame, -⟩ := hall file true "b" ⟨(), some "Newer.Configuration"⟩ _
    (fileAfter_eq hblank file true _) unknownEntry (List.mem_singleton.mpr rfl) rfl
    (by rw [hid]; decide)
  have hafter : written ∈ [printerEntry noTypes ("b", ⟨(), some "Newer.Configuration"⟩)] := hwritten
  rw [List.mem_singleton] at hafter
  rw [hafter, idOf_printerEntry, hid] at hsame
  exact absurd (Option.some.inj hsame) (by decide)

end JsonFileBasedMachineConfigurationStore

end Connect3Dp
