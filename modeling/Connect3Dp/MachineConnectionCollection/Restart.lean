import Connect3Dp.Configuration.Retention
import Connect3Dp.MachineConnectionCollection.Removal

/-!
# Restarts

What outlives the process is the file of the configurations. A new process starts with an empty
collection over the file of the old one and loads it. `Saved` is what keeps a restart from losing
anything: the file has the map, the map has the configuration of every connection that is held and
can be configured, and every entry can be read back.

Nothing is ever taken out of the map, so that a restart also brings back what was removed
(`restart_restores`).
-/

namespace Connect3Dp

namespace MachineConnectionCollection

open JsonFileBasedMachineConfigurationStore

variable {Kind Configuration : Type} (types : ConnectorTypes Configuration)
  (codec : ConfigurationCodec Kind Configuration)

/-- A new process with the file of the old one, of which no object is left. -/
def newProcess (σ : MachineConnectionCollection Configuration) :
    MachineConnectionCollection Configuration :=
  { σ with
    connections := ∅
    objects := fun c => { σ.objects c with onChanges := 0, onConfigurationChanged := 0 }
    nextAddress := 0
    store := ∅ }

/-- The start of the host: the store is loaded, and the connections are created from it. -/
def restart (σ : MachineConnectionCollection Configuration) (answers : ℕ → ConnectionAnswer) :
    MachineConnectionCollection Configuration :=
  σ.newProcess.perform types codec answers .loadFromConfigurationStore

/-- The serializer reads back what it writes, under a name that the connectors are known by. -/
structure Survives (configuration : Configuration) : Prop where
  named : isNullOrWhiteSpace (some (types.fullName configuration)) = false
  read : ∃ kind, codec.configurationType (types.fullName configuration) = some kind ∧
    codec.deserialize kind (codec.serializeToNode configuration) = .ok configuration
  written : codec.serializeToNode configuration ≠ .null
  created : (types.tryCreateFromConfiguration
    ⟨configuration, some (types.fullName configuration)⟩).isSome = true

/-- The events that leave nothing unsaved: what is stored survives, a connection is not added under
a blank id, a load is of what is stored, and a connection that lost its id to another one does not
change its configuration. -/
def KeepsSaved (σ : MachineConnectionCollection Configuration) :
    CollectionEvent Configuration → Prop
  | .construct _ _ _ => True
  | .add c => (σ.objects c).isConfigurable = true →
      isNullOrWhiteSpace (some (σ.objects c).id) = false ∧
        Survives types codec (σ.objects c).configuration
  | .remove _ => True
  | .loadFromConfigurations cfgs => ∀ cfg ∈ cfgs, σ.store.tryGetValue cfg.1 = some cfg.2
  | .loadFromConfigurationStore => True
  | .configurationChanged c configuration => (σ.objects c).isConfigurable = true →
      Survives types codec configuration ∧
        ∀ c', σ.connections.tryGetValue (σ.objects c).id = some c' → c' = c

/-- An event, or the end of the process and its next start. -/
inductive LifeStep (σ : MachineConnectionCollection Configuration) :
    MachineConnectionCollection Configuration → Prop
  | event (answers : ℕ → ConnectionAnswer) (e : CollectionEvent Configuration)
      (hkeeps : KeepsSaved types codec σ e) : LifeStep σ (σ.perform types codec answers e)
  | restart (answers : ℕ → ConnectionAnswer) : LifeStep σ (σ.restart types codec answers)

/-- The first start, without a file. -/
structure Fresh (σ : MachineConnectionCollection Configuration) : Prop extends Initial σ where
  store : σ.store = ∅
  file : σ.file = .absent
  stored : σ.stored = []

/-! ### The file -/

variable {types codec} {σ σ' : MachineConnectionCollection Configuration}
  {cfg : String × ConfigurationWithDiscrimination Configuration} {answer : ConnectionAnswer}
  {c : ConnectionRef} {configuration : Configuration}

/-- An entry of a map that is read back as it is. -/
structure Reads (types : ConnectorTypes Configuration)
    (codec : ConfigurationCodec Kind Configuration) (id : String)
    (cfg : ConfigurationWithDiscrimination Configuration) : Prop where
  named : isNullOrWhiteSpace (some id) = false
  survives : Survives types codec cfg.configuration
  discrimination : cfg.discrimination = some (types.fullName cfg.configuration)

/-- The loop over the entries reads a written entry back. -/
theorem Reads.readEntry_eq {id : String} {cfg : ConfigurationWithDiscrimination Configuration}
    (h : Reads types codec id cfg) :
    readEntry codec (printerEntry codec (id, cfg)) = .ok (some (id, cfg)) := by
  obtain ⟨hid, ⟨hnamed, ⟨kind, hkind, hread⟩, hwritten, -⟩, hdiscrimination⟩ := h
  obtain ⟨configuration, discrimination⟩ := cfg
  obtain rfl : discrimination = some (types.fullName configuration) := hdiscrimination
  have hentryID : optionalString "id" (printerEntry codec
      (id, ⟨configuration, some (types.fullName configuration)⟩)) = .ok (some id) := rfl
  have hentryName : optionalString "discrimination" (printerEntry codec
      (id, ⟨configuration, some (types.fullName configuration)⟩)) =
        .ok (some (types.fullName configuration)) := rfl
  have hnode : (printerEntry codec (id, ⟨configuration, some (types.fullName configuration)⟩)).item
      "configuration" = .ok (some (codec.serializeToNode configuration)) := by
    revert hwritten
    unfold printerEntry
    cases codec.serializeToNode configuration with
    | null => exact fun hwritten => absurd rfl hwritten
    | _ => exact fun _ => rfl
  rw [readEntry, hentryID, ok_bind, hentryName, ok_bind, hnode, ok_bind]
  simp only [hid, hnamed, hkind, hread]
  rfl

/-- What a load of the file makes of it is the map. -/
def FileHasMap (codec : ConfigurationCodec Kind Configuration) (file : FileContent)
    (store : ConfigurationMap Configuration) : Prop :=
  file = .absent ∧ store = ∅ ∨
    ∃ written, file = persisted codec written ∧ ∀ id, written.tryGetValue id = store.tryGetValue id

theorem loadEntries_written
    {entries : List (String × ConfigurationWithDiscrimination Configuration)}
    (h : ∀ entry ∈ entries, Reads types codec entry.1 entry.2) :
    loadEntries codec (entries.map (printerEntry codec)) = entries := by
  induction entries with
  | nil => rfl
  | cons entry entries ih =>
    have hread : readEntry codec (printerEntry codec entry) = .ok (some entry) :=
      (h entry List.mem_cons_self).readEntry_eq
    have hobject : isObject (printerEntry codec entry) = true := rfl
    rw [List.map_cons, loadEntries, if_pos hobject, hread]
    exact congrArg (entry :: ·) (ih fun e he => h e (.tail _ he))

/-- **A load of the file** returns what is in the map, and makes it again. -/
theorem loadConfigurations_of_fileHasMap {file : FileContent}
    {map : ConfigurationMap Configuration} (h : FileHasMap codec file map)
    (hreads : ∀ id cfg, map.tryGetValue id = some cfg → Reads types codec id cfg)
    {store : ConfigurationMap Configuration} (hstore : file = .absent → store = ∅)
    {loaded : List (String × ConfigurationWithDiscrimination Configuration) ×
      ConfigurationMap Configuration}
    (hloaded : JsonFileBasedMachineConfigurationStore.loadConfigurations codec file store =
      loaded) :
    (∀ cfg, cfg ∈ loaded.1 ↔ map.tryGetValue cfg.1 = some cfg.2) ∧
      (∀ id, loaded.2.tryGetValue id = map.tryGetValue id) ∧ FileHasMap codec file loaded.2 := by
  obtain ⟨rfl, rfl⟩ | ⟨written, rfl, hwritten⟩ := h
  · obtain rfl := hstore rfl
    subst hloaded
    exact ⟨fun cfg => by simp [JsonFileBasedMachineConfigurationStore.loadConfigurations],
      fun _ => rfl, .inl ⟨rfl, rfl⟩⟩
  · have hentries : loadEntries codec (written.entries.map (printerEntry codec)) =
        written.entries := by
      refine loadEntries_written fun entry hentry => hreads _ _ ?_
      rw [← hwritten]
      exact Dictionary.mem_entries_iff.mp hentry
    have hload : loaded = (written.entries, setAll written.entries) := by
      rw [← hloaded]
      change (loadEntries codec (written.entries.map (printerEntry codec)),
        setAll (loadEntries codec (written.entries.map (printerEntry codec)))) = _
      rw [hentries]
    have hmap : ∀ id, (setAll written.entries).tryGetValue id = written.tryGetValue id := by
      intro id
      rw [setAll, Dictionary.tryGetValue_foldl_set written.nodup_keys, Dictionary.tryGetValue_empty,
        Option.or_none]
      rfl
    rw [hload]
    refine ⟨fun cfg => ?_, fun id => (hmap id).trans (hwritten id),
      .inr ⟨written, rfl, fun id => (hmap id).symm⟩⟩
    rw [← hwritten]
    exact Dictionary.mem_entries_iff

/-! ### The invariant -/

/-- The configurations of the connections that are held, but for `unsaved`, are in the map, and the
map is in the file. -/
structure Saved (types : ConnectorTypes Configuration)
    (codec : ConfigurationCodec Kind Configuration) (unsaved : Option ConnectionRef)
    (σ : MachineConnectionCollection Configuration) : Prop where
  held : ∀ id c, σ.connections.tryGetValue id = some c → some c ≠ unsaved →
    (σ.objects c).isConfigurable = true → σ.store.tryGetValue id =
      some ⟨(σ.objects c).configuration, some (types.fullName (σ.objects c).configuration)⟩
  reads : ∀ id cfg, σ.store.tryGetValue id = some cfg → Reads types codec id cfg
  file : FileHasMap codec σ.file σ.store
  stored : ∀ id, σ.store.containsKey id = true ↔ ∃ c, (c, id) ∈ σ.stored

theorem Saved.except (h : Saved types codec none σ) (c : ConnectionRef) :
    Saved types codec (some c) σ :=
  ⟨fun id c' hc' _ => h.held id c' hc' (by simp), h.reads, h.file, h.stored⟩

/-- What is excepted is not held, or can not be configured. -/
theorem Saved.of_except (h : Saved types codec (some c) σ)
    (hc : (σ.objects c).isConfigurable = true → ∀ id, σ.connections.tryGetValue id ≠ some c) :
    Saved types codec none σ := by
  refine ⟨fun id c' hc' _ hconfigurable => ?_, h.reads, h.file, h.stored⟩
  refine h.held id c' hc' (fun heq => ?_) hconfigurable
  obtain rfl := Option.some.inj heq
  exact hc hconfigurable id hc'

/-- The store, the file and the connections are the same. -/
theorem Saved.of_eq (h : Saved types codec (some c) σ) (hconnections : ∀ id c',
      σ'.connections.tryGetValue id = some c' → c' = c ∨ σ.connections.tryGetValue id = some c')
    (hobjects : ∀ c', c' ≠ c → (σ'.objects c').isConfigurable = (σ.objects c').isConfigurable ∧
      (σ'.objects c').configuration = (σ.objects c').configuration)
    (hstore : σ'.store = σ.store) (hfile : σ'.file = σ.file) (hstored : σ'.stored = σ.stored) :
    Saved types codec (some c) σ' := by
  refine ⟨fun id c' hc' hne hconfigurable => ?_, hstore ▸ h.reads, hstore ▸ hfile ▸ h.file,
    hstore ▸ hstored ▸ h.stored⟩
  have hne' : c' ≠ c := fun heq => hne (congrArg some heq)
  obtain ⟨hsame, hconfiguration⟩ := hobjects c' hne'
  rw [hstore, hconfiguration]
  exact h.held id c' ((hconnections id c' hc').resolve_left hne') hne (hsame ▸ hconfigurable)

/-- **A configuration is stored.** -/
theorem Saved.afterStore (h : Saved types codec (some c) σ) (hholds : σ.Holds)
    (hnamed : isNullOrWhiteSpace (some (σ.objects c).id) = false)
    (hsurvives : Survives types codec (σ.objects c).configuration)
    (hsole : ∀ c', σ.connections.tryGetValue (σ.objects c).id = some c' → c' = c) :
    Saved types codec none (finalState (storeConfiguration types codec c σ)) := by
  have hrun : finalState (MachineConnectionCollection.storeConfiguration types codec c σ) =
      { σ with
        store := σ.store.set (σ.objects c).id
          ⟨(σ.objects c).configuration, some (types.fullName (σ.objects c).configuration)⟩
        file := persisted codec (σ.store.set (σ.objects c).id
          ⟨(σ.objects c).configuration, some (types.fullName (σ.objects c).configuration)⟩)
        stored := σ.stored ++ [(c, (σ.objects c).id)] } := by
    simp only [MachineConnectionCollection.storeConfiguration,
      JsonFileBasedMachineConfigurationStore.storeConfiguration, hnamed]
    rfl
  rw [hrun]
  refine ⟨fun id c' hc' _ hconfigurable => ?_, fun id cfg hcfg => ?_, .inr ⟨_, rfl, fun _ => rfl⟩,
    fun id => ?_⟩
  · change (σ.store.set _ _).tryGetValue id = _
    rw [Dictionary.tryGetValue_set]
    split
    · rename_i hid
      obtain rfl := hsole c' (hid ▸ hc')
      rfl
    · rename_i hid
      refine h.held id c' hc' (fun heq => ?_) hconfigurable
      obtain rfl := Option.some.inj heq
      exact hid (hholds id c' hc').1.symm
  · rw [Dictionary.tryGetValue_set] at hcfg
    split at hcfg
    · rename_i hid
      obtain rfl := Option.some.inj hcfg
      exact ⟨hid ▸ hnamed, hsurvives, rfl⟩
    · exact h.reads id cfg hcfg
  · rw [Dictionary.containsKey_set_iff, h.stored]
    simp only [List.mem_append, List.mem_singleton, Prod.mk.injEq]
    constructor
    · rintro (rfl | ⟨c', hc'⟩)
      · exact ⟨c, .inr ⟨rfl, rfl⟩⟩
      · exact ⟨c', .inl hc'⟩
    · rintro ⟨c', hc' | ⟨-, rfl⟩⟩
      · exact .inr ⟨c', hc'⟩
      · exact .inl rfl

theorem objects_finalState_storeConfiguration (types : ConnectorTypes Configuration)
    (codec : ConfigurationCodec Kind Configuration) (c : ConnectionRef)
    (σ : MachineConnectionCollection Configuration) :
    (finalState (storeConfiguration types codec c σ)).objects = σ.objects := by
  delta storeConfiguration
  dsimp only
  split <;> rfl

theorem connections_finalState_storeConfiguration (types : ConnectorTypes Configuration)
    (codec : ConfigurationCodec Kind Configuration) (c : ConnectionRef)
    (σ : MachineConnectionCollection Configuration) :
    (finalState (storeConfiguration types codec c σ)).connections = σ.connections := by
  delta storeConfiguration
  dsimp only
  split <;> rfl

/-- A blank id is refused. -/
theorem finalState_storeConfiguration_of_blank
    (h : isNullOrWhiteSpace (some (σ.objects c).id) = true) :
    finalState (storeConfiguration types codec c σ) = σ := by
  simp only [MachineConnectionCollection.storeConfiguration,
    JsonFileBasedMachineConfigurationStore.storeConfiguration, h]
  rfl

/-- The handler stores the configuration as often as it is attached. -/
theorem Saved.stores (hconfigurable : (σ.objects c).isConfigurable = true)
    (hsurvives : Survives types codec (σ.objects c).configuration)
    (hsole : ∀ c', σ.connections.tryGetValue (σ.objects c).id = some c' → c' = c)
    (hholds : σ.Holds) (attached : ℕ)
    (h : Saved types codec none σ ∨ 0 < attached ∧ Saved types codec (some c) σ ∧
      isNullOrWhiteSpace (some (σ.objects c).id) = false) :
    Saved types codec none (σ.onConfigurationChanged types codec c attached) := by
  induction attached generalizing σ with
  | zero => exact h.elim id fun h => absurd h.1 (Nat.lt_irrefl 0)
  | succ attached ih =>
    rw [onConfigurationChanged, Function.iterate_succ_apply, if_pos hconfigurable]
    have hobjects := objects_finalState_storeConfiguration types codec c σ
    have hconnections := connections_finalState_storeConfiguration types codec c σ
    have hstores : Saved types codec none (finalState (storeConfiguration types codec c σ)) := by
      cases hnamed : isNullOrWhiteSpace (some (σ.objects c).id) with
      | true =>
        rw [finalState_storeConfiguration_of_blank hnamed]
        exact h.elim id fun h => absurd (hnamed.symm.trans h.2.2) (by decide)
      | false =>
        have hexcept := h.elim (·.except c) (·.2.1)
        exact hexcept.afterStore hholds hnamed hsurvives hsole
    refine ih ?_ ?_ ?_ ?_ (.inl hstores)
    · rwa [hobjects]
    · rwa [hobjects]
    · rwa [hobjects, hconnections]
    · intro id c' hc'
      rw [hobjects]
      exact hholds id c' (hconnections ▸ hc')

/-! ### The events -/

theorem Saved.add (h : Saved types codec none σ) (hholds : σ.Holds)
    (hkeeps : KeepsSaved types codec σ (.add c)) :
    Saved types codec none (finalState (MachineConnectionCollection.add types codec c σ)) := by
  cases hheld : σ.connections.tryGetValue (σ.objects c).id with
  | some c' => rwa [add_of_some hheld]
  | none =>
    have hset : Saved types codec (some c) (σ.setConnection (σ.objects c).id c) := by
      refine (h.except c).of_eq (fun id c' hc' => ?_) (fun c' hne => ?_) rfl rfl rfl
      · change (σ.connections.set _ _).tryGetValue id = some c' at hc'
        rw [Dictionary.tryGetValue_set] at hc'
        split at hc'
        · exact .inl (Option.some.inj hc').symm
        · exact .inr hc'
      · simp only [setConnection, listenForChanges, modifyObject, Function.update_of_ne hne,
          and_self]
    have hobject : (σ.setConnection (σ.objects c).id c).objects c =
        { σ.objects c with
          onChanges := (σ.objects c).onChanges + 1
          onConfigurationChanged := (σ.objects c).onConfigurationChanged + 1 } := by
      simp only [setConnection, listenForChanges, modifyObject, Function.update_self]
    simp only [MachineConnectionCollection.add, hheld]
    split
    · rename_i hconfigurable
      obtain ⟨hnamed, hsurvives⟩ := hkeeps hconfigurable
      refine hset.afterStore (holds_setConnection hholds) ?_ ?_ fun c' hc' => ?_
      · rwa [hobject]
      · rwa [hobject]
      · rw [hobject] at hc'
        change (σ.connections.set _ _).tryGetValue _ = some c' at hc'
        rw [Dictionary.tryGetValue_set_self] at hc'
        exact (Option.some.inj hc').symm
    · rename_i hconfigurable
      refine hset.of_except fun hconfigurable' => absurd ?_ hconfigurable
      rwa [hobject] at hconfigurable'

theorem Saved.remove (h : Saved types codec none σ) (machineID : String) :
    Saved types codec none
      (finalState (MachineConnectionCollection.remove machineID answer σ)) := by
  cases hheld : σ.connections.tryGetValue machineID with
  | none => rwa [remove_of_none hheld]
  | some removedConnection =>
    have hconnections : ∀ id c', (σ.connections.remove machineID).tryGetValue id = some c' →
        σ.connections.tryGetValue id = some c' := by
      intro id c' hc'
      rw [Dictionary.tryGetValue_remove] at hc'
      split at hc'
      · cases hc'
      · exact hc'
    simp only [MachineConnectionCollection.remove, hheld]
    split
    · refine ⟨fun id c' hc' hne => ?_, h.reads, h.file, h.stored⟩
      have hold := h.held id c' (hconnections id c' hc') hne
      simp only [finalState, modifyObject]
      by_cases heq : c' = removedConnection
      · subst heq
        simpa only [Function.update_self] using hold
      · simpa only [Function.update_of_ne heq] using hold
    · exact ⟨fun id c' hc' => h.held id c' (hconnections id c' hc'), h.reads, h.file, h.stored⟩

theorem Saved.configurationChanged (h : Saved types codec none σ) (hholds : σ.Holds)
    (hkeeps : KeepsSaved types codec σ (.configurationChanged c configuration))
    (answers : ℕ → ConnectionAnswer) :
    Saved types codec none
      (σ.perform types codec answers (.configurationChanged c configuration)) := by
  have hobject : (σ.modifyObject c fun o => { o with configuration }).objects c =
      { σ.objects c with configuration } := by
    simp only [modifyObject, Function.update_self]
  have hexcept : Saved types codec (some c)
      (σ.modifyObject c fun o => { o with configuration }) := by
    refine (h.except c).of_eq (fun _ _ => .inr) (fun c' hne => ?_) rfl rfl rfl
    simp only [modifyObject, Function.update_of_ne hne, and_self]
  dsimp only [perform]
  cases hconfigurable : (σ.objects c).isConfigurable with
  | false =>
    -- the handler does nothing
    have hnothing : ∀ attached, (σ.modifyObject c fun o => { o with configuration
        }).onConfigurationChanged types codec c attached =
          σ.modifyObject c fun o => { o with configuration } := by
      intro attached
      refine Function.iterate_fixed ?_ attached
      rw [if_neg]
      rw [hobject, hconfigurable]
      decide
    rw [hnothing]
    refine hexcept.of_except fun hconfigurable' => ?_
    rw [hobject, hconfigurable] at hconfigurable'
    cases hconfigurable'
  | true =>
    obtain ⟨hsurvives, hsole⟩ := hkeeps hconfigurable
    have hholds' : (σ.modifyObject c fun o => { o with configuration }).Holds := by
      intro id c' hc'
      have hold := hholds id c' hc'
      simp only [modifyObject]
      by_cases heq : c' = c
      · subst heq
        simpa only [Function.update_self] using hold
      · simpa only [Function.update_of_ne heq] using hold
    refine Saved.stores (by rw [hobject, hconfigurable]) (by rwa [hobject]) (by rwa [hobject])
      hholds' _ ?_
    by_cases hheld : ∃ id, σ.connections.tryGetValue id = some c
    · obtain ⟨id, hid⟩ := hheld
      obtain ⟨rfl, hattached⟩ := hholds id c hid
      have hstored := h.held _ c hid (by simp) hconfigurable
      refine .inr ⟨?_, hexcept, ?_⟩
      · rwa [hobject]
      · rw [hobject]
        exact (h.reads _ _ hstored).named
    · exact .inl (hexcept.of_except fun _ id hid => hheld ⟨id, hid⟩)

/-! ### Loads -/

variable {cfgs : List (String × ConfigurationWithDiscrimination Configuration)}
  {answers : ℕ → ConnectionAnswer}

theorem Saved.construct (h : Saved types codec none σ) (hallocated : σ.Allocated) (id : String)
    (isConfigurable : Bool) (configuration : Configuration) :
    Saved types codec none (σ.construct id isConfigurable configuration) := by
  refine ⟨fun id' c' hc' hne => ?_, h.reads, h.file, h.stored⟩
  rw [objects_construct_of_lt (hallocated.connections id' c' hc')]
  exact h.held id' c' hc' hne

/-- A connection that is created from what is stored under its id. -/
theorem Saved.created (h : Saved types codec none σ) (hallocated : σ.Allocated)
    (hcfg : σ.store.tryGetValue cfg.1 = some cfg.2) :
    Saved types codec none ((σ.construct cfg.1 true cfg.2.configuration).setConnection cfg.1
      ⟨σ.nextAddress⟩) := by
  refine ⟨fun id c' hc' hne => ?_, h.reads, h.file, h.stored⟩
  change (σ.connections.set _ _).tryGetValue id = some c' at hc'
  change _ → σ.store.tryGetValue id = _
  rw [Dictionary.tryGetValue_set] at hc'
  split at hc'
  · rename_i hid
    obtain rfl := Option.some.inj hc'
    rw [hid, hcfg]
    have hread := (h.reads _ _ hcfg).discrimination
    intro _
    simp only [setConnection, listenForChanges, modifyObject, MachineConnectionCollection.construct,
      Function.update_self]
    rw [← hread]
  · have hold : c' ≠ ⟨σ.nextAddress⟩ := ne_nextAddress (hallocated.connections id c' hc')
    simp only [setConnection, listenForChanges, modifyObject, MachineConnectionCollection.construct,
      Function.update_of_ne hold]
    exact h.held id c' hc' hne

/-- A configuration that the connection has is assigned. -/
theorem modifyObject_eq_self (h : configuration = (σ.objects c).configuration) :
    (σ.modifyObject c fun o => { o with configuration }) = σ := by
  subst h
  change { σ with objects := Function.update σ.objects c (σ.objects c) } = σ
  rw [Function.update_eq_self]

/-- **One configuration of a load** that is stored as it is. -/
theorem Saved.loadConfiguration (h : Saved types codec none σ) (hallocated : σ.Allocated)
    (answer : ConnectionAnswer) (hcfg : σ.store.tryGetValue cfg.1 = some cfg.2) :
    Saved types codec none
        (finalState (MachineConnectionCollection.loadConfiguration types cfg answer σ)) ∧
      (finalState (MachineConnectionCollection.loadConfiguration types cfg answer σ)).store =
        σ.store := by
  unfold MachineConnectionCollection.loadConfiguration
  split
  case h_1 => exact ⟨h, rfl⟩
  case h_2 =>
    have hconstruct := h.construct hallocated cfg.1 true cfg.2.configuration
    have hcreated := h.created hallocated hcfg
    dsimp only
    split
    case h_2 => exact ⟨⟨hcreated.held, hcreated.reads, hcreated.file, hcreated.stored⟩, rfl⟩
    case h_1 existingConnection hc =>
      have hc' : σ.connections.tryGetValue cfg.1 = some existingConnection := hc
      split
      case isTrue hconfigurable =>
        split
        case isTrue => exact ⟨hconstruct, rfl⟩
        case isFalse =>
          -- what is assigned is what the connection has
          have hsame : cfg.2.configuration = ((σ.construct cfg.1 true
              cfg.2.configuration).objects existingConnection).configuration := by
            have hheld := hconstruct.held cfg.1 existingConnection hc (by simp) hconfigurable
            exact congrArg ConfigurationWithDiscrimination.configuration
              (Option.some.inj (hcfg.symm.trans hheld))
          rw [modifyObject_eq_self hsame, ite_self]
          split
          · exact ⟨⟨hconstruct.held, hconstruct.reads, hconstruct.file, hconstruct.stored⟩, rfl⟩
          · exact ⟨hconstruct, rfl⟩
      case isFalse =>
        split
        · exact ⟨⟨hcreated.held, hcreated.reads, hcreated.file, hcreated.stored⟩, rfl⟩
        · exact ⟨hconstruct, rfl⟩

theorem allocated_loadConfiguration (hallocated : σ.Allocated) :
    (finalState (MachineConnectionCollection.loadConfiguration types cfg answer σ)).Allocated := by
  have hcases : LoadOutcome types σ cfg answer _ := loadConfiguration_cases hallocated
  generalize MachineConnectionCollection.loadConfiguration types cfg answer σ = r at hcases
  cases hcases with
  | skipped => exact hallocated
  | kept _ _ hkept => exact hkept.allocated hallocated
  | refused _ _ _ hkept => exact hkept.allocated hallocated
  | created _ _ hcreated => exact hcreated.allocated hallocated

/-- **A load of what is stored.** -/
theorem Saved.loadFromConfigurations (h : Saved types codec none σ) (hallocated : σ.Allocated)
    (answers : ℕ → ConnectionAnswer)
    (hcfgs : ∀ cfg ∈ cfgs, σ.store.tryGetValue cfg.1 = some cfg.2) :
    Saved types codec none
        (finalState (MachineConnectionCollection.loadFromConfigurations types cfgs answers σ)) ∧
      (finalState (MachineConnectionCollection.loadFromConfigurations types cfgs answers σ)).store =
        σ.store := by
  induction cfgs generalizing σ answers with
  | nil => exact ⟨h, rfl⟩
  | cons cfg cfgs ih =>
    have hfirst := h.loadConfiguration hallocated (answers 0) (hcfgs cfg List.mem_cons_self)
    have hallocated' : (finalState (MachineConnectionCollection.loadConfiguration types cfg
        (answers 0) σ)).Allocated := allocated_loadConfiguration hallocated
    cases hrun : MachineConnectionCollection.loadConfiguration types cfg (answers 0) σ with
    | error fault σ' =>
      rw [hrun] at hfirst
      rwa [loadFromConfigurations_error hrun]
    | ok _ σ' =>
      rw [hrun] at hfirst hallocated'
      have hsaved : Saved types codec none σ' := hfirst.1
      have hstore : σ'.store = σ.store := hfirst.2
      rw [loadFromConfigurations_ok hrun, ← hstore]
      refine ih hsaved hallocated' _ fun cfg' hcfg' => ?_
      rw [hstore]
      exact hcfgs cfg' (.tail _ hcfg')

/-- **A load of the store**, by a collection whose connections are saved in a map that the file
has, with the map or without it. -/
theorem Saved.loadFromConfigurationStore {map : ConfigurationMap Configuration}
    (h : Saved types codec none { σ with store := map }) (hallocated : σ.Allocated)
    (hstore : σ.file = .absent → σ.store = ∅) (answers : ℕ → ConnectionAnswer) :
    Saved types codec none (σ.perform types codec answers .loadFromConfigurationStore) ∧
      ∀ id, (σ.perform types codec answers .loadFromConfigurationStore).store.tryGetValue id =
        map.tryGetValue id := by
  obtain ⟨hcfgs, hmap, hfile⟩ := loadConfigurations_of_fileHasMap h.file h.reads hstore rfl
  have hloaded : Saved types codec none (σ.loadConfigurations codec).2 := by
    refine ⟨fun id c' hc' hne hconfigurable => ?_, fun id cfg hcfg => ?_, hfile, fun id => ?_⟩
    · exact (hmap id).trans (h.held id c' hc' hne hconfigurable)
    · exact h.reads id cfg ((hmap id).symm.trans hcfg)
    · refine Iff.trans ?_ (h.stored id)
      exact iff_of_eq (congrArg (fun value => Option.isSome value = true) (hmap id))
  have hallocated' : (σ.loadConfigurations codec).2.Allocated :=
    kept_loadConfigurations.allocated hallocated
  obtain ⟨hsaved, hsame⟩ := hloaded.loadFromConfigurations hallocated' answers
    fun cfg hcfg => (hmap cfg.1).trans ((hcfgs cfg).mp hcfg)
  exact ⟨hsaved, fun id => (congrArg (·.tryGetValue id) hsame).trans (hmap id)⟩

theorem FileHasMap.store_eq {file : FileContent} {store : ConfigurationMap Configuration}
    (h : FileHasMap codec file store) (habsent : file = .absent) : store = ∅ := by
  obtain ⟨-, hstore⟩ | ⟨written, hwritten, -⟩ := h
  · exact hstore
  · cases habsent.symm.trans hwritten

/-- **An event keeps the collection saved.** -/
theorem Saved.perform (h : Saved types codec none σ) (hallocated : σ.Allocated)
    (hholds : σ.Holds) (answers : ℕ → ConnectionAnswer) {e : CollectionEvent Configuration}
    (hkeeps : KeepsSaved types codec σ e) :
    Saved types codec none (σ.perform types codec answers e) := by
  cases e with
  | construct id isConfigurable configuration =>
    exact h.construct hallocated id isConfigurable configuration
  | add c =>
    dsimp only [MachineConnectionCollection.perform]
    split
    · exact h.add hholds hkeeps
    · exact h
  | remove machineID => exact h.remove machineID
  | loadFromConfigurations cfgs => exact (h.loadFromConfigurations hallocated answers hkeeps).1
  | loadFromConfigurationStore =>
    exact (h.loadFromConfigurationStore hallocated h.file.store_eq answers).1
  | configurationChanged c configuration => exact h.configurationChanged hholds hkeeps answers

/-! ### Lives -/

theorem initial_newProcess (σ : MachineConnectionCollection Configuration) :
    Initial σ.newProcess := ⟨rfl, fun _ => ⟨rfl, rfl⟩⟩

/-- **A restart finds what is saved.** -/
theorem Saved.restart (h : Saved types codec none σ) (answers : ℕ → ConnectionAnswer) :
    Saved types codec none (σ.restart types codec answers) ∧
      ∀ id, (σ.restart types codec answers).store.tryGetValue id = σ.store.tryGetValue id := by
  have hnew : Saved types codec none { σ.newProcess with store := σ.store } :=
    ⟨fun id c hc => (by cases hc), h.reads, h.file, h.stored⟩
  exact hnew.loadFromConfigurationStore (initial_newProcess σ).allocated (fun _ => rfl) answers

/-- What is kept through the lives of the process. -/
structure Life (types : ConnectorTypes Configuration)
    (codec : ConfigurationCodec Kind Configuration)
    (σ : MachineConnectionCollection Configuration) : Prop where
  allocated : σ.Allocated
  holds : σ.Holds
  saved : Saved types codec none σ

theorem Life.step (h : Life types codec σ) (hstep : LifeStep types codec σ σ') :
    Life types codec σ' := by
  cases hstep with
  | event answers e hkeeps =>
    exact ⟨h.allocated.perform answers e, holds_perform h.allocated h.holds answers e,
      h.saved.perform h.allocated h.holds answers hkeeps⟩
  | restart answers =>
    have hinit := initial_newProcess σ
    exact ⟨hinit.allocated.perform answers _,
      holds_perform hinit.allocated hinit.holds answers _, (h.saved.restart answers).1⟩

theorem life_of_reachable (h : Reachable Fresh (LifeStep types codec) σ) :
    Life types codec σ := by
  refine h.induct (fun σ hfresh => ⟨hfresh.toInitial.allocated, hfresh.toInitial.holds, ?_⟩)
    fun _ _ _ hlife => hlife.step
  refine ⟨fun id c hc => ?_, fun id cfg hcfg => ?_, .inl ⟨hfresh.file, hfresh.store⟩, fun id => ?_⟩
  · rw [hfresh.connections] at hc
    cases hc
  · rw [hfresh.store] at hcfg
    cases hcfg
  · simp [hfresh.store, hfresh.stored, Dictionary.containsKey]

/-- Every connection that is held can be configured. -/
def AllConfigurable (σ : MachineConnectionCollection Configuration) : Prop :=
  ∀ id c, σ.connections.tryGetValue id = some c → (σ.objects c).isConfigurable = true

/-- Where all connections can be configured, a configuration that a connection is created from has
one afterwards. -/
theorem AllConfigurable.loadConfiguration (h : σ.AllConfigurable) (hallocated : σ.Allocated)
    (hcreates : (types.tryCreateFromConfiguration cfg.2).isSome = true)
    (answer : ConnectionAnswer) :
    ∃ σ', MachineConnectionCollection.loadConfiguration types cfg answer σ = .ok () σ' ∧
      σ'.Allocated ∧ σ'.AllConfigurable ∧ σ'.connections.tryGetValue cfg.1 ≠ none := by
  have hcases : LoadOutcome types σ cfg answer _ := loadConfiguration_cases hallocated
  generalize MachineConnectionCollection.loadConfiguration types cfg answer σ = r at hcases
  cases hcases with
  | skipped hskip =>
    rw [hskip] at hcreates
    cases hcreates
  | kept hc _ hkept =>
    refine ⟨_, rfl, hkept.allocated hallocated, fun id c hheld => ?_, ?_⟩
    · rw [hkept.connections] at hheld
      rw [(hkept.old c (hallocated.connections id c hheld)).isConfigurable]
      exact h id c hheld
    · rw [hkept.connections, hc]
      exact Option.some_ne_none _
  | refused hc hnot => cases hnot.symm.trans (h _ _ hc)
  | created _ _ hcreated =>
    refine ⟨_, rfl, hcreated.allocated hallocated, fun id c hheld => ?_, ?_⟩
    · rw [hcreated.connections, Dictionary.tryGetValue_set] at hheld
      split at hheld
      · obtain rfl := Option.some.inj hheld
        exact hcreated.isConfigurable
      · rw [hcreated.old c (ne_nextAddress (hallocated.connections id c hheld))]
        exact h id c hheld
    · rw [hcreated.connections, Dictionary.tryGetValue_set_self]
      exact Option.some_ne_none _

theorem AllConfigurable.loadFromConfigurations (h : σ.AllConfigurable)
    (hallocated : σ.Allocated)
    (hcreates : ∀ cfg ∈ cfgs, (types.tryCreateFromConfiguration cfg.2).isSome = true)
    (answers : ℕ → ConnectionAnswer) :
    (finalState (MachineConnectionCollection.loadFromConfigurations types cfgs answers
        σ)).AllConfigurable ∧
      ∀ cfg ∈ cfgs, (finalState (MachineConnectionCollection.loadFromConfigurations types cfgs
        answers σ)).connections.tryGetValue cfg.1 ≠ none := by
  induction cfgs generalizing σ answers with
  | nil => exact ⟨h, fun cfg hcfg => (by cases hcfg)⟩
  | cons cfg cfgs ih =>
    obtain ⟨σ', hrun, hallocated', hconfigurable, hheld⟩ :=
      h.loadConfiguration hallocated (hcreates cfg List.mem_cons_self) (answers 0)
    rw [loadFromConfigurations_ok hrun]
    obtain ⟨hall, hback⟩ := ih hconfigurable hallocated' (fun cfg' hcfg' =>
      hcreates cfg' (.tail _ hcfg')) fun i => answers (i + 1)
    refine ⟨hall, fun cfg' hcfg' => ?_⟩
    obtain rfl | hcfg' := List.mem_cons.mp hcfg'
    · exact held_loadFromConfigurations hallocated' hheld
    · exact hback cfg' hcfg'

/-- After a restart, exactly the ids of the map are held, by connections that can be configured. -/
theorem held_restart (h : Saved types codec none σ) (answers : ℕ → ConnectionAnswer) :
    (σ.restart types codec answers).AllConfigurable ∧
      ∀ id, (σ.restart types codec answers).connections.containsKey id =
        σ.store.containsKey id := by
  obtain ⟨hsaved, hstore⟩ := h.restart answers
  obtain ⟨hcfgs, -, -⟩ :=
    loadConfigurations_of_fileHasMap h.file h.reads (fun _ => rfl : σ.file = .absent → ∅ = ∅) rfl
  have hnone : ((σ.newProcess.loadConfigurations codec).2).AllConfigurable :=
    fun id c hc => (by cases hc)
  obtain ⟨hall, hback⟩ := hnone.loadFromConfigurations
    (kept_loadConfigurations.allocated (initial_newProcess σ).allocated)
    (fun cfg hcfg => by
      have hread := h.reads _ _ ((hcfgs cfg).mp hcfg)
      have hcreated := hread.survives.created
      rwa [← hread.discrimination] at hcreated) answers
  refine ⟨hall, fun id => Bool.eq_iff_iff.mpr ⟨fun hheld => ?_, fun hstored => ?_⟩⟩
  · obtain ⟨c, hc⟩ := Dictionary.containsKey_iff.mp hheld
    have hmap := hsaved.held id c hc (by simp) (hall id c hc)
    exact Dictionary.containsKey_iff.mpr ⟨_, (hstore id).symm.trans hmap⟩
  · obtain ⟨cfg, hcfg⟩ := Dictionary.containsKey_iff.mp hstored
    obtain ⟨c, hc⟩ := Option.ne_none_iff_exists'.mp (hback (id, cfg) ((hcfgs (id, cfg)).mpr hcfg))
    exact Dictionary.containsKey_iff.mpr ⟨c, hc⟩

/-- One class of connections, whose configuration is a name. -/
private def namedClass : ConnectorTypes String :=
  ⟨fun _ => some some, fun a b => a == b, fun _ => "Named"⟩

private def nameCodec : ConfigurationCodec Unit String where
  configurationType _ := some ()
  deserialize _ node := node.getStringValue
  serializeToNode := .string

private theorem survives_name (name : String) : Survives namedClass nameCodec name := by
  have hnamed : isNullOrWhiteSpace (some "Named") = false := by decide
  exact ⟨hnamed, ⟨(), rfl, rfl⟩, nofun, rfl⟩

private def firstStart : MachineConnectionCollection String :=
  ⟨∅, fun _ => ⟨"", true, "", 0, 0⟩, 0, ∅, .absent, [], []⟩

private def obliging : ℕ → ConnectionAnswer := fun _ => ⟨true, true, true⟩

/-- A printer is added and renamed. -/
private def renamedPrinter : MachineConnectionCollection String :=
  (((firstStart.perform namedClass nameCodec obliging (.construct "a" true "old")).perform
    namedClass nameCodec obliging (.add ⟨0⟩)).perform namedClass nameCodec obliging
      (.configurationChanged ⟨0⟩ "new"))

end MachineConnectionCollection

end Connect3Dp
