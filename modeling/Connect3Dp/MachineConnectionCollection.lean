import Connect3Dp.Builder.Faulting
import Connect3Dp.Configuration.Store
import Connect3Dp.Runtime.Transition
import Connect3Dp.Scheduling.CronScheduler
import Mathlib.Logic.Function.Basic

/-!
# The collection of the machines' connections

A collection listens to two events of every connection that it holds. A connection is an object: it
outlives its removal, with the handlers that are still attached to it. The connections are made by
`ConnectorTypes`, from the configurations that a `JsonFileBasedMachineConfigurationStore` has.

`LoadOutcome` says what one configuration of a load can do; `Kept`, `Created` and `Detached` are
what the calls do to the objects.
-/

namespace Connect3Dp

/-- A `MachineConnection`, with how often the handlers of the collection are attached to it. -/
structure ConnectionObject (Configuration : Type) where
  id : String
  /-- `is IConfigurableConnection` -/
  isConfigurable : Bool
  configuration : Configuration
  onChanges : ℕ
  onConfigurationChanged : ℕ

/-- The classes of connections, and what they do with configurations. -/
structure ConnectorTypes (Configuration : Type) where
  /-- `ConfigurableConnections.Creators`: the id that the connector generates, or an exception -/
  creators : String → Option (Configuration → Option String)
  equals : Configuration → Configuration → Bool
  /-- `GetType().FullName` -/
  fullName : Configuration → String

/-- What the collection tells its listeners. -/
inductive CollectionNotice (Configuration : Type)
  | machineAdded (machineID : String) (config : ConfigurationWithDiscrimination Configuration)
  | machineRemoved (machineID : String)
  | machineConfigurationUpdated (machineID : String)
      (updatedConfig : ConfigurationWithDiscrimination Configuration)

/-- How the connection of a machine answers the collection. -/
structure ConnectionAnswer where
  /-- `Disconnect` returns -/
  disconnects : Bool
  /-- `UpdateConfiguration` comes to its assignment -/
  assigns : Bool
  /-- `UpdateConfiguration` succeeds -/
  updates : Bool

/-- `MachineConnectionCollection`, with its store and the objects of the process. -/
structure MachineConnectionCollection (Configuration : Type) where
  connections : Dictionary String ConnectionRef
  objects : ConnectionRef → ConnectionObject Configuration
  /-- the address of the next object -/
  nextAddress : ℕ
  store : ConfigurationMap Configuration
  file : FileContent
  /-- the connections whose configurations were stored, with the ids they were stored under -/
  stored : List (ConnectionRef × String)
  raised : List (CollectionNotice Configuration)

inductive CollectionEvent (Configuration : Type)
  /-- A connection is constructed. -/
  | construct (id : String) (isConfigurable : Bool) (configuration : Configuration)
  | add (connection : ConnectionRef)
  | remove (machineID : String)
  | loadFromConfigurations
      (cfgs : List (String × ConfigurationWithDiscrimination Configuration))
  | loadFromConfigurationStore
  /-- A connection changes its configuration and notifies, as `ChangeMaterial` does. -/
  | configurationChanged (connection : ConnectionRef) (configuration : Configuration)

/-- `ConfigurableConnections.TryCreateFromConfiguration`: the id of what is created. -/
def ConnectorTypes.tryCreateFromConfiguration {Configuration : Type}
    (types : ConnectorTypes Configuration)
    (cfg : ConfigurationWithDiscrimination Configuration) : Option String :=
  match cfg.discrimination with
  | none => none
  | some discrimination =>
    match types.creators discrimination with
    | none => none
    | some creator => creator cfg.configuration

namespace MachineConnectionCollection

variable {Kind Configuration : Type} (types : ConnectorTypes Configuration)
  (codec : ConfigurationCodec Kind Configuration)

def modifyObject (σ : MachineConnectionCollection Configuration) (connection : ConnectionRef)
    (f : ConnectionObject Configuration → ConnectionObject Configuration) :
    MachineConnectionCollection Configuration :=
  { σ with objects := Function.update σ.objects connection (f (σ.objects connection)) }

/-- A new object, to which nothing is attached. -/
def construct (σ : MachineConnectionCollection Configuration) (id : String) (isConfigurable : Bool)
    (configuration : Configuration) : MachineConnectionCollection Configuration :=
  { σ with
    objects := Function.update σ.objects ⟨σ.nextAddress⟩ ⟨id, isConfigurable, configuration, 0, 0⟩
    nextAddress := σ.nextAddress + 1 }

def listenForChanges (σ : MachineConnectionCollection Configuration) (connection : ConnectionRef) :
    MachineConnectionCollection Configuration :=
  σ.modifyObject connection fun o =>
    { o with
      onChanges := o.onChanges + 1
      onConfigurationChanged := o.onConfigurationChanged + 1 }

/-- A connection takes the place of the id in `Connections`, and the collection listens to it. -/
def setConnection (σ : MachineConnectionCollection Configuration) (machineID : String)
    (connection : ConnectionRef) : MachineConnectionCollection Configuration :=
  { σ with connections := σ.connections.set machineID connection }.listenForChanges connection

/-- `ConfigurationStore.StoreConfiguration(connection.ID, GetConfigurationWithDiscrimination())`. -/
def storeConfiguration (connection : ConnectionRef) :
    EStateM Fault (MachineConnectionCollection Configuration) Unit := fun σ =>
  let o := σ.objects connection
  match JsonFileBasedMachineConfigurationStore.storeConfiguration codec (some o.id)
      (some o.configuration) (some (types.fullName o.configuration)) σ.store with
  | .ok (store, file) =>
    .ok () { σ with store, file, stored := σ.stored ++ [(connection, o.id)] }
  | .error fault => .error fault σ

def add (connection : ConnectionRef) :
    EStateM Fault (MachineConnectionCollection Configuration) Unit := fun σ =>
  let o := σ.objects connection
  match σ.connections.tryGetValue o.id with
  | some _ => .error .notImplemented σ
  | none =>
    let σ := σ.setConnection o.id connection
    if o.isConfigurable then storeConfiguration types codec connection σ else .ok () σ

/-- `Remove`. The handler of `OnConfigurationChanged` stays. -/
def remove (machineID : String) (answer : ConnectionAnswer) :
    EStateM Fault (MachineConnectionCollection Configuration) Bool := fun σ =>
  match σ.connections.tryGetValue machineID with
  | none => .ok false σ
  | some removedConnection =>
    let σ := { σ with connections := σ.connections.remove machineID }
    if answer.disconnects then
      let σ := σ.modifyObject removedConnection fun o => { o with onChanges := o.onChanges - 1 }
      .ok true { σ with raised := σ.raised ++ [.machineRemoved machineID] }
    else .error .other σ

/-- The body of the loop of `LoadFromConfigurations`. -/
def loadConfiguration (cfg : String × ConfigurationWithDiscrimination Configuration)
    (answer : ConnectionAnswer) :
    EStateM Fault (MachineConnectionCollection Configuration) Unit := fun σ =>
  match types.tryCreateFromConfiguration cfg.2 with
  | none => .ok () σ
  | some _ =>
    -- the generated id is overwritten, or it is the same
    let createdConnection : ConnectionRef := ⟨σ.nextAddress⟩
    let σ := σ.construct cfg.1 true cfg.2.configuration
    match σ.connections.tryGetValue cfg.1 with
    | some existingConnection =>
      if (σ.objects existingConnection).isConfigurable then
        if types.equals (σ.objects existingConnection).configuration cfg.2.configuration then
          .ok () σ
        else
          let σ := if answer.assigns then
            σ.modifyObject existingConnection fun o =>
              { o with configuration := cfg.2.configuration } else σ
          if answer.updates then
            .ok () { σ with raised := σ.raised ++ [.machineConfigurationUpdated cfg.1 cfg.2] }
          else .ok () σ
      else if answer.disconnects then
        let σ := σ.setConnection cfg.1 createdConnection
        .ok () { σ with raised := σ.raised ++ [.machineConfigurationUpdated cfg.1 cfg.2] }
      else .error .other σ
    | none =>
      let σ := σ.setConnection cfg.1 createdConnection
      .ok () { σ with raised := σ.raised ++ [.machineAdded cfg.1 cfg.2] }

/-- `LoadFromConfigurations`, with an answer for each of the configurations. -/
def loadFromConfigurations :
    List (String × ConfigurationWithDiscrimination Configuration) → (ℕ → ConnectionAnswer) →
      EStateM Fault (MachineConnectionCollection Configuration) Unit
  | [], _ => pure ()
  | cfg :: cfgs, answers => do
    loadConfiguration types cfg (answers 0)
    loadFromConfigurations cfgs fun i => answers (i + 1)

/-- `ConfigurationStore.LoadConfigurations`. -/
def loadConfigurations (σ : MachineConnectionCollection Configuration) :
    List (String × ConfigurationWithDiscrimination Configuration) ×
      MachineConnectionCollection Configuration :=
  let (cfgs, store) :=
    JsonFileBasedMachineConfigurationStore.loadConfigurations codec σ.file σ.store
  (cfgs, { σ with store })

def loadFromConfigurationStore (answers : ℕ → ConnectionAnswer) :
    EStateM Fault (MachineConnectionCollection Configuration) Unit := fun σ =>
  let (cfgs, σ) := σ.loadConfigurations codec
  loadFromConfigurations types cfgs answers σ

/-- `MachineConnection_OnConfigurationChanged`, as often as it is attached. -/
def onConfigurationChanged (connection : ConnectionRef) (attached : ℕ)
    (σ : MachineConnectionCollection Configuration) : MachineConnectionCollection Configuration :=
  (fun σ => if (σ.objects connection).isConfigurable then
    finalState (storeConfiguration types codec connection σ) else σ)^[attached] σ

/-- What is left of the collection after a call, whether it returns or raises. -/
def perform (σ : MachineConnectionCollection Configuration) (answers : ℕ → ConnectionAnswer) :
    CollectionEvent Configuration → MachineConnectionCollection Configuration
  | .construct id isConfigurable configuration => σ.construct id isConfigurable configuration
  | .add connection =>
    if connection.address < σ.nextAddress then finalState (add types codec connection σ) else σ
  | .remove machineID => finalState (remove machineID (answers 0) σ)
  | .loadFromConfigurations cfgs => finalState (loadFromConfigurations types cfgs answers σ)
  | .loadFromConfigurationStore => finalState (loadFromConfigurationStore types codec answers σ)
  | .configurationChanged connection configuration =>
    let σ := σ.modifyObject connection fun o => { o with configuration }
    σ.onConfigurationChanged types codec connection (σ.objects connection).onConfigurationChanged

/-- Nothing was added yet. -/
structure Initial (σ : MachineConnectionCollection Configuration) : Prop where
  connections : σ.connections = ∅
  handlers : ∀ c, (σ.objects c).onChanges = 0 ∧ (σ.objects c).onConfigurationChanged = 0

/-! ### What the calls change -/

variable {types codec} {σ σ' : MachineConnectionCollection Configuration}
  {cfg : String × ConfigurationWithDiscrimination Configuration} {answer : ConnectionAnswer}
  {c : ConnectionRef}

/-- The objects of the collection exist, and nothing is attached to one that does not. -/
structure Allocated (σ : MachineConnectionCollection Configuration) : Prop where
  connections : ∀ k c, σ.connections.tryGetValue k = some c → c.address < σ.nextAddress
  handlers : ∀ c, σ.nextAddress ≤ c.address →
    (σ.objects c).onChanges = 0 ∧ (σ.objects c).onConfigurationChanged = 0

/-- The object is the same, up to its configuration. -/
structure SameObject (o o' : ConnectionObject Configuration) : Prop where
  id : o'.id = o.id
  isConfigurable : o'.isConfigurable = o.isConfigurable
  onChanges : o'.onChanges = o.onChanges
  onConfigurationChanged : o'.onConfigurationChanged = o.onConfigurationChanged

/-- The connections and the handlers are what they were. -/
structure Kept (σ σ' : MachineConnectionCollection Configuration) : Prop where
  connections : σ'.connections = σ.connections
  nextAddress : σ.nextAddress ≤ σ'.nextAddress
  old : ∀ c, c.address < σ.nextAddress → SameObject (σ.objects c) (σ'.objects c)
  new : ∀ c, σ.nextAddress ≤ c.address →
    (σ.objects c).onChanges = 0 ∧ (σ.objects c).onConfigurationChanged = 0 →
    (σ'.objects c).onChanges = 0 ∧ (σ'.objects c).onConfigurationChanged = 0

/-- A new connection has the place of an id. -/
structure Created (σ : MachineConnectionCollection Configuration) (machineID : String)
    (σ' : MachineConnectionCollection Configuration) : Prop where
  connections : σ'.connections = σ.connections.set machineID ⟨σ.nextAddress⟩
  nextAddress : σ'.nextAddress = σ.nextAddress + 1
  id : (σ'.objects ⟨σ.nextAddress⟩).id = machineID
  isConfigurable : (σ'.objects ⟨σ.nextAddress⟩).isConfigurable = true
  handlers : (σ'.objects ⟨σ.nextAddress⟩).onChanges = 1 ∧
    (σ'.objects ⟨σ.nextAddress⟩).onConfigurationChanged = 1
  old : ∀ c, c ≠ ⟨σ.nextAddress⟩ → σ'.objects c = σ.objects c

theorem SameObject.refl (o : ConnectionObject Configuration) : SameObject o o :=
  ⟨rfl, rfl, rfl, rfl⟩

theorem Kept.refl (σ : MachineConnectionCollection Configuration) : Kept σ σ :=
  ⟨rfl, le_rfl, fun _ _ => .refl _, fun _ _ h => h⟩

theorem ne_nextAddress (h : c.address < σ.nextAddress) : c ≠ ⟨σ.nextAddress⟩ := by
  rintro rfl
  exact absurd h (Nat.lt_irrefl _)

theorem objects_construct_of_lt {id : String} {isConfigurable : Bool}
    {configuration : Configuration} (h : c.address < σ.nextAddress) :
    (σ.construct id isConfigurable configuration).objects c = σ.objects c :=
  Function.update_of_ne (ne_nextAddress h) _ _

theorem kept_construct (id : String) (isConfigurable : Bool) (configuration : Configuration) :
    Kept σ (σ.construct id isConfigurable configuration) := by
  refine ⟨rfl, Nat.le_succ _, fun c hc => ?_, fun c hc h => ?_⟩
  · rw [objects_construct_of_lt hc]
    exact .refl _
  · by_cases hnew : c = ⟨σ.nextAddress⟩
    · subst hnew
      simp only [construct, Function.update_self, and_self]
    · simp only [construct, Function.update_of_ne hnew]
      exact h

theorem kept_modifyObject {f : ConnectionObject Configuration → ConnectionObject Configuration}
    (hf : ∀ o, SameObject o (f o)) : Kept σ (σ.modifyObject c f) := by
  have hsame : ∀ c', SameObject (σ.objects c') ((σ.modifyObject c f).objects c') := by
    intro c'
    by_cases heq : c' = c
    · subst heq
      simp only [modifyObject, Function.update_self]
      exact hf _
    · simp only [modifyObject, Function.update_of_ne heq]
      exact .refl _
  refine ⟨rfl, le_rfl, fun c' _ => hsame c', fun c' _ h => ?_⟩
  rw [(hsame c').onChanges, (hsame c').onConfigurationChanged]
  exact h

theorem Kept.trans {σ'' : MachineConnectionCollection Configuration} (h : Kept σ σ')
    (h' : Kept σ' σ'') : Kept σ σ'' := by
  refine ⟨h'.connections.trans h.connections, h.nextAddress.trans h'.nextAddress, fun c hc => ?_,
    fun c hc hzero => ?_⟩
  · have hold := h.old c hc
    have hold' := h'.old c (lt_of_lt_of_le hc h.nextAddress)
    exact ⟨hold'.id.trans hold.id, hold'.isConfigurable.trans hold.isConfigurable,
      hold'.onChanges.trans hold.onChanges,
      hold'.onConfigurationChanged.trans hold.onConfigurationChanged⟩
  · have hzero' := h.new c hc hzero
    rcases Nat.lt_or_ge c.address σ'.nextAddress with hlt | hge
    · have hold' := h'.old c hlt
      rw [hold'.onChanges, hold'.onConfigurationChanged]
      exact hzero'
    · exact h'.new c hge hzero'

theorem kept_storeConfiguration :
    Kept σ (finalState (storeConfiguration types codec c σ)) := by
  unfold storeConfiguration
  dsimp only
  split
  all_goals exact ⟨rfl, le_rfl, fun _ _ => .refl _, fun _ _ h => h⟩

theorem kept_onConfigurationChanged (attached : ℕ) :
    Kept σ (σ.onConfigurationChanged types codec c attached) := by
  induction attached generalizing σ with
  | zero => exact .refl _
  | succ attached ih =>
    rw [onConfigurationChanged, Function.iterate_succ_apply]
    refine Kept.trans ?_ ih
    split
    · exact kept_storeConfiguration
    · exact .refl _

theorem created_setConnection (configuration : Configuration) (machineID : String)
    (raised : List (CollectionNotice Configuration)) :
    Created σ machineID { (σ.construct machineID true configuration).setConnection machineID
      ⟨σ.nextAddress⟩ with raised } := by
  refine ⟨rfl, rfl, ?_, ?_, ?_, fun c hc => ?_⟩
  case refine_4 =>
    simp only [setConnection, listenForChanges, modifyObject, construct,
      Function.update_of_ne hc]
  all_goals simp [setConnection, listenForChanges, modifyObject, construct]

/-- **What one configuration of a load does.** -/
inductive LoadOutcome (types : ConnectorTypes Configuration)
    (σ : MachineConnectionCollection Configuration)
    (cfg : String × ConfigurationWithDiscrimination Configuration) (answer : ConnectionAnswer) :
    EStateM.Result Fault (MachineConnectionCollection Configuration) Unit → Prop
  | skipped (hcreate : types.tryCreateFromConfiguration cfg.2 = none) :
      LoadOutcome types σ cfg answer (.ok () σ)
  | kept {c : ConnectionRef} {σ' : MachineConnectionCollection Configuration}
      (hc : σ.connections.tryGetValue cfg.1 = some c) (hconfigurable : (σ.objects c).isConfigurable)
      (hkept : Kept σ σ') (hstored : σ'.stored = σ.stored) :
      LoadOutcome types σ cfg answer (.ok () σ')
  | refused {c : ConnectionRef} {σ' : MachineConnectionCollection Configuration}
      (hc : σ.connections.tryGetValue cfg.1 = some c)
      (hconfigurable : (σ.objects c).isConfigurable = false) (hanswer : answer.disconnects = false)
      (hkept : Kept σ σ') (hstored : σ'.stored = σ.stored) :
      LoadOutcome types σ cfg answer (.error .other σ')
  | created {σ' : MachineConnectionCollection Configuration}
      (hcreate : (types.tryCreateFromConfiguration cfg.2).isSome = true)
      (hc : ∀ c, σ.connections.tryGetValue cfg.1 = some c →
        (σ.objects c).isConfigurable = false ∧ answer.disconnects = true)
      (hcreated : Created σ cfg.1 σ') (hstored : σ'.stored = σ.stored) :
      LoadOutcome types σ cfg answer (.ok () σ')

theorem loadConfiguration_cases (hallocated : σ.Allocated) :
    LoadOutcome types σ cfg answer (loadConfiguration types cfg answer σ) := by
  unfold loadConfiguration
  split
  case h_1 hcreate => exact .skipped hcreate
  case h_2 generatedID hcreate =>
    have hsome : (types.tryCreateFromConfiguration cfg.2).isSome = true := by rw [hcreate]; rfl
    have hconstruct : Kept σ (σ.construct cfg.1 true cfg.2.configuration) := kept_construct ..
    dsimp only
    split
    -- the id is free
    case h_2 hc =>
      refine .created hsome (fun c hc' => ?_) (created_setConnection ..) rfl
      cases hc.symm.trans hc'
    case h_1 existingConnection hc =>
      have hc' : σ.connections.tryGetValue cfg.1 = some existingConnection := hc
      have hobject : (σ.construct cfg.1 true cfg.2.configuration).objects existingConnection =
          σ.objects existingConnection :=
        objects_construct_of_lt (hallocated.connections _ _ hc')
      -- only the configuration of a configurable connection is changed in place
      by_cases hconfigurable : (σ.objects existingConnection).isConfigurable = true
      · rw [hobject, if_pos hconfigurable]
        split
        · exact .kept hc' hconfigurable hconstruct rfl
        · have hassign : ∀ assigns : Bool, Kept (σ.construct cfg.1 true cfg.2.configuration)
              (if assigns then (σ.construct cfg.1 true cfg.2.configuration).modifyObject
                existingConnection fun o => { o with configuration := cfg.2.configuration }
              else σ.construct cfg.1 true cfg.2.configuration) := by
            intro assigns
            cases assigns with
            | false => exact .refl _
            | true =>
              rw [if_pos rfl]
              exact kept_modifyObject fun o => ⟨rfl, rfl, rfl, rfl⟩
          have hkept := hconstruct.trans (hassign answer.assigns)
          have hstored : (if answer.assigns then
              (σ.construct cfg.1 true cfg.2.configuration).modifyObject existingConnection
                fun o => { o with configuration := cfg.2.configuration }
              else σ.construct cfg.1 true cfg.2.configuration).stored = σ.stored := by
            split
            all_goals rfl
          split
          · exact .kept hc' hconfigurable
              ⟨hkept.connections, hkept.nextAddress, hkept.old, hkept.new⟩ hstored
          · exact .kept hc' hconfigurable hkept hstored
      · rw [hobject, if_neg hconfigurable]
        rw [Bool.not_eq_true] at hconfigurable
        split
        -- the old connection is replaced once it has disconnected
        · rename_i hanswer
          refine .created hsome (fun c hc'' => ?_) (created_setConnection ..) rfl
          cases hc'.symm.trans hc''
          exact ⟨hconfigurable, hanswer⟩
        · rename_i hanswer
          exact .refused hc' hconfigurable (Bool.not_eq_true _ ▸ hanswer) hconstruct rfl

theorem Kept.allocated (h : Kept σ σ') (hallocated : σ.Allocated) : σ'.Allocated := by
  refine ⟨fun k c hc => ?_, fun c hc => ?_⟩
  · rw [h.connections] at hc
    exact lt_of_lt_of_le (hallocated.connections k c hc) h.nextAddress
  · have hc' : σ.nextAddress ≤ c.address := h.nextAddress.trans hc
    exact h.new c hc' (hallocated.handlers c hc')

theorem Created.allocated {machineID : String} (h : Created σ machineID σ')
    (hallocated : σ.Allocated) : σ'.Allocated := by
  refine ⟨fun k c hc => ?_, fun c hc => ?_⟩
  · rw [h.connections, Dictionary.tryGetValue_set] at hc
    rw [h.nextAddress]
    split at hc
    · cases hc
      exact Nat.lt_succ_self _
    · exact Nat.lt_succ_of_lt (hallocated.connections k c hc)
  · rw [h.nextAddress] at hc
    have hne : c ≠ ⟨σ.nextAddress⟩ := by
      rintro rfl
      exact absurd hc (Nat.not_succ_le_self _)
    rw [h.old c hne]
    exact hallocated.handlers c (Nat.le_of_succ_le hc)

/-! ### Loads -/

variable {cfgs : List (String × ConfigurationWithDiscrimination Configuration)}
  {answers : ℕ → ConnectionAnswer}

theorem loadFromConfigurations_ok
    (h : loadConfiguration types cfg (answers 0) σ = .ok () σ') :
    loadFromConfigurations types (cfg :: cfgs) answers σ =
      loadFromConfigurations types cfgs (fun i => answers (i + 1)) σ' := by
  rw [loadFromConfigurations]
  exact run_bind_ok h

theorem loadFromConfigurations_error {fault : Fault}
    (h : loadConfiguration types cfg (answers 0) σ = .error fault σ') :
    loadFromConfigurations types (cfg :: cfgs) answers σ = .error fault σ' := by
  rw [loadFromConfigurations]
  exact run_bind_error h

/-- **What holds before a load and is kept by each of its configurations** holds after it. -/
theorem loadFromConfigurations_induct {I : MachineConnectionCollection Configuration → Prop}
    (hkept : ∀ σ σ', σ.Allocated → I σ → Kept σ σ' → σ'.stored = σ.stored → I σ')
    (hcreated : ∀ σ σ' cfg, cfg ∈ cfgs → σ.Allocated → I σ →
      (types.tryCreateFromConfiguration cfg.2).isSome = true →
      (∀ c, σ.connections.tryGetValue cfg.1 = some c → (σ.objects c).isConfigurable = false) →
      Created σ cfg.1 σ' → σ'.stored = σ.stored → I σ')
    (hallocated : σ.Allocated) (h : I σ) :
    I (finalState (loadFromConfigurations types cfgs answers σ)) ∧
      (finalState (loadFromConfigurations types cfgs answers σ)).Allocated := by
  induction cfgs generalizing σ answers with
  | nil => exact ⟨h, hallocated⟩
  | cons cfg cfgs ih =>
    have hcreated' : ∀ σ σ' cfg, cfg ∈ cfgs → σ.Allocated → I σ →
        (types.tryCreateFromConfiguration cfg.2).isSome = true →
        (∀ c, σ.connections.tryGetValue cfg.1 = some c → (σ.objects c).isConfigurable = false) →
        Created σ cfg.1 σ' → σ'.stored = σ.stored → I σ' :=
      fun σ σ' cfg hmem => hcreated σ σ' cfg (List.mem_cons_of_mem _ hmem)
    have hcases : LoadOutcome types σ cfg (answers 0) _ := loadConfiguration_cases hallocated
    generalize hrun : loadConfiguration types cfg (answers 0) σ = r at hcases
    cases hcases with
    | skipped =>
      rw [loadFromConfigurations_ok hrun]
      exact ih hcreated' hallocated h
    | kept hc hconfigurable hσ hstored =>
      rw [loadFromConfigurations_ok hrun]
      exact ih hcreated' (hσ.allocated hallocated) (hkept _ _ hallocated h hσ hstored)
    | refused hc hconfigurable hanswer hσ hstored =>
      rw [loadFromConfigurations_error hrun]
      exact ⟨hkept _ _ hallocated h hσ hstored, hσ.allocated hallocated⟩
    | created hcreate hc hσ hstored =>
      rw [loadFromConfigurations_ok hrun]
      exact ih hcreated' (hσ.allocated hallocated)
        (hcreated _ _ cfg List.mem_cons_self hallocated h hcreate (fun c hc' => (hc c hc').1) hσ
          hstored)

/-! ### Additions and removals -/

/-- The connection of an id is not held any more. -/
structure Detached (σ : MachineConnectionCollection Configuration) (machineID : String)
    (σ' : MachineConnectionCollection Configuration) : Prop where
  connections : σ'.connections = σ.connections.remove machineID
  nextAddress : σ'.nextAddress = σ.nextAddress
  stored : σ'.stored = σ.stored
  id : ∀ c, (σ'.objects c).id = (σ.objects c).id
  isConfigurable : ∀ c, (σ'.objects c).isConfigurable = (σ.objects c).isConfigurable
  onChanges : ∀ c, (σ'.objects c).onChanges ≤ (σ.objects c).onChanges
  onConfigurationChanged : ∀ c,
    (σ'.objects c).onConfigurationChanged = (σ.objects c).onConfigurationChanged

theorem remove_of_none {machineID : String} (h : σ.connections.tryGetValue machineID = none) :
    finalState (remove machineID answer σ) = σ := by
  simp only [remove, h, finalState]

theorem detached_remove {machineID : String} (h : σ.connections.tryGetValue machineID = some c) :
    Detached σ machineID (finalState (remove machineID answer σ)) := by
  simp only [remove, h]
  split
  · refine ⟨rfl, rfl, rfl, fun c' => ?_, fun c' => ?_, fun c' => ?_, fun c' => ?_⟩
    all_goals
      simp only [finalState, modifyObject]
      by_cases heq : c' = c
      · subst heq
        simp only [Function.update_self, Nat.sub_le]
      · simp only [Function.update_of_ne heq, le_refl]
  · exact ⟨rfl, rfl, rfl, fun _ => rfl, fun _ => rfl, fun _ => le_rfl, fun _ => rfl⟩

theorem Detached.allocated {machineID : String} (h : Detached σ machineID σ')
    (hallocated : σ.Allocated) : σ'.Allocated := by
  refine ⟨fun k c hc => ?_, fun c hc => ?_⟩
  · rw [h.connections, Dictionary.tryGetValue_remove] at hc
    rw [h.nextAddress]
    split at hc
    · cases hc
    · exact hallocated.connections k c hc
  · rw [h.nextAddress] at hc
    obtain ⟨hchanges, hconfiguration⟩ := hallocated.handlers c hc
    have hle := h.onChanges c
    rw [h.onConfigurationChanged]
    exact ⟨by omega, hconfiguration⟩

theorem allocated_setConnection (hallocated : σ.Allocated) (hc : c.address < σ.nextAddress)
    (machineID : String) : (σ.setConnection machineID c).Allocated := by
  refine ⟨fun k c' hc' => ?_, fun c' hc' => ?_⟩
  · change (σ.connections.set machineID c).tryGetValue k = some c' at hc'
    rw [Dictionary.tryGetValue_set] at hc'
    split at hc'
    · cases hc'
      exact hc
    · exact hallocated.connections k c' hc'
  · have hne : c' ≠ c := by
      rintro rfl
      exact absurd hc (Nat.not_lt.mpr hc')
    simp only [setConnection, listenForChanges, modifyObject, Function.update_of_ne hne]
    exact hallocated.handlers c' hc'

theorem add_of_some {c' : ConnectionRef}
    (h : σ.connections.tryGetValue (σ.objects c).id = some c') :
    finalState (add types codec c σ) = σ := by
  simp only [add, h, finalState]

theorem kept_add (h : σ.connections.tryGetValue (σ.objects c).id = none) :
    Kept (σ.setConnection (σ.objects c).id c) (finalState (add types codec c σ)) := by
  simp only [add, h]
  split
  · exact kept_storeConfiguration
  · exact .refl _

theorem kept_configurationChanged (configuration : Configuration) (attached : ℕ) :
    Kept σ ((σ.modifyObject c fun o => { o with configuration }).onConfigurationChanged types
      codec c attached) := by
  have hassign : Kept σ (σ.modifyObject c fun o => { o with configuration }) :=
    kept_modifyObject fun o => ⟨rfl, rfl, rfl, rfl⟩
  exact hassign.trans (kept_onConfigurationChanged attached)

/-- `LoadConfigurations` changes the store only. -/
theorem kept_loadConfigurations : Kept σ (σ.loadConfigurations codec).2 :=
  ⟨rfl, le_rfl, fun _ _ => .refl _, fun _ _ h => h⟩

/-! ### Runs -/

/-- **The objects of the collection exist** after every event. -/
theorem Allocated.perform (hallocated : σ.Allocated) (answers : ℕ → ConnectionAnswer)
    (e : CollectionEvent Configuration) : (σ.perform types codec answers e).Allocated := by
  have hload : ∀ (σ : MachineConnectionCollection Configuration) cfgs, σ.Allocated →
      (finalState (loadFromConfigurations types cfgs answers σ)).Allocated :=
    fun σ cfgs hallocated => (loadFromConfigurations_induct (I := fun _ => True)
      (fun _ _ _ _ _ _ => trivial) (fun _ _ _ _ _ _ _ _ _ _ => trivial) hallocated trivial).2
  cases e with
  | construct id isConfigurable configuration => exact (kept_construct ..).allocated hallocated
  | add connection =>
    dsimp only [MachineConnectionCollection.perform]
    split
    case isFalse => exact hallocated
    case isTrue hlt =>
      cases hheld : σ.connections.tryGetValue (σ.objects connection).id with
      | some c => rwa [add_of_some hheld]
      | none => exact (kept_add hheld).allocated (allocated_setConnection hallocated hlt _)
  | remove machineID =>
    dsimp only [MachineConnectionCollection.perform]
    cases hheld : σ.connections.tryGetValue machineID with
    | none => rwa [remove_of_none hheld]
    | some c => exact (detached_remove hheld).allocated hallocated
  | loadFromConfigurations cfgs => exact hload σ cfgs hallocated
  | loadFromConfigurationStore =>
    exact hload _ _ (kept_loadConfigurations.allocated hallocated)
  | configurationChanged connection configuration =>
    exact (kept_configurationChanged ..).allocated hallocated

theorem Initial.allocated (h : Initial σ) : σ.Allocated := by
  refine ⟨fun k c hc => ?_, fun c _ => h.handlers c⟩
  rw [h.connections] at hc
  cases hc

end MachineConnectionCollection

end Connect3Dp
