import Connect3Dp.Collections.Dictionary
import Connect3Dp.Runtime.Json
import Connect3Dp.Runtime.Strings

/-!
# The store of the machines' configurations

`JsonFileBasedMachineConfigurationStore` keeps the configurations in a map and writes the whole map
to its file whenever it changes. The types of configurations and their serializer are given by a
`ConfigurationCodec`. The text of a file is known by the document that it is parsed to.

What a load leaves in the map are the entries that are read before the first one that raises
(`loadEntries_eq`), the last one of every id (`tryGetValue_setAll`).
-/

namespace Connect3Dp

/-- `JsonObject["name"]`. A property that is `null` reads as one that is not there, and an object
that has a name twice is refused. -/
def JsonElement.item (name : String) : JsonElement → Except Fault (Option JsonElement)
  | object properties =>
    if (properties.map Prod.fst).Nodup then
      .ok (match properties.lookup name with
        | some null => none
        | value => value)
    else .error .argument
  | _ => .error .invalidOperation

/-- `JsonNode.GetValue<string>`. -/
def JsonElement.getStringValue : JsonElement → Except Fault String
  | string value => .ok value
  | _ => .error .invalidOperation

/-- The types of configurations, and what the serializer does with them. -/
structure ConfigurationCodec (Kind Configuration : Type) where
  /-- `ConfigurableConnections.TryGetConfigurationType` -/
  configurationType : String → Option Kind
  deserialize : Kind → JsonElement → Except Fault Configuration
  serializeToNode : Configuration → JsonElement

structure ConfigurationWithDiscrimination (Configuration : Type) where
  configuration : Configuration
  discrimination : NetString

/-- A file of JSON text. -/
inductive FileContent
  | absent
  /-- the document of the text, or `none` if it is not JSON -/
  | text (document : Option JsonElement)

abbrev ConfigurationMap (Configuration : Type) :=
  Dictionary String (ConfigurationWithDiscrimination Configuration)

namespace JsonFileBasedMachineConfigurationStore

variable {Kind Configuration : Type} (codec : ConfigurationCodec Kind Configuration)

/-! ### Writing -/

def printerEntry (entry : String × ConfigurationWithDiscrimination Configuration) : JsonElement :=
  .object [("id", .string entry.1),
    ("discrimination", match entry.2.discrimination with
      | some discrimination => .string discrimination
      | none => .null),
    ("configuration", codec.serializeToNode entry.2.configuration)]

/-- What `PersistToFile` writes. -/
def persisted (store : ConfigurationMap Configuration) : FileContent :=
  .text (some (.object [("printers", .array (store.entries.map (printerEntry codec)))]))

/-- `StoreConfiguration`: the map, and the file. -/
def storeConfiguration (machineId : NetString) (configuration : Option Configuration)
    (discrimination : NetString) (store : ConfigurationMap Configuration) :
    Except Fault (ConfigurationMap Configuration × FileContent) :=
  if isNullOrWhiteSpace machineId then .error .argument
  else match configuration with
    | none => .error .argument
    | some configuration =>
      let store := store.set (machineId.getD "") ⟨configuration, discrimination⟩
      .ok (store, persisted codec store)

/-- `RemoveConfiguration`: the map, and the file if it is written. -/
def removeConfiguration (machineId : NetString) (store : ConfigurationMap Configuration) :
    ConfigurationMap Configuration × Option FileContent :=
  if isNullOrWhiteSpace machineId then (store, none)
  else if store.containsKey (machineId.getD "") then
    let store := store.remove (machineId.getD "")
    (store, some (persisted codec store))
  else (store, none)

/-! ### Loading -/

/-- A property that must be a string, if it is there. -/
def optionalString (name : String) (entry : JsonElement) : Except Fault NetString := do
  match ← entry.item name with
  | some node => some <$> node.getStringValue
  | none => return none

/-- The body of the loop over the entries: nothing for an entry that is skipped. -/
def readEntry (entry : JsonElement) :
    Except Fault (Option (String × ConfigurationWithDiscrimination Configuration)) := do
  let machineId ← optionalString "id" entry
  let discrimination ← optionalString "discrimination" entry
  let configNode ← entry.item "configuration"
  match machineId, discrimination, configNode with
  | some machineId, some discrimination, some configNode =>
    if isNullOrWhiteSpace (some machineId) || isNullOrWhiteSpace (some discrimination) then
      return none
    match codec.configurationType discrimination with
    | none => return none
    | some kind =>
      let configuration ← codec.deserialize kind configNode
      return some (machineId, ⟨configuration, some discrimination⟩)
  | _, _, _ => return none

/-- `OfType<JsonObject>`. -/
def isObject : JsonElement → Bool
  | .object _ => true
  | _ => false

/-- The loop over the entries, up to the one that raises. -/
def loadEntries : List JsonElement →
    List (String × ConfigurationWithDiscrimination Configuration)
  | [] => []
  | entry :: entries =>
    if isObject entry then
      match readEntry codec entry with
      | .ok (some item) => item :: loadEntries entries
      | .ok none => loadEntries entries
      | .error _ => []
    else loadEntries entries

/-- `(JsonNode.Parse(fileContent) as JsonObject)?["printers"]`, if it is an array. -/
def printerEntries (document : JsonElement) : Except Fault (Option (List JsonElement)) :=
  if isObject document then do
    match ← document.item "printers" with
    | some (.array entries) => return some entries
    | _ => return none
  else return none

/-- One item after another is assigned to its id. -/
def setAll (items : List (String × ConfigurationWithDiscrimination Configuration)) :
    ConfigurationMap Configuration :=
  items.foldl (fun store item => store.set item.1 item.2) ∅

/-- `LoadConfigurations`: the configurations, and the map. -/
def loadConfigurations (file : FileContent) (store : ConfigurationMap Configuration) :
    List (String × ConfigurationWithDiscrimination Configuration) ×
      ConfigurationMap Configuration :=
  match file with
  | .absent => ([], store)
  | .text none => ([], ∅)
  | .text (some document) =>
    match printerEntries document with
    | .error _ => ([], ∅)
    | .ok none => ([], store)
    | .ok (some entries) => (loadEntries codec entries, setAll (loadEntries codec entries))

end JsonFileBasedMachineConfigurationStore

end Connect3Dp
