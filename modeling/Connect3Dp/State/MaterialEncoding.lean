import Connect3Dp.Runtime.Hex
import Connect3Dp.Runtime.JsonSerializer
import Connect3Dp.State.Values

/-!
# Materials in JSON

The configuration store and the web socket server leave it to the serializer how a material is
written and read. No property of `MaterialColor` has a setter, and the serializer does not use its
constructor, so every color that is read is the default one: black, without a name.

`survivesAll_iff` says which materials are the same after they have been written and read, and
`read_write_configuration` what a restart makes of the material that a configuration keeps.
-/

namespace Connect3Dp

/-- `JsonFileBasedMachineConfigurationStore.JsonOptions`. -/
def JsonFileBasedMachineConfigurationStore.jsonOptions : JsonSerializerOptions where
  propertyNameCaseInsensitive := true
  propertyNamingPolicy := id

/-- `WebSocketServer.JsonOptions`. -/
def WebSocketServer.jsonOptions : JsonSerializerOptions where
  propertyNameCaseInsensitive := true
  propertyNamingPolicy := camelCase

namespace Serialized

/-! ### The types -/

/-- `MaterialColor`, with its name. -/
structure MaterialColor extends Connect3Dp.MaterialColor where
  name : NetString
  deriving DecidableEq, Inhabited

namespace MaterialColor

/-- `Hex`. -/
def hex (color : MaterialColor) : String :=
  formatHex 2 color.r.toNat ++ formatHex 2 color.g.toNat ++ formatHex 2 color.b.toNat

/-- `MaterialColor`, as the serializer sees it. The CIELAB values are private. -/
def info : JsonObjectInfo MaterialColor where
  create := default
  properties := [
    .readOnly "Name" .string name,
    .readOnly "R" .byte fun color => color.r,
    .readOnly "G" .byte fun color => color.g,
    .readOnly "B" .byte fun color => color.b,
    .readOnly "Hex" .string fun color => some color.hex]

end MaterialColor

/-- `Material`. -/
structure Material where
  name : NetString
  color : MaterialColor
  fProfileIDX : NetString
  deriving DecidableEq, Inhabited

namespace Material

/-- The equality of the record: two colors are equal if their parts are. -/
def equals (a b : Material) : Bool :=
  a.name = b.name && a.color.toMaterialColor = b.color.toMaterialColor &&
    a.fProfileIDX = b.fProfileIDX

/-- `Material`, as the serializer sees it. -/
def info (options : JsonSerializerOptions) : JsonObjectInfo Material where
  create := default
  properties := [
    .readWrite "Name" .string name fun m name => { m with name },
    .readWrite "Color" (MaterialColor.info.converter options) color fun m color => { m with color },
    .readWrite "FProfileIDX" .string fProfileIDX fun m fProfileIDX => { m with fProfileIDX }]

def converter (options : JsonSerializerOptions) : JsonConverter Material :=
  (info options).converter options

end Material

/-- `CrealityK1CConfiguration`. A parameter of the constructor that is not in the document gets its
default. -/
structure CrealityK1CConfiguration where
  nickname : NetString
  address : NetString
  serialNumber : NetString
  loadedMaterial : Option Material
  deriving DecidableEq, Inhabited

namespace CrealityK1CConfiguration

/-- `CrealityK1CConfiguration`, as the serializer sees it. -/
def info (options : JsonSerializerOptions) : JsonObjectInfo CrealityK1CConfiguration where
  create := default
  properties := [
    .readWrite "Nickname" .string nickname fun c nickname => { c with nickname },
    .readWrite "Address" .string address fun c address => { c with address },
    .readWrite "SerialNumber" .string serialNumber fun c serialNumber => { c with serialNumber },
    .readWrite "LoadedMaterial" (.nullable (Material.converter options)) loadedMaterial
      fun c loadedMaterial => { c with loadedMaterial }]

def converter (options : JsonSerializerOptions) : JsonConverter CrealityK1CConfiguration :=
  (info options).converter options

end CrealityK1CConfiguration

/-! ### What is read -/

/-- The serializer tells the properties of these types apart. -/
structure TellsApart (options : JsonSerializerOptions) : Prop where
  color : MaterialColor.info.Distinct options
  material : (Material.info options).Distinct options
  configuration : (CrealityK1CConfiguration.info options).Distinct options

theorem tellsApart_store : TellsApart JsonFileBasedMachineConfigurationStore.jsonOptions where
  color := by decide +kernel
  material := by decide +kernel
  configuration := by decide +kernel

theorem tellsApart_webSocket : TellsApart WebSocketServer.jsonOptions where
  color := by decide +kernel
  material := by decide +kernel
  configuration := by decide +kernel

section Read

variable {options : JsonSerializerOptions} (h : TellsApart options)
include h

/-- Of a color, nothing is read. -/
theorem read_write_color (color : MaterialColor) :
    (MaterialColor.info.converter options).read
        ((MaterialColor.info.converter options).write color) = .ok default :=
  JsonObjectInfo.read_write h.color color

/-- **A material that is read** has the default color. -/
theorem read_write_material (m : Material) :
    (Material.converter options).read ((Material.converter options).write m) =
      .ok { m with color := default } := by
  rw [Material.converter, JsonObjectInfo.read_write h.material, Material.info,
    JsonProperty.copyAll_readWrite _ _ _ _ (JsonConverter.read_write_string m.name),
    JsonProperty.copyAll_readWrite _ _ _ _ (read_write_color h m.color),
    JsonProperty.copyAll_readWrite _ _ _ _ (JsonConverter.read_write_string m.fProfileIDX)]
  rfl

/-- **A configuration that is read**, after a restart: its material has the default color. -/
theorem read_write_configuration (c : CrealityK1CConfiguration) :
    (CrealityK1CConfiguration.converter options).read
        ((CrealityK1CConfiguration.converter options).write c) =
      .ok { c with
        loadedMaterial := c.loadedMaterial.map fun m => { m with color := default } } := by
  have hmaterial : (JsonConverter.nullable (Material.converter options)).read
      ((JsonConverter.nullable (Material.converter options)).write c.loadedMaterial) =
        .ok (c.loadedMaterial.map fun m => { m with color := default }) := by
    cases c.loadedMaterial with
    | none => rfl
    | some m => exact JsonConverter.read_write_nullable (by rintro ⟨⟩) (read_write_material h m)
  rw [CrealityK1CConfiguration.converter, JsonObjectInfo.read_write h.configuration,
    CrealityK1CConfiguration.info,
    JsonProperty.copyAll_readWrite _ _ _ _ (JsonConverter.read_write_string c.nickname),
    JsonProperty.copyAll_readWrite _ _ _ _ (JsonConverter.read_write_string c.address),
    JsonProperty.copyAll_readWrite _ _ _ _ (JsonConverter.read_write_string c.serialNumber),
    JsonProperty.copyAll_readWrite _ _ _ _ hmaterial]
  rfl

/-- The material is the same after it has been written and read: equal, and of the same color. -/
def Survives (options : JsonSerializerOptions) (m : Material) : Prop :=
  ∃ m', (Material.converter options).read ((Material.converter options).write m) = .ok m' ∧
    m'.equals m = true ∧ m'.color = m.color

/-- A configuration with the material keeps it over a restart. -/
def SurvivesRestart (m : Material) : Prop :=
  ∀ c : CrealityK1CConfiguration, c.loadedMaterial = some m →
    ∃ c', (CrealityK1CConfiguration.converter
        JsonFileBasedMachineConfigurationStore.jsonOptions).read
          ((CrealityK1CConfiguration.converter
            JsonFileBasedMachineConfigurationStore.jsonOptions).write c) = .ok c' ∧
      c'.loadedMaterial = some m

omit h in
theorem Material.equals_self (m : Material) : m.equals m = true := by
  simp only [Material.equals, decide_true, Bool.and_self]

theorem survives_iff_of_tellsApart (m : Material) : Survives options m ↔ m.color = default := by
  constructor
  · rintro ⟨m', hread, -, hcolor⟩
    rw [read_write_material h] at hread
    cases hread
    exact hcolor.symm
  · intro hcolor
    have hm : { m with color := default } = m := by rw [← hcolor]
    exact ⟨m, hm ▸ read_write_material h m, m.equals_self, rfl⟩

end Read

theorem survivesRestart_iff (m : Material) : SurvivesRestart m ↔ m.color = default := by
  constructor
  · intro h
    obtain ⟨c', hread, hmaterial⟩ := h { (default : CrealityK1CConfiguration) with
      loadedMaterial := some m } rfl
    rw [read_write_configuration tellsApart_store] at hread
    cases hread
    rw [Option.map_some, Option.some_inj] at hmaterial
    exact (congrArg Material.color hmaterial).symm
  · intro hcolor c hmaterial
    refine ⟨_, read_write_configuration tellsApart_store c, ?_⟩
    rw [hmaterial, Option.map_some, ← hcolor]

/-- **Which materials survive**, in the configuration store, over a restart and in the web socket
server: those whose color is black and has no name. -/
theorem survivesAll_iff (m : Material) :
    (Survives JsonFileBasedMachineConfigurationStore.jsonOptions m ↔ m.color = default) ∧
      (SurvivesRestart m ↔ m.color = default) ∧
      (Survives WebSocketServer.jsonOptions m ↔ m.color = default) :=
  ⟨survives_iff_of_tellsApart tellsApart_store m, survivesRestart_iff m,
    survives_iff_of_tellsApart tellsApart_webSocket m⟩

/-- Red becomes black. -/
theorem survivesAll_fails : ∃ m : Material,
    ¬ Survives JsonFileBasedMachineConfigurationStore.jsonOptions m ∧
      ¬ Survives WebSocketServer.jsonOptions m ∧ ¬ SurvivesRestart m := by
  refine ⟨⟨some "PLA", ⟨⟨255, 0, 0⟩, some "Red"⟩, some "GFL99"⟩, ?_⟩
  rw [survives_iff_of_tellsApart tellsApart_store, survives_iff_of_tellsApart tellsApart_webSocket,
    survivesRestart_iff, and_self, and_self]
  decide

end Serialized

end Connect3Dp
