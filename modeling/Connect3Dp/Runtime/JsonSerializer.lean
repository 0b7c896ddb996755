import Connect3Dp.Runtime.Json

/-!
# Serializing objects

`JsonSerializer` writes every property of an object. It reads an object by creating one and
assigning what it reads to the properties with a setter; the others it ignores.

`JsonObjectInfo.read_write` says what becomes of an object that is written and read again: the
properties with a setter are copied into a new one.
-/

namespace Connect3Dp

/-! ### Names -/

/-- What `JsonNamingPolicy.CamelCase` does after the first character. -/
def camelCaseFrom : List Char → List Char
  | [] => []
  | [c] => if c.isUpper then [c.toLower] else [c]
  | c :: d :: cs =>
    if !c.isUpper then c :: d :: cs
    else if d.isUpper then c.toLower :: camelCaseFrom (d :: cs)
    else if d = ' ' then c.toLower :: d :: cs
    else c :: d :: cs

/-- `JsonNamingPolicy.CamelCase`, for a name in ASCII. -/
def camelCase (name : String) : String :=
  match name.toList with
  | [] => name
  | c :: cs => if c.isUpper then .ofList (c.toLower :: camelCaseFrom cs) else name

example : camelCase "FProfileIDX" = "fProfileIDX" := by decide +kernel

/-- `JsonSerializerOptions`. Without a naming policy, a name is written as it is. -/
structure JsonSerializerOptions where
  propertyNameCaseInsensitive : Bool
  propertyNamingPolicy : String → String

/-- The property is meant by the name of a member of a document. -/
def JsonSerializerOptions.isMeant (options : JsonSerializerOptions) (property member : String) :
    Bool :=
  if options.propertyNameCaseInsensitive then
    equalsIgnoreCase member (options.propertyNamingPolicy property)
  else member = options.propertyNamingPolicy property

theorem JsonSerializerOptions.isMeant_self (options : JsonSerializerOptions) (property : String) :
    options.isMeant property (options.propertyNamingPolicy property) = true := by
  rw [isMeant]
  split
  · exact decide_eq_true rfl
  · exact decide_eq_true rfl

/-! ### Converters -/

/-- How a type is written and read. -/
structure JsonConverter (T : Type) where
  write : T → JsonElement
  read : JsonElement → Except Fault T

namespace JsonConverter

/-- `string`. -/
def string : JsonConverter NetString where
  write
    | some s => .string s
    | none => .null
  read
    | .string s => .ok (some s)
    | .null => .ok none
    | _ => .error .json

/-- `byte`. -/
def byte : JsonConverter UInt8 where
  write b := .number ⟨some (.ofNat b.toNat), some (.ofNat b.toNat), .ofInt b.toNat⟩
  read
    | .number ⟨some n, _, _⟩ =>
      if 0 ≤ n ∧ n ≤ 255 then .ok (.ofNat n.toNatClampNeg) else .error .json
    | _ => .error .json

/-- `T?`, for a struct. -/
def nullable {T : Type} (converter : JsonConverter T) : JsonConverter (Option T) where
  write
    | some t => converter.write t
    | none => .null
  read
    | .null => .ok none
    | e => some <$> converter.read e

theorem read_write_string (s : NetString) : string.read (string.write s) = .ok s := by
  cases s with
  | none => rfl
  | some s => rfl

theorem read_write_nullable {T : Type} {converter : JsonConverter T} {t v : T}
    (hnull : converter.write t ≠ .null) (h : converter.read (converter.write t) = .ok v) :
    (nullable converter).read ((nullable converter).write (some t)) = .ok (some v) := by
  have hread : (nullable converter).read (converter.write t) =
      some <$> converter.read (converter.write t) := by
    rw [nullable]
    dsimp only
    split
    · rename_i hwrite
      exact absurd hwrite hnull
    · rfl
  exact hread.trans (congrArg (Functor.map some) h)

end JsonConverter

/-! ### Objects -/

/-- A public property: what is written for it, and its setter if it has one. -/
structure JsonProperty (T : Type) where
  name : String
  get : T → JsonElement
  set : Option (T → JsonElement → Except Fault T)

namespace JsonProperty

variable {T V : Type}

/-- `V Name { get; }`. -/
def readOnly (name : String) (converter : JsonConverter V) (get : T → V) : JsonProperty T :=
  ⟨name, fun t => converter.write (get t), none⟩

/-- `V Name { get; set; }`. -/
def readWrite (name : String) (converter : JsonConverter V) (get : T → V) (set : T → V → T) :
    JsonProperty T :=
  ⟨name, fun t => converter.write (get t), some fun t e => set t <$> converter.read e⟩

/-- A value is assigned to the property, if that is possible. -/
def assign (property : JsonProperty T) (t : T) (e : JsonElement) : Except Fault T :=
  match property.set with
  | some set => set t e
  | none => .ok t

/-- What can be assigned of `t` is copied. -/
def copyAll (properties : List (JsonProperty T)) (t copy : T) : Except Fault T :=
  properties.foldlM (fun copy p => p.assign copy (p.get t)) copy

/-- A property gets what its converter reads. -/
theorem copyAll_readWrite (name : String) {converter : JsonConverter V} {get : T → V}
    (set : T → V → T) (properties : List (JsonProperty T)) {t : T} (copy : T) {v : V}
    (h : converter.read (converter.write (get t)) = .ok v) :
    copyAll (readWrite name converter get set :: properties) t copy =
      copyAll properties t (set copy v) := by
  have hassign : (readWrite name converter get set).assign copy
      ((readWrite name converter get set).get t) = .ok (set copy v) :=
    congrArg (Functor.map (set copy)) h
  rw [copyAll, List.foldlM_cons, hassign]
  rfl

end JsonProperty

/-- What the serializer knows of a type: what its parameterless constructor creates, and its
properties. -/
structure JsonObjectInfo (T : Type) where
  create : T
  properties : List (JsonProperty T)

namespace JsonObjectInfo

variable {T : Type} (info : JsonObjectInfo T) (options : JsonSerializerOptions)

/-- A member of a document is read. -/
def readMember (t : T) (member : String × JsonElement) : Except Fault T :=
  match info.properties.find? fun p => options.isMeant p.name member.1 with
  | some property => property.assign t member.2
  | none => .ok t

/-- The converter of the type. -/
def converter : JsonConverter T where
  write t := .object (info.properties.map fun p => (options.propertyNamingPolicy p.name, p.get t))
  read
    | .object members => members.foldlM (info.readMember options) info.create
    | _ => .error .json

/-- No property is meant by the name of a later one. -/
abbrev Distinct : Prop :=
  (info.properties.map JsonProperty.name).Pairwise fun earlier later =>
    options.isMeant earlier (options.propertyNamingPolicy later) = false

variable {info options}

theorem find?_of_pairwise {properties : List (JsonProperty T)}
    (h : (properties.map JsonProperty.name).Pairwise fun earlier later =>
      options.isMeant earlier (options.propertyNamingPolicy later) = false)
    {property : JsonProperty T} (hproperty : property ∈ properties) :
    (properties.find? fun p =>
      options.isMeant p.name (options.propertyNamingPolicy property.name)) = some property := by
  induction properties with
  | nil => exact absurd hproperty List.not_mem_nil
  | cons first properties ih =>
    rw [List.map_cons, List.pairwise_cons] at h
    rw [List.find?_cons]
    obtain rfl | hmem := List.mem_cons.mp hproperty
    · rw [options.isMeant_self]
    · rw [h.1 _ (List.mem_map_of_mem hmem)]
      exact ih h.2 hmem

/-- **What is read of what was written**: a new object, with the properties that can be assigned. -/
theorem read_write (h : info.Distinct options) (t : T) :
    (info.converter options).read ((info.converter options).write t) =
      JsonProperty.copyAll info.properties t info.create := by
  have hmembers : ∀ (properties : List (JsonProperty T)) (copy : T),
      properties ⊆ info.properties →
      (properties.map fun p => (options.propertyNamingPolicy p.name, p.get t)).foldlM
          (info.readMember options) copy =
        JsonProperty.copyAll properties t copy := by
    intro properties
    induction properties with
    | nil => exact fun _ _ => rfl
    | cons p properties ih =>
      intro copy hsubset
      have hmeant := find?_of_pairwise h (hsubset List.mem_cons_self)
      rw [List.map_cons, JsonProperty.copyAll, List.foldlM_cons, List.foldlM_cons, readMember,
        hmeant]
      congr 1
      funext copy'
      exact ih copy' fun q hq => hsubset (List.mem_cons_of_mem p hq)
  exact hmembers _ _ (List.Subset.refl _)

end JsonObjectInfo

end Connect3Dp
