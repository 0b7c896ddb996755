import Connect3Dp.Connectors.BambuLabMessages
import Connect3Dp.Runtime.KeyValueMessage

/-!
# The `Try` helpers

Ten helpers read a value from a JSON document: at the end of a path of properties, or behind one
name and leniently, from a string too. They are built on readers that raise on another kind of
value, and not each of them looks at the kind first. What a helper returns true for is there and of
its kind; whether it raises depends on the values it meets (`tries_iff`).

A duration is one of the lenient values. A string of digits is read as a `TimeSpan` first, which
makes it a number of days (`durationsAgree_iff`).
-/

namespace Connect3Dp

namespace JsonElement

/-! ### Paths -/

open BambuLab (tryGetPropertyChain)

/-- The value at the end of a path. -/
def follow : JsonElement → List String → Option JsonElement
  | e, [] => some e
  | object properties, name :: path =>
    (properties.reverse.lookup name).bind fun e => e.follow path
  | _, _ :: _ => none

/-- A path that meets no other value than objects before its end, or before a property that is
missing. -/
def Walks : JsonElement → List String → Prop
  | _, [] => True
  | object properties, name :: path =>
    ∀ e, properties.reverse.lookup name = some e → e.Walks path
  | _, _ :: _ => False

/-- **A path** is followed without an exception just when it walks. -/
theorem tryGetPropertyChain_eq (e : JsonElement) (path : List String) :
    (e.Walks path ∧ tryGetPropertyChain e path = .ok (e.follow path)) ∨
      (¬ e.Walks path ∧ tryGetPropertyChain e path = .error .invalidOperation) := by
  induction path generalizing e with
  | nil =>
    refine .inl ⟨?_, ?_⟩
    · cases e <;> trivial
    · cases e <;> rfl
  | cons name path ih =>
    cases e with
    | object properties =>
      rw [tryGetPropertyChain, tryGetProperty, ok_bind, Walks, follow]
      cases properties.reverse.lookup name with
      | none =>
        refine .inl ⟨fun e he => ?_, rfl⟩
        cases he
      | some result =>
        refine (ih result).imp (fun h => ⟨?_, h.2⟩) fun h => ⟨fun hwalks => ?_, h.2⟩
        · rintro _ ⟨⟩
          exact h.1
        · exact h.1 (hwalks result rfl)
    | null => exact .inr ⟨id, rfl⟩
    | boolean => exact .inr ⟨id, rfl⟩
    | number => exact .inr ⟨id, rfl⟩
    | string => exact .inr ⟨id, rfl⟩
    | array => exact .inr ⟨id, rfl⟩

/-- **What is read at the end of a path** is read without an exception just when the path walks
and the value at its end, if there is one, can be read. -/
theorem tryGetPropertyChain_bind_eq_ok_iff {α : Type} {e : JsonElement} {path : List String}
    {read : Option JsonElement → Except Fault α} {a : α} :
    tryGetPropertyChain e path >>= read = .ok a ↔
      e.Walks path ∧ read (e.follow path) = .ok a := by
  obtain ⟨hwalks, hchain⟩ | ⟨hwalks, hchain⟩ := tryGetPropertyChain_eq e path
  · rw [hchain, ok_bind, and_iff_right hwalks]
  · rw [hchain]
    refine iff_of_false ?_ fun h => hwalks h.1
    rintro ⟨⟩

/-- A value at the end of a path, read by the kind it has. -/
def readPath {α : Type} (e : JsonElement) (propertyPath : List String)
    (read : JsonElement → Except Fault (Option α)) : Except Fault (Option α) := do
  match ← tryGetPropertyChain e propertyPath with
  | some result => read result
  | none => return none

def readInt32 : JsonElement → Except Fault (Option Int32)
  | number n => .ok n.int32
  | _ => .ok none

def readString (result : JsonElement) : Except Fault (Option String) := do
  match ← result.getString with
  | none => throw .nullReference
  | some value => return if trim value = "" then none else some (trim value)

def readBoolean : JsonElement → Except Fault (Option Bool)
  | boolean value => .ok (some value)
  | _ => .ok none

def readDouble : JsonElement → Except Fault (Option Double)
  | number n => .ok (some n.double)
  | _ => .ok none

/-- The extension method `TryGetInt32(out value, propertyPath)`. -/
def tryGetInt32Path (e : JsonElement) (propertyPath : List String) :
    Except Fault (Option Int32) := e.readPath propertyPath readInt32

/-- The extension method `TryGetString(out value, propertyPath)`. -/
def tryGetStringPath (e : JsonElement) (propertyPath : List String) :
    Except Fault (Option String) := e.readPath propertyPath readString

/-- The extension method `TryGetBoolean(out value, propertyPath)`. -/
def tryGetBooleanPath (e : JsonElement) (propertyPath : List String) :
    Except Fault (Option Bool) := e.readPath propertyPath readBoolean

/-- The extension method `TryGetDouble(out value, propertyPath)`. -/
def tryGetDoublePath (e : JsonElement) (propertyPath : List String) :
    Except Fault (Option Double) := e.readPath propertyPath readDouble

/-- What `TryGetStringValue` reads of the property. -/
def readStringValue (p : JsonElement) : Except Fault (Option String) := do
  let value ← p.getString
  return if isNullOrEmpty value then none else value

/-- What `TryGetDurationLenient` reads of the property. -/
def readDuration (host : Host) : JsonElement → Except Fault (Option TimeSpan)
  | string s =>
    match if s = "" then none else host.parseTimeSpan s with
    | some t => .ok (some t)
    | none => .ok ((host.parseInt32 s).map .fromWholeSeconds)
  | p => do
    match ← p.tryGetInt32 with
    | some n => return some (.fromWholeSeconds n)
    | none => some <$> TimeSpan.fromSeconds (← p.getDouble)

/-- A path of one name is that property. -/
theorem readPath_singleton {α : Type} (e : JsonElement) (name : String)
    (read : JsonElement → Except Fault (Option α)) :
    e.readPath [name] read = e.readOr name none read := by
  rw [readPath, readOr]
  cases e with
  | object properties =>
    rw [tryGetPropertyChain, tryGetProperty, ok_bind, ok_bind]
    cases properties.reverse.lookup name <;> rfl
  | null => rfl
  | boolean => rfl
  | number => rfl
  | string => rfl
  | array => rfl

/-- With one name the helpers are those that the connectors call. -/
theorem paths_singleton (e : JsonElement) (name : String) :
    e.tryGetInt32Path [name] = BambuLab.tryGetInt32 e name ∧
    e.tryGetStringPath [name] = BambuLab.tryGetString e name ∧
    e.tryGetBooleanPath [name] = BambuLab.tryGetBoolean e name ∧
    e.tryGetDoublePath [name] = BambuLab.tryGetDouble e name := by
  rw [tryGetInt32Path, tryGetStringPath, tryGetBooleanPath, tryGetDoublePath, readPath_singleton,
    readPath_singleton, readPath_singleton, readPath_singleton, BambuLab.tryGetInt32,
    BambuLab.tryGetString, BambuLab.tryGetBoolean, BambuLab.tryGetDouble]
  cases hproperty : e.tryGetProperty name with
  | error f => simp only [readOr, hproperty]; exact ⟨rfl, rfl, rfl, rfl⟩
  | ok o =>
    simp only [readOr, hproperty]
    cases o with
    | none => exact ⟨rfl, rfl, rfl, rfl⟩
    | some value => cases value <;> exact ⟨rfl, rfl, rfl, rfl⟩

end JsonElement

/-! ### The helpers -/

/-- A helper with what it is called with. -/
inductive TryHelper
  | propertyChain (propertyPath : List String)
  | int32 (propertyPath : List String)
  | string (propertyPath : List String)
  | boolean (propertyPath : List String)
  | double (propertyPath : List String)
  | stringValue (name : String)
  | int32Lenient (name : String)
  | int64Lenient (name : String)
  | doubleLenient (name : String)
  | durationLenient (name : String)

namespace TryHelper

variable (host : Host)

/-- Whether the helper returns true. -/
def returns : TryHelper → JsonElement → Except Fault Bool
  | propertyChain propertyPath, e => (·.isSome) <$> BambuLab.tryGetPropertyChain e propertyPath
  | int32 propertyPath, e => (·.isSome) <$> e.tryGetInt32Path propertyPath
  | string propertyPath, e => (·.isSome) <$> e.tryGetStringPath propertyPath
  | boolean propertyPath, e => (·.isSome) <$> e.tryGetBooleanPath propertyPath
  | double propertyPath, e => (·.isSome) <$> e.tryGetDoublePath propertyPath
  | stringValue name, e => (·.isSome) <$> e.tryGetStringValue name
  | int32Lenient name, e => (·.isSome) <$> e.tryGetInt32Lenient host name
  | int64Lenient name, e => (·.isSome) <$> e.tryGetInt64Lenient host name
  | doubleLenient name, e => (·.isSome) <$> e.tryGetDoubleLenient host name
  | durationLenient name, e => (·.isSome) <$> e.tryGetDurationLenient host name

/-- The path of properties to the value. -/
def path : TryHelper → List String
  | propertyChain propertyPath | int32 propertyPath | string propertyPath
  | boolean propertyPath | double propertyPath => propertyPath
  | stringValue name | int32Lenient name | int64Lenient name
  | doubleLenient name | durationLenient name => [name]

/-- The value has the kind that the helper is for, or is a string that parses as it. -/
def HasKind : TryHelper → JsonElement → Prop
  | propertyChain _, _ => True
  | int32 _, value => ∃ n i, value = .number n ∧ n.int32 = some i
  | string _, value => ∃ s, value = .string s
  | boolean _, value => ∃ b, value = .boolean b
  | double _, value => ∃ n, value = .number n
  | stringValue _, value => ∃ s, value = .string s
  | int32Lenient _, value => (∃ n i, value = .number n ∧ n.int32 = some i) ∨
      ∃ s i, value = .string s ∧ host.parseInt32 s = some i
  | int64Lenient _, value => (∃ n i, value = .number n ∧ n.int64 = some i) ∨
      ∃ s i, value = .string s ∧ host.parseInt64 s = some i
  | doubleLenient _, value => (∃ n, value = .number n) ∨
      ∃ s d, value = .string s ∧ host.parseDouble s = some d
  | durationLenient _, value => (∃ n, value = .number n) ∨
      ∃ s, value = .string s ∧
        ((∃ t, host.parseTimeSpan s = some t) ∨ ∃ i, host.parseInt32 s = some i)

/-- The helper does not raise, and it returns true only if each step of the path exists in an
object and the value behind it has the kind. -/
structure Tries (h : TryHelper) (e : JsonElement) : Prop where
  returns : ∃ b, h.returns host e = .ok b
  hasKind : h.returns host e = .ok true → ∃ value, e.follow h.path = some value ∧
    h.HasKind host value

/-- The value is one that the helper does not raise on. -/
def Accepts : TryHelper → JsonElement → Prop
  | propertyChain _, _ | int32 _, _ | boolean _, _ | double _, _ => True
  | string _, value => ∃ s, value = .string s
  | stringValue _, value => value = .null ∨ ∃ s, value = .string s
  | int32Lenient _, value => (∃ n, value = .number n) ∨
      ∃ s i, value = .string s ∧ host.parseInt32 s = some i
  | int64Lenient _, value => (∃ n, value = .number n) ∨
      ∃ s i, value = .string s ∧ host.parseInt64 s = some i
  | doubleLenient _, value => (∃ n, value = .number n) ∨
      ∃ s d, value = .string s ∧ host.parseDouble s = some d
  | durationLenient _, value => (∃ s, value = .string s) ∨
      ∃ n, value = .number n ∧ (n.int32 = none → ∃ t, TimeSpan.fromSeconds n.double = .ok t)

/-- What the helper makes of the value behind the path. -/
def readValue : TryHelper → JsonElement → Except Fault Bool
  | propertyChain _, _ => .ok true
  | int32 _, value => (·.isSome) <$> value.readInt32
  | string _, value => (·.isSome) <$> value.readString
  | boolean _, value => (·.isSome) <$> value.readBoolean
  | double _, value => (·.isSome) <$> value.readDouble
  | stringValue _, value => (·.isSome) <$> value.readStringValue
  | int32Lenient _, value =>
    (·.isSome) <$> value.readLenient host.parseInt32 JsonElement.tryGetInt32
  | int64Lenient _, value =>
    (·.isSome) <$> value.readLenient host.parseInt64 JsonElement.tryGetInt64
  | doubleLenient _, value =>
    (·.isSome) <$> value.readLenient host.parseDouble fun p => some <$> p.getDouble
  | durationLenient _, value => (·.isSome) <$> value.readDuration host

variable {host}

theorem map_readPath {α : Type} (e : JsonElement) (path : List String)
    (read : JsonElement → Except Fault (Option α)) :
    (·.isSome) <$> e.readPath path read = (do
      match ← BambuLab.tryGetPropertyChain e path with
      | some value => (·.isSome) <$> read value
      | none => return false) := by
  rw [JsonElement.readPath]
  cases BambuLab.tryGetPropertyChain e path with
  | error f => rfl
  | ok o => cases o <;> rfl

/-- **Each helper** follows its path and reads the value behind it. -/
theorem returns_eq (h : TryHelper) (e : JsonElement) :
    h.returns host e = (do
      match ← BambuLab.tryGetPropertyChain e h.path with
      | some value => h.readValue host value
      | none => return false) := by
  have hname (name : String) {α : Type} (read : JsonElement → Except Fault (Option α)) :
      (·.isSome) <$> e.readOr name none read = (do
        match ← BambuLab.tryGetPropertyChain e [name] with
        | some value => (·.isSome) <$> read value
        | none => return false) := by
    rw [← JsonElement.readPath_singleton, map_readPath]
  cases h with
  | propertyChain propertyPath =>
    rw [returns, path]
    cases BambuLab.tryGetPropertyChain e propertyPath with
    | error f => rfl
    | ok o => cases o <;> rfl
  | int32 propertyPath => exact map_readPath e propertyPath JsonElement.readInt32
  | string propertyPath => exact map_readPath e propertyPath JsonElement.readString
  | boolean propertyPath => exact map_readPath e propertyPath JsonElement.readBoolean
  | double propertyPath => exact map_readPath e propertyPath JsonElement.readDouble
  | stringValue name => exact hname name _
  | int32Lenient name => exact hname name _
  | int64Lenient name => exact hname name _
  | doubleLenient name => exact hname name _
  | durationLenient name => exact hname name _

/-- A lenient reader takes a number, or a string that parses. -/
theorem exists_readLenient_iff {α : Type} {parse : String → Option α}
    {read : JsonElement → Except Fault (Option α)} {value : JsonElement}
    (hread : ∀ v, (∃ o, read v = .ok o) ↔ ∃ n, v = .number n) :
    (∃ b, (·.isSome) <$> value.readLenient parse read = .ok b) ↔
      (∃ n, value = .number n) ∨ ∃ s a, value = .string s ∧ parse s = some a := by
  have hmap : (∃ b, (·.isSome) <$> value.readLenient parse read = .ok b) ↔
      ∃ o, value.readLenient parse read = .ok o := by
    simp only [map_eq_ok_iff]
    exact ⟨fun ⟨_, o, ho, _⟩ => ⟨o, ho⟩, fun ⟨o, ho⟩ => ⟨_, o, ho, rfl⟩⟩
  rw [hmap]
  cases value with
  | string s =>
    rw [JsonElement.readLenient]
    cases hparse : parse s with
    | some a => exact iff_of_true ⟨_, rfl⟩ (.inr ⟨s, a, rfl, hparse⟩)
    | none =>
      refine (hread (.string s)).trans ⟨fun ⟨n, hn⟩ => .inl ⟨n, hn⟩, ?_⟩
      rintro (hn | ⟨s', a, hs, ha⟩)
      · exact hn
      · cases hs
        rw [hparse] at ha
        cases ha
  | null => exact (hread _).trans (by simp)
  | boolean b => exact (hread _).trans (by simp)
  | number n => exact (hread _).trans (by simp)
  | array elements => exact (hread _).trans (by simp)
  | object properties => exact (hread _).trans (by simp)

/-- What a lenient reader returns a value for. -/
theorem of_readLenient_eq_true {α : Type} {parse : String → Option α}
    {read : JsonElement → Except Fault (Option α)} {value : JsonElement}
    (h : (·.isSome) <$> value.readLenient parse read = .ok true) :
    (∃ a, read value = .ok (some a)) ∨ ∃ s a, value = .string s ∧ parse s = some a := by
  obtain ⟨o, ho, hsome⟩ := map_eq_ok_iff.mp h
  obtain ⟨a, rfl⟩ := Option.isSome_iff_exists.mp hsome
  cases value with
  | string s =>
    rw [JsonElement.readLenient] at ho
    cases hparse : parse s with
    | some a' => exact .inr ⟨s, a', rfl, hparse⟩
    | none =>
      rw [hparse] at ho
      exact .inl ⟨a, ho⟩
  | null => exact .inl ⟨a, ho⟩
  | boolean b => exact .inl ⟨a, ho⟩
  | number n => exact .inl ⟨a, ho⟩
  | array elements => exact .inl ⟨a, ho⟩
  | object properties => exact .inl ⟨a, ho⟩

/-- A duration is a string, or a number of seconds in range. -/
theorem exists_readDuration_iff {value : JsonElement} :
    (∃ b, (·.isSome) <$> value.readDuration host = .ok b) ↔
      (∃ s, value = .string s) ∨
        ∃ n, value = .number n ∧ (n.int32 = none → ∃ t, TimeSpan.fromSeconds n.double = .ok t) := by
  cases value with
  | string s =>
    refine iff_of_true ?_ (.inl ⟨s, rfl⟩)
    rw [JsonElement.readDuration]
    cases (if s = "" then none else host.parseTimeSpan s) with
    | some t => exact ⟨_, rfl⟩
    | none => exact ⟨_, rfl⟩
  | number n =>
    have hread : (JsonElement.number n).readDuration host = (match n.int32 with
        | some i => .ok (some (.fromWholeSeconds i))
        | none => some <$> TimeSpan.fromSeconds n.double) := by
      rw [JsonElement.readDuration, JsonElement.tryGetInt32, ok_bind]
      · cases n.int32 <;> rfl
      · rintro s ⟨⟩
    rw [hread]
    cases hint : n.int32 with
    | some i =>
      refine iff_of_true ⟨true, rfl⟩ (.inr ⟨n, rfl, fun h => ?_⟩)
      rw [hint] at h
      cases h
    | none =>
      constructor
      · rintro ⟨b, hb⟩
        obtain ⟨o, ho, -⟩ := map_eq_ok_iff.mp hb
        obtain ⟨t, ht, -⟩ := map_eq_ok_iff.mp ho
        exact .inr ⟨n, rfl, fun _ => ⟨t, ht⟩⟩
      · rintro (⟨s, ⟨⟩⟩ | ⟨_, ⟨⟩, h⟩)
        obtain ⟨t, ht⟩ := h hint
        exact ⟨true, by rw [ht]; rfl⟩
  | null | boolean | array | object =>
    refine iff_of_false ?_ ?_
    · rintro ⟨b, ⟨⟩⟩
    · rintro (⟨s, ⟨⟩⟩ | ⟨n, ⟨⟩, -⟩)

theorem exists_readValue_iff (h : TryHelper) (value : JsonElement) :
    (∃ b, h.readValue host value = .ok b) ↔ h.Accepts host value := by
  cases h with
  | propertyChain => exact iff_of_true ⟨true, rfl⟩ trivial
  | int32 => cases value <;> exact iff_of_true ⟨_, rfl⟩ trivial
  | string =>
    cases value with
    | string s => exact iff_of_true ⟨_, rfl⟩ ⟨s, rfl⟩
    | null | boolean | number | array | object =>
      refine iff_of_false ?_ ?_
      · rintro ⟨b, ⟨⟩⟩
      · rintro ⟨s, ⟨⟩⟩
  | boolean => cases value <;> exact iff_of_true ⟨_, rfl⟩ trivial
  | double => cases value <;> exact iff_of_true ⟨_, rfl⟩ trivial
  | stringValue =>
    cases value with
    | string s => exact iff_of_true ⟨_, rfl⟩ (.inr ⟨s, rfl⟩)
    | null => exact iff_of_true ⟨_, rfl⟩ (.inl rfl)
    | boolean | number | array | object =>
      refine iff_of_false ?_ ?_
      · rintro ⟨b, ⟨⟩⟩
      · rintro (⟨⟨⟩⟩ | ⟨s, ⟨⟩⟩)
  | int32Lenient =>
    refine exists_readLenient_iff fun v => ?_
    cases v <;> simp [JsonElement.tryGetInt32]
  | int64Lenient =>
    refine exists_readLenient_iff fun v => ?_
    cases v <;> simp [JsonElement.tryGetInt64]
  | doubleLenient =>
    refine exists_readLenient_iff fun v => ?_
    simp only [map_eq_ok_iff]
    cases v <;> simp [JsonElement.getDouble]
  | durationLenient => exact exists_readDuration_iff

/-- A duration that is read is a number, or a string that parses. -/
theorem of_readDuration_eq_true {value : JsonElement}
    (h : (·.isSome) <$> value.readDuration host = .ok true) :
    (∃ n, value = .number n) ∨ ∃ s, value = .string s ∧
      ((∃ t, host.parseTimeSpan s = some t) ∨ ∃ i, host.parseInt32 s = some i) := by
  cases value with
  | number n => exact .inl ⟨n, rfl⟩
  | string s =>
    refine .inr ⟨s, rfl, ?_⟩
    have hint (h : ((host.parseInt32 s).map TimeSpan.fromWholeSeconds).isSome = true) :
        ∃ i, host.parseInt32 s = some i := by
      rw [Option.isSome_map] at h
      exact Option.isSome_iff_exists.mp h
    rw [JsonElement.readDuration] at h
    by_cases hempty : s = ""
    · rw [if_pos hempty] at h
      exact .inr (hint (Except.ok.inj h))
    · rw [if_neg hempty] at h
      cases hspan : host.parseTimeSpan s with
      | some t => exact .inl ⟨t, rfl⟩
      | none =>
        rw [hspan] at h
        exact .inr (hint (Except.ok.inj h))
  | null | boolean | array | object => cases h

/-- **What a helper returns true for** has the kind. -/
theorem hasKind_of_readValue {h : TryHelper} {value : JsonElement}
    (hread : h.readValue host value = .ok true) : h.HasKind host value := by
  cases h with
  | propertyChain => trivial
  | int32 =>
    cases value with
    | number n =>
      obtain ⟨i, hi⟩ := Option.isSome_iff_exists.mp (Except.ok.inj hread)
      exact ⟨n, i, rfl, hi⟩
    | null | boolean | string | array | object => cases hread
  | string =>
    cases value with
    | string s => exact ⟨s, rfl⟩
    | null | boolean | number | array | object => cases hread
  | boolean =>
    cases value with
    | boolean b => exact ⟨b, rfl⟩
    | null | string | number | array | object => cases hread
  | double =>
    cases value with
    | number n => exact ⟨n, rfl⟩
    | null | string | boolean | array | object => cases hread
  | stringValue =>
    cases value with
    | string s => exact ⟨s, rfl⟩
    | null | boolean | number | array | object => cases hread
  | int32Lenient =>
    refine (of_readLenient_eq_true hread).imp_left ?_
    rintro ⟨i, hi⟩
    cases value with
    | number n => exact ⟨n, i, rfl, Except.ok.inj hi⟩
    | null | boolean | string | array | object => cases hi
  | int64Lenient =>
    refine (of_readLenient_eq_true hread).imp_left ?_
    rintro ⟨i, hi⟩
    cases value with
    | number n => exact ⟨n, i, rfl, Except.ok.inj hi⟩
    | null | boolean | string | array | object => cases hi
  | doubleLenient =>
    refine (of_readLenient_eq_true hread).imp_left ?_
    rintro ⟨d, hd⟩
    cases value with
    | number n => exact ⟨n, rfl⟩
    | null | boolean | string | array | object => cases hd
  | durationLenient => exact of_readDuration_eq_true hread

/-- **A helper really tries** just when its path meets no value that is not an object, and the value
behind the path, if there is one, is one that the helper does not raise on. -/
theorem tries_iff (host : Host) (h : TryHelper) (e : JsonElement) :
    h.Tries host e ↔
      e.Walks h.path ∧ ∀ value, e.follow h.path = some value → h.Accepts host value := by
  have hreturns (b : Bool) : h.returns host e = .ok b ↔ e.Walks h.path ∧
      (match e.follow h.path with
      | some value => h.readValue host value
      | none => .ok false) = .ok b := by
    rw [returns_eq, JsonElement.tryGetPropertyChain_bind_eq_ok_iff]
    rfl
  have hkind (htrue : h.returns host e = .ok true) :
      ∃ value, e.follow h.path = some value ∧ h.HasKind host value := by
    obtain ⟨-, hread⟩ := (hreturns true).mp htrue
    cases hfollow : e.follow h.path with
    | none =>
      rw [hfollow] at hread
      cases hread
    | some value =>
      rw [hfollow] at hread
      exact ⟨value, rfl, hasKind_of_readValue hread⟩
  constructor
  · rintro ⟨⟨b, hb⟩, -⟩
    obtain ⟨hwalks, hread⟩ := (hreturns b).mp hb
    refine ⟨hwalks, fun value hvalue => (exists_readValue_iff h value).mp ⟨b, ?_⟩⟩
    rw [hvalue] at hread
    exact hread
  · rintro ⟨hwalks, haccepts⟩
    refine ⟨?_, hkind⟩
    cases hfollow : e.follow h.path with
    | none => exact ⟨false, (hreturns false).mpr ⟨hwalks, by rw [hfollow]⟩⟩
    | some value =>
      obtain ⟨b, hb⟩ := (exists_readValue_iff h value).mpr (haccepts value hfollow)
      exact ⟨b, (hreturns b).mpr ⟨hwalks, by rw [hfollow]; exact hb⟩⟩

/-- A string that is null makes `TryGetString` raise. -/
theorem tries_fails : ¬ ∀ (host : Host) (h : TryHelper) (e : JsonElement), h.Tries host e := by
  intro hall
  obtain ⟨⟨b, hb⟩, -⟩ := hall default (string ["name"]) (.object [("name", .null)])
  cases hb

end TryHelper

/-! ### Durations -/

namespace TimeSpan

def ticksPerDay : ℤ := 864000000000

/-- The time span of a number of seconds. -/
def ofSeconds (n : ℕ) : TimeSpan := ⟨.ofInt (n * ticksPerSecond)⟩

/-- The time span of a number of days. -/
def ofDays (n : ℕ) : TimeSpan := ⟨.ofInt (n * ticksPerDay)⟩

theorem fromWholeSeconds_ofNat {n : ℕ} (hn : n < 2 ^ 31) :
    fromWholeSeconds (.ofNat n) = ofSeconds n := by
  rw [fromWholeSeconds, ofSeconds, Int32.toInt_ofNat_of_lt hn]

/-- A number of days is that number of seconds only if there are none. -/
theorem ofDays_eq_ofSeconds_iff {n : ℕ} (hn : n * ticksPerDay < 2 ^ 63) :
    ofDays n = ofSeconds n ↔ n = 0 := by
  constructor
  · intro h
    have hticks := congrArg (·.ticks.toInt) h
    rw [ticksPerDay] at hn
    dsimp only [ofDays, ofSeconds, ticksPerDay, ticksPerSecond] at hticks
    rw [Int64.toInt_ofInt_of_le (by omega) (by omega),
      Int64.toInt_ofInt_of_le (by omega) (by omega)] at hticks
    omega
  · rintro rfl
    rfl

end TimeSpan

/-- `TimeSpan.TryParse` reads a plain number as days if it is in range, and `int.TryParse` reads it
as itself. -/
structure Host.ReadsDecimals (host : Host) : Prop where
  parseTimeSpan : ∀ d : ℕ, host.parseTimeSpan (toString d) =
    if d * TimeSpan.ticksPerDay < 2 ^ 63 then some (.ofDays d) else none
  parseInt32 : ∀ n < 2 ^ 31, host.parseInt32 (toString n) = some (.ofNat n)

namespace JsonElement

variable {host : Host} {e : JsonElement} {name : String} {n : ℕ}

/-- A number of seconds is read as such. -/
theorem tryGetDurationLenient_number {value : JsonNumber} (hn : n < 2 ^ 31)
    (he : e.tryGetProperty name = .ok (some (.number value)))
    (hvalue : value.int32 = some (.ofNat n)) :
    e.tryGetDurationLenient host name = .ok (some (.ofSeconds n)) := by
  rw [tryGetDurationLenient, readOr, he, ok_bind]
  dsimp only
  rw [tryGetInt32, hvalue, ok_bind]
  dsimp only
  rw [TimeSpan.fromWholeSeconds_ofNat hn]
  rfl

/-- **A string of digits** is read as a number of days while these are in range. -/
theorem tryGetDurationLenient_string (hhost : host.ReadsDecimals) (hn : n < 2 ^ 31)
    (he : e.tryGetProperty name = .ok (some (.string (toString n)))) :
    e.tryGetDurationLenient host name =
      .ok (some (if n * TimeSpan.ticksPerDay < 2 ^ 63 then .ofDays n else .ofSeconds n)) := by
  have hne : toString n ≠ "" := by
    intro h
    have hlist : (toString n).toList = [] := h ▸ rfl
    rw [Nat.toString_eq_repr, Nat.toList_repr] at hlist
    exact Nat.toDigits_ne_nil hlist
  rw [tryGetDurationLenient, readOr, he, ok_bind]
  dsimp only
  rw [if_neg hne, hhost.parseTimeSpan]
  by_cases hdays : n * TimeSpan.ticksPerDay < 2 ^ 63
  · rw [if_pos hdays, if_pos hdays]
  · rw [if_neg hdays, if_neg hdays, hhost.parseInt32 n hn, Option.map_some,
      TimeSpan.fromWholeSeconds_ofNat hn]

/-- The property means the same number of seconds as a number and as a string. -/
structure DurationsAgree (host : Host) (name : String) (n : ℕ) (e e' : JsonElement) : Prop where
  number : e.tryGetDurationLenient host name = .ok (some (.ofSeconds n))
  string : e'.tryGetDurationLenient host name = .ok (some (.ofSeconds n))

/-- **A duration means the same in either encoding** just when it is zero, or so long that its
number of seconds is out of range as a number of days. -/
theorem durationsAgree_iff {e' : JsonElement} {value : JsonNumber} (hhost : host.ReadsDecimals)
    (hn : n < 2 ^ 31) (he : e.tryGetProperty name = .ok (some (.number value)))
    (hvalue : value.int32 = some (.ofNat n))
    (he' : e'.tryGetProperty name = .ok (some (.string (toString n)))) :
    DurationsAgree host name n e e' ↔ n = 0 ∨ 10675199 < n := by
  have hdays : n * TimeSpan.ticksPerDay < 2 ^ 63 ↔ n ≤ 10675199 := by
    rw [TimeSpan.ticksPerDay]
    omega
  have hagree : DurationsAgree host name n e e' ↔
      e'.tryGetDurationLenient host name = .ok (some (.ofSeconds n)) :=
    ⟨DurationsAgree.string, fun h => ⟨tryGetDurationLenient_number hn he hvalue, h⟩⟩
  rw [hagree, tryGetDurationLenient_string hhost hn he']
  by_cases h : n * TimeSpan.ticksPerDay < 2 ^ 63
  · rw [if_pos h, Except.ok.injEq, Option.some.injEq, TimeSpan.ofDays_eq_ofSeconds_iff h]
    exact (or_iff_left (hdays.mp h).not_gt).symm
  · rw [if_neg h]
    exact iff_of_true rfl (.inr (not_le.mp (mt hdays.mpr h)))

/-- `TimeSpan.TryParse`, of a text of digits. -/
private def parseDays (s : String) : Option TimeSpan :=
  let d := Nat.ofDigitChars 10 s.toList 0
  if s.toList.all Char.isDigit ∧ d * TimeSpan.ticksPerDay < 2 ^ 63 then some (.ofDays d) else none

private def dayHost : Host :=
  { (default : Host) with
    parseInt32 := parseDecimal
    parseTimeSpan := parseDays }

private theorem readsDecimals_dayHost : dayHost.ReadsDecimals where
  parseTimeSpan d := by
    have hdigits : (Nat.toDigits 10 d).all Char.isDigit = true :=
      List.all_eq_true.mpr fun _ => isDigit_of_mem_toDigits
    change parseDays (toString d) = _
    rw [parseDays, Nat.toString_eq_repr, Nat.toList_repr, Nat.ofDigitChars_ten_toDigits,
      hdigits]
    simp only [true_and]
  parseInt32 n hn := by
    have hint := parseDecimal_toString (.ofNat n)
    rw [Int32.toInt_ofNat_of_lt hn] at hint
    exact hint

private def asNumber (n : ℕ) : JsonElement :=
  .object [("printLeftTime", .number ⟨some (.ofNat n), some (.ofNat n), .finite n⟩)]

private def asString (n : ℕ) : JsonElement := .object [("printLeftTime", .string (toString n))]

/-- A time that is left of more than 123 days. -/
theorem durationsAgree_iff_long :
    DurationsAgree dayHost "printLeftTime" 10675200 (asNumber 10675200) (asString 10675200) :=
  (durationsAgree_iff readsDecimals_dayHost (by decide) rfl rfl rfl).mpr (.inr (by decide))

/-- A minute in a string is sixty days. -/
theorem durationsAgree_fails :
    ¬ ∀ (host : Host) (name : String) (n : ℕ) (e e' : JsonElement) (value : JsonNumber),
      host.ReadsDecimals → n < 2 ^ 31 → e.tryGetProperty name = .ok (some (.number value)) →
        value.int32 = some (.ofNat n) →
          e'.tryGetProperty name = .ok (some (.string (toString n))) →
            DurationsAgree host name n e e' := by
  intro hall
  have hstring := (hall dayHost "printLeftTime" 60 (asNumber 60) (asString 60) _
    readsDecimals_dayHost (by decide) rfl rfl rfl).string
  rw [tryGetDurationLenient_string readsDecimals_dayHost (by decide) rfl] at hstring
  exact absurd hstring (by decide)

end JsonElement

end Connect3Dp
