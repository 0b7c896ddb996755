import Connect3Dp.Builder.Buffers

/-!
# The emitted method `Changes`

For a class the generator emits a builder, and in it a method `Changes` that says what the builder
would change. The method goes over the properties of the class one after another: for each it
declares local variables and fills them from the buffer of the property and the value that the
property has. At its end the local variables become a change record.

The emitted statements are a small language (`Statement`), and running them is a function from the
buffers and values of the properties to the local variables. What a block leaves in its variables is
the change record of the buffer of its property (`exec_dictionaryBody`, `exec_setBody`,
`exec_nestedBody`, `exec_valueBody`). No other block writes them, so this is also what `run` ends
with (`exists_run_eq`).
-/

namespace Connect3Dp

namespace Generator

/-! ### What the generator reads -/

/-- `ClassOrStructureToUse`, of a type that has a builder. -/
structure UpdaterToUse where
  changesName : String
  isStruct : Bool
  /-- `DictKeyProp`, the property that holds the key under which an entry is kept. -/
  dictKeyProp : Option String
  deriving DecidableEq

/-- `TypeToUse`, of the values of a collection. -/
structure ElementType where
  text : String
  updater : Option UpdaterToUse

/-- `TypeToUse`. The fields are what `TryIfDictionary`, `TryIfSet` and `TryIfUpdater` give. -/
structure TypeToUse extends ElementType where
  dictionary : Option (String × ElementType)
  set : Option ElementType

structure PropertyToUse where
  name : String
  type : TypeToUse
  isInitOnly : Bool

/-- `ClassOrStructureToUse`. No two properties of a class have the same name. -/
structure ClassOrStructureToUse where
  changesName : String
  properties : List PropertyToUse
  distinct : (properties.map PropertyToUse.name).Nodup

/-- `p.Type.ToString().TrimEnd('?') + "?"`. -/
def nullableType (type : TypeToUse) : String :=
  .ofList (type.text.toList.reverse.dropWhile (· = '?')).reverse ++ "?"

/-- The type of the values of `Updated`. -/
def updatedValueType (value : ElementType) : String :=
  match value.updater with
  | some updater => updater.changesName
  | none => value.text

inductive ChangeRole
  | added
  | removed
  | updated
  | changes
  | hasChanged
  | previous
  | new
  deriving DecidableEq

namespace UpdateEmitter

/-! ### The statements -/

/-- How a local variable is declared. -/
inductive LocalType
  /-- `var … = new List<KeyValuePair<{key}, {value}>>();` -/
  | pairs (key value : String)
  /-- `var … = new List<{element}>();` -/
  | items (element : String)
  /-- `var … = false;` -/
  | flag
  /-- `{type} … = null;` -/
  | nullable (type : String)

/-- What the emitted method goes over, `{p}` being the property. A collection that is `null` is
left out, and so are the removals where the property itself is `null`. -/
inductive Buffer
  /-- `foreach (var kv in this.{p}ToSet)` of a dictionary -/
  | entriesToSet
  /-- `foreach (var k in this.{p}ToRemove)` of a dictionary -/
  | keysToRemove
  /-- `foreach (var v in this.{p}ToSet)` of a set -/
  | elementsToSet
  /-- `foreach (var v in this.{p}ToRemove)` of a set -/
  | elementsToRemove
  /-- `foreach (var upd in this.{p}Updates)` of a set -/
  | updates

/-- The tests, `{name}` being the existing object. Where one declares a variable, this is bound if
it succeeds. -/
inductive Test
  /-- `{name}.{p} != null && {name}.{p}.TryGetValue(kv.Key, out var existing)` -/
  | tryGetValue
  /-- `!EqualityComparer<…>.Default.Equals(existing, kv.Value)` -/
  | entryDiffers
  /-- `var __entryChanges = kv.Value.Changes(existing); if (__entryChanges.HasChanged)` -/
  | entryHasChanged
  /-- `kv.Value.TryCreate(out var created)`, `upd.TryCreate(out var created)` -/
  | tryCreate
  /-- `{name}.{p}.ContainsKey(k)` -/
  | containsKey
  /-- `{name}.{p} == null || !{name}.{p}.Contains(v)` -/
  | lacksElement
  /-- `{name}.{p}.Contains(v)` -/
  | containsElement
  /-- `{name}.{p} == null || !{name}.{p}.Contains(created)` -/
  | lacksCreated
  /-- `this.{p} != null`, or `this.{p}.HasValue` for a struct -/
  | hasBuilder
  /-- `var __nested = this.{p}.Changes({name}.{p}); if (__nested.HasChanged)` -/
  | nestedHasChanged
  /-- `this.{p}IsSet` -/
  | isSet
  /-- `!EqualityComparer<…>.Default.Equals({name}.{p}, this.{p})` -/
  | valueDiffers

/-- What is added to a list. -/
inductive Item
  /-- `kv` -/
  | entry
  /-- `new KeyValuePair<…>(kv.Key, __entryChanges)` -/
  | entryChanges
  /-- `new KeyValuePair<…>(kv.Key, created)` -/
  | entryCreated
  /-- `k` -/
  | key
  /-- `v` -/
  | element
  /-- `created` -/
  | created

/-- What is assigned to a variable. -/
inductive Assigned
  /-- `true` -/
  | true
  /-- `__nested` -/
  | nested
  /-- `{name}.{p}` -/
  | previous
  /-- `this.{p}` -/
  | new

inductive Statement
  | skip
  | seq (first second : Statement)
  | declare (x : String) (type : LocalType)
  | forEach (buffer : Buffer) (body : Statement)
  /-- `kv.Value.Set{Key}(kv.Key);` -/
  | assertKey (updater : UpdaterToUse)
  | branch (test : Test) (yes no : Statement)
  | add (x : String) (item : Item)
  | assign (x : String) (value : Assigned)

def Statement.block : List Statement → Statement
  | [] => skip
  | s :: ss => seq s (block ss)

/-! ### The blocks -/

/-- `addedVar`, `updatedVar` and `removedVar` of a dictionary. -/
def dictionaryAddedVar (p : PropertyToUse) : String := "a" ++ p.name ++ "_added"

def dictionaryUpdatedVar (p : PropertyToUse) : String := "u" ++ p.name ++ "_updated"

def dictionaryRemovedVar (p : PropertyToUse) : String := "r" ++ p.name ++ "_removed"

/-- `addedVar` and `removedVar` of a set. -/
def setAddedVar (p : PropertyToUse) : String := "__" ++ p.name ++ "_added"

def setRemovedVar (p : PropertyToUse) : String := "__" ++ p.name ++ "_removed"

/-- `changesVar`. -/
def changesVar (p : PropertyToUse) : String := "__" ++ p.name ++ "_changes"

/-- `hasVar`, `prevVar` and `newVar`. -/
def hasVar (p : PropertyToUse) : String := "__" ++ p.name ++ "_hasChanged"

def prevVar (p : PropertyToUse) : String := "__" ++ p.name ++ "_prev"

def newVar (p : PropertyToUse) : String := "__" ++ p.name ++ "_new"

/-- What is done with an entry to set. -/
def entryBody (p : PropertyToUse) (dictValueType : ElementType) : Statement :=
  match dictValueType.updater with
  | some dictValUpdater => .block [
      if dictValUpdater.dictKeyProp.isSome then .assertKey dictValUpdater else .skip,
      .branch .tryGetValue
        (.branch .entryHasChanged (.add (dictionaryUpdatedVar p) .entryChanges) .skip)
        (.branch .tryCreate (.add (dictionaryAddedVar p) .entryCreated) .skip)]
  | none =>
    .branch .tryGetValue
      (.branch .entryDiffers (.add (dictionaryUpdatedVar p) .entry) .skip)
      (.add (dictionaryAddedVar p) .entry)

def dictionaryBody (p : PropertyToUse) (dictKeyType : String) (dictValueType : ElementType) :
    Statement := .block [
  .declare (dictionaryAddedVar p) (.pairs dictKeyType dictValueType.text),
  .declare (dictionaryUpdatedVar p) (.pairs dictKeyType (updatedValueType dictValueType)),
  .declare (dictionaryRemovedVar p) (.items dictKeyType),
  .forEach .entriesToSet (entryBody p dictValueType),
  .forEach .keysToRemove (.branch .containsKey (.add (dictionaryRemovedVar p) .key) .skip)]

def setBody (p : PropertyToUse) (setValType : ElementType) : Statement := .block [
  .declare (setAddedVar p) (.items setValType.text),
  .declare (setRemovedVar p) (.items setValType.text),
  .forEach .elementsToSet (.branch .lacksElement (.add (setAddedVar p) .element) .skip),
  .forEach .elementsToRemove (.branch .containsElement (.add (setRemovedVar p) .element) .skip),
  if setValType.updater.isSome then
    .forEach .updates
      (.branch .tryCreate (.branch .lacksCreated (.add (setAddedVar p) .created) .skip) .skip)
  else .skip]

def nestedBody (p : PropertyToUse) (nestedUpd : UpdaterToUse) : Statement := .block [
  .declare (changesVar p) (.nullable (nestedUpd.changesName ++ "?")),
  .branch .hasBuilder (.branch .nestedHasChanged (.assign (changesVar p) .nested) .skip) .skip]

def valueBody (p : PropertyToUse) : Statement := .block [
  .declare (hasVar p) .flag,
  .declare (prevVar p) (.nullable (nullableType p.type)),
  .declare (newVar p) (.nullable (nullableType p.type)),
  .branch .isSet
    (.branch .valueDiffers
      (.block [.assign (hasVar p) .true, .assign (prevVar p) .previous, .assign (newVar p) .new])
      .skip)
    .skip]

/-- What `EmitChangesMethod` emits for a property. -/
def propertyBody (p : PropertyToUse) : Statement :=
  match p.type.dictionary with
  | some (dictKeyType, dictValueType) => dictionaryBody p dictKeyType dictValueType
  | none =>
    match p.type.set with
    | some setValType => setBody p setValType
    | none =>
      match p.type.updater with
      | some nestedUpd => nestedBody p nestedUpd
      | none => if p.isInitOnly then .skip else valueBody p

end UpdateEmitter

/-! ### The names of the variables -/

/-- Of texts none of which ends with another, the end of a text tells which it is. -/
theorem append_suffix_inj {ι : Type*} {all : List ι} {suffix : ι → String}
    (h : ∀ i ∈ all, ∀ j ∈ all, (suffix i).toList <:+ (suffix j).toList → i = j) {s s' : String}
    {i j : ι} (hi : i ∈ all) (hj : j ∈ all) (heq : s ++ suffix i = s' ++ suffix j) :
    s = s' ∧ i = j := by
  have hlist : s.toList ++ (suffix i).toList = s'.toList ++ (suffix j).toList := by
    rw [← String.toList_append, ← String.toList_append, heq]
  have hij : i = j := by
    obtain hsuffix | hsuffix := List.suffix_or_suffix_of_suffix
      (List.suffix_append s.toList _) (hlist ▸ List.suffix_append s'.toList _)
    · exact h _ hi _ hj hsuffix
    · exact (h _ hj _ hi hsuffix).symm
  subst hij
  exact ⟨String.toList_injective (List.append_cancel_right hlist), rfl⟩

/-- Of texts none of which begins another, the beginning of a text tells which it is. -/
theorem append_prefix_inj {prefixes : List String}
    (h : ∀ a ∈ prefixes, ∀ b ∈ prefixes, a.toList <+: b.toList → a = b) {s s' a b : String}
    (ha : a ∈ prefixes) (hb : b ∈ prefixes) (heq : a ++ s = b ++ s') : s = s' ∧ a = b := by
  have hlist : a.toList ++ s.toList = b.toList ++ s'.toList := by
    rw [← String.toList_append, ← String.toList_append, heq]
  have hab : a = b := by
    obtain hprefixes | hprefixes := List.prefix_or_prefix_of_prefix
      (List.prefix_append a.toList _) (hlist ▸ List.prefix_append b.toList _)
    · exact h _ ha _ hb hprefixes
    · exact (h _ hb _ ha hprefixes).symm
  subst hab
  exact ⟨String.toList_injective (List.append_cancel_left hlist), rfl⟩

namespace UpdateEmitter

/-- How the names of local variables begin. -/
def varPrefixes : List String := ["a", "u", "r", "__"]

/-- How the names of local variables end. -/
def varSuffixes : List String :=
  ["_added", "_updated", "_removed", "_changes", "_hasChanged", "_prev", "_new"]

/-- A local variable of this property. -/
def IsVar (p : PropertyToUse) (x : String) : Prop :=
  ∃ a ∈ varPrefixes, ∃ b ∈ varSuffixes, x = a ++ p.name ++ b

theorem varName_inj {a a' b b' n n' : String} (ha : a ∈ varPrefixes) (ha' : a' ∈ varPrefixes)
    (hb : b ∈ varSuffixes) (hb' : b' ∈ varSuffixes) (heq : a ++ n ++ b = a' ++ n' ++ b') :
    a = a' ∧ n = n' ∧ b = b' := by
  have hsuffix : ∀ b ∈ varSuffixes, ∀ b' ∈ varSuffixes,
      (id b).toList <:+ (id b').toList → b = b' := by
    decide +kernel
  have hprefixes : ∀ a ∈ varPrefixes, ∀ a' ∈ varPrefixes, a.toList <+: a'.toList → a = a' := by
    decide +kernel
  obtain ⟨hfront, rfl⟩ := append_suffix_inj hsuffix hb hb' heq
  obtain ⟨rfl, rfl⟩ := append_prefix_inj hprefixes ha ha' hfront
  exact ⟨rfl, rfl, rfl⟩

theorem isVar_append {a b : String} (ha : a ∈ varPrefixes) (hb : b ∈ varSuffixes)
    (p : PropertyToUse) : IsVar p (a ++ p.name ++ b) := ⟨a, ha, b, hb, rfl⟩

/-- A variable belongs to one property. -/
theorem IsVar.name_eq {p q : PropertyToUse} {x : String} (hp : IsVar p x) (hq : IsVar q x) :
    p.name = q.name := by
  obtain ⟨a, ha, b, hb, rfl⟩ := hp
  obtain ⟨a', ha', b', hb', heq⟩ := hq
  exact (varName_inj ha ha' hb hb' heq).2.1

/-- Two variables of a property whose names begin or end differently. -/
private theorem varName_ne {a a' b b' n : String} (ha : a ∈ varPrefixes) (ha' : a' ∈ varPrefixes)
    (hb : b ∈ varSuffixes) (hb' : b' ∈ varSuffixes) (hne : (a, b) ≠ (a', b')) :
    a ++ n ++ b ≠ a' ++ n ++ b' := by
  intro heq
  obtain ⟨rfl, -, rfl⟩ := varName_inj ha ha' hb hb' heq
  exact hne rfl

theorem dictionaryVars_ne (p : PropertyToUse) : dictionaryAddedVar p ≠ dictionaryUpdatedVar p ∧
    dictionaryAddedVar p ≠ dictionaryRemovedVar p ∧
      dictionaryUpdatedVar p ≠ dictionaryRemovedVar p :=
  ⟨varName_ne (by decide) (by decide) (by decide) (by decide) (by decide),
    varName_ne (by decide) (by decide) (by decide) (by decide) (by decide),
    varName_ne (by decide) (by decide) (by decide) (by decide) (by decide)⟩

theorem setVars_ne (p : PropertyToUse) : setAddedVar p ≠ setRemovedVar p :=
  varName_ne (by decide) (by decide) (by decide) (by decide) (by decide)

theorem valueVars_ne (p : PropertyToUse) :
    hasVar p ≠ prevVar p ∧ hasVar p ≠ newVar p ∧ prevVar p ≠ newVar p :=
  ⟨varName_ne (by decide) (by decide) (by decide) (by decide) (by decide),
    varName_ne (by decide) (by decide) (by decide) (by decide) (by decide),
    varName_ne (by decide) (by decide) (by decide) (by decide) (by decide)⟩

end UpdateEmitter

/-! ### Running the statements -/

/-- The value of a component of a change record, and of a local variable on the way to it. -/
inductive ComponentValue (α : Type*)
  | pairs (items : List (α × α))
  | items (items : List α)
  | flag (flag : Bool)
  | nullable (value : Option α)

/-- The methods that the emitted statements call on the builders and the change records of values
that have builders of their own. -/
structure Runtime (α : Type*) where
  changes : α → α → α
  hasChanged : α → Bool
  tryCreate : α → Option α
  appendUpdate : α → α → α
  /-- `Set{Key}`, with the key first. -/
  setKey : α → α → α

/-- What the emitted statements read of a property: the buffer that the builder has for it and the
value in the existing object. Each kind of property has its own. -/
structure PropertyValues (α : Type*) where
  entries : DictionaryBuffer α α
  dictionary : Option (Dictionary α α)
  elements : SetBuffer (HashSet α)
  updates : List α
  set : Option (HashSet α)
  builder : Option α
  scalar : ScalarBuffer α
  value : α

/-- The variables of the inner scopes. -/
structure Scope (α : Type*) where
  /-- `k`, `kv.Key` -/
  key : α
  /-- `v`, `kv.Value`, `upd` -/
  value : α
  existing : α
  changes : α
  created : α
  deriving Inhabited

abbrev Locals (α : Type*) : Type _ := String → ComponentValue α

section Run

variable {α : Type*} [DecidableEq α] [Inhabited α] (rt : Runtime α) (values : PropertyValues α)

/-- A builder that is a struct is copied when it is read from the entry, so that its key is set on
the copy. -/
def UpdaterToUse.assertKey (updater : UpdaterToUse) (k u : α) : α :=
  if updater.dictKeyProp.isSome && !updater.isStruct then rt.setKey k u else u

namespace UpdateEmitter

/-- What a variable holds after its declaration. -/
def LocalType.initial : LocalType → ComponentValue α
  | pairs _ _ => .pairs []
  | items _ => .items []
  | flag => .flag false
  | nullable _ => .nullable none

def Buffer.scopes : Buffer → List (Scope α)
  | entriesToSet => values.entries.entries.map fun e =>
      { (default : Scope α) with key := e.1, value := e.2 }
  | keysToRemove =>
    if values.dictionary.isSome then
      values.entries.removals.map fun k => { (default : Scope α) with key := k }
    else []
  | elementsToSet => (values.elements.additions (.values α)).map fun v =>
      { (default : Scope α) with value := v }
  | elementsToRemove =>
    if values.set.isSome then
      (values.elements.removals (.values α)).map fun v => { (default : Scope α) with value := v }
    else []
  | updates => values.updates.map fun u => { (default : Scope α) with value := u }

/-- The scope of what comes after a test, if it succeeds. -/
def Test.eval (scope : Scope α) : Test → Option (Scope α)
  | tryGetValue => (values.dictionary.bind (·.tryGetValue scope.key)).map fun existing =>
      { scope with existing }
  | entryDiffers => if scope.existing = scope.value then none else some scope
  | entryHasChanged =>
    let changes := rt.changes scope.value scope.existing
    if rt.hasChanged changes then some { scope with changes } else none
  | tryCreate => (rt.tryCreate scope.value).map fun created => { scope with created }
  | containsKey => if values.dictionary.any (·.containsKey scope.key) then some scope else none
  | lacksElement => if values.set.all (scope.value ∉ ·) then some scope else none
  | containsElement => if values.set.any (scope.value ∈ ·) then some scope else none
  | lacksCreated => if values.set.all (scope.created ∉ ·) then some scope else none
  | hasBuilder => values.builder.map fun value => { scope with value }
  | nestedHasChanged =>
    let changes := rt.changes scope.value values.value
    if rt.hasChanged changes then some { scope with changes } else none
  | isSet => if values.scalar.isSet then some scope else none
  | valueDiffers => if values.value = values.scalar.value then none else some scope

/-- `Add`, of a key and a value to a list of pairs. -/
def addPair (k v : α) : ComponentValue α → ComponentValue α
  | .pairs l => .pairs (l ++ [(k, v)])
  | x => x

/-- `Add`, of an element to a list of elements. -/
def addItem (v : α) : ComponentValue α → ComponentValue α
  | .items l => .items (l ++ [v])
  | x => x

def Item.add (scope : Scope α) : Item → ComponentValue α → ComponentValue α
  | entry => addPair scope.key scope.value
  | entryChanges => addPair scope.key scope.changes
  | entryCreated => addPair scope.key scope.created
  | key => addItem scope.key
  | element => addItem scope.value
  | created => addItem scope.created

def Assigned.eval (scope : Scope α) : Assigned → ComponentValue α
  | true => .flag Bool.true
  | nested => .nullable (some scope.changes)
  | previous => .nullable (some values.value)
  | new => .nullable (some values.scalar.value)

def exec : Statement → Scope α → Locals α → Scope α × Locals α
  | .skip, scope, locals => (scope, locals)
  | .seq first second, scope, locals =>
    let (scope, locals) := exec first scope locals
    exec second scope locals
  | .declare x type, scope, locals => (scope, Function.update locals x type.initial)
  | .forEach buffer body, scope, locals =>
    (scope, (buffer.scopes values).foldl (fun locals inner => (exec body inner locals).2) locals)
  | .assertKey updater, scope, locals =>
    ({ scope with value := updater.assertKey rt scope.key scope.value }, locals)
  | .branch test yes no, scope, locals =>
    match test.eval rt values scope with
    | some inner => (scope, (exec yes inner locals).2)
    | none => (scope, (exec no scope locals).2)
  | .add x item, scope, locals => (scope, Function.update locals x (item.add scope (locals x)))
  | .assign x value, scope, locals => (scope, Function.update locals x (value.eval values scope))

/-- The body of `Changes` for these properties. -/
def run (values : String → PropertyValues α) (ps : List PropertyToUse) (locals : Locals α) :
    Locals α :=
  ps.foldl (fun locals p => (exec rt (values p.name) (propertyBody p) default locals).2) locals

end UpdateEmitter

/-! ### What a block leaves -/

/-- How the entries of a dictionary with such values meet what is there. -/
def Runtime.updater (v : ElementType) : Updater α α α α :=
  match v.updater with
  | some updater => {
      assertKey := updater.assertKey rt
      diff u existing :=
        if rt.hasChanged (rt.changes u existing) then some (rt.changes u existing) else none
      tryCreate := rt.tryCreate
      appendUpdate := rt.appendUpdate }
  | none => .value α α

/-- What the builders of a set create that is not there. -/
def PropertyValues.createdElements : List α :=
  (values.updates.filterMap rt.tryCreate).filter fun v => values.set.all (v ∉ ·)

/-- What a component of the change record is to hold: its part of the changes of the buffer. -/
def PropertyToUse.component (p : PropertyToUse) : ChangeRole → ComponentValue α :=
  match p.type.dictionary with
  | some (_, v) =>
    let changes := values.entries.changes (rt.updater v) (values.dictionary.getD ∅)
    fun
      | .added => .pairs changes.added
      | .removed => .items changes.removed
      | .updated => .pairs changes.updated
      | _ => .nullable none
  | none =>
    match p.type.set with
    | some v =>
      let changes := values.elements.changes (.values α) (values.set.getD ∅)
      fun
        | .added =>
          .items (changes.added ++ if v.updater.isSome then values.createdElements rt else [])
        | .removed => .items changes.removed
        | _ => .nullable none
    | none =>
      match p.type.updater with
      | some _ =>
        let changes := values.builder.map (rt.changes · values.value)
        fun
          | .changes => .nullable (changes.filter rt.hasChanged)
          | _ => .nullable none
      | none =>
        let changes := values.scalar.changes values.value
        fun
          | .hasChanged => .flag changes.hasChanged
          | .previous => .nullable changes.previous
          | .new => .nullable changes.new
          | _ => .nullable none

namespace UpdateEmitter

/-- The variables that a statement writes. -/
def Statement.writes : Statement → List String
  | skip | assertKey _ => []
  | seq first second => first.writes ++ second.writes
  | declare x _ | add x _ | assign x _ => [x]
  | forEach _ body => body.writes
  | branch _ yes no => yes.writes ++ no.writes

variable {rt values}

/-- A statement leaves the variables alone that it does not write. -/
theorem exec_of_notMem_writes {s : Statement} {scope : Scope α} {locals : Locals α} {x : String}
    (h : x ∉ s.writes) : (exec rt values s scope locals).2 x = locals x := by
  induction s generalizing scope locals with
  | skip => rfl
  | seq first second ih₁ ih₂ =>
    rw [Statement.writes, List.mem_append, not_or] at h
    exact (ih₂ h.2).trans (ih₁ h.1)
  | declare y type => exact Function.update_of_ne (List.ne_of_not_mem_cons h) _ _
  | forEach buffer body ih =>
    rw [exec]
    generalize buffer.scopes values = inners
    induction inners generalizing locals with
    | nil => rfl
    | cons inner inners ihinners => exact ihinners.trans (ih h)
  | assertKey updater => rfl
  | branch test yes no ih₁ ih₂ =>
    rw [Statement.writes, List.mem_append, not_or] at h
    rw [exec]
    split
    · exact ih₁ h.1
    · exact ih₂ h.2
  | add y item => exact Function.update_of_ne (List.ne_of_not_mem_cons h) _ _
  | assign y value => exact Function.update_of_ne (List.ne_of_not_mem_cons h) _ _

section Loops

variable {p : PropertyToUse} {v : ElementType}

/-- A loop that adds to a list what each of its rounds adds. -/
theorem foldl_exec_eq (rt : Runtime α) (values : PropertyValues α) {β : Type*}
    {wrap : List β → ComponentValue α} {body : Statement} {x : String} {f : Scope α → Option β}
    (inners : List (Scope α))
    (hbody : ∀ inner locals l, locals x = wrap l →
      (exec rt values body inner locals).2 x = wrap (l ++ (f inner).toList))
    {locals : Locals α} {l : List β} (h : locals x = wrap l) :
    inners.foldl (fun locals inner => (exec rt values body inner locals).2) locals x =
      wrap (l ++ inners.filterMap f) := by
  induction inners generalizing locals l with
  | nil =>
    rw [List.filterMap_nil, List.append_nil]
    exact h
  | cons inner inners ih =>
    have hcons : (inner :: inners).filterMap f = (f inner).toList ++ inners.filterMap f := by
      rw [List.filterMap_cons]
      cases f inner with
      | none => rfl
      | some b => rfl
    rw [hcons, ← List.append_assoc]
    exact ih (hbody inner locals l h)

omit [Inhabited α] in
theorem bind_tryGetValue (d : Option (Dictionary α α)) (k : α) :
    d.bind (·.tryGetValue k) = (d.getD ∅).tryGetValue k := by
  cases d <;> rfl

/-- The key is asserted where the builder has one. -/
theorem exec_assertKey (updater : UpdaterToUse) (inner : Scope α) (locals : Locals α) :
    exec rt values (if updater.dictKeyProp.isSome then .assertKey updater else .skip) inner
      locals = ({ inner with value := updater.assertKey rt inner.key inner.value }, locals) := by
  cases h : updater.dictKeyProp with
  | none => simp [exec, UpdaterToUse.assertKey, h]
  | some key => rfl

/-- **One entry to set** goes where its report belongs. -/
theorem exec_entryBody (inner : Scope α) (locals : Locals α) :
    (exec rt values (entryBody p v) inner locals).2 =
      match (rt.updater v).report inner.key inner.value
        ((values.dictionary.getD ∅).tryGetValue inner.key) with
      | some (.inl created) => Function.update locals (dictionaryAddedVar p)
          (addPair inner.key created (locals (dictionaryAddedVar p)))
      | some (.inr changes) => Function.update locals (dictionaryUpdatedVar p)
          (addPair inner.key changes (locals (dictionaryUpdatedVar p)))
      | none => locals := by
  rw [← bind_tryGetValue, entryBody, Runtime.updater]
  cases v.updater with
  | none =>
    cases hd : values.dictionary.bind (·.tryGetValue inner.key) with
    | none => simp [exec, Test.eval, hd, Updater.report, Updater.value, Item.add]
    | some existing =>
      by_cases heq : existing = inner.value
      · simp [exec, Test.eval, hd, Updater.report, Updater.value, heq]
      · simp [exec, Test.eval, hd, Updater.report, Updater.value, Item.add, heq]
  | some updater =>
    simp only [Statement.block, exec, exec_assertKey]
    generalize hu : updater.assertKey rt inner.key inner.value = u
    cases hd : values.dictionary.bind (·.tryGetValue inner.key) with
    | none =>
      cases hcreate : rt.tryCreate u with
      | none => simp [Test.eval, hd, hu, hcreate, Updater.report]
      | some created => simp [Test.eval, hd, hu, hcreate, Updater.report, Item.add]
    | some existing =>
      cases hchanged : rt.hasChanged (rt.changes u existing) with
      | false => simp [Test.eval, hd, hu, hchanged, Updater.report]
      | true => simp [Test.eval, hd, hu, hchanged, Updater.report, Item.add]

theorem mem_writes_entryBody {x : String} (h : x ∈ (entryBody p v).writes) :
    x = dictionaryAddedVar p ∨ x = dictionaryUpdatedVar p := by
  rw [entryBody] at h
  split at h
  · rename_i updater _
    cases hkey : updater.dictKeyProp with
    | none => simpa [Statement.block, Statement.writes, hkey, or_comm] using h
    | some key => simpa [Statement.block, Statement.writes, hkey, or_comm] using h
  · simpa [Statement.writes, or_comm] using h

/-- What a list of pairs becomes, of which the entry to set may add one. -/
theorem exec_entryBody_added (v : ElementType) (inner : Scope α) (locals : Locals α)
    (l : List (α × α)) (h : locals (dictionaryAddedVar p) = .pairs l) :
    (exec rt values (entryBody p v) inner locals).2 (dictionaryAddedVar p) =
      .pairs (l ++ (((rt.updater v).report inner.key inner.value
        ((values.dictionary.getD ∅).tryGetValue inner.key)).bind Sum.getLeft? |>.map
          (inner.key, ·)).toList) := by
  have hne := (dictionaryVars_ne p).1
  rw [exec_entryBody]
  cases (rt.updater v).report inner.key inner.value
    ((values.dictionary.getD ∅).tryGetValue inner.key) with
  | none => simp [h]
  | some r =>
    cases r with
    | inl created => simp [h, addPair]
    | inr changes => simp [h, Function.update_of_ne hne]

theorem exec_entryBody_updated (v : ElementType) (inner : Scope α) (locals : Locals α)
    (l : List (α × α)) (h : locals (dictionaryUpdatedVar p) = .pairs l) :
    (exec rt values (entryBody p v) inner locals).2 (dictionaryUpdatedVar p) =
      .pairs (l ++ (((rt.updater v).report inner.key inner.value
        ((values.dictionary.getD ∅).tryGetValue inner.key)).bind Sum.getRight? |>.map
          (inner.key, ·)).toList) := by
  have hne := (dictionaryVars_ne p).1.symm
  rw [exec_entryBody]
  cases (rt.updater v).report inner.key inner.value
    ((values.dictionary.getD ∅).tryGetValue inner.key) with
  | none => simp [h]
  | some r =>
    cases r with
    | inl created => simp [h, Function.update_of_ne hne]
    | inr changes => simp [h, addPair]

/-- A test that lets an element through leaves it to be added. -/
theorem exec_addIf (test : Test) (item : Item) {x : String} {value : Scope α → α}
    {accepts : Scope α → Bool}
    (htest : ∀ inner, test.eval rt values inner = if accepts inner then some inner else none)
    (hitem : ∀ inner, item.add inner = addItem (value inner)) (inner : Scope α)
    (locals : Locals α) (l : List α) (h : locals x = .items l) :
    (exec rt values (.branch test (.add x item) .skip) inner locals).2 x =
      .items (l ++ (if accepts inner then some (value inner) else none).toList) := by
  rw [exec, htest]
  cases accepts inner with
  | true => simp [exec, h, hitem, addItem]
  | false => simp [exec, h]

/-- A builder of a set adds what it creates, if it is not there. -/
theorem exec_addCreated (x : String) (inner : Scope α) (locals : Locals α) (l : List α)
    (h : locals x = .items l) :
    (exec rt values
      (.branch .tryCreate (.branch .lacksCreated (.add x .created) .skip) .skip) inner locals).2 x =
      .items (l ++ ((rt.tryCreate inner.value).filter fun v => values.set.all (v ∉ ·)).toList) := by
  cases hcreate : rt.tryCreate inner.value with
  | none => simp [exec, Test.eval, hcreate, h]
  | some created =>
    cases hlacks : values.set.all fun s => !decide (created ∈ s) with
    | true => simp [exec, Test.eval, hcreate, hlacks, h, Item.add, addItem, Option.filter]
    | false => simp [exec, Test.eval, hcreate, hlacks, h, Option.filter]

end Loops

section Blocks

variable (rt : Runtime α) (values : PropertyValues α) (p : PropertyToUse) (v : ElementType)
  (locals : Locals α)

/-- **The block of a dictionary** leaves the changes of its buffer. -/
theorem exec_dictionaryBody (k : String) :
    let changes := values.entries.changes (rt.updater v) (values.dictionary.getD ∅)
    let left := (exec rt values (dictionaryBody p k v) default locals).2
    left (dictionaryAddedVar p) = .pairs changes.added ∧
      left (dictionaryUpdatedVar p) = .pairs changes.updated ∧
        left (dictionaryRemovedVar p) = .items changes.removed := by
  intro changes left
  obtain ⟨hau, har, hur⟩ := dictionaryVars_ne p
  let declared := Function.update (Function.update (Function.update locals
    (dictionaryAddedVar p) (.pairs [])) (dictionaryUpdatedVar p) (.pairs []))
      (dictionaryRemovedVar p) (.items [])
  let filled := (exec rt values (.forEach .entriesToSet (entryBody p v)) default declared).2
  let removal : Statement :=
    .forEach .keysToRemove (.branch .containsKey (.add (dictionaryRemovedVar p) .key) .skip)
  have hleft : left = (exec rt values removal default filled).2 := rfl
  have hkept : ∀ x, x ≠ dictionaryRemovedVar p → left x = filled x := fun x hx => by
    rw [hleft]
    exact exec_of_notMem_writes (by simpa [removal, Statement.writes] using hx)
  refine ⟨?_, ?_, ?_⟩
  · rw [hkept _ har]
    have hdeclared : declared (dictionaryAddedVar p) = .pairs [] := by
      simp [declared, Function.update_of_ne hau, Function.update_of_ne har]
    have hfill := foldl_exec_eq rt values (Buffer.entriesToSet.scopes values)
      (exec_entryBody_added v) hdeclared
    rw [List.nil_append, Buffer.scopes, List.filterMap_map] at hfill
    refine hfill.trans (congrArg ComponentValue.pairs ?_)
    simp only [changes, DictionaryBuffer.changes, DictionaryChanges.ofReports,
      List.filterMap_map]
    rfl
  · rw [hkept _ hur]
    have hdeclared : declared (dictionaryUpdatedVar p) = .pairs [] := by
      simp [declared, Function.update_of_ne hur]
    have hfill := foldl_exec_eq rt values (Buffer.entriesToSet.scopes values)
      (exec_entryBody_updated v) hdeclared
    rw [List.nil_append, Buffer.scopes, List.filterMap_map] at hfill
    refine hfill.trans (congrArg ComponentValue.pairs ?_)
    simp only [changes, DictionaryBuffer.changes, DictionaryChanges.ofReports,
      List.filterMap_map]
    rfl
  · have hfilled : filled (dictionaryRemovedVar p) = .items [] := by
      have hdeclared : declared (dictionaryRemovedVar p) = .items [] := by simp [declared]
      rw [← hdeclared]
      refine exec_of_notMem_writes fun h => ?_
      rcases mem_writes_entryBody h with hx | hx
      · exact har hx.symm
      · exact hur hx.symm
    rw [hleft]
    have hremove := foldl_exec_eq rt values (Buffer.keysToRemove.scopes values)
      (exec_addIf .containsKey .key (fun inner => rfl) fun inner => rfl) hfilled
    rw [List.nil_append] at hremove
    refine hremove.trans (congrArg ComponentValue.items ?_)
    change _ = values.entries.removals.filter (values.dictionary.getD ∅).containsKey
    rw [Buffer.scopes]
    cases values.dictionary with
    | none =>
      rw [if_neg (by simp), List.filterMap_nil, eq_comm, List.filter_eq_nil_iff]
      exact fun _ _ => Bool.false_ne_true
    | some d =>
      rw [if_pos Option.isSome_some, List.filterMap_map, ← List.filterMap_eq_filter]
      rfl

/-- **The block of a set** leaves the changes of its buffer, and what the builders create. -/
theorem exec_setBody :
    let changes := values.elements.changes (.values α) (values.set.getD ∅)
    let left := (exec rt values (setBody p v) default locals).2
    left (setAddedVar p) = .items (changes.added ++
        if v.updater.isSome then values.createdElements rt else []) ∧
      left (setRemovedVar p) = .items changes.removed := by
  intro changes left
  have hne := setVars_ne p
  let declared := Function.update (Function.update locals (setAddedVar p) (.items []))
    (setRemovedVar p) (.items [])
  let addition : Statement :=
    .forEach .elementsToSet (.branch .lacksElement (.add (setAddedVar p) .element) .skip)
  let removal : Statement :=
    .forEach .elementsToRemove (.branch .containsElement (.add (setRemovedVar p) .element) .skip)
  let creation : Statement := if v.updater.isSome then
      .forEach .updates
        (.branch .tryCreate (.branch .lacksCreated (.add (setAddedVar p) .created) .skip) .skip)
    else .skip
  let filled := (exec rt values addition default declared).2
  let removed := (exec rt values removal default filled).2
  have hleft : left = (exec rt values creation default removed).2 := rfl
  have hcreation : ∀ x, x ≠ setAddedVar p → left x = removed x := fun x hx => by
    rw [hleft]
    refine exec_of_notMem_writes ?_
    simp only [creation]
    split
    · simpa [Statement.writes] using hx
    · exact List.not_mem_nil
  have hremoval : removed (setAddedVar p) = filled (setAddedVar p) :=
    exec_of_notMem_writes (by simpa [removal, Statement.writes] using hne)
  have hfill : filled (setAddedVar p) = .items changes.added := by
    have hdeclared : declared (setAddedVar p) = .items [] := by
      simp [declared, Function.update_of_ne hne]
    have hadd := foldl_exec_eq rt values (Buffer.elementsToSet.scopes values)
      (exec_addIf .lacksElement .element (fun inner => rfl) fun inner => rfl) hdeclared
    rw [List.nil_append, Buffer.scopes, List.filterMap_map] at hadd
    refine hadd.trans (congrArg ComponentValue.items ?_)
    change _ = (values.elements.additions (.values α)).filter fun v =>
      !decide (v ∈ values.set.getD ∅)
    rw [← List.filterMap_eq_filter]
    refine List.filterMap_congr fun v _ => ?_
    cases values.set with
    | none => simp [Option.guard]
    | some s => simp [Option.guard]
  constructor
  · rw [hleft]
    simp only [creation]
    split
    · have hcreate := foldl_exec_eq rt values (Buffer.updates.scopes values)
        (exec_addCreated (setAddedVar p)) (hremoval.trans hfill)
      refine hcreate.trans (congrArg (fun l => ComponentValue.items (changes.added ++ l)) ?_)
      rw [Buffer.scopes, List.filterMap_map, PropertyValues.createdElements,
        List.filter_filterMap]
      rfl
    · rw [List.append_nil]
      exact hremoval.trans hfill
  · rw [hcreation _ hne.symm]
    have hfilled : filled (setRemovedVar p) = .items [] := by
      have hdeclared : declared (setRemovedVar p) = .items [] := by simp [declared]
      rw [← hdeclared]
      exact exec_of_notMem_writes (by simpa [addition, Statement.writes] using hne.symm)
    have hremove := foldl_exec_eq rt values (Buffer.elementsToRemove.scopes values)
      (exec_addIf .containsElement .element (fun inner => rfl) fun inner => rfl) hfilled
    rw [List.nil_append] at hremove
    refine hremove.trans (congrArg ComponentValue.items ?_)
    change _ = (values.elements.removals (.values α)).filter fun v =>
      decide (v ∈ values.set.getD ∅)
    rw [Buffer.scopes]
    cases values.set with
    | none =>
      rw [if_neg (by simp), List.filterMap_nil, eq_comm, List.filter_eq_nil_iff]
      exact fun v _ => by simp
    | some s =>
      rw [if_pos Option.isSome_some, List.filterMap_map, ← List.filterMap_eq_filter]
      rfl

/-- **The block of a value with a builder** leaves the changes of the builder, if there are any. -/
theorem exec_nestedBody (updater : UpdaterToUse) :
    (exec rt values (nestedBody p updater) default locals).2 (changesVar p) =
      .nullable ((values.builder.map (rt.changes · values.value)).filter rt.hasChanged) := by
  cases hbuilder : values.builder with
  | none => simp [nestedBody, Statement.block, exec, Test.eval, LocalType.initial, hbuilder]
  | some u =>
    cases hchanged : rt.hasChanged (rt.changes u values.value) with
    | false =>
      simp [nestedBody, Statement.block, exec, Test.eval, LocalType.initial, hbuilder, hchanged,
        Option.filter]
    | true =>
      simp [nestedBody, Statement.block, exec, Test.eval, Assigned.eval, hbuilder, hchanged,
        Option.filter]

/-- **The block of a value** leaves the changes of its buffer. -/
theorem exec_valueBody :
    let changes := values.scalar.changes values.value
    let left := (exec rt values (valueBody p) default locals).2
    left (hasVar p) = .flag changes.hasChanged ∧ left (prevVar p) = .nullable changes.previous ∧
      left (newVar p) = .nullable changes.new := by
  obtain ⟨hhp, hhn, hpn⟩ := valueVars_ne p
  cases hset : values.scalar.isSet with
  | false =>
    simp [valueBody, Statement.block, exec, Test.eval, LocalType.initial, ScalarBuffer.changes,
      hset, Function.update_of_ne, hhp, hhn, hpn]
  | true =>
    by_cases heq : values.value = values.scalar.value
    · simp [valueBody, Statement.block, exec, Test.eval, LocalType.initial, ScalarBuffer.changes,
        hset, heq, Function.update_of_ne, hhp, hhn, hpn]
    · simp [valueBody, Statement.block, exec, Test.eval, Assigned.eval, ScalarBuffer.changes,
        hset, heq, Function.update_of_ne, hhp, hhn, hpn]

/-- The variables that the block of a property writes are its own. -/
theorem isVar_of_mem_writes {p : PropertyToUse} {x : String} (h : x ∈ (propertyBody p).writes) :
    IsVar p x := by
  rw [propertyBody] at h
  split at h
  · simp only [dictionaryBody, Statement.block, Statement.writes, List.mem_append,
      List.mem_singleton, List.not_mem_nil, or_false] at h
    rcases h with rfl | rfl | rfl | h | rfl
    · exact isVar_append (by decide) (by decide) p
    · exact isVar_append (by decide) (by decide) p
    · exact isVar_append (by decide) (by decide) p
    · rcases mem_writes_entryBody h with rfl | rfl
      · exact isVar_append (by decide) (by decide) p
      · exact isVar_append (by decide) (by decide) p
    · exact isVar_append (by decide) (by decide) p
  · split at h
    · have hx : x = setAddedVar p ∨ x = setRemovedVar p := by
        simp only [setBody, Statement.block, Statement.writes, List.mem_append,
          List.mem_singleton, List.not_mem_nil, or_false] at h
        split at h
        · simp only [Statement.writes, List.mem_append, List.mem_singleton, List.not_mem_nil,
            or_false] at h
          tauto
        · simp only [Statement.writes, List.not_mem_nil, or_false] at h
          tauto
      rcases hx with rfl | rfl
      · exact isVar_append (by decide) (by decide) p
      · exact isVar_append (by decide) (by decide) p
    · split at h
      · simp only [nestedBody, Statement.block, Statement.writes, List.mem_append,
          List.mem_singleton, List.not_mem_nil, or_false, or_self] at h
        rw [h]
        exact isVar_append (by decide) (by decide) p
      · split at h
        · exact absurd h List.not_mem_nil
        · simp only [valueBody, Statement.block, Statement.writes, List.mem_append,
            List.mem_singleton, List.not_mem_nil, or_false] at h
          rcases h with rfl | rfl | rfl | rfl | rfl | rfl
          · exact isVar_append (by decide) (by decide) p
          · exact isVar_append (by decide) (by decide) p
          · exact isVar_append (by decide) (by decide) p
          · exact isVar_append (by decide) (by decide) p
          · exact isVar_append (by decide) (by decide) p
          · exact isVar_append (by decide) (by decide) p

end Blocks

/-! ### What the method leaves -/

section Method

variable {values : String → PropertyValues α} {ps : List PropertyToUse} {p : PropertyToUse}
  {x : String}

theorem run_of_forall_not_isVar (h : ∀ q ∈ ps, ¬ IsVar q x) (locals : Locals α) :
    run rt values ps locals x = locals x := by
  induction ps generalizing locals with
  | nil => rfl
  | cons q qs ih =>
    obtain ⟨hq, hqs⟩ := List.forall_mem_cons.mp h
    exact (ih hqs _).trans (exec_of_notMem_writes fun hx => hq (isVar_of_mem_writes hx))

/-- **What the variables of a property hold at the end** is what the block of the property
leaves. -/
theorem exists_run_eq (rt : Runtime α) (values : String → PropertyValues α)
    (hdistinct : (ps.map PropertyToUse.name).Nodup) (hp : p ∈ ps) (locals : Locals α) :
    ∃ before, ∀ x, IsVar p x → run rt values ps locals x =
      (exec rt (values p.name) (propertyBody p) default before).2 x := by
  induction ps generalizing locals with
  | nil => exact absurd hp List.not_mem_nil
  | cons q qs ih =>
    obtain ⟨hnot, hnodup⟩ := List.nodup_cons.mp hdistinct
    rcases List.mem_cons.mp hp with rfl | hp
    · refine ⟨locals, fun x hx => ?_⟩
      have hother : ∀ q ∈ qs, ¬ IsVar q x := fun q hq hxq => by
        refine hnot ?_
        rw [hx.name_eq hxq]
        exact List.mem_map_of_mem hq
      exact run_of_forall_not_isVar hother _
    · exact ih hnodup hp _

end Method

end UpdateEmitter

end Run

end Generator

end Connect3Dp
