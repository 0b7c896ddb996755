import Connect3Dp.Builder.ChangesMethod

/-!
# The change records of the generator

For a class the generator emits a record of its changes, and in the builder a method `Changes` that
constructs one. The constructor is positional: `ChangesStructEmitter` writes its parameters,
`EmitChangesMethod` its arguments, and each goes over the properties by itself.

What an argument stands for is not in its name: it is what the emitted body assigns to the local
variable that is passed. `halves_agree` runs the body and says that every parameter is given what
belongs there, and what `HasChanged` says of a record that is constructed in this way.
-/

namespace Connect3Dp

namespace Generator

/-! ### Components -/

/-- What a change record says of one property under one aspect. -/
structure ChangeComponent where
  property : String
  role : ChangeRole
  deriving DecidableEq

def ChangeRole.suffix : ChangeRole → String
  | added => "Added"
  | removed => "Removed"
  | updated => "Updated"
  | changes => "Changes"
  | hasChanged => "HasChanged"
  | previous => "Previous"
  | new => "New"

/-- The name of the component in the record. -/
def ChangeComponent.name (component : ChangeComponent) : String :=
  component.property ++ component.role.suffix

/-- `string.Join`. -/
def stringJoin (separator : String) : List String → String
  | [] => ""
  | [s] => s
  | s :: rest => s ++ separator ++ stringJoin separator rest

namespace ChangesStructEmitter

/-! ### The parameters of the record -/

structure Parameter where
  type : String
  component : ChangeComponent

def Parameter.text (parameter : Parameter) : String :=
  parameter.type ++ " " ++ parameter.component.name

def parameters (p : PropertyToUse) : List Parameter :=
  match p.type.dictionary with
  | some (k, v) => [
      ⟨"KeyValuePair<" ++ k ++ ", " ++ v.text ++ ">[]", p.name, .added⟩,
      ⟨k ++ "[]", p.name, .removed⟩,
      ⟨"KeyValuePair<" ++ k ++ ", " ++ updatedValueType v ++ ">[]", p.name, .updated⟩]
  | none =>
    match p.type.set with
    | some s => [⟨s.text ++ "[]", p.name, .added⟩, ⟨s.text ++ "[]", p.name, .removed⟩]
    | none =>
      match p.type.updater with
      | some cu => [⟨cu.changesName ++ "?", p.name, .changes⟩]
      | none => [
          ⟨"bool", p.name, .hasChanged⟩,
          ⟨nullableType p.type, p.name, .previous⟩,
          ⟨nullableType p.type, p.name, .new⟩]

def isChangeable (p : PropertyToUse) : Bool :=
  p.type.dictionary.isSome || p.type.set.isSome || p.type.updater.isSome || !p.isInitOnly

/-- `changeableProps`. -/
def changeableProps (t : ClassOrStructureToUse) : List PropertyToUse :=
  t.properties.filter isChangeable

/-- The loop that writes them: each property its lines, and a comma unless it is the last. -/
def emitParameters : List PropertyToUse → String
  | [] => ""
  | p :: ps =>
    stringJoin ",\n" ((parameters p).map fun parameter => "\t" ++ parameter.text) ++
      (if ps.isEmpty then "\n" else ",\n") ++ emitParameters ps

/-! ### `HasChanged` -/

/-- A check, by the name of the component. -/
inductive Check
  | hasElements (name : String)
  | hasChanges (name : String)
  | isSet (name : String)
  deriving DecidableEq

def Check.text : Check → String
  | hasElements name => name ++ "?.Length > 0"
  | hasChanges name => name ++ "?.HasChanged == true"
  | isSet name => name

def propertyChecks (p : PropertyToUse) : List Check :=
  match p.type.dictionary with
  | some _ => [.hasElements (p.name ++ "Added"), .hasElements (p.name ++ "Removed"),
      .hasElements (p.name ++ "Updated")]
  | none =>
    match p.type.set with
    | some _ => [.hasElements (p.name ++ "Added"), .hasElements (p.name ++ "Removed")]
    | none =>
      match p.type.updater with
      | some _ => [.hasChanges (p.name ++ "Changes")]
      | none => if p.isInitOnly then [] else [.isSet (p.name ++ "HasChanged")]

def checks (t : ClassOrStructureToUse) : List Check := t.properties.flatMap propertyChecks

/-- The expression. -/
def emitHasChanged (t : ClassOrStructureToUse) : String :=
  if (checks t).isEmpty then "false"
  else stringJoin " || " ((checks t).map Check.text).eraseDups

/-- `Emit`, up to the method `ToString`. -/
def emit (t : ClassOrStructureToUse) (accessibility : String) : String :=
  accessibility ++ " readonly record struct " ++ t.changesName ++ "(\n" ++
    emitParameters (changeableProps t) ++ ")\n\x7b\n    public bool HasChanged => " ++
    emitHasChanged t ++ ";\n"

end ChangesStructEmitter

namespace UpdateEmitter

/-! ### The arguments of the constructor -/

/-- What is passed for a component: a local variable, or `ToArray` of one. -/
inductive Argument
  | array (x : String)
  | plain (x : String)

/-- The local variable. -/
def Argument.var : Argument → String
  | array x | plain x => x

def Argument.text : Argument → String
  | array x => x ++ ".ToArray()"
  | plain x => x

/-- The type of the argument, if the variable is declared in such a way that it has one. -/
def Argument.type (declared : List (String × LocalType)) : Argument → Option String
  | array x =>
    match declared.lookup x with
    | some (.pairs k v) => some ("KeyValuePair<" ++ k ++ ", " ++ v ++ ">[]")
    | some (.items element) => some (element ++ "[]")
    | _ => none
  | plain x =>
    match declared.lookup x with
    | some .flag => some "bool"
    | some (.nullable type) => some type
    | _ => none

/-- What `EmitChangesMethod` adds to `ctorArgs` for a property. -/
def ctorArgs (p : PropertyToUse) : List Argument :=
  match p.type.dictionary with
  | some _ => [.array (dictionaryAddedVar p), .array (dictionaryRemovedVar p),
      .array (dictionaryUpdatedVar p)]
  | none =>
    match p.type.set with
    | some _ => [.array (setAddedVar p), .array (setRemovedVar p)]
    | none =>
      match p.type.updater with
      | some _ => [.plain (changesVar p)]
      | none =>
        if p.isInitOnly then [] else [.plain (hasVar p), .plain (prevVar p), .plain (newVar p)]

def arguments (t : ClassOrStructureToUse) : List Argument := t.properties.flatMap ctorArgs

/-- The last statement of `Changes`. -/
def emitReturn (t : ClassOrStructureToUse) : String :=
  "\t\treturn new " ++ t.changesName ++ "(" ++
    stringJoin ", " ((arguments t).map Argument.text) ++ ");\n"

/-- The declarations in a statement. -/
def Statement.declarations : Statement → List (String × LocalType)
  | seq first second => first.declarations ++ second.declarations
  | declare x type => [(x, type)]
  | _ => []

/-- The local variables of `Changes`. -/
def declarations (t : ClassOrStructureToUse) : List (String × LocalType) :=
  t.properties.flatMap fun p => (propertyBody p).declarations

end UpdateEmitter

open ChangesStructEmitter UpdateEmitter

/-! ### Records -/

section Records

variable {α : Type*} [DecidableEq α] [Inhabited α] (rt : Runtime α)

/-- The component reports a change: an array by its length, a nested change record by what it says,
a flag by itself. -/
def ChangeRole.reports : ChangeRole → ComponentValue α → Bool
  | added, .pairs l | removed, .pairs l | updated, .pairs l => !l.isEmpty
  | added, .items l | removed, .items l | updated, .items l => !l.isEmpty
  | changes, .nullable inner => inner.any rt.hasChanged
  | hasChanged, .flag flag => flag
  | _, _ => false

abbrev ChangeRecord (α : Type*) : Type _ := List (String × ComponentValue α)

def ChangesStructEmitter.Check.eval (record : ChangeRecord α) : Check → Bool
  | hasElements name =>
    match record.lookup name with
    | some (.pairs l) => !l.isEmpty
    | some (.items l) => !l.isEmpty
    | _ => false
  | hasChanges name =>
    match record.lookup name with
    | some (.nullable inner) => inner.any rt.hasChanged
    | _ => false
  | isSet name =>
    match record.lookup name with
    | some (.flag flag) => flag
    | _ => false

namespace ClassOrStructureToUse

variable (values : String → PropertyValues α) (t : ClassOrStructureToUse)

def parameters : List Parameter := (changeableProps t).flatMap ChangesStructEmitter.parameters

/-- The local variables at the end of `Changes`. -/
def locals : Locals α := run rt values t.properties fun _ => .nullable none

/-- What `Changes` returns: the positional constructor gives each parameter its argument. -/
def changes : ChangeRecord α :=
  (t.parameters.map (·.component.name)).zip
    ((arguments t).map fun a => t.locals rt values a.var)

/-- `HasChanged`. -/
def hasChanged (record : ChangeRecord α) : Bool := (checks t).any (Check.eval rt record)

/-- What a component is to hold: what the buffer of its property has in that role. -/
def component (c : ChangeComponent) : ComponentValue α :=
  match t.properties.find? (·.name = c.property) with
  | some p => p.component rt (values p.name) c.role
  | none => .nullable none

end ClassOrStructureToUse

end Records

/-! ### Positions -/

/-- What each property gives, if it can change, is what the changeable properties give. -/
theorem flatMap_eq_flatMap_filter {β γ : Type*} {l : List β} {c : β → Bool} {f g : β → List γ}
    (h : ∀ b ∈ l, f b = if c b then g b else []) : l.flatMap f = (l.filter c).flatMap g := by
  induction l with
  | nil => rfl
  | cons b l ih =>
    rw [List.flatMap_cons, h b List.mem_cons_self,
      ih fun b' hb' => h b' (List.mem_cons_of_mem b hb'), List.filter_cons]
    split
    · rw [List.flatMap_cons]
    · rfl

section Types

variable {p : PropertyToUse}

theorem mem_writes_of_mem_declarations {s : Statement} {x : String} {type : LocalType}
    (h : (x, type) ∈ s.declarations) : x ∈ s.writes := by
  induction s with
  | seq first second ih₁ ih₂ =>
    rw [Statement.writes, List.mem_append]
    exact (List.mem_append.mp h).imp ih₁ ih₂
  | declare y type' =>
    cases List.mem_singleton.mp h
    exact List.mem_singleton_self x
  | skip => exact absurd h List.not_mem_nil
  | forEach buffer body => exact absurd h List.not_mem_nil
  | assertKey updater => exact absurd h List.not_mem_nil
  | branch test yes no => exact absurd h List.not_mem_nil
  | add y item => exact absurd h List.not_mem_nil
  | assign y value => exact absurd h List.not_mem_nil

/-- A variable of a property is declared in the block of the property. -/
theorem lookup_declarations {t : ClassOrStructureToUse} (hp : p ∈ t.properties) {x : String}
    (hx : IsVar p x) :
    (declarations t).lookup x = (propertyBody p).declarations.lookup x := by
  have hother : ∀ q ∈ t.properties, q.name ≠ p.name →
      (propertyBody q).declarations.lookup x = none := by
    intro q hq hne
    refine Dictionary.lookup_eq_none_of_notMem fun h => ?_
    obtain ⟨⟨y, type⟩, hmem, rfl⟩ := List.mem_map.mp h
    exact hne ((isVar_of_mem_writes (mem_writes_of_mem_declarations hmem)).name_eq hx)
  rw [declarations]
  have hdistinct := t.distinct
  generalize t.properties = ps at hp hother hdistinct
  induction ps with
  | nil => exact absurd hp List.not_mem_nil
  | cons q qs ih =>
    obtain ⟨hnot, hnodup⟩ := List.nodup_cons.mp hdistinct
    rw [List.flatMap_cons, List.lookup_append]
    rcases List.mem_cons.mp hp with rfl | hp
    · have hnone : (qs.flatMap fun q => (propertyBody q).declarations).lookup x = none := by
        rw [List.lookup_eq_none_iff]
        intro e he
        obtain ⟨q, hq, he⟩ := List.mem_flatMap.mp he
        have hne : q.name ≠ p.name := fun heq => hnot (heq ▸ List.mem_map_of_mem hq)
        exact List.lookup_eq_none_iff.mp (hother q (List.mem_cons_of_mem p hq) hne) e he
      rw [hnone, Option.or_none]
    · have hne : q.name ≠ p.name := fun heq => hnot (heq ▸ List.mem_map_of_mem hp)
      rw [hother q List.mem_cons_self hne, Option.none_or]
      exact ih hp (fun q hq => hother q (List.mem_cons_of_mem _ hq)) hnodup

/-- One property: what is passed has the type that is taken, if it is taken at all. -/
theorem map_type_ctorArgs {declared : List (String × LocalType)}
    (hdeclared : ∀ x, IsVar p x → declared.lookup x = (propertyBody p).declarations.lookup x) :
    (ctorArgs p).map (Argument.type declared) =
      if isChangeable p then
        (ChangesStructEmitter.parameters p).map fun parameter => some parameter.type
      else [] := by
  rw [ctorArgs, isChangeable, ChangesStructEmitter.parameters]
  rw [propertyBody] at hdeclared
  cases hd : p.type.dictionary with
  | some dictionary =>
    obtain ⟨k, v⟩ := dictionary
    rw [hd] at hdeclared
    obtain ⟨hau, har, hur⟩ := dictionaryVars_ne p
    have hadded := hdeclared (dictionaryAddedVar p) (isVar_append (by decide) (by decide) p)
    have hupdated := hdeclared (dictionaryUpdatedVar p) (isVar_append (by decide) (by decide) p)
    have hremoved := hdeclared (dictionaryRemovedVar p) (isVar_append (by decide) (by decide) p)
    simp [dictionaryBody, Statement.block, Statement.declarations, List.lookup_cons,
      beq_false_of_ne hau.symm, beq_false_of_ne har.symm, beq_false_of_ne hur.symm]
      at hadded hupdated hremoved
    simp [Argument.type, hadded, hupdated, hremoved]
  | none =>
    rw [hd] at hdeclared
    cases hs : p.type.set with
    | some v =>
      rw [hs] at hdeclared
      have hadded := hdeclared (setAddedVar p) (isVar_append (by decide) (by decide) p)
      have hremoved := hdeclared (setRemovedVar p) (isVar_append (by decide) (by decide) p)
      simp [setBody, Statement.block, Statement.declarations, List.lookup_cons,
        beq_false_of_ne (setVars_ne p).symm] at hadded hremoved
      simp [Argument.type, hadded, hremoved]
    | none =>
      rw [hs] at hdeclared
      cases hu : p.type.updater with
      | some updater =>
        rw [hu] at hdeclared
        have hchanges := hdeclared (changesVar p) (isVar_append (by decide) (by decide) p)
        simp [nestedBody, Statement.block, Statement.declarations] at hchanges
        simp [Argument.type, hchanges]
      | none =>
        rw [hu] at hdeclared
        cases hi : p.isInitOnly with
        | true => rfl
        | false =>
          rw [hi] at hdeclared
          obtain ⟨hhp, hhn, hpn⟩ := valueVars_ne p
          have hhas := hdeclared (hasVar p) (isVar_append (by decide) (by decide) p)
          have hprev := hdeclared (prevVar p) (isVar_append (by decide) (by decide) p)
          have hnew := hdeclared (newVar p) (isVar_append (by decide) (by decide) p)
          simp [valueBody, Statement.block, Statement.declarations, List.lookup_cons,
            beq_false_of_ne hhp.symm, beq_false_of_ne hhn.symm, beq_false_of_ne hpn.symm]
            at hhas hprev hnew
          simp [Argument.type, hhas, hprev, hnew]

theorem map_type_arguments (t : ClassOrStructureToUse) :
    (arguments t).map (Argument.type (declarations t)) =
      t.parameters.map fun parameter => some parameter.type := by
  rw [arguments, ClassOrStructureToUse.parameters, changeableProps, List.map_flatMap,
    List.map_flatMap]
  exact flatMap_eq_flatMap_filter fun p hp =>
    map_type_ctorArgs fun x hx => lookup_declarations hp hx

end Types

section Values

variable {α : Type*} [DecidableEq α] [Inhabited α] {rt : Runtime α} {p : PropertyToUse}

theorem isVar_of_mem_ctorArgs {a : Argument} (h : a ∈ ctorArgs p) : IsVar p a.var := by
  rw [ctorArgs] at h
  split at h
  · simp only [List.mem_cons, List.not_mem_nil, or_false] at h
    rcases h with rfl | rfl | rfl
    · exact isVar_append (by decide) (by decide) p
    · exact isVar_append (by decide) (by decide) p
    · exact isVar_append (by decide) (by decide) p
  · split at h
    · simp only [List.mem_cons, List.not_mem_nil, or_false] at h
      rcases h with rfl | rfl
      · exact isVar_append (by decide) (by decide) p
      · exact isVar_append (by decide) (by decide) p
    · split at h
      · rw [List.mem_singleton.mp h]
        exact isVar_append (by decide) (by decide) p
      · split at h
        · exact absurd h List.not_mem_nil
        · simp only [List.mem_cons, List.not_mem_nil, or_false] at h
          rcases h with rfl | rfl | rfl
          · exact isVar_append (by decide) (by decide) p
          · exact isVar_append (by decide) (by decide) p
          · exact isVar_append (by decide) (by decide) p

/-- One property: what is passed is what the block left for the component that takes it. -/
theorem map_exec_ctorArgs (values : PropertyValues α) (before : Locals α) :
    (ctorArgs p).map (fun a => (exec rt values (propertyBody p) default before).2 a.var) =
      if isChangeable p then
        (ChangesStructEmitter.parameters p).map fun parameter =>
          p.component rt values parameter.component.role
      else [] := by
  unfold ctorArgs isChangeable ChangesStructEmitter.parameters propertyBody
    PropertyToUse.component
  cases p.type.dictionary with
  | some dictionary =>
    obtain ⟨k, v⟩ := dictionary
    obtain ⟨hadded, hupdated, hremoved⟩ := exec_dictionaryBody rt values p v before k
    simp [Argument.var, hadded, hupdated, hremoved]
  | none =>
    cases p.type.set with
    | some v =>
      obtain ⟨hadded, hremoved⟩ := exec_setBody rt values p v before
      simp [Argument.var, hadded, hremoved]
    | none =>
      cases p.type.updater with
      | some updater => simp [Argument.var, exec_nestedBody]
      | none =>
        cases hi : p.isInitOnly with
        | true => rfl
        | false =>
          obtain ⟨hhas, hprev, hnew⟩ := exec_valueBody rt values p before
          simp [Argument.var, hhas, hprev, hnew]

variable (values : String → PropertyValues α)

omit [Inhabited α] in
theorem component_of_mem {t : ClassOrStructureToUse} (hp : p ∈ t.properties) (role : ChangeRole) :
    t.component rt values ⟨p.name, role⟩ = p.component rt (values p.name) role := by
  have hfind : t.properties.find? (·.name = p.name) = some p := by
    have hdistinct := t.distinct
    generalize t.properties = ps at hp hdistinct
    induction ps with
    | nil => exact absurd hp List.not_mem_nil
    | cons q qs ih =>
      obtain ⟨hnot, hnodup⟩ := List.nodup_cons.mp hdistinct
      rcases List.mem_cons.mp hp with rfl | hp
      · exact List.find?_cons_of_pos (decide_eq_true rfl)
      · have hne : q.name ≠ p.name := fun heq => hnot (heq ▸ List.mem_map_of_mem hp)
        rw [List.find?_cons_of_neg (by simpa using hne)]
        exact ih hp hnodup
  rw [ClassOrStructureToUse.component, hfind]

/-- The parameters of a property are components of it. -/
theorem property_of_mem_parameters {parameter : Parameter}
    (h : parameter ∈ ChangesStructEmitter.parameters p) :
    parameter.component.property = p.name := by
  rw [ChangesStructEmitter.parameters] at h
  split at h
  · simp only [List.mem_cons, List.not_mem_nil, or_false] at h
    rcases h with rfl | rfl | rfl <;> rfl
  · split at h
    · simp only [List.mem_cons, List.not_mem_nil, or_false] at h
      rcases h with rfl | rfl <;> rfl
    · split at h
      · rw [List.mem_singleton.mp h]
      · simp only [List.mem_cons, List.not_mem_nil, or_false] at h
        rcases h with rfl | rfl | rfl <;> rfl

/-- **At every position** the argument is what the buffer of the parameter's property has in the
parameter's role. -/
theorem map_locals_arguments (t : ClassOrStructureToUse) :
    (arguments t).map (fun a => t.locals rt values a.var) =
      t.parameters.map fun parameter => t.component rt values parameter.component := by
  rw [arguments, ClassOrStructureToUse.parameters, changeableProps, List.map_flatMap,
    List.map_flatMap]
  refine flatMap_eq_flatMap_filter fun p hp => ?_
  obtain ⟨before, hlocals⟩ := exists_run_eq rt values t.distinct hp fun _ => .nullable none
  have hargs : (ctorArgs p).map (fun a => t.locals rt values a.var) =
      (ctorArgs p).map fun a => (exec rt (values p.name) (propertyBody p) default before).2 a.var :=
    List.map_congr_left fun a ha => hlocals a.var (isVar_of_mem_ctorArgs ha)
  rw [hargs, map_exec_ctorArgs]
  split
  · refine List.map_congr_left fun parameter hparameter => ?_
    obtain ⟨type, property, role⟩ := parameter
    obtain rfl : property = p.name := property_of_mem_parameters hparameter
    exact (component_of_mem values hp role).symm
  · rfl

end Values

/-! ### Names -/

def ChangeRole.all : List ChangeRole :=
  [added, removed, updated, changes, hasChanged, previous, new]

theorem ChangeRole.mem_all (role : ChangeRole) : role ∈ all := by
  cases role <;> decide

theorem ChangeComponent.name_injective : Function.Injective ChangeComponent.name := by
  rintro ⟨property, role⟩ ⟨property', role'⟩ h
  have hsuffix : ∀ role ∈ ChangeRole.all, ∀ role' ∈ ChangeRole.all,
      role.suffix.toList <:+ role'.suffix.toList → role = role' := by decide +kernel
  obtain ⟨rfl, rfl⟩ := append_suffix_inj hsuffix role.mem_all role'.mem_all h
  rfl

/-- The components of one property are different ones. -/
theorem nodup_components_of_property (p : PropertyToUse) :
    ((ChangesStructEmitter.parameters p).map Parameter.component).Nodup := by
  rw [ChangesStructEmitter.parameters]
  split
  · simp
  · split
    · simp
    · split
      · simp
      · simp

theorem nodup_components (t : ClassOrStructureToUse) :
    (t.parameters.map Parameter.component).Nodup := by
  rw [ClassOrStructureToUse.parameters, List.map_flatMap, List.nodup_flatMap]
  refine ⟨fun p _ => nodup_components_of_property p, ?_⟩
  have hdistinct := (List.pairwise_map.mp t.distinct).sublist
    (List.filter_sublist (p := isChangeable))
  refine hdistinct.imp ?_
  intro p q hne c hp hq
  obtain ⟨a, ha, rfl⟩ := List.mem_map.mp hp
  obtain ⟨b, hb, hcomponent⟩ := List.mem_map.mp hq
  refine hne ?_
  rw [← property_of_mem_parameters ha, ← property_of_mem_parameters hb, hcomponent]

/-! ### `HasChanged` of a record -/

/-- The check of a component, if there is one. -/
def ChangeComponent.check (component : ChangeComponent) : Option Check :=
  match component.role with
  | .added | .removed | .updated => some (.hasElements component.name)
  | .changes => some (.hasChanges component.name)
  | .hasChanged => some (.isSet component.name)
  | .previous | .new => none

theorem propertyChecks_eq (p : PropertyToUse) :
    propertyChecks p = if isChangeable p then
      (ChangesStructEmitter.parameters p).filterMap fun parameter => parameter.component.check
    else [] := by
  rw [propertyChecks, isChangeable, ChangesStructEmitter.parameters]
  cases p.type.dictionary with
  | some dictionary => rfl
  | none =>
    cases p.type.set with
    | some s => rfl
    | none =>
      cases p.type.updater with
      | some updater => rfl
      | none =>
        cases p.isInitOnly with
        | true => rfl
        | false => rfl

theorem checks_eq (t : ClassOrStructureToUse) :
    checks t = t.parameters.filterMap fun parameter => parameter.component.check := by
  rw [checks, ClassOrStructureToUse.parameters, changeableProps, List.filterMap_flatMap]
  exact flatMap_eq_flatMap_filter fun p _ => propertyChecks_eq p

section HasChanged

variable {α : Type*} [DecidableEq α] [Inhabited α] (rt : Runtime α)
  (values : String → PropertyValues α)

/-- **A component of the record** holds what it is to hold. -/
theorem lookup_changes {t : ClassOrStructureToUse} {parameter : Parameter}
    (h : parameter ∈ t.parameters) :
    (t.changes rt values).lookup parameter.component.name =
      some (t.component rt values parameter.component) := by
  have hchanges : t.changes rt values = t.parameters.map fun parameter =>
      (parameter.component.name, t.component rt values parameter.component) := by
    rw [ClassOrStructureToUse.changes, map_locals_arguments, List.zip_map']
  have hnodup : ((t.changes rt values).map Prod.fst).Nodup := by
    rw [hchanges, List.map_map]
    have hcomponents := (nodup_components t).map ChangeComponent.name_injective
    rwa [List.map_map] at hcomponents
  rw [Dictionary.lookup_eq_some_iff_mem hnodup, hchanges]
  exact List.mem_map_of_mem h

omit [DecidableEq α] [Inhabited α] in
/-- The check of a component says whether it reports a change. One without a check never does. -/
theorem reports_eq (component : ChangeComponent) {record : ChangeRecord α} {v : ComponentValue α}
    (h : record.lookup component.name = some v) :
    component.role.reports rt v = component.check.any fun check => check.eval rt record := by
  rw [ChangeComponent.check]
  cases component.role <;> cases v <;> simp [ChangeRole.reports, Check.eval, h]

theorem hasChanged_changes_iff (t : ClassOrStructureToUse) :
    t.hasChanged rt (t.changes rt values) = true ↔ ∃ parameter ∈ t.parameters,
      parameter.component.role.reports rt (t.component rt values parameter.component) = true := by
  rw [ClassOrStructureToUse.hasChanged, checks_eq, List.any_filterMap, List.any_eq_true]
  refine exists_congr fun parameter => and_congr_right fun h => ?_
  rw [reports_eq rt parameter.component (lookup_changes rt values h)]
  cases parameter.component.check with
  | none => rfl
  | some check => rfl

end HasChanged

/-! ### The texts -/

theorem stringJoin_cons (separator s : String) {ss : List String} (h : ss ≠ []) :
    stringJoin separator (s :: ss) = s ++ separator ++ stringJoin separator ss := by
  obtain ⟨s', rest, rfl⟩ := List.exists_cons_of_ne_nil h
  rfl

theorem stringJoin_append (separator : String) {ss ss' : List String} (h : ss ≠ [])
    (h' : ss' ≠ []) :
    stringJoin separator (ss ++ ss') =
      stringJoin separator ss ++ separator ++ stringJoin separator ss' := by
  induction ss with
  | nil => exact absurd rfl h
  | cons s ss ih =>
    rw [List.cons_append, stringJoin_cons separator s (List.append_ne_nil_of_right_ne_nil ss h')]
    by_cases hss : ss = []
    · subst hss
      rfl
    · rw [ih hss, stringJoin_cons separator s hss]
      simp only [String.append_assoc]

theorem parameters_ne_nil (p : PropertyToUse) : ChangesStructEmitter.parameters p ≠ [] := by
  rw [ChangesStructEmitter.parameters]
  split
  · exact List.cons_ne_nil _ _
  · split
    · exact List.cons_ne_nil _ _
    · split
      · exact List.cons_ne_nil _ _
      · exact List.cons_ne_nil _ _

/-- What is written is the list of the parameters, with a comma between any two. -/
theorem emitParameters_eq {ps : List PropertyToUse} (h : ps ≠ []) :
    emitParameters ps =
      stringJoin ",\n" ((ps.flatMap ChangesStructEmitter.parameters).map
        fun parameter => "\t" ++ parameter.text) ++ "\n" := by
  induction ps with
  | nil => exact absurd rfl h
  | cons p ps ih =>
    rw [emitParameters]
    cases ps with
    | nil =>
      rw [List.flatMap_singleton, emitParameters]
      exact String.append_empty
    | cons q ps =>
      have hp := parameters_ne_nil p
      have hq : (q :: ps).flatMap ChangesStructEmitter.parameters ≠ [] :=
        List.append_ne_nil_of_left_ne_nil (parameters_ne_nil q) _
      have hsplit : (p :: q :: ps).flatMap ChangesStructEmitter.parameters =
          ChangesStructEmitter.parameters p ++
            (q :: ps).flatMap ChangesStructEmitter.parameters := List.flatMap_cons
      rw [ih (List.cons_ne_nil _ _), hsplit, List.map_append,
        stringJoin_append _ (List.map_eq_nil_iff.not.mpr hp) (List.map_eq_nil_iff.not.mpr hq)]
      simp only [List.isEmpty_cons, Bool.false_eq_true, if_false, String.append_assoc]

/-- The text of the check of a component, after the name of the property. -/
def ChangeRole.checkSuffix : ChangeRole → String
  | added => "Added?.Length > 0"
  | removed => "Removed?.Length > 0"
  | updated => "Updated?.Length > 0"
  | changes => "Changes?.HasChanged == true"
  | hasChanged => "HasChanged"
  | previous => "Previous"
  | new => "New"

theorem ChangeComponent.text_of_check {component : ChangeComponent} {check : Check}
    (h : component.check = some check) :
    check.text = component.property ++ component.role.checkSuffix := by
  obtain ⟨property, role⟩ := component
  cases role <;> cases h <;> first | rfl | exact String.append_assoc ..

/-- No check is written twice, so `Distinct` has nothing to do. -/
theorem nodup_texts (t : ClassOrStructureToUse) : ((checks t).map Check.text).Nodup := by
  have hsuffix : ∀ role ∈ ChangeRole.all, ∀ role' ∈ ChangeRole.all,
      role.checkSuffix.toList <:+ role'.checkSuffix.toList → role = role' := by decide +kernel
  have hchecks : (checks t).map Check.text =
      (t.parameters.map Parameter.component).filterMap fun component =>
        component.check.map Check.text := by
    rw [checks_eq, List.map_filterMap, List.filterMap_map]
    rfl
  rw [hchecks]
  refine (nodup_components t).filterMap fun a b text ha hb => ?_
  obtain ⟨checkA, hcheckA, rfl⟩ := Option.map_eq_some_iff.mp ha
  obtain ⟨checkB, hcheckB, htext⟩ := Option.map_eq_some_iff.mp hb
  rw [ChangeComponent.text_of_check hcheckA, ChangeComponent.text_of_check hcheckB] at htext
  obtain ⟨hproperty, hrole⟩ :=
    append_suffix_inj hsuffix a.role.mem_all b.role.mem_all htext.symm
  cases a
  cases b
  cases hproperty
  cases hrole
  rfl

theorem eraseDups_of_nodup {ss : List String} (h : ss.Nodup) : ss.eraseDups = ss := by
  induction ss with
  | nil => rfl
  | cons s ss ih =>
    obtain ⟨hnot, hnodup⟩ := List.nodup_cons.mp h
    have hfilter : ss.filter (fun s' => !s' == s) = ss := by
      refine List.filter_eq_self.mpr fun s' hs' => ?_
      rw [Bool.not_eq_true', beq_eq_false_iff_ne]
      exact ne_of_mem_of_not_mem hs' hnot
    rw [List.eraseDups_cons, hfilter, ih hnodup]

theorem emitHasChanged_eq {t : ClassOrStructureToUse} (h : checks t ≠ []) :
    emitHasChanged t = stringJoin " || " ((checks t).map Check.text) := by
  rw [emitHasChanged, List.isEmpty_eq_false_iff.mpr h, eraseDups_of_nodup (nodup_texts t)]
  rfl

/-- What is emitted for a class that can change. -/
theorem emit_eq {t : ClassOrStructureToUse} (hproperties : changeableProps t ≠ [])
    (hchecks : checks t ≠ []) (accessibility : String) :
    emit t accessibility =
      accessibility ++ " readonly record struct " ++ t.changesName ++ "(\n" ++
        (stringJoin ",\n" (t.parameters.map fun parameter => "\t" ++ parameter.text) ++ "\n") ++
        ")\n\x7b\n    public bool HasChanged => " ++
        stringJoin " || " ((checks t).map Check.text) ++ ";\n" := by
  rw [emit, emitParameters_eq hproperties, emitHasChanged_eq hchecks,
    ClassOrStructureToUse.parameters]

end Generator

end Connect3Dp
