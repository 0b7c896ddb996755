import Connect3Dp.MachineConnectionCollection

/-!
# What a removal leaves

`Remove` takes a connection out of the collection. It stays in the store, which no call of the
collection removes it from, so that the next load brings it back; and the object keeps the handler
that stores its configuration whenever it changes. `final_iff_keepsFinal` says which runs do not
undo the removal.
-/

namespace Connect3Dp

namespace MachineConnectionCollection

variable {Kind Configuration : Type}

section Statement

variable (types : ConnectorTypes Configuration) (codec : ConfigurationCodec Kind Configuration)

/-- The id is not held, and the removed connection `c` has not stored its configuration under it
since `σ₁`. -/
structure Final (σ₁ : MachineConnectionCollection Configuration) (id : String) (c : ConnectionRef)
    (σ : MachineConnectionCollection Configuration) : Prop where
  notHeld : σ.connections.tryGetValue id = none
  notStored : σ.stored.count (c, id) = σ₁.stored.count (c, id)

/-- The events that do not undo the removal of the connection `c`: neither an addition nor a load
uses its id, and its configuration does not change. -/
def KeepsFinal (id : String) (c : ConnectionRef) (σ : MachineConnectionCollection Configuration) :
    CollectionEvent Configuration → Prop
  | .add c' => c'.address < σ.nextAddress → (σ.objects c').id ≠ id
  | .loadFromConfigurations cfgs =>
    ∀ cfg ∈ cfgs, cfg.1 = id → types.tryCreateFromConfiguration cfg.2 = none
  | .loadFromConfigurationStore =>
    ∀ cfg ∈ (σ.loadConfigurations codec).1, cfg.1 = id →
      types.tryCreateFromConfiguration cfg.2 = none
  | .configurationChanged c' _ =>
    c' = c → (σ.objects c).isConfigurable = false ∨ isNullOrWhiteSpace (some id) = true
  | _ => True

end Statement

variable {types : ConnectorTypes Configuration} {codec : ConfigurationCodec Kind Configuration}
  {σ σ' : MachineConnectionCollection Configuration} {c : ConnectionRef} {id : String}
  {cfg : String × ConfigurationWithDiscrimination Configuration}
  {cfgs : List (String × ConfigurationWithDiscrimination Configuration)}
  {answers : ℕ → ConnectionAnswer}

/-! ### What is stored -/

@[simp]
theorem objects_storeConfiguration (c' : ConnectionRef) :
    (finalState (storeConfiguration types codec c σ)).objects c' = σ.objects c' := by
  unfold storeConfiguration
  dsimp only
  split
  all_goals rfl

theorem stored_storeConfiguration :
    (finalState (storeConfiguration types codec c σ)).stored =
      if isNullOrWhiteSpace (some (σ.objects c).id) then σ.stored
      else σ.stored ++ [(c, (σ.objects c).id)] := by
  by_cases hblank : isNullOrWhiteSpace (some (σ.objects c).id) = true
  · simp only [storeConfiguration, JsonFileBasedMachineConfigurationStore.storeConfiguration,
      if_pos hblank, finalState]
  · simp only [storeConfiguration, JsonFileBasedMachineConfigurationStore.storeConfiguration,
      if_neg hblank, finalState]

/-- Each time that the handler is attached, the configuration is stored. -/
theorem stored_onConfigurationChanged (attached : ℕ) :
    (σ.onConfigurationChanged types codec c attached).stored =
      if (σ.objects c).isConfigurable ∧ isNullOrWhiteSpace (some (σ.objects c).id) = false then
        σ.stored ++ List.replicate attached (c, (σ.objects c).id)
      else σ.stored := by
  induction attached generalizing σ with
  | zero => simp [onConfigurationChanged]
  | succ attached ih =>
    rw [onConfigurationChanged, Function.iterate_succ_apply, ← onConfigurationChanged, ih]
    by_cases hconfigurable : (σ.objects c).isConfigurable = true
    · rw [if_pos hconfigurable]
      simp only [objects_storeConfiguration, stored_storeConfiguration, hconfigurable, true_and]
      by_cases hblank : isNullOrWhiteSpace (some (σ.objects c).id) = true
      · simp [hblank]
      · simp [hblank, List.replicate_succ]
    · simp [hconfigurable]

theorem stored_add (h : σ.connections.tryGetValue (σ.objects c).id = none) (c' : ConnectionRef)
    (hid : (σ.objects c).id ≠ id) :
    (finalState (add types codec c σ)).stored.count (c', id) = σ.stored.count (c', id) := by
  have hset : ((σ.setConnection (σ.objects c).id c).objects c).id = (σ.objects c).id := by
    simp [setConnection, listenForChanges, modifyObject]
  simp only [add, h]
  split
  · rw [stored_storeConfiguration, hset]
    split
    · rfl
    · change (σ.stored ++ [(c, (σ.objects c).id)]).count (c', id) = _
      have hother : [(c, (σ.objects c).id)].count (c', id) = 0 := by
        refine List.count_eq_zero_of_not_mem fun hmem => ?_
        cases List.mem_singleton.mp hmem
        exact hid rfl
      rw [List.count_append, hother, Nat.add_zero]
  · rfl

/-! ### Objects through a run -/

/-- Objects that exist keep their id, and the handler of `OnConfigurationChanged`. -/
structure Grows (σ σ' : MachineConnectionCollection Configuration) : Prop where
  nextAddress : σ.nextAddress ≤ σ'.nextAddress
  id : ∀ c, c.address < σ.nextAddress → (σ'.objects c).id = (σ.objects c).id
  attached : ∀ c, c.address < σ.nextAddress →
    (σ.objects c).onConfigurationChanged ≤ (σ'.objects c).onConfigurationChanged

theorem Grows.refl (σ : MachineConnectionCollection Configuration) : Grows σ σ :=
  ⟨le_rfl, fun _ _ => rfl, fun _ _ => le_rfl⟩

theorem Grows.trans {σ'' : MachineConnectionCollection Configuration} (h : Grows σ σ')
    (h' : Grows σ' σ'') : Grows σ σ'' := by
  refine ⟨h.nextAddress.trans h'.nextAddress, fun c hc => ?_, fun c hc => ?_⟩
  · exact (h'.id c (lt_of_lt_of_le hc h.nextAddress)).trans (h.id c hc)
  · exact (h.attached c hc).trans (h'.attached c (lt_of_lt_of_le hc h.nextAddress))

theorem Kept.grows (h : Kept σ σ') : Grows σ σ' :=
  ⟨h.nextAddress, fun c hc => (h.old c hc).id, fun c hc => (h.old c hc).onConfigurationChanged.ge⟩

theorem Created.grows (h : Created σ id σ') : Grows σ σ' := by
  refine ⟨h.nextAddress ▸ Nat.le_succ _, fun c hc => ?_, fun c hc => ?_⟩
  all_goals rw [h.old c (ne_nextAddress hc)]

theorem Detached.grows (h : Detached σ id σ') : Grows σ σ' :=
  ⟨h.nextAddress.ge, fun c _ => h.id c, fun c _ => (h.onConfigurationChanged c).ge⟩

theorem grows_setConnection : Grows σ (σ.setConnection id c) := by
  refine ⟨le_rfl, fun c' _ => ?_, fun c' _ => ?_⟩
  all_goals
    simp only [setConnection, listenForChanges, modifyObject]
    by_cases heq : c' = c
    · subst heq
      simp only [Function.update_self, Nat.le_succ]
    · simp only [Function.update_of_ne heq, le_refl]

theorem grows_loadFromConfigurations (hallocated : σ.Allocated) :
    Grows σ (finalState (loadFromConfigurations types cfgs answers σ)) := by
  refine (loadFromConfigurations_induct ?_ ?_ hallocated (Grows.refl σ)).1
  · exact fun σ₁ σ₂ _ h hkept _ => h.trans hkept.grows
  · exact fun σ₁ σ₂ cfg _ _ h _ _ hcreated _ => h.trans hcreated.grows

theorem grows_perform (hallocated : σ.Allocated) (answers : ℕ → ConnectionAnswer)
    (e : CollectionEvent Configuration) : Grows σ (σ.perform types codec answers e) := by
  cases e with
  | construct id isConfigurable configuration => exact (kept_construct ..).grows
  | add connection =>
    dsimp only [perform]
    split
    case isFalse => exact .refl σ
    case isTrue hlt =>
      cases hheld : σ.connections.tryGetValue (σ.objects connection).id with
      | some c =>
        rw [add_of_some hheld]
        exact .refl σ
      | none => exact grows_setConnection.trans (kept_add hheld).grows
  | remove machineID =>
    dsimp only [perform]
    cases hheld : σ.connections.tryGetValue machineID with
    | none =>
      rw [remove_of_none hheld]
      exact .refl σ
    | some c => exact (detached_remove hheld).grows
  | loadFromConfigurations cfgs => exact grows_loadFromConfigurations hallocated
  | loadFromConfigurationStore =>
    have hkept : Kept σ (σ.loadConfigurations codec).2 := kept_loadConfigurations
    exact hkept.grows.trans (grows_loadFromConfigurations (hkept.allocated hallocated))
  | configurationChanged connection configuration => exact (kept_configurationChanged ..).grows

/-! ### What is held -/

/-- A connection that is held is held under its id, and has the handler. -/
def Holds (σ : MachineConnectionCollection Configuration) : Prop :=
  ∀ k c, σ.connections.tryGetValue k = some c →
    (σ.objects c).id = k ∧ 0 < (σ.objects c).onConfigurationChanged

theorem Holds.grows (hσ : Grows σ σ') (hallocated : σ.Allocated)
    (hconnections : ∀ k c, σ'.connections.tryGetValue k = some c →
      σ.connections.tryGetValue k = some c) (h : σ.Holds) : σ'.Holds := by
  intro k c hc
  have hc := hconnections k c hc
  have hlt := hallocated.connections k c hc
  obtain ⟨hid, hpos⟩ := h k c hc
  exact ⟨(hσ.id c hlt).trans hid, lt_of_lt_of_le hpos (hσ.attached c hlt)⟩

theorem Kept.holds (h : Kept σ σ') (hallocated : σ.Allocated) (hholds : σ.Holds) : σ'.Holds :=
  hholds.grows h.grows hallocated fun _ _ hc => h.connections ▸ hc

theorem holds_loadFromConfigurations (hallocated : σ.Allocated) (h : σ.Holds) :
    (finalState (loadFromConfigurations types cfgs answers σ)).Holds := by
  refine (loadFromConfigurations_induct ?_ ?_ hallocated h).1
  · exact fun σ σ' hallocated h hkept _ => hkept.holds hallocated h
  · intro σ σ' cfg _ hallocated h _ _ hcreated _ k c hc
    rw [hcreated.connections, Dictionary.tryGetValue_set] at hc
    split at hc
    · rename_i hk
      cases hc
      rw [hk, hcreated.id, hcreated.handlers.2]
      exact ⟨rfl, Nat.one_pos⟩
    · rw [hcreated.old c (ne_nextAddress (hallocated.connections k c hc))]
      exact h k c hc

theorem holds_setConnection (hholds : σ.Holds) :
    (σ.setConnection (σ.objects c).id c).Holds := by
  intro k c' hc'
  change (σ.connections.set (σ.objects c).id c).tryGetValue k = some c' at hc'
  simp only [setConnection, listenForChanges, modifyObject]
  by_cases heq : c' = c
  · subst heq
    rw [Dictionary.tryGetValue_set] at hc'
    simp only [Function.update_self]
    refine ⟨?_, Nat.succ_pos _⟩
    split at hc'
    · rename_i hk
      exact hk.symm
    · exact (hholds k c' hc').1
  · rw [Dictionary.tryGetValue_set] at hc'
    simp only [Function.update_of_ne heq]
    split at hc'
    · exact absurd (Option.some.inj hc').symm heq
    · exact hholds k c' hc'

theorem holds_perform (hallocated : σ.Allocated) (hholds : σ.Holds)
    (answers : ℕ → ConnectionAnswer) (e : CollectionEvent Configuration) :
    (σ.perform types codec answers e).Holds := by
  cases e with
  | construct id isConfigurable configuration => exact (kept_construct ..).holds hallocated hholds
  | add connection =>
    dsimp only [perform]
    split
    case isFalse => exact hholds
    case isTrue hlt =>
      cases hheld : σ.connections.tryGetValue (σ.objects connection).id with
      | some c => rwa [add_of_some hheld]
      | none =>
        exact (kept_add hheld).holds (allocated_setConnection hallocated hlt _)
          (holds_setConnection hholds)
  | remove machineID =>
    dsimp only [perform]
    cases hheld : σ.connections.tryGetValue machineID with
    | none => rwa [remove_of_none hheld]
    | some c =>
      have hdetached : Detached σ machineID (finalState (remove machineID (answers 0) σ)) :=
        detached_remove hheld
      refine hholds.grows hdetached.grows hallocated fun k c hc => ?_
      rw [hdetached.connections, Dictionary.tryGetValue_remove] at hc
      split at hc
      · cases hc
      · exact hc
  | loadFromConfigurations cfgs => exact holds_loadFromConfigurations hallocated hholds
  | loadFromConfigurationStore =>
    have hkept : Kept σ (σ.loadConfigurations codec).2 := kept_loadConfigurations
    exact holds_loadFromConfigurations (hkept.allocated hallocated)
      (hkept.holds hallocated hholds)
  | configurationChanged connection configuration =>
    exact (kept_configurationChanged ..).holds hallocated hholds

/-! ### Loads of a removed connection -/

/-- Nothing is stored by a load. -/
theorem stored_loadFromConfigurations (hallocated : σ.Allocated) :
    (finalState (loadFromConfigurations types cfgs answers σ)).stored = σ.stored := by
  refine (loadFromConfigurations_induct (I := fun σ' => σ'.stored = σ.stored) ?_ ?_ hallocated
    rfl).1
  · exact fun _ _ _ h _ hstored => hstored.trans h
  · exact fun _ _ _ _ _ h _ _ _ hstored => hstored.trans h

/-- An id that is held is held after a load. -/
theorem held_loadFromConfigurations (hallocated : σ.Allocated)
    (h : σ.connections.tryGetValue id ≠ none) :
    (finalState (loadFromConfigurations types cfgs answers σ)).connections.tryGetValue id ≠
      none := by
  refine (loadFromConfigurations_induct (I := fun σ => σ.connections.tryGetValue id ≠ none) ?_ ?_
    hallocated h).1
  · exact fun σ σ' _ h hkept _ => hkept.connections ▸ h
  · intro σ σ' cfg _ _ h _ _ hcreated _
    rw [hcreated.connections, Dictionary.tryGetValue_set]
    split
    · exact Option.some_ne_none _
    · exact h

/-- A configuration that a connection is created from brings its id back. -/
theorem held_of_mem (hallocated : σ.Allocated) (hmem : cfg ∈ cfgs)
    (hcreate : types.tryCreateFromConfiguration cfg.2 ≠ none)
    (hanswers : ∀ i, (answers i).disconnects = true) :
    (finalState (loadFromConfigurations types cfgs answers σ)).connections.tryGetValue cfg.1 ≠
      none := by
  induction cfgs generalizing σ answers with
  | nil => cases hmem
  | cons head cfgs ih =>
    have hcases : LoadOutcome types σ head (answers 0) _ := loadConfiguration_cases hallocated
    generalize hrun : loadConfiguration types head (answers 0) σ = r at hcases
    have hanswers' : ∀ i, (answers (i + 1)).disconnects = true := fun i => hanswers (i + 1)
    cases hcases with
    | skipped hskip =>
      rw [loadFromConfigurations_ok hrun]
      rcases List.mem_cons.mp hmem with rfl | hmem
      · exact absurd hskip hcreate
      · exact ih hallocated hmem hanswers'
    | kept hc hconfigurable hσ hstored =>
      rw [loadFromConfigurations_ok hrun]
      rcases List.mem_cons.mp hmem with rfl | hmem
      · refine held_loadFromConfigurations (hσ.allocated hallocated) ?_
        rw [hσ.connections, hc]
        exact Option.some_ne_none _
      · exact ih (hσ.allocated hallocated) hmem hanswers'
    | refused hc hconfigurable hanswer hσ hstored => cases hanswer.symm.trans (hanswers 0)
    | created hsome hc hσ hstored =>
      rw [loadFromConfigurations_ok hrun]
      rcases List.mem_cons.mp hmem with rfl | hmem
      · refine held_loadFromConfigurations (hσ.allocated hallocated) ?_
        rw [hσ.connections, Dictionary.tryGetValue_set_self]
        exact Option.some_ne_none _
      · exact ih (hσ.allocated hallocated) hmem hanswers'

/-- **A load leaves an id out**, whatever the connections answer, just when no connection is created
from a configuration of the id. -/
theorem notHeld_loadFromConfigurations_iff (hallocated : σ.Allocated)
    (hnone : σ.connections.tryGetValue id = none) :
    (∀ answers, (finalState (loadFromConfigurations types cfgs answers σ)).connections.tryGetValue
        id = none) ↔
      ∀ cfg ∈ cfgs, cfg.1 = id → types.tryCreateFromConfiguration cfg.2 = none := by
  constructor
  · rintro hall cfg hmem rfl
    by_contra hcreate
    have hheld := held_of_mem hallocated hmem hcreate
      (fun i => rfl : ∀ i : ℕ, ((fun _ => ⟨true, true, true⟩ : ℕ → ConnectionAnswer) i).disconnects
        = true)
    exact hheld (hall _)
  · intro hnot answers
    refine (loadFromConfigurations_induct (I := fun σ => σ.connections.tryGetValue id = none) ?_ ?_
      hallocated hnone).1
    · exact fun σ σ' _ h hkept _ => hkept.connections ▸ h
    · intro σ σ' cfg hmem _ h hcreate _ hcreated _
      have hkey : id ≠ cfg.1 := by
        rintro rfl
        rw [hnot cfg hmem rfl] at hcreate
        cases hcreate
      rw [hcreated.connections, Dictionary.tryGetValue_set_of_ne _ hkey]
      exact h

/-! ### Runs after a removal -/

/-- How often the change of a configuration is stored under an id. -/
theorem count_configurationChanged {c' : ConnectionRef} (configuration : Configuration)
    (attached : ℕ) :
    ((σ.modifyObject c' fun o => { o with configuration }).onConfigurationChanged types codec c'
        attached).stored.count (c, id) =
      σ.stored.count (c, id) +
        if c' = c ∧ (σ.objects c).id = id ∧ (σ.objects c).isConfigurable = true ∧
          isNullOrWhiteSpace (some id) = false then attached else 0 := by
  have hobject : (σ.modifyObject c' fun o => { o with configuration }).objects c' =
      { σ.objects c' with configuration } := by
    simp only [modifyObject, Function.update_self]
  rw [stored_onConfigurationChanged, hobject]
  change (if (σ.objects c').isConfigurable = true ∧
    isNullOrWhiteSpace (some (σ.objects c').id) = false then
      σ.stored ++ List.replicate attached (c', (σ.objects c').id) else σ.stored).count (c, id) = _
  by_cases hsame : c' = c ∧ (σ.objects c).id = id
  · obtain ⟨rfl, rfl⟩ := hsame
    simp only [true_and]
    split
    · rw [List.count_append, List.count_replicate_self]
    · rfl
  · have hzero : (if c' = c ∧ (σ.objects c).id = id ∧ (σ.objects c).isConfigurable = true ∧
        isNullOrWhiteSpace (some id) = false then attached else 0) = 0 :=
      if_neg fun h => hsame ⟨h.1, h.2.1⟩
    rw [hzero, Nat.add_zero]
    split
    · rw [List.count_append, List.count_replicate, if_neg, Nat.add_zero]
      rw [beq_iff_eq]
      intro heq
      cases heq
      exact hsame ⟨rfl, rfl⟩
    · rfl

/-- An addition undoes the removal just when the connection has its id. -/
theorem final_add_iff {σ₁ : MachineConnectionCollection Configuration} (hfinal : Final σ₁ id c σ)
    (c' : ConnectionRef) :
    (∀ answers, Final σ₁ id c (σ.perform types codec answers (.add c'))) ↔
      KeepsFinal types codec id c σ (.add c') := by
  obtain ⟨hnone, hcount⟩ := hfinal
  dsimp only [perform, KeepsFinal]
  by_cases hlt : c'.address < σ.nextAddress
  · simp only [hlt, true_imp_iff, if_true]
    by_cases hkey : (σ.objects c').id = id
    · refine iff_of_false (fun hall => ?_) fun hne => hne hkey
      have hheld : σ.connections.tryGetValue (σ.objects c').id = none := by rw [hkey, hnone]
      have hadded := (hall fun _ => ⟨true, true, true⟩).notHeld
      rw [(kept_add hheld).connections, ← hkey] at hadded
      have hset : (σ.setConnection (σ.objects c').id c').connections.tryGetValue
          (σ.objects c').id = some c' := Dictionary.tryGetValue_set_self ..
      cases hset.symm.trans hadded
    · refine iff_of_true (fun _ => ?_) hkey
      cases hheld : σ.connections.tryGetValue (σ.objects c').id with
      | some c'' =>
        rw [add_of_some hheld]
        exact ⟨hnone, hcount⟩
      | none =>
        refine ⟨?_, (stored_add hheld c hkey).trans hcount⟩
        rw [(kept_add hheld).connections]
        exact (Dictionary.tryGetValue_set_of_ne _ (Ne.symm hkey) _).trans hnone
  · exact iff_of_true (fun _ => by rw [if_neg hlt]; exact ⟨hnone, hcount⟩) fun h => absurd h hlt

/-- Another removal does not undo the removal. -/
theorem Final.remove {σ₁ : MachineConnectionCollection Configuration} (hfinal : Final σ₁ id c σ)
    (machineID : String) (answers : ℕ → ConnectionAnswer) :
    Final σ₁ id c (σ.perform types codec answers (.remove machineID)) := by
  obtain ⟨hnone, hcount⟩ := hfinal
  dsimp only [perform]
  cases hheld : σ.connections.tryGetValue machineID with
  | none =>
    rw [remove_of_none hheld]
    exact ⟨hnone, hcount⟩
  | some c' =>
    have hdetached : Detached σ machineID (finalState
        (MachineConnectionCollection.remove machineID (answers 0) σ)) := detached_remove hheld
    refine ⟨?_, hdetached.stored ▸ hcount⟩
    rw [hdetached.connections, Dictionary.tryGetValue_remove]
    split
    · rfl
    · exact hnone

/-- A change of a configuration undoes the removal just when the removed connection stores it. -/
theorem final_configurationChanged_iff {σ₁ : MachineConnectionCollection Configuration}
    (hid : (σ.objects c).id = id) (hattached : 0 < (σ.objects c).onConfigurationChanged)
    (hfinal : Final σ₁ id c σ) (c' : ConnectionRef) (configuration : Configuration) :
    (∀ answers, Final σ₁ id c
      (σ.perform types codec answers (.configurationChanged c' configuration))) ↔
        KeepsFinal types codec id c σ (.configurationChanged c' configuration) := by
  obtain ⟨hnone, hcount⟩ := hfinal
  dsimp only [perform, KeepsFinal]
  have hheld : ∀ attached, ((σ.modifyObject c' fun o => { o with configuration
      }).onConfigurationChanged types codec c' attached).connections.tryGetValue id = none := by
    intro attached
    rw [(kept_configurationChanged configuration attached).connections]
    exact hnone
  have hsame : ((σ.modifyObject c fun o => { o with configuration }).objects
      c).onConfigurationChanged = (σ.objects c).onConfigurationChanged := by
    simp only [modifyObject, Function.update_self]
  constructor
  · rintro hall rfl
    have hstored := (hall fun _ => ⟨true, true, true⟩).notStored
    rw [count_configurationChanged, hsame, hcount] at hstored
    by_contra hnot
    rw [not_or, Bool.not_eq_false, Bool.not_eq_true] at hnot
    rw [if_pos ⟨rfl, hid, hnot.1, hnot.2⟩] at hstored
    omega
  · intro hkeeps _
    refine ⟨hheld _, ?_⟩
    rw [count_configurationChanged, if_neg, Nat.add_zero]
    · exact hcount
    · rintro ⟨rfl, -, hconfigurable, hblank⟩
      rcases hkeeps rfl with hfixed | hblank'
      · cases hfixed.symm.trans hconfigurable
      · cases hblank.symm.trans hblank'

/-- **An event does not undo the removal**, whatever the connections answer, just when it is one of
those that do not. -/
theorem final_perform_iff {σ₁ : MachineConnectionCollection Configuration}
    (hallocated : σ.Allocated) (hid : (σ.objects c).id = id)
    (hattached : 0 < (σ.objects c).onConfigurationChanged) (hfinal : Final σ₁ id c σ)
    (e : CollectionEvent Configuration) :
    (∀ answers, Final σ₁ id c (σ.perform types codec answers e)) ↔
      KeepsFinal types codec id c σ e := by
  have hnone := hfinal.notHeld
  have hcount := hfinal.notStored
  cases e with
  | construct id' isConfigurable configuration =>
    exact iff_of_true (fun _ => ⟨hnone, hcount⟩) trivial
  | add c' => exact final_add_iff hfinal c'
  | remove machineID => exact iff_of_true (hfinal.remove machineID) trivial
  | loadFromConfigurations cfgs =>
    refine Iff.trans (forall_congr' fun answers => ?_)
      (notHeld_loadFromConfigurations_iff hallocated hnone)
    exact ⟨Final.notHeld, fun h => ⟨h, (congrArg _ (stored_loadFromConfigurations
      hallocated)).trans hcount⟩⟩
  | loadFromConfigurationStore =>
    have hkept : Kept σ (σ.loadConfigurations codec).2 := kept_loadConfigurations
    refine Iff.trans (forall_congr' fun answers => ?_)
      (notHeld_loadFromConfigurations_iff (hkept.allocated hallocated) hnone)
    exact ⟨Final.notHeld, fun h => ⟨h, (congrArg _ (stored_loadFromConfigurations
      (hkept.allocated hallocated))).trans hcount⟩⟩
  | configurationChanged c' configuration =>
    exact final_configurationChanged_iff hid hattached hfinal c' configuration

theorem Initial.holds (h : Initial σ) : σ.Holds := by
  intro k c hc
  rw [h.connections] at hc
  cases hc

/-- **A removal is final** in exactly those runs after it in which its id is not used again, neither
by an addition nor by a configuration in the store, and the configuration of the removed connection
does not change. -/
theorem final_iff_keepsFinal (types : ConnectorTypes Configuration)
    (codec : ConfigurationCodec Kind Configuration)
    {σ₀ σ σ₁ : MachineConnectionCollection Configuration} (hinit : Initial σ₀)
    {before : List (CollectionEvent Configuration)}
    (hbefore : Executes (perform types codec) σ₀ before σ) {id : String} {c : ConnectionRef}
    (hc : σ.connections.tryGetValue id = some c) {answer : ConnectionAnswer}
    (hremove : remove id answer σ = .ok true σ₁) (run : List (CollectionEvent Configuration)) :
    (∀ past, past <+: run → ∀ σ', Executes (perform types codec) σ₁ past σ' → Final σ₁ id c σ') ↔
      ∀ past e, past ++ [e] <+: run →
        ∀ σ', Executes (perform types codec) σ₁ past σ' → KeepsFinal types codec id c σ' e := by
  have hreached : σ.Allocated ∧ σ.Holds := by
    refine hbefore.induct (I := fun σ => σ.Allocated ∧ σ.Holds)
      ⟨hinit.allocated, hinit.holds⟩ fun σ answers e h => ?_
    exact ⟨h.1.perform answers e, holds_perform h.1 h.2 answers e⟩
  obtain ⟨hallocated, hholds⟩ := hreached
  obtain ⟨hid, hpos⟩ := hholds id c hc
  have hlt := hallocated.connections id c hc
  have hdetached : Detached σ id σ₁ := by
    have hfinal : finalState (remove id answer σ) = σ₁ := by rw [hremove, finalState]
    exact hfinal ▸ detached_remove hc
  have hstart : Final σ₁ id c σ₁ := by
    refine ⟨?_, rfl⟩
    rw [hdetached.connections, Dictionary.tryGetValue_remove, if_pos rfl]
  refine forall_executes_iff hstart (fun past σ' e hpast hfinal => ?_) run
  -- the removed connection is still an object with its id and the handler
  have hafter : σ'.Allocated ∧ Grows σ₁ σ' := by
    refine hpast.induct (I := fun σ' => σ'.Allocated ∧ Grows σ₁ σ')
      ⟨hdetached.allocated hallocated, .refl σ₁⟩ fun σ' answers e h => ?_
    exact ⟨h.1.perform answers e, h.2.trans (grows_perform h.1 answers e)⟩
  have hlt₁ : c.address < σ₁.nextAddress := hdetached.nextAddress ▸ hlt
  refine final_perform_iff hafter.1 ?_ ?_ hfinal e
  · rw [hafter.2.id c hlt₁, hdetached.id c, hid]
  · have hle := hafter.2.attached c hlt₁
    rw [hdetached.onConfigurationChanged c] at hle
    exact lt_of_lt_of_le hpos hle

/-- One class of connections. -/
private def oneClass : ConnectorTypes Unit :=
  ⟨fun _ => some fun _ => some "generated", fun _ _ => true, fun _ => "Configuration"⟩

private def oneKind : ConfigurationCodec Unit Unit :=
  ⟨fun _ => some (), fun _ _ => .ok (), fun _ => .object []⟩

private def nothingHeld : MachineConnectionCollection Unit :=
  ⟨∅, fun _ => ⟨"", true, (), 0, 0⟩, 0, ∅, .absent, [], []⟩

private theorem initial_nothingHeld : Initial nothingHeld := ⟨rfl, fun _ => ⟨rfl, rfl⟩⟩

private def answered : ℕ → ConnectionAnswer := fun _ => ⟨true, true, true⟩

/-- A connection that is not in the store is removed, and the store is loaded. -/
theorem final_iff_keepsFinal_notStored : ∃ σ₁, σ₁.nextAddress = 1 ∧
    ∀ σ', Executes (perform oneClass oneKind) σ₁ [.loadFromConfigurationStore] σ' →
      Final σ₁ "a" ⟨0⟩ σ' := by
  have h₁ : Executes (perform oneClass oneKind) nothingHeld ([] ++ [.construct "a" false ()]) _ :=
    .step _ answered .start
  have h₂ := Executes.step (.add ⟨0⟩) answered h₁
  have hfinal := final_iff_keepsFinal oneClass oneKind initial_nothingHeld h₂
    (rfl : Dictionary.tryGetValue _ "a" = some ⟨0⟩)
    (rfl : remove "a" (answered 0) _ = .ok true _) [.loadFromConfigurationStore]
  refine ⟨_, rfl, hfinal.mpr ?_ _ List.prefix_rfl⟩
  intro past e hrun σ' hσ'
  obtain ⟨rfl, rfl⟩ : past = [] ∧ e = .loadFromConfigurationStore := by
    cases past with
    | nil => exact ⟨rfl, (List.cons_prefix_cons.mp hrun).1⟩
    | cons e' past => simpa using hrun.length_le
  rw [hσ'.eq_start]
  intro cfg hcfg
  cases hcfg

/-- A connection that was added is removed, and the next load brings it back. -/
theorem final_fails : ¬ ∀ (before : List (CollectionEvent Unit)) σ,
    Executes (perform oneClass oneKind) nothingHeld before σ → ∀ id c σ₁,
      σ.connections.tryGetValue id = some c → remove id ⟨true, true, true⟩ σ = .ok true σ₁ →
        ∀ run, (∀ e ∈ run, e = .loadFromConfigurationStore) → ∀ σ',
          Executes (perform oneClass oneKind) σ₁ run σ' → Final σ₁ id c σ' := by
  intro hall
  have h₁ : Executes (perform oneClass oneKind) nothingHeld ([] ++ [.construct "a" true ()]) _ :=
    .step _ answered .start
  have h₂ := Executes.step (.add ⟨0⟩) answered h₁
  have hfinal := hall _ _ h₂ "a" ⟨0⟩ _ rfl rfl ([] ++ [.loadFromConfigurationStore])
    (fun e he => List.mem_singleton.mp he) _ (.step _ answered .start)
  exact absurd hfinal.notHeld (by decide)

end MachineConnectionCollection

end Connect3Dp
