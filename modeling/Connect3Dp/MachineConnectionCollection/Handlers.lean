import Connect3Dp.MachineConnectionCollection

/-!
# The handlers of the collection

The collection attaches two handlers to a connection when it takes it up. `Remove` takes one of them
off again, and a load that replaces a connection none. So the handlers fit (`Listens`) all along
those runs in which nothing is removed and nothing is replaced (`listens_iff_keeps`).
-/

namespace Connect3Dp

namespace MachineConnectionCollection

variable {Kind Configuration : Type}

section Statement

variable (types : ConnectorTypes Configuration) (codec : ConfigurationCodec Kind Configuration)

/-- Every connection is held under its id, and the handlers are attached once to those that are
held, and to no other. -/
structure Listens (σ : MachineConnectionCollection Configuration) : Prop where
  id_eq : ∀ k c, σ.connections.tryGetValue k = some c → (σ.objects c).id = k
  inside : ∀ k c, σ.connections.tryGetValue k = some c →
    (σ.objects c).onChanges = 1 ∧ (σ.objects c).onConfigurationChanged = 1
  outside : ∀ c, (∀ k, σ.connections.tryGetValue k ≠ some c) →
    (σ.objects c).onChanges = 0 ∧ (σ.objects c).onConfigurationChanged = 0

/-- A configuration that a connection is created from, where the connection that is held can not be
configured. -/
def Replaces (σ : MachineConnectionCollection Configuration)
    (cfg : String × ConfigurationWithDiscrimination Configuration) : Prop :=
  (types.tryCreateFromConfiguration cfg.2).isSome = true ∧
    ∃ c, σ.connections.tryGetValue cfg.1 = some c ∧ (σ.objects c).isConfigurable = false

/-- The events that no handler is left behind by. -/
def Keeps (σ : MachineConnectionCollection Configuration) : CollectionEvent Configuration → Prop
  | .remove machineID => σ.connections.tryGetValue machineID = none
  | .loadFromConfigurations cfgs => ∀ cfg ∈ cfgs, ¬ σ.Replaces types cfg
  | .loadFromConfigurationStore =>
    ∀ cfg ∈ (σ.loadConfigurations codec).1, ¬ σ.Replaces types cfg
  | _ => True

end Statement

variable {types : ConnectorTypes Configuration} {codec : ConfigurationCodec Kind Configuration}
  {σ σ' : MachineConnectionCollection Configuration}
  {cfg : String × ConfigurationWithDiscrimination Configuration} {c : ConnectionRef}

/-! ### The handlers -/

theorem Kept.listens (h : Kept σ σ') (hallocated : σ.Allocated) (hlistens : σ.Listens) :
    σ'.Listens := by
  refine ⟨fun k c hc => ?_, fun k c hc => ?_, fun c hc => ?_⟩
  · rw [h.connections] at hc
    rw [(h.old c (hallocated.connections k c hc)).id]
    exact hlistens.id_eq k c hc
  · rw [h.connections] at hc
    have hold := h.old c (hallocated.connections k c hc)
    rw [hold.onChanges, hold.onConfigurationChanged]
    exact hlistens.inside k c hc
  · rw [h.connections] at hc
    rcases Nat.lt_or_ge c.address σ.nextAddress with hlt | hge
    · have hold := h.old c hlt
      rw [hold.onChanges, hold.onConfigurationChanged]
      exact hlistens.outside c hc
    · exact h.new c hge (hlistens.outside c hc)

/-- A connection that is not there yet gets the handlers. -/
theorem Created.listens {machineID : String} (h : Created σ machineID σ')
    (hallocated : σ.Allocated) (hlistens : σ.Listens)
    (hnone : σ.connections.tryGetValue machineID = none) : σ'.Listens := by
  refine ⟨fun k c hc => ?_, fun k c hc => ?_, fun c hc => ?_⟩
  · rw [h.connections, Dictionary.tryGetValue_set] at hc
    split at hc
    · rename_i hk
      cases hc
      rw [hk]
      exact h.id
    · rw [h.old c (ne_nextAddress (hallocated.connections k c hc))]
      exact hlistens.id_eq k c hc
  · rw [h.connections, Dictionary.tryGetValue_set] at hc
    split at hc
    · cases hc
      exact h.handlers
    · rw [h.old c (ne_nextAddress (hallocated.connections k c hc))]
      exact hlistens.inside k c hc
  · rw [h.connections] at hc
    have hne : c ≠ ⟨σ.nextAddress⟩ := by
      rintro rfl
      exact hc machineID (Dictionary.tryGetValue_set_self ..)
    rw [h.old c hne]
    refine hlistens.outside c fun k hk => ?_
    have hkey : k ≠ machineID := by
      rintro rfl
      cases hnone.symm.trans hk
    exact hc k ((Dictionary.tryGetValue_set_of_ne _ hkey _).trans hk)

/-- A connection that is not held has a handler. -/
def LeftBehind (σ : MachineConnectionCollection Configuration) : Prop :=
  ∃ c, c.address < σ.nextAddress ∧ (∀ k, σ.connections.tryGetValue k ≠ some c) ∧
    0 < (σ.objects c).onConfigurationChanged

theorem LeftBehind.not_listens (h : σ.LeftBehind) : ¬ σ.Listens := by
  obtain ⟨c, -, hout, hpos⟩ := h
  intro hlistens
  have hzero := (hlistens.outside c hout).2
  omega

theorem Kept.leftBehind (h : Kept σ σ') (hleft : σ.LeftBehind) : σ'.LeftBehind := by
  obtain ⟨c, hc, hout, hpos⟩ := hleft
  refine ⟨c, lt_of_lt_of_le hc h.nextAddress, ?_, ?_⟩
  · rw [h.connections]
    exact hout
  · rw [(h.old c hc).onConfigurationChanged]
    exact hpos

/-- What is not held is not held again by a load. -/
theorem Created.tryGetValue_ne {machineID : String} (h : Created σ machineID σ')
    (hc : c.address < σ.nextAddress) (hout : ∀ k, σ.connections.tryGetValue k ≠ some c)
    (k : String) : σ'.connections.tryGetValue k ≠ some c := by
  rw [h.connections, Dictionary.tryGetValue_set]
  split
  · exact fun heq => ne_nextAddress hc (Option.some.inj heq).symm
  · exact hout k

theorem Created.leftBehind {machineID : String} (h : Created σ machineID σ')
    (hleft : σ.LeftBehind) : σ'.LeftBehind := by
  obtain ⟨c, hc, hout, hpos⟩ := hleft
  refine ⟨c, h.nextAddress ▸ Nat.lt_succ_of_lt hc, h.tryGetValue_ne hc hout, ?_⟩
  rw [h.old c (ne_nextAddress hc)]
  exact hpos

/-- A connection that is replaced keeps its handlers. -/
theorem Created.leftBehind_of_some {machineID : String} (h : Created σ machineID σ')
    (hallocated : σ.Allocated) (hlistens : σ.Listens)
    (hc : σ.connections.tryGetValue machineID = some c) : σ'.LeftBehind := by
  have hlt := hallocated.connections machineID c hc
  refine ⟨c, h.nextAddress ▸ Nat.lt_succ_of_lt hlt, fun k hk => ?_, ?_⟩
  · rw [h.connections, Dictionary.tryGetValue_set] at hk
    split at hk
    · exact ne_nextAddress hlt (Option.some.inj hk).symm
    · rename_i hkey
      have hid := hlistens.id_eq k c hk
      rw [hlistens.id_eq machineID c hc] at hid
      exact hkey hid.symm
  · rw [h.old c (ne_nextAddress hlt), (hlistens.inside machineID c hc).2]
    exact Nat.one_pos

/-! ### Loads -/

variable {cfgs : List (String × ConfigurationWithDiscrimination Configuration)}
  {answers : ℕ → ConnectionAnswer}

theorem Kept.replaces_iff (h : Kept σ σ') (hallocated : σ.Allocated) :
    σ'.Replaces types cfg ↔ σ.Replaces types cfg := by
  unfold Replaces
  rw [h.connections]
  refine and_congr_right fun _ => exists_congr fun c => and_congr_right fun hc => ?_
  rw [(h.old c (hallocated.connections _ c hc)).isConfigurable]

/-- A connection that is created can be configured. -/
theorem Created.replaces_iff {machineID : String} (h : Created σ machineID σ')
    (hallocated : σ.Allocated) (hnone : σ.connections.tryGetValue machineID = none) :
    σ'.Replaces types cfg ↔ σ.Replaces types cfg := by
  unfold Replaces
  rw [h.connections, Dictionary.tryGetValue_set]
  refine and_congr_right fun _ => ?_
  by_cases hkey : cfg.1 = machineID
  · rw [if_pos hkey, hkey, hnone]
    refine iff_of_false ?_ ?_
    · rintro ⟨c, hc, hconfigurable⟩
      cases hc
      cases hconfigurable.symm.trans h.isConfigurable
    · rintro ⟨c, hc, -⟩
      cases hc
  · rw [if_neg hkey]
    refine exists_congr fun c => and_congr_right fun hc => ?_
    rw [h.old c (ne_nextAddress (hallocated.connections _ c hc))]

theorem leftBehind_loadFromConfigurations (hallocated : σ.Allocated) (h : σ.LeftBehind) :
    (finalState (loadFromConfigurations types cfgs answers σ)).LeftBehind := by
  refine (loadFromConfigurations_induct ?_ ?_ hallocated h).1
  · exact fun σ σ' _ h hkept _ => hkept.leftBehind h
  · exact fun σ σ' cfg _ _ h _ _ hcreated _ => hcreated.leftBehind h

/-- The connection whose `Disconnect` returns is replaced. -/
theorem leftBehind_of_replaces (hallocated : σ.Allocated) (hlistens : σ.Listens)
    (hmem : cfg ∈ cfgs) (hreplaces : σ.Replaces types cfg)
    (hanswers : ∀ i, (answers i).disconnects = true) :
    (finalState (loadFromConfigurations types cfgs answers σ)).LeftBehind := by
  induction cfgs generalizing σ answers with
  | nil => cases hmem
  | cons head cfgs ih =>
    have hcases : LoadOutcome types σ head (answers 0) _ := loadConfiguration_cases hallocated
    generalize hrun : loadConfiguration types head (answers 0) σ = r at hcases
    have hanswers' : ∀ i, (answers (i + 1)).disconnects = true := fun i => hanswers (i + 1)
    cases hcases with
    | skipped hcreate =>
      rw [loadFromConfigurations_ok hrun]
      rcases List.mem_cons.mp hmem with rfl | hmem
      · exact absurd hreplaces.1 (by rw [hcreate]; exact Bool.false_ne_true)
      · exact ih hallocated hlistens hmem hreplaces hanswers'
    | kept hc hconfigurable hσ hstored =>
      rw [loadFromConfigurations_ok hrun]
      rcases List.mem_cons.mp hmem with rfl | hmem
      · obtain ⟨-, c, hc', hfixed⟩ := hreplaces
        cases hc.symm.trans hc'
        cases hfixed.symm.trans hconfigurable
      · exact ih (hσ.allocated hallocated) (hσ.listens hallocated hlistens) hmem
          ((hσ.replaces_iff hallocated).mpr hreplaces) hanswers'
    | refused hc hconfigurable hanswer hσ hstored =>
      cases hanswer.symm.trans (hanswers 0)
    | created hcreate hc hσ hstored =>
      rw [loadFromConfigurations_ok hrun]
      cases hheld : σ.connections.tryGetValue head.1 with
      | some c =>
        exact leftBehind_loadFromConfigurations (hσ.allocated hallocated)
          (hσ.leftBehind_of_some hallocated hlistens hheld)
      | none =>
        rcases List.mem_cons.mp hmem with rfl | hmem
        · obtain ⟨-, c, hc', -⟩ := hreplaces
          cases hheld.symm.trans hc'
        · exact ih (hσ.allocated hallocated) (hσ.listens hallocated hlistens hheld) hmem
            ((hσ.replaces_iff hallocated hheld).mpr hreplaces) hanswers'

/-- **The handlers fit after a load**, whatever the connections answer, just when it meets no
connection that can not be configured. -/
theorem listens_loadFromConfigurations_iff (hallocated : σ.Allocated) (hlistens : σ.Listens) :
    (∀ answers, (finalState (loadFromConfigurations types cfgs answers σ)).Listens) ↔
      ∀ cfg ∈ cfgs, ¬ σ.Replaces types cfg := by
  constructor
  · intro hall cfg hmem hreplaces
    have hleft : (finalState (loadFromConfigurations types cfgs
        (fun _ => ⟨true, false, false⟩) σ)).LeftBehind :=
      leftBehind_of_replaces hallocated hlistens hmem hreplaces fun _ => rfl
    exact hleft.not_listens (hall _)
  · intro hnot answers
    have hinduct : (finalState (loadFromConfigurations types cfgs answers σ)).Listens ∧
        ∀ cfg ∈ cfgs, ¬ (finalState (loadFromConfigurations types cfgs answers σ)).Replaces
          types cfg := by
      refine (loadFromConfigurations_induct
        (I := fun σ => σ.Listens ∧ ∀ cfg ∈ cfgs, ¬ σ.Replaces types cfg) ?_ ?_ hallocated
        ⟨hlistens, hnot⟩).1
      · rintro σ σ' hallocated ⟨hlistens, hnot⟩ hkept -
        refine ⟨hkept.listens hallocated hlistens, fun cfg hmem hreplaces => ?_⟩
        exact hnot cfg hmem ((hkept.replaces_iff hallocated).mp hreplaces)
      · rintro σ σ' cfg hmem hallocated ⟨hlistens, hnot⟩ hcreate hfixed hcreated -
        have hnone : σ.connections.tryGetValue cfg.1 = none := by
          cases hheld : σ.connections.tryGetValue cfg.1 with
          | none => rfl
          | some c => exact absurd ⟨hcreate, c, hheld, hfixed c hheld⟩ (hnot cfg hmem)
        refine ⟨hcreated.listens hallocated hlistens hnone, fun cfg' hmem' hreplaces => ?_⟩
        exact hnot cfg' hmem' ((hcreated.replaces_iff hallocated hnone).mp hreplaces)
    exact hinduct.1

/-! ### Runs -/

/-- A removed connection keeps the handler of `OnConfigurationChanged`. -/
theorem Detached.leftBehind {machineID : String} (h : Detached σ machineID σ')
    (hallocated : σ.Allocated) (hlistens : σ.Listens)
    (hc : σ.connections.tryGetValue machineID = some c) : σ'.LeftBehind := by
  refine ⟨c, h.nextAddress ▸ hallocated.connections machineID c hc, fun k hk => ?_, ?_⟩
  · rw [h.connections, Dictionary.tryGetValue_remove] at hk
    split at hk
    · cases hk
    · rename_i hkey
      have hid := hlistens.id_eq k c hk
      rw [hlistens.id_eq machineID c hc] at hid
      exact hkey hid.symm
  · rw [h.onConfigurationChanged, (hlistens.inside machineID c hc).2]
    exact Nat.one_pos

/-- A connection that is not held has no handler before it is added. -/
theorem listens_setConnection (hlistens : σ.Listens)
    (hnone : σ.connections.tryGetValue (σ.objects c).id = none) :
    (σ.setConnection (σ.objects c).id c).Listens := by
  -- its id is free, so it is not held under another one either
  have hout : ∀ k, σ.connections.tryGetValue k ≠ some c := by
    intro k hk
    rw [hlistens.id_eq k c hk, hk] at hnone
    cases hnone
  have hself : (σ.setConnection (σ.objects c).id c).objects c = { σ.objects c with
      onChanges := (σ.objects c).onChanges + 1
      onConfigurationChanged := (σ.objects c).onConfigurationChanged + 1 } := by
    simp only [setConnection, listenForChanges, modifyObject, Function.update_self]
  have hother : ∀ c' ≠ c, (σ.setConnection (σ.objects c).id c).objects c' = σ.objects c' := by
    intro c' hne
    simp only [setConnection, listenForChanges, modifyObject, Function.update_of_ne hne]
  refine ⟨fun k c' hc' => ?_, fun k c' hc' => ?_, fun c' hc' => ?_⟩
  · change (σ.connections.set (σ.objects c).id c).tryGetValue k = some c' at hc'
    rw [Dictionary.tryGetValue_set] at hc'
    split at hc'
    · rename_i hk
      cases hc'
      rw [hself, hk]
    · rw [hother c' fun heq => hout k (heq ▸ hc')]
      exact hlistens.id_eq k c' hc'
  · change (σ.connections.set (σ.objects c).id c).tryGetValue k = some c' at hc'
    rw [Dictionary.tryGetValue_set] at hc'
    split at hc'
    · cases hc'
      obtain ⟨hchanges, hconfiguration⟩ := hlistens.outside c hout
      rw [hself, hchanges, hconfiguration]
      exact ⟨rfl, rfl⟩
    · rw [hother c' fun heq => hout k (heq ▸ hc')]
      exact hlistens.inside k c' hc'
  · change ∀ k, (σ.connections.set (σ.objects c).id c).tryGetValue k ≠ some c' at hc'
    have hne : c' ≠ c := by
      rintro rfl
      exact hc' _ (Dictionary.tryGetValue_set_self ..)
    rw [hother c' hne]
    refine hlistens.outside c' fun k hk => ?_
    have hkey : k ≠ (σ.objects c).id := by
      rintro rfl
      cases hnone.symm.trans hk
    exact hc' k ((Dictionary.tryGetValue_set_of_ne _ hkey _).trans hk)

/-- **An event keeps the handlers**, whatever the connections answer, just when it is one of those
that do. -/
theorem listens_perform_iff (hallocated : σ.Allocated) (hlistens : σ.Listens)
    (e : CollectionEvent Configuration) :
    (∀ answers, (σ.perform types codec answers e).Listens) ↔ σ.Keeps types codec e := by
  cases e with
  | construct id isConfigurable configuration =>
    exact iff_of_true (fun _ => (kept_construct ..).listens hallocated hlistens) trivial
  | add connection =>
    refine iff_of_true (fun answers => ?_) trivial
    dsimp only [MachineConnectionCollection.perform]
    split
    case isFalse => exact hlistens
    case isTrue hlt =>
      cases hheld : σ.connections.tryGetValue (σ.objects connection).id with
      | some c => rwa [add_of_some hheld]
      | none =>
        exact (kept_add hheld).listens (allocated_setConnection hallocated hlt _)
          (listens_setConnection hlistens hheld)
  | remove machineID =>
    dsimp only [MachineConnectionCollection.perform, Keeps]
    cases hheld : σ.connections.tryGetValue machineID with
    | none =>
      refine iff_of_true (fun answers => ?_) rfl
      rwa [remove_of_none hheld]
    | some c =>
      refine iff_of_false (fun hall => ?_) (Option.some_ne_none c)
      have hdetached : Detached σ machineID
          (finalState (remove machineID ⟨true, true, true⟩ σ)) := detached_remove hheld
      exact (hdetached.leftBehind hallocated hlistens hheld).not_listens
        (hall fun _ => ⟨true, true, true⟩)
  | loadFromConfigurations cfgs => exact listens_loadFromConfigurations_iff hallocated hlistens
  | loadFromConfigurationStore =>
    have hkept : Kept σ (σ.loadConfigurations codec).2 := kept_loadConfigurations
    exact listens_loadFromConfigurations_iff (hkept.allocated hallocated)
      (hkept.listens hallocated hlistens)
  | configurationChanged connection configuration =>
    exact iff_of_true (fun _ => (kept_configurationChanged ..).listens hallocated hlistens) trivial

theorem Initial.listens (h : Initial σ) : σ.Listens := by
  refine ⟨fun k c hc => ?_, fun k c hc => ?_, fun c _ => h.handlers c⟩
  all_goals
    rw [h.connections] at hc
    cases hc

/-- **The handlers fit** all along exactly those runs in which nothing that is held is removed, and
no load meets a connection that can not be configured. -/
theorem listens_iff_keeps (types : ConnectorTypes Configuration)
    (codec : ConfigurationCodec Kind Configuration) {σ₀ : MachineConnectionCollection Configuration}
    (hinit : Initial σ₀) (run : List (CollectionEvent Configuration)) :
    (∀ past, past <+: run → ∀ σ, Executes (perform types codec) σ₀ past σ → σ.Listens) ↔
      ∀ past e, past ++ [e] <+: run →
        ∀ σ, Executes (perform types codec) σ₀ past σ → σ.Keeps types codec e := by
  refine forall_executes_iff hinit.listens (fun past σ e hpast hlistens => ?_) run
  have hallocated : σ.Allocated :=
    hpast.induct hinit.allocated fun _ answers e h => h.perform answers e
  exact listens_perform_iff hallocated hlistens e

/-- One class of connections. -/
private def unitTypes : ConnectorTypes Unit :=
  ⟨fun _ => some fun _ => some "generated", fun _ _ => true, fun _ => "Configuration"⟩

private def unitSerializer : ConfigurationCodec Unit Unit :=
  ⟨fun _ => some (), fun _ _ => .ok (), fun _ => .object []⟩

private def emptyCollection : MachineConnectionCollection Unit :=
  ⟨∅, fun _ => ⟨"", true, (), 0, 0⟩, 0, ∅, .absent, [], []⟩

private theorem initial_emptyCollection : Initial emptyCollection := ⟨rfl, fun _ => ⟨rfl, rfl⟩⟩

/-- A connection is added. -/
theorem listens_iff_keeps_added : ∃ σ, Executes (perform unitTypes unitSerializer) emptyCollection
    [.construct "a" true (), .add ⟨0⟩] σ ∧ σ.connections.tryGetValue "a" = some ⟨0⟩ ∧
      σ.Listens := by
  have h₁ : Executes (perform unitTypes unitSerializer) emptyCollection
      ([] ++ [.construct "a" true ()]) _ := .step _ (fun _ => ⟨true, true, true⟩) .start
  have h₂ := Executes.step (.add ⟨0⟩) (fun _ => ⟨true, true, true⟩) h₁
  refine ⟨_, h₂, rfl, (listens_iff_keeps unitTypes unitSerializer initial_emptyCollection
    [.construct "a" true (), .add ⟨0⟩]).mpr ?_ _ List.prefix_rfl _ h₂⟩
  intro past e hrun σ _
  have hmem : e ∈ past ++ [e] := List.mem_append_right _ List.mem_cons_self
  rcases List.mem_cons.mp (hrun.subset hmem) with rfl | hmem
  · trivial
  · rw [List.mem_singleton.mp hmem]
    trivial

/-- A connection is removed, and the handler of `OnConfigurationChanged` is still attached. -/
theorem listens_fails : ¬ ∀ run σ,
    Executes (perform unitTypes unitSerializer) emptyCollection run σ → σ.Listens := by
  intro hall
  have h₁ : Executes (perform unitTypes unitSerializer) emptyCollection
      ([] ++ [.construct "a" true ()]) _ := .step _ (fun _ => ⟨true, true, true⟩) .start
  have h₂ := Executes.step (.add ⟨0⟩) (fun _ => ⟨true, true, true⟩) h₁
  have h₃ := Executes.step (.remove "a") (fun _ => ⟨true, true, true⟩) h₂
  have hlistens := hall _ _ h₃
  have hzero := (hlistens.outside ⟨0⟩ fun k => by rintro ⟨⟩).2
  exact absurd hzero (by decide)

end MachineConnectionCollection

end Connect3Dp
