import Connect3Dp.Connectors.Outcome
import Connect3Dp.Runtime.Transition

/-!
# Messages that resolve themselves

A message says in which states it is resolved. `Settled` says that no stored notification is
resolved by the status the machine is in, and every commit should leave the state settled.

`PreprocessState` evaluates the rule over the stored notifications and the status **before** the
update. So a message is not removed by the commit that resolves it, and neither is a message that
arrives resolved. `MachineStateUpdate.ResolvesInTime` is the condition under which neither
happens; a run of commits that all meet it stays settled (`settled_of_resolvesInTime`).
-/

namespace Connect3Dp

/-- The message is resolved when the machine is in this status. -/
def MachineMessageAutoResole.Resolves (autoResolve : MachineMessageAutoResole)
    (status : MachineStatus) : Prop :=
  autoResolve.whenStatus = some status ∨
    (autoResolve.whenConnected = some true ∧ status ≠ .disconnected) ∨
    (autoResolve.whenPrinting = some true ∧ (status = .printing ∨ status = .printed))

instance (autoResolve : MachineMessageAutoResole) (status : MachineStatus) :
    Decidable (autoResolve.Resolves status) := inferInstanceAs (Decidable (_ ∨ _))

/-- The chain of tests is their disjunction. -/
theorem MachineMessageAutoResole.doResolve_iff {autoResolve : MachineMessageAutoResole}
    {status : MachineStatus} :
    autoResolve.doResolve status = true ↔ autoResolve.Resolves status := by
  unfold doResolve Resolves
  split_ifs with hprinting hstatus hconnected
  · exact iff_of_true rfl (.inr (.inr hprinting))
  · exact iff_of_true rfl (.inl hstatus)
  · exact iff_of_true rfl (.inr (.inl hconnected))
  · refine iff_of_false nofun ?_
    rintro (h | h | h)
    · exact hstatus h
    · exact hconnected h
    · exact hprinting h

/-- No notification is resolved by the status. -/
def MachineState.Settled (s : MachineState) : Prop :=
  ∀ id n, s.notifications.tryGetValue id = some n → ¬ n.message.autoResolve.Resolves s.status

namespace MachineStateUpdate

/-- The status after the update. -/
def newStatus (u : MachineStateUpdate) (s : MachineState) : MachineStatus := u.status.apply s.status

/-- The update resolves no message that it leaves or makes: if it raises while it is applied, none
of those that are stored; if not, none that stays, unless it was resolved before already, none
that it rewrites and none that it creates. -/
structure ResolvesInTime (u : MachineStateUpdate) (s : MachineState) : Prop where
  raises : ¬ u.RaisesInChanges s → u.RaisesInJob ∨ u.RaisesInUnits s →
    ∀ id n, s.notifications.tryGetValue id = some n →
      ¬ n.message.autoResolve.Resolves (u.newStatus s)
  stays : ¬ u.RaisesInChanges s → ¬ u.RaisesInJob → ¬ u.RaisesInUnits s →
    ∀ id n, s.notifications.tryGetValue id = some n → id ∉ u.notifications.removals →
      u.notifications.lookup id = none → n.message.autoResolve.Resolves (u.newStatus s) →
        n.message.autoResolve.Resolves s.status
  rewrites : ¬ u.RaisesInChanges s → ¬ u.RaisesInJob → ¬ u.RaisesInUnits s →
    ∀ id n nu, s.notifications.tryGetValue id = some n → id ∉ u.notifications.removals →
      u.notifications.lookup id = some nu →
      (nu.message.apply n.message).autoResolve.Resolves (u.newStatus s) →
        n.message.autoResolve.Resolves s.status
  creates : ¬ u.RaisesInChanges s → ¬ u.RaisesInJob → ¬ u.RaisesInUnits s →
    ∀ id nu n, s.notifications.tryGetValue id = none → id ∉ u.notifications.removals →
      u.notifications.lookup id = some nu → nu.tryCreate = some n →
        ¬ n.message.autoResolve.Resolves (u.newStatus s)

end MachineStateUpdate

/-- The identifiers of the messages that the rule removes. -/
theorem MachineState.mem_resolved_iff {s : MachineState} {id : String} :
    id ∈ s.resolved ↔
      ∃ n, s.notifications.tryGetValue id = some n ∧ n.message.autoResolve.Resolves s.status := by
  simp only [resolved, List.mem_map, List.mem_filter, Prod.exists, exists_and_right,
    exists_eq_right, Dictionary.mem_entries_iff, MachineMessageAutoResole.doResolve_iff]

theorem DictionaryBuffer.mem_removals_foldl_remove {K U : Type*} [DecidableEq K]
    {b : DictionaryBuffer K U} {ks : List K} {k : K} :
    k ∈ (ks.foldl remove b).removals ↔ k ∈ b.removals ∨ k ∈ ks := by
  induction ks generalizing b with
  | nil => simp
  | cons k' ks ih => exact ih.trans (by rw [mem_removals_remove, List.mem_cons, or_assoc])

theorem DictionaryBuffer.lookup_foldl_remove {K U : Type*} [DecidableEq K]
    {b : DictionaryBuffer K U} {ks : List K} {k : K} :
    (ks.foldl remove b).lookup k = b.lookup k := by
  induction ks generalizing b with
  | nil => rfl
  | cons k' ks ih => exact ih

namespace MachineConnection

variable {Cron : Type} [DecidableEq Cron] [Hashable (HeatingSchedule Cron)]
  [Hashable (ScheduledPrint Cron)] {c c' : MachineConnection Cron} {u : MachineStateUpdate}

/-- The notification under an identifier after the application. -/
theorem tryGetValue_notifications_appliedState (id : String) :
    (c.appliedState u).notifications.tryGetValue id =
      if id ∈ u.notifications.removals ∨ id ∈ c.state.resolved then none
      else match u.notifications.lookup id with
        | some nu => NotificationUpdate.updater.merge id nu (c.state.notifications.tryGetValue id)
        | none => c.state.notifications.tryGetValue id := by
  change ((c.state.resolved.foldl DictionaryBuffer.remove u.notifications).apply
    NotificationUpdate.updater c.state.notifications).tryGetValue id = _
  rw [DictionaryBuffer.tryGetValue_apply, DictionaryBuffer.lookup_foldl_remove]
  simp only [DictionaryBuffer.mem_removals_foldl_remove]
  cases u.notifications.lookup id <;> rfl

/-- What an update makes of the notification under an identifier, unless it is removed. -/
def notificationAfter (u : MachineStateUpdate) (s : MachineState) (id : String) :
    Option Notification :=
  (u.notifications.lookup id).elim (s.notifications.tryGetValue id) fun nu =>
    NotificationUpdate.updater.merge id nu (s.notifications.tryGetValue id)

/-- The notification under an identifier after a commit that does not raise in the application. -/
theorem tryGetValue_notifications_of_appliedState {c₁ : MachineConnection Cron}
    (hsame : SameState c c₁) (hstate : c'.state = c₁.appliedState u) (id : String) :
    c'.state.notifications.tryGetValue id =
      if id ∈ u.notifications.removals ∨ id ∈ c.state.resolved then none
      else notificationAfter u c.state id := by
  rw [hstate, tryGetValue_notifications_appliedState, show c.state = c₁.state from hsame.symm,
    notificationAfter]
  cases u.notifications.lookup id <;> rfl

/-- A commit that raises while it is applied, but not in `Changes`, has written the status and not
the notifications. -/
theorem commitStep_notifications_cases {env : Environment Cron} (h : CommitStep env u c c') :
    (u.RaisesInChanges c.state ∧ c'.state = c.state) ∨
      (¬ u.RaisesInChanges c.state ∧ (u.RaisesInJob ∨ u.RaisesInUnits c.state) ∧
        c'.state.status = u.newStatus c.state ∧
        c'.state.notifications = c.state.notifications) ∨
      (c.Applies u ∧ ∃ c₁, SameState c c₁ ∧ c'.state = c₁.appliedState u) := by
  obtain ⟨hch, hstate⟩ | ⟨hch, hj, hstate⟩ | ⟨hch, -, hu, c₁, units, hsame, hstate⟩ |
    ⟨hch, hj, hu, c₁, hsame, hstate⟩ := commitStep_state_cases h
  · exact .inl ⟨hch, hstate⟩
  · rw [hstate]
    exact .inr (.inl ⟨hch, .inl hj, rfl, rfl⟩)
  · refine .inr (.inl ⟨hch, .inr hu, ?_, ?_⟩)
    all_goals
      rw [hstate, show c.state = c₁.state from hsame.symm]
      rfl
  · exact .inr (.inr ⟨⟨hch, hj, hu⟩, c₁, hsame, hstate⟩)

/-- The notifications after a commit are those before it, if it raises early, or the applied
ones. -/
theorem tryGetValue_notifications_commitStep {env : Environment Cron} (h : CommitStep env u c c') :
    (¬ c.Applies u ∧
      ∀ id, c'.state.notifications.tryGetValue id = c.state.notifications.tryGetValue id) ∨
    (c.Applies u ∧ ∀ id, c'.state.notifications.tryGetValue id =
        if id ∈ u.notifications.removals ∨ id ∈ c.state.resolved then none
        else notificationAfter u c.state id) := by
  obtain ⟨hch, hstate⟩ | ⟨-, hr, -, hnotifications⟩ | ⟨happlies, c₁, hsame, hstate⟩ :=
    commitStep_notifications_cases h
  · exact .inl ⟨fun h => h.changes hch, fun id => by rw [hstate]⟩
  · exact .inl ⟨fun h => hr.elim h.job h.units, fun id => by rw [hnotifications]⟩
  · exact .inr ⟨happlies, tryGetValue_notifications_of_appliedState hsame hstate⟩

/-- **An application leaves the state settled just when the update resolves messages in time.** -/
theorem settled_appliedState_iff (happlies : c.Applies u) :
    (c.appliedState u).Settled ↔ u.ResolvesInTime c.state := by
  have hch : ¬ u.RaisesInChanges c.state := happlies.changes
  have hj : ¬ u.RaisesInJob := happlies.job
  have hu : ¬ u.RaisesInUnits c.state := happlies.units
  have hstatus : (c.appliedState u).status = u.newStatus c.state := rfl
  rw [MachineState.Settled, hstatus]
  constructor
  · intro h
    -- A message that is not removed by the rule is not resolved after the update.
    have hafter : ∀ id n, id ∉ u.notifications.removals →
        (id ∈ c.state.resolved → False) →
        (match u.notifications.lookup id with
          | some nu => NotificationUpdate.updater.merge id nu
              (c.state.notifications.tryGetValue id)
          | none => c.state.notifications.tryGetValue id) = some n →
        ¬ n.message.autoResolve.Resolves (u.newStatus c.state) := by
      intro id n hremoved hresolved hn
      refine h id n ?_
      rw [tryGetValue_notifications_appliedState, if_neg (not_or.mpr ⟨hremoved, hresolved⟩), hn]
    refine ⟨fun _ hr => absurd hr (not_or.mpr ⟨hj, hu⟩),
      fun _ _ _ id n hn hremoved hlookup hnew => ?_,
      fun _ _ _ id n nu hn hremoved hlookup hnew => ?_,
      fun _ _ _ id nu n hn hremoved hlookup hcreate => ?_⟩
    · by_contra hold
      refine hafter id n hremoved (fun hres => hold ?_) (by rw [hlookup, hn]) hnew
      obtain ⟨n', hn', hold'⟩ := MachineState.mem_resolved_iff.mp hres
      rw [hn] at hn'
      cases hn'
      exact hold'
    · by_contra hold
      refine hafter id (nu.apply n) hremoved (fun hres => hold ?_) (by rw [hlookup, hn]; rfl) hnew
      obtain ⟨n', hn', hold'⟩ := MachineState.mem_resolved_iff.mp hres
      rw [hn] at hn'
      cases hn'
      exact hold'
    · refine hafter id n hremoved (fun hres => ?_) (by rw [hlookup, hn]; exact hcreate)
      obtain ⟨n', hn', -⟩ := MachineState.mem_resolved_iff.mp hres
      rw [hn] at hn'
      cases hn'
  · intro h id n hn
    rw [tryGetValue_notifications_appliedState] at hn
    split at hn
    · cases hn
    · rename_i hnot
      obtain ⟨hremoved, hresolved⟩ := not_or.mp hnot
      split at hn
      · rename_i nu hlookup
        cases hold : c.state.notifications.tryGetValue id with
        | none =>
          rw [hold] at hn
          exact h.creates hch hj hu id nu n hold hremoved hlookup hn
        | some old =>
          rw [hold] at hn
          cases hn
          exact fun hnew => hresolved (MachineState.mem_resolved_iff.mpr
            ⟨old, hold, h.rewrites hch hj hu id old nu hold hremoved hlookup hnew⟩)
      · rename_i hlookup
        exact fun hnew => hresolved (MachineState.mem_resolved_iff.mpr
          ⟨n, hn, h.stays hch hj hu id n hn hremoved hlookup hnew⟩)

/-! ### Runs -/

/-- **One commit** from a settled state leaves a settled state just when its update resolves
messages in time. -/
theorem settled_commit_iff {env : Environment Cron} (hsettled : c.state.Settled)
    (h : CommitStep env u c c') : c'.state.Settled ↔ u.ResolvesInTime c.state := by
  obtain ⟨hch, hstate⟩ | ⟨hch, hr, hstatus, hnotifications⟩ | ⟨happlies, c₁, hsame, hstate⟩ :=
    commitStep_notifications_cases h
  · rw [hstate]
    exact iff_of_true hsettled ⟨fun hn => absurd hch hn, fun hn => absurd hch hn,
      fun hn => absurd hch hn, fun hn => absurd hch hn⟩
  · rw [MachineState.Settled, hstatus, hnotifications]
    constructor
    · intro h
      exact ⟨fun _ _ => h, fun _ hj hu => absurd hr (not_or.mpr ⟨hj, hu⟩),
        fun _ hj hu => absurd hr (not_or.mpr ⟨hj, hu⟩),
        fun _ hj hu => absurd hr (not_or.mpr ⟨hj, hu⟩)⟩
    · exact fun h => h.raises hch hr
  · obtain ⟨hch, hj, hu⟩ := happlies
    rw [show c.state = c₁.state from hsame.symm] at hch hu ⊢
    rw [hstate]
    exact settled_appliedState_iff ⟨hch, hj, hu⟩

/-- **A run of commits that resolve messages in time stays settled**, and the first commit that
does not leaves a resolved message. -/
theorem settled_of_resolvesInTime (c : MachineConnection Cron)
    (h : Reachable (fun c => c.state.Settled)
      (fun c c' => ∃ env u, u.ResolvesInTime c.state ∧ CommitStep env u c c') c) :
    c.state.Settled ∧ ∀ env u c', CommitStep env u c c' →
      (c'.state.Settled ↔ u.ResolvesInTime c.state) := by
  have hsettled : c.state.Settled := by
    refine Reachable.induct (I := fun c : MachineConnection Cron => c.state.Settled)
      (fun _ hinit => hinit) ?_ h
    rintro c c' - hsettled ⟨env, u, hu, hstep⟩
    exact (settled_commit_iff hsettled hstep).mpr hu
  exact ⟨hsettled, fun env u c' hstep => settled_commit_iff hsettled hstep⟩

/-- A new machine. -/
private def newMachine : MachineConnection Unit := ⟨default, default, default, ⟨[], false, 0⟩⟩

/-- `SetNotifications(message)`, for a message that is resolved when the machine is idle. -/
private def warn : MachineStateUpdate :=
  { (default : MachineStateUpdate) with
    notifications := (default : DictionaryBuffer String NotificationUpdate).update "warning"
      default fun n =>
        { n with
          message := n.message.set
            { (default : MachineMessage) with
              id := some "warning"
              autoResolve := ⟨none, some .idle, none⟩ }
          issuedAt := n.issuedAt.set default
          lastSeenAt := n.lastSeenAt.set default } }

/-- `SetStatus(Idle)`. -/
private def becomeIdle : MachineStateUpdate :=
  { (default : MachineStateUpdate) with
    status := (default : ScalarBuffer MachineStatus).set .idle }

/-- `SetStatus(Idle)` and `RemoveNotifications("warning")`. -/
private def settle : MachineStateUpdate :=
  { becomeIdle with
    notifications := (default : DictionaryBuffer String NotificationUpdate).remove "warning" }

private theorem newMachine_settled : newMachine.state.Settled := fun _ _ h => by cases h

/-- Nothing is scheduled. -/
private def idleEnvironment : Environment Unit := ⟨default, fun _ => none⟩

/-- The machine with the message. -/
private def warnedMachine : MachineConnection Unit := afterCommit idleEnvironment warn newMachine

private theorem resolvesInTime_warn : warn.ResolvesInTime newMachine.state := by
  refine ⟨fun _ _ id n h => ?_, fun _ _ _ id n h => ?_, fun _ _ _ id n nu h => ?_,
      fun _ _ _ id nu n _ _ hlookup hcreate => ?_⟩
  · cases h
  · cases h
  · cases h
  · rw [warn, DictionaryBuffer.lookup_update] at hlookup
    split at hlookup
    · cases hlookup
      cases hcreate
      decide
    · cases hlookup

private theorem id_eq_of_warned {id : String} {n : Notification}
    (h : warnedMachine.state.notifications.tryGetValue id = some n) : id = "warning" := by
  rw [← Dictionary.mem_entries_iff] at h
  exact (Prod.mk.inj (List.mem_singleton.mp h)).1

private theorem resolvesInTime_settle : settle.ResolvesInTime warnedMachine.state := by
  have hremoved : "warning" ∈ settle.notifications.removals := by decide
  refine ⟨fun _ hraises => ?_, fun _ _ _ id n h hstays => ?_, fun _ _ _ id n nu h hstays => ?_,
      fun _ _ _ id nu n _ _ hlookup => ?_⟩
  · rcases hraises with (⟨hset, -⟩ | ⟨ju, hju, -⟩) | ⟨id, mu, m, hlookup, -⟩
    · cases hset
    · cases hju
    · cases hlookup
  · exact absurd (id_eq_of_warned h ▸ hremoved) hstays
  · exact absurd (id_eq_of_warned h ▸ hremoved) hstays
  · cases hlookup

/-- A message is stored and goes with the commit that resolves it. -/
theorem settled_of_resolvesInTime_settle :
    (∃ n, warnedMachine.state.notifications.tryGetValue "warning" = some n ∧
      n.message.autoResolve.Resolves .idle) ∧
    Reachable (fun c => c.state.Settled)
        (fun c c' => ∃ env u, u.ResolvesInTime c.state ∧ CommitStep env u c c')
        (afterCommit idleEnvironment settle warnedMachine) ∧
      (afterCommit idleEnvironment settle warnedMachine).state.status = .idle ∧
      (afterCommit idleEnvironment settle warnedMachine).state.Settled := by
  have hrun : Reachable (fun c : MachineConnection Unit => c.state.Settled)
      (fun c c' => ∃ env u, u.ResolvesInTime c.state ∧ CommitStep env u c c')
      (afterCommit idleEnvironment settle warnedMachine) :=
    ⟨newMachine, newMachine_settled, .tail
      (.single ⟨_, _, resolvesInTime_warn, commitStep_afterCommit idleEnvironment warn newMachine⟩)
      ⟨_, _, resolvesInTime_settle, commitStep_afterCommit idleEnvironment settle warnedMachine⟩⟩
  exact ⟨⟨_, rfl, .inl rfl⟩, hrun, rfl, (settled_of_resolvesInTime _ hrun).1⟩

/-- A message that is resolved when the machine is idle survives the commit that makes it idle. -/
theorem settled_fails :
    ¬ ∀ c : MachineConnection Unit, Reachable (fun c => c.state = default)
      (fun c c' => ∃ env u, CommitStep env u c c') c → c.state.Settled := by
  intro hall
  have hrun : Reachable (fun c : MachineConnection Unit => c.state = default)
      (fun c c' => ∃ env u, CommitStep env u c c')
      (afterCommit idleEnvironment becomeIdle warnedMachine) :=
    ⟨newMachine, rfl, .tail (.single ⟨_, _, commitStep_afterCommit idleEnvironment warn newMachine⟩)
      ⟨_, _, commitStep_afterCommit idleEnvironment becomeIdle _⟩⟩
  exact hall _ hrun "warning" _ rfl (.inl rfl)

end MachineConnection

end Connect3Dp
