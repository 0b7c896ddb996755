import Connect3Dp.Connectors.AutoResolve
import Connect3Dp.State.Setters

/-!
# Alerts that get lost

An update may set a notification under an identifier that the auto-resolve rule removes in the
same commit, because the message **stored** under it is resolved by the status before. The
removal is then part of the update, and removals are applied after the entries: the new message is
dropped with the old one, although the status after the commit does not resolve it.

`MachineStateUpdate.Arrives` is the condition under which the message is kept
(`alertKept_iff`). A printer that drops out, comes back and drops out again loses the second alert
(`alertKept_fails`): when it is back, the message of the first drop is still stored.
-/

namespace Connect3Dp

/-- The notification `id` is shown with the message. -/
def MachineState.Shows (s : MachineState) (id : String) (message : MachineMessage) : Prop :=
  ∃ n, s.notifications.tryGetValue id = some n ∧ n.message = message

/-- The message is shown unless the status resolves it. -/
def MachineState.KeepsAlert (s : MachineState) (id : String) (message : MachineMessage) : Prop :=
  ¬ message.autoResolve.Resolves s.status → s.Shows id message

/-- The entry of an update that sets the notification of a message, and that the update does not
remove itself. -/
structure SetsNotification (u : MachineStateUpdate) (id : String) (message : MachineMessage)
    (nu : NotificationUpdate) : Prop where
  id_eq : message.id = some id
  lookup_eq : u.notifications.lookup id = some nu
  message_eq : nu.message = ⟨message, true⟩
  notMem_removals : id ∉ u.notifications.removals

namespace MachineStateUpdate

/-- The message arrives: unless the status it arrives in resolves it, the update does not raise
before the notifications, or the message is shown already; the message that is stored under the
same identifier is not resolved by the status before; and if none is stored, the entry says all
that a notification needs. -/
structure Arrives (u : MachineStateUpdate) (s : MachineState) (id : String)
    (message : MachineMessage) (nu : NotificationUpdate) : Prop where
  inChanges : u.RaisesInChanges s → s.KeepsAlert id message
  raises : ¬ u.RaisesInChanges s → u.RaisesInJob ∨ u.RaisesInUnits s →
    ¬ message.autoResolve.Resolves (u.newStatus s) → s.Shows id message
  replaces : ¬ u.RaisesInChanges s → ¬ u.RaisesInJob → ¬ u.RaisesInUnits s →
    ¬ message.autoResolve.Resolves (u.newStatus s) →
      ∀ n, s.notifications.tryGetValue id = some n → ¬ n.message.autoResolve.Resolves s.status
  creates : ¬ u.RaisesInChanges s → ¬ u.RaisesInJob → ¬ u.RaisesInUnits s →
    ¬ message.autoResolve.Resolves (u.newStatus s) →
      s.notifications.tryGetValue id = none → nu.issuedAt.isSet = true ∧ nu.lastSeenAt.isSet = true

end MachineStateUpdate

namespace SetsNotification

variable {u : MachineStateUpdate} {id : String} {message : MachineMessage}
  {nu : NotificationUpdate}

theorem message_apply (h : SetsNotification u id message nu) (old : MachineMessage) :
    nu.message.apply old = message := by
  rw [h.message_eq]
  rfl

/-- An entry creates a notification when it says when it was issued and last seen. -/
theorem tryCreate_isSome_iff (h : SetsNotification u id message nu) :
    (∃ n, nu.tryCreate = some n ∧ n.message = message) ↔
      nu.issuedAt.isSet = true ∧ nu.lastSeenAt.isSet = true := by
  have hisSet : nu.message.isSet = true := by rw [h.message_eq]
  have hmessage : ∀ n : Notification, (nu.apply n).message = message :=
    fun n => h.message_apply n.message
  unfold NotificationUpdate.tryCreate
  rw [hisSet, Bool.true_and, ← Bool.and_eq_true]
  split
  · rename_i hboth
    exact iff_of_true ⟨_, rfl, hmessage _⟩ hboth
  · rename_i hnot
    refine iff_of_false ?_ hnot
    rintro ⟨n, hn, -⟩
    cases hn

/-- `SetNotifications(message)` sets the notification of its message. -/
theorem of_setNotifications {v : MachineStateUpdate} {utcNow : DateTimeOffset}
    (hid : message.id = some id) (hremovals : id ∉ v.notifications.removals)
    (hu : v.setNotifications utcNow message = .ok u) :
    ∃ nu, SetsNotification u id message nu ∧ nu.issuedAt.isSet = true ∧
      nu.lastSeenAt.isSet = true := by
  rw [MachineStateUpdate.setNotifications, hid] at hu
  cases hu
  refine ⟨_, ⟨hid, DictionaryBuffer.lookup_update_self _ _ _ _, rfl, hremovals⟩, rfl, rfl⟩

end SetsNotification

namespace MachineConnection

variable {Cron : Type} [DecidableEq Cron] [Hashable (HeatingSchedule Cron)]
  [Hashable (ScheduledPrint Cron)] {c c' : MachineConnection Cron} {u : MachineStateUpdate}
  {id : String} {message : MachineMessage} {nu : NotificationUpdate}

/-- The message is shown after the application just when the rule leaves its identifier alone and
the entry has something to write into. -/
theorem shows_appliedState_iff (h : SetsNotification u id message nu) :
    (c.appliedState u).Shows id message ↔
      (∀ n, c.state.notifications.tryGetValue id = some n →
        ¬ n.message.autoResolve.Resolves c.state.status) ∧
      (c.state.notifications.tryGetValue id = none →
        nu.issuedAt.isSet = true ∧ nu.lastSeenAt.isSet = true) := by
  have hresolved : id ∈ c.state.resolved ↔ ∃ n, c.state.notifications.tryGetValue id = some n ∧
      n.message.autoResolve.Resolves c.state.status := MachineState.mem_resolved_iff
  rw [MachineState.Shows, tryGetValue_notifications_appliedState, h.lookup_eq]
  cases hold : c.state.notifications.tryGetValue id with
  | none =>
    -- Nothing is stored, so the rule does not remove the identifier.
    have hkeep : ¬ (id ∈ u.notifications.removals ∨ id ∈ c.state.resolved) := by
      rw [hresolved, hold, not_or]
      refine ⟨h.notMem_removals, ?_⟩
      rintro ⟨n, hn, -⟩
      cases hn
    rw [if_neg hkeep]
    refine h.tryCreate_isSome_iff.trans ?_
    constructor
    · intro hset
      refine ⟨fun n hn => ?_, fun _ => hset⟩
      cases hn
    · rintro ⟨-, hset⟩
      exact hset rfl
  | some n =>
    by_cases hres : n.message.autoResolve.Resolves c.state.status
    · have hremoved : id ∈ u.notifications.removals ∨ id ∈ c.state.resolved :=
        .inr (hresolved.mpr ⟨n, hold, hres⟩)
      rw [if_pos hremoved]
      refine iff_of_false ?_ fun hnot => hnot.1 n rfl hres
      rintro ⟨n', hn', -⟩
      cases hn'
    · have hkeep : ¬ (id ∈ u.notifications.removals ∨ id ∈ c.state.resolved) := by
        rw [hresolved, hold, not_or]
        refine ⟨h.notMem_removals, ?_⟩
        rintro ⟨n', hn', hres'⟩
        cases hn'
        exact hres hres'
      rw [if_neg hkeep]
      refine iff_of_true ⟨nu.apply n, rfl, h.message_apply n.message⟩ ⟨?_, fun hn => ?_⟩
      · rintro n' hn'
        cases hn'
        exact hres
      · cases hn

/-- **A commit keeps an alert just when the alert arrives.** -/
theorem keepsAlert_commitStep_iff {env : Environment Cron} (h : SetsNotification u id message nu)
    (hstep : CommitStep env u c c') :
    c'.state.KeepsAlert id message ↔ u.Arrives c.state id message nu := by
  obtain ⟨hch, hstate⟩ | ⟨hch, hr, hstatus, hnotifications⟩ | ⟨happlies, c₁, hsame, hstate⟩ :=
    commitStep_notifications_cases hstep
  · rw [hstate]
    constructor
    · intro hkeeps
      exact ⟨fun _ => hkeeps, fun hn => absurd hch hn, fun hn => absurd hch hn,
        fun hn => absurd hch hn⟩
    · exact fun harrives => harrives.inChanges hch
  · rw [MachineState.KeepsAlert, MachineState.Shows, hstatus, hnotifications]
    constructor
    · intro hkeeps
      exact ⟨fun h => absurd h hch, fun _ _ => hkeeps,
        fun _ hj hu => absurd hr (not_or.mpr ⟨hj, hu⟩),
        fun _ hj hu => absurd hr (not_or.mpr ⟨hj, hu⟩)⟩
    · exact fun harrives => harrives.raises hch hr
  · obtain ⟨hch, hj, hu⟩ := happlies
    have hstatus : (c₁.appliedState u).status = u.newStatus c₁.state := rfl
    rw [show c.state = c₁.state from hsame.symm] at hch hu ⊢
    rw [hstate, MachineState.KeepsAlert, shows_appliedState_iff h, hstatus]
    constructor
    · intro hkeeps
      exact ⟨fun h => absurd h hch, fun _ hr => absurd hr (not_or.mpr ⟨hj, hu⟩),
        fun _ _ _ hnew => (hkeeps hnew).1, fun _ _ _ hnew => (hkeeps hnew).2⟩
    · intro harrives hnew
      exact ⟨harrives.replaces hch hj hu hnew, harrives.creates hch hj hu hnew⟩

/-! ### A connection that drops -/

/-- The update of a connection that drops, as in `OnDisconnected` of the Bambu Lab connector. -/
def dropUpdate (utcNow : DateTimeOffset) (message : MachineMessage) :
    Except Fault MachineStateUpdate :=
  ((default : MachineStateUpdate).setStatus .disconnected).setNotifications utcNow message

/-- **A connection that drops shows its message** just when the message stored under the same
identifier is not resolved by the status before. -/
theorem shows_drop_iff {env : Environment Cron} {utcNow : DateTimeOffset}
    (hid : message.id = some id) (hresolve : message.autoResolve = ⟨some true, none, none⟩)
    (hu : dropUpdate utcNow message = .ok u) (hstep : CommitStep env u c c') :
    c'.state.Shows id message ↔ ∀ n, c.state.notifications.tryGetValue id = some n →
      ¬ n.message.autoResolve.Resolves c.state.status := by
  have hremovals : id ∉ ((default : MachineStateUpdate).setStatus
      .disconnected).notifications.removals := List.not_mem_nil
  obtain ⟨nu, hsets, hissued, hseen⟩ := SetsNotification.of_setNotifications hid hremovals hu
  have hquiet : u.Quiet ∧ u.status = ⟨.disconnected, true⟩ ∧ u.currentJob = default := by
    rw [dropUpdate, MachineStateUpdate.setNotifications, hid] at hu
    cases hu
    exact ⟨⟨rfl, rfl⟩, rfl, rfl⟩
  obtain ⟨hquiet, hstatus, hjob⟩ := hquiet
  have hch : ¬ u.RaisesInChanges c.state := hquiet.not_raisesInChanges
  have hun : ¬ u.RaisesInUnits c.state := hquiet.not_raisesInUnits
  have hj : ¬ u.RaisesInJob := by
    rw [MachineStateUpdate.RaisesInJob, hjob]
    rintro (⟨hset, -⟩ | ⟨ju, hju, -⟩)
    · cases hset
    · cases hju
  have hnew : u.newStatus c.state = .disconnected := by
    rw [MachineStateUpdate.newStatus, hstatus]
    rfl
  have hunresolved : ¬ message.autoResolve.Resolves .disconnected := by
    rw [hresolve]
    rintro (h | ⟨-, h⟩ | ⟨h, -⟩)
    · cases h
    · exact h rfl
    · cases h
  have hstatus' : c'.state.status = .disconnected := (status_commitStep hstep hch).trans hnew
  have hkeeps : c'.state.Shows id message ↔ c'.state.KeepsAlert id message := by
    rw [MachineState.KeepsAlert, hstatus']
    exact ⟨fun hshows _ => hshows, fun hkeeps => hkeeps hunresolved⟩
  rw [hkeeps, keepsAlert_commitStep_iff hsets hstep]
  constructor
  · intro harrives
    exact harrives.replaces hch hj hun (hnew ▸ hunresolved)
  · intro hstored
    exact ⟨fun h => absurd h hch, fun _ hr => absurd hr (not_or.mpr ⟨hj, hun⟩),
      fun _ _ _ _ => hstored, fun _ _ _ _ _ => ⟨hissued, hseen⟩⟩

/-- **When an alert is kept**: for any update that sets one, and for a connection that drops. -/
theorem alertKept_iff :
    (∀ (env : Environment Cron) (c c' : MachineConnection Cron) (u : MachineStateUpdate)
      (id : String) (message : MachineMessage) (nu : NotificationUpdate),
      SetsNotification u id message nu → CommitStep env u c c' →
        (c'.state.KeepsAlert id message ↔ u.Arrives c.state id message nu)) ∧
    ∀ (env : Environment Cron) (c c' : MachineConnection Cron) (u : MachineStateUpdate)
      (id : String) (message : MachineMessage) (utcNow : DateTimeOffset),
      message.id = some id → message.autoResolve = ⟨some true, none, none⟩ →
      dropUpdate utcNow message = .ok u → CommitStep env u c c' →
        (c'.state.Shows id message ↔ ∀ n, c.state.notifications.tryGetValue id = some n →
          ¬ n.message.autoResolve.Resolves c.state.status) :=
  ⟨fun _ _ _ _ _ _ _ hsets hstep => keepsAlert_commitStep_iff hsets hstep,
    fun _ _ _ _ _ _ _ hid hresolve hu hstep => shows_drop_iff hid hresolve hu hstep⟩

/-- `bbl.mqtt.disconnected`. -/
private def dropped : MachineMessage :=
  { (default : MachineMessage) with
    id := some "bbl.mqtt.disconnected"
    title := some "MQTT Disconnected"
    severity := .error
    autoResolve := ⟨some true, none, none⟩ }

/-- The update of a printer that drops out. -/
private def drop : MachineStateUpdate :=
  (dropUpdate default dropped).toOption.getD default

/-- The update of a printer that is back. -/
private def comeBack : MachineStateUpdate := (default : MachineStateUpdate).setStatus .idle

/-- A printer that has not been seen yet. -/
private def unseen : MachineConnection Unit := ⟨default, default, default, ⟨[], false, 0⟩⟩

private def noSchedules : Environment Unit := ⟨default, fun _ => none⟩

private theorem drop_sets : SetsNotification drop "bbl.mqtt.disconnected" dropped
    ⟨⟨dropped, true⟩, ⟨default, true⟩, ⟨default, true⟩⟩ := ⟨rfl, rfl, rfl, List.not_mem_nil⟩

/-- Nothing is stored before the first drop. -/
private theorem drop_arrives : drop.Arrives unseen.state "bbl.mqtt.disconnected" dropped
    ⟨⟨dropped, true⟩, ⟨default, true⟩, ⟨default, true⟩⟩ := by
  have hquiet : drop.Quiet := ⟨rfl, rfl⟩
  refine ⟨fun h => absurd h hquiet.not_raisesInChanges, fun _ hr _ => ?_, fun _ _ _ _ n hn => ?_,
    fun _ _ _ _ _ => ⟨rfl, rfl⟩⟩
  · obtain (⟨hset, -⟩ | ⟨ju, hju, -⟩) | hunits := hr
    · cases hset
    · cases hju
    · exact absurd hunits hquiet.not_raisesInUnits
  · cases hn

/-- The first drop is shown. -/
theorem alertKept_iff_firstDrop :
    (afterCommit noSchedules drop unseen).state.KeepsAlert "bbl.mqtt.disconnected" dropped ∧
      (afterCommit noSchedules drop unseen).state.Shows "bbl.mqtt.disconnected" dropped := by
  have hstep := commitStep_afterCommit noSchedules drop unseen
  refine ⟨(alertKept_iff.1 _ _ _ _ _ _ _ drop_sets hstep).mpr drop_arrives, ?_⟩
  refine (alertKept_iff.2 noSchedules unseen _ drop _ dropped default rfl rfl rfl hstep).mpr ?_
  intro n hn
  cases hn

/-- The second drop in a row is not. -/
theorem alertKept_fails :
    ¬ ∀ (c c' : MachineConnection Unit) (u : MachineStateUpdate) (id : String)
      (message : MachineMessage) (nu : NotificationUpdate),
      Reachable (fun c => c.state = default) (fun c c' => ∃ env u, CommitStep env u c c') c →
      SetsNotification u id message nu → CommitStep noSchedules u c c' →
        c'.state.KeepsAlert id message := by
  intro hall
  have hrun : Reachable (fun c : MachineConnection Unit => c.state = default)
      (fun c c' => ∃ env u, CommitStep env u c c')
      (afterCommit noSchedules comeBack (afterCommit noSchedules drop unseen)) :=
    ⟨unseen, rfl, .tail (.single ⟨_, _, commitStep_afterCommit noSchedules drop unseen⟩)
      ⟨_, _, commitStep_afterCommit noSchedules comeBack _⟩⟩
  obtain ⟨n, hn, -⟩ := hall _ _ drop _ dropped _ hrun drop_sets
    (commitStep_afterCommit noSchedules drop _) (by decide)
  cases hn

end MachineConnection

end Connect3Dp
