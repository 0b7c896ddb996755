import Connect3Dp.Connectors.Alerts
import Connect3Dp.Connectors.BambuLabGates

/-!
# Storage of a Bambu Lab machine

Most models print from a card or a drive only. What the printer says about it is remembered, so it
can gate the capabilities that later messages compute, and the notification that it is missing is
set or removed by comparing what is reported with what is stored. `StorageGated` is the invariant
that holds the three together.
-/

namespace Connect3Dp

open BambuLab

namespace BBLMachineConnection

variable {Cron : Type}

/-- What the printer last said about its storage. -/
def GateEvent.reportsStorage (storage : Option Bool) : GateEvent Cron → Option Bool
  | .message _ _ root _ => (reportedStorage root).or storage
  | _ => storage

def lastStorage (past : List (GateEvent Cron)) : Option Bool :=
  past.foldl GateEvent.reportsStorage none

theorem lastStorage_concat (past : List (GateEvent Cron)) (e : GateEvent Cron) :
    lastStorage (past ++ [e]) = e.reportsStorage (lastStorage past) := by
  rw [lastStorage, List.foldl_append]
  rfl

/-- What is stored under the identifier is the message that the storage is missing. -/
def StoresMissing (s : MachineState) : Prop :=
  ∀ n, s.notifications.tryGetValue sdCardOrUSBMissingId = some n → n.message = sdCardOrUSBMissing

theorem StoresMissing.notMem_resolved {s : MachineState} (hs : StoresMissing s) :
    sdCardOrUSBMissingId ∉ s.resolved := by
  rw [MachineState.mem_resolved_iff]
  rintro ⟨n, hn, hresolves⟩
  rw [hs n hn] at hresolves
  exact MachineMessageAutoResole.not_resolves_default s.status hresolves

/-- The storage that the printer last reported is remembered; the notification is there just when it
is missing, and then what needs storage is not offered. -/
structure StorageGated (past : List (GateEvent Cron)) (c : BBLMachineConnection Cron) : Prop where
  remembers : ∀ b, lastStorage past = some b → c.hasUSBOrSDCard = b
  notification : ∀ b, lastStorage past = some b →
    (c.machine.state.notifications.containsKey sdCardOrUSBMissingId = true ↔ b = false)
  capabilities : lastStorage past = some false →
    c.machine.state.capabilities &&& storageGate = 0
  stored : StoresMissing c.machine.state

/-! ### The notification after an update -/

/-- What an update makes of what is stored. -/
def missingAfter (u : MachineStateUpdate) (s : MachineState) : Option Notification :=
  if sdCardOrUSBMissingId ∈ u.notifications.removals then none
  else MachineConnection.notificationAfter u s sdCardOrUSBMissingId

theorem missingAfter_of_untouched {u : MachineStateUpdate} {s : MachineState}
    (hlookup : u.notifications.lookup sdCardOrUSBMissingId = none)
    (hremovals : sdCardOrUSBMissingId ∉ u.notifications.removals) :
    missingAfter u s = s.notifications.tryGetValue sdCardOrUSBMissingId := by
  rw [missingAfter, if_neg hremovals, MachineConnection.notificationAfter, hlookup]
  rfl

/-- `SetNotifications(SDCardOrUSBMissing)` leaves the message. -/
theorem missingAfter_setNotifications {u u' : MachineStateUpdate} {utcNow : DateTimeOffset}
    (hset : u.setNotifications utcNow sdCardOrUSBMissing = .ok u')
    (hremovals : sdCardOrUSBMissingId ∉ u.notifications.removals) (s : MachineState) :
    ∃ n, missingAfter u' s = some n ∧ n.message = sdCardOrUSBMissing := by
  obtain ⟨nu, hsets, hissued, hseen⟩ := SetsNotification.of_setNotifications rfl hremovals hset
  have hmerge : missingAfter u' s = NotificationUpdate.updater.merge sdCardOrUSBMissingId nu
      (s.notifications.tryGetValue sdCardOrUSBMissingId) := by
    rw [missingAfter, if_neg hsets.notMem_removals, MachineConnection.notificationAfter,
      hsets.lookup_eq]
    rfl
  rw [hmerge]
  cases s.notifications.tryGetValue sdCardOrUSBMissingId with
  | none => exact hsets.tryCreate_isSome_iff.mpr ⟨hissued, hseen⟩
  | some n => exact ⟨nu.apply n, rfl, hsets.message_apply n.message⟩

variable {c : BBLMachineConnection Cron} {host : Host} {data : BBLMQTTData}
  {v : MachineStateUpdate}

/-- **What `MQTT_OnData` makes of the notification**: after a report of the storage it is there just
when the storage is missing, and without one it stays as it is. -/
theorem missingAfter_reportStorage (hrequired : c.isUSBOrSDCardRequired = true)
    (hc : StoresMissing c.machine.state)
    (hlookup : data.changes.notifications.lookup sdCardOrUSBMissingId = none)
    (hremovals : sdCardOrUSBMissingId ∉ data.changes.notifications.removals)
    (hv : c.reportStorage host data = .ok v) :
    (∀ n, missingAfter v c.machine.state = some n → n.message = sdCardOrUSBMissing) ∧
      ((missingAfter v c.machine.state).isSome = true ↔
        data.hasUSBOrSDCard.elim
          (c.machine.state.notifications.containsKey sdCardOrUSBMissingId = true) (· = false)) := by
  have hsame := missingAfter_of_untouched (s := c.machine.state) hlookup hremovals
  unfold reportStorage at hv
  cases hstorage : data.hasUSBOrSDCard with
  | none =>
    rw [hstorage] at hv
    cases hv
    rw [hsame]
    exact ⟨hc, Iff.rfl⟩
  | some hasMedia =>
    rw [hstorage, hrequired] at hv
    -- it is set where it is not stored, and removed where it is
    cases hhas : c.machine.state.notifications.containsKey sdCardOrUSBMissingId with
    | false =>
      rw [hhas] at hv
      cases hasMedia with
      | false =>
        obtain ⟨n, hn, hmessage⟩ := missingAfter_setNotifications hv hremovals c.machine.state
        rw [hn]
        refine ⟨fun n' hn' => ?_, iff_of_true rfl rfl⟩
        cases hn'
        exact hmessage
      | true =>
        cases hv
        rw [hsame]
        refine ⟨hc, iff_of_false (fun h => ?_) fun h => by cases h⟩
        rw [Dictionary.containsKey, h] at hhas
        cases hhas
    | true =>
      rw [hhas] at hv
      cases hasMedia with
      | false =>
        cases hv
        rw [hsame]
        exact ⟨hc, iff_of_true hhas rfl⟩
      | true =>
        cases hv
        have hremoved : sdCardOrUSBMissingId ∈
            (data.changes.removeNotification sdCardOrUSBMissingId).notifications.removals :=
          DictionaryBuffer.mem_removals_remove.mpr (.inr rfl)
        have hnone : missingAfter (data.changes.removeNotification sdCardOrUSBMissingId)
            c.machine.state = none := if_pos hremoved
        rw [hnone]
        refine ⟨fun n hn => ?_, iff_of_false (fun h => ?_) fun h => ?_⟩
        · cases hn
        · cases h
        · cases h

variable [DecidableEq Cron] [Hashable (HeatingSchedule Cron)] [Hashable (ScheduledPrint Cron)]
  {culture : Culture} {toLower : String → String} {env : Environment Cron}
  {u : MachineStateUpdate} {past : List (GateEvent Cron)}

/-- The notification after a commit that raises nowhere. -/
theorem tryGetValue_afterCommit (env : Environment Cron) (hu : u.Harmless)
    {m : MachineConnection Cron} (hm : StoresMissing m.state) :
    (MachineConnection.afterCommit env u m).state.notifications.tryGetValue sdCardOrUSBMissingId =
      missingAfter u m.state := by
  obtain ⟨m₁, hsame, hstate⟩ := MachineConnection.state_commitStep_of_harmless
    (MachineConnection.commitStep_afterCommit env u m) hu
  rw [MachineConnection.tryGetValue_notifications_of_appliedState hsame hstate, missingAfter]
  simp only [hm.notMem_resolved, or_false]

/-- A commit that does not touch the notification leaves it, whether it raises or not. -/
theorem tryGetValue_afterCommit_of_untouched (env : Environment Cron)
    (hlookup : u.notifications.lookup sdCardOrUSBMissingId = none)
    (hremovals : sdCardOrUSBMissingId ∉ u.notifications.removals)
    {m : MachineConnection Cron} (hm : StoresMissing m.state) :
    (MachineConnection.afterCommit env u m).state.notifications.tryGetValue sdCardOrUSBMissingId =
      m.state.notifications.tryGetValue sdCardOrUSBMissingId := by
  obtain ⟨-, hsame⟩ | ⟨-, happlied⟩ := MachineConnection.tryGetValue_notifications_commitStep
    (MachineConnection.commitStep_afterCommit env u m)
  · exact hsame sdCardOrUSBMissingId
  · rw [happlied, if_neg (not_or.mpr ⟨hremovals, hm.notMem_resolved⟩),
      MachineConnection.notificationAfter, hlookup]
    rfl

/-- **A reading** keeps the storage gated, whether it reports the storage or not. -/
theorem StorageGated.mqttOnData (h : StorageGated past c)
    (hculture : culture.startsWith sdCardOrUSBMissingId hmsPrefix = false)
    (hrequired : c.isUSBOrSDCardRequired = true) (hharmless : data.changes.Harmless)
    (hlookup : data.changes.notifications.lookup sdCardOrUSBMissingId = none)
    (hremovals : sdCardOrUSBMissingId ∉ data.changes.notifications.removals)
    {past' : List (GateEvent Cron)}
    (hlast : lastStorage past' = data.hasUSBOrSDCard.or (lastStorage past)) :
    StorageGated past' (finalState ((mqttOnData culture host env data).run c)) := by
  obtain ⟨u, v, hv, hu, hharmless', -, hlookup', hremovals'⟩ :=
    c.exists_gatesUpdate culture host hharmless
  obtain ⟨hmessage, hpresent⟩ := missingAfter_reportStorage hrequired h.stored hlookup hremovals hv
  have hcapabilities : (finalState ((BBLMachineConnection.mqttOnData culture host env data).run
      c)).machine.state.capabilities = (c.remember data).capabilities data :=
    capabilities_mqttOnData hharmless
  -- the steps of `MQTT_OnData` after the report of the storage spare the notification
  have hstored : (finalState ((BBLMachineConnection.mqttOnData culture host env data).run
      c)).machine.state.notifications.tryGetValue sdCardOrUSBMissingId =
        missingAfter v c.machine.state := by
    rw [finalState_mqttOnData hu]
    refine (tryGetValue_afterCommit env hharmless' h.stored).trans ?_
    simp only [missingAfter, MachineConnection.notificationAfter, hlookup', hremovals' hculture]
  -- what is remembered is what the message reports, or else the last report
  have hremembers : ∀ b, lastStorage past' = some b →
      data.hasUSBOrSDCard.getD c.hasUSBOrSDCard = b := by
    intro b hb
    rw [hlast] at hb
    cases hstorage : data.hasUSBOrSDCard with
    | none =>
      rw [hstorage] at hb
      exact h.remembers b hb
    | some b' =>
      rw [hstorage] at hb
      exact Option.some.inj hb
  refine ⟨fun b hb => ?_, fun b hb => ?_, fun hb => ?_, fun n hn => ?_⟩
  · rw [finalState_mqttOnData hu, ← hremembers b hb]
    exact if_pos hrequired
  · rw [Dictionary.containsKey, hstored, hpresent]
    rw [hlast] at hb
    cases hstorage : data.hasUSBOrSDCard with
    | none =>
      rw [hstorage] at hb
      exact h.notification b hb
    | some b' =>
      rw [hstorage] at hb
      cases hb
      exact Iff.rfl
  · rw [hcapabilities, capabilities_storageGate_iff, lacksStorage_remember_iff]
    exact ⟨hremembers false hb, hrequired⟩
  · exact hmessage n (hstored.symm.trans hn)

omit [DecidableEq Cron] [Hashable (HeatingSchedule Cron)] [Hashable (ScheduledPrint Cron)] in
/-- A commit that leaves the capabilities and the notification alone. -/
theorem StorageGated.of_eq {c' : BBLMachineConnection Cron} (h : StorageGated past c)
    {past' : List (GateEvent Cron)} (hlast : lastStorage past' = lastStorage past)
    (hstorage : c'.hasUSBOrSDCard = c.hasUSBOrSDCard)
    (hcapabilities : c'.machine.state.capabilities = c.machine.state.capabilities)
    (hnotification : c'.machine.state.notifications.tryGetValue sdCardOrUSBMissingId =
      c.machine.state.notifications.tryGetValue sdCardOrUSBMissingId) :
    StorageGated past' c' := by
  refine ⟨fun b hb => ?_, fun b hb => ?_, fun hb => ?_, fun n hn => ?_⟩
  · rw [hstorage]
    exact h.remembers b (hlast ▸ hb)
  · rw [Dictionary.containsKey, hnotification]
    exact h.notification b (hlast ▸ hb)
  · rw [hcapabilities]
    exact h.capabilities (hlast ▸ hb)
  · exact h.stored n (hnotification.symm.trans hn)

/-- **A lost FTP connection** keeps the storage gated: it says that the storage is missing only if
that is what is remembered. -/
theorem StorageGated.onFTPDisconnected (h : StorageGated past c) {past' : List (GateEvent Cron)}
    (hlast : lastStorage past' = lastStorage past) :
    StorageGated past' (finalState ((onFTPDisconnected host env).run c)) := by
  obtain ⟨u, hu, hharmless, -⟩ := c.exists_ftpDisconnectedUpdate host
  have hcapabilities : (finalState ((BBLMachineConnection.onFTPDisconnected host env).run
      c)).machine.state.capabilities = c.machine.state.capabilities &&& ~~~storageGate :=
    capabilities_onFTPDisconnected
  have hstored : (finalState ((BBLMachineConnection.onFTPDisconnected host env).run
      c)).machine.state.notifications.tryGetValue sdCardOrUSBMissingId =
        missingAfter u c.machine.state := by
    rw [finalState_onFTPDisconnected hu]
    exact tryGetValue_afterCommit env hharmless h.stored
  have hshut : lastStorage past' = some false → (finalState
      ((BBLMachineConnection.onFTPDisconnected host env).run
        c)).machine.state.capabilities &&& storageGate = 0 := by
    intro _
    rw [hcapabilities, BitVec.and_assoc]
    exact BitVec.and_zero
  have hremembers : ∀ b, lastStorage past' = some b → (finalState
      ((BBLMachineConnection.onFTPDisconnected host env).run c)).hasUSBOrSDCard = b := by
    intro b hb
    rw [finalState_onFTPDisconnected hu]
    exact h.remembers b (hlast.symm.trans hb)
  unfold ftpDisconnectedUpdate at hu
  cases hstorage : c.hasUSBOrSDCard with
  | true =>
    -- The other message is set.
    dsimp only at hu
    rw [hstorage, if_pos rfl] at hu
    have hmessage : ftpDisconnected.id = some ftpDisconnectedId := rfl
    have hid : ftpDisconnectedId ≠ sdCardOrUSBMissingId := by decide
    have hspares := MachineStateUpdate.sparesStorage_setNotifications hmessage hid hu
    have hsame : missingAfter u c.machine.state =
        c.machine.state.notifications.tryGetValue sdCardOrUSBMissingId :=
      missingAfter_of_untouched hspares.lookup
        fun hmem => List.not_mem_nil (hspares.mem_removals.mp hmem)
    rw [hsame] at hstored
    refine ⟨hremembers, fun b hb => ?_, hshut, fun n hn => h.stored n (hstored.symm.trans hn)⟩
    rw [Dictionary.containsKey, hstored]
    exact h.notification b (hlast.symm.trans hb)
  | false =>
    dsimp only at hu
    rw [hstorage, if_neg Bool.false_ne_true] at hu
    -- the message is set, and the last report was that the storage is missing
    obtain ⟨n, hn, hmessage⟩ := missingAfter_setNotifications hu List.not_mem_nil c.machine.state
    rw [hn] at hstored
    refine ⟨hremembers, fun b hb => ?_, hshut, fun n' hn' => ?_⟩
    · have hb' := h.remembers b (hlast.symm.trans hb)
      rw [Dictionary.containsKey, hstored, ← hb', hstorage]
      exact iff_of_true rfl rfl
    · rw [hstored] at hn'
      cases hn'
      exact hmessage

/-- **One event** keeps the storage gated. -/
theorem StorageGated.handle (h : StorageGated past c)
    (hculture : culture.startsWith sdCardOrUSBMissingId hmsPrefix = false)
    (hrequired : c.isUSBOrSDCardRequired = true) {e : GateEvent Cron}
    (he : e.Occurs culture toLower) : StorageGated (past ++ [e]) (c.handle culture e) := by
  have hlast := lastStorage_concat past e
  cases e with
  | message host env root data =>
    have hreports := reports_of_wasRead he
    refine h.mqttOnData hculture hrequired (reads_of_wasRead he).consistent.harmless
      hreports.lookup hreports.notMem_removals ?_
    rw [hreports.hasUSBOrSDCard]
    exact hlast
  | mqttDisconnected host env reason =>
    obtain ⟨data, hdata, hconsistent, -⟩ := exists_disconnectedData host reason
    rw [BBLMachineConnection.handle, run_onDisconnected hdata]
    obtain ⟨hstorage, hlookup, hremovals⟩ := storage_disconnectedData hdata
    refine h.mqttOnData hculture hrequired hconsistent.harmless hlookup hremovals ?_
    rw [hstorage]
    exact hlast
  | ftpDisconnected host env => exact h.onFTPDisconnected hlast
  | ftpConnected => exact h.of_eq hlast rfl rfl rfl
  | commit env u =>
    rw [BBLMachineConnection.handle, finalState_commit]
    -- a commit that writes neither leaves both, even if it raises halfway
    exact h.of_eq hlast rfl (capabilities_afterCommit_of_not_isSet env he.capabilities c.machine)
      (tryGetValue_afterCommit_of_untouched env he.lookup he.notMem_removals h.stored)
  | other others =>
    have hstate : (others c.machine).state = c.machine.state := he c.machine
    refine h.of_eq hlast rfl (congrArg MachineState.capabilities hstate) ?_
    exact congrArg (fun s => s.notifications.tryGetValue sdCardOrUSBMissingId) hstate

theorem storageGated_handleAll
    (hculture : culture.startsWith sdCardOrUSBMissingId hmsPrefix = false)
    (hrequired : c.isUSBOrSDCardRequired = true) (hc : c.machine.state.notifications = ∅)
    {run : List (GateEvent Cron)} (hrun : ∀ e ∈ run, e.Occurs culture toLower) :
    StorageGated run (c.handleAll culture run) ∧
      (c.handleAll culture run).isUSBOrSDCardRequired = true := by
  induction run using List.reverseRecOn with
  | nil =>
    refine ⟨⟨fun b hb => ?_, fun b hb => ?_, fun hb => ?_, fun n hn => ?_⟩, hrequired⟩
    · cases hb
    · cases hb
    · cases hb
    · rw [handleAll_nil, hc] at hn
      cases hn
  | append_singleton past e ih =>
    obtain ⟨hgated, hrequired'⟩ := ih fun e he => hrun e (List.mem_append_left _ he)
    have he : e.Occurs culture toLower := hrun e (by simp)
    rw [handleAll_concat]
    exact ⟨hgated.handle hculture hrequired' he,
      (isUSBOrSDCardRequired_handle culture _ e).trans hrequired'⟩

/-- **Storage gates what needs it**: in every run of a model that needs storage, once the printer
has said whether there is storage, the notification is there just when there is none by what it last
said, and then neither printing from it nor its files are offered. -/
theorem storage_gates (hculture : culture.startsWith sdCardOrUSBMissingId hmsPrefix = false)
    (hrequired : c.isUSBOrSDCardRequired = true) (hc : c.machine.state.notifications = ∅)
    {run : List (GateEvent Cron)} (hrun : ∀ e ∈ run, e.Occurs culture toLower) {b : Bool}
    (hlast : lastStorage run = some b) :
    ((c.handleAll culture run).machine.state.notifications.containsKey
        sdCardOrUSBMissingId = true ↔ b = false) ∧
      (b = false →
        (c.handleAll culture run).machine.state.capabilities &&& storageGate = 0) := by
  obtain ⟨hgated, -⟩ := storageGated_handleAll hculture hrequired hc hrun
  refine ⟨hgated.notification b hlast, ?_⟩
  rintro rfl
  exact hgated.capabilities hlast

private def mediaPrinter : BBLMachineConnection Unit :=
  ⟨⟨default, default, default, ⟨[], false, 0⟩⟩, .initial none, none, none, false, false, true⟩

private def ejected : JsonElement := .object [("print", .object [("sdcard", .boolean false)])]

private def silent : JsonElement := .object [("print", .object [])]

/-- The card is ejected, the printer sends something else, and the FTP connection is lost. -/
private def ejection (data data' : BBLMQTTData) : List (GateEvent Unit) :=
  [.message default ⟨default, fun _ => none⟩ ejected data,
    .message default ⟨default, fun _ => none⟩ silent data',
    .ftpDisconnected default ⟨default, fun _ => none⟩]

theorem storage_gates_ejection : ∃ data data', WasRead .ordinal id ejected data ∧
    WasRead .ordinal id silent data' ∧
    (mediaPrinter.handleAll .ordinal (ejection data
      data')).machine.state.notifications.containsKey sdCardOrUSBMissingId = true ∧
    (mediaPrinter.handleAll .ordinal (ejection data
      data')).machine.state.capabilities &&& storageGate = 0 := by
  have hejected : returned ((onMessage .ordinal id default none ejected).run
      (.initial none)) = true := by decide +kernel
  have hsilent : returned ((onMessage .ordinal id default none silent).run
      (.initial none)) = true := by decide +kernel
  obtain ⟨data, hdata⟩ := exists_wasRead hejected
  obtain ⟨data', hdata'⟩ := exists_wasRead hsilent
  have hoccurs : ∀ e ∈ ejection data data', e.Occurs .ordinal id := by
    intro e he
    rcases List.mem_cons.mp he with rfl | he
    · exact hdata
    rcases List.mem_cons.mp he with rfl | he
    · exact hdata'
    obtain rfl := List.mem_singleton.mp he
    trivial
  have hculture : Culture.ordinal.startsWith sdCardOrUSBMissingId hmsPrefix = false := by
    decide +kernel
  have hlast : lastStorage (ejection data data') = some false := by
    have hreported : (reportedStorage silent).or ((reportedStorage ejected).or none) =
        some false := by decide
    exact hreported
  have hnew : mediaPrinter.machine.state.notifications = ∅ := rfl
  obtain ⟨hnotification, hcapabilities⟩ := storage_gates hculture rfl hnew hoccurs hlast
  exact ⟨data, data', hdata, hdata', hnotification.mpr rfl, hcapabilities rfl⟩

end BBLMachineConnection

end Connect3Dp
