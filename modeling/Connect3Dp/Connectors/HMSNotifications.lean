import Connect3Dp.Connectors.AutoResolve
import Connect3Dp.Connectors.HMSReading
import Connect3Dp.Connectors.BambuLabConnection

/-!
# The HMS notifications of a machine

A message that lists the entries of the health system replaces the HMS notifications of the
machine: it sets one for every entry and removes those that are stored under other identifiers. No
identifier is both set and removed, and no HMS notification is resolved by itself, so what is
stored after the commit is what the message lists (`hmsNotifications_exact`). A notification that
is there already is updated, not created, and keeps the time it was issued at.
-/

namespace Connect3Dp

open BambuLab

/-- The HMS notifications of a state have identifiers of entries and are not resolved by
themselves. -/
def MachineState.HoldsHMS (s : MachineState) : Prop :=
  ∀ id n, IsHMSId id → s.notifications.tryGetValue id = some n →
    (∃ attr code, id = hmsId attr code) ∧ n.message.autoResolve = default

theorem MachineMessageAutoResole.not_resolves_default (status : MachineStatus) :
    ¬ (default : MachineMessageAutoResole).Resolves status := by
  rintro (h | ⟨h, -⟩ | ⟨h, -⟩)
  all_goals cases h

theorem MachineState.HoldsHMS.notMem_resolved {s : MachineState} (hs : s.HoldsHMS) {id : String}
    (hid : IsHMSId id) : id ∉ s.resolved := by
  rw [MachineState.mem_resolved_iff]
  rintro ⟨n, hn, hresolves⟩
  rw [(hs id n hid hn).2] at hresolves
  exact MachineMessageAutoResole.not_resolves_default s.status hresolves

/-- What an entry for an HMS notification makes of what is stored. -/
theorem BambuLab.ShowsHMS.merge {nu : NotificationUpdate} (h : ShowsHMS nu) (id : String)
    (o : Option Notification) : ∃ n, NotificationUpdate.updater.merge id nu o = some n ∧
      n.message.autoResolve = default ∧ ∀ old, o = some old → n.issuedAt = old.issuedAt := by
  have hmessage : ∀ n : Notification, (nu.apply n).message.autoResolve = default := by
    intro n
    change (nu.message.apply n.message).autoResolve = default
    rw [ScalarBuffer.apply_of_isSet h.message]
    exact h.autoResolve
  cases o with
  | some old =>
    refine ⟨nu.apply old, rfl, hmessage old, fun old' heq => ?_⟩
    cases heq
    rfl
  | none =>
    refine ⟨nu.apply ⟨nu.message.value, nu.issuedAt.value, nu.lastSeenAt.value⟩, ?_, hmessage _,
      fun old heq => ?_⟩
    · change nu.tryCreate = _
      rw [NotificationUpdate.tryCreate, h.message, h.issuedAt, h.lastSeenAt]
      rfl
    · cases heq

namespace MachineConnection

variable {Cron : Type} [DecidableEq Cron] [Hashable (HeatingSchedule Cron)]
  [Hashable (ScheduledPrint Cron)] {env : Environment Cron} {c c' : MachineConnection Cron}
  {u : MachineStateUpdate}

/-- Whatever an update does to a notification, it keeps the time it was issued at. -/
theorem issuedAt_commitStep (h : CommitStep env u c c') {id : String} {n n' : Notification}
    (hn : c.state.notifications.tryGetValue id = some n)
    (hn' : c'.state.notifications.tryGetValue id = some n') : n'.issuedAt = n.issuedAt := by
  obtain ⟨-, hsame⟩ | ⟨-, happlied⟩ := tryGetValue_notifications_commitStep h
  · rw [hsame, hn] at hn'
    cases hn'
    rfl
  · rw [happlied, notificationAfter, hn] at hn'
    split at hn'
    · cases hn'
    · cases hlookup : u.notifications.lookup id with
      | none =>
        rw [hlookup] at hn'
        cases hn'
        rfl
      | some nu =>
        rw [hlookup] at hn'
        cases hn'
        rfl

/-- An update that does not touch the HMS notifications leaves them as they are. -/
theorem tryGetValue_commitStep_of_untouched (h : CommitStep env u c c') (hc : c.state.HoldsHMS)
    {id : String} (hid : IsHMSId id) (hlookup : u.notifications.lookup id = none)
    (hremovals : id ∉ u.notifications.removals) :
    c'.state.notifications.tryGetValue id = c.state.notifications.tryGetValue id := by
  obtain ⟨-, hsame⟩ | ⟨-, happlied⟩ := tryGetValue_notifications_commitStep h
  · exact hsame id
  · rw [happlied, if_neg (not_or.mpr ⟨hremovals, hc.notMem_resolved hid⟩), notificationAfter,
      hlookup]
    rfl

/-- An update that raises nowhere is applied to the HMS notifications. -/
theorem tryGetValue_commitStep_of_harmless (h : CommitStep env u c c') (hu : u.Harmless)
    (hc : c.state.HoldsHMS) {id : String} (hid : IsHMSId id) :
    c'.state.notifications.tryGetValue id =
      if id ∈ u.notifications.removals then none else notificationAfter u c.state id := by
  obtain ⟨c₁, hsame, hstate⟩ := state_commitStep_of_harmless h hu
  have hresolved : id ∉ c.state.resolved := hc.notMem_resolved hid
  rw [tryGetValue_notifications_of_appliedState hsame hstate]
  by_cases hremoved : id ∈ u.notifications.removals
  · rw [if_pos (.inl hremoved), if_pos hremoved]
  · rw [if_neg (not_or.mpr ⟨hremoved, hresolved⟩), if_neg hremoved]

end MachineConnection

namespace BBLMachineConnection

variable {Cron : Type}

/-! ### The update of a message -/

/-- The part for the storage and the speeds leave the HMS notifications alone. -/
theorem leavesHMS_reportStorage (c : BBLMachineConnection Cron) (host : Host)
    (data : BBLMQTTData) : Yields (c.reportStorage host data) data.changes.LeavesHMS := by
  have hid : ¬ IsHMSId sdCardOrUSBMissingId := by decide
  have hsame : Yields (.ok data.changes : Except Fault MachineStateUpdate)
      data.changes.LeavesHMS := .pure (refl _)
  unfold reportStorage
  split
  · dsimp only
    split
    · exact hsame
    · split
      · exact MachineStateUpdate.leavesHMS_setNotifications rfl hid
      · split
        · exact .pure (data.changes.leavesHMS_removeNotification hid)
        · exact hsame
  · exact hsame

theorem exists_reportStorage_eq_ok (c : BBLMachineConnection Cron) (host : Host)
    (data : BBLMQTTData) : ∃ u, c.reportStorage host data = .ok u := by
  unfold reportStorage
  split
  · dsimp only
    split_ifs
    · exact ⟨_, rfl⟩
    · exact ⟨_, rfl⟩
    · exact ⟨_, rfl⟩
    · exact ⟨_, rfl⟩
  · exact ⟨_, rfl⟩

theorem removeStale_eq (culture : Culture) (s : MachineState) (data : BBLMQTTData)
    (u : MachineStateUpdate) : ∃ stale : List String, removeStale culture s data u =
        { u with notifications := stale.foldl DictionaryBuffer.remove u.notifications } ∧
      ∀ id, id ∈ stale ↔ ∃ ids, data.activeHMSIds = some ids ∧ id ∉ ids ∧
        culture.startsWith id hmsPrefix = true ∧ s.notifications.tryGetValue id ≠ none := by
  have hfold : ∀ (stale : List String) (u : MachineStateUpdate),
      stale.foldl (fun u id => u.removeNotification id) u =
        { u with notifications := stale.foldl DictionaryBuffer.remove u.notifications } := by
    intro stale
    induction stale with
    | nil => exact fun _ => rfl
    | cons id stale ih => exact fun u => ih _
  unfold removeStale
  cases data.activeHMSIds with
  | none =>
    refine ⟨[], rfl, fun id => iff_of_false List.not_mem_nil ?_⟩
    rintro ⟨ids, h, -⟩
    cases h
  | some ids =>
    refine ⟨staleHMSIds culture s ids, hfold _ u, fun id => ?_⟩
    have hkey : id ∈ s.notifications.keys ↔ s.notifications.tryGetValue id ≠ none :=
      Dictionary.mem_keys_iff.trans Option.ne_none_iff_exists'.symm
    simp only [staleHMSIds, List.mem_filter, hkey, Bool.and_eq_true, Bool.not_eq_true',
      decide_eq_false_iff_not, Option.some.injEq, exists_eq_left']
    tauto

/-- The update that is committed for a reading: that of `reportStorage` with the speeds and the
capabilities, without the notifications that are no longer active. -/
theorem exists_dataUpdate_eq (culture : Culture) (host : Host) (c : BBLMachineConnection Cron)
    (data : BBLMQTTData) : ∃ v, c.reportStorage host data = .ok v ∧ data.changes.LeavesHMS v ∧
      ∃ stale : List String, c.dataUpdate culture host data =
          .ok { (setSpeeds v).setCapabilities ((c.remember data).capabilities data) with
            notifications := stale.foldl DictionaryBuffer.remove v.notifications } ∧
        ∀ id, id ∈ stale ↔ ∃ ids, data.activeHMSIds = some ids ∧ id ∉ ids ∧
          culture.startsWith id hmsPrefix = true ∧
          c.machine.state.notifications.tryGetValue id ≠ none := by
  obtain ⟨v, hv⟩ := c.exists_reportStorage_eq_ok host data
  obtain ⟨stale, hstale, hmem⟩ := removeStale_eq culture c.machine.state data
    ((setSpeeds v).setCapabilities ((c.remember data).capabilities data))
  refine ⟨v, hv, c.leavesHMS_reportStorage host data v hv, stale, ?_, hmem⟩
  rw [dataUpdate, hv]
  exact congrArg Except.ok hstale

theorem harmless_of_leavesHMS {u v : MachineStateUpdate}
    (hleaves : u.LeavesHMS v) (hu : u.Harmless) (capabilities : MachineCapabilities)
    (stale : List String) : MachineStateUpdate.Harmless
      { (setSpeeds v).setCapabilities capabilities with
        notifications := stale.foldl DictionaryBuffer.remove v.notifications } := by
  have hharmless := hleaves.harmless hu
  exact ⟨hharmless.1, hharmless.2, hharmless.3⟩

/-- **The update that a message commits**, as far as the HMS notifications are concerned. -/
theorem exists_dataUpdate (culture : Culture) (host : Host) (c : BBLMachineConnection Cron)
    {data : BBLMQTTData} (hdata : data.Consistent) :
    ∃ u, c.dataUpdate culture host data = .ok u ∧ u.Harmless ∧
      (∀ id, IsHMSId id → u.notifications.lookup id = data.changes.notifications.lookup id) ∧
      ∀ id, IsHMSId id → (id ∈ u.notifications.removals ↔
        ∃ ids, data.activeHMSIds = some ids ∧ id ∉ ids ∧ culture.startsWith id hmsPrefix = true ∧
          c.machine.state.notifications.tryGetValue id ≠ none) := by
  obtain ⟨v, -, hleaves, stale, hu, hmem⟩ := c.exists_dataUpdate_eq culture host data
  refine ⟨_, hu, harmless_of_leavesHMS hleaves hdata.harmless _ stale, fun id hid => ?_,
    fun id hid => ?_⟩
  · rw [← hleaves.lookup id hid]
    exact DictionaryBuffer.lookup_foldl_remove
  · rw [← hmem]
    refine DictionaryBuffer.mem_removals_foldl_remove.trans (or_iff_right fun hremoved => ?_)
    exact hdata.notMem_removals id hid ((hleaves.mem_removals id hid).mp hremoved)

variable [DecidableEq Cron] [Hashable (HeatingSchedule Cron)] [Hashable (ScheduledPrint Cron)]
  {culture : Culture} {host : Host} {env : Environment Cron} {c c' : BBLMachineConnection Cron}
  {data : BBLMQTTData} {u : MachineStateUpdate}

theorem finalState_commit (env : Environment Cron) (u : MachineStateUpdate)
    (c : BBLMachineConnection Cron) : finalState ((commit env u).run c) =
      c.setMachine (MachineConnection.afterCommit env u c.machine) := by
  unfold commit MachineConnection.afterCommit
  cases hrun : (MachineConnection.commitState env u).run c.machine with
  | ok raised machine =>
    rw [run_onField_ok (run_discard_ok hrun)]
    rfl
  | error f machine =>
    rw [run_onField_error (run_discard_error hrun)]
    rfl

theorem finalState_mqttOnData (hu : c.dataUpdate culture host data = .ok u) :
    finalState ((mqttOnData culture host env data).run c) =
      (c.remember data).setMachine (MachineConnection.afterCommit env u c.machine) := by
  have hget : (get : EStateM Fault (BBLMachineConnection Cron) _).run c = .ok c c := rfl
  have hrun : (mqttOnData culture host env data).run c =
      (commit env u).run (c.remember data) := by
    rw [mqttOnData, run_bind_ok hget, hu, ofExcept_ok_bind]
    rfl
  rw [hrun, finalState_commit]
  rfl

/-- A commit is a commit of the machine. -/
theorem commitStep_commit (env : Environment Cron) (u : MachineStateUpdate)
    (c : BBLMachineConnection Cron) :
    MachineConnection.CommitStep env u c.machine (finalState ((commit env u).run c)).machine := by
  rw [finalState_commit]
  exact MachineConnection.commitStep_afterCommit env u c.machine

/-- `MQTT_OnData` commits its update. -/
theorem commitStep_mqttOnData (hu : c.dataUpdate culture host data = .ok u) :
    MachineConnection.CommitStep env u c.machine
      (finalState ((mqttOnData culture host env data).run c)).machine := by
  rw [finalState_mqttOnData hu]
  exact MachineConnection.commitStep_afterCommit env u c.machine

/-- What `MQTT_OnData` makes of an HMS notification, by what the reading says about it. -/
theorem tryGetValue_mqttOnData (culture : Culture) (host : Host) (env : Environment Cron)
    (hdata : data.Consistent) (hc : c.machine.state.HoldsHMS) {id : String} (hid : IsHMSId id) :
    ∃ u : MachineStateUpdate,
      u.notifications.lookup id = data.changes.notifications.lookup id ∧
      (id ∈ u.notifications.removals ↔ ∃ ids, data.activeHMSIds = some ids ∧ id ∉ ids ∧
        culture.startsWith id hmsPrefix = true ∧
        c.machine.state.notifications.tryGetValue id ≠ none) ∧
      (finalState ((mqttOnData culture host env data).run
        c)).machine.state.notifications.tryGetValue id =
          if id ∈ u.notifications.removals then none
          else MachineConnection.notificationAfter u c.machine.state id := by
  obtain ⟨u, hu, hharmless, hlookup, hremovals⟩ := c.exists_dataUpdate culture host hdata
  exact ⟨u, hlookup id hid, hremovals id hid,
    MachineConnection.tryGetValue_commitStep_of_harmless (commitStep_mqttOnData hu) hharmless hc
      hid⟩

/-- An active identifier is set and not removed. -/
theorem tryGetValue_of_active (hdata : data.Consistent) (hc : c.machine.state.HoldsHMS)
    {id : String} (hid : data.Active id) : ∃ n,
      (finalState ((mqttOnData culture host env data).run
        c)).machine.state.notifications.tryGetValue id = some n ∧
      n.message.autoResolve = default := by
  obtain ⟨attr, code, rfl⟩ := hdata.isHMS id hid
  have hhms := isHMSId_hmsId attr code
  obtain ⟨u, hlookup, hremovals, happlied⟩ :=
    tryGetValue_mqttOnData culture host env hdata hc hhms
  obtain ⟨nu, hnu⟩ := (hdata.lookup_iff _ hhms).mpr hid
  obtain ⟨n, hn, hresolve, -⟩ := (hdata.shows _ nu hhms hnu).merge (hmsId attr code)
    (c.machine.state.notifications.tryGetValue (hmsId attr code))
  refine ⟨n, ?_, hresolve⟩
  rw [happlied, if_neg, MachineConnection.notificationAfter, hlookup, hnu]
  · exact hn
  · rw [hremovals]
    rintro ⟨ids, hids, hnot, -⟩
    obtain ⟨ids', hids', hmem⟩ := hid
    rw [hids] at hids'
    cases hids'
    exact hnot hmem

/-- An identifier that is not active is not set, and removed if others are active. -/
theorem tryGetValue_of_not_active
    (hculture : ∀ attr code, culture.startsWith (hmsId attr code) hmsPrefix = true)
    (hdata : data.Consistent) (hc : c.machine.state.HoldsHMS) {id : String} (hid : IsHMSId id)
    (hnot : ¬ data.Active id) :
    (finalState ((mqttOnData culture host env data).run
      c)).machine.state.notifications.tryGetValue id =
        data.activeHMSIds.elim (c.machine.state.notifications.tryGetValue id) fun _ => none := by
  obtain ⟨u, hlookup, hremovals, happlied⟩ :=
    tryGetValue_mqttOnData culture host env hdata hc hid
  have hunset : u.notifications.lookup id = none := by
    rw [hlookup, Option.eq_none_iff_forall_not_mem]
    exact fun nu hnu => hnot ((hdata.lookup_iff id hid).mp ⟨nu, hnu⟩)
  rw [happlied, MachineConnection.notificationAfter, hunset]
  cases hids : data.activeHMSIds with
  | none =>
    refine if_neg ?_
    rw [hremovals]
    rintro ⟨ids, h, -⟩
    rw [hids] at h
    cases h
  | some ids =>
    have hmem : id ∉ ids := fun hmem => hnot ⟨ids, hids, hmem⟩
    by_cases hstored : c.machine.state.notifications.tryGetValue id = none
    · change (if _ then none else c.machine.state.notifications.tryGetValue id) = none
      rw [hstored, ite_self]
    · obtain ⟨n, hn⟩ := Option.ne_none_iff_exists'.mp hstored
      obtain ⟨attr, code, rfl⟩ := (hc id n hid hn).1
      exact if_pos (hremovals.mpr ⟨ids, hids, hmem, hculture attr code, hstored⟩)

/-- **What a reading commits**: the HMS notifications are those that are active, if the message
lists any, and stay as they are if it does not. -/
theorem hms_mqttOnData
    (hculture : ∀ attr code, culture.startsWith (hmsId attr code) hmsPrefix = true)
    (hdata : data.Consistent) (hc : c.machine.state.HoldsHMS)
    (hc' : c' = finalState ((mqttOnData culture host env data).run c)) :
    c'.machine.state.HoldsHMS ∧ ∀ id, IsHMSId id →
      ((∃ n, c'.machine.state.notifications.tryGetValue id = some n) ↔
        data.activeHMSIds.elim (∃ n, c.machine.state.notifications.tryGetValue id = some n)
          fun ids => id ∈ ids) := by
  subst hc'
  refine ⟨fun id n hid hn => ?_, fun id hid => ?_⟩
  · by_cases hmem : data.Active id
    · obtain ⟨n', hn', hresolve⟩ := tryGetValue_of_active hdata hc hmem
      rw [hn] at hn'
      cases hn'
      exact ⟨hdata.isHMS id hmem, hresolve⟩
    · rw [tryGetValue_of_not_active hculture hdata hc hid hmem] at hn
      cases hids : data.activeHMSIds with
      | none =>
        rw [hids] at hn
        exact hc id n hid hn
      | some ids =>
        rw [hids] at hn
        cases hn
  · by_cases hmem : data.Active id
    · obtain ⟨n, hn, -⟩ := tryGetValue_of_active hdata hc hmem
      obtain ⟨ids, hids, hmem⟩ := hmem
      rw [hids]
      exact iff_of_true ⟨n, hn⟩ hmem
    · rw [tryGetValue_of_not_active hculture hdata hc hid hmem]
      cases hids : data.activeHMSIds with
      | none => exact Iff.rfl
      | some ids =>
        refine iff_of_false ?_ fun h => hmem ⟨ids, hids, h⟩
        rintro ⟨n, hn⟩
        cases hn

/-! ### Runs -/

theorem not_isHMSId_of_otherNotification {id : String} (h : OtherNotification id) :
    ¬ IsHMSId id := by
  -- The identifiers differ from the prefix in the first letter, or are known.
  have hdiffers : ∀ head tail : String, ¬ hmsPrefix.toList.take 1 <+: head.toList.take 1 →
      0 < head.toList.length → ¬ IsHMSId (head ++ tail) := by
    intro head tail hhead hlength hpre
    rw [IsHMSId, String.toList_append] at hpre
    refine hhead ?_
    have htake := hpre.take 1
    rwa [List.take_append_of_le_length hlength] at htake
  cases h with
  | sdCardOrUSBMissing => decide
  | ftpDisconnected => decide
  | scheduledPrintSkipped jobName => exact hdiffers _ _ (by decide) (by decide)
  | scheduledPrintFailed jobName => exact hdiffers _ _ (by decide) (by decide)
  | publisherCrashed pathName => exact hdiffers _ _ (by decide) (by decide)

/-- The other commits do not touch the HMS notifications. -/
theorem OtherUpdate.untouched (hu : OtherUpdate u) {id : String} (hid : IsHMSId id) :
    u.notifications.lookup id = none ∧ id ∉ u.notifications.removals := by
  cases hu with
  | silent h =>
    rw [h]
    exact ⟨rfl, List.not_mem_nil⟩
  | sets h hmessage hother hset =>
    have hleaves := MachineStateUpdate.leavesHMS_setNotifications hmessage
      (not_isHMSId_of_otherNotification hother) u hset
    rw [hleaves.lookup id hid, hleaves.mem_removals id hid, h]
    exact ⟨rfl, List.not_mem_nil⟩
  | @removes v id' h hother =>
    have hleaves := v.leavesHMS_removeNotification (not_isHMSId_of_otherNotification hother)
    rw [hleaves.lookup id hid, hleaves.mem_removals id hid, h]
    exact ⟨rfl, List.not_mem_nil⟩

theorem exists_disconnectedData (host : Host) (reason : String) :
    ∃ data, disconnectedData host reason = .ok data ∧ data.Consistent ∧
      data.activeHMSIds = none := by
  obtain ⟨u, hu⟩ : ∃ u, ((default : MachineStateUpdate).setStatus .disconnected).setNotifications
    host.utcNow (mqttDisconnected reason) = .ok u := ⟨_, rfl⟩
  have hid : ¬ IsHMSId mqttDisconnectedId := by decide
  have hset := MachineStateUpdate.leavesHMS_setNotifications rfl hid u hu
  have hstatus : (default : MachineStateUpdate).LeavesHMS
      ((default : MachineStateUpdate).setStatus .disconnected) := .of_eq rfl rfl rfl
  have hleaves : (default : BBLMQTTData).LeavesHMS { (default : BBLMQTTData) with changes := u } :=
    ⟨IsTrans.trans _ _ _ hstatus hset, rfl⟩
  refine ⟨_, ?_, hleaves.consistent BBLMQTTData.consistent_default, rfl⟩
  rw [disconnectedData, hu]
  rfl

variable {toLower : String → String} {root : JsonElement}

theorem run_onDisconnected {reason : String} (hdata : disconnectedData host reason = .ok data) :
    (onDisconnected culture host env reason).run c = (mqttOnData culture host env data).run c := by
  rw [onDisconnected, hdata, ofExcept_ok_bind]

theorem reads_of_wasRead (hread : WasRead culture toLower root data) :
    data.Reads (listedHMS root) := by
  obtain ⟨host, model, mqtt, mqtt', hrun⟩ := hread
  exact run_onMessage hrun

/-- Every step leaves the state of the machine alone or commits an update. -/
theorem Step.commits (h : Step culture toLower c c') :
    c'.machine.state = c.machine.state ∨
      ∃ env u, MachineConnection.CommitStep env u c.machine c'.machine := by
  have hmqtt : ∀ (host : Host) (env : Environment Cron) (data : BBLMQTTData)
      (c : BBLMachineConnection Cron), ∃ u, MachineConnection.CommitStep env u c.machine
        (finalState ((mqttOnData culture host env data).run c)).machine := by
    intro host env data c
    obtain ⟨v, -, -, stale, hu, -⟩ := c.exists_dataUpdate_eq culture host data
    exact ⟨_, commitStep_mqttOnData hu⟩
  cases h with
  | message host env hread => exact .inr ⟨env, hmqtt host env _ c⟩
  | disconnected host env reason =>
    obtain ⟨data, hdata, -⟩ := exists_disconnectedData host reason
    rw [run_onDisconnected hdata]
    exact .inr ⟨env, hmqtt host env data c⟩
  | commit env hu => exact .inr ⟨env, _, commitStep_commit env _ c⟩
  | other h => exact .inl h

/-- **One step** keeps the HMS notifications what they are. -/
theorem Step.holdsHMS
    (hculture : ∀ attr code, culture.startsWith (hmsId attr code) hmsPrefix = true)
    (h : Step culture toLower c c') (hc : c.machine.state.HoldsHMS) :
    c'.machine.state.HoldsHMS := by
  cases h with
  | message host env hread =>
    exact (hms_mqttOnData hculture (reads_of_wasRead hread).consistent hc rfl).1
  | disconnected host env reason =>
    obtain ⟨data, hdata, hconsistent, -⟩ := exists_disconnectedData host reason
    rw [run_onDisconnected hdata]
    exact (hms_mqttOnData hculture hconsistent hc rfl).1
  | @commit env u hu =>
    intro id n hid hn
    obtain ⟨hlookup, hremovals⟩ := hu.untouched hid
    rw [MachineConnection.tryGetValue_commitStep_of_untouched (commitStep_commit env u c) hc hid
      hlookup hremovals] at hn
    exact hc id n hid hn
  | other h =>
    rw [h]
    exact hc

theorem holdsHMS_of_reachable
    (hculture : ∀ attr code, culture.startsWith (hmsId attr code) hmsPrefix = true)
    (hc : Reachable (fun c => c.machine.state.notifications = ∅) (Step culture toLower) c) :
    c.machine.state.HoldsHMS := by
  refine Reachable.induct
    (I := fun c : BBLMachineConnection Cron => c.machine.state.HoldsHMS) ?_ ?_ hc
  · intro c hinit id n _ hn
    rw [hinit] at hn
    cases hn
  · intro c c' _ hc hstep
    exact hstep.holdsHMS hculture hc

/-- A notification is stored under the identifier at every point of the run. -/
inductive StaysActive (culture : Culture) (toLower : String → String) (id : String)
    (c : BBLMachineConnection Cron) : BBLMachineConnection Cron → Prop
  | start : StaysActive culture toLower id c c
  | step {c₁ c₂ : BBLMachineConnection Cron} (hrun : StaysActive culture toLower id c c₁)
    (hstep : Step culture toLower c₁ c₂)
    (hstored : c₂.machine.state.notifications.tryGetValue id ≠ none) :
    StaysActive culture toLower id c c₂

/-- A notification that stays keeps the time it was issued at. -/
theorem StaysActive.issuedAt {id : String} (h : StaysActive culture toLower id c c')
    {n n' : Notification} (hn : c.machine.state.notifications.tryGetValue id = some n)
    (hn' : c'.machine.state.notifications.tryGetValue id = some n') :
    n'.issuedAt = n.issuedAt := by
  induction h generalizing n' with
  | start =>
    rw [hn] at hn'
    cases hn'
    rfl
  | @step c₁ c₂ hrun hstep hstored ih =>
    -- The notification is stored before the last step too.
    obtain ⟨n₁, hn₁⟩ : ∃ n₁, c₁.machine.state.notifications.tryGetValue id = some n₁ := by
      cases hrun with
      | start => exact ⟨n, hn⟩
      | step _ _ hstored => exact Option.ne_none_iff_exists'.mp hstored
    refine Eq.trans ?_ (ih hn₁)
    rcases hstep.commits with hsame | ⟨env, u, hcommit⟩
    · rw [hsame, hn₁] at hn'
      cases hn'
      rfl
    · exact MachineConnection.issuedAt_commitStep hcommit hn₁ hn'

/-- **The HMS notifications of a machine are the entries of the last message that listed any**, and
a notification that stays keeps the time it was issued at. -/
theorem hmsNotifications_exact
    (hculture : ∀ attr code, culture.startsWith (hmsId attr code) hmsPrefix = true)
    (hc : Reachable (fun c => c.machine.state.notifications = ∅) (Step culture toLower) c) :
    (∀ (host : Host) (env : Environment Cron) (root : JsonElement) (data : BBLMQTTData)
        (c' : BBLMachineConnection Cron),
      WasRead culture toLower root data →
      c' = finalState ((mqttOnData culture host env data).run c) →
      (∀ entries, listedHMS root = some entries → ∀ id,
        (IsHMSId id ∧ ∃ n, c'.machine.state.notifications.tryGetValue id = some n) ↔
          ∃ entry ∈ entries, ∃ attr code, WellFormed entry attr code ∧ id = hmsId attr code) ∧
      (listedHMS root = none → ∀ id, IsHMSId id →
        ((∃ n, c'.machine.state.notifications.tryGetValue id = some n) ↔
          ∃ n, c.machine.state.notifications.tryGetValue id = some n))) ∧
    (∀ attr code attr' code', hmsId attr code = hmsId attr' code' → attr = attr' ∧ code = code') ∧
    ∀ (id : String) (c' : BBLMachineConnection Cron) (n n' : Notification), IsHMSId id →
      StaysActive culture toLower id c c' →
      c.machine.state.notifications.tryGetValue id = some n →
      c'.machine.state.notifications.tryGetValue id = some n' → n'.issuedAt = n.issuedAt := by
  have hholds := holdsHMS_of_reachable hculture hc
  refine ⟨fun host env root data c' hread hc' => ?_, fun attr code attr' code' h =>
    hmsId_inj h, fun id c' n n' _ hstays hn hn' => hstays.issuedAt hn hn'⟩
  have hreads := reads_of_wasRead hread
  obtain ⟨-, hstored⟩ := hms_mqttOnData hculture hreads.consistent hholds hc'
  constructor
  · intro entries hlisted id
    obtain ⟨ids, hids, hmem⟩ := hreads.listed entries hlisted
    rw [hids] at hstored
    rw [← hmem]
    constructor
    · rintro ⟨hid, hn⟩
      exact (hstored id hid).mp hn
    · intro hid
      obtain ⟨entry, -, attr, code, -, rfl⟩ := (hmem id).mp hid
      exact ⟨isHMSId_hmsId attr code, (hstored _ (isHMSId_hmsId attr code)).mpr hid⟩
  · intro hlisted id hid
    rw [hreads.none_listed hlisted] at hstored
    exact hstored id hid

/-- A culture that compares characters. -/
private def ordinal : Culture where
  startsWith s value := value.toList.isPrefixOf s.toList
  formatInt32 n := toString n.toInt

private theorem ordinal_startsWith (s value : String) :
    ordinal.startsWith s value = value.toList.isPrefixOf s.toList := rfl

/-- A connection without notifications. -/
private def quietConnection : BBLMachineConnection Unit :=
  ⟨⟨default, default, default, ⟨[], false, 0⟩⟩, .initial none, none, none, false, false, false⟩

/-- An entry with two numbers, the second of which is the version of the first. -/
private def hmsEntry (attr code : Int64) : JsonElement :=
  .object [("attr", .number ⟨none, some attr, default⟩),
    ("code", .number ⟨none, some code, default⟩)]

/-- A message that lists an entry twice and one without numbers. -/
private def hmsReport : JsonElement :=
  .object [("print", .object [("hms", .array [hmsEntry 1 2, .object [], hmsEntry 1 2])])]

private theorem returned_hmsReport :
    returned ((onMessage ordinal id default none hmsReport).run (.initial none)) = true := by
  decide +kernel

/-- The entry is shown. -/
theorem hmsNotifications_exact_report :
    ∃ data n, WasRead ordinal id hmsReport data ∧
      (finalState ((mqttOnData ordinal default ⟨default, fun _ => none⟩ data).run
        quietConnection)).machine.state.notifications.tryGetValue (hmsId 1 2) = some n := by
  have hculture : ∀ attr code, ordinal.startsWith (hmsId attr code) hmsPrefix = true := by
    intro attr code
    rw [ordinal_startsWith, List.isPrefixOf_iff_prefix]
    exact isHMSId_hmsId attr code
  have hc : Reachable (fun c => c.machine.state.notifications = ∅) (Step ordinal id)
      quietConnection := .refl rfl
  obtain ⟨data, hread⟩ := exists_wasRead returned_hmsReport
  have hexact := (hmsNotifications_exact hculture hc).1 default ⟨default, fun _ => none⟩ hmsReport
    data _ hread rfl
  have hentry : WellFormed (hmsEntry 1 2) 1 2 :=
    ⟨⟨none, some 1, default⟩, ⟨none, some 2, default⟩, rfl, rfl, rfl, rfl⟩
  have hlisted : listedHMS hmsReport = some [hmsEntry 1 2, .object [], hmsEntry 1 2] := rfl
  obtain ⟨-, n, hn⟩ := (hexact.1 _ hlisted (hmsId 1 2)).mpr ⟨_, .head _, 1, 2, hentry, rfl⟩
  exact ⟨data, n, hread, hn⟩

end BBLMachineConnection

end Connect3Dp
