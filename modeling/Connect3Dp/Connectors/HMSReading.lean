import Connect3Dp.Connectors.Telemetry

/-!
# Reading the health system of a Bambu Lab printer

The entries of a printer's health system (HMS) are shown as notifications whose identifiers are made
from the two numbers of an entry. Only one section of a message is about them: all others leave the
HMS notifications of the update alone (`BBLMQTTData.LeavesHMS`) and add nothing to it that could
raise when it is applied. What a message is read into is `BBLMQTTData.Reads`.
-/

namespace Connect3Dp

namespace BambuLab

/-! ### Identifiers -/

/-- The identifier starts as those of HMS notifications do. -/
def IsHMSId (id : String) : Prop := hmsPrefix.toList <+: id.toList

instance (id : String) : Decidable (IsHMSId id) := inferInstanceAs (Decidable (_ <+: _))

theorem isHMSId_hmsId (attr code : Int64) : IsHMSId (hmsId attr code) := by
  rw [IsHMSId, hmsId, String.toList_append]
  exact List.prefix_append _ _

/-- Different entries have different identifiers. -/
theorem hmsId_inj {attr code attr' code' : Int64} (h : hmsId attr code = hmsId attr' code') :
    attr = attr' ∧ code = code' := by
  -- The digits of the first number end where the separator stands.
  have hdigits : ∀ n : ℕ, '_' ∉ hexDigits 8 n := by
    intro n hmem
    have hvalue := hexCharValue_isSome_of_mem hmem
    cases hvalue
  have hlist := congrArg String.toList h
  simp only [hmsId, ecode, String.toList_append, formatInt64X8, formatHex,
    String.toList_ofList] at hlist
  have hecode := List.append_cancel_left hlist
  simp only [List.append_assoc] at hecode
  obtain ⟨hattr, -, hcode⟩ := List.append_cons_inj_of_notMem (hdigits _) (hdigits _) |>.mp hecode
  exact ⟨formatInt64X8_injective (congrArg String.ofList hattr),
    formatInt64X8_injective (congrArg String.ofList hcode)⟩

end BambuLab

open BambuLab

/-! ### What leaves the HMS notifications alone -/

/-- The second update does to the HMS notifications what the first does. -/
structure MachineStateUpdate.LeavesHMS (u u' : MachineStateUpdate) : Prop where
  lookup : ∀ id, IsHMSId id → u'.notifications.lookup id = u.notifications.lookup id
  mem_removals : ∀ id, IsHMSId id →
    (id ∈ u'.notifications.removals ↔ id ∈ u.notifications.removals)
  harmless : u.Harmless → u'.Harmless

namespace MachineStateUpdate

instance : IsPreorder MachineStateUpdate LeavesHMS where
  refl _ := ⟨fun _ _ => rfl, fun _ _ => Iff.rfl, id⟩
  trans _ _ _ h h' := ⟨fun id hid => (h'.lookup id hid).trans (h.lookup id hid),
    fun id hid => (h'.mem_removals id hid).trans (h.mem_removals id hid),
    fun hu => h'.harmless (h.harmless hu)⟩

theorem LeavesHMS.of_eq {u u' : MachineStateUpdate} (hn : u'.notifications = u.notifications)
    (hm : u'.materialUnits = u.materialUnits) (hj : u'.currentJob = u.currentJob) :
    u.LeavesHMS u' := by
  refine ⟨fun id _ => by rw [hn], fun id _ => by rw [hn], fun h => ⟨?_, ?_, ?_⟩⟩
  · rw [hm]
    exact h.keepsMaterials
  · rw [hj]
    exact h.keepsJob
  · rw [hj]
    exact h.usages

theorem leavesHMS_removeNotification (u : MachineStateUpdate) {id : String} (hid : ¬ IsHMSId id) :
    u.LeavesHMS (u.removeNotification id) := by
  refine ⟨fun _ _ => rfl, fun id' hid' => ?_, fun h => ⟨h.1, h.2, h.3⟩⟩
  have hne : id' ≠ id := by
    rintro rfl
    exact hid hid'
  exact DictionaryBuffer.mem_removals_remove.trans (or_iff_left hne)

theorem leavesHMS_setNotifications {u : MachineStateUpdate} {utcNow : DateTimeOffset}
    {message : MachineMessage} {id : String} (hmessage : message.id = some id)
    (hid : ¬ IsHMSId id) : Yields (u.setNotifications utcNow message) u.LeavesHMS := by
  rw [setNotifications, hmessage]
  refine .pure ⟨fun id' hid' => ?_, fun _ _ => Iff.rfl, fun h => ⟨h.1, h.2, h.3⟩⟩
  have hne : id' ≠ id := by
    rintro rfl
    exact hid hid'
  exact (DictionaryBuffer.lookup_update _ _ _ _ _).trans (if_neg hne)

/-- What only measures leaves the HMS notifications alone. -/
theorem Measures.leavesHMS {u u' : MachineStateUpdate} (h : u.Measures u') : u.LeavesHMS u' := by
  refine ⟨fun id _ => ?_, fun id _ => ?_, h.harmless⟩
  · rw [h.notifications]
  · rw [h.notifications]

end MachineStateUpdate

namespace BambuLab

/-- The second reading has the HMS entries and the HMS notifications of the first. -/
structure BBLMQTTData.LeavesHMS (data data' : BBLMQTTData) : Prop where
  changes : data.changes.LeavesHMS data'.changes
  activeHMSIds : data'.activeHMSIds = data.activeHMSIds

namespace BBLMQTTData

instance : IsPreorder BBLMQTTData LeavesHMS where
  refl _ := ⟨refl _, rfl⟩
  trans _ _ _ h h' :=
    ⟨IsTrans.trans _ _ _ h.changes h'.changes, h'.activeHMSIds.trans h.activeHMSIds⟩

theorem Measures.leavesHMS {data data' : BBLMQTTData} (h : data.Measures data') :
    data.LeavesHMS data' := ⟨h.changes.leavesHMS, h.activeHMSIds⟩

theorem leavesHMS_change {f : MachineStateUpdate → MachineStateUpdate}
    (hf : ∀ u : MachineStateUpdate, u.LeavesHMS (f u)) : Changes LeavesHMS (change f) :=
  .modify fun data => ⟨hf data.changes, rfl⟩

theorem run_notify_ok {host : Host} {message : MachineMessage} {data : BBLMQTTData}
    {u : MachineStateUpdate} (hu : data.changes.setNotifications host.utcNow message = .ok u) :
    (notify host message).run data = .ok () (data.setChanges u) := by
  have hget : (get : EStateM Fault BBLMQTTData _).run data = .ok data data := rfl
  rw [notify, run_bind_ok hget, hu]
  rfl

theorem leavesHMS_notify {host : Host} {message : MachineMessage} {id : String}
    (hmessage : message.id = some id) (hid : ¬ IsHMSId id) :
    Changes LeavesHMS (notify host message) := by
  intro data
  have hset : ∀ u, data.changes.setNotifications host.utcNow message = .ok u →
      data.changes.LeavesHMS u :=
    MachineStateUpdate.leavesHMS_setNotifications hmessage hid
  obtain ⟨u, hu⟩ : ∃ u, data.changes.setNotifications host.utcNow message = .ok u := by
    rw [MachineStateUpdate.setNotifications, hmessage]
    exact ⟨_, rfl⟩
  rw [run_notify_ok hu]
  refine ⟨fun _ data' h => ?_, fun _ _ h => ?_⟩
  · cases h
    exact ⟨hset u hu, rfl⟩
  · cases h

end BBLMQTTData

open BBLMQTTData

/-! ### The sections -/

theorem leavesHMS_onMessagePrintMQTTSecurity (printJSON : JsonElement) :
    Changes LeavesHMS (onMessagePrintMQTTSecurity printJSON) := by
  unfold onMessagePrintMQTTSecurity
  refine .bind (.ofExcept _) fun failed => .bind (.ofExcept _) fun reason => ?_
  split
  · exact .modify fun data => ⟨refl _, rfl⟩
  · exact .pure _

theorem leavesHMS_onMessagePrintSDCard (printJSON : JsonElement) :
    Changes LeavesHMS (onMessagePrintSDCard printJSON) := by
  unfold onMessagePrintSDCard
  exact .ofExcept_forM fun sdcard => .modify fun data => ⟨refl _, rfl⟩

theorem leavesHMS_onPrintError (host : Host) (printError : Int32) :
    Changes LeavesHMS (onPrintError host printError) := by
  have hid : ¬ IsHMSId printErrorId := by decide
  unfold onPrintError
  split
  · have hnotify : ∀ (covered : BBLMQTTData → Bool) (data : BBLMQTTData), Changes LeavesHMS
        (if (!covered data) = true then
          notify host (printErrorMessage (formatInt32X8 printError)) else pure ()) := by
      intro covered data
      split
      · exact leavesHMS_notify rfl hid
      · exact .pure _
    refine .get_bind fun data => ?_
    dsimp only
    split
    · exact .bind (leavesHMS_change fun u => .of_eq rfl rfl rfl) fun _ => .get_bind (hnotify _)
    · exact .get_bind (hnotify _)
  · exact leavesHMS_change fun u => u.leavesHMS_removeNotification hid

theorem leavesHMS_onMessagePrintGcodeState (context : MessageContext) (printJSON : JsonElement) :
    Changes LeavesHMS (onMessagePrintGcodeState context printJSON) := by
  unfold onMessagePrintGcodeState
  refine .bind (.ofExcept _) fun gcodeState => .bind (.forOption (fun gcodeState => ?_) _) fun _ =>
    .ofExcept_forM (leavesHMS_onPrintError context.host)
  exact .bind (.ofExcept _) fun status => leavesHMS_change fun u => .of_eq rfl rfl rfl

/-! ### The section about the health system -/

/-- The entry holds both numbers. -/
def WellFormed (entry : JsonElement) (attr code : Int64) : Prop :=
  ∃ a c : JsonNumber, entry.tryGetProperty "attr" = .ok (some (.number a)) ∧ a.int64 = some attr ∧
    entry.tryGetProperty "code" = .ok (some (.number c)) ∧ c.int64 = some code

theorem getInt64_eq_ok_iff {e : JsonElement} {value : Int64} :
    e.getInt64 = .ok value ↔ ∃ n : JsonNumber, e = .number n ∧ n.int64 = some value := by
  unfold JsonElement.getInt64 JsonElement.tryGetInt64
  constructor
  · intro h
    split at h
    · rename_i n
      cases hn : n.int64 with
      | none =>
        rw [hn] at h
        cases h
      | some v =>
        rw [hn] at h
        cases h
        exact ⟨n, rfl, hn⟩
    · cases h
  · rintro ⟨n, rfl, hn⟩
    dsimp only
    rw [hn]
    rfl

theorem readHMSEntry_eq_some_iff {entry : JsonElement} {attr code : Int64} :
    readHMSEntry entry = .ok (some (attr, code)) ↔ WellFormed entry attr code := by
  unfold readHMSEntry WellFormed
  constructor
  · intro h
    obtain ⟨attrEl, hattrEl, h⟩ := bind_eq_ok_iff.mp h
    cases attrEl with
    | none => cases h
    | some attrEl =>
      obtain ⟨codeEl, hcodeEl, h⟩ := bind_eq_ok_iff.mp h
      cases codeEl with
      | none => cases h
      | some codeEl =>
        obtain ⟨attr', hattr, h⟩ := bind_eq_ok_iff.mp h
        obtain ⟨code', hcode, h⟩ := bind_eq_ok_iff.mp h
        cases h
        obtain ⟨a, rfl, ha⟩ := getInt64_eq_ok_iff.mp hattr
        obtain ⟨c, rfl, hc⟩ := getInt64_eq_ok_iff.mp hcode
        exact ⟨a, c, hattrEl, ha, hcodeEl, hc⟩
  · rintro ⟨a, c, hattrEl, ha, hcodeEl, hc⟩
    have hattr := getInt64_eq_ok_iff.mpr ⟨a, rfl, ha⟩
    have hcode := getInt64_eq_ok_iff.mpr ⟨c, rfl, hc⟩
    refine bind_eq_ok_iff.mpr ⟨_, hattrEl, bind_eq_ok_iff.mpr ⟨_, hcodeEl, ?_⟩⟩
    exact bind_eq_ok_iff.mpr ⟨attr, hattr, bind_eq_ok_iff.mpr ⟨code, hcode, rfl⟩⟩

/-- The entry of an update for an HMS notification: it creates the notification if there is none,
and the notification is not resolved by itself. -/
structure ShowsHMS (nu : NotificationUpdate) : Prop where
  message : nu.message.isSet = true
  autoResolve : nu.message.value.autoResolve = default
  issuedAt : nu.issuedAt.isSet = true
  lastSeenAt : nu.lastSeenAt.isSet = true

namespace BBLMQTTData

/-- The HMS notification is active. -/
def Active (data : BBLMQTTData) (id : String) : Prop :=
  ∃ ids, data.activeHMSIds = some ids ∧ id ∈ ids

/-- The update shows just the HMS notifications that are active, and raises nowhere. -/
structure Consistent (data : BBLMQTTData) : Prop where
  harmless : data.changes.Harmless
  notMem_removals : ∀ id, IsHMSId id → id ∉ data.changes.notifications.removals
  lookup_iff : ∀ id, IsHMSId id →
    ((∃ nu, data.changes.notifications.lookup id = some nu) ↔ data.Active id)
  shows : ∀ id nu, IsHMSId id → data.changes.notifications.lookup id = some nu → ShowsHMS nu
  isHMS : ∀ id, data.Active id → ∃ attr code, id = hmsId attr code

theorem consistent_default : (default : BBLMQTTData).Consistent := by
  refine ⟨MachineStateUpdate.harmless_default, fun id _ => List.not_mem_nil, fun id _ => ?_,
    fun id nu _ h => ?_, fun id h => ?_⟩
  · constructor
    · rintro ⟨nu, h⟩
      cases h
    · rintro ⟨ids, h, -⟩
      cases h
  · cases h
  · obtain ⟨ids, h, -⟩ := h
    cases h

theorem LeavesHMS.consistent {data data' : BBLMQTTData} (h : data.LeavesHMS data')
    (hdata : data.Consistent) : data'.Consistent := by
  have hactive : ∀ id, data'.Active id ↔ data.Active id := fun id => by
    rw [Active, h.activeHMSIds]
    rfl
  refine ⟨h.changes.harmless hdata.harmless, fun id hid => ?_, fun id hid => ?_,
    fun id nu hid hnu => ?_, fun id hid => hdata.isHMS id ((hactive id).mp hid)⟩
  · rw [h.changes.mem_removals id hid]
    exact hdata.notMem_removals id hid
  · rw [h.changes.lookup id hid, hactive]
    exact hdata.lookup_iff id hid
  · rw [h.changes.lookup id hid] at hnu
    exact hdata.shows id nu hid hnu

end BBLMQTTData

/-- Setting the notification of an entry shows it. -/
theorem lookup_setNotifications_hms {u u' : MachineStateUpdate} {utcNow : DateTimeOffset}
    {attr code : Int64} (hset : u.setNotifications utcNow (hmsMessage attr code) = .ok u')
    (id : String) :
    (id = hmsId attr code → ∃ nu, u'.notifications.lookup id = some nu ∧ ShowsHMS nu) ∧
      (id ≠ hmsId attr code → u'.notifications.lookup id = u.notifications.lookup id) := by
  cases hset
  refine ⟨?_, fun hne => ?_⟩
  · rintro rfl
    exact ⟨_, (DictionaryBuffer.lookup_update _ _ _ _ _).trans (if_pos rfl), rfl, rfl, rfl, rfl⟩
  · exact (DictionaryBuffer.lookup_update _ _ _ _ _).trans (if_neg hne)

/-- An entry without both numbers is passed over, and of another the notification is set. -/
theorem run_onHMSEntry_cases {host : Host} {entry : JsonElement} {data data' : BBLMQTTData}
    (hrun : (onHMSEntry host entry).run data = .ok () data') :
    (readHMSEntry entry = .ok none ∧ data' = data) ∨
      ∃ attr code u, readHMSEntry entry = .ok (some (attr, code)) ∧
        data.changes.setNotifications host.utcNow (hmsMessage attr code) = .ok u ∧
        data' = { data with
          activeHMSIds := data.activeHMSIds.map (·.add (hmsId attr code)), changes := u } := by
  unfold onHMSEntry at hrun
  cases hread : readHMSEntry entry with
  | error f =>
    rw [hread] at hrun
    cases hrun
  | ok numbers =>
    rw [hread, ofExcept_ok_bind] at hrun
    cases numbers with
    | none =>
      cases hrun
      exact .inl ⟨rfl, rfl⟩
    | some numbers =>
      obtain ⟨attr, code⟩ := numbers
      obtain ⟨u, hu⟩ : ∃ u, data.changes.setNotifications host.utcNow (hmsMessage attr code) =
        .ok u := ⟨_, rfl⟩
      refine .inr ⟨attr, code, u, rfl, hu, ?_⟩
      have hrun' : (notify host (hmsMessage attr code)).run { data with
        activeHMSIds := data.activeHMSIds.map (·.add (hmsId attr code)) } = .ok () data' := hrun
      have hchanges : MachineStateUpdate.setNotifications host.utcNow (hmsMessage attr code)
        ({ data with activeHMSIds := data.activeHMSIds.map (·.add (hmsId attr code)) } :
          BBLMQTTData).changes = .ok u := hu
      rw [BBLMQTTData.run_notify_ok hchanges] at hrun'
      cases hrun'
      rfl

/-- What is set and made active stays consistent. -/
theorem BBLMQTTData.Consistent.activate {data : BBLMQTTData} (hdata : data.Consistent)
    {ids : HashSet String} (hids : data.activeHMSIds = some ids) {utcNow : DateTimeOffset}
    {attr code : Int64} {u : MachineStateUpdate}
    (hu : data.changes.setNotifications utcNow (hmsMessage attr code) = .ok u) :
    BBLMQTTData.Consistent { data with
      activeHMSIds := data.activeHMSIds.map (·.add (hmsId attr code)), changes := u } := by
  obtain ⟨data', hdata'⟩ : ∃ data' : BBLMQTTData, data' = { data with
    activeHMSIds := data.activeHMSIds.map (·.add (hmsId attr code)), changes := u } := ⟨_, rfl⟩
  rw [← hdata']
  have hchanges : data'.changes = u := by rw [hdata']
  -- the identifier joins the active ones just as it joins the update
  have hactive : ∀ id, data'.Active id ↔ data.Active id ∨ id = hmsId attr code := by
    intro id
    simp only [BBLMQTTData.Active, hdata', hids, Option.map_some, Option.some.injEq,
      exists_eq_left', HashSet.mem_add]
  have hlookup := lookup_setNotifications_hms hu
  have hremovals : u.notifications.removals = data.changes.notifications.removals := by
    cases hu
    rfl
  refine ⟨?_, fun id hid => ?_, fun id hid => ?_, fun id nu hid hnu => ?_, fun id hid => ?_⟩
  · rw [hchanges]
    cases hu
    exact ⟨hdata.harmless.1, hdata.harmless.2, hdata.harmless.3⟩
  · rw [hchanges, hremovals]
    exact hdata.notMem_removals id hid
  · rw [hchanges, hactive]
    by_cases hne : id = hmsId attr code
    · obtain ⟨nu, hnu, -⟩ := (hlookup id).1 hne
      exact iff_of_true ⟨nu, hnu⟩ (.inr hne)
    · rw [(hlookup id).2 hne, or_iff_left hne]
      exact hdata.lookup_iff id hid
  · rw [hchanges] at hnu
    by_cases hne : id = hmsId attr code
    · obtain ⟨nu', hnu', hshows⟩ := (hlookup id).1 hne
      rw [hnu] at hnu'
      cases hnu'
      exact hshows
    · rw [(hlookup id).2 hne] at hnu
      exact hdata.shows id nu hid hnu
  · rcases (hactive id).mp hid with hold | rfl
    · exact hdata.isHMS id hold
    · exact ⟨attr, code, rfl⟩

/-- **One entry** makes its notification active, if it holds both numbers. -/
theorem run_onHMSEntry {host : Host} {entry : JsonElement} {data data' : BBLMQTTData}
    {ids : HashSet String} (hdata : data.Consistent) (hids : data.activeHMSIds = some ids)
    (hrun : (onHMSEntry host entry).run data = .ok () data') :
    data'.Consistent ∧ ∃ ids', data'.activeHMSIds = some ids' ∧
      ∀ id, id ∈ ids' ↔ id ∈ ids ∨ ∃ attr code, WellFormed entry attr code ∧
        id = hmsId attr code := by
  obtain ⟨hread, rfl⟩ | ⟨attr, code, u, hread, hu, rfl⟩ := run_onHMSEntry_cases hrun
  · refine ⟨hdata, ids, hids, fun id => (or_iff_left ?_).symm⟩
    rintro ⟨attr, code, hentry, -⟩
    rw [readHMSEntry_eq_some_iff.mpr hentry] at hread
    cases hread
  · have hentry : WellFormed entry attr code := readHMSEntry_eq_some_iff.mp hread
    refine ⟨hdata.activate hids hu, ids.add (hmsId attr code), ?_, fun id => ?_⟩
    · dsimp only
      rw [hids]
      rfl
    · rw [HashSet.mem_add]
      refine or_congr_right ⟨fun h => ⟨attr, code, hentry, h⟩, ?_⟩
      rintro ⟨attr', code', hentry', rfl⟩
      have hsame := readHMSEntry_eq_some_iff.mpr hentry'
      rw [hread] at hsame
      cases hsame
      rfl

/-- The loop over the entries. -/
theorem run_forM_onHMSEntry {host : Host} {entries : List JsonElement} {data data' : BBLMQTTData}
    {ids : HashSet String} (hdata : data.Consistent) (hids : data.activeHMSIds = some ids)
    (hrun : (forM entries (onHMSEntry host)).run data = .ok () data') :
    data'.Consistent ∧ ∃ ids', data'.activeHMSIds = some ids' ∧
      ∀ id, id ∈ ids' ↔ id ∈ ids ∨ ∃ entry ∈ entries, ∃ attr code, WellFormed entry attr code ∧
        id = hmsId attr code := by
  induction entries generalizing data ids with
  | nil =>
    cases hrun
    exact ⟨hdata, ids, hids, fun id => by simp⟩
  | cons entry entries ih =>
    rw [List.forM_cons] at hrun
    obtain ⟨_, data₁, hentry, hrest⟩ := exists_of_run_bind_ok hrun
    obtain ⟨hdata₁, ids₁, hids₁, hmem₁⟩ := run_onHMSEntry hdata hids hentry
    obtain ⟨hdata', ids', hids', hmem'⟩ := ih hdata₁ hids₁ hrest
    refine ⟨hdata', ids', hids', fun id => ?_⟩
    rw [hmem', hmem₁, List.exists_mem_cons_iff, or_assoc]

/-- What the section about the health system is read into. -/
structure BBLMQTTData.Reads (data : BBLMQTTData) (listed : Option (List JsonElement)) :
    Prop where
  consistent : data.Consistent
  none_listed : listed = none → data.activeHMSIds = none
  listed : ∀ entries, listed = some entries → ∃ ids, data.activeHMSIds = some ids ∧
    ∀ id, id ∈ ids ↔ ∃ entry ∈ entries, ∃ attr code, WellFormed entry attr code ∧
      id = hmsId attr code

theorem BBLMQTTData.LeavesHMS.reads {data data' : BBLMQTTData} {listed : Option (List JsonElement)}
    (h : data.LeavesHMS data') (hdata : data.Reads listed) : data'.Reads listed := by
  refine ⟨h.consistent hdata.consistent, fun hlisted => ?_, fun entries hlisted => ?_⟩
  · rw [h.activeHMSIds]
    exact hdata.none_listed hlisted
  · rw [h.activeHMSIds]
    exact hdata.listed entries hlisted

/-- The array of a section `print`. -/
def hmsArray (printJSON : JsonElement) : Option (List JsonElement) :=
  match printJSON.tryGetProperty "hms" with
  | .ok (some (.array entries)) => some entries
  | _ => none

/-- The array of a message. -/
def listedHMS (root : JsonElement) : Option (List JsonElement) :=
  match root.tryGetProperty "print" with
  | .ok (some printJSON) => hmsArray printJSON
  | _ => none

theorem run_onMessagePrintHMS {host : Host} {printJSON : JsonElement} {data data' : BBLMQTTData}
    (hdata : data.Consistent) (hnone : data.activeHMSIds = none)
    (hrun : (onMessagePrintHMS host printJSON).run data = .ok () data') :
    data'.Reads (hmsArray printJSON) := by
  unfold onMessagePrintHMS at hrun
  cases hproperty : printJSON.tryGetProperty "hms" with
  | error f =>
    rw [hproperty] at hrun
    cases hrun
  | ok property =>
    rw [hproperty, ofExcept_ok_bind] at hrun
    cases property with
    | none =>
      cases hrun
      have hlisted : hmsArray printJSON = none := by rw [hmsArray, hproperty]
      rw [hlisted]
      exact ⟨hdata, fun _ => hnone, fun entries h => by cases h⟩
    | some property =>
      -- the set of active identifiers starts empty, and so does what the message has set
      have hempty : ({ data with activeHMSIds := some ∅ } : BBLMQTTData).Consistent := by
        refine ⟨hdata.harmless, hdata.notMem_removals, fun id hid => ?_, hdata.shows, ?_⟩
        · rw [hdata.lookup_iff id hid]
          refine iff_of_false ?_ ?_
          · rintro ⟨ids, hids, -⟩
            rw [hnone] at hids
            cases hids
          · rintro ⟨ids, hids, hid⟩
            cases hids
            exact HashSet.notMem_empty _ hid
        · rintro id ⟨ids, hids, hid⟩
          cases hids
          exact absurd hid (HashSet.notMem_empty _)
      obtain ⟨_, data₁, hmodify, hrun⟩ := exists_of_run_bind_ok hrun
      cases hmodify
      cases property with
      | array entries =>
        have hlisted : hmsArray printJSON = some entries := by rw [hmsArray, hproperty]
        obtain ⟨hdata', ids', hids', hmem'⟩ := run_forM_onHMSEntry hempty rfl hrun
        rw [hlisted]
        refine ⟨hdata', ?_, fun entries' h => ?_⟩
        · intro h
          cases h
        cases h
        exact ⟨ids', hids', fun id => (hmem' id).trans (or_iff_right (HashSet.notMem_empty _))⟩
      | null | boolean | number | string | object => cases hrun

/-- A section that leaves the HMS notifications alone, in a message that is read to its end. -/
theorem BBLMQTTData.leavesHMS_of_run {α : Type} {m : EStateM Fault BBLMQTTData α}
    {data data' : BBLMQTTData} {a : α} (hm : Changes LeavesHMS m)
    (hrun : m.run data = .ok a data') : data.LeavesHMS data' := (hm data).1 a data' hrun

theorem run_onMessagePrint {context : MessageContext} {printJSON : JsonElement}
    {data : BBLMQTTData} (hrun : (onMessagePrint context printJSON).run default = .ok () data) :
    data.Reads (hmsArray printJSON) := by
  rw [onMessagePrint_eq] at hrun
  obtain ⟨_, data₁, hsecurity, hrun⟩ := exists_of_run_bind_ok hrun
  obtain ⟨_, data₂, hstorage, hrun⟩ := exists_of_run_bind_ok hrun
  obtain ⟨_, data₃, hhms, hrun⟩ := exists_of_run_bind_ok hrun
  have hbefore : (default : BBLMQTTData).LeavesHMS data₂ :=
    IsTrans.trans _ _ _
      (BBLMQTTData.leavesHMS_of_run (leavesHMS_onMessagePrintMQTTSecurity printJSON) hsecurity)
      (BBLMQTTData.leavesHMS_of_run (leavesHMS_onMessagePrintSDCard printJSON) hstorage)
  have hnone : data₂.activeHMSIds = none := hbefore.activeHMSIds
  have hreads := run_onMessagePrintHMS (hbefore.consistent BBLMQTTData.consistent_default) hnone
    hhms
  refine (BBLMQTTData.leavesHMS_of_run ?_ hrun).reads hreads
  exact .bind (leavesHMS_onMessagePrintGcodeState context printJSON) fun _ =>
    (measures_measuringSections context printJSON).mono fun _ _ h => h.leavesHMS

/-- A message is read into nothing without the property `print`, and by its sections with it. -/
theorem readPrint_cases {context : MessageContext} {root : JsonElement} {data : BBLMQTTData}
    (hdata : readPrint context root = .ok data) :
    (root.tryGetProperty "print" = .ok none ∧ data = default) ∨
      ∃ printJSON, root.tryGetProperty "print" = .ok (some printJSON) ∧
        (onMessagePrint context printJSON).run default = .ok () data := by
  obtain ⟨property, hproperty, hdata⟩ := bind_eq_ok_iff.mp hdata
  cases property with
  | none =>
    cases hdata
    exact .inl ⟨hproperty, rfl⟩
  | some printJSON =>
    refine .inr ⟨printJSON, hproperty, ?_⟩
    dsimp only at hdata
    cases hprint : (onMessagePrint context printJSON).run default with
    | error f data' =>
      rw [hprint] at hdata
      cases hdata
    | ok _ data' =>
      rw [hprint] at hdata
      cases hdata
      rfl

/-- What the connection is given is what the section `print` was read into, and the firmware. -/
theorem exists_readPrint_of_run_onMessage {culture : Culture} {toLower : String → String}
    {host : Host} {model : NetString} {root : JsonElement} {mqtt mqtt' : BBLMQTTConnection}
    {data : BBLMQTTData}
    (hrun : (onMessage culture toLower host model root).run mqtt = .ok data mqtt') :
    ∃ data₁ firmwareVersion, readPrint
        ⟨culture, toLower, host, mqtt.serialNumber, model, mqtt.amsIDToSN⟩ root = .ok data₁ ∧
      data = { data₁ with firmwareVersion } := by
  unfold onMessage at hrun
  obtain ⟨mqtt₁, _, hget, hrun⟩ := exists_of_run_bind_ok hrun
  cases hget
  dsimp only at hrun
  cases hread : readPrint
    ⟨culture, toLower, host, mqtt.serialNumber, model, mqtt.amsIDToSN⟩ root with
  | error f =>
    rw [hread] at hrun
    cases hrun
  | ok data₁ =>
    rw [hread, ofExcept_ok_bind] at hrun
    obtain ⟨info, mqtt₂, -, hrun⟩ := exists_of_run_bind_ok hrun
    cases info with
    | none =>
      cases hrun
      exact ⟨data, data.firmwareVersion, rfl, rfl⟩
    | some infoJSON =>
      obtain ⟨firmwareVersion, mqtt₃, -, hrun⟩ := exists_of_run_bind_ok hrun
      cases hrun
      exact ⟨data₁, firmwareVersion, rfl, rfl⟩

theorem reads_readPrint {context : MessageContext} {root : JsonElement} {data : BBLMQTTData}
    (hdata : readPrint context root = .ok data) : data.Reads (listedHMS root) := by
  obtain ⟨hproperty, rfl⟩ | ⟨printJSON, hproperty, hprint⟩ := readPrint_cases hdata
  · have hlisted : listedHMS root = none := by rw [listedHMS, hproperty]
    rw [hlisted]
    exact ⟨BBLMQTTData.consistent_default, fun _ => rfl, fun entries h => by cases h⟩
  · have hlisted : listedHMS root = hmsArray printJSON := by rw [listedHMS, hproperty]
    rw [hlisted]
    exact run_onMessagePrint hprint

/-- **A message that is read** shows just the entries it lists. -/
theorem run_onMessage {culture : Culture} {toLower : String → String} {host : Host}
    {model : NetString} {root : JsonElement} {mqtt mqtt' : BBLMQTTConnection} {data : BBLMQTTData}
    (hrun : (onMessage culture toLower host model root).run mqtt = .ok data mqtt') :
    data.Reads (listedHMS root) := by
  obtain ⟨data₁, firmwareVersion, hdata, rfl⟩ := exists_readPrint_of_run_onMessage hrun
  have hleaves : data₁.LeavesHMS { data₁ with firmwareVersion } := ⟨refl _, rfl⟩
  exact hleaves.reads (reads_readPrint hdata)

end BambuLab

end Connect3Dp
