import Connect3Dp.Connectors.BambuLab
import Connect3Dp.Runtime.Transition

/-!
# The units of a Bambu Lab printer

A printer addresses its AMS units by their ids, the state of a machine by their serial numbers.
`onMessageInfoVersion` learns from the module lists of the printer which unit is where, in two
dictionaries, and `publishAMSHeatingCommand` and `resolveSlot` look a unit up.

A run is a list of `MQTTEvent`s. A module list is a sequence of them, between which the connection
may be closed (`finalState_onMessageInfoVersion`).
-/

namespace Connect3Dp

namespace BambuLab

/-! ### Modules -/

structure BBLFirmwareVersion where
  a : Int32
  b : Int32
  c : Int32
  d : Int32
  deriving DecidableEq, Inhabited

structure BBLModule where
  internalName : NetString
  productName : NetString
  version : BBLFirmwareVersion
  sn : NetString
  deriving DecidableEq, Inhabited

/-- `BBLFirmwareVersion.Parse`. -/
def BBLFirmwareVersion.parse (host : Host) (str : String) : Except Fault BBLFirmwareVersion :=
  if isNullOrWhiteSpace (some str) then .error .argument
  else
    match (trim str).toList.splitOn '.' with
    | [a, b, c, d] => return ⟨← parseInt32 host (.ofList a), ← parseInt32 host (.ofList b),
        ← parseInt32 host (.ofList c), ← parseInt32 host (.ofList d)⟩
    | _ => .error .format

namespace BBLModule

/-- A property of the type `string`. -/
def readString : JsonElement → Except Fault NetString
  | .string value => .ok (some value)
  | .null => .ok none
  | _ => .error .json

/-- `BBLFirmwareVersionJsonConverter.Read`. -/
def readVersion (host : Host) : JsonElement → Except Fault BBLFirmwareVersion
  | .string str => BBLFirmwareVersion.parse host str
  | _ => .error .json

def readProperty (host : Host) (module : BBLModule) (property : String × JsonElement) :
    Except Fault BBLModule := do
  match property.1 with
  | "name" => return { module with internalName := ← readString property.2 }
  | "product_name" => return { module with productName := ← readString property.2 }
  | "sw_ver" => return { module with version := ← readVersion host property.2 }
  | "sn" => return { module with sn := ← readString property.2 }
  | _ => return module

/-- `Deserialize<BBLModule>()`. -/
def deserialize (host : Host) : JsonElement → Except Fault BBLModule
  | .object properties => properties.foldlM (readProperty host) default
  | _ => .error .json

end BBLModule

/-! ### The connection -/

/-- `BBLMQTTConnection`, with both of its dictionaries. -/
structure BBLMQTTConnection extends MQTTConnection where
  amsIDToSN : Dictionary Int32 NetString

namespace BBLMQTTConnection

def initial (serialNumber : NetString) : BBLMQTTConnection := ⟨⟨false, serialNumber, ∅⟩, ∅⟩

/-- `DisconnectAsync`. -/
def disconnect (mqtt : BBLMQTTConnection) : BBLMQTTConnection :=
  if mqtt.isConnected then
    { mqtt with isConnected := false, amsIDToSN := ∅, snToAMSID := ∅ }
  else mqtt

end BBLMQTTConnection

/-- `StartsWith(value, StringComparison.OrdinalIgnoreCase)`, for a value in ASCII. -/
def startsWithIgnoreCase (s value : String) : Bool :=
  (value.toList.map Char.toUpper).isPrefixOf (s.toList.map Char.toUpper)

def amsPrefixes : List (String × ℕ) := [("n3f/", 4), ("ams_f1/", 7), ("n3s/", 4), ("ams/", 4)]

/-- The AMS id in the name of a module. Only the first of the prefixes is looked at. -/
def amsIdOfName (host : Host) (internalName : String) : Option Int32 :=
  (amsPrefixes.find? fun known => startsWithIgnoreCase internalName known.1).bind fun known =>
    host.parseInt32 (.ofList (internalName.toList.drop known.2))

/-- `TryParseAMSModule`. A key must not be `null`. -/
def tryParseAMSModule (host : Host) (internalName : String) (sn : NetString) :
    EStateM Fault BBLMQTTConnection Unit :=
  match amsIdOfName host internalName with
  | none => pure ()
  | some amsId => do
    modify fun mqtt => { mqtt with amsIDToSN := mqtt.amsIDToSN.set amsId sn }
    match sn with
    | none => throw .argument
    | some sn => modify fun mqtt => { mqtt with snToAMSID := mqtt.snToAMSID.set sn amsId }

/-- The body of the loop of `OnMessageInfoVersion`, over the firmware version read so far. -/
def onModule (host : Host) (firmwareVersion : Option BBLFirmwareVersion)
    (moduleJSON : JsonElement) : EStateM Fault BBLMQTTConnection (Option BBLFirmwareVersion) := do
  let module ← ofExcept (BBLModule.deserialize host moduleJSON)
  match module.internalName with
  | none => throw .nullReference
  | some internalName =>
    if equalsIgnoreCase internalName "ota" then return some module.version
    else
      tryParseAMSModule host internalName module.sn
      return firmwareVersion

/-- The modules that `OnMessageInfoVersion` enumerates, if the message is one of its own. -/
def moduleList (infoJSON : JsonElement) : Except Fault (List JsonElement) := do
  match ← tryGetString infoJSON "command" with
  | none => return []
  | some command =>
    if !equalsIgnoreCase command "get_version" then return []
    else
      match ← infoJSON.tryGetProperty "module" with
      | none => return []
      | some moduleProperty => moduleProperty.enumerateArray

/-- `OnMessageInfoVersion`, which returns the firmware version of the message. -/
def onMessageInfoVersion (host : Host) (infoJSON : JsonElement) :
    EStateM Fault BBLMQTTConnection (Option BBLFirmwareVersion) := do
  (← ofExcept (moduleList infoJSON)).foldlM (onModule host) none

/-! ### Commands to a unit -/

/-- `SNToAMSID[amsSN]`. -/
def getAMSId (mqtt : MQTTConnection) (amsSN : String) : Except Fault Int32 :=
  match mqtt.snToAMSID.tryGetValue amsSN with
  | some amsId => .ok amsId
  | none => .error .keyNotFound

/-- A JSON number that a finite double is written as. -/
def jsonDouble (d : Double) : JsonElement :=
  match d with
  | .finite q => if q.den = 1 then jsonNumber q.num else .number ⟨none, none, d⟩
  | _ => .number ⟨none, none, d⟩

def isFinite : Double → Bool
  | .finite _ => true
  | _ => false

/-- `Math.Ceiling`. -/
def ceiling : Double → Double
  | .finite q => .finite ⌈q⌉
  | d => d

/-- `(int)Math.Ceiling(Duration.TotalHours)`. -/
def wholeHours (duration : TimeSpan) : Int32 :=
  (ceiling ((Double.ofInt duration.ticks.toInt).div
    (.ofInt (3600 * TimeSpan.ticksPerSecond)))).toInt32

/-- `PublishAMSHeatingCommand`. A number that is not finite cannot be written. -/
def publishAMSHeatingCommand (host : Host) (mqtt : MQTTConnection) (amsSN : String)
    (settings : HeatingSettings) : Except Fault (Option JsonElement) := do
  let amsId ← getAMSId mqtt amsSN
  if mqtt.isConnected && !isFinite settings.tempC then throw .argument
  return publishCommand host mqtt "print" "ams_filament_drying" [
    ("ams_id", jsonNumber amsId.toInt),
    ("close_power_conflict", .boolean false),
    ("duration", jsonNumber (wholeHours settings.duration).toInt),
    ("humidity", jsonNumber 0),
    ("mode", jsonNumber 1),
    ("filament", .string ""),
    ("rotate_tray", settings.doSpin.elim .null .boolean),
    ("temp", jsonDouble settings.tempC),
    ("cooling_temp", jsonNumber 20)]

/-- `PublishAMSStopHeatingCommand`. -/
def publishAMSStopHeatingCommand (host : Host) (mqtt : MQTTConnection) (amsSN : String) :
    Except Fault (Option JsonElement) := do
  let amsId ← getAMSId mqtt amsSN
  return publishCommand host mqtt "print" "ams_filament_drying" [
    ("ams_id", jsonNumber amsId.toInt),
    ("duration", jsonNumber 0),
    ("filament", .string ""),
    ("humidity", jsonNumber 0),
    ("mode", jsonNumber 0),
    ("rotate_tray", .boolean false),
    ("temp", jsonNumber 0)]

/-! ### Runs -/

/-- What happens to the connection. -/
inductive MQTTEvent
  /-- `ConnectAsync` or `ReconnectAsync` has connected. -/
  | connected
  | connectionLost
  | disconnectAsync
  /-- The loop of `OnMessageInfoVersion` comes to a module. -/
  | module (moduleJSON : JsonElement)

namespace BBLMQTTConnection

/-- What an event does. -/
def perform (host : Host) (mqtt : BBLMQTTConnection) : MQTTEvent → BBLMQTTConnection
  | .connected => { mqtt with isConnected := true }
  | .connectionLost => { mqtt with isConnected := false }
  | .disconnectAsync => mqtt.disconnect
  | .module moduleJSON => finalState ((onModule host none moduleJSON).run mqtt)

/-- The connection after a run. -/
def after (host : Host) (serialNumber : NetString) (run : List MQTTEvent) : BBLMQTTConnection :=
  run.foldl (perform host) (initial serialNumber)

end BBLMQTTConnection

/-! ### What a module reports -/

/-- The AMS id and the serial number that a module is read as. -/
def moduleReport (host : Host) (moduleJSON : JsonElement) : Option (Int32 × NetString) :=
  match BBLModule.deserialize host moduleJSON with
  | .error _ => none
  | .ok module =>
    match module.internalName with
    | none => none
    | some internalName =>
      if equalsIgnoreCase internalName "ota" then none
      else (amsIdOfName host internalName).map fun amsId => (amsId, module.sn)

def MQTTEvent.report (host : Host) : MQTTEvent → Option (Int32 × NetString)
  | .module moduleJSON => moduleReport host moduleJSON
  | _ => none

namespace BBLMQTTConnection

/-- The two assignments of `TryParseAMSModule`, the second of which a `null` prevents. -/
def record (mqtt : BBLMQTTConnection) (amsId : Int32) (sn : NetString) : BBLMQTTConnection :=
  { mqtt with
    amsIDToSN := mqtt.amsIDToSN.set amsId sn
    snToAMSID := sn.elim mqtt.snToAMSID fun sn => mqtt.snToAMSID.set sn amsId }

theorem amsIDToSN_record (mqtt : BBLMQTTConnection) (amsId amsId' : Int32) (sn : NetString) :
    (mqtt.record amsId sn).amsIDToSN.tryGetValue amsId' =
      if amsId' = amsId then some sn else mqtt.amsIDToSN.tryGetValue amsId' :=
  Dictionary.tryGetValue_set _ _ _ _

theorem snToAMSID_record (mqtt : BBLMQTTConnection) (amsId : Int32) (sn : NetString) (s : String) :
    (mqtt.record amsId sn).snToAMSID.tryGetValue s =
      if sn = some s then some amsId else mqtt.snToAMSID.tryGetValue s := by
  cases sn with
  | none => rfl
  | some sn =>
    have hset := Dictionary.tryGetValue_set mqtt.snToAMSID sn s amsId
    simp only [Option.some.injEq, eq_comm (a := sn)]
    exact hset

end BBLMQTTConnection

theorem finalState_tryParseAMSModule (host : Host) (internalName : String) (sn : NetString)
    (mqtt : BBLMQTTConnection) :
    finalState ((tryParseAMSModule host internalName sn).run mqtt) =
      (amsIdOfName host internalName).elim mqtt fun amsId => mqtt.record amsId sn := by
  rw [tryParseAMSModule]
  cases amsIdOfName host internalName with
  | none => rfl
  | some amsId => cases sn <;> rfl

theorem finalState_onModule (host : Host) (firmwareVersion : Option BBLFirmwareVersion)
    (moduleJSON : JsonElement) (mqtt : BBLMQTTConnection) :
    finalState ((onModule host firmwareVersion moduleJSON).run mqtt) =
      (moduleReport host moduleJSON).elim mqtt fun report => mqtt.record report.1 report.2 := by
  rw [onModule, moduleReport]
  cases BBLModule.deserialize host moduleJSON with
  | error e => rfl
  | ok module =>
    rw [ofExcept_ok_bind]
    cases hname : module.internalName with
    | none => simp only [hname]; rfl
    | some internalName =>
      simp only [hname]
      by_cases hota : equalsIgnoreCase internalName "ota" = true
      · rw [if_pos hota, if_pos hota]
        rfl
      · have hparse := finalState_tryParseAMSModule host internalName module.sn mqtt
        rw [if_neg hota, if_neg hota]
        have hbind : finalState ((tryParseAMSModule host internalName module.sn >>= fun _ =>
            pure firmwareVersion : EStateM Fault BBLMQTTConnection _).run mqtt) =
              finalState ((tryParseAMSModule host internalName module.sn).run mqtt) := by
          cases htry : (tryParseAMSModule host internalName module.sn).run mqtt with
          | ok a mqtt' => rw [run_bind_ok htry]; rfl
          | error e mqtt' => rw [run_bind_error htry]; rfl
        refine hbind.trans (hparse.trans ?_)
        cases amsIdOfName host internalName <;> rfl

/-- A message does what the modules do that the loop comes to. -/
theorem finalState_onMessageInfoVersion (host : Host) (infoJSON : JsonElement)
    (mqtt : BBLMQTTConnection) :
    ∃ visited, (∀ modules, moduleList infoJSON = .ok modules → visited <+: modules) ∧
      finalState ((onMessageInfoVersion host infoJSON).run mqtt) =
        (visited.map MQTTEvent.module).foldl (BBLMQTTConnection.perform host) mqtt := by
  have hloop : ∀ (modules : List JsonElement) (firmwareVersion : Option BBLFirmwareVersion)
      (mqtt : BBLMQTTConnection), ∃ visited, visited <+: modules ∧
        finalState ((modules.foldlM (onModule host) firmwareVersion).run mqtt) =
          (visited.map MQTTEvent.module).foldl (BBLMQTTConnection.perform host) mqtt := by
    intro modules
    induction modules with
    | nil => exact fun _ mqtt => ⟨[], List.prefix_rfl, rfl⟩
    | cons moduleJSON modules ih =>
      intro firmwareVersion mqtt
      have hfinal : ∀ v, finalState ((onModule host v moduleJSON).run mqtt) =
          mqtt.perform host (.module moduleJSON) := fun v =>
        (finalState_onModule host v moduleJSON mqtt).trans
          (finalState_onModule host none moduleJSON mqtt).symm
      rw [List.foldlM_cons]
      cases hrun : (onModule host firmwareVersion moduleJSON).run mqtt with
      | ok version mqtt' =>
        have hmqtt : mqtt' = mqtt.perform host (.module moduleJSON) := by
          rw [← hfinal firmwareVersion, hrun]
          rfl
        obtain ⟨visited, hpre, hrest⟩ := ih version mqtt'
        refine ⟨moduleJSON :: visited, List.cons_prefix_cons.mpr ⟨rfl, hpre⟩, ?_⟩
        rw [run_bind_ok hrun, hrest, hmqtt]
        rfl
      | error e mqtt' =>
        -- The modules after one that raises are not looked at.
        refine ⟨[moduleJSON], List.cons_prefix_cons.mpr ⟨rfl, List.nil_prefix⟩, ?_⟩
        rw [run_bind_error hrun]
        exact (congrArg finalState hrun).symm.trans (hfinal firmwareVersion)
  rw [onMessageInfoVersion]
  cases hlist : moduleList infoJSON with
  | error e =>
    refine ⟨[], fun modules h => ?_, rfl⟩
    cases h
  | ok modules =>
    obtain ⟨visited, hpre, hrun⟩ := hloop modules none mqtt
    refine ⟨visited, fun modules' h => ?_, ?_⟩
    · cases h
      exact hpre
    · rw [ofExcept_ok_bind]
      exact hrun

/-! ### Where a unit was reported last -/

/-- The AMS id at which an event reports a unit. -/
def MQTTEvent.idOf (host : Host) (amsSN : String) (event : MQTTEvent) : Option Int32 :=
  (event.report host).bind fun report => if report.2 = some amsSN then some report.1 else none

/-- The AMS id at which a run has reported a unit last. -/
def lastReported (host : Host) (run : List MQTTEvent) (amsSN : String) : Option Int32 :=
  run.reverse.findSome? (MQTTEvent.idOf host amsSN)

theorem lastReported_append (host : Host) (run : List MQTTEvent) (event : MQTTEvent)
    (amsSN : String) :
    lastReported host (run ++ [event]) amsSN =
      (event.idOf host amsSN).or (lastReported host run amsSN) := by
  rw [lastReported, List.reverse_append, List.reverse_singleton, List.singleton_append,
    List.findSome?_cons]
  cases event.idOf host amsSN <;> rfl

/-- The AMS id that a published command names. -/
def addressOf (message : JsonElement) : Option JsonElement :=
  match message.tryGetProperty "print" with
  | .ok (some command) =>
    match command.tryGetProperty "ams_id" with
    | .ok amsId => amsId
    | .error _ => none
  | _ => none

/-- Every command to a unit is addressed to where the run has reported the unit last. -/
structure AddressesLastReport (host : Host) (run : List MQTTEvent) (mqtt : BBLMQTTConnection) :
    Prop where
  heating : ∀ now amsSN settings message,
    publishAMSHeatingCommand now mqtt.toMQTTConnection amsSN settings = .ok (some message) →
      ∃ amsId, lastReported host run amsSN = some amsId ∧
        addressOf message = some (jsonNumber amsId.toInt)
  stopHeating : ∀ now amsSN message,
    publishAMSStopHeatingCommand now mqtt.toMQTTConnection amsSN = .ok (some message) →
      ∃ amsId, lastReported host run amsSN = some amsId ∧
        addressOf message = some (jsonNumber amsId.toInt)
  print : ∀ material amsSN slotNumber slot,
    resolveSlot mqtt.toMQTTConnection (material, ⟨some amsSN, slotNumber⟩) = .ok slot →
      lastReported host run amsSN = some slot.2.amsId

namespace BBLMQTTConnection

variable {host : Host} {mqtt : BBLMQTTConnection}

theorem perform_module (host : Host) (mqtt : BBLMQTTConnection) (moduleJSON : JsonElement) :
    mqtt.perform host (.module moduleJSON) =
      (moduleReport host moduleJSON).elim mqtt fun report => mqtt.record report.1 report.2 :=
  finalState_onModule host none moduleJSON mqtt

theorem after_append (serialNumber : NetString) (past : List MQTTEvent) (event : MQTTEvent) :
    after host serialNumber (past ++ [event]) = (after host serialNumber past).perform host event :=
  List.foldl_concat ..

/-- Whatever an event does, a unit that is found is where it was reported last. -/
theorem snToAMSID_after {serialNumber : NetString} (past : List MQTTEvent) {amsSN : String}
    {amsId : Int32}
    (h : (after host serialNumber past).snToAMSID.tryGetValue amsSN = some amsId) :
    lastReported host past amsSN = some amsId := by
  induction past using List.reverseRecOn generalizing amsId with
  | nil => cases h
  | append_singleton past event ih =>
    rw [after_append] at h
    rw [lastReported_append]
    cases event with
    | connected => exact ih h
    | connectionLost => exact ih h
    | disconnectAsync =>
      simp only [perform, disconnect] at h
      split at h
      · cases h
      · exact ih h
    | module moduleJSON =>
      rw [perform_module] at h
      cases hreport : moduleReport host moduleJSON with
      | none =>
        rw [hreport] at h
        have hid : (MQTTEvent.module moduleJSON).idOf host amsSN = none := by
          simp [MQTTEvent.idOf, MQTTEvent.report, hreport]
        rw [hid]
        exact ih h
      | some report =>
        rw [hreport] at h
        have hlookup : (if report.2 = some amsSN then some report.1 else
            (after host serialNumber past).snToAMSID.tryGetValue amsSN) = some amsId :=
          (snToAMSID_record _ _ _ _).symm.trans h
        have hid : (MQTTEvent.module moduleJSON).idOf host amsSN =
            if report.2 = some amsSN then some report.1 else none := by
          simp [MQTTEvent.idOf, MQTTEvent.report, hreport]
        rw [hid]
        by_cases hsn : report.2 = some amsSN
        · rw [if_pos hsn] at hlookup ⊢
          exact hlookup
        · rw [if_neg hsn] at hlookup ⊢
          exact ih hlookup

theorem getAMSId_eq_ok {mqtt : MQTTConnection} {amsSN : String} {amsId : Int32}
    (h : getAMSId mqtt amsSN = .ok amsId) : mqtt.snToAMSID.tryGetValue amsSN = some amsId := by
  rw [getAMSId] at h
  cases hlookup : mqtt.snToAMSID.tryGetValue amsSN with
  | none => simp only [hlookup] at h; cases h
  | some amsId' => simp only [hlookup] at h; cases h; rfl

/-- A published command names the id that its data begin with. -/
theorem addressOf_publishCommand {now : Host} {mqtt : MQTTConnection} {command : String}
    {amsId : JsonElement} {data : List (String × JsonElement)} {message : JsonElement}
    (hdata : (data.reverse ++ [("ams_id", amsId)]).lookup "ams_id" = some amsId)
    (h : publishCommand now mqtt "print" command (("ams_id", amsId) :: data) = some message) :
    addressOf message = some amsId := by
  rw [publishCommand] at h
  split at h
  · cases h
    have hproperty : ∀ added : List (String × JsonElement), added.lookup "ams_id" = none →
        (added ++ (data.reverse ++ [("ams_id", amsId)])).lookup "ams_id" = some amsId := by
      intro added hadded
      rw [List.lookup_append, hadded, hdata]
      rfl
    simp only [addressOf, JsonElement.tryGetProperty, List.reverse_cons, List.reverse_append,
      List.append_assoc, List.reverse_nil, List.nil_append, List.lookup_cons_self]
    exact hproperty _ rfl
  · cases h

theorem addressesLastReport_after (host : Host) (serialNumber : NetString)
    (past : List MQTTEvent) :
    AddressesLastReport host past (after host serialNumber past) where
  heating now amsSN settings message h := by
    obtain ⟨amsId, hid, hrest⟩ := bind_eq_ok_iff.mp h
    refine ⟨amsId, snToAMSID_after past (getAMSId_eq_ok hid), ?_⟩
    split at hrest
    · cases hrest
    · exact addressOf_publishCommand rfl (Except.ok.inj hrest)
  stopHeating now amsSN message h := by
    obtain ⟨amsId, hid, hrest⟩ := bind_eq_ok_iff.mp h
    refine ⟨amsId, snToAMSID_after past (getAMSId_eq_ok hid), ?_⟩
    exact addressOf_publishCommand rfl (Except.ok.inj hrest)
  print material amsSN slotNumber slot h := by
    have hfound : (after host serialNumber past).snToAMSID.tryGetValue amsSN =
        some slot.2.amsId := by
      simp only [resolveSlot] at h
      split at h
      · rename_i amsId hlookup
        cases h
        exact hlookup
      · cases h
    exact snToAMSID_after past hfound

/-- The two dictionaries are inverses of each other. -/
def MutuallyInverse (mqtt : BBLMQTTConnection) : Prop :=
  ∀ amsId sn, mqtt.amsIDToSN.tryGetValue amsId = some (some sn) ↔
    mqtt.snToAMSID.tryGetValue sn = some amsId

/-- A report does not supersede another: no other unit is known at the id, and the unit is known
at no other id. -/
structure Agrees (mqtt : BBLMQTTConnection) (amsId : Int32) (sn : NetString) : Prop where
  unit : ∀ sn', mqtt.amsIDToSN.tryGetValue amsId = some (some sn') → sn = some sn'
  id : ∀ s amsId', sn = some s → mqtt.snToAMSID.tryGetValue s = some amsId' → amsId' = amsId

/-- Nothing is removed when a report is recorded, so what it supersedes stays behind. -/
theorem mutuallyInverse_record_iff {amsId : Int32} {sn : NetString} (h : mqtt.MutuallyInverse) :
    (mqtt.record amsId sn).MutuallyInverse ↔ mqtt.Agrees amsId sn := by
  constructor
  · intro hrecord
    refine ⟨fun sn' hsn' => ?_, fun s amsId' hs hid => ?_⟩
    · by_contra hne
      have hstale : (mqtt.record amsId sn).snToAMSID.tryGetValue sn' = some amsId := by
        rw [snToAMSID_record, if_neg hne]
        exact (h amsId sn').mp hsn'
      have hunit := (hrecord amsId sn').mpr hstale
      rw [amsIDToSN_record, if_pos rfl] at hunit
      exact hne (Option.some.inj hunit)
    · by_contra hne
      have hstale : (mqtt.record amsId sn).amsIDToSN.tryGetValue amsId' = some (some s) := by
        rw [amsIDToSN_record, if_neg hne]
        exact (h amsId' s).mpr hid
      have hat := (hrecord amsId' s).mp hstale
      rw [snToAMSID_record, if_pos hs] at hat
      exact hne (Option.some.inj hat).symm
  · rintro ⟨hunit, hid⟩ amsId' s
    rw [amsIDToSN_record, snToAMSID_record]
    by_cases hat : amsId' = amsId <;> by_cases hs : sn = some s
    · rw [if_pos hat, if_pos hs, hat, hs]
      simp
    · rw [if_pos hat, if_neg hs, hat]
      refine iff_of_false (fun hsn => hs (Option.some.inj hsn)) fun hstale => ?_
      exact hs (hunit s ((h amsId s).mpr hstale))
    · rw [if_neg hat, if_pos hs]
      refine iff_of_false (fun hstale => ?_) fun hsome => hat (Option.some.inj hsome).symm
      exact hat (hid s amsId' hs ((h amsId' s).mp hstale))
    · rw [if_neg hat, if_neg hs]
      exact h amsId' s

theorem mutuallyInverse_perform_iff {event : MQTTEvent} (h : mqtt.MutuallyInverse) :
    (mqtt.perform host event).MutuallyInverse ↔
      ∀ amsId sn, event.report host = some (amsId, sn) → mqtt.Agrees amsId sn := by
  have hquiet : event.report host = none → (mqtt.perform host event).MutuallyInverse →
      ((mqtt.perform host event).MutuallyInverse ↔
        ∀ amsId sn, event.report host = some (amsId, sn) → mqtt.Agrees amsId sn) := by
    intro hnone hkept
    refine iff_of_true hkept fun amsId sn hreport => ?_
    rw [hnone] at hreport
    cases hreport
  cases event with
  | connected => exact hquiet rfl h
  | connectionLost => exact hquiet rfl h
  | disconnectAsync =>
    refine hquiet rfl ?_
    simp only [perform, disconnect]
    split
    · intro amsId sn
      simp
    · exact h
  | module moduleJSON =>
    cases hreport : moduleReport host moduleJSON with
    | none =>
      refine hquiet hreport ?_
      rw [perform_module, hreport]
      exact h
    | some report =>
      rw [perform_module, hreport]
      refine (mutuallyInverse_record_iff h).trans ?_
      simp only [MQTTEvent.report, hreport, Option.some.injEq]
      constructor
      · rintro hagrees amsId sn rfl
        exact hagrees
      · intro hagrees
        exact hagrees report.1 report.2 rfl

/-- **The dictionaries are inverse at all times** in exactly the runs none of whose reports
supersedes another. In every run, a command to a unit goes to where the unit was reported last. -/
theorem mutuallyInverse_iff_agrees (host : Host) (serialNumber : NetString)
    (run : List MQTTEvent) :
    (∀ past, past <+: run → (after host serialNumber past).MutuallyInverse ∧
        AddressesLastReport host past (after host serialNumber past)) ↔
      ∀ past event, past ++ [event] <+: run → ∀ amsId sn, event.report host = some (amsId, sn) →
        (after host serialNumber past).Agrees amsId sn := by
  refine forall_prefix_iff ⟨fun amsId sn => by simp [after, initial],
    addressesLastReport_after host serialNumber []⟩ ?_ run
  rintro past event ⟨hinverse, -⟩
  rw [after_append]
  constructor
  · rintro ⟨hkept, -⟩
    exact (mutuallyInverse_perform_iff hinverse).mp hkept
  · intro hagrees
    refine ⟨(mutuallyInverse_perform_iff hinverse).mpr hagrees, ?_⟩
    rw [← after_append]
    exact addressesLastReport_after host serialNumber _

/-- A unit that was replaced by another is still found under its id. -/
theorem mutuallyInverse_fails :
    ¬ ∀ (host : Host) (serialNumber : NetString) (run : List MQTTEvent),
      (after host serialNumber run).MutuallyInverse := by
  intro hall
  let host : Host :=
    { (default : Host) with parseInt32 := fun s => if s = "0" then some 0 else none }
  let unit (sn : String) : MQTTEvent :=
    .module (.object [("name", .string "ams/0"), ("sn", .string sn)])
  have hinverse := hall host none [.connected, unit "A", unit "B"]
  have hstale : (some (some "B") : Option NetString) = some (some "A") :=
    (hinverse 0 "A").mpr rfl
  exact absurd hstale (by decide)

end BBLMQTTConnection

end BambuLab

end Connect3Dp
