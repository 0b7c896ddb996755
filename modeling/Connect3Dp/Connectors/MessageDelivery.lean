import Connect3Dp.Connectors.BambuLabConnection
import Connect3Dp.Connectors.Telemetry
import Connect3Dp.Runtime.Sections

/-!
# Delivery of a Bambu Lab message

`OnMessage` reads a message in sections, and `TryRun` logs what a section raises, and raises it
again. So a message is delivered as a whole or not at all: `OnData` is raised just when every
section returns (`run_mqttOnMessage_iff`), with what all sections together have read, and otherwise
the exception of the first section that raises leaves `OnMessage`.
-/

namespace Connect3Dp

namespace BambuLab

/-- What the sections of a message write. -/
structure MessageReading where
  mqtt : BBLMQTTConnection
  data : BBLMQTTData

namespace MessageReading

def setMqtt (r : MessageReading) (mqtt : BBLMQTTConnection) : MessageReading := { r with mqtt }

def setData (r : MessageReading) (data : BBLMQTTData) : MessageReading := { r with data }

end MessageReading

/-- The sections for the property `print`, in their order. -/
def printSections (context : MessageContext) (printJSON : JsonElement) :
    List (EStateM Fault BBLMQTTData Unit) :=
  [onMessagePrintMQTTSecurity printJSON,
    onMessagePrintSDCard printJSON,
    onMessagePrintHMS context.host printJSON,
    onMessagePrintGcodeState context printJSON,
    onField BBLMQTTData.changes BBLMQTTData.setChanges
      (onMessagePrintJob context.culture context.host context.serialNumber printJSON),
    onMessageTemps context printJSON,
    ofExcept (printJSON.tryGetProperty "device") >>= fun device =>
      device.forM onMessagePrintDevices,
    onMessagePrintMaterials context printJSON,
    onMessagePrintNozzles context printJSON,
    onMessagePrintLighting printJSON]

/-- The section for the property `info`. -/
def infoSection (host : Host) (infoJSON : JsonElement) : EStateM Fault MessageReading Unit := do
  let firmwareVersion ← onField MessageReading.mqtt MessageReading.setMqtt
    (onMessageInfoVersion host infoJSON)
  modify fun r => r.setData { r.data with firmwareVersion }

/-- The sections of a message with the property `print`, and perhaps the property `info`. -/
def messageSections (context : MessageContext) (printJSON : JsonElement)
    (infoJSON : Option JsonElement) : List (EStateM Fault MessageReading Unit) :=
  (printSections context printJSON).map (onField MessageReading.data MessageReading.setData) ++
    infoJSON.toList.map (infoSection context.host)

theorem onMessagePrint_eq_runAll (context : MessageContext) (printJSON : JsonElement) :
    onMessagePrint context printJSON = runAll (printSections context printJSON) := by
  rw [onMessagePrint, runAll, printSections]
  simp only [List.forM_cons, List.forM_nil, id, bind_assoc, bind_pure_unit]

theorem run_printSections (context : MessageContext) (printJSON : JsonElement)
    (r : MessageReading) :
    (runAll ((printSections context printJSON).map
      (onField MessageReading.data MessageReading.setData))).run r =
      (onField MessageReading.data MessageReading.setData
        (onMessagePrint context printJSON)).run r := by
  have hget : ∀ (r : MessageReading) data, (r.setData data).data = data := fun _ _ => rfl
  have hset : ∀ (r : MessageReading) data data', (r.setData data).setData data' =
    r.setData data' := fun _ _ _ => rfl
  have hself : ∀ r : MessageReading, r.setData r.data = r := fun _ => rfl
  rw [onMessagePrint_eq_runAll]
  exact run_runAll_map_onField hget hset hself _ r

variable {context : MessageContext} {root printJSON : JsonElement} {data : BBLMQTTData} {f : Fault}

theorem readPrint_of_ok (hprint : root.tryGetProperty "print" = .ok (some printJSON))
    (hread : (onMessagePrint context printJSON).run default = .ok () data) :
    readPrint context root = .ok data := by
  refine bind_eq_ok_iff.mpr ⟨some printJSON, hprint, ?_⟩
  dsimp only
  rw [hread]
  rfl

theorem readPrint_of_error (hprint : root.tryGetProperty "print" = .ok (some printJSON))
    (hread : (onMessagePrint context printJSON).run default = .error f data) :
    readPrint context root = .error f := by
  unfold readPrint
  rw [hprint]
  dsimp only [bind, Except.bind]
  rw [hread]
  rfl

variable {culture : Culture} {toLower : String → String} {host : Host} {model : NetString}
  {infoJSON : Option JsonElement} {mqtt : BBLMQTTConnection}

theorem run_infoSection_ok {infoJSON : JsonElement} {mqtt' : BBLMQTTConnection}
    {firmwareVersion : Option BBLFirmwareVersion} (data : BBLMQTTData)
    (hread : (onMessageInfoVersion host infoJSON).run mqtt = .ok firmwareVersion mqtt') :
    (infoSection host infoJSON).run ⟨mqtt, data⟩ =
      .ok () ⟨mqtt', { data with firmwareVersion }⟩ := by
  rw [infoSection, run_bind_ok (run_onField_ok hread)]
  rfl

theorem run_infoSection_error {infoJSON : JsonElement} {mqtt' : BBLMQTTConnection}
    (data : BBLMQTTData)
    (hread : (onMessageInfoVersion host infoJSON).run mqtt = .error f mqtt') :
    (infoSection host infoJSON).run ⟨mqtt, data⟩ = .error f ⟨mqtt', data⟩ := by
  rw [infoSection, run_bind_error (run_onField_error hread)]
  rfl

/-- Reading a message is running its sections. -/
theorem run_onMessage_sections (hprint : root.tryGetProperty "print" = .ok (some printJSON))
    (hinfo : root.tryGetProperty "info" = .ok infoJSON) (hcontext : context =
      ⟨culture, toLower, host, mqtt.serialNumber, model, mqtt.amsIDToSN⟩) :
    (∀ r, (runAll (messageSections context printJSON infoJSON)).run ⟨mqtt, default⟩ = .ok () r →
      (onMessage culture toLower host model root).run mqtt = .ok r.data r.mqtt) ∧
    ∀ f r, (runAll (messageSections context printJSON infoJSON)).run ⟨mqtt, default⟩ =
        .error f r →
      (onMessage culture toLower host model root).run mqtt = .error f r.mqtt := by
  have hget : (get : EStateM Fault BBLMQTTConnection _).run mqtt = .ok mqtt mqtt := rfl
  have hsections := run_printSections context printJSON ⟨mqtt, default⟩
  rw [onMessage, run_bind_ok hget, messageSections, runAll_append]
  dsimp only
  rw [← hcontext]
  -- the sections of `print` come first, and one that raises ends the reading
  cases hread : (onMessagePrint context printJSON).run default with
  | error f data =>
    have hfield : (onField MessageReading.data MessageReading.setData
        (onMessagePrint context printJSON)).run ⟨mqtt, default⟩ = .error f ⟨mqtt, data⟩ :=
      run_onField_error hread
    rw [run_bind_error (hsections.trans hfield), readPrint_of_error hprint hread,
      ofExcept_error_bind]
    refine ⟨fun r h => ?_, fun f r h => ?_⟩
    · cases h
    · cases h
      rfl
  | ok _ data =>
    have hfield : (onField MessageReading.data MessageReading.setData
        (onMessagePrint context printJSON)).run ⟨mqtt, default⟩ = .ok () ⟨mqtt, data⟩ :=
      run_onField_ok hread
    rw [run_bind_ok (hsections.trans hfield), readPrint_of_ok hprint hread, ofExcept_ok_bind,
      hinfo, ofExcept_ok_bind]
    cases infoJSON with
    | none =>
      refine ⟨fun r h => ?_, fun f r h => ?_⟩
      · cases h
        rfl
      · cases h
    | some infoJSON =>
      have hhost : context.host = host := by rw [hcontext]
      rw [Option.toList_some, List.map_singleton, hhost]
      -- `info` is read last, into a reading that is complete otherwise
      cases hinfoRead : (onMessageInfoVersion host infoJSON).run mqtt with
      | ok firmwareVersion mqtt' =>
        have hsection := run_infoSection_ok data hinfoRead
        rw [run_bind_ok hinfoRead, run_runAll_cons_ok hsection]
        refine ⟨fun r h => ?_, fun f r h => ?_⟩
        · cases h
          rfl
        · cases h
      | error f mqtt' =>
        have hsection := run_infoSection_error data hinfoRead
        rw [run_bind_error hinfoRead, run_runAll_cons_error hsection]
        refine ⟨fun r h => ?_, fun f r h => ?_⟩
        · cases h
        · cases h
          rfl

end BambuLab

namespace BBLMachineConnection

open BambuLab

variable {Cron : Type}

/-- The sections of a message with the property `print` that arrives at a connection. -/
def sections (culture : Culture) (toLower : String → String) (host : Host)
    (c : BBLMachineConnection Cron) (root printJSON : JsonElement) :
    List (EStateM Fault MessageReading Unit) :=
  messageSections ⟨culture, toLower, host, c.mqtt.serialNumber, c.settingsModel, c.mqtt.amsIDToSN⟩
    printJSON (root.tryGetProperty "info").toOption.join

variable [DecidableEq Cron] [Hashable (HeatingSchedule Cron)] [Hashable (ScheduledPrint Cron)]

/-- `OnMessage`: it raises `OnData`, whose exceptions are logged, with what the message is read
into. -/
def mqttOnMessage (culture : Culture) (toLower : String → String) (host : Host)
    (env : Environment Cron) (root : JsonElement) :
    EStateM Fault (BBLMachineConnection Cron) Unit := do
  let model := (← get).settingsModel
  let data ← onField mqtt setMqtt (BambuLab.onMessage culture toLower host model root)
  try mqttOnData culture host env data catch _ => pure ()

/-- The connection after `OnData` is raised with a reading. -/
def delivered (culture : Culture) (host : Host) (env : Environment Cron)
    (c : BBLMachineConnection Cron) (r : MessageReading) : BBLMachineConnection Cron :=
  finalState ((mqttOnData culture host env r.data).run (c.setMqtt r.mqtt))

theorem run_try_mqttOnData (culture : Culture) (host : Host) (env : Environment Cron)
    (data : BBLMQTTData) (c : BBLMachineConnection Cron) :
    (try mqttOnData culture host env data catch _ => pure () :
      EStateM Fault (BBLMachineConnection Cron) Unit).run c =
        .ok () (finalState ((mqttOnData culture host env data).run c)) := by
  cases hrun : (mqttOnData culture host env data).run c with
  | ok _ c' => exact run_tryCatch_ok hrun
  | error f c' => exact run_tryCatch_error hrun

variable {root printJSON : JsonElement}

/-- Reading the message at the connection, and delivering what is read. -/
theorem run_mqttOnMessage_of_sections (culture : Culture) (toLower : String → String) (host : Host)
    (env : Environment Cron) (c : BBLMachineConnection Cron)
    (hprint : root.tryGetProperty "print" = .ok (some printJSON)) :
    (∀ r, (runAll (c.sections culture toLower host root printJSON)).run ⟨c.mqtt, default⟩ =
        .ok () r → (mqttOnMessage culture toLower host env root).run c =
          .ok () (c.delivered culture host env r)) ∧
    ∀ f r, (runAll (c.sections culture toLower host root printJSON)).run ⟨c.mqtt, default⟩ =
        .error f r → (mqttOnMessage culture toLower host env root).run c =
          .error f (c.setMqtt r.mqtt) := by
  -- the root has the property `print`, so it is an object and `info` can be asked for
  obtain ⟨infoJSON, hinfo⟩ : ∃ infoJSON, root.tryGetProperty "info" = .ok infoJSON := by
    cases root with
    | object properties => exact ⟨_, rfl⟩
    | _ => cases hprint
  have hget : (get : EStateM Fault (BBLMachineConnection Cron) _).run c = .ok c c := rfl
  have hsections : c.sections culture toLower host root printJSON = messageSections
      ⟨culture, toLower, host, c.mqtt.serialNumber, c.settingsModel, c.mqtt.amsIDToSN⟩ printJSON
        infoJSON := by
    rw [sections, hinfo]
    rfl
  obtain ⟨hok, herror⟩ : _ ∧ _ := run_onMessage_sections hprint hinfo (Eq.refl (⟨culture, toLower,
    host, c.mqtt.serialNumber, c.settingsModel, c.mqtt.amsIDToSN⟩ : MessageContext))
  rw [hsections, mqttOnMessage, run_bind_ok hget]
  dsimp only
  refine ⟨fun r h => ?_, fun f r h => ?_⟩
  · have hread : (onField mqtt setMqtt (BambuLab.onMessage culture toLower host c.settingsModel
        root)).run c = .ok r.data (c.setMqtt r.mqtt) := run_onField_ok (hok r h)
    rw [run_bind_ok hread, run_try_mqttOnData]
    rfl
  · have hread : (onField mqtt setMqtt (BambuLab.onMessage culture toLower host c.settingsModel
        root)).run c = .error f (c.setMqtt r.mqtt) := run_onField_error (herror f r h)
    rw [run_bind_error hread]

/-- **A message is delivered as a whole or not at all**: `OnData` is raised just when every section
returns in its turn, with what all of them have read. Otherwise the exception of the first that
raises leaves `OnMessage`, and the machine is as it was. -/
theorem run_mqttOnMessage_iff (culture : Culture) (toLower : String → String) (host : Host)
    (env : Environment Cron) (c : BBLMachineConnection Cron)
    (hprint : root.tryGetProperty "print" = .ok (some printJSON)) :
    (∀ c', (mqttOnMessage culture toLower host env root).run c = .ok () c' ↔
      eachReturns (c.sections culture toLower host root printJSON) ⟨c.mqtt, default⟩ = true ∧
        c' = c.delivered culture host env
          (runIsolated (c.sections culture toLower host root printJSON) ⟨c.mqtt, default⟩)) ∧
    ∀ f c', (mqttOnMessage culture toLower host env root).run c = .error f c' ↔
      ∃ before m after r, c.sections culture toLower host root printJSON = before ++ m :: after ∧
        eachReturns before ⟨c.mqtt, default⟩ = true ∧
        m.run (runIsolated before ⟨c.mqtt, default⟩) = .error f r ∧ c' = c.setMqtt r.mqtt := by
  obtain ⟨hok, herror⟩ : _ ∧ _ :=
    run_mqttOnMessage_of_sections culture toLower host env c hprint
  obtain ⟨sections, hsections⟩ : ∃ sections, sections =
    c.sections culture toLower host root printJSON := ⟨_, rfl⟩
  rw [← hsections] at hok herror ⊢
  -- either the sections all return or one of them raises, and each excludes the other
  cases hall : (runAll sections).run ⟨c.mqtt, default⟩ with
  | ok _ r =>
    obtain ⟨hreturns, hr⟩ := run_runAll_ok_iff.mp hall
    rw [hok r hall, ← hr]
    refine ⟨fun c' => ⟨fun h => ?_, fun ⟨_, h⟩ => ?_⟩, fun f c' => iff_of_false (fun h => ?_) ?_⟩
    · cases h
      exact ⟨hreturns, rfl⟩
    · rw [h]
    · cases h
    · rintro ⟨before, m, after, r', hbefore, hreturns', hm, -⟩
      have hraises := run_runAll_error_iff.mpr ⟨before, m, after, hbefore, hreturns', hm⟩
      cases hall.symm.trans hraises
  | error f r =>
    rw [herror f r hall]
    refine ⟨fun c' => iff_of_false (fun h => ?_) fun ⟨hreturns, _⟩ => ?_,
      fun f' c' => ⟨fun h => ?_, ?_⟩⟩
    · cases h
    · obtain ⟨r', hr'⟩ := exists_run_runAll_ok_iff.mpr hreturns
      cases hall.symm.trans hr'
    · cases h
      obtain ⟨before, m, after, hbefore, hreturns, hm⟩ := run_runAll_error_iff.mp hall
      exact ⟨before, m, after, r, hbefore, hreturns, hm, rfl⟩
    · rintro ⟨before, m, after, r', hbefore, hreturns, hm, rfl⟩
      cases hall.symm.trans (run_runAll_error_iff.mpr ⟨before, m, after, hbefore, hreturns, hm⟩)
      rfl

private def sectionsPrinter : BBLMachineConnection Unit :=
  ⟨⟨default, default, default, ⟨[], false, 0⟩⟩, .initial none, none, none, false, false, true⟩

private def media : String × JsonElement := ("sdcard", .boolean true)

/-- A state that no printer is known to be in. -/
private def oddState : String × JsonElement := ("gcode_state", .string "ODD")

/-- A message that is delivered. -/
theorem run_mqttOnMessage_iff_media : ∃ c', (mqttOnMessage .ordinal id default
    ⟨default, fun _ => none⟩ (.object [("print", .object [media])])).run sectionsPrinter =
      .ok () c' := by
  have hprint : (JsonElement.object [("print", .object [media])]).tryGetProperty "print" =
    .ok (some (.object [media])) := rfl
  obtain ⟨hok, -⟩ := run_mqttOnMessage_iff .ordinal id default ⟨default, fun _ => none⟩
    sectionsPrinter hprint
  exact ⟨_, (hok _).mpr ⟨by decide +kernel, rfl⟩⟩

/-- **Sections are not isolated**: one that raises keeps what another has read from being
delivered. -/
theorem mqttOnMessage_not_isolated :
    (runIsolated (sectionsPrinter.sections .ordinal id default
      (.object [("print", .object [media, oddState])]) (.object [media, oddState]))
      ⟨sectionsPrinter.mqtt, default⟩).data.hasUSBOrSDCard = some true ∧
    ¬ ∀ (c : BBLMachineConnection Unit) (root printJSON : JsonElement),
      root.tryGetProperty "print" = .ok (some printJSON) →
      (mqttOnMessage .ordinal id default ⟨default, fun _ => none⟩ root).run c =
        .ok () (c.delivered .ordinal default ⟨default, fun _ => none⟩
          (runIsolated (c.sections .ordinal id default root printJSON) ⟨c.mqtt, default⟩)) := by
  refine ⟨by decide +kernel, fun hall => ?_⟩
  have hdelivered := hall sectionsPrinter (.object [("print", .object [media, oddState])])
    (.object [media, oddState]) rfl
  have hraises : returned ((mqttOnMessage .ordinal id default ⟨default, fun _ => none⟩
      (.object [("print", .object [media, oddState])])).run sectionsPrinter) = false := by
    decide +kernel
  rw [hdelivered] at hraises
  cases hraises

end BBLMachineConnection

end Connect3Dp
