import Connect3Dp.Connectors.BambuLabGates

/-!
# Restrictions of a Bambu Lab machine

A printer that does not accept commands says so when a command fails, and a printer whose files
cannot be reached loses its FTP connection. Either should restrict what the machine offers until it
is over. But the capabilities are computed anew from every message, and of the two reasons nothing
is remembered: the field `PrevUsesUnsupportedSecurity` is only ever reset. So a restriction ends
with the next message that does not give the reason again (`restrictionsStick_iff`).
-/

namespace Connect3Dp

open BambuLab

namespace BBLMachineConnection

variable {Cron : Type}

/-- Whether the printer has said that it does not accept commands, and has not been disconnected
since. -/
def GateEvent.restricts (restricted : Bool) : GateEvent Cron → Bool
  | .message _ _ root _ => reportsUnsupportedSecurity root || restricted
  | .mqttDisconnected .. => false
  | _ => restricted

def restricted (past : List (GateEvent Cron)) : Bool := past.foldl GateEvent.restricts false

/-- Whether the FTP connection was lost, and has not been established since. -/
def GateEvent.losesFTP (ftpDown : Bool) : GateEvent Cron → Bool
  | .ftpDisconnected .. => true
  | .ftpConnected => false
  | _ => ftpDown

def ftpDown (past : List (GateEvent Cron)) : Bool := past.foldl GateEvent.losesFTP false

theorem restricted_concat (past : List (GateEvent Cron)) (e : GateEvent Cron) :
    restricted (past ++ [e]) = e.restricts (restricted past) := by
  rw [restricted, List.foldl_append]
  rfl

theorem ftpDown_concat (past : List (GateEvent Cron)) (e : GateEvent Cron) :
    ftpDown (past ++ [e]) = e.losesFTP (ftpDown past) := by
  rw [ftpDown, List.foldl_append]
  rfl

/-- The machine offers nothing that is restricted. -/
structure RestrictionsStick (past : List (GateEvent Cron)) (c : BBLMachineConnection Cron) :
    Prop where
  security : restricted past = true → c.machine.state.capabilities &&& securityGate = 0
  storage : ftpDown past = true → c.machine.state.capabilities &&& storageGate = 0

/-- A message gives the reason for each restriction again: it says itself that commands are not
accepted, and the storage that the model needs is missing, by what the message says or the last one
that said it. So does the event of a lost MQTT connection, which ends the first restriction. -/
def KeepsRestrictions (c : BBLMachineConnection Cron) (past : List (GateEvent Cron)) :
    GateEvent Cron → Prop
  | .message _ _ root _ =>
    (restricted past = true → reportsUnsupportedSecurity root = true) ∧
      (ftpDown past = true → (reportedStorage root).getD c.hasUSBOrSDCard = false ∧
        c.isUSBOrSDCardRequired = true)
  | .mqttDisconnected .. => ftpDown past = true → c.LacksStorage
  | _ => True

variable [DecidableEq Cron] [Hashable (HeatingSchedule Cron)] [Hashable (ScheduledPrint Cron)]
  {culture : Culture} {toLower : String → String} {host : Host} {env : Environment Cron}
  {c : BBLMachineConnection Cron} {data : BBLMQTTData} {past : List (GateEvent Cron)}

/-- After `MQTT_OnData`, each gate is shut just when the reading and the connection say so. -/
theorem stick_mqttOnData_iff (hdata : data.changes.Harmless) :
    RestrictionsStick past (finalState ((mqttOnData culture host env data).run c)) ↔
      (restricted past = true → data.usesUnsupportedSecurity = some true) ∧
      (ftpDown past = true → data.hasUSBOrSDCard.getD c.hasUSBOrSDCard = false ∧
        c.isUSBOrSDCardRequired = true) := by
  have hcapabilities : (finalState ((mqttOnData culture host env data).run
      c)).machine.state.capabilities = (c.remember data).capabilities data :=
    capabilities_mqttOnData hdata
  rw [← lacksStorage_remember_iff, ← capabilities_storageGate_iff (c.remember data) data,
    ← capabilities_securityGate_iff (c.remember data) data, ← hcapabilities]
  exact ⟨fun h => ⟨h.security, h.storage⟩, fun h => ⟨h.1, h.2⟩⟩

omit [DecidableEq Cron] [Hashable (HeatingSchedule Cron)] [Hashable (ScheduledPrint Cron)] in
theorem RestrictionsStick.of_eq {c' : BBLMachineConnection Cron} (h : RestrictionsStick past c)
    {past' : List (GateEvent Cron)} (hrestricted : restricted past' = true → restricted past = true)
    (hftp : ftpDown past' = true → ftpDown past = true)
    (hcapabilities : c'.machine.state.capabilities = c.machine.state.capabilities) :
    RestrictionsStick past' c' := by
  refine ⟨fun hr => ?_, fun hf => ?_⟩
  · rw [hcapabilities]
    exact h.security (hrestricted hr)
  · rw [hcapabilities]
    exact h.storage (hftp hf)

/-- **One event** keeps what is restricted just when it gives the reasons again. -/
theorem stick_handle_iff {e : GateEvent Cron} (he : e.Occurs culture toLower)
    (h : RestrictionsStick past c) :
    RestrictionsStick (past ++ [e]) (c.handle culture e) ↔ c.KeepsRestrictions past e := by
  have hrestricted := restricted_concat past e
  have hftp := ftpDown_concat past e
  cases e with
  | message host env root data =>
    have hreports := reports_of_wasRead he
    have hharmless := (reads_of_wasRead he).consistent.harmless
    rw [handle, stick_mqttOnData_iff hharmless, hrestricted, hftp, hreports.hasUSBOrSDCard,
      hreports.usesUnsupportedSecurity]
    change ((reportsUnsupportedSecurity root || restricted past) = true → _) ∧ _ ↔ _ ∧ _
    -- a message that reports the failure is restricted by itself, and meets its condition
    refine and_congr_left fun _ => ?_
    cases reportsUnsupportedSecurity root <;> simp
  | mqttDisconnected host env reason =>
    obtain ⟨data, hdata, hconsistent, -⟩ := exists_disconnectedData host reason
    rw [handle, run_onDisconnected hdata, stick_mqttOnData_iff hconsistent.harmless, hrestricted,
      hftp, (storage_disconnectedData hdata).1]
    -- the disconnect ends the restriction of the security, so only the storage is left
    exact and_iff_right fun hfalse => by cases hfalse
  | ftpDisconnected host env =>
    refine iff_of_true ⟨fun hr => ?_, fun _ => ?_⟩ trivial
    -- the mask only takes flags away, so what was shut stays shut
    · have hold := h.security (hrestricted.symm.trans hr)
      rw [handle, capabilities_onFTPDisconnected, BitVec.and_assoc,
        BitVec.and_comm (~~~storageGate), ← BitVec.and_assoc, hold]
      exact BitVec.zero_and
    · rw [handle, capabilities_onFTPDisconnected, BitVec.and_assoc]
      exact BitVec.and_zero
  | ftpConnected =>
    refine iff_of_true (h.of_eq (fun hr => hrestricted.symm.trans hr) (fun hf => ?_) rfl) trivial
    rw [hftp] at hf
    cases hf
  | commit env u =>
    refine iff_of_true (h.of_eq (fun hr => hrestricted.symm.trans hr)
      (fun hf => hftp.symm.trans hf) ?_) trivial
    rw [handle, finalState_commit]
    exact capabilities_afterCommit_of_not_isSet env he.capabilities c.machine
  | other others =>
    refine iff_of_true (h.of_eq (fun hr => hrestricted.symm.trans hr)
      (fun hf => hftp.symm.trans hf) ?_) trivial
    exact congrArg MachineState.capabilities (he c.machine)

/-- **When restrictions stick**: in every state of a run just when every message, and every loss of
the MQTT connection, gives the reasons of those in force again. -/
theorem restrictionsStick_iff (culture : Culture) (toLower : String → String)
    (c : BBLMachineConnection Cron) {run : List (GateEvent Cron)}
    (hrun : ∀ e ∈ run, e.Occurs culture toLower) :
    (∀ past, past <+: run → RestrictionsStick past (c.handleAll culture past)) ↔
      ∀ past e, past ++ [e] <+: run → (c.handleAll culture past).KeepsRestrictions past e := by
  refine forall_prefix_iff_of_mem
    (P := fun past => RestrictionsStick past (c.handleAll culture past)) ?_ fun past e he h => ?_
  · refine ⟨fun h => ?_, fun h => ?_⟩
    · cases h
    · cases h
  · rw [handleAll_concat]
    exact stick_handle_iff (hrun e he) h

/-! ### Two messages -/

private def newPrinter : BBLMachineConnection Unit :=
  ⟨⟨default, default, default, ⟨[], false, 0⟩⟩, .initial none, none, none, false, false, false⟩

/-- A command was not accepted. -/
private def refusal : JsonElement :=
  .object [("print", .object [("result", .string "FAILED"),
    ("reason", .string "mqtt message verify failed")])]

/-- A message that says nothing. -/
private def telemetry : JsonElement := .object [("print", .object [])]

private theorem exists_wasRead_refusal : ∃ data, WasRead .ordinal id refusal data := by
  have hread : returned ((onMessage .ordinal id default none refusal).run
      (.initial none)) = true := by decide +kernel
  exact exists_wasRead hread

private theorem exists_wasRead_telemetry : ∃ data, WasRead .ordinal id telemetry data := by
  have hread : returned ((onMessage .ordinal id default none telemetry).run
      (.initial none)) = true := by decide +kernel
  exact exists_wasRead hread

/-- Two refusals in a row. -/
theorem restrictionsStick_iff_twice : ∃ data, WasRead .ordinal id refusal data ∧
    ∀ past, past <+: [.message default ⟨default, fun _ => none⟩ refusal data,
        .message default ⟨default, fun _ => none⟩ refusal data] →
      RestrictionsStick past (newPrinter.handleAll .ordinal past) := by
  obtain ⟨data, hdata⟩ := exists_wasRead_refusal
  let e : GateEvent Unit := .message default ⟨default, fun _ => none⟩ refusal data
  have hoccurs : ∀ e' ∈ [e, e], e'.Occurs .ordinal id := by
    intro e' he'
    obtain rfl : e' = e := by simpa using he'
    exact hdata
  refine ⟨data, hdata, (restrictionsStick_iff .ordinal id newPrinter hoccurs).mpr ?_⟩
  intro past e' hpast
  obtain rfl : e' = e := by
    have hmem := hpast.subset (List.mem_append_right past (List.mem_singleton.mpr rfl))
    simpa using hmem
  refine ⟨fun _ => by decide, fun hftp => ?_⟩
  have hdown : ∀ past : List (GateEvent Unit), (∀ e' ∈ past, e' = e) → ftpDown past = false := by
    intro past
    induction past using List.reverseRecOn with
    | nil => exact fun _ => rfl
    | append_singleton past e' ih =>
      intro hpast
      rw [ftpDown_concat, hpast e' (List.mem_append_right past (List.mem_singleton.mpr rfl))]
      exact ih fun e'' he'' => hpast e'' (List.mem_append_left [e'] he'')
  have hpast' : past <+: [e, e] := (List.prefix_append past [e]).trans hpast
  rw [hdown past fun e' he' => by simpa using hpast'.subset he'] at hftp
  cases hftp

/-- **Neither restriction outlives a message**: commands are offered again although they are still
not accepted, and so are local jobs although the files cannot be reached. -/
theorem restrictionsStick_fails :
    (¬ ∀ (c : BBLMachineConnection Unit) (run : List (GateEvent Unit)),
      (∀ e ∈ run, e.Occurs .ordinal id) → restricted run = true →
        (c.handleAll .ordinal run).machine.state.capabilities &&& securityGate = 0) ∧
    ¬ ∀ (c : BBLMachineConnection Unit) (run : List (GateEvent Unit)),
      (∀ e ∈ run, e.Occurs .ordinal id) → ftpDown run = true →
        (c.handleAll .ordinal run).machine.state.capabilities &&& storageGate = 0 := by
  obtain ⟨data, hdata⟩ := exists_wasRead_telemetry
  have hreports := reports_of_wasRead hdata
  have hharmless := (reads_of_wasRead hdata).consistent.harmless
  let env : Environment Unit := ⟨default, fun _ => none⟩
  -- whatever came before, the message computes the capabilities anew
  have hcapabilities : ∀ past : List (GateEvent Unit),
      (newPrinter.handleAll .ordinal (past ++ [.message default env telemetry
        data])).machine.state.capabilities =
        ((newPrinter.handleAll .ordinal past).remember data).capabilities data := by
    intro past
    rw [handleAll_concat]
    exact capabilities_mqttOnData hharmless
  constructor
  · intro hall
    obtain ⟨refused, hrefused⟩ := exists_wasRead_refusal
    have hshut := hall newPrinter ([.message default env refusal refused] ++
      [.message default env telemetry data]) (by simpa using ⟨hrefused, hdata⟩) (by
        change (reportsUnsupportedSecurity telemetry ||
          (reportsUnsupportedSecurity refusal || false)) = true
        decide)
    rw [hcapabilities, capabilities_securityGate_iff, hreports.usesUnsupportedSecurity] at hshut
    exact absurd hshut (by decide)
  · intro hall
    have hshut := hall newPrinter ([.ftpDisconnected default env] ++
      [.message default env telemetry data]) (by simpa using ⟨trivial, hdata⟩) rfl
    rw [hcapabilities, capabilities_storageGate_iff, lacksStorage_remember_iff] at hshut
    have hrequired := isUSBOrSDCardRequired_handle .ordinal newPrinter
      (.ftpDisconnected default env)
    exact absurd (hrequired.symm.trans hshut.2) (by decide)

end BBLMachineConnection

end Connect3Dp
