import Connect3Dp.Connectors.BambuLab

/-!
# What a Bambu Lab printer knows about a print

When a print is started, path, hash, time and weight of the job travel to the printer in
`subtask_name`. They are read from `subtask_id`, which is not sent: a report that repeats both
fields as they were sent names the job after the packed string, and says nothing else about it
(`run_onMessagePrintJob_name`). So nothing that was packed is ever read back
(`metadataSurvives_iff`).
-/

namespace Connect3Dp

namespace BambuLab

/-- The report of a printer that repeats the two names of the command, unchanged. -/
def reportOf : JsonElement → JsonElement
  | .object [(_, .object commandData)] =>
    .object (commandData.filter fun p => p.1 = "subtask_name" || p.1 = "subtask_id")
  | _ => .object []

/-- The update of a job says what was known about it when it was started. -/
structure Describes (localPrint : LocalPrintJob) (options : PrintOptions) (path : String)
    (job : PrintJobUpdate) : Prop where
  localPath : job.localPath = ⟨some path, true⟩
  file : job.file = ⟨some localPrint.file, true⟩
  totalMaterialUsage : job.totalMaterialUsage = ⟨some localPrint.totalGramsUsed, true⟩
  totalTime : job.totalTime = ⟨fromWholeMinutes (wholeMinutes localPrint.time), true⟩
  customID : options.customID.isSome = true → job.customID = ⟨options.customID, true⟩

section

variable (culture : Culture) (host : Host) (mqtt : MQTTConnection) (thumbnailSmallHash : NetString)
  (localPrint : LocalPrintJob) (options : PrintOptions)

/-- A print that is published is read back from the printer's report as it was started. -/
def MetadataSurvives : Prop :=
  ∀ command, printLocal culture host mqtt thumbnailSmallHash localPrint options =
      .ok (some command) →
    ∃ u job path, (onMessagePrintJob culture host mqtt.serialNumber (reportOf command)).run
        default = .ok () u ∧ u.currentJob.value = some job ∧
      tryParseAs3MFHandle localPrint.file = .ok (some path) ∧
      Describes localPrint options path job

/-- Nothing is published: the broker is not connected, or the mapping names a unit that the
printer has not reported. -/
def Unpublished : Prop :=
  mqtt.isConnected = false ∨ ∃ map, options.materialMap = some map ∧
    ∃ kvp ∈ map.object.entries,
      ∀ sn, kvp.2.muid = some sn → mqtt.snToAMSID.tryGetValue sn = none

end

variable {culture : Culture} {host : Host} {mqtt : MQTTConnection} {thumbnailSmallHash : NetString}
  {localPrint : LocalPrintJob} {options : PrintOptions}

/-- A document whose only property is a string. -/
theorem tryGetProperty_single {name name' value : String} (h : name' ≠ name) :
    JsonElement.tryGetProperty name' (.object [(name, .string value)]) = .ok none := by
  simp [JsonElement.tryGetProperty, h]

theorem tryGetInt32_single {name name' value : String} (h : name' ≠ name) :
    tryGetInt32 (.object [(name, .string value)]) name' = .ok none := by
  rw [tryGetInt32, tryGetProperty_single h]
  rfl

theorem tryGetString_single {name name' value : String} (h : name' ≠ name) :
    tryGetString (.object [(name, .string value)]) name' = .ok none := by
  rw [tryGetString, tryGetProperty_single h]
  rfl

/-- **A report of a name alone** says nothing about the job but its name. -/
theorem run_onMessagePrintJob_name (culture : Culture) (host : Host) (serialNumber : NetString)
    (name : String) :
    ∃ u, (onMessagePrintJob culture host serialNumber
        (.object [("subtask_name", .string name)])).run default = .ok () u ∧
      ∀ job, u.currentJob.value = some job → job.localPath.isSet = false := by
  have hname : tryGetString (.object [("subtask_name", .string name)]) "subtask_name" =
      .ok (if trim name = "" then none else some (trim name)) := by
    simp only [tryGetString, JsonElement.tryGetProperty, List.reverse_singleton,
      List.lookup_cons_self]
    rfl
  rw [onMessagePrintJob, hname, tryGetInt32_single (by decide), tryGetInt32_single (by decide),
    tryGetInt32_single (by decide), tryGetInt32_single (by decide),
    tryGetString_single (by decide)]
  split
  · refine ⟨default, rfl, fun job hjob => ?_⟩
    cases hjob
  · refine ⟨_, rfl, fun job hjob => ?_⟩
    cases hjob
    rfl

/-- The printer repeats the packed string under `subtask_name`, and nothing else. -/
theorem reportOf_publishPrint {printOptions : BBLPrintOptions} {command : JsonElement}
    (h : publishPrint culture host mqtt printOptions = some command) :
    reportOf command = .object [("subtask_name", .string printOptions.subTaskId)] := by
  unfold publishPrint publishCommand at h
  split at h
  · cases h
    have hams : (amsProperties printOptions).filter
        (fun p => p.1 = "subtask_name" || p.1 = "subtask_id") = [] := by
      unfold amsProperties
      split
      · split <;> rfl
      · rfl
    simp only [reportOf, List.filter_append, hams]
    rfl
  · cases h

theorem resolveSlot_eq_ok_iff {kvp : Int32 × SpoolLocation} :
    (∃ slot, resolveSlot mqtt kvp = .ok slot) ↔
      ∃ sn, kvp.2.muid = some sn ∧ mqtt.snToAMSID.tryGetValue sn ≠ none := by
  unfold resolveSlot
  cases kvp.2.muid with
  | none => simp
  | some sn => cases h : mqtt.snToAMSID.tryGetValue sn <;> simp [h]

/-- The mapping is resolved just when every unit it names has been reported. -/
theorem exists_resolveMapping_iff :
    (∃ mapping, resolveMapping mqtt options = .ok mapping) ↔
      ∀ map, options.materialMap = some map → ∀ kvp ∈ map.object.entries,
        ∃ sn, kvp.2.muid = some sn ∧ mqtt.snToAMSID.tryGetValue sn ≠ none := by
  unfold resolveMapping
  cases hmap : options.materialMap with
  | none => simp
  | some map =>
    simp only [Option.some.injEq, forall_eq', ← resolveSlot_eq_ok_iff]
    split
    · rename_i hempty
      refine iff_of_true ⟨_, rfl⟩ fun kvp hkvp => ?_
      rw [hempty] at hkvp
      cases hkvp
    · rw [← exists_mapM_eq_ok_iff]
      constructor
      · rintro ⟨mapping, h⟩
        obtain ⟨slots, hslots, -⟩ := bind_eq_ok_iff.mp h
        exact ⟨slots, hslots⟩
      · rintro ⟨slots, hslots⟩
        rw [hslots]
        exact ⟨_, rfl⟩

/-- A print whose mapping is resolved is published while the broker is connected. -/
theorem printLocal_of_published (culture : Culture) (host : Host) (thumbnailSmallHash : NetString)
    {path : String} (hpath : tryParseAs3MFHandle localPrint.file = .ok (some path))
    (hpublished : ¬ Unpublished mqtt options) :
    ∃ command subTaskId, printLocal culture host mqtt thumbnailSmallHash localPrint options =
        .ok (some command) ∧
      reportOf command = .object [("subtask_name", .string subTaskId)] := by
  have hconnected : mqtt.isConnected = true := by
    rw [← Bool.not_eq_false]
    exact fun h => hpublished (.inl h)
  obtain ⟨mapping, hmapping⟩ : ∃ mapping, resolveMapping mqtt options = .ok mapping := by
    rw [exists_resolveMapping_iff]
    intro map hmap kvp hkvp
    by_contra hunknown
    refine hpublished (.inr ⟨map, hmap, kvp, hkvp, fun sn hsn => ?_⟩)
    by_contra hne
    exact hunknown ⟨sn, hsn, hne⟩
  obtain ⟨printOptions, hprint⟩ : ∃ printOptions, printLocal culture host mqtt thumbnailSmallHash
      localPrint options = .ok (publishPrint culture host mqtt printOptions) := by
    rw [printLocal, hmapping, hpath]
    exact ⟨_, rfl⟩
  obtain ⟨command, hcommand⟩ : ∃ command, publishPrint culture host mqtt printOptions =
      some command := by
    rw [publishPrint, publishCommand, if_pos hconnected]
    exact ⟨_, rfl⟩
  exact ⟨command, printOptions.subTaskId, hcommand ▸ hprint, reportOf_publishPrint hcommand⟩

theorem not_unpublished_of_printLocal {command : JsonElement}
    (h : printLocal culture host mqtt thumbnailSmallHash localPrint options =
      .ok (some command)) : ¬ Unpublished mqtt options := by
  obtain ⟨mapping, hmapping, h⟩ := bind_eq_ok_iff.mp h
  obtain ⟨path, -, h⟩ := bind_eq_ok_iff.mp h
  have hresolved := exists_resolveMapping_iff.mp ⟨mapping, hmapping⟩
  rintro (hnot | ⟨map, hmap, kvp, hkvp, hunknown⟩)
  · -- Without a connection the command is dropped.
    cases path with
    | none => cases h
    | some path =>
      simp only [publishPrint, publishCommand, hnot] at h
      cases h
  · obtain ⟨sn, hsn, hknown⟩ := hresolved map hmap kvp hkvp
    exact hknown (hunknown sn hsn)

/-- A print that is published is not read back: the report does not set a path. -/
theorem not_metadataSurvives_of_published (culture : Culture) (host : Host)
    (thumbnailSmallHash : NetString) {path : String}
    (hpath : tryParseAs3MFHandle localPrint.file = .ok (some path))
    (hpublished : ¬ Unpublished mqtt options) :
    ¬ MetadataSurvives culture host mqtt thumbnailSmallHash localPrint options := by
  intro hsurvives
  obtain ⟨command, subTaskId, hprint, hreport⟩ :=
    printLocal_of_published culture host thumbnailSmallHash hpath hpublished
  obtain ⟨u, job, path', hrun, hjob, -, hdescribes⟩ := hsurvives command hprint
  obtain ⟨u', hrun', hunset⟩ :=
    run_onMessagePrintJob_name culture host mqtt.serialNumber subTaskId
  rw [hreport, hrun'] at hrun
  cases hrun
  have hset := hunset job hjob
  rw [hdescribes.localPath] at hset
  cases hset

/-- **What was packed is read back only when nothing is published.** -/
theorem metadataSurvives_iff (culture : Culture) (host : Host) (mqtt : MQTTConnection)
    (thumbnailSmallHash : NetString) (localPrint : LocalPrintJob) (options : PrintOptions)
    (path : String) (hpath : tryParseAs3MFHandle localPrint.file = .ok (some path)) :
    MetadataSurvives culture host mqtt thumbnailSmallHash localPrint options ↔
      Unpublished mqtt options := by
  constructor
  · intro h
    by_contra hpublished
    exact not_metadataSurvives_of_published culture host thumbnailSmallHash hpath hpublished h
  · intro hunpublished command hprint
    exact absurd hunpublished (not_unpublished_of_printLocal hprint)

/-- A host that reads decimal numbers of one digit. -/
private def decimalHost : Host := { (default : Host) with
  parseInt32 := fun s => if s = "0" then some 0 else none }

private def decimalCulture : Culture where
  startsWith text part := part.toList.isPrefixOf text.toList
  formatInt32 n := toString n.toInt

/-- `/cube.3mf`. -/
private def cube3MF : LocalPrintJob :=
  { (default : LocalPrintJob) with
    file := handleAs3MF (some "01S00A") "/cube.3mf" (some "ab") }

private theorem cube3MF_path : tryParseAs3MFHandle cube3MF.file = .ok (some "/cube.3mf") := by
  decide +kernel

/-- A print that is not published, as the broker is not connected. -/
theorem metadataSurvives_iff_disconnected :
    MetadataSurvives decimalCulture decimalHost ⟨false, some "01S00A", ∅⟩ none cube3MF default :=
  (metadataSurvives_iff decimalCulture decimalHost _ none cube3MF default _ cube3MF_path).mpr
    (.inl rfl)

/-- A print that is published is not read back. -/
theorem metadataSurvives_fails :
    ¬ ∀ (mqtt : MQTTConnection) (localPrint : LocalPrintJob) (options : PrintOptions)
      (path : String), tryParseAs3MFHandle localPrint.file = .ok (some path) →
      MetadataSurvives decimalCulture decimalHost mqtt none localPrint options := by
  intro hall
  have hpublished : ¬ Unpublished ⟨true, some "01S00A", ∅⟩ default := by
    rintro (h | ⟨map, hmap, -⟩)
    · cases h
    · cases hmap
  exact not_metadataSurvives_of_published decimalCulture decimalHost none cube3MF_path hpublished
    (hall _ cube3MF default _ cube3MF_path)

end BambuLab

end Connect3Dp
