import Connect3Dp.Connectors.BambuLabReports
import Connect3Dp.Connectors.OperationResults

/-!
# `SetPrintSpeed` on a Bambu Lab printer

A Bambu Lab printer knows four speeds. `SetPrintSpeed` takes any percentage, sends the level that
it falls into, and then waits until the current job shows the percentage that was asked for. The
printer reports the percentage of the level. So the two agree for the four presets only
(`presetOf_eq_clampedSpeed_iff`).

The report has to get into the state, too. A message makes a new job if it describes one
(`describesJob`), and if it does not, the job of the state stays as it is, whatever speed the
message tells of. `setPrintSpeed_succeeds_iff` has both.
-/

namespace Connect3Dp

open BambuLab

namespace BambuLab

/-! ### The command -/

def speedPercentToBBLLevel (percent : Int32) : Int32 :=
  if percent < 75 then 1
  else if percent < 115 then 2
  else if percent < 145 then 3
  else 4

/-- `PublishSetPrintSpeed`. -/
def publishSetPrintSpeed (culture : Culture) (host : Host) (mqtt : MQTTConnection)
    (bblLevel : Int32) : Option JsonElement :=
  publishCommand host mqtt "print" "print_speed" [("param", .string (culture.formatInt32 bblLevel))]

/-- `SetPrintSpeed_Internal`. -/
def setPrintSpeedInternal (culture : Culture) (host : Host) (mqtt : MQTTConnection)
    (speedPercent : Int32) : Option JsonElement :=
  publishSetPrintSpeed culture host mqtt (speedPercentToBBLLevel speedPercent)

/-- The preset percentage of a level, which the printer reports. -/
def presetOf (bblLevel : Int32) : Int32 :=
  if bblLevel = 1 then 50 else if bblLevel = 2 then 100 else if bblLevel = 3 then 124 else 166

end BambuLab

/-- What a failure of `SetPrintSpeed` is made of. -/
def MachineMessages.failedToSetPrintSpeed : OperationFailure where
  operationFailedId := some "machine.printspeed.failed"
  operationFailedTitle := some "Unable to Set Print Speed"
  manualResolve := 0
  autoResolve := default

/-- What `SetPrintSpeed` makes of its argument. -/
def clampedSpeed (speedPercent : Int32) : Int32 := max speedPercent 1

/-- The predicate of `SetPrintSpeed`. -/
def MachineState.hasPrintSpeed (speedPercent : Int32) (s : MachineState) : Bool :=
  s.currentJob.bind (·.printSpeedPercent) == some speedPercent

/-- How a call of `SetPrintSpeed` ends: what it has published, what it has seen, and its result. -/
inductive SetPrintSpeedEnds (culture : Culture) (host : Host) (mqtt : MQTTConnection)
    (speedPercent : Int32) (s : MachineState) : Option JsonElement →
    List (Event Unit InvokeException) → Except InvokeException MachineOperationResult → Prop
  | refused {result : MachineOperationResult}
    (h : s.opIfNotCapable .printSpeedControl = some result) :
    SetPrintSpeedEnds culture host mqtt speedPercent s none [] (.ok result)
  | operated {events : List (Event Unit InvokeException)} {exit : Exit Unit InvokeException}
    (h : s.opIfNotCapable .printSpeedControl = none)
    (hruns : Phase.Runs (.fromWholeSeconds 10) events (.completed exit)) :
    SetPrintSpeedEnds culture host mqtt speedPercent s
      (setPrintSpeedInternal culture host mqtt (clampedSpeed speedPercent)) events
      (operate MachineMessages.failedToSetPrintSpeed (.fromWholeSeconds 10) exit)

/-- A call of `SetPrintSpeed` is accepted in the one state, and it succeeds if it looks at the
other. -/
structure PrintSpeedSucceeds (culture : Culture) (host : Host) (mqtt : MQTTConnection)
    (speedPercent : Int32) (s s' : MachineState) : Prop where
  accepted : s.opIfNotCapable .printSpeedControl = none
  reached : s'.hasPrintSpeed (clampedSpeed speedPercent) = true
  succeeds : ∀ published events result elapsed,
    SetPrintSpeedEnds culture host mqtt speedPercent s published events result →
      .predicate (.ok (s'.hasPrintSpeed (clampedSpeed speedPercent))) elapsed ∈ events →
      result = .ok .ok

/-! ### The report -/

namespace BambuLab

/-- The speed that the section `print` reports. -/
def spdMag (printJSON : JsonElement) : Option Int32 :=
  (tryGetInt32 printJSON "spd_mag").toOption.join

/-- The speed that a message reports. -/
def reportedSpeed (root : JsonElement) : Option Int32 := (printOf root).bind spdMag

/-- The identifier of the print has what was packed when the print was started. -/
def carriesMetadata (culture : Culture) (host : Host) (printJSON : JsonElement) : Bool :=
  (tryGetString printJSON "subtask_id").toOption.join.any fun metadataID =>
    (PrefixedFixedLengthKeyValueMessage.tryParse host culture (some metadataID) "Lib3Dp").isSome

/-- The total time can be calculated from the progress and the remaining time. -/
def calculable (percent seconds : Int32) : Bool :=
  (tryCalculateTotalTime (TimeSpan.fromWholeSeconds seconds).totalSeconds
    (.ofInt percent.toInt)).toOption.join.isSome

/-- The section `print` describes a job: it has the name, the progress, the remaining time, and the
total time in one of two ways. -/
def describesJob (culture : Culture) (host : Host) (printJSON : JsonElement) : Bool :=
  (tryGetString printJSON "subtask_name").toOption.join.isSome &&
    (tryGetInt32 printJSON "mc_percent").toOption.join.any fun percent =>
      (tryGetInt32 printJSON "mc_remaining_time").toOption.join.any fun seconds =>
        carriesMetadata culture host printJSON || calculable percent seconds

end BambuLab

/-! ### Levels -/

theorem clampedSpeed_eq (speedPercent : Int32) :
    clampedSpeed speedPercent = if speedPercent ≤ 1 then 1 else speedPercent := rfl

theorem presetOf_speedPercentToBBLLevel (percent : Int32) :
    presetOf (speedPercentToBBLLevel percent) =
      if percent < 75 then 50
      else if percent < 115 then 100
      else if percent < 145 then 124
      else 166 := by
  unfold speedPercentToBBLLevel
  split_ifs <;> rfl

/-- The percentage of the level is the one that was asked for just for the presets. -/
theorem presetOf_eq_clampedSpeed_iff (speedPercent : Int32) :
    presetOf (speedPercentToBBLLevel (clampedSpeed speedPercent)) = clampedSpeed speedPercent ↔
      speedPercent ∈ bblSpeedPresets.map (·.2) := by
  have hpresets : speedPercent ∈ bblSpeedPresets.map (·.2) ↔
      speedPercent = 50 ∨ speedPercent = 100 ∨ speedPercent = 124 ∨ speedPercent = 166 := by
    simp [bblSpeedPresets]
  rw [hpresets, presetOf_speedPercentToBBLLevel, clampedSpeed_eq]
  grind

/-! ### What a message says about the job -/

/-- What the update says about the current job. -/
def MachineStateUpdate.jobUpdate (u : MachineStateUpdate) : PrintJobUpdate :=
  u.currentJob.value.getD default

namespace MachineStateUpdate

theorem createdJob_eq (u : MachineStateUpdate) : u.createdJob = u.jobUpdate.created := by
  rw [createdJob, NestedBuffer.created, jobUpdate]
  cases u.currentJob.value with
  | none => rfl
  | some ju => rfl

end MachineStateUpdate

namespace BambuLab

variable {α : Type} {u u' : MachineStateUpdate}

/-- A property that is written if the message has it. -/
theorem jobUpdate_of_run_forM {o : Option α} {write : α → PrintJobUpdate → PrintJobUpdate}
    (hrun : (o.forM fun a => updateCurrentJob (write a)).run u = .ok () u') :
    u'.jobUpdate = o.elim u.jobUpdate (write · u.jobUpdate) := by
  cases o with
  | none =>
    cases hrun
    rfl
  | some a =>
    cases hrun
    rfl

/-- A property that is not the one that is written. -/
theorem kept_of_run_forM {β : Type} (p : PrintJobUpdate → β) {o : Option α}
    {write : α → PrintJobUpdate → PrintJobUpdate}
    (hrun : (o.forM fun a => updateCurrentJob (write a)).run u = .ok () u')
    (hkept : ∀ a ju, p (write a ju) = p ju) : p u'.jobUpdate = p u.jobUpdate := by
  rw [jobUpdate_of_run_forM hrun]
  cases o with
  | none => rfl
  | some a => exact hkept a u.jobUpdate

/-- The second update says of the progress and the speed of the job what the first does, and it has
the total time if the first does. -/
structure SameProgress (u u' : MachineStateUpdate) : Prop where
  name : u'.jobUpdate.name = u.jobUpdate.name
  percentageComplete : u'.jobUpdate.percentageComplete = u.jobUpdate.percentageComplete
  remainingTime : u'.jobUpdate.remainingTime = u.jobUpdate.remainingTime
  printSpeedPercent : u'.jobUpdate.printSpeedPercent = u.jobUpdate.printSpeedPercent
  totalTime : u.jobUpdate.totalTime.isSet = true → u'.jobUpdate.totalTime.isSet = true

instance : IsPreorder MachineStateUpdate SameProgress where
  refl _ := ⟨rfl, rfl, rfl, rfl, id⟩
  trans _ _ _ h h' := ⟨h'.name.trans h.name, h'.percentageComplete.trans h.percentageComplete,
    h'.remainingTime.trans h.remainingTime, h'.printSpeedPercent.trans h.printSpeedPercent,
    fun hu => h'.totalTime (h.totalTime hu)⟩

/-- What was packed has the total time. -/
theorem sameProgress_readMetadata {host : Host} {serialNumber : NetString}
    {metadata : PrefixedFixedLengthKeyValueMessage}
    (hrun : (readMetadata host serialNumber metadata).run u = .ok () u') :
    SameProgress u u' ∧ u'.jobUpdate.totalTime.isSet = true := by
  unfold readMetadata at hrun
  obtain ⟨totalTime, -, hrun⟩ := exists_of_run_ofExcept_bind_ok hrun
  obtain ⟨path, -, hrun⟩ := exists_of_run_ofExcept_bind_ok hrun
  obtain ⟨hash, -, hrun⟩ := exists_of_run_ofExcept_bind_ok hrun
  obtain ⟨gramsUsed, -, hrun⟩ := exists_of_run_ofExcept_bind_ok hrun
  obtain ⟨_, u₁, hwrite, hrun⟩ := exists_of_run_bind_ok hrun
  cases hwrite
  have hrest : Changes SameProgress (do
      (metadata.tryGetValue "ThumbnailSmallHash").forM fun thumbnailHash =>
        updateCurrentJob fun job => { job with
          thumbnail :=
            job.thumbnail.set (some (handleAs3MFThumbnail serialNumber path (some thumbnailHash))) }
      (metadata.tryGetValue "CustomID").forM fun customID =>
        updateCurrentJob fun job => { job with customID := job.customID.set (some customID) }) :=
    .bind (.forOption (fun thumbnailHash => .modify fun u => ⟨rfl, rfl, rfl, rfl, id⟩) _) fun _ =>
      .forOption (fun customID => .modify fun u => ⟨rfl, rfl, rfl, rfl, id⟩) _
  have hkept := (hrest _).1 () u' hrun
  exact ⟨⟨hkept.name, hkept.percentageComplete, hkept.remainingTime, hkept.printSpeedPercent,
    fun _ => hkept.totalTime rfl⟩, hkept.totalTime rfl⟩

/-- The total time is unpacked if something was packed. -/
theorem sameProgress_unpack {culture : Culture} {host : Host} {serialNumber : NetString}
    {metadataID : Option String} (hu : u.jobUpdate.totalTime.isSet = false)
    (hrun : (metadataID.forM fun metadataID =>
      (PrefixedFixedLengthKeyValueMessage.tryParse host culture (some metadataID) "Lib3Dp").forM
        (readMetadata host serialNumber)).run u = .ok () u') :
    SameProgress u u' ∧ u'.jobUpdate.totalTime.isSet = metadataID.any fun metadataID =>
      (PrefixedFixedLengthKeyValueMessage.tryParse host culture (some metadataID)
        "Lib3Dp").isSome := by
  cases metadataID with
  | none =>
    cases hrun
    exact ⟨refl _, hu⟩
  | some metadataID =>
    simp only [Option.forM] at hrun
    rw [Option.any_some]
    cases hmetadata : PrefixedFixedLengthKeyValueMessage.tryParse host culture (some metadataID)
        "Lib3Dp" with
    | none =>
      rw [hmetadata] at hrun
      cases hrun
      exact ⟨refl _, hu⟩
    | some metadata =>
      rw [hmetadata] at hrun
      exact sameProgress_readMetadata hrun

/-- The update has what a total time can be calculated from. -/
def calculates (ju : PrintJobUpdate) : Bool :=
  ju.percentageComplete.isSet && ju.remainingTime.isSet &&
    (tryCalculateTotalTime ju.remainingTime.value.totalSeconds
      (.ofInt ju.percentageComplete.value.toInt)).toOption.join.isSome

/-- A total time is calculated, where that is possible. -/
theorem sameProgress_calculateTotalTime (hrun : calculateTotalTime.run u = .ok () u') :
    SameProgress u u' ∧ u'.jobUpdate.totalTime.isSet =
      (u.jobUpdate.totalTime.isSet || calculates u.jobUpdate) := by
  have hget : (get : EStateM Fault MachineStateUpdate _).run u = .ok u u := rfl
  rw [calculateTotalTime, run_bind_ok hget] at hrun
  cases hvalue : u.currentJob.value with
  | none =>
    have hjob : u.jobUpdate = default := by rw [MachineStateUpdate.jobUpdate, hvalue]; rfl
    rw [hvalue] at hrun
    cases hrun
    exact ⟨refl _, by rw [hjob]; rfl⟩
  | some job =>
    have hjob : u.jobUpdate = job := by rw [MachineStateUpdate.jobUpdate, hvalue]; rfl
    rw [hvalue] at hrun
    dsimp only at hrun
    rw [hjob, calculates]
    cases hset : job.percentageComplete.isSet && job.remainingTime.isSet with
    | false =>
      rw [hset, if_neg Bool.false_ne_true] at hrun
      cases hrun
      exact ⟨refl _, by rw [hjob, Bool.false_and, Bool.or_false]⟩
    | true =>
      rw [hset, if_pos rfl] at hrun
      obtain ⟨calculated, hcalculated, hrun⟩ := exists_of_run_ofExcept_bind_ok hrun
      rw [hcalculated]
      cases calculated with
      | none =>
        cases hrun
        exact ⟨refl _, by rw [hjob]; exact (Bool.or_false _).symm⟩
      | some calculated =>
        cases hrun
        exact ⟨⟨rfl, rfl, rfl, rfl, fun _ => rfl⟩, (Bool.or_true _).symm⟩

/-- What a message says about the progress and the speed of the job. -/
structure TellsProgress (printJSON : JsonElement) (u : MachineStateUpdate) : Prop where
  name : u.jobUpdate.name.isSet = (tryGetString printJSON "subtask_name").toOption.join.isSome
  percentageComplete : u.jobUpdate.percentageComplete =
    (tryGetInt32 printJSON "mc_percent").toOption.join.elim default (⟨·, true⟩)
  remainingTime : u.jobUpdate.remainingTime =
    (tryGetInt32 printJSON "mc_remaining_time").toOption.join.elim default
      (⟨.fromWholeSeconds ·, true⟩)
  printSpeedPercent : u.jobUpdate.printSpeedPercent =
    (spdMag printJSON).elim default (⟨some ·, true⟩)

theorem SameProgress.tellsProgress {printJSON : JsonElement} (h : SameProgress u u')
    (hu : TellsProgress printJSON u) : TellsProgress printJSON u' := by
  refine ⟨?_, h.percentageComplete.trans hu.percentageComplete,
    h.remainingTime.trans hu.remainingTime, h.printSpeedPercent.trans hu.printSpeedPercent⟩
  rw [h.name]
  exact hu.name

/-- The update makes a job if it has the total time, too. -/
theorem TellsProgress.isCreatable {culture : Culture} {host : Host} {printJSON : JsonElement}
    (h : TellsProgress printJSON u) (htotal : u.jobUpdate.totalTime.isSet =
      (carriesMetadata culture host printJSON || calculates u.jobUpdate)) :
    u.jobUpdate.isCreatable = describesJob culture host printJSON := by
  have hpercent : (default : ScalarBuffer Int32).isSet = false := rfl
  have hseconds : (default : ScalarBuffer TimeSpan).isSet = false := rfl
  rw [PrintJobUpdate.isCreatable, htotal, calculates, h.name, h.percentageComplete,
    h.remainingTime, describesJob]
  cases (tryGetInt32 printJSON "mc_percent").toOption.join with
  | none => simp [hpercent]
  | some percent =>
    cases (tryGetInt32 printJSON "mc_remaining_time").toOption.join with
    | none => simp [hseconds]
    | some seconds => simp [calculable]

theorem tellsProgress_onMessagePrintJob {culture : Culture} {host : Host}
    {serialNumber : NetString} {printJSON : JsonElement} (hu : u.jobUpdate = default)
    (hrun : (onMessagePrintJob culture host serialNumber printJSON).run u = .ok () u') :
    TellsProgress printJSON u' ∧
      u'.jobUpdate.isCreatable = describesJob culture host printJSON := by
  unfold onMessagePrintJob at hrun
  obtain ⟨percent, hpercent, hrun⟩ := exists_of_run_ofExcept_bind_ok hrun
  obtain ⟨_, u₁, h₁, hrun⟩ := exists_of_run_bind_ok hrun
  obtain ⟨stage, hstage, hrun⟩ := exists_of_run_ofExcept_bind_ok hrun
  obtain ⟨_, u₂, h₂, hrun⟩ := exists_of_run_bind_ok hrun
  obtain ⟨name, hname, hrun⟩ := exists_of_run_ofExcept_bind_ok hrun
  obtain ⟨_, u₃, h₃, hrun⟩ := exists_of_run_bind_ok hrun
  obtain ⟨seconds, hseconds, hrun⟩ := exists_of_run_ofExcept_bind_ok hrun
  obtain ⟨_, u₄, h₄, hrun⟩ := exists_of_run_bind_ok hrun
  obtain ⟨speed, hspeed, hrun⟩ := exists_of_run_ofExcept_bind_ok hrun
  obtain ⟨_, u₅, h₅, hrun⟩ := exists_of_run_bind_ok hrun
  obtain ⟨metadataID, hmetadataID, hrun⟩ := exists_of_run_ofExcept_bind_ok hrun
  obtain ⟨_, u₆, h₆, hrun⟩ := exists_of_run_bind_ok hrun
  have hwritten : TellsProgress printJSON u₅ ∧ u₅.jobUpdate.totalTime.isSet = false := by
    refine ⟨⟨?_, ?_, ?_, ?_⟩, ?_⟩
    · rw [kept_of_run_forM (·.name) h₅ fun _ _ => rfl, kept_of_run_forM (·.name) h₄ fun _ _ => rfl,
        jobUpdate_of_run_forM h₃, hname]
      cases name with
      | none =>
        rw [Option.elim_none, kept_of_run_forM (·.name) h₂ fun _ _ => rfl,
          kept_of_run_forM (·.name) h₁ fun _ _ => rfl, hu]
        rfl
      | some name => rfl
    · rw [kept_of_run_forM (·.percentageComplete) h₅ fun _ _ => rfl,
        kept_of_run_forM (·.percentageComplete) h₄ fun _ _ => rfl,
        kept_of_run_forM (·.percentageComplete) h₃ fun _ _ => rfl,
        kept_of_run_forM (·.percentageComplete) h₂ fun _ _ => rfl, jobUpdate_of_run_forM h₁, hu,
        hpercent]
      cases percent with
      | none => rfl
      | some percent => rfl
    · rw [kept_of_run_forM (·.remainingTime) h₅ fun _ _ => rfl, jobUpdate_of_run_forM h₄, hseconds]
      cases seconds with
      | none =>
        rw [Option.elim_none, kept_of_run_forM (·.remainingTime) h₃ fun _ _ => rfl,
          kept_of_run_forM (·.remainingTime) h₂ fun _ _ => rfl,
          kept_of_run_forM (·.remainingTime) h₁ fun _ _ => rfl, hu]
        rfl
      | some seconds => rfl
    · rw [jobUpdate_of_run_forM h₅, spdMag, hspeed]
      cases speed with
      | none =>
        rw [Option.elim_none, kept_of_run_forM (·.printSpeedPercent) h₄ fun _ _ => rfl,
          kept_of_run_forM (·.printSpeedPercent) h₃ fun _ _ => rfl,
          kept_of_run_forM (·.printSpeedPercent) h₂ fun _ _ => rfl,
          kept_of_run_forM (·.printSpeedPercent) h₁ fun _ _ => rfl, hu]
        rfl
      | some speed => rfl
    · rw [kept_of_run_forM (·.totalTime) h₅ fun _ _ => rfl,
        kept_of_run_forM (·.totalTime) h₄ fun _ _ => rfl,
        kept_of_run_forM (·.totalTime) h₃ fun _ _ => rfl,
        kept_of_run_forM (·.totalTime) h₂ fun _ _ => rfl,
        kept_of_run_forM (·.totalTime) h₁ fun _ _ => rfl, hu]
      rfl
  obtain ⟨hkept, hmetadata⟩ := sameProgress_unpack hwritten.2 h₆
  obtain ⟨hsame, htotal⟩ := sameProgress_calculateTotalTime hrun
  have htold := hkept.tellsProgress hwritten.1
  have hcalculates : calculates u'.jobUpdate = calculates u₆.jobUpdate := by
    rw [calculates, calculates, hsame.percentageComplete, hsame.remainingTime]
  refine ⟨hsame.tellsProgress htold, (hsame.tellsProgress htold).isCreatable ?_⟩
  rw [htotal, hmetadata, hcalculates, carriesMetadata, hmetadataID]
  rfl

/-! ### The sections before the job -/

/-- The second reading says of the job what the first does. -/
def SameJob (data data' : BBLMQTTData) : Prop := data'.changes.currentJob = data.changes.currentJob

instance : IsPreorder BBLMQTTData SameJob where
  refl _ := rfl
  trans _ _ _ h h' := Eq.trans h' h

theorem sameJob_change {f : MachineStateUpdate → MachineStateUpdate}
    (hf : ∀ u, (f u).currentJob = u.currentJob) : Changes SameJob (BBLMQTTData.change f) :=
  .modify fun data => hf data.changes

theorem sameJob_notify (host : Host) (message : MachineMessage) :
    Changes SameJob (BBLMQTTData.notify host message) := by
  intro data
  have hget : (get : EStateM Fault BBLMQTTData _).run data = .ok data data := rfl
  rw [BBLMQTTData.notify, run_bind_ok hget]
  cases hset : data.changes.setNotifications host.utcNow message with
  | error f => exact Changes.ofExcept (.error f) data
  | ok u =>
    refine ⟨fun _ data' hrun => ?_, fun f data' hrun => ?_⟩
    · cases hrun
      have hextends : data.changes.Extends u := MachineStateUpdate.extends_setNotifications u hset
      exact hextends.currentJob
    · cases hrun

theorem sameJob_onPrintError (host : Host) (printError : Int32) :
    Changes SameJob (onPrintError host printError) := by
  have hnotify : ∀ (covered : BBLMQTTData → Bool) (data : BBLMQTTData), Changes SameJob
      (if (!covered data) = true then
        BBLMQTTData.notify host (printErrorMessage (formatInt32X8 printError)) else pure ()) := by
    intro covered data
    split
    · exact sameJob_notify host _
    · exact .pure _
  unfold onPrintError
  split
  · refine .get_bind fun data => ?_
    dsimp only
    split
    · exact .bind (sameJob_change fun u => rfl) fun _ => .get_bind (hnotify _)
    · exact .get_bind (hnotify _)
  · exact sameJob_change fun u => rfl

/-- What `OnMessage` reads before the job. -/
theorem sameJob_sectionsBeforeJob (context : MessageContext) (printJSON : JsonElement) :
    Changes SameJob (do
      onMessagePrintMQTTSecurity printJSON
      onMessagePrintSDCard printJSON
      onMessagePrintHMS context.host printJSON
      onMessagePrintGcodeState context printJSON) := by
  have hsecurity : Changes SameJob (onMessagePrintMQTTSecurity printJSON) := by
    unfold onMessagePrintMQTTSecurity
    refine .bind (.ofExcept _) fun failed => .bind (.ofExcept _) fun reason => ?_
    split
    · exact .modify fun data => rfl
    · exact .pure _
  have hhms : Changes SameJob (onMessagePrintHMS context.host printJSON) := by
    unfold onMessagePrintHMS
    refine .ofExcept_forM fun hmsArray => .bind (.modify fun data => rfl) fun _ =>
      .bind (.ofExcept _) fun entries => .forM (fun entry => ?_) entries
    unfold onHMSEntry
    refine .bind (.ofExcept _) fun numbers => ?_
    split
    · exact .pure _
    · exact .bind (.modify fun data => rfl) fun _ => sameJob_notify context.host _
  have hstatus : Changes SameJob (onMessagePrintGcodeState context printJSON) := by
    unfold onMessagePrintGcodeState
    refine .bind (.ofExcept _) fun gcodeState => .bind (.forOption (fun gcodeState => ?_) _)
      fun _ => .ofExcept_forM (sameJob_onPrintError context.host)
    exact .bind (.ofExcept _) fun status => sameJob_change fun u => rfl
  exact .bind hsecurity fun _ => .bind (.ofExcept_forM fun sdcard => .modify fun data => rfl)
    fun _ => .bind hhms fun _ => hstatus

/-! ### The message -/

/-- What a message says of the job, and whether it makes one. -/
structure TellsJob (culture : Culture) (host : Host) (printJSON : JsonElement)
    (ju : PrintJobUpdate) : Prop where
  isCreatable : ju.isCreatable = describesJob culture host printJSON
  printSpeedPercent : ju.printSpeedPercent = (spdMag printJSON).elim default (⟨some ·, true⟩)

theorem tellsJob_onMessagePrint {context : MessageContext} {printJSON : JsonElement}
    {data : BBLMQTTData} (hrun : (onMessagePrint context printJSON).run default = .ok () data) :
    TellsJob context.culture context.host printJSON data.changes.jobUpdate := by
  have hsections : onMessagePrint context printJSON = (do
      (do
        onMessagePrintMQTTSecurity printJSON
        onMessagePrintSDCard printJSON
        onMessagePrintHMS context.host printJSON
        onMessagePrintGcodeState context printJSON)
      measuringSections context printJSON) := by
    simp only [onMessagePrint_eq, bind_assoc]
  rw [hsections] at hrun
  obtain ⟨_, data₁, hbefore, hrun⟩ := exists_of_run_bind_ok hrun
  obtain ⟨_, data₂, hjob, hrun⟩ := exists_of_run_bind_ok hrun
  have hnone : data₁.changes.jobUpdate = default := by
    have hsame : data₁.changes.currentJob = default :=
      (sameJob_sectionsBeforeJob context printJSON default).1 () data₁ hbefore
    rw [MachineStateUpdate.jobUpdate, hsame]
    rfl
  have hafter : data.changes.jobUpdate = data₂.changes.jobUpdate := by
    have hbeside := (besideJob_sectionsAfterJob context printJSON data₂).1 () data hrun
    rw [MachineStateUpdate.jobUpdate, hbeside.currentJob]
    rfl
  rw [hafter]
  cases hread : (onMessagePrintJob context.culture context.host context.serialNumber
      printJSON).run data₁.changes with
  | error f u =>
    rw [run_onField_error hread] at hjob
    cases hjob
  | ok _ u =>
    rw [run_onField_ok hread] at hjob
    cases hjob
    obtain ⟨htells, hcreatable⟩ := tellsProgress_onMessagePrintJob hnone hread
    exact ⟨hcreatable, htells.printSpeedPercent⟩

/-- **A message that reports a speed** says so of the job. -/
theorem tellsJob_onMessage {culture : Culture} {toLower : String → String} {host : Host}
    {model : NetString} {root : JsonElement} {mqtt mqtt' : BBLMQTTConnection} {data : BBLMQTTData}
    {speed : Int32} (hrun : (onMessage culture toLower host model root).run mqtt = .ok data mqtt')
    (hspeed : reportedSpeed root = some speed) : ∃ printJSON, printOf root = some printJSON ∧
      data.changes.jobUpdate.isCreatable = describesJob culture host printJSON ∧
      data.changes.jobUpdate.printSpeedPercent = ⟨some speed, true⟩ := by
  obtain ⟨data₁, firmwareVersion, hdata, rfl⟩ := exists_readPrint_of_run_onMessage hrun
  obtain ⟨hproperty, rfl⟩ | ⟨printJSON, hproperty, hprint⟩ := readPrint_cases hdata
  · rw [reportedSpeed, printOf, hproperty] at hspeed
    cases hspeed
  · have hprintOf : printOf root = some printJSON := by
      rw [printOf, hproperty]
      rfl
    have htells := tellsJob_onMessagePrint hprint
    have hspd : spdMag printJSON = some speed := by
      rw [reportedSpeed, hprintOf] at hspeed
      exact hspeed
    exact ⟨printJSON, hprintOf, htells.isCreatable, by rw [htells.printSpeedPercent, hspd]; rfl⟩

end BambuLab

/-! ### The call -/

/-- A call whose predicate holds succeeds. -/
theorem Phase.advance_predicate_true {T E : Type} {timeout elapsed : TimeSpan} {count count' : ℕ}
    {phase phase' : Phase T E}
    (h : phase.advance timeout count (.predicate (.ok true) elapsed) = some (count', phase')) :
    ∃ invokeReturn, phase' = .completed (.succeeded elapsed invokeReturn) := by
  generalize he : (.predicate (.ok true) elapsed : Event T E) = e at h
  unfold advance at h
  split at h
  case h_5 invokeReturn elapsed =>
    cases he
    cases h
    exact ⟨invokeReturn, rfl⟩
  case h_9 => cases h
  all_goals cases he

/-- A call that has seen its predicate hold has succeeded. -/
theorem Phase.Runs.succeeded {T E : Type} {timeout : TimeSpan} {events : List (Event T E)}
    {phase : Phase T E} {elapsed : TimeSpan} (h : Runs timeout events phase)
    (hmem : .predicate (.ok true) elapsed ∈ events) :
    ∃ invokeReturn, phase = .completed (.succeeded elapsed invokeReturn) := by
  induction h with
  | start => cases hmem
  | @step events phase phase' count' count e hruns hadvance ih =>
    rcases List.mem_append.mp hmem with hmem | hmem
    · obtain ⟨invokeReturn, rfl⟩ := ih hmem
      cases hadvance
    · obtain rfl := List.mem_singleton.mp hmem
      exact advance_predicate_true hadvance

/-- A call that is accepted succeeds if it looks at a state with the speed. -/
theorem printSpeedSucceeds_iff {culture : Culture} {host : Host} {mqtt : MQTTConnection}
    {speedPercent : Int32} {s s' : MachineState}
    (hcapable : s.opIfNotCapable .printSpeedControl = none) :
    PrintSpeedSucceeds culture host mqtt speedPercent s s' ↔
      s'.hasPrintSpeed (clampedSpeed speedPercent) = true := by
  refine ⟨fun h => h.reached, fun hreached => ⟨hcapable, hreached, ?_⟩⟩
  intro published events result elapsed hends hmem
  rw [hreached] at hmem
  cases hends with
  | refused h => cases hmem
  | operated h hruns =>
    obtain ⟨invokeReturn, hexit⟩ := hruns.succeeded hmem
    cases hexit
    rfl

namespace BBLMachineConnection

variable {Cron : Type} [DecidableEq Cron] [Hashable (HeatingSchedule Cron)]
  [Hashable (ScheduledPrint Cron)]

omit [DecidableEq Cron] [Hashable (HeatingSchedule Cron)] [Hashable (ScheduledPrint Cron)] in
/-- The part for the storage leaves the job alone. -/
theorem currentJob_reportStorage (c : BBLMachineConnection Cron) (host : Host)
    (data : BBLMQTTData) :
    Yields (c.reportStorage host data) (·.currentJob = data.changes.currentJob) := by
  unfold reportStorage
  split
  · dsimp only
    split_ifs
    · exact .pure rfl
    · exact fun u hset => (MachineStateUpdate.extends_setNotifications u hset).currentJob
    · exact .pure rfl
    · exact .pure rfl
  · exact .pure rfl

/-- The job after a message: the one that it makes, or the one before. -/
theorem currentJob_mqttOnData {culture : Culture} {data : BBLMQTTData}
    (hdata : data.changes.Harmless) (host : Host) (env : Environment Cron)
    (c : BBLMachineConnection Cron) :
    (finalState ((mqttOnData culture host env data).run c)).machine.state.currentJob =
      data.changes.jobUpdate.created.or c.machine.state.currentJob := by
  obtain ⟨v, hv, hleaves, stale, hu, -⟩ := c.exists_dataUpdate_eq culture host data
  have hharmless := harmless_of_leavesHMS hleaves hdata ((c.remember data).capabilities data) stale
  obtain ⟨machine, hsame, hstate⟩ :=
    MachineConnection.state_commitStep_of_harmless (commitStep_mqttOnData hu) hharmless
  have hjob : v.jobUpdate = data.changes.jobUpdate := by
    rw [MachineStateUpdate.jobUpdate, c.currentJob_reportStorage host data v hv]
    rfl
  rw [hstate, show c.machine.state = machine.state from hsame.symm, ← hjob,
    ← MachineStateUpdate.createdJob_eq]
  rfl

/-- Whether the predicate holds after a message that reports a speed. -/
theorem hasPrintSpeed_mqttOnData {culture : Culture} {toLower : String → String} {host : Host}
    {model : NetString} {root : JsonElement} {mqtt mqtt' : BBLMQTTConnection} {data : BBLMQTTData}
    {speed : Int32} (hrun : (onMessage culture toLower host model root).run mqtt = .ok data mqtt')
    (hreport : reportedSpeed root = some speed) (env : Environment Cron)
    (c : BBLMachineConnection Cron) (speedPercent : Int32) :
    (finalState ((mqttOnData culture host env data).run c)).machine.state.hasPrintSpeed
        speedPercent =
      if (printOf root).any (describesJob culture host) then speed == speedPercent
      else c.machine.state.hasPrintSpeed speedPercent := by
  obtain ⟨printJSON, hprint, hcreatable, hspeed⟩ := tellsJob_onMessage hrun hreport
  have hharmless := (run_onMessage hrun).consistent.harmless
  rw [MachineState.hasPrintSpeed, currentJob_mqttOnData hharmless host env c, hprint,
    Option.any_some, ← hcreatable, PrintJobUpdate.created]
  cases data.changes.jobUpdate.isCreatable with
  | false =>
    rw [if_neg Bool.false_ne_true, if_neg Bool.false_ne_true]
    rfl
  | true =>
    have hjob : (data.changes.jobUpdate.applyScalars default).printSpeedPercent = some speed := by
      rw [PrintJobUpdate.applyScalars, hspeed]
      rfl
    rw [if_pos rfl, if_pos rfl, Option.some_or, Option.bind_some, hjob]
    rfl

/-- **Setting the speed succeeds** once the printer reports the percentage of the level, just when
the report makes a job and the speed is one of the presets, or it makes none and the job before has
the speed already. -/
theorem setPrintSpeed_succeeds_iff {culture : Culture} {toLower : String → String} {host : Host}
    {model : NetString} {root : JsonElement} {mqtt mqtt' : BBLMQTTConnection} {data : BBLMQTTData}
    {c : BBLMachineConnection Cron} {speedPercent : Int32}
    (hcapable : c.machine.state.opIfNotCapable .printSpeedControl = none)
    (hrun : (onMessage culture toLower host model root).run mqtt = .ok data mqtt')
    (hreport : reportedSpeed root =
      some (presetOf (speedPercentToBBLLevel (clampedSpeed speedPercent))))
    (now : Host) (env : Environment Cron) :
    PrintSpeedSucceeds culture now c.mqtt.toMQTTConnection speedPercent c.machine.state
        (finalState ((mqttOnData culture host env data).run c)).machine.state ↔
      if (printOf root).any (describesJob culture host) then
        speedPercent ∈ bblSpeedPresets.map (·.2)
      else c.machine.state.hasPrintSpeed (clampedSpeed speedPercent) = true := by
  rw [printSpeedSucceeds_iff hcapable, hasPrintSpeed_mqttOnData hrun hreport env]
  split
  · rw [beq_iff_eq, presetOf_eq_clampedSpeed_iff]
  · rfl

/-- A printer that is printing something. -/
private def printing : BBLMachineConnection Unit where
  machine :=
    { self := default
      state := { (default : MachineState) with
        capabilities := .printSpeedControl
        currentJob := some default }
      heap := default
      scheduler := ⟨[], false, 0⟩ }
  mqtt := .initial none
  settingsModel := none
  firmwareVersion := none
  prevUsesUnsupportedSecurity := false
  hasUSBOrSDCard := false
  isUSBOrSDCardRequired := false

/-- A report of a job half of which is done, at the normal speed. -/
private def halfDone : JsonElement :=
  .object [("print", .object [("mc_percent", jsonNumber 50), ("subtask_name", .string "Cube"),
    ("mc_remaining_time", jsonNumber 60), ("spd_mag", jsonNumber 100)])]

private theorem exists_halfDone : ∃ data mqtt',
    (onMessage .ordinal id default none halfDone).run (.initial none) = .ok data mqtt' := by
  have hread : returned ((onMessage .ordinal id default none halfDone).run
      (.initial none)) = true := by decide +kernel
  exact exists_of_returned hread

/-- The report makes a job. -/
private theorem describesJob_halfDone :
    (printOf halfDone).any (describesJob .ordinal default) = true := by
  decide +kernel

/-- Setting the normal speed. -/
theorem setPrintSpeed_succeeds_iff_normal : ∃ data,
    PrintSpeedSucceeds .ordinal default printing.mqtt.toMQTTConnection 100 printing.machine.state
      (finalState ((mqttOnData .ordinal default ⟨default, fun _ => none⟩ data).run
        printing)).machine.state := by
  obtain ⟨data, mqtt', hrun⟩ := exists_halfDone
  refine ⟨data, (setPrintSpeed_succeeds_iff (by decide) hrun (by decide) default
    ⟨default, fun _ => none⟩).mpr ?_⟩
  rw [if_pos describesJob_halfDone]
  decide

/-- A speed between the presets is never reached. -/
theorem setPrintSpeed_fails : ¬ ∀ (culture : Culture) (toLower : String → String) (host : Host)
    (model : NetString) (root : JsonElement) (mqtt mqtt' : BBLMQTTConnection) (data : BBLMQTTData)
    (c : BBLMachineConnection Unit) (speedPercent : Int32) (now : Host) (env : Environment Unit),
    c.machine.state.currentJob.isSome = true →
    c.machine.state.opIfNotCapable .printSpeedControl = none →
    (onMessage culture toLower host model root).run mqtt = .ok data mqtt' →
    reportedSpeed root = some (presetOf (speedPercentToBBLLevel (clampedSpeed speedPercent))) →
    PrintSpeedSucceeds culture now c.mqtt.toMQTTConnection speedPercent c.machine.state
      (finalState ((mqttOnData culture host env data).run c)).machine.state := by
  intro hall
  obtain ⟨data, mqtt', hrun⟩ := exists_halfDone
  have hreached := (hall .ordinal id default none halfDone (.initial none) mqtt' data printing 80
    default ⟨default, fun _ => none⟩ rfl (by decide) hrun (by decide)).reached
  have hreport : reportedSpeed halfDone = some 100 := by decide
  rw [hasPrintSpeed_mqttOnData hrun hreport, if_pos describesJob_halfDone] at hreached
  exact absurd hreached (by decide)

end BBLMachineConnection

end Connect3Dp
