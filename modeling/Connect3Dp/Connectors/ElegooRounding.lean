import Connect3Dp.Connectors.Elegoo
import Connect3Dp.Runtime.Rounding

/-!
# `MapPrintInfo` with a rounding hook

The functions of the ELEGOO connector that compute with doubles, with a hook `rnd` through which the
results pass. Under the runtime's hook they are the functions of the connector
(`mapPrintInfo_ofRat`).
-/

namespace Connect3Dp

namespace Elegoo

namespace Rounded

variable (rnd : ℚ → Double)

def readTicks (printInfo : JsonElement) (name : String) : Except Fault Double := do
  match ← printInfo.tryGetPropertyIgnoreCase name with
  | some (.number n) => (JsonElement.number n).getInt64OrDoubleWith rnd
  | _ => return .finite 0

def tryGetPrintTickDurations (printInfo : JsonElement) :
    Except Fault (Option (Double × Double × Bool)) := do
  let current ← readTicks rnd printInfo "CurrentTicks"
  let total ← readTicks rnd printInfo "TotalTicks"
  if !Double.lt (.finite 0) total then return none
  return some (current, total, !total.lt (.finite 100000))

def readSeconds (printInfo : JsonElement) (name : String) : Except Fault TimeSpan := do
  match ← printInfo.tryGetPropertyIgnoreCase name with
  | some (.number n) =>
    let seconds ← (JsonElement.number n).getInt64OrDoubleWith rnd
    if seconds.lt (.finite 0) then return .zero
    else TimeSpan.intervalWith rnd seconds TimeSpan.ticksPerSecond
  | _ => return .zero

/-- The property `Progress`. -/
def readReported : JsonElement → Except Fault Int32
  | .number n =>
    match n.int32 with
    | some p => return p
    | none => return n.double.toInt32
  | _ => return 0

def readProgress (printInfo : JsonElement) (ticks : Option (Double × Double × Bool))
    (currentLayer totalLayer : Int32) (mappedStatus : MachineStatus) : Except Fault Int32 := do
  let progress ← match ticks with
    | some (current, total, _) =>
      pure ((Double.divWith rnd (Double.mulWith rnd current (.finite 100)) total).round.clamp
        (.finite 0) (.finite 100)).toInt32
    | none => printInfo.readOr "Progress" 0 readReported
  let progress := if progress = 0 ∧ 0 < totalLayer then
    (Double.divWith rnd (Double.mulWith rnd (rnd currentLayer.toInt) (.finite 100))
      (rnd totalLayer.toInt)).toInt32 else progress
  return if mappedStatus = .printed then 100 else progress

def readTimes (printInfo : JsonElement) (ticks : Option (Double × Double × Bool))
    (progress : Int32) : Except Fault (TimeSpan × TimeSpan) := do
  let (remainingTime, totalTime) ← match ticks with
    | some (current, total, areMilliseconds) => do
      let remaining := Double.max (.finite 0) (Double.subWith rnd total current)
      let ticksPerUnit := if areMilliseconds then TimeSpan.ticksPerMillisecond
        else TimeSpan.ticksPerSecond
      let totalTime ← TimeSpan.intervalWith rnd total ticksPerUnit
      let remainingTime ← TimeSpan.intervalWith rnd remaining ticksPerUnit
      pure (remainingTime, totalTime)
    | none => do
      let remainingTime ← readSeconds rnd printInfo "RemainingTime"
      let totalTime ← readSeconds rnd printInfo "TotalTime"
      pure (remainingTime, totalTime)
  if totalTime = .zero ∧ remainingTime.isPositive ∧ 0 < progress then
    let left := Double.subWith rnd (.finite 1)
      (Double.divWith rnd (rnd progress.toInt) (.finite 100))
    let seconds := Double.divWith rnd (remainingTime.totalSecondsWith rnd) left
    return (remainingTime, ← TimeSpan.intervalWith rnd seconds TimeSpan.ticksPerSecond)
  return (remainingTime, totalTime)

def mapActiveJob (printInfo : JsonElement) (mappedStatus : MachineStatus) :
    Except Fault (PrintJobUpdate → PrintJobUpdate) := do
  let filename ← printInfo.readOr "Filename" "" fun f => return (← f.getString).getD ""
  let currentLayer ← printInfo.readOr "CurrentLayer" 0 JsonElement.getInt32
  let totalLayer ← printInfo.readOr "TotalLayer" 0 JsonElement.getInt32
  let ticks ← tryGetPrintTickDurations rnd printInfo
  let progress ← readProgress rnd printInfo ticks currentLayer totalLayer mappedStatus
  let (remainingTime, totalTime) ← readTimes rnd printInfo ticks progress
  let jobName := getFileNameWithoutExtension filename
  let displayName := if jobName = "" then "Unknown" else jobName
  let subStage := if 0 < totalLayer then
    some s!"Layer {currentLayer.toInt}/{totalLayer.toInt}" else none
  let customID ← printInfo.readOr "TaskId" none JsonElement.getString
  return fun job => { job with
    name := job.name.set (some displayName)
    percentageComplete := job.percentageComplete.set (clampInt32 progress 0 100)
    remainingTime := job.remainingTime.set remainingTime
    totalTime := job.totalTime.set totalTime
    localPath := job.localPath.set (some filename)
    subStage := if subStage.isSome then job.subStage.set subStage else job.subStage
    customID := if customID.isSome then job.customID.set customID else job.customID }

def mapPrintInfo (s : MachineState) (status : JsonElement) (u : MachineStateUpdate) :
    Except Fault MachineStateUpdate := do
  let _ ← readCurrentStatus status
  match ← status.tryGetProperty "PrintInfo" with
  | none =>
    return if s.status = .printing ∧ s.currentJob ≠ none then u.setStatus .printed
      else u.setStatus .idle
  | some printInfo =>
    let mappedStatus ← readPrintStatus printInfo
    let u := u.setStatus mappedStatus
    let isActive := mappedStatus = .printing ∨ mappedStatus = .paused
    let justEnded := mappedStatus = .printed ∨ mappedStatus = .canceled
    if isActive ∨ justEnded then
      return u.updateCurrentJob (← mapActiveJob rnd printInfo mappedStatus)
    else return u.unsetCurrentJob

/-! ### The runtime's hook -/

theorem readSeconds_ofRat (printInfo : JsonElement) (name : String) :
    readSeconds .ofRat printInfo name = Elegoo.readSeconds printInfo name := by
  unfold readSeconds Elegoo.readSeconds
  simp only [TimeSpan.intervalWith_ofRat]
  rfl

theorem readProgress_ofRat (printInfo : JsonElement) (ticks : Option (Double × Double × Bool))
    (currentLayer totalLayer : Int32) (mappedStatus : MachineStatus) :
    readProgress .ofRat printInfo ticks currentLayer totalLayer mappedStatus =
      Elegoo.readProgress printInfo ticks currentLayer totalLayer mappedStatus := by
  unfold readProgress Elegoo.readProgress
  simp only [Double.mulWith_ofRat, Double.divWith_ofRat]
  rfl

theorem readTimes_ofRat (printInfo : JsonElement) (ticks : Option (Double × Double × Bool))
    (progress : Int32) :
    readTimes .ofRat printInfo ticks progress = Elegoo.readTimes printInfo ticks progress := by
  unfold readTimes Elegoo.readTimes
  simp only [TimeSpan.intervalWith_ofRat, TimeSpan.totalSecondsWith_ofRat, Double.subWith_ofRat,
    Double.divWith_ofRat, readSeconds_ofRat]
  cases ticks with
  | none => rfl
  | some ticks =>
    obtain ⟨current, total, areMilliseconds⟩ := ticks
    cases areMilliseconds <;> rfl

/-- **Under the runtime's hook** `MapPrintInfo` is the function of the connector. -/
theorem mapPrintInfo_ofRat (s : MachineState) (status : JsonElement) (u : MachineStateUpdate) :
    mapPrintInfo .ofRat s status u = Elegoo.mapPrintInfo s status u := by
  unfold mapPrintInfo mapActiveJob
  simp only [readProgress_ofRat, readTimes_ofRat]
  rfl

end Rounded

end Elegoo

end Connect3Dp
