import Connect3Dp.Builder.LastCall
import Connect3Dp.State.Setters

/-!
# The last call on an update

The builder methods of the dictionaries with plain values and of the sets of a state, and what
`AppendUpdate` makes of a sequence of calls of them, whatever else the update was given in
between. The heap does not change between the calls and the application: both happen inside one
commit.
-/

namespace Connect3Dp

/-- The dictionary properties of a state whose values are plain, by the type of their values. -/
inductive PlainDictionary : Type → Type 1
  | fans : PlainDictionary Int32
  | lights : PlainDictionary Bool
  | heatingElements : PlainDictionary HeatingElement
  | speedPresets : PlainDictionary Int32

namespace PlainDictionary

variable {V : Type}

def read : PlainDictionary V → MachineState → Dictionary String V
  | fans => MachineState.fans
  | lights => MachineState.lights
  | heatingElements => MachineState.heatingElements
  | speedPresets => MachineState.speedPresets

def buffer : PlainDictionary V → MachineStateUpdate → DictionaryBuffer String V
  | fans => MachineStateUpdate.fans
  | lights => MachineStateUpdate.lights
  | heatingElements => MachineStateUpdate.heatingElements
  | speedPresets => MachineStateUpdate.speedPresets

/-- `SetX(key, val)`. -/
def set : PlainDictionary V → String → V → MachineStateUpdate → MachineStateUpdate
  | fans => MachineStateUpdate.setFans
  | lights => MachineStateUpdate.setLights
  | heatingElements => MachineStateUpdate.setHeatingElements
  | speedPresets => MachineStateUpdate.setSpeedPresets

/-- `RemoveX(key)`. -/
def remove : PlainDictionary V → String → MachineStateUpdate → MachineStateUpdate
  | fans => MachineStateUpdate.removeFans
  | lights => MachineStateUpdate.removeLights
  | heatingElements => MachineStateUpdate.removeHeatingElements
  | speedPresets => MachineStateUpdate.removeSpeedPresets

def perform (p : PlainDictionary V) (u : MachineStateUpdate) :
    BuilderCall String V → MachineStateUpdate
  | .set k v => p.set k v u
  | .remove k => p.remove k u

theorem buffer_default (p : PlainDictionary V) : p.buffer default = default := by
  cases p <;> rfl

theorem buffer_perform (p : PlainDictionary V) (u : MachineStateUpdate)
    (call : BuilderCall String V) :
    p.buffer (p.perform u call) = (p.buffer u).perform call := by
  cases p <;> cases call <;> rfl

theorem read_apply [DecidableEq V] (p : PlainDictionary V) (ops : ScheduleOps)
    (u : MachineStateUpdate) (s : MachineState) :
    p.read (u.apply ops s) = (p.buffer u).apply (.value String V) (p.read s) := by
  cases p <;> rfl

end PlainDictionary

/-- The set properties of a state whose elements cannot change, by the type of their elements. -/
inductive ValueSet : Type → Type 1
  | jobHistory : ValueSet HistoricPrintJob
  | localJobs : ValueSet LocalPrintJob

namespace ValueSet

variable {α : Type}

def read : ValueSet α → MachineState → HashSet α
  | jobHistory => MachineState.jobHistory
  | localJobs => MachineState.localJobs

def buffer : ValueSet α → MachineStateUpdate → SetBuffer (HashSet α)
  | jobHistory => MachineStateUpdate.jobHistory
  | localJobs => MachineStateUpdate.localJobs

/-- `SetX(v)`. -/
def set : ValueSet α → α → MachineStateUpdate → MachineStateUpdate
  | jobHistory => MachineStateUpdate.setJobHistory
  | localJobs => MachineStateUpdate.setLocalJobs

/-- `RemoveX(v)`. -/
def remove : ValueSet α → α → MachineStateUpdate → MachineStateUpdate
  | jobHistory => MachineStateUpdate.removeJobHistory
  | localJobs => MachineStateUpdate.removeLocalJobs

def perform (p : ValueSet α) (u : MachineStateUpdate) :
    BuilderCall α Unit → MachineStateUpdate
  | .set v _ => p.set v u
  | .remove v => p.remove v u

theorem buffer_default (p : ValueSet α) : p.buffer default = default := by
  cases p <;> rfl

theorem buffer_perform [DecidableEq α] (p : ValueSet α) (u : MachineStateUpdate)
    (call : BuilderCall α Unit) :
    p.buffer (p.perform u call) = (p.buffer u).perform (.values α) call := by
  cases p with
  | jobHistory =>
    rename_i inst
    obtain rfl : inst = instDecidableEqHistoricPrintJob := Subsingleton.elim _ _
    cases call <;> rfl
  | localJobs =>
    rename_i inst
    obtain rfl : inst = instDecidableEqLocalPrintJob := Subsingleton.elim _ _
    cases call <;> rfl

theorem read_apply [DecidableEq α] (p : ValueSet α) (ops : ScheduleOps) (u : MachineStateUpdate)
    (s : MachineState) : p.read (u.apply ops s) = (p.buffer u).apply (.values α) (p.read s) := by
  cases p with
  | jobHistory =>
    rename_i inst
    obtain rfl : inst = instDecidableEqHistoricPrintJob := Subsingleton.elim _ _
    rfl
  | localJobs =>
    rename_i inst
    obtain rfl : inst = instDecidableEqLocalPrintJob := Subsingleton.elim _ _
    rfl

end ValueSet

namespace MachineStateUpdate

/-- A call of `SetScheduledPrints` or `RemoveScheduledPrints`. -/
def performScheduledPrints (ops : ScheduleOps) (u : MachineStateUpdate) :
    BuilderCall ScheduledPrintRef Unit → MachineStateUpdate
  | .set r _ => u.setScheduledPrints ops r
  | .remove r => { u with scheduledPrints := u.scheduledPrints.remove ops.scheduledPrints r }

theorem scheduledPrints_apply {ops : ScheduleOps}
    {calls : List (BuilderCall ScheduledPrintRef Unit)}
    {u : MachineStateUpdate}
    (h : Built default scheduledPrints (performScheduledPrints ops) calls u) (s : MachineState) :
    (u.apply ops s).scheduledPrints =
      (calls.foldl (SetBuffer.perform ops.scheduledPrints) default).apply ops.scheduledPrints
        s.scheduledPrints := by
  have hperform : ∀ u call, (performScheduledPrints ops u call).scheduledPrints =
      u.scheduledPrints.perform ops.scheduledPrints call := by
    intro u call
    cases call <;> rfl
  have hbuffer : u.scheduledPrints = calls.foldl _ default := h.buffer_eq hperform
  rw [← hbuffer]
  rfl

end MachineStateUpdate

open BuilderCall (expected ExpectedIn Removes SetsLast)

/-- **The last builder call wins** just when it does not set what another call removes. A removed
schedule that shares its contents with others is left as removing it alone leaves it. -/
theorem lastCall_wins_iff {Cron : Type} [DecidableEq Cron] [Hashable (HeatingSchedule Cron)]
    [Hashable (ScheduledPrint Cron)] (heap : Heap Cron) (u : MachineStateUpdate)
    (s s' : MachineState) (changes : MachineStateChanges)
    (hrun : (u.appendUpdate heap.ops).run s = .ok changes s') :
    (∀ (V : Type) [DecidableEq V] (p : PlainDictionary V) (calls : List (BuilderCall String V)),
      Built default p.buffer p.perform calls u → ∀ k,
        (((p.read s').tryGetValue k = expected (· = k) calls ((p.read s).tryGetValue k)) ↔
          (Removes (· = k) calls → ¬ SetsLast (· = k) calls))) ∧
    (∀ (α : Type) [DecidableEq α] (p : ValueSet α) (calls : List (BuilderCall α Unit)),
      Built default p.buffer p.perform calls u → ∀ v,
        ((v ∈ p.read s' ↔ ExpectedIn (· = v) calls (v ∈ p.read s)) ↔
          (Removes (· = v) calls → ¬ SetsLast (· = v) calls))) ∧
    ∀ calls : List (BuilderCall ScheduledPrintRef Unit),
      Built default MachineStateUpdate.scheduledPrints
        (MachineStateUpdate.performScheduledPrints heap.ops) calls u → ∀ r,
        let value := heap.scheduledPrints
        let names : ScheduledPrintRef → Prop := fun r' => value r' = value r
        ((s'.scheduledPrints.contains value r = true ↔
            ExpectedIn names calls (s.scheduledPrints.contains value r = true)) ↔
          (Removes names calls →
            ((s.scheduledPrints.remove value r).contains value r = true ↔
              SetsLast names calls))) ∧
        ((SetBuffer.Shows value s'.scheduledPrints r ↔
            ExpectedIn names calls (SetBuffer.Shows value s.scheduledPrints r)) ↔
          (Removes names calls →
            (SetBuffer.Shows value (s.scheduledPrints.remove value r) r ↔
              SetsLast names calls))) := by
  obtain ⟨-, rfl⟩ := MachineStateUpdate.run_appendUpdate_ok _ hrun
  refine ⟨fun V _ p calls hbuilt k => ?_, fun α _ p calls hbuilt v => ?_,
    fun calls hbuilt r => ⟨?_, ?_⟩⟩
  · rw [p.read_apply, hbuilt.buffer_eq p.buffer_perform, p.buffer_default]
    exact DictionaryBuffer.tryGetValue_perform_iff
  · rw [p.read_apply, hbuilt.buffer_eq p.buffer_perform, p.buffer_default]
    exact SetBuffer.mem_perform_iff
  · rw [MachineStateUpdate.scheduledPrints_apply hbuilt]
    exact SetBuffer.present_perform_iff (HashSetOps.lawful_records _) SetBuffer.gathers_records
      SetBuffer.presence_contains
  · rw [MachineStateUpdate.scheduledPrints_apply hbuilt]
    exact SetBuffer.present_perform_iff (HashSetOps.lawful_records _) SetBuffer.gathers_records
      SetBuffer.presence_shows

/-- A fan that was there, and that one call sets and the next one removes, is gone. -/
theorem lastCall_wins_iff_fan :
    let s := ((default : MachineStateUpdate).setFans "part" 20).apply
      (default : Heap Unit).ops default
    let u := ((default : MachineStateUpdate).setFans "part" 50).removeFans "part"
    s.fans.tryGetValue "part" = some 20 ∧
      (u.apply (default : Heap Unit).ops s).fans.tryGetValue "part" = none := by
  intro s u
  have hrun : (u.appendUpdate (default : Heap Unit).ops).run s =
      .ok (u.changed (default : Heap Unit).ops s) (u.apply (default : Heap Unit).ops s) := rfl
  have hbuilt : Built default PlainDictionary.fans.buffer PlainDictionary.fans.perform
      [.set "part" 50, .remove "part"] u := .call (.call .init _) _
  have hlast : ¬ SetsLast (· = "part") [BuilderCall.set "part" (50 : Int32), .remove "part"] := by
    rintro ⟨k, v, h⟩
    cases h
  exact ⟨rfl, ((lastCall_wins_iff default u s _ _ hrun).1 Int32 .fans _ hbuilt "part").mpr
    fun _ => hlast⟩

/-- **A fan that is removed and then set** is gone. -/
theorem lastCall_wins_fails :
    let u := ((default : MachineStateUpdate).removeFans "part").setFans "part" 50
    let calls : List (BuilderCall String Int32) := [.remove "part", .set "part" 50]
    Built default PlainDictionary.fans.buffer PlainDictionary.fans.perform calls u ∧
      ∃ changes s', (u.appendUpdate (default : Heap Unit).ops).run default = .ok changes s' ∧
        expected (· = "part") calls ((default : MachineState).fans.tryGetValue "part") = some 50 ∧
        s'.fans.tryGetValue "part" = none :=
  ⟨.call (.call .init _) _, _, _, rfl, rfl, rfl⟩

end Connect3Dp
