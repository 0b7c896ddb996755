import Connect3Dp.Connectors.Creality
import Connect3Dp.Connectors.Elegoo
import Connect3Dp.Connectors.History
import Mathlib.Data.List.Perm.Subperm

/-!
# Refreshing the history

Two connectors ask for the history again and again, and set an entry for each record of a response.
Entries are elements of a set, so a record that is read as before adds nothing. Does a refresh leave
one entry for each record?

An ELEGOO entry ends when the clock is read for it, so the same records processed later have other
entries. The Creality connector ignores a list with the fingerprint of the one before. And in both
cases two records can have one entry (`history_refresh_iff`).
-/

namespace Connect3Dp

/-- What a record of a history is read as. Without an end it ends when the clock is read for it. -/
structure HistoryRecord where
  name : NetString
  isSuccess : Bool
  endedAt : Option DateTime
  elapsed : TimeSpan
  deriving DecidableEq

namespace HistoryRecord

/-- The entry of a record for which the clock says the time. -/
def entry (r : HistoryRecord) (now : DateTime) : HistoricPrintJob where
  name := r.name
  isSuccess := r.isSuccess
  endedAt := r.endedAt.getD now
  elapsed := r.elapsed
  thumbnail := none
  file := none

/-- Without an end, it is the time at which the clock is read that an entry has. -/
theorem entry_eq_iff {r r' : HistoryRecord} {now now' : DateTime} (h : r.endedAt = none)
    (h' : r'.endedAt = none) : r.entry now = r'.entry now' ↔ r = r' ∧ now = now' := by
  obtain ⟨name, isSuccess, endedAt, elapsed⟩ := r
  obtain ⟨name', isSuccess', endedAt', elapsed'⟩ := r'
  cases h
  cases h'
  simp only [entry, HistoricPrintJob.mk.injEq, mk.injEq, Option.getD_none, and_true, true_and]
  tauto

end HistoryRecord

/-- What a clock says each time it is read. -/
abbrev Clock := ℕ → DateTime

/-- The records, each with the time at which the clock is read for it. -/
def Clock.timed (t : Clock) (rs : List HistoryRecord) : List (HistoryRecord × DateTime) :=
  rs.zipIdx.map fun (r, i) => (r, t i)

/-- The entries of the records. -/
def Clock.entries (t : Clock) (rs : List HistoryRecord) : List HistoricPrintJob :=
  (t.timed rs).map fun (r, now) => r.entry now

namespace Clock

variable {t t' : Clock} {rs : List HistoryRecord}

@[simp] theorem length_timed : (t.timed rs).length = rs.length := by
  rw [timed, List.length_map, List.length_zipIdx]

theorem length_entries {read : JsonElement → Except Fault HistoryRecord}
    {records : List JsonElement} (h : records.mapM read = .ok rs) :
    (t.entries rs).length = records.length := by
  rw [entries, List.length_map, length_timed, length_of_mapM_eq_ok h]

theorem mem_of_mem_timed {r : HistoryRecord} {now : DateTime} (h : (r, now) ∈ t.timed rs) :
    r ∈ rs := by
  obtain ⟨⟨r', i⟩, hr', heq⟩ := List.mem_map.mp h
  obtain rfl : r' = r := congrArg Prod.fst heq
  exact List.fst_mem_of_mem_zipIdx hr'

/-- Records without an end have different entries when no two of them are read alike at one
time. -/
theorem nodup_entries_iff (h : ∀ r ∈ rs, r.endedAt = none) :
    (t.entries rs).Nodup ↔ (t.timed rs).Nodup := by
  refine ⟨List.Nodup.of_map _, fun hn => hn.map_on fun p hp q hq heq => ?_⟩
  obtain ⟨hr, hnow⟩ := (HistoryRecord.entry_eq_iff (h _ (mem_of_mem_timed hp))
    (h _ (mem_of_mem_timed hq))).mp heq
  exact Prod.ext hr hnow

theorem entries_subset_iff (h : ∀ r ∈ rs, r.endedAt = none) :
    t'.entries rs ⊆ t.entries rs ↔ t'.timed rs ⊆ t.timed rs := by
  refine ⟨fun hsub p hp => ?_, fun hsub => List.map_subset _ hsub⟩
  obtain ⟨q, hq, heq⟩ := List.mem_map.mp (hsub (List.mem_map_of_mem hp))
  obtain ⟨hr, hnow⟩ := (HistoryRecord.entry_eq_iff (h _ (mem_of_mem_timed hq))
    (h _ (mem_of_mem_timed hp))).mp heq
  exact Prod.ext hr hnow ▸ hq

/-- Reading the entries one after the other, with the clock. -/
theorem mapM_entry (t : Clock) (read : JsonElement → Except Fault HistoryRecord)
    (records : List JsonElement) :
    (records.zipIdx.mapM fun (record, i) => (·.entry (t i)) <$> read record) =
      t.entries <$> records.mapM read := by
  suffices h : ∀ n, ((records.zipIdx n).mapM fun (record, i) => (·.entry (t i)) <$> read record) =
      (fun rs => (rs.zipIdx n).map fun (r, i) => r.entry (t i)) <$> records.mapM read by
    rw [h 0]
    congr 1
    funext rs
    rw [entries, timed, List.map_map]
    rfl
  induction records with
  | nil => exact fun n => rfl
  | cons record records ih =>
    intro n
    rw [List.zipIdx_cons, List.mapM_cons, List.mapM_cons, ih (n + 1)]
    dsimp only
    cases read record with
    | error f => rfl
    | ok r =>
      cases records.mapM read with
      | error f => rfl
      | ok rs => rfl

end Clock

/-! ### Updates of the history -/

namespace MachineStateUpdate

variable {ops : ScheduleOps} {u : MachineStateUpdate} {s s' : MachineState}
  {c : MachineStateChanges} {entries : List HistoricPrintJob} {entry : HistoricPrintJob}

theorem foldl_setJobHistory (entries : List HistoricPrintJob) (u : MachineStateUpdate) :
    entries.foldl (fun u entry => u.setJobHistory entry) u =
      { u with
        jobHistory := entries.foldl (SetBuffer.set (.values HistoricPrintJob)) u.jobHistory } := by
  induction entries generalizing u with
  | nil => rfl
  | cons entry entries ih => exact ih _

/-- Entries that are set come to the others. -/
theorem mem_jobHistory_of_run (hu : u.jobHistory = default)
    (h : ((entries.foldl (fun u entry => u.setJobHistory entry) u).appendUpdate ops).run s =
      .ok c s') : entry ∈ s'.jobHistory ↔ entry ∈ s.jobHistory ∨ entry ∈ entries := by
  obtain ⟨-, rfl⟩ := run_appendUpdate_ok ops h
  rw [foldl_setJobHistory, mem_jobHistory_apply]
  dsimp only
  rw [hu, SetBuffer.mem_additions_foldl_set, SetBuffer.removals_foldl_set]
  exact (and_iff_left List.not_mem_nil).trans (or_congr_right (or_iff_right List.not_mem_nil))

/-- An update that only sets entries is applied. -/
theorem exists_run_foldl_setJobHistory (ops : ScheduleOps) (entries : List HistoricPrintJob)
    (s : MachineState) : ∃ c s',
      ((entries.foldl (fun u entry => u.setJobHistory entry)
        (default : MachineStateUpdate)).appendUpdate ops).run s = .ok c s' := by
  rw [foldl_setJobHistory]
  exact ⟨_, _, rfl⟩

end MachineStateUpdate

/-! ### Processing again -/

section Runs

variable {C : Type}

/-- Processing by several clocks one after the other. In between, the connection may change in what
the second relation leaves open. -/
inductive ProcessedAt (step : Clock → C → C → Prop) (drifts : C → C → Prop) :
    List Clock → C → C → Prop
  | nil (a : C) : ProcessedAt step drifts [] a a
  | cons {t : Clock} {ts : List Clock} {a b b' c : C} (hstep : step t a b)
    (hdrifts : drifts b b') (hrest : ProcessedAt step drifts ts b' c) :
    ProcessedAt step drifts (t :: ts) a c

/-- Processing by a clock and then by others: whatever history there was, it has one entry for each
of `n` records in addition, the same ones as after the first time. -/
structure AddsOneEach (step : Clock → C → C → Prop) (drifts : C → C → Prop)
    (history : C → HashSet HistoricPrintJob) (start : C → Prop) (n : ℕ) (t : Clock)
    (ts : List Clock) (entries : List HistoricPrintJob) : Prop where
  nodup : entries.Nodup
  length_eq : entries.length = n
  processes : ∀ a, start a → ∃ b, ProcessedAt step drifts (t :: ts) a b
  mem_once : ∀ a b, start a → ProcessedAt step drifts [t] a b →
    ∀ e, e ∈ history b ↔ e ∈ history a ∨ e ∈ entries
  mem_again : ∀ a b, start a → ProcessedAt step drifts (t :: ts) a b →
    ∀ e, e ∈ history b ↔ e ∈ history a ∨ e ∈ entries

/-- What is added to an empty history is one entry for each record. -/
theorem AddsOneEach.nodup_and_mem_iff {step : Clock → C → C → Prop} {drifts : C → C → Prop}
    {history : C → HashSet HistoricPrintJob} {start : C → Prop} {n : ℕ} {t : Clock}
    {ts : List Clock} {entries l : List HistoricPrintJob} {a b : C}
    (h : AddsOneEach step drifts history start n t ts entries) (ha : start a)
    (hempty : ∀ e, e ∉ history a) (hrun : ProcessedAt step drifts [t] a b)
    (hmem : ∀ e, e ∈ history b ↔ e ∈ history a ∨ e ∈ l) (hlength : l.length = n) :
    l.Nodup ∧ ∀ e, e ∈ l ↔ e ∈ entries := by
  have hiff (e : HistoricPrintJob) : e ∈ l ↔ e ∈ entries :=
    (or_iff_right (hempty e)).symm.trans ((hmem e).symm.trans
      ((h.mem_once a b ha hrun e).trans (or_iff_right (hempty e))))
  have hsubperm : entries.Subperm l := h.nodup.subperm fun e he => (hiff e).mpr he
  have hperm := hsubperm.perm_of_length_le (hlength.trans h.length_eq.symm).le
  exact ⟨hperm.nodup_iff.mp h.nodup, hiff⟩

end Runs

/-! ### The ELEGOO connector -/

namespace Elegoo

/-- What a task is read as. -/
def readRecord (detail : JsonElement) : Except Fault HistoryRecord := do
  let taskName ← detail.readOr "TaskName" "Unknown" fun tn =>
    return (← tn.getString).getD "Unknown"
  let taskStatus ← detail.readOr "Status" 0 JsonElement.getInt32
  return {
    name := some (getFileNameWithoutExtension taskName)
    isSuccess := taskStatus = 9
    endedAt := none
    elapsed := .zero }

theorem readTask_eq (now : DateTime) (detail : JsonElement) :
    readTask now detail = (·.entry now) <$> readRecord detail := by
  rw [readTask, readRecord]
  cases detail.readOr "TaskName" "Unknown" fun tn => return (← tn.getString).getD "Unknown" with
  | error f => rfl
  | ok taskName =>
    cases detail.readOr "Status" 0 JsonElement.getInt32 with
    | error f => rfl
    | ok taskStatus => rfl

/-- The connection processes a response by the clock. -/
def ProcessesHistory (ops : ScheduleOps) (host : Host) (data : JsonElement) (t : Clock)
    (s s' : MachineState) : Prop :=
  ∃ u c, handleTaskDetailResponse { host with now := t } data = .ok (some u) ∧
    (u.appendUpdate ops).run s = .ok c s'

def KeepsHistory (s s' : MachineState) : Prop := s.jobHistory = s'.jobHistory

section Processing

variable {ops : ScheduleOps} {host : Host} {data : JsonElement} {records : List JsonElement}
  {s s' : MachineState} {t : Clock} {ts : List Clock} {rs : List HistoryRecord}

theorem handleTaskDetailResponse_eq (host : Host)
    (hdata : data.tryGetProperty "HistoryDetailList" = .ok (some (.array records))) :
    handleTaskDetailResponse host data = (fun rs => some
      ((Clock.entries host.now rs).foldl (fun u entry => u.setJobHistory entry) default)) <$>
        records.mapM readRecord := by
  rw [handleTaskDetailResponse, hdata]
  change ((records.zipIdx.mapM fun (detail, i) => readTask (host.now i) detail) >>= _) = _
  simp only [readTask_eq]
  rw [Clock.mapM_entry host.now readRecord]
  cases records.mapM readRecord with
  | error f => rfl
  | ok rs => rfl

/-- The response is processed just when its records can be read. -/
theorem exists_processesHistory_iff
    (hdata : data.tryGetProperty "HistoryDetailList" = .ok (some (.array records))) :
    (∃ s', ProcessesHistory ops host data t s s') ↔ ∃ rs, records.mapM readRecord = .ok rs := by
  constructor
  · rintro ⟨s', u, c, hu, -⟩
    rw [handleTaskDetailResponse_eq _ hdata] at hu
    obtain ⟨rs, hrs, -⟩ := map_eq_ok_iff.mp hu
    exact ⟨rs, hrs⟩
  · rintro ⟨rs, hrs⟩
    obtain ⟨c, s', hrun⟩ :=
      MachineStateUpdate.exists_run_foldl_setJobHistory ops (t.entries rs) s
    refine ⟨s', _, c, ?_, hrun⟩
    rw [handleTaskDetailResponse_eq _ hdata, hrs]
    rfl

/-- **Processing a response** adds the entries of its records. -/
theorem ProcessesHistory.mem_iff
    (hdata : data.tryGetProperty "HistoryDetailList" = .ok (some (.array records)))
    (hrs : records.mapM readRecord = .ok rs) (h : ProcessesHistory ops host data t s s')
    (e : HistoricPrintJob) :
    e ∈ s'.jobHistory ↔ e ∈ s.jobHistory ∨ e ∈ t.entries rs := by
  obtain ⟨u, c, hu, hrun⟩ := h
  rw [handleTaskDetailResponse_eq _ hdata, hrs] at hu
  cases hu
  exact MachineStateUpdate.mem_jobHistory_of_run rfl hrun

/-- Processing it at several times adds the entries of each. -/
theorem mem_iff_of_processedAt
    (hdata : data.tryGetProperty "HistoryDetailList" = .ok (some (.array records)))
    (hrs : records.mapM readRecord = .ok rs)
    (h : ProcessedAt (ProcessesHistory ops host data) KeepsHistory ts s s')
    (e : HistoricPrintJob) :
    e ∈ s'.jobHistory ↔ e ∈ s.jobHistory ∨ ∃ t ∈ ts, e ∈ t.entries rs := by
  induction h with
  | nil => simp
  | cons hstep hkeeps hrest ih =>
    rw [ih, ← hkeeps, hstep.mem_iff hdata hrs, or_assoc]
    simp only [List.mem_cons, exists_eq_or_imp]

theorem exists_processedAt (ops : ScheduleOps) (host : Host)
    (hdata : data.tryGetProperty "HistoryDetailList" = .ok (some (.array records)))
    (hrs : records.mapM readRecord = .ok rs) (ts : List Clock) (s : MachineState) :
    ∃ s', ProcessedAt (ProcessesHistory ops host data) KeepsHistory ts s s' := by
  induction ts generalizing s with
  | nil => exact ⟨s, .nil s⟩
  | cons t ts ih =>
    obtain ⟨s₁, hstep⟩ := (exists_processesHistory_iff hdata).mpr ⟨rs, hrs⟩
    obtain ⟨s', hrest⟩ := ih s₁
    exact ⟨s', .cons hstep rfl hrest⟩

/-- A task has no end. -/
theorem endedAt_readRecord {detail : JsonElement} {r : HistoryRecord}
    (h : readRecord detail = .ok r) : r.endedAt = none := by
  obtain ⟨taskName, -, h⟩ := bind_eq_ok_iff.mp h
  obtain ⟨taskStatus, -, h⟩ := bind_eq_ok_iff.mp h
  cases h
  rfl

theorem endedAt_of_mem (hrs : records.mapM readRecord = .ok rs) : ∀ r ∈ rs, r.endedAt = none := by
  intro r hr
  obtain ⟨detail, -, hdetail⟩ := exists_of_mem_of_mapM_eq_ok hrs r hr
  exact endedAt_readRecord hdetail

/-- **An ELEGOO response** adds one entry for each record just when its records can be read, the
clock says different times for those that are read alike, and no other ones later. -/
theorem addsOneEach_iff
    (hdata : data.tryGetProperty "HistoryDetailList" = .ok (some (.array records))) :
    (∃ entries, AddsOneEach (ProcessesHistory ops host data) KeepsHistory MachineState.jobHistory
      (fun _ => True) records.length t ts entries) ↔
    ∃ rs, records.mapM readRecord = .ok rs ∧ (t.timed rs).Nodup ∧
      ∀ t' ∈ ts, t'.timed rs ⊆ t.timed rs := by
  constructor
  · rintro ⟨entries, h⟩
    obtain ⟨s₁, hprocessed⟩ := h.processes default trivial
    obtain ⟨rs, hrs⟩ : ∃ rs, records.mapM readRecord = .ok rs := by
      cases hprocessed with
      | cons hstep => exact (exists_processesHistory_iff hdata).mp ⟨_, hstep⟩
    have hended := endedAt_of_mem hrs
    obtain ⟨s₀, honce⟩ := exists_processedAt ops host hdata hrs [t] default
    obtain ⟨hn, hmem⟩ := h.nodup_and_mem_iff trivial (fun e => HashSet.notMem_empty e) honce
      (fun e => (mem_iff_of_processedAt hdata hrs honce e).trans (by simp))
      (Clock.length_entries (t := t) hrs)
    refine ⟨rs, hrs, (Clock.nodup_entries_iff hended).mp hn, fun t' ht' => ?_⟩
    refine (Clock.entries_subset_iff hended).mp fun e he => (hmem e).mpr ?_
    have hagain : e ∈ s₁.jobHistory := (mem_iff_of_processedAt hdata hrs hprocessed e).mpr
      (.inr ⟨t', List.mem_cons_of_mem t ht', he⟩)
    exact ((h.mem_again default s₁ trivial hprocessed e).mp hagain).resolve_left
      (HashSet.notMem_empty e)
  · rintro ⟨rs, hrs, hn, htimes⟩
    have hended := endedAt_of_mem hrs
    refine ⟨t.entries rs, (Clock.nodup_entries_iff hended).mpr hn, Clock.length_entries hrs,
      fun a _ => exists_processedAt ops host hdata hrs _ a, fun a b _ h e => ?_,
      fun a b _ h e => ?_⟩
    · rw [mem_iff_of_processedAt hdata hrs h]
      simp only [List.mem_singleton, exists_eq_left]
    · rw [mem_iff_of_processedAt hdata hrs h]
      refine or_congr_right ⟨?_, fun he => ⟨t, List.mem_cons_self, he⟩⟩
      rintro ⟨t', ht', he⟩
      obtain rfl | ht' := List.mem_cons.mp ht'
      · exact he
      · exact (Clock.entries_subset_iff hended).mpr (htimes t' ht') he

end Processing

end Elegoo

/-! ### The Creality connector -/

namespace Creality

/-- The end of a print, if it is known. -/
def endOf (host : Host) (endUnix : Int64) : Except Fault (Option DateTime) :=
  if 0 < endUnix then (fun t => some (host.localDateTime t)) <$> fromUnixTimeSeconds endUnix
  else pure none

/-- What an entry is read as. -/
def readRecord (host : Host) (entry : JsonElement) : Except Fault HistoryRecord := do
  let path := (← entry.tryGetStringValue "filename").getD ""
  let name := if path = "" then "Unknown" else getFileNameWithoutExtension path
  let isSuccess := (← entry.tryGetInt32Lenient host "printfinish") = some 1
  let totalSec := (← entry.tryGetInt32Lenient host "totaltime").getD 0
  let usageSec := (← entry.tryGetInt32Lenient host "usagetime").getD totalSec
  let endUnix := match ← entry.tryGetInt64Lenient host "starttime" with
    | some start => start + usageSec.toInt64
    | none => 0
  return {
    name := some name
    isSuccess
    endedAt := ← endOf host endUnix
    elapsed := .fromWholeSeconds (if usageSec < 0 then 0 else usageSec) }

theorem readHistoryEntry_eq (host : Host) (now : DateTime) (entry : JsonElement) :
    readHistoryEntry host now entry = (·.entry now) <$> readRecord host entry := by
  rw [readHistoryEntry, readRecord]
  cases entry.tryGetStringValue "filename" with
  | error f => rfl
  | ok path =>
    cases entry.tryGetInt32Lenient host "printfinish" with
    | error f => rfl
    | ok finished =>
      cases entry.tryGetInt32Lenient host "totaltime" with
      | error f => rfl
      | ok totalSec =>
        cases entry.tryGetInt32Lenient host "usagetime" with
        | error f => rfl
        | ok usageSec =>
          cases entry.tryGetInt64Lenient host "starttime" with
          | error f => rfl
          | ok start =>
            cases start with
            | none => rfl
            | some start =>
              simp only [ok_bind]
              by_cases hend : 0 < start + (usageSec.getD (totalSec.getD 0)).toInt64
              · rw [if_pos hend, endOf, if_pos hend]
                cases fromUnixTimeSeconds _ with
                | error f => rfl
                | ok ended => rfl
              · rw [if_neg hend, endOf, if_neg hend]
                rfl

/-- The connection processes a message by the clock. What else the message changes is no history. -/
def ProcessesHistory (ops : ScheduleOps) (host : Host) (obj : JsonElement) (t : Clock)
    (a b : Fields × MachineState) : Prop :=
  ∃ u u' c, u.jobHistory = default ∧
    (mapHistory { host with now := t } obj u).run a.1 = .ok u' b.1 ∧
    (u'.appendUpdate ops).run a.2 = .ok c b.2

def KeepsHistory (a b : Fields × MachineState) : Prop :=
  a.1.lastHistoryFingerprint = b.1.lastHistoryFingerprint ∧ a.2.jobHistory = b.2.jobHistory

section Processing

variable {ops : ScheduleOps} {host : Host} {obj : JsonElement} {records : List JsonElement}
  {a b : Fields × MachineState} {t : Clock} {ts : List Clock} {rs : List HistoryRecord}
  {fingerprint : String}

theorem run_mapHistory_eq {u : MachineStateUpdate} {fields : Fields}
    (hobj : obj.tryGetProperty "historyList" = .ok (some (.array records)))
    (hfingerprint : historyFingerprint host records = .ok fingerprint) :
    (mapHistory { host with now := t } obj u).run fields =
      if fields.lastHistoryFingerprint = some fingerprint then .ok u fields else
        match records.mapM (readRecord host) with
        | .ok rs => .ok
            ((t.entries rs).foldl (fun u entry => u.setJobHistory entry) u)
            { fields with lastHistoryFingerprint := some fingerprint }
        | .error f => .error f { fields with lastHistoryFingerprint := some fingerprint } := by
  have hget : (get : EStateM Fault Fields Fields).run fields = .ok fields fields := rfl
  have hfingerprint' : historyFingerprint { host with now := t } records = .ok fingerprint :=
    hfingerprint
  rw [mapHistory, hobj, ofExcept_ok_bind]
  dsimp only
  rw [hfingerprint', ofExcept_ok_bind, run_bind_ok hget]
  by_cases hsame : fields.lastHistoryFingerprint = some fingerprint
  · rw [if_pos hsame, if_pos hsame]
    rfl
  · rw [if_neg hsame, if_neg hsame]
    simp only [readHistoryEntry_eq]
    rw [Clock.mapM_entry t]
    change _ = match records.mapM (readRecord { host with now := t }) with
      | .ok rs => _
      | .error f => _
    cases records.mapM (readRecord { host with now := t }) with
    | error f => rfl
    | ok rs => rfl

/-- A message is processed only if the fingerprint of its list can be taken. -/
theorem ProcessesHistory.exists_fingerprint
    (hobj : obj.tryGetProperty "historyList" = .ok (some (.array records)))
    (h : ProcessesHistory ops host obj t a b) :
    ∃ fingerprint, historyFingerprint host records = .ok fingerprint := by
  obtain ⟨u, u', c, -, hmap, -⟩ := h
  rw [mapHistory, hobj, ofExcept_ok_bind] at hmap
  cases hfingerprint : historyFingerprint host records with
  | ok fingerprint => exact ⟨fingerprint, rfl⟩
  | error f =>
    have hfingerprint' : historyFingerprint { host with now := t } records = .error f :=
      hfingerprint
    dsimp only at hmap
    rw [hfingerprint', ofExcept_error_bind] at hmap
    cases hmap

/-- **Processing a list again** is skipped. -/
theorem ProcessesHistory.of_same
    (hobj : obj.tryGetProperty "historyList" = .ok (some (.array records)))
    (hfingerprint : historyFingerprint host records = .ok fingerprint)
    (hsame : a.1.lastHistoryFingerprint = some fingerprint)
    (h : ProcessesHistory ops host obj t a b) :
    b.1.lastHistoryFingerprint = some fingerprint ∧
      ∀ e, e ∈ b.2.jobHistory ↔ e ∈ a.2.jobHistory := by
  obtain ⟨u, u', c, hu, hmap, hrun⟩ := h
  rw [run_mapHistory_eq hobj hfingerprint, if_pos hsame] at hmap
  obtain ⟨rfl, hfields⟩ := EStateM.Result.ok.inj hmap
  refine ⟨hfields ▸ hsame, fun e => ?_⟩
  exact (@MachineStateUpdate.mem_jobHistory_of_run ops u a.2 b.2 c [] e hu hrun).trans
    (or_iff_left List.not_mem_nil)

/-- **Processing another list** adds the entries of its records. -/
theorem ProcessesHistory.of_ne
    (hobj : obj.tryGetProperty "historyList" = .ok (some (.array records)))
    (hfingerprint : historyFingerprint host records = .ok fingerprint)
    (hne : a.1.lastHistoryFingerprint ≠ some fingerprint)
    (h : ProcessesHistory ops host obj t a b) :
    b.1.lastHistoryFingerprint = some fingerprint ∧
      ∃ rs, records.mapM (readRecord host) = .ok rs ∧
        ∀ e, e ∈ b.2.jobHistory ↔ e ∈ a.2.jobHistory ∨ e ∈ t.entries rs := by
  obtain ⟨u, u', c, hu, hmap, hrun⟩ := h
  rw [run_mapHistory_eq hobj hfingerprint, if_neg hne] at hmap
  cases hrs : records.mapM (readRecord host) with
  | error f =>
    rw [hrs] at hmap
    cases hmap
  | ok rs =>
    rw [hrs] at hmap
    obtain ⟨rfl, hfields⟩ := EStateM.Result.ok.inj hmap
    exact ⟨hfields ▸ rfl, rs, rfl, fun e => MachineStateUpdate.mem_jobHistory_of_run hu hrun⟩

/-- A list with the fingerprint that the connector has is processed. -/
theorem exists_processesHistory_of_same (ops : ScheduleOps) (t : Clock)
    (hobj : obj.tryGetProperty "historyList" = .ok (some (.array records)))
    (hfingerprint : historyFingerprint host records = .ok fingerprint)
    (hsame : a.1.lastHistoryFingerprint = some fingerprint) :
    ∃ b, ProcessesHistory ops host obj t a b := by
  obtain ⟨c, s', hrun⟩ := MachineStateUpdate.exists_run_foldl_setJobHistory ops [] a.2
  refine ⟨(a.1, s'), default, default, c, rfl, ?_, hrun⟩
  rw [run_mapHistory_eq hobj hfingerprint, if_pos hsame]

theorem exists_processesHistory_of_ne (ops : ScheduleOps) (t : Clock)
    (hobj : obj.tryGetProperty "historyList" = .ok (some (.array records)))
    (hfingerprint : historyFingerprint host records = .ok fingerprint)
    (hne : a.1.lastHistoryFingerprint ≠ some fingerprint)
    (hrs : records.mapM (readRecord host) = .ok rs) :
    ∃ b, ProcessesHistory ops host obj t a b := by
  obtain ⟨c, s', hrun⟩ :=
    MachineStateUpdate.exists_run_foldl_setJobHistory ops (t.entries rs) a.2
  refine ⟨({ a.1 with lastHistoryFingerprint := some fingerprint }, s'), default, _, c, rfl, ?_,
    hrun⟩
  rw [run_mapHistory_eq hobj hfingerprint, if_neg hne, hrs]

theorem exists_processedAt_of_same (ops : ScheduleOps)
    (hobj : obj.tryGetProperty "historyList" = .ok (some (.array records)))
    (hfingerprint : historyFingerprint host records = .ok fingerprint) (ts : List Clock)
    (hsame : a.1.lastHistoryFingerprint = some fingerprint) :
    ∃ b, ProcessedAt (ProcessesHistory ops host obj) KeepsHistory ts a b := by
  induction ts generalizing a with
  | nil => exact ⟨a, .nil a⟩
  | cons t ts ih =>
    obtain ⟨b, hstep⟩ := exists_processesHistory_of_same ops t hobj hfingerprint hsame
    obtain ⟨b', hrest⟩ := ih (hstep.of_same hobj hfingerprint hsame).1
    exact ⟨b', .cons hstep ⟨rfl, rfl⟩ hrest⟩

theorem mem_iff_of_same
    (hobj : obj.tryGetProperty "historyList" = .ok (some (.array records)))
    (hfingerprint : historyFingerprint host records = .ok fingerprint)
    (hsame : a.1.lastHistoryFingerprint = some fingerprint)
    (h : ProcessedAt (ProcessesHistory ops host obj) KeepsHistory ts a b) (e : HistoricPrintJob) :
    e ∈ b.2.jobHistory ↔ e ∈ a.2.jobHistory := by
  induction h with
  | nil => exact Iff.rfl
  | cons hstep hkeeps hrest ih =>
    obtain ⟨hlast, hmem⟩ := hstep.of_same hobj hfingerprint hsame
    rw [ih (hkeeps.1 ▸ hlast), ← hkeeps.2, hmem]

theorem mem_iff_of_ne
    (hobj : obj.tryGetProperty "historyList" = .ok (some (.array records)))
    (hfingerprint : historyFingerprint host records = .ok fingerprint)
    (hne : a.1.lastHistoryFingerprint ≠ some fingerprint)
    (hrs : records.mapM (readRecord host) = .ok rs)
    (h : ProcessedAt (ProcessesHistory ops host obj) KeepsHistory (t :: ts) a b)
    (e : HistoricPrintJob) :
    e ∈ b.2.jobHistory ↔ e ∈ a.2.jobHistory ∨ e ∈ t.entries rs := by
  cases h with
  | cons hstep hkeeps hrest =>
    obtain ⟨hlast, rs', hrs', hmem⟩ := hstep.of_ne hobj hfingerprint hne
    rw [hrs] at hrs'
    cases hrs'
    rw [mem_iff_of_same hobj hfingerprint (hkeeps.1 ▸ hlast) hrest, ← hkeeps.2, hmem]

/-- **A Creality list** adds one entry for each record just when it has no records, or its
fingerprint is not that of the list before, its records can be read and have different entries. -/
theorem addsOneEach_iff {last : NetString}
    (hobj : obj.tryGetProperty "historyList" = .ok (some (.array records))) :
    (∃ entries, AddsOneEach (ProcessesHistory ops host obj) KeepsHistory (·.2.jobHistory)
      (fun a => a.1.lastHistoryFingerprint = last) records.length t ts entries) ↔
    ∃ fingerprint, historyFingerprint host records = .ok fingerprint ∧
      (records = [] ∨ last ≠ some fingerprint ∧
        ∃ rs, records.mapM (readRecord host) = .ok rs ∧ (t.entries rs).Nodup) := by
  constructor
  · rintro ⟨entries, h⟩
    obtain ⟨b, hprocessed⟩ :=
      h.processes ({ (default : Fields) with lastHistoryFingerprint := last }, default) rfl
    cases hprocessed with
    | @cons _ _ _ b _ _ hstep hkeeps hrest =>
      have honce : ProcessedAt (ProcessesHistory ops host obj) KeepsHistory [t] _ b :=
        .cons hstep ⟨rfl, rfl⟩ (.nil b)
      obtain ⟨fingerprint, hfingerprint⟩ := hstep.exists_fingerprint hobj
      refine ⟨fingerprint, hfingerprint, ?_⟩
      by_cases hsame : last = some fingerprint
      · have hnil : entries = [] := by
          refine List.eq_nil_iff_forall_not_mem.mpr fun e he => ?_
          have hmem := (h.mem_once _ b rfl honce e).mpr (.inr he)
          rw [mem_iff_of_same hobj hfingerprint hsame honce] at hmem
          exact HashSet.notMem_empty e hmem
        have hlength := h.length_eq
        rw [hnil] at hlength
        exact .inl (List.length_eq_zero_iff.mp hlength.symm)
      · obtain ⟨-, rs, hrs, hmem⟩ := hstep.of_ne hobj hfingerprint hsame
        exact .inr ⟨hsame, rs, hrs, (h.nodup_and_mem_iff rfl (fun e => HashSet.notMem_empty e)
          honce hmem (Clock.length_entries hrs)).1⟩
  · rintro ⟨fingerprint, hfingerprint, hcond⟩
    by_cases hsame : last = some fingerprint
    · have hnil : records = [] := hcond.resolve_right fun h => h.1 hsame
      have hmem {ts : List Clock} {a b : Fields × MachineState}
          (ha : a.1.lastHistoryFingerprint = last)
          (h : ProcessedAt (ProcessesHistory ops host obj) KeepsHistory ts a b)
          (e : HistoricPrintJob) : e ∈ b.2.jobHistory ↔ e ∈ a.2.jobHistory ∨ e ∈ [] :=
        (mem_iff_of_same hobj hfingerprint (ha.trans hsame) h e).trans
          (or_iff_left List.not_mem_nil).symm
      exact ⟨[], List.nodup_nil, hnil ▸ rfl,
        fun a ha => exists_processedAt_of_same ops hobj hfingerprint _ (ha.trans hsame),
        fun a b ha h => hmem ha h, fun a b ha h => hmem ha h⟩
    · obtain ⟨rs, hrs, hn⟩ : ∃ rs, records.mapM (readRecord host) = .ok rs ∧
          (t.entries rs).Nodup := by
        obtain rfl | ⟨-, hrecords⟩ := hcond
        · exact ⟨[], rfl, List.nodup_nil⟩
        · exact hrecords
      have hne {a : Fields × MachineState} (ha : a.1.lastHistoryFingerprint = last) :
          a.1.lastHistoryFingerprint ≠ some fingerprint := ha ▸ hsame
      refine ⟨t.entries rs, hn, Clock.length_entries hrs, fun a ha => ?_,
        fun a b ha h => mem_iff_of_ne hobj hfingerprint (hne ha) hrs h,
        fun a b ha h => mem_iff_of_ne hobj hfingerprint (hne ha) hrs h⟩
      obtain ⟨b, hstep⟩ := exists_processesHistory_of_ne ops t hobj hfingerprint (hne ha) hrs
      obtain ⟨b', hrest⟩ := exists_processedAt_of_same ops hobj hfingerprint ts
        (hstep.of_ne hobj hfingerprint (hne ha)).1
      exact ⟨b', .cons hstep ⟨rfl, rfl⟩ hrest⟩

end Processing

end Creality

/-! ### Refreshing -/

/-- **A refresh of the history** leaves one entry for each record: when, for each connector. -/
theorem history_refresh_iff (ops : ScheduleOps) (host : Host) {data obj : JsonElement}
    {records : List JsonElement} (t : Clock) (ts : List Clock) (last : NetString)
    (hdata : data.tryGetProperty "HistoryDetailList" = .ok (some (.array records)))
    (hobj : obj.tryGetProperty "historyList" = .ok (some (.array records))) :
    ((∃ entries, AddsOneEach (Elegoo.ProcessesHistory ops host data) Elegoo.KeepsHistory
        MachineState.jobHistory (fun _ => True) records.length t ts entries) ↔
      ∃ rs, records.mapM Elegoo.readRecord = .ok rs ∧ (t.timed rs).Nodup ∧
        ∀ t' ∈ ts, t'.timed rs ⊆ t.timed rs) ∧
    ((∃ entries, AddsOneEach (Creality.ProcessesHistory ops host obj) Creality.KeepsHistory
        (·.2.jobHistory) (fun a => a.1.lastHistoryFingerprint = last) records.length t ts entries) ↔
      ∃ fingerprint, Creality.historyFingerprint host records = .ok fingerprint ∧
        (records = [] ∨ last ≠ some fingerprint ∧
          ∃ rs, records.mapM (Creality.readRecord host) = .ok rs ∧ (t.entries rs).Nodup)) :=
  ⟨Elegoo.addsOneEach_iff hdata, Creality.addsOneEach_iff hobj⟩

/-- A record that both connectors can read. -/
private def record (file : String) : JsonElement :=
  .object [("TaskName", .string file), ("filename", .string file)]

private def cubes : List JsonElement := [record "cube.gcode", record "cube.gcode"]

private def response : JsonElement := .object [("HistoryDetailList", .array cubes)]

private def message : JsonElement := .object [("historyList", .array cubes)]

private theorem response_cubes :
    response.tryGetProperty "HistoryDetailList" = .ok (some (.array cubes)) := rfl

private theorem message_cubes :
    message.tryGetProperty "historyList" = .ok (some (.array cubes)) := rfl

private def ticking : Clock := fun i => ⟨i⟩

/-- Two prints of a cube. The clock ticks between them, and says the same when the ELEGOO response
is processed again. The Creality list may be processed again whenever that is. -/
theorem history_refresh_iff_cube :
    (∃ entries, AddsOneEach (Elegoo.ProcessesHistory (default : Heap Unit).ops default response)
      Elegoo.KeepsHistory MachineState.jobHistory (fun _ => True) 2 ticking [ticking] entries) ∧
    ∃ entries, AddsOneEach (Creality.ProcessesHistory (default : Heap Unit).ops default message)
      Creality.KeepsHistory (·.2.jobHistory) (fun a => a.1.lastHistoryFingerprint = none) 2 ticking
        [fun _ => ⟨9⟩] entries :=
  ⟨(history_refresh_iff _ default ticking [ticking] none response_cubes message_cubes).1.mpr
      ⟨_, rfl, by decide, List.forall_mem_singleton.mpr (List.Subset.refl _)⟩,
    (history_refresh_iff _ default ticking [fun _ => ⟨9⟩] none response_cubes
      message_cubes).2.mpr ⟨_, rfl, .inr ⟨(Option.some_ne_none _).symm, _, rfl, by decide⟩⟩⟩

/-- Processed again a tick later, a print has two entries. -/
theorem history_refresh_fails :
    ¬ ∀ (ops : ScheduleOps) (host : Host) (data : JsonElement) (records : List JsonElement)
      (t : Clock) (ts : List Clock),
      data.tryGetProperty "HistoryDetailList" = .ok (some (.array records)) →
        ∃ entries, AddsOneEach (Elegoo.ProcessesHistory ops host data) Elegoo.KeepsHistory
          MachineState.jobHistory (fun _ => True) records.length t ts entries := by
  intro hall
  have hadds := hall (default : Heap Unit).ops default
    (.object [("HistoryDetailList", .array [record "cube.gcode"])]) [record "cube.gcode"]
    (fun _ => ⟨0⟩) [fun _ => ⟨1⟩] rfl
  obtain ⟨rs, hrs, -, htimes⟩ := (Elegoo.addsOneEach_iff rfl).mp hadds
  cases hrs
  exact absurd (htimes _ List.mem_cons_self List.mem_cons_self) (by decide)

end Connect3Dp
