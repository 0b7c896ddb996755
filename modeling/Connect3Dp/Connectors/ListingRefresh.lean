import Connect3Dp.Connectors.CrealityPaging

/-!
# Refreshing a file listing

A connector that gets a file listing replaces the local jobs: its update removes every job that the
state has and sets the listed ones. An update that does this reports each existing job as removed,
also when the listing has not changed (`Replaces.mem_removed`). The jobs of a fresh parse have new
dictionaries, which makes them new jobs, so each of them is reported as added as well
(`Replaces.refreshes`). A refresh is quiet for a listing without files only (`refresh_iff`).
-/

namespace Connect3Dp

/-! ### Replacing the local jobs -/

namespace MachineStateUpdate

/-- The update removes the local jobs of the state and sets the given ones. -/
structure Replaces (u : MachineStateUpdate) (s : MachineState) (jobs : List LocalPrintJob) :
    Prop where
  mem_additions : ∀ job, job ∈ u.localJobs.additions (.values LocalPrintJob) ↔ job ∈ jobs
  mem_removals : ∀ job, job ∈ u.localJobs.removals (.values LocalPrintJob) ↔ job ∈ s.localJobs

variable {ops : ScheduleOps} {u : MachineStateUpdate} {s s' : MachineState}
  {jobs : List LocalPrintJob} {job : LocalPrintJob}

/-- What the connectors do, to a buffer that is empty. -/
theorem replaces_of_localJobs_eq (h : u.localJobs =
    jobs.foldl (SetBuffer.set (.values LocalPrintJob))
      (s.localJobs.elems.foldl (SetBuffer.remove (.values LocalPrintJob)) default)) :
    u.Replaces s jobs where
  mem_additions job := by
    rw [h, SetBuffer.mem_additions_foldl_set, SetBuffer.additions_foldl_remove]
    exact or_iff_right List.not_mem_nil
  mem_removals job := by
    rw [h]
    exact mem_removals_relist fun _ hjob => absurd hjob List.not_mem_nil

namespace Replaces

variable (h : u.Replaces s jobs)

include h

theorem mem_apply : job ∈ (u.apply ops s).localJobs ↔ job ∈ jobs ∧ job ∉ s.localJobs := by
  change job ∈ u.localJobs.apply (.values LocalPrintJob) s.localJobs ↔ _
  rw [SetBuffer.apply, HashSetOps.mem_exceptWith, HashSetOps.mem_unionWith, h.mem_additions,
    h.mem_removals, or_and_right]
  exact or_iff_right fun hmem => hmem.2 hmem.1

theorem mem_added : job ∈ (u.changed ops s).localJobs.added ↔ job ∈ jobs ∧ job ∉ s.localJobs := by
  change job ∈ (u.localJobs.changes (.values LocalPrintJob) s.localJobs).added ↔ _
  rw [SetBuffer.changes, List.mem_filter, h.mem_additions, Bool.not_eq_true']
  exact and_congr_right fun _ => decide_eq_false_iff_not

/-- **Every existing job** is reported as removed. -/
theorem mem_removed : job ∈ (u.changed ops s).localJobs.removed ↔ job ∈ s.localJobs := by
  change job ∈ (u.localJobs.changes (.values LocalPrintJob) s.localJobs).removed ↔ _
  rw [SetBuffer.changes, List.mem_filter, h.mem_removals]
  exact (and_congr_right fun _ => decide_eq_true_iff).trans and_self_iff

end Replaces

end MachineStateUpdate

/-- The local jobs are the same as before, and none is reported as added or removed. -/
structure KeepsLocalJobs (s s' : MachineState) (c : MachineStateChanges) : Prop where
  mem_iff : ∀ job, job ∈ s'.localJobs ↔ job ∈ s.localJobs
  added : c.localJobs.added = []
  removed : c.localJobs.removed = []

namespace MachineStateUpdate.Replaces

variable {ops : ScheduleOps} {u : MachineStateUpdate} {s : MachineState} {jobs : List LocalPrintJob}

/-- Replacing the local jobs is quiet where there are none before and after. -/
theorem keepsLocalJobs_iff (h : u.Replaces s jobs) :
    KeepsLocalJobs s (u.apply ops s) (u.changed ops s) ↔
      (∀ job, job ∉ s.localJobs) ∧ jobs = [] := by
  constructor
  · intro hkeeps
    have hempty (job : LocalPrintJob) : job ∉ s.localJobs := fun hmem =>
      List.not_mem_nil (hkeeps.removed ▸ h.mem_removed.mpr hmem)
    refine ⟨hempty, List.eq_nil_iff_forall_not_mem.mpr fun job hjob => ?_⟩
    exact List.not_mem_nil (hkeeps.added ▸ h.mem_added.mpr ⟨hjob, hempty job⟩)
  · rintro ⟨hempty, rfl⟩
    refine ⟨fun job => ?_, List.eq_nil_iff_forall_not_mem.mpr fun job hmem => ?_,
      List.eq_nil_iff_forall_not_mem.mpr fun job hmem => ?_⟩
    · rw [h.mem_apply]
      exact iff_of_false (fun hjob => List.not_mem_nil hjob.1) (hempty job)
    · exact List.not_mem_nil (h.mem_added.mp hmem).1
    · exact hempty job (h.mem_removed.mp hmem)

/-- **Refreshing** local jobs by those of a fresh parse: each job is new, and each is reported. -/
theorem refreshes {files : List ListedFile} {address : ℕ}
    (h : u.Replaces s (allocate files address))
    (hfresh : ∀ job ∈ s.localJobs, job.materialsToPrint.address < address) {job : LocalPrintJob} :
    (job ∈ (u.apply ops s).localJobs ↔ job ∈ allocate files address) ∧
    (job ∈ (u.changed ops s).localJobs.added ↔ job ∈ allocate files address) ∧
    (job ∈ (u.changed ops s).localJobs.removed ↔ job ∈ s.localJobs) := by
  have hnew : job ∈ allocate files address ∧ job ∉ s.localJobs ↔ job ∈ allocate files address :=
    and_iff_left_of_imp fun hjob hmem =>
      (address_of_mem_allocate hjob).1.not_gt (hfresh job hmem)
  exact ⟨h.mem_apply.trans hnew, h.mem_added.trans hnew, h.mem_removed⟩

end MachineStateUpdate.Replaces

/-! ### The listings of the connectors -/

theorem Elegoo.fileListUpdate_replaces (s : MachineState) (jobs : List LocalPrintJob) :
    (Elegoo.fileListUpdate s jobs).Replaces s jobs := by
  refine MachineStateUpdate.replaces_of_localJobs_eq ?_
  rw [Elegoo.fileListUpdate, MachineStateUpdate.foldl_removeLocalJobs,
    MachineStateUpdate.foldl_setLocalJobs]
  rfl

theorem Creality.listFiles_replaces {s : MachineState} {files : List LocalPrintJob}
    {u : MachineStateUpdate} (hu : u.localJobs = default) :
    (Creality.listFiles s files u).Replaces s (Creality.dedupe files) := by
  refine MachineStateUpdate.replaces_of_localJobs_eq ?_
  rw [Creality.listFiles, MachineStateUpdate.foldl_removeLocalJobs,
    MachineStateUpdate.foldl_setLocalJobs, hu]

theorem Creality.dedupe_eq_nil_iff {files : List LocalPrintJob} :
    Creality.dedupe files = [] ↔ files = [] := by
  rw [Creality.dedupe_eq_foldl, Creality.foldl_keepFirst_eq_self_iff,
    List.eq_nil_iff_forall_not_mem]
  simp

/-- A file listing as a connector gets it. -/
inductive FileListing
  /-- The data of a response that `HandleFileListResponse` handles. -/
  | elegoo (data : JsonElement)
  /-- The arrays that `ExtractFiles` reads: the pages of a cycle, or one for a full listing. -/
  | creality (pages : List JsonElement)

namespace FileListing

/-- The entries of a listing. -/
def entries : FileListing → List JsonElement
  | elegoo data => match data.tryGetProperty "FileList" with
    | .ok (some (.array entries)) => entries
    | _ => []
  | creality pages => pages.flatMap fun
    | .array entries => entries
    | _ => []

/-- What is read of an entry. -/
def read (host : Host) (id : NetString) :
    FileListing → JsonElement → Except Fault (Option ListedFile)
  | elegoo _ => Elegoo.listedFile host id
  | creality _ => Creality.listedFile host id

/-- The files of a listing: its entries that have a name, or a path. -/
def files (host : Host) (id : NetString) (L : FileListing) : List ListedFile :=
  listed (L.read host id) L.entries

/-- The jobs that the pages of a listing are read as, each at some time. -/
inductive Gathers (host : Host) (id : NetString) :
    List JsonElement → List LocalPrintJob → Prop
  | nil : Gathers host id [] []
  | cons {page : JsonElement} {pages : List JsonElement} {jobs jobs' : List LocalPrintJob}
    {fields fields' : Creality.Fields} {now : ℕ → DateTime} {utcNow : DateTimeOffset}
    (hid : fields.id = id)
    (hjobs : (Creality.extractFiles { host with now := now, utcNow := utcNow } page).run fields =
      .ok jobs fields')
    (hpages : Gathers host id pages jobs') : Gathers host id (page :: pages) (jobs ++ jobs')

/-- The connector of a machine parses the listing, at some time, and makes the update of it. A
Creality connector puts it into the update of a message, which has set no local jobs yet. -/
inductive Commits (host : Host) (id : NetString) :
    FileListing → MachineState → MachineStateUpdate → Prop
  | elegoo {data : JsonElement} {s : MachineState} {u : MachineStateUpdate}
    {fields fields' : Elegoo.Fields} {now : ℕ → DateTime} {utcNow : DateTimeOffset}
    (hid : fields.id = id)
    (h : (Elegoo.handleFileListResponse { host with now := now, utcNow := utcNow } s data).run
      fields = .ok (some u) fields') : Commits host id (.elegoo data) s u
  | creality {pages : List JsonElement} {s : MachineState} {u u' : MachineStateUpdate}
    {jobs : List LocalPrintJob} {fields fields' : Creality.Fields}
    (hjobs : Gathers host id pages jobs) (hu : u.localJobs = default)
    (h : (Creality.commitFileList s jobs u).run fields = .ok u' fields') :
    Commits host id (.creality pages) s u'

/-- Jobs are gathered unless no page has a file. -/
theorem Gathers.eq_nil_iff {host : Host} {id : NetString} {pages : List JsonElement}
    {jobs : List LocalPrintJob} (h : Gathers host id pages jobs) :
    jobs = [] ↔ (creality pages).files host id = [] := by
  induction h with
  | nil => exact iff_of_true rfl rfl
  | @cons page pages jobs jobs' fields fields' now utcNow hid hjobs hpages ih =>
    cases page with
    | array entries =>
      have happend : (creality (.array entries :: pages)).files host id =
          listed (Creality.listedFile host id) entries ++ (creality pages).files host id :=
        List.filterMap_append
      rw [happend, List.append_eq_nil_iff, List.append_eq_nil_iff, ih,
        (Creality.reads_extractFile _).eq_of_run_filterMapM hjobs, allocate_eq_nil_iff, ← hid]
      rfl
    | null => cases hjobs
    | boolean => cases hjobs
    | number => cases hjobs
    | string => cases hjobs
    | object => cases hjobs

/-- **Every commit of a listing** replaces the local jobs, by none only if it has no files. -/
theorem Commits.replaces {host : Host} {id : NetString} {L : FileListing} {s : MachineState}
    {u : MachineStateUpdate} (h : L.Commits host id s u) :
    ∃ jobs, u.Replaces s jobs ∧ (jobs = [] ↔ L.files host id = []) := by
  cases h with
  | elegoo hid h =>
    rename_i data fields fields' now utcNow
    rw [Elegoo.handleFileListResponse] at h
    rw [files, entries]
    cases hlist : data.tryGetProperty "FileList" with
    | error f =>
      rw [hlist] at h
      cases h
    | ok o =>
      rw [hlist, ofExcept_ok_bind] at h
      cases o with
      | none => cases h
      | some fileList =>
        cases fileList with
        | array entries =>
          change (entries.filterMapM (Elegoo.readFile { host with now := now, utcNow := utcNow })
            >>= fun jobs => pure (some (Elegoo.fileListUpdate s jobs))).run fields = _ at h
          cases hjobs : (entries.filterMapM (Elegoo.readFile
              { host with now := now, utcNow := utcNow })).run fields with
          | error f fields₁ =>
            rw [run_bind_error hjobs] at h
            cases h
          | ok jobs fields₁ =>
            rw [run_bind_ok hjobs] at h
            cases h
            refine ⟨jobs, Elegoo.fileListUpdate_replaces s jobs, ?_⟩
            rw [(Elegoo.reads_readFile _).eq_of_run_filterMapM hjobs, allocate_eq_nil_iff, ← hid]
            rfl
        | null => cases h
        | boolean => cases h
        | number => cases h
        | string => cases h
        | object => cases h
  | creality hjobs hu h =>
    cases h
    refine ⟨Creality.dedupe _, Creality.listFiles_replaces hu, ?_⟩
    rw [Creality.dedupe_eq_nil_iff, hjobs.eq_nil_iff]

/-- **Refreshing a listing** is quiet just when the listing has no files. -/
theorem refresh_iff {ops ops' : ScheduleOps} {host : Host} {id : NetString} {L : FileListing}
    {s₀ s₁ s s' : MachineState} {u₁ u : MachineStateUpdate} {c₁ c : MachineStateChanges}
    (hcommits₁ : L.Commits host id s₀ u₁) (hrun₁ : (u₁.appendUpdate ops).run s₀ = .ok c₁ s₁)
    (hs : s.localJobs = s₁.localJobs) (hcommits : L.Commits host id s u)
    (hrun : (u.appendUpdate ops').run s = .ok c s') :
    KeepsLocalJobs s s' c ↔ L.files host id = [] := by
  obtain ⟨-, rfl⟩ := MachineStateUpdate.run_appendUpdate_ok ops hrun₁
  obtain ⟨rfl, rfl⟩ := MachineStateUpdate.run_appendUpdate_ok ops' hrun
  obtain ⟨jobs₁, hreplaces₁, hnil₁⟩ := hcommits₁.replaces
  obtain ⟨jobs, hreplaces, hnil⟩ := hcommits.replaces
  rw [hreplaces.keepsLocalJobs_iff, hnil]
  refine and_iff_right_of_imp fun hfiles job hjob => ?_
  rw [hs, hreplaces₁.mem_apply, hnil₁.mpr hfiles] at hjob
  exact List.not_mem_nil hjob.1

/-- The data of a response that lists one file. -/
private def cubeData : JsonElement :=
  .object [("FileList", .array [.object [("name", .string "cube.gcode")]])]

/-- The update that it makes. -/
private def listCube (s : MachineState) (address : ℕ) : MachineStateUpdate :=
  Elegoo.fileListUpdate s (allocate ((elegoo cubeData).files default none) address)

private def withCube : MachineState :=
  (listCube default 0).apply (default : Heap Unit).ops default

private theorem commits_listCube (s : MachineState) (address : ℕ) :
    (elegoo cubeData).Commits default none s (listCube s address) :=
  @Commits.elegoo default none cubeData s _ { (default : Elegoo.Fields) with nextObject := address }
    _ default default rfl rfl

theorem refresh_iff_cube :
    KeepsLocalJobs withCube ((listCube withCube 1).apply (default : Heap Unit).ops withCube)
      ((listCube withCube 1).changed (default : Heap Unit).ops withCube) ↔
    (elegoo cubeData).files default none = [] :=
  @refresh_iff (default : Heap Unit).ops (default : Heap Unit).ops default none (elegoo cubeData)
    default withCube withCube _ _ _ _ _ (commits_listCube default 0) rfl rfl
    (commits_listCube withCube 1) rfl

/-- Listing the same file again reports it as added and removed. -/
theorem refresh_fails :
    ¬ ∀ (ops ops' : ScheduleOps) (host : Host) (id : NetString) (L : FileListing)
      (s₀ s₁ s s' : MachineState) (u₁ u : MachineStateUpdate) (c₁ c : MachineStateChanges),
      L.Commits host id s₀ u₁ → (u₁.appendUpdate ops).run s₀ = .ok c₁ s₁ →
        s.localJobs = s₁.localJobs → L.Commits host id s u →
          (u.appendUpdate ops').run s = .ok c s' → KeepsLocalJobs s s' c := by
  intro hall
  have hkeeps := hall (default : Heap Unit).ops (default : Heap Unit).ops default none
    (elegoo cubeData) default withCube withCube _ _ _ _ _ (commits_listCube default 0) rfl rfl
    (commits_listCube withCube 1) rfl
  have hnil := ((Elegoo.fileListUpdate_replaces withCube
    (allocate ((elegoo cubeData).files default none) 1)).keepsLocalJobs_iff.mp hkeeps).2
  exact absurd (allocate_eq_nil_iff.mp hnil) (by decide)

end FileListing

end Connect3Dp
