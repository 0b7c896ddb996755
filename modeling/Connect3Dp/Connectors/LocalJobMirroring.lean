import Connect3Dp.Connectors.BambuLabFTP
import Connect3Dp.Connectors.FileHandles
import Connect3Dp.Runtime.Transition

/-!
# The local jobs of a Bambu Lab printer

`LocalJobs` is to mirror the files of the printer: one job for each listed path whose last download
succeeded (`Mirrors`). The handler for removed files compares the paths of the jobs, which have lost
their leading `/`, with paths that still have it, so no job is ever removed, and each job has a
dictionary of its own, so a file that is reported again gets a second one. A pass keeps the mirror
as long as it has nothing to remove or to repeat: `Keeps` says when, and `Faithful` is the invariant
of the runs that meet it.
-/

namespace Connect3Dp

namespace BambuLab

/-! ### Paths -/

/-- The path begins with `/`. -/
def HasSlash (path : String) : Prop := path.toList.head? = some '/'

theorem HasSlash.toList_eq {path : String} (h : HasSlash path) :
    path.toList = '/' :: (withoutSlash path).toList := by
  unfold HasSlash at h
  rw [withoutSlash, String.toList_ofList]
  cases hchars : path.toList with
  | nil =>
    rw [hchars] at h
    cases h
  | cons c cs =>
    rw [hchars] at h
    cases h
    rfl

theorem withoutSlash_inj {path path' : String} (h : HasSlash path) (h' : HasSlash path')
    (heq : withoutSlash path = withoutSlash path') : path = path' :=
  String.toList_inj.mp (by rw [h.toList_eq, h'.toList_eq, heq])

theorem getLast?_of_isSuffix {α : Type*} {l l' : List α} (h : l <:+ l') (hne : l ≠ []) :
    l'.getLast? = l.getLast? := by
  obtain ⟨t, rfl⟩ := h
  exact List.getLast?_append_of_ne_nil t hne

/-- The handle of a listed file has its path without the `/`. -/
theorem tryParseAs3MFHandle_withoutSlash {path : String} (h : HasSlash path)
    (h3MF : is3MF path = true) (machineID : NetString) (hash : NetString) :
    tryParseAs3MFHandle (handleAs3MF machineID (withoutSlash path) hash) =
      .ok (some (withoutSlash path)) := by
  -- the path ends in `f` or `F`, so it is no thumbnail's
  obtain ⟨c, hc, hupper⟩ : ∃ c, path.toList.getLast? = some c ∧ c.toUpper = 'F' := by
    have hlast : (path.toList.map Char.toUpper).getLast? = some 'F' :=
      getLast?_of_isSuffix (List.isSuffixOf_iff_suffix.mp h3MF) (by decide)
    rwa [List.getLast?_map, Option.map_eq_some_iff] at hlast
  have hne : (withoutSlash path).toList ≠ [] := by
    intro hnil
    rw [h.toList_eq, hnil] at hc
    cases hc
    exact absurd hupper (by decide)
  have hlast : (withoutSlash path).toList.getLast? = some c := by
    rw [← hc, h.toList_eq, ← List.singleton_append, List.getLast?_append_of_ne_nil _ hne]
  rw [tryParseAs3MFHandle_handleAs3MF, if_neg]
  rintro (hname | hsuffix)
  · have hl : some 'l' = some c := by
      rw [← hlast, hname]
      decide
    cases hl
    exact absurd hupper (by decide)
  · have hl : some c = some 'l' := hlast ▸ getLast?_of_isSuffix hsuffix (by decide)
    cases hl
    exact absurd hupper (by decide)

/-! ### Listings -/

variable {ignoreCase : String → String}

/-- What `currentFiles` has under a key is a listed file of that key. -/
theorem mem_listedPaths_of_tryGetValue {items : List FtpListItem} {key path : String}
    {item : FtpListItem}
    (h : (currentFiles ignoreCase items).tryGetValue key = some (path, item)) :
    key = ignoreCase path ∧ path ∈ listedPaths items := by
  induction items using List.reverseRecOn generalizing key path item with
  | nil => cases h
  | append_singleton items last ih =>
    have hmem : ∀ {path : String}, path ∈ listedPaths items →
        path ∈ listedPaths (items ++ [last]) := by
      intro path hpath
      rw [listedPaths, List.filter_append, List.map_append]
      exact List.mem_append_left _ hpath
    rw [currentFiles, List.foldl_append, List.foldl_cons, List.foldl_nil] at h
    split at h
    case isFalse => exact ⟨(ih h).1, hmem (ih h).2⟩
    case isTrue h3MF =>
      rw [Dictionary.tryGetValue_set] at h
      split at h
      case isFalse => exact ⟨(ih h).1, hmem (ih h).2⟩
      case isTrue hkey =>
        cases h
        subst hkey
        change _ = ignoreCase ((((currentFiles ignoreCase items).tryGetValue _).map Prod.fst).getD
          last.fullName) ∧ ((((currentFiles ignoreCase items).tryGetValue _).map Prod.fst).getD
          last.fullName) ∈ _
        cases hold : (currentFiles ignoreCase items).tryGetValue (ignoreCase last.fullName) with
        | none =>
          refine ⟨rfl, ?_⟩
          rw [listedPaths, List.filter_append, List.map_append]
          exact List.mem_append_right _ (by simp [h3MF])
        | some old => exact ⟨(ih hold).1, hmem (ih hold).2⟩

/-- Every listed file has a key. -/
theorem containsKey_currentFiles {items : List FtpListItem} {path : String}
    (h : path ∈ listedPaths items) :
    (currentFiles ignoreCase items).containsKey (ignoreCase path) = true := by
  induction items using List.reverseRecOn with
  | nil => cases h
  | append_singleton items last ih =>
    rw [listedPaths, List.filter_append, List.map_append, List.mem_append] at h
    rw [currentFiles, List.foldl_append, List.foldl_cons, List.foldl_nil]
    change Dictionary.containsKey (if _ then (currentFiles ignoreCase items).set _ _ else
      currentFiles ignoreCase items) _ = true
    split
    case isFalse h3MF =>
      refine ih (h.resolve_right ?_)
      simp [h3MF]
    case isTrue h3MF =>
      rw [Dictionary.containsKey, Dictionary.tryGetValue_set]
      split
      case isTrue => rfl
      case isFalse hkey =>
        refine ih (h.resolve_right fun hlast => hkey ?_)
        simp only [List.filter_cons, h3MF, if_true, List.filter_nil, List.map_cons, List.map_nil,
          List.mem_singleton] at hlast
        rw [hlast]

/-- The files of a listing have different paths. -/
theorem nodup_currentFiles (items : List FtpListItem) :
    ((currentFiles ignoreCase items).values.map Prod.fst).Nodup := by
  have hentries : ∀ e ∈ (currentFiles ignoreCase items).entries, ignoreCase e.2.1 = e.1 := by
    rintro ⟨key, path, item⟩ he
    exact (mem_listedPaths_of_tryGetValue (Dictionary.mem_entries_iff.mp he)).1.symm
  have hkeys : ((currentFiles ignoreCase items).values.map Prod.fst).map ignoreCase =
      (currentFiles ignoreCase items).entries.map Prod.fst := by
    rw [Dictionary.values, List.map_map, List.map_map]
    exact List.map_congr_left hentries
  exact List.Nodup.of_map ignoreCase (hkeys ▸ (currentFiles ignoreCase items).nodup_keys)

/-! ### Commits -/

section Commits

variable {Cron : Type} [DecidableEq Cron] [Hashable (HeatingSchedule Cron)]
  [Hashable (ScheduledPrint Cron)] {env : Environment Cron} {c c' : MachineConnection Cron}

/-- A commit of one job adds it. -/
theorem mem_localJobs_setLocalJobs {job : LocalPrintJob}
    (h : MachineConnection.CommitStep env ((default : MachineStateUpdate).setLocalJobs job) c c')
    (job' : LocalPrintJob) :
    job' ∈ c'.state.localJobs ↔ job' ∈ c.state.localJobs ∨ job' = job := by
  have hharmless : ((default : MachineStateUpdate).setLocalJobs job).Harmless :=
    ⟨MachineStateUpdate.harmless_default.keepsMaterials,
      MachineStateUpdate.harmless_default.keepsJob, MachineStateUpdate.harmless_default.usages⟩
  have hstate : c'.state.localJobs =
      (((default : MachineStateUpdate).setLocalJobs job).localJobs).apply (.values LocalPrintJob)
        c.state.localJobs := by
    obtain ⟨c₁, hsame, hstate⟩ := MachineConnection.state_commitStep_of_harmless h hharmless
    rw [hstate, show c.state = c₁.state from hsame.symm]
    rfl
  have hadditions : (((default : MachineStateUpdate).setLocalJobs job).localJobs).additions
      (.values LocalPrintJob) = [job] := rfl
  have hremovals : (((default : MachineStateUpdate).setLocalJobs job).localJobs).removals
      (.values LocalPrintJob) = [] := rfl
  rw [hstate, SetBuffer.apply, hadditions, hremovals, HashSetOps.mem_exceptWith,
    HashSetOps.mem_unionWith]
  simp

end Commits

/-! ### Runs -/

/-- What can happen to a machine and its FTP connection. -/
inductive MirrorEvent (Cron : Type)
  /-- `ConnectAsync`, on a connection that is down. -/
  | connect
  | beginPass (env : Environment Cron) (items : List FtpListItem)
  | download (env : Environment Cron) (transfer : Transfer)
  | passEnd
  /-- Everything that leaves the local jobs and the tables of the scan loop alone. -/
  | other

namespace LocalJobMirror

variable {Cron : Type}

/-- A new connection. -/
structure Initial (σ : LocalJobMirror Cron) : Prop where
  localJobs : ∀ job, job ∉ σ.machine.state.localJobs
  ftp : σ.ftp = .initial
  toDownload : σ.toDownload = none
  listing : σ.listing = []
  succeeded : ∀ path, σ.succeeded path = false

variable (ignoreCase : String → String) (culture : Culture)

/-- One step. The printer lists its files by their full paths. -/
inductive Step [DecidableEq Cron] [Hashable (HeatingSchedule Cron)] [Hashable (ScheduledPrint Cron)]
    (σ : LocalJobMirror Cron) : MirrorEvent Cron → LocalJobMirror Cron → Prop
  | connect :
      Step σ .connect
        { σ with ftp := { σ.ftp with knownPaths := ∅, failedFiles := ∅ }, toDownload := none }
  | beginPass {env : Environment Cron} {items : List FtpListItem} :
      σ.toDownload = none → (∀ path ∈ listedPaths items, HasSlash path) →
      Step σ (.beginPass env items) (σ.beginPass ignoreCase env items)
  | download {env : Environment Cron} {transfer : Transfer} {file : String × FtpListItem}
      {rest : List (String × FtpListItem)} :
      σ.toDownload = some (file :: rest) →
      Step σ (.download env transfer) (σ.download ignoreCase culture env transfer)
  | passEnd : σ.toDownload = some [] → Step σ .passEnd { σ with toDownload := none }
  | other {machine' : MachineConnection Cron} {ftp' : BBLFTPConnection} :
      machine'.state.localJobs = σ.machine.state.localJobs →
      ftp'.knownPaths = σ.ftp.knownPaths → ftp'.failedFiles = σ.ftp.failedFiles →
      Step σ .other { σ with machine := machine', ftp := ftp' }

/-- The job is that of a file. -/
def IsJobOf (job : LocalPrintJob) (path : String) : Prop :=
  tryParseAs3MFHandle job.file = .ok (some (withoutSlash path))

/-- The local jobs are the listed files whose last download succeeded, with one job each. -/
structure Mirrors (σ : LocalJobMirror Cron) : Prop where
  sound : ∀ job ∈ σ.machine.state.localJobs,
    ∃ path ∈ σ.listing, σ.succeeded path = true ∧ IsJobOf job path
  complete : ∀ path ∈ σ.listing, σ.succeeded path = true →
    ∃! job, job ∈ σ.machine.state.localJobs ∧ IsJobOf job path

/-- What an event has to meet: a pass starts only while the file of every job is still listed and
is a known path, and a download that yields a file yields one that a job can be made of. -/
def Keeps (σ : LocalJobMirror Cron) : MirrorEvent Cron → Prop
  | .beginPass _ items => ∀ job ∈ σ.machine.state.localJobs,
      ∃ path ∈ σ.ftp.knownPaths.values, path ∈ listedPaths items ∧ IsJobOf job path
  | .download _ transfer => ∀ path item rest bbl3MF hash,
      σ.toDownload = some ((path, item) :: rest) →
      (σ.ftp.download3MF path transfer).1 = some (bbl3MF, hash) →
        culture.startsWith path "/" = true ∧ ∃ matsUsed time,
          materialsUsed bbl3MF.filaments = .ok matsUsed ∧ bbl3MF.predictedTime = .ok time
  | _ => True

/-! ### The invariant -/

/-- What every state of a run has whose events meet `Keeps`. -/
structure Faithful (σ : LocalJobMirror Cron) : Prop where
  jobs : ∀ job ∈ σ.machine.state.localJobs, ∃ path, σ.succeeded path = true ∧ IsJobOf job path
  unique : ∀ job ∈ σ.machine.state.localJobs, ∀ job' ∈ σ.machine.state.localJobs, ∀ path,
    IsJobOf job path → IsJobOf job' path → job = job'
  present : ∀ path, σ.succeeded path = true → path ∈ σ.listing ∧ HasSlash path ∧
    ∃ job ∈ σ.machine.state.localJobs, IsJobOf job path
  known : ∀ key path, σ.ftp.knownPaths.tryGetValue key = some path →
    key = ignoreCase path ∧ σ.succeeded path = true
  pending : ∀ files, σ.toDownload = some files → (files.map Prod.fst).Nodup ∧
    ∀ path ∈ files.map Prod.fst, path ∈ σ.listing ∧ HasSlash path ∧ is3MF path = true ∧
      σ.succeeded path = false

variable {ignoreCase culture} {σ σ' : LocalJobMirror Cron} {e : MirrorEvent Cron}

theorem Faithful.mirrors (h : σ.Faithful ignoreCase) : σ.Mirrors where
  sound job hjob := by
    obtain ⟨path, hpath, hof⟩ := h.jobs job hjob
    exact ⟨path, (h.present path hpath).1, hpath, hof⟩
  complete path _ hpath := by
    obtain ⟨-, -, job, hjob, hof⟩ := h.present path hpath
    exact ⟨job, ⟨hjob, hof⟩, fun job' hjob' => h.unique job' hjob'.1 job hjob path hjob'.2 hof⟩

theorem faithful_initial (h : Initial σ) : σ.Faithful ignoreCase where
  jobs job hjob := absurd hjob (h.localJobs job)
  unique job hjob := absurd hjob (h.localJobs job)
  present path hpath := by
    rw [h.succeeded path] at hpath
    cases hpath
  known key path hpath := by
    rw [h.ftp] at hpath
    cases hpath
  pending files hfiles := by
    rw [h.toDownload] at hfiles
    cases hfiles

/-- A job belongs to one path. -/
theorem IsJobOf.path_eq {job : LocalPrintJob} {path path' : String} (h : IsJobOf job path)
    (h' : IsJobOf job path') (hpath : HasSlash path) (hpath' : HasSlash path') : path = path' := by
  rw [IsJobOf, h'] at h
  exact withoutSlash_inj hpath hpath' (Option.some.inj (Except.ok.inj h)).symm

theorem is3MF_of_mem_listedPaths {items : List FtpListItem} {path : String}
    (h : path ∈ listedPaths items) : is3MF path = true := by
  obtain ⟨item, hitem, rfl⟩ := List.mem_map.mp h
  exact (Bool.and_eq_true_iff.mp (List.mem_filter.mp hitem).2).2

variable [DecidableEq Cron] [Hashable (HeatingSchedule Cron)] [Hashable (ScheduledPrint Cron)]

/-- A pass that has nothing to remove. -/
theorem beginPass_of_removed_eq_nil {env : Environment Cron} {items : List FtpListItem}
    (h : σ.removed ignoreCase items = []) :
    σ.beginPass ignoreCase env items =
      { σ with
        ftp := prune ignoreCase σ.ftp items
        listing := listedPaths items
        toDownload := some ((currentFiles ignoreCase items).values.filter
          (isNew ignoreCase (prune ignoreCase σ.ftp items))) } := by
  rw [beginPass, h]
  rfl

theorem Faithful.beginPass (h : σ.Faithful ignoreCase) {env : Environment Cron}
    {items : List FtpListItem} (hslash : ∀ path ∈ listedPaths items, HasSlash path)
    (hkeeps : σ.Keeps culture (.beginPass env items)) :
    (σ.beginPass ignoreCase env items).Faithful ignoreCase := by
  -- every path with a job is known and listed
  have hlisted : ∀ path, σ.succeeded path = true →
      path ∈ listedPaths items ∧ path ∈ σ.ftp.knownPaths.values := by
    intro path hpath
    obtain ⟨-, hpathSlash, job, hjob, hof⟩ := h.present path hpath
    obtain ⟨path', hknown, hlisted, hof'⟩ := hkeeps job hjob
    obtain rfl := hof.path_eq hof' hpathSlash (hslash path' hlisted)
    exact ⟨hlisted, hknown⟩
  have hremoved : σ.removed ignoreCase items = [] := by
    refine List.filter_eq_nil_iff.mpr fun path hpath => ?_
    obtain ⟨key, hkey⟩ := Dictionary.mem_values_iff.mp hpath
    have hcontains : (currentFiles ignoreCase items).containsKey (ignoreCase path) = true :=
      containsKey_currentFiles (hlisted path (h.known key path hkey).2).1
    rw [hcontains]
    decide
  rw [beginPass_of_removed_eq_nil hremoved]
  refine ⟨h.jobs, h.unique, fun path hpath => ?_, h.known, ?_⟩
  · obtain ⟨-, hpathSlash, hjob⟩ := h.present path hpath
    exact ⟨(hlisted path hpath).1, hpathSlash, hjob⟩
  · rintro files ⟨⟩
    refine ⟨(List.filter_sublist.map Prod.fst).nodup (nodup_currentFiles items), ?_⟩
    intro path hpath
    obtain ⟨⟨_, item⟩, hfile, rfl⟩ := List.mem_map.mp hpath
    obtain ⟨hvalue, hnew⟩ := List.mem_filter.mp hfile
    obtain ⟨key, hkey⟩ := Dictionary.mem_values_iff.mp hvalue
    have hmem := (mem_listedPaths_of_tryGetValue hkey).2
    refine ⟨hmem, hslash _ hmem, is3MF_of_mem_listedPaths hmem, ?_⟩
    by_contra hsucceeded
    obtain ⟨key', hkey'⟩ := Dictionary.mem_values_iff.mp
      (hlisted _ (Bool.not_eq_false _ ▸ hsucceeded)).2
    have hcontains : σ.ftp.knownPaths.containsKey (ignoreCase _) = true :=
      Dictionary.containsKey_iff.mpr ⟨_, (h.known key' _ hkey').1 ▸ hkey'⟩
    have hunknown := (Bool.and_eq_true_iff.mp hnew).1
    rw [show (prune ignoreCase σ.ftp items).knownPaths = σ.ftp.knownPaths from rfl, hcontains]
      at hunknown
    cases hunknown

omit [DecidableEq Cron] [Hashable (HeatingSchedule Cron)] [Hashable (ScheduledPrint Cron)] in
/-- What is left of a pass after its first file. -/
theorem Faithful.pending_tail (h : σ.Faithful ignoreCase) {path : String} {item : FtpListItem}
    {rest : List (String × FtpListItem)} (hfile : σ.toDownload = some ((path, item) :: rest))
    (succeeded : Bool) :
    (rest.map Prod.fst).Nodup ∧ ∀ path' ∈ rest.map Prod.fst, path' ∈ σ.listing ∧
      HasSlash path' ∧ is3MF path' = true ∧
        Function.update σ.succeeded path succeeded path' = false := by
  obtain ⟨hnodup, hall⟩ := h.pending _ hfile
  obtain ⟨hnotMem, hrest⟩ := List.nodup_cons.mp hnodup
  refine ⟨hrest, fun path' hpath' => ?_⟩
  obtain ⟨hlisted, hslash, h3MF, hfailed⟩ := hall path' (List.mem_cons_of_mem path hpath')
  have hne : path' ≠ path := by
    rintro rfl
    exact hnotMem hpath'
  exact ⟨hlisted, hslash, h3MF, (Function.update_of_ne hne ..).trans hfailed⟩

/-- The job of a 3MF file whose filaments and time can be read is a job of the file. -/
theorem exists_localJobOf {path : String} (hslash : HasSlash path) (h3MF : is3MF path = true)
    {bbl3MF : BambuLab3MF} {matsUsed : Dictionary Int32 MaterialToPrint}
    (hmats : materialsUsed bbl3MF.filaments = .ok matsUsed) {time : TimeSpan}
    (htime : bbl3MF.predictedTime = .ok time) (machineID : NetString) (hash : String)
    (object : ℕ) : ∃ job, localJobOf machineID (withoutSlash path) hash bbl3MF object = .ok job ∧
      IsJobOf job path := by
  refine ⟨{
    name := some (getFileNameWithoutExtension (withoutSlash path))
    file := handleAs3MF machineID (withoutSlash path) (some hash)
    totalGramsUsed := bbl3MF.totalFilamentGrams.toInt32
    time := time
    materialsToPrint := ⟨object, matsUsed⟩ }, ?_, ?_⟩
  · rw [localJobOf, hmats, htime]
    rfl
  · exact tryParseAs3MFHandle_withoutSlash hslash h3MF machineID (some hash)

omit [DecidableEq Cron] [Hashable (HeatingSchedule Cron)] [Hashable (ScheduledPrint Cron)] in
/-- A file that has not been reported has no job. -/
theorem Faithful.not_isJobOf (h : σ.Faithful ignoreCase) {path : String}
    (hslash : HasSlash path) (hfailed : σ.succeeded path = false) :
    ∀ job ∈ σ.machine.state.localJobs, ¬ IsJobOf job path := by
  intro job hjob hof
  obtain ⟨path', hpath', hof'⟩ := h.jobs job hjob
  have hsame : path' = path := hof'.path_eq hof (h.present path' hpath').2.1 hslash
  rw [← hsame, hpath'] at hfailed
  cases hfailed

/-- A file is reported, and a job is added for it. -/
theorem Faithful.added (h : σ.Faithful ignoreCase) {env : Environment Cron} {path hash : String}
    {item : FtpListItem} {rest : List (String × FtpListItem)} {bbl3MF : BambuLab3MF}
    (hfile : σ.toDownload = some ((path, item) :: rest))
    {matsUsed : Dictionary Int32 MaterialToPrint}
    (hmats : materialsUsed bbl3MF.filaments = .ok matsUsed) {time : TimeSpan}
    (htime : bbl3MF.predictedTime = .ok time) (ftp' : BBLFTPConnection)
    (hknown : ftp'.knownPaths = if σ.ftp.knownPaths.containsKey (ignoreCase path) then
      σ.ftp.knownPaths else σ.ftp.knownPaths.set (ignoreCase path) path) :
    Faithful ignoreCase { σ with
      machine := onLocal3MFAdded env σ.machineID σ.nextObject (withoutSlash path) hash bbl3MF
        σ.machine
      ftp := ftp'
      nextObject := σ.nextObject + 1
      toDownload := some rest
      succeeded := Function.update σ.succeeded path true } := by
  obtain ⟨hlisted, hslash, h3MF, hfailed⟩ := (h.pending _ hfile).2 path List.mem_cons_self
  obtain ⟨job, hjob, hof⟩ :=
    exists_localJobOf hslash h3MF hmats htime σ.machineID hash σ.nextObject
  have hmem : ∀ job', job' ∈ (onLocal3MFAdded env σ.machineID σ.nextObject (withoutSlash path) hash
      bbl3MF σ.machine).state.localJobs ↔ job' ∈ σ.machine.state.localJobs ∨ job' = job := by
    intro job'
    rw [onLocal3MFAdded, hjob]
    exact mem_localJobs_setLocalJobs (MachineConnection.commitStep_afterCommit ..) job'
  have hfresh := h.not_isJobOf hslash hfailed
  have hkept : ∀ path', σ.succeeded path' = true →
      Function.update σ.succeeded path true path' = true := by
    intro path' hpath'
    have hne : path' ≠ path := by
      rintro rfl
      rw [hpath'] at hfailed
      cases hfailed
    exact (Function.update_of_ne hne ..).trans hpath'
  refine ⟨?_, ?_, ?_, ?_, ?_⟩
  · intro job' hjob'
    obtain hold | rfl := (hmem job').mp hjob'
    · obtain ⟨path', hpath', hof'⟩ := h.jobs job' hold
      exact ⟨path', hkept path' hpath', hof'⟩
    · exact ⟨path, Function.update_self .., hof⟩
  -- the new job is of a file that no old job is of
  · intro job₁ hjob₁ job₂ hjob₂ path' hof₁ hof₂
    have hnew : ∀ job' ∈ σ.machine.state.localJobs, IsJobOf job' path' → ¬ IsJobOf job path' := by
      intro job' hjob' hof' hofPath'
      obtain ⟨path'', hpath'', hof''⟩ := h.jobs job' hjob'
      refine hfresh job' hjob' ?_
      rw [IsJobOf, ← hof, hofPath']
      exact hof'
    obtain hold₁ | rfl := (hmem job₁).mp hjob₁
    · obtain hold₂ | rfl := (hmem job₂).mp hjob₂
      · exact h.unique job₁ hold₁ job₂ hold₂ path' hof₁ hof₂
      · exact absurd hof₂ (hnew job₁ hold₁ hof₁)
    · obtain hold₂ | rfl := (hmem job₂).mp hjob₂
      · exact absurd hof₁ (hnew job₂ hold₂ hof₂)
      · rfl
  · intro path' hpath'
    by_cases hsame : path' = path
    · rw [hsame]
      exact ⟨hlisted, hslash, job, (hmem job).mpr (.inr rfl), hof⟩
    · have hold : σ.succeeded path' = true := (Function.update_of_ne hsame ..).symm.trans hpath'
      obtain ⟨hlisted', hslash', job', hjob', hof'⟩ := h.present path' hold
      exact ⟨hlisted', hslash', job', (hmem job').mpr (.inl hjob'), hof'⟩
  · intro key path' hpath'
    rw [show _ = _ from hknown] at hpath'
    have hkey : σ.ftp.knownPaths.tryGetValue key = some path' →
        key = ignoreCase path' ∧ Function.update σ.succeeded path true path' = true := by
      intro hkey
      obtain ⟨hkey, hold⟩ := h.known key path' hkey
      exact ⟨hkey, hkept path' hold⟩
    split at hpath'
    · exact hkey hpath'
    -- the path was not known, and is from now on
    · rw [Dictionary.tryGetValue_set] at hpath'
      split at hpath'
      case isTrue hsame =>
        cases hpath'
        exact ⟨hsame, Function.update_self ..⟩
      case isFalse => exact hkey hpath'
  · rintro files ⟨⟩
    exact h.pending_tail hfile true

/-- The next file is reported, or fails once more. -/
theorem Faithful.download (h : σ.Faithful ignoreCase) {env : Environment Cron}
    {transfer : Transfer} {file : String × FtpListItem} {rest : List (String × FtpListItem)}
    (hfile : σ.toDownload = some (file :: rest))
    (hkeeps : σ.Keeps culture (.download env transfer)) :
    (σ.download ignoreCase culture env transfer).Faithful ignoreCase := by
  obtain ⟨path, item⟩ := file
  obtain ⟨hknown, -⟩ := σ.ftp.download3MF_tables path transfer
  obtain ⟨-, -, -, hfailed⟩ := (h.pending _ hfile).2 path List.mem_cons_self
  rw [LocalJobMirror.download, hfile]
  dsimp only
  cases hresult : (σ.ftp.download3MF path transfer).1 with
  | some file =>
    obtain ⟨bbl3MF, hash⟩ := file
    obtain ⟨hstarts, matsUsed, time, hmats, htime⟩ :=
      hkeeps path item rest bbl3MF hash hfile hresult
    dsimp only
    rw [hstarts, if_pos rfl]
    exact h.added hfile hmats htime _ (by rw [← hknown])
  | none =>
    have hsame : Function.update σ.succeeded path false = σ.succeeded := by
      rw [← hfailed, Function.update_eq_self]
    have htail := h.pending_tail hfile false
    rw [hsame] at htail
    dsimp only
    rw [hsame]
    refine ⟨h.jobs, h.unique, h.present, ?_, ?_⟩
    · intro key path' hpath'
      exact h.known key path' (hknown ▸ hpath')
    · rintro files ⟨⟩
      exact htail

/-- Every step that meets `Keeps` keeps the invariant. -/
theorem Faithful.step (h : σ.Faithful ignoreCase) (hkeeps : σ.Keeps culture e)
    (hstep : Step ignoreCase culture σ e σ') : σ'.Faithful ignoreCase := by
  cases hstep with
  | connect =>
    refine ⟨h.jobs, h.unique, h.present, fun key path hpath => ?_, fun files hfiles => ?_⟩
    · cases hpath
    · cases hfiles
  | beginPass _ hslash => exact h.beginPass hslash hkeeps
  | download hfile => exact h.download hfile hkeeps
  | passEnd =>
    refine ⟨h.jobs, h.unique, h.present, h.known, fun files hfiles => ?_⟩
    cases hfiles
  | other hjobs hknown =>
    refine ⟨?_, ?_, ?_, ?_, h.pending⟩
    · exact hjobs ▸ h.jobs
    · exact hjobs ▸ h.unique
    · exact hjobs ▸ h.present
    · exact hknown ▸ h.known

/-- A run whose events meet `Keeps`. -/
abbrev ReachableKeeping (ignoreCase : String → String) (culture : Culture) :
    LocalJobMirror Cron → Prop :=
  Reachable Initial fun σ σ' => ∃ e, σ.Keeps culture e ∧ Step ignoreCase culture σ e σ'

theorem faithful_of_reachable (h : ReachableKeeping ignoreCase culture σ) :
    σ.Faithful ignoreCase :=
  h.induct (fun _ h => faithful_initial h) fun _ _ _ h ⟨_, hkeeps, hstep⟩ => h.step hkeeps hstep

/-- **`LocalJobs` mirrors the listing after every pass** of a run whose passes start while the
file of each job is listed and known, and whose downloads yield files that jobs can be made of. -/
theorem localJobs_mirror (ignoreCase : String → String) (culture : Culture)
    (σ σ' : LocalJobMirror Cron) (hrun : ReachableKeeping ignoreCase culture σ)
    (hpass : Step ignoreCase culture σ .passEnd σ') : σ'.Mirrors := by
  have hkeeps : σ.Keeps culture .passEnd := trivial
  exact ((faithful_of_reachable hrun).step hkeeps hpass).mirrors

/-! ### One file -/

private def upperCase (path : String) : String := .ofList (path.toList.map Char.toUpper)

private def invariantCulture : Culture :=
  ⟨fun s value => value.toList.isPrefixOf s.toList, fun _ => ""⟩

private def withoutTasks : Environment Unit := ⟨default, fun _ => none⟩

private def machineOfMirror : MachineConnection Unit := ⟨default, default, default, ⟨[], false, 0⟩⟩

private def newMirror : LocalJobMirror Unit where
  machine := machineOfMirror
  machineID := none
  ftp := .initial
  nextObject := 0
  toDownload := none
  listing := []
  succeeded _ := false

private def vase : FtpListItem := ⟨"/a.3mf", true, 0, default⟩

private def vase3MF : BambuLab3MF := ⟨[], .finite 0, .finite 0⟩

private def vaseJob : LocalPrintJob where
  name := some "a"
  file := handleAs3MF none "a.3mf" (some "h")
  totalGramsUsed := 0
  time := .zero
  materialsToPrint := ⟨0, ∅⟩

/-- The machine with the job. -/
private def machineWithVase : MachineConnection Unit :=
  { machineOfMirror with state :=
    { machineOfMirror.state with localJobs := (∅ : HashSet LocalPrintJob).add vaseJob } }

/-- The mirror after the pass that lists the file. -/
private def mirrorOfVase : LocalJobMirror Unit where
  machine := machineWithVase
  machineID := none
  ftp := ⟨(∅ : Dictionary String BambuLab3MF).set "h" vase3MF,
    (∅ : Dictionary String String).set "/a.3mf" "h", ["h"],
    (∅ : Dictionary String String).set "/A.3MF" "/a.3mf", ∅⟩
  nextObject := 1
  toDownload := some []
  listing := ["/a.3mf"]
  succeeded := Function.update (fun _ => false) "/a.3mf" true

private theorem predictedTime_vase3MF : vase3MF.predictedTime = .ok .zero := by
  have hticks : (Double.finite 0).mul (.ofInt TimeSpan.ticksPerSecond) = .finite 0 := by
    decide +kernel
  simp only [BambuLab3MF.predictedTime, vase3MF, TimeSpan.fromSeconds, TimeSpan.interval, hticks]
  rfl

private theorem localJobOf_vase3MF : localJobOf none "a.3mf" "h" vase3MF 0 = .ok vaseJob := by
  rw [localJobOf, predictedTime_vase3MF]
  rfl

private theorem download_vase :
    (newMirror.beginPass upperCase withoutTasks [vase]).download upperCase invariantCulture
      withoutTasks (.received "h" (some vase3MF)) = mirrorOfVase := by
  have hadded : onLocal3MFAdded withoutTasks none 0 "a.3mf" "h" vase3MF machineOfMirror =
      machineWithVase := by
    rw [onLocal3MFAdded, localJobOf_vase3MF]
    rfl
  rw [mirrorOfVase, ← hadded]
  rfl

private theorem hasSlash_vase : ∀ path ∈ listedPaths [vase], HasSlash path := by
  intro path hpath
  rw [show listedPaths [vase] = ["/a.3mf"] from rfl, List.mem_singleton] at hpath
  subst hpath
  rfl

/-- A pass over the file reaches its end, and meets `Keeps`. -/
private theorem reachable_mirrorOfVase :
    ReachableKeeping upperCase invariantCulture mirrorOfVase := by
  have h₀ : ReachableKeeping upperCase invariantCulture newMirror :=
    .refl ⟨fun _ hjob => (List.not_mem_nil hjob).elim, rfl, rfl, rfl, fun _ => rfl⟩
  have h₁ := Reachable.tail h₀ ⟨.beginPass withoutTasks [vase],
    fun _ hjob => (List.not_mem_nil hjob).elim, .beginPass rfl hasSlash_vase⟩
  rw [← download_vase]
  refine h₁.tail ⟨.download withoutTasks (.received "h" (some vase3MF)), ?_, .download rfl⟩
  rintro path item rest bbl3MF hash ⟨⟩ ⟨⟩
  exact ⟨rfl, ∅, .zero, rfl, predictedTime_vase3MF⟩

/-- The mirror in the next pass, which lists the file again and has nothing to download. -/
private def mirrorAgain : LocalJobMirror Unit :=
  ({ mirrorOfVase with toDownload := none } : LocalJobMirror Unit).beginPass upperCase withoutTasks
    [vase]

private theorem reachable_mirrorAgain :
    ReachableKeeping upperCase invariantCulture mirrorAgain := by
  have h₁ := Reachable.tail reachable_mirrorOfVase ⟨.passEnd, trivial, .passEnd rfl⟩
  refine h₁.tail ⟨.beginPass withoutTasks [vase], fun job hjob => ?_, .beginPass rfl hasSlash_vase⟩
  obtain rfl : job = vaseJob := List.mem_singleton.mp hjob
  exact ⟨"/a.3mf", List.mem_cons_self, List.mem_cons_self, rfl⟩

/-- A pass makes the job of a file, and so does the next one, which starts while the job is
there. -/
theorem localJobs_mirror_oneFile :
    (Mirrors { mirrorOfVase with toDownload := none } ∧
      ∃! job, job ∈ mirrorOfVase.machine.state.localJobs ∧ IsJobOf job "/a.3mf") ∧
    Mirrors { mirrorAgain with toDownload := none } ∧
      ∃! job, job ∈ mirrorAgain.machine.state.localJobs ∧ IsJobOf job "/a.3mf" := by
  have hmirrors :=
    localJobs_mirror upperCase invariantCulture _ _ reachable_mirrorOfVase (.passEnd rfl)
  have hagain :=
    localJobs_mirror upperCase invariantCulture _ _ reachable_mirrorAgain (.passEnd rfl)
  exact ⟨⟨hmirrors, hmirrors.complete "/a.3mf" List.mem_cons_self rfl⟩,
    hagain, hagain.complete "/a.3mf" List.mem_cons_self rfl⟩

/-- The file is gone from the next listing, and its job stays. -/
theorem localJobs_mirror_fails :
    ¬ ∀ σ σ' : LocalJobMirror Unit,
      Reachable Initial (fun σ σ' => ∃ e, Step upperCase invariantCulture σ e σ') σ →
        Step upperCase invariantCulture σ .passEnd σ' → σ'.Mirrors := by
  intro hall
  have h₁ : Reachable Initial (fun σ σ' => ∃ e, Step upperCase invariantCulture σ e σ')
      mirrorOfVase :=
    reachable_mirrorOfVase.mono fun _ _ ⟨e, _, hstep⟩ => ⟨e, hstep⟩
  have h₂ := h₁.tail ⟨_, .passEnd rfl⟩
  have h₃ := h₂.tail ⟨.beginPass withoutTasks [],
    .beginPass rfl fun _ hpath => (List.not_mem_nil hpath).elim⟩
  have hmirrors := hall _ _ h₃ (.passEnd rfl)
  obtain ⟨path, hpath, -⟩ := hmirrors.sound vaseJob (.head _)
  cases hpath

end LocalJobMirror

end BambuLab

end Connect3Dp
