import Connect3Dp.Files.DirectoryTree
import Connect3Dp.Files.Isolation

/-!
# Pruning the file store

`Prune` deletes the files of a machine that are old, or that have not been read for a while, and
`GetStorageInfo` measures them. Both join the name of the machine to the base directory without the
check that `GetFilePath` makes, so the machine `..` is the directory above the store; and both
follow the links that they meet. What they touch on another way is in the directory of the machine
(`staysInside_iff`).

What `Prune` returns is built on `new PruneResult()`, whose list of files is `null`. In a dry run
the first file raises; otherwise the exception is swallowed after each deletion and the result stays
empty (`reports_iff`).
-/

namespace Connect3Dp

namespace DateTime

/-- The last tick of the year 9999. -/
def maxTicks : ℤ := 3155378975999999999

/-- The operator `-`, which raises when the point in time is out of range. -/
def subtract (t : DateTime) (d : TimeSpan) : Except Fault DateTime :=
  let ticks := t.ticks - d.ticks.toInt
  if 0 ≤ ticks ∧ ticks ≤ maxTicks then .ok ⟨ticks⟩ else .error .argumentOutOfRange

end DateTime

structure PruneOptions where
  dryRun : Bool
  olderThan : Option TimeSpan
  notAccessedSince : Option DateTime
  machineID : NetString
  deriving DecidableEq, Inhabited

structure PruneResult where
  filesDeleted : Int32
  bytesFreed : Int64
  /-- `null` in `new PruneResult()` -/
  deletedFiles : Option (List Path)
  deriving DecidableEq, Inhabited

structure StorageInfo where
  totalBytes : Int64
  fileCount : Int64
  oldestFileDate : Option DateTime
  newestFileDate : Option DateTime
  deriving DecidableEq, Inhabited

/-- What the file system refuses, by the names that it is asked for. -/
structure Refusals where
  /-- To delete a file, also because a link on the way to it is gone. -/
  file : List Path → Option Fault
  directory : List Path → Bool
  /-- To list a directory. -/
  listing : List Path → Option Fault
  /-- How many links are followed on one way; on Linux 40. -/
  links : ℕ

structure PruneState where
  root : Directory
  result : PruneResult
  deriving DecidableEq, Inhabited

namespace FileSystemMachineFileStore

/-- The directory that is searched. -/
def searchPath (store : FileSystemMachineFileStore) (machineID : NetString) : Except Fault Path :=
  if isNullOrWhiteSpace machineID then .ok store.basePath
  else Path.combine store.basePath <$> normalizeMachineId machineID

/-- `DateTime.UtcNow - options.OlderThan.Value`, if there is an age. -/
def cutoffDate (utcNow : DateTime) (options : PruneOptions) : Except Fault (Option DateTime) :=
  match options.olderThan with
  | some olderThan => some <$> utcNow.subtract olderThan
  | none => .ok none

/-- The filters on the files. -/
def isMatch (options : PruneOptions) (cutoffDate : Option DateTime) (f : FoundFile) : Bool :=
  (cutoffDate.all fun cutoff => f.attributes.creationTimeUtc.ticks < cutoff.ticks) &&
    options.notAccessedSince.all fun since => f.attributes.lastAccessTimeUtc.ticks < since.ticks

/-- `FileInfo.FullName`. -/
def fullNameOf (f : FoundFile) : Path := Path.render f.fullName

/-- `FileInfo.Length`, which is read again after a deletion. -/
def lengthOf (f : FoundFile) : EStateM Fault PruneState Int64 := do
  match ((← get).root.leaves []).find? (·.place = f.place) with
  | some found => return found.attributes.length
  | none => throw .io

/-- The three lines that account for a file. -/
def account (f : FoundFile) : EStateM Fault PruneState Unit := do
  match (← get).result.deletedFiles with
  | none => throw .nullReference
  | some deletedFiles =>
    modify fun s => { s with
      result.deletedFiles := some (deletedFiles ++ [fullNameOf f]) }
  modify fun s => { s with result.filesDeleted := s.result.filesDeleted + 1 }
  let length ← lengthOf f
  modify fun s => { s with result.bytesFreed := s.result.bytesFreed + length }

/-- `file.Delete()`. -/
def deleteFile (refusals : Refusals) (f : FoundFile) : EStateM Fault PruneState Unit :=
  match refusals.file f.fullName with
  | some e => throw e
  | none => modify fun s => { s with root := s.root.deleteFile f.place [] }

def pruneFile (refusals : Refusals) (dryRun : Bool) (f : FoundFile) :
    EStateM Fault PruneState Unit :=
  if dryRun then account f
  else
    try
      deleteFile refusals f
      account f
    catch _ => pure ()

/-- `Prune`, of a directory that is there. Deleting files takes no directory, so the walk of the
clean-up meets the directories that the first walk met. -/
def pruneDirectory (utcNow : DateTime) (refusals : Refusals) (options : PruneOptions)
    (directory : Spot) : EStateM Fault PruneState Unit := do
  let found ← ofExcept (directory.walk (← get).root refusals.listing)
  let cutoff ← ofExcept (cutoffDate utcNow options)
  ((filesFound found).filter (isMatch options cutoff)).forM (pruneFile refusals options.dryRun)
  if !options.dryRun then
    modify fun s => { s with
      root := s.root.cleanupEmptyDirectories refusals.directory found }

/-- `Prune`, from a state whose result is new. -/
def prune (store : FileSystemMachineFileStore) (utcNow : DateTime) (refusals : Refusals)
    (options : PruneOptions) : EStateM Fault PruneState PruneResult := do
  let path ← ofExcept (searchPath store options.machineID)
  match (← get).root.openDirectory refusals.links path.nodes with
  | some directory => pruneDirectory utcNow refusals options directory
  | none => pure ()
  return (← get).result

/-- `ComputeStorageInfo`, of the files of a directory. `Sum` is checked. -/
def computeStorageInfo (files : List FoundFile) : Except Fault StorageInfo :=
  let totalBytes := (files.map (·.attributes.length.toInt)).sum
  let dates := files.map (·.attributes.creationTimeUtc.ticks)
  if -2 ^ 63 ≤ totalBytes ∧ totalBytes < 2 ^ 63 then .ok {
    totalBytes := .ofInt totalBytes
    fileCount := .ofNat files.length
    oldestFileDate := dates.min?.map (⟨·⟩)
    newestFileDate := dates.max?.map (⟨·⟩) }
  else .error .overflow

/-- The files of a directory, if it is there. -/
def filesIn (refusals : Refusals) (path : Path) (root : Directory) :
    Except Fault (List FoundFile) :=
  match root.openDirectory refusals.links path.nodes with
  | some directory => directory.getFiles root refusals.listing
  | none => .ok []

/-- The files that `GetStorageInfo(machineId)` looks at. -/
def filesOf (store : FileSystemMachineFileStore) (refusals : Refusals) (machineID : String)
    (root : Directory) : Except Fault (List FoundFile) :=
  filesIn refusals (Path.combine store.basePath (escapeDataString machineID)) root

/-- `GetStorageInfo(machineId)`. -/
def getStorageInfo (store : FileSystemMachineFileStore) (refusals : Refusals)
    (machineID : NetString) (root : Directory) : Except Fault StorageInfo :=
  match machineID with
  | some machineID =>
    if isNullOrWhiteSpace (some machineID) then .error .argument
    else filesOf store refusals machineID root >>= computeStorageInfo
  | none => .error .argument

/-! ### What the filters ask for -/

/-- The cutoff date is a date. -/
def CutoffInRange (utcNow : DateTime) (options : PruneOptions) : Prop :=
  ∀ olderThan ∈ options.olderThan, ∃ cutoff, utcNow.subtract olderThan = .ok cutoff

/-- The file is as old as the options ask for, and has not been read for as long. -/
def Matches (utcNow : DateTime) (options : PruneOptions) (f : FoundFile) : Prop :=
  (∀ olderThan ∈ options.olderThan,
    f.attributes.creationTimeUtc.ticks < utcNow.ticks - olderThan.ticks.toInt) ∧
  ∀ since ∈ options.notAccessedSince, f.attributes.lastAccessTimeUtc.ticks < since.ticks

instance (utcNow : DateTime) (options : PruneOptions) (f : FoundFile) :
    Decidable (Matches utcNow options f) :=
  inferInstanceAs (Decidable (_ ∧ _))

/-- The files that were found and that the options ask to delete. -/
def matching (utcNow : DateTime) (options : PruneOptions) (files : List FoundFile) :
    List FoundFile :=
  files.filter fun f => Matches utcNow options f

/-- The files of a directory that the options ask to delete. -/
def matchingFiles (utcNow : DateTime) (refusals : Refusals) (options : PruneOptions) (path : Path)
    (root : Directory) : List FoundFile :=
  matching utcNow options ((filesIn refusals path root).toOption.getD [])

variable {store : FileSystemMachineFileStore} {utcNow : DateTime} {refusals : Refusals}
  {options : PruneOptions} {path : Path} {s : PruneState} {root : Directory} {directory : Spot}
  {found : List Found}

theorem ticks_of_subtract {t cutoff : DateTime} {d : TimeSpan} (h : t.subtract d = .ok cutoff) :
    cutoff.ticks = t.ticks - d.ticks.toInt := by
  simp only [DateTime.subtract] at h
  split at h
  · cases h
    rfl
  · cases h

theorem exists_cutoffDate (h : CutoffInRange utcNow options) :
    ∃ cutoff, cutoffDate utcNow options = .ok cutoff ∧
      ∀ f, isMatch options cutoff f = true ↔ Matches utcNow options f := by
  unfold cutoffDate isMatch Matches
  cases holder : options.olderThan with
  | none =>
    refine ⟨none, rfl, fun f => ?_⟩
    cases options.notAccessedSince <;> simp
  | some olderThan =>
    obtain ⟨cutoff, hcutoff⟩ := h olderThan holder
    have hticks := ticks_of_subtract hcutoff
    refine ⟨some cutoff, by simp only [hcutoff]; rfl, fun f => ?_⟩
    cases options.notAccessedSince <;> simp [hticks]

theorem exists_cutoffDate_error (h : ¬ CutoffInRange utcNow options) :
    ∃ e, cutoffDate utcNow options = .error e := by
  unfold CutoffInRange at h
  push Not at h
  obtain ⟨olderThan, holder, hnone⟩ := h
  unfold cutoffDate
  rw [holder]
  cases hcutoff : utcNow.subtract olderThan with
  | ok cutoff => exact absurd hcutoff (hnone cutoff)
  | error e => exact ⟨e, by simp only [hcutoff]; rfl⟩

/-! ### One file -/

theorem run_account (hnull : s.result.deletedFiles = none) (f : FoundFile) :
    (account f).run s = .error .nullReference s := by
  obtain ⟨root, filesDeleted, bytesFreed, deletedFiles⟩ := s
  obtain rfl : deletedFiles = none := hnull
  rfl

/-- What a file that is taken up leaves of the files. -/
def rootWithout (refusals : Refusals) (root : Directory) (f : FoundFile) : Directory :=
  match refusals.file f.fullName with
  | some _ => root
  | none => root.deleteFile f.place []

/-- A deletion goes through before the result raises, and the result stays as it is. -/
theorem run_pruneFile (hnull : s.result.deletedFiles = none) (f : FoundFile) :
    (pruneFile refusals false f).run s =
      .ok () { s with root := rootWithout refusals s.root f } := by
  have hfails : ∃ e, (deleteFile refusals f >>= fun _ => account f).run s =
      .error e { s with root := rootWithout refusals s.root f } := by
    unfold deleteFile rootWithout
    cases refusals.file f.fullName with
    | some e => exact ⟨e, rfl⟩
    | none =>
      exact ⟨.nullReference,
        run_account (s := { s with root := s.root.deleteFile f.place [] }) hnull f⟩
  obtain ⟨e, he⟩ := hfails
  exact run_tryCatch_error he

/-- In a dry run the first file raises. -/
theorem run_pruneFile_dryRun (hnull : s.result.deletedFiles = none) (f : FoundFile) :
    (pruneFile refusals true f).run s = .error .nullReference s :=
  run_account hnull f

/-! ### The loop -/

/-- What the loop leaves of the files. -/
def rootWithoutAll (refusals : Refusals) (files : List FoundFile) (root : Directory) : Directory :=
  files.foldl (rootWithout refusals) root

variable (refusals) in
theorem run_forM_pruneFile (hnull : s.result.deletedFiles = none) (files : List FoundFile) :
    (files.forM (pruneFile refusals false)).run s =
      .ok () { s with root := rootWithoutAll refusals files s.root } := by
  induction files generalizing s with
  | nil => rfl
  | cons f files ih =>
    change (pruneFile refusals false f >>= fun _ => files.forM (pruneFile refusals false)).run s = _
    rw [run_bind_ok (run_pruneFile hnull f)]
    exact ih (s := { s with root := rootWithout refusals s.root f }) hnull

theorem mem_allFiles_rootWithout {f g : FoundFile} :
    f ∈ (rootWithout refusals root g).allFiles ↔
      f ∈ root.allFiles ∧ (refusals.file g.fullName = none → f.place ≠ g.place) := by
  unfold rootWithout
  cases hrefused : refusals.file g.fullName with
  | some e => simp
  | none => simp [Directory.mem_allFiles_deleteFile]

theorem mem_leaves_rootWithout {f g : FoundFile} :
    f ∈ (rootWithout refusals root g).leaves [] ↔
      f ∈ root.leaves [] ∧ (refusals.file g.fullName = none → f.place ≠ g.place) := by
  unfold rootWithout
  cases hrefused : refusals.file g.fullName with
  | some e => simp
  | none => simp [Directory.leaves_deleteFile]

/-- A file is gone when one at its place was taken up and could be deleted. -/
theorem mem_allFiles_rootWithoutAll {f : FoundFile} {files : List FoundFile} :
    f ∈ (rootWithoutAll refusals files root).allFiles ↔
      f ∈ root.allFiles ∧ ∀ g ∈ files, refusals.file g.fullName = none → f.place ≠ g.place := by
  induction files generalizing root with
  | nil => simp [rootWithoutAll]
  | cons g files ih =>
    rw [rootWithoutAll, List.foldl_cons, ← rootWithoutAll, ih, mem_allFiles_rootWithout,
      List.forall_mem_cons, and_assoc]

theorem mem_leaves_rootWithoutAll {f : FoundFile} {files : List FoundFile} :
    f ∈ (rootWithoutAll refusals files root).leaves [] ↔
      f ∈ root.leaves [] ∧ ∀ g ∈ files, refusals.file g.fullName = none → f.place ≠ g.place := by
  induction files generalizing root with
  | nil => simp [rootWithoutAll]
  | cons g files ih =>
    rw [rootWithoutAll, List.foldl_cons, ← rootWithoutAll, ih, mem_leaves_rootWithout,
      List.forall_mem_cons, and_assoc]

/-! ### The whole run -/

theorem filter_isMatch {cutoff : Option DateTime} (files : List FoundFile)
    (h : ∀ f, isMatch options cutoff f = true ↔ Matches utcNow options f) :
    files.filter (isMatch options cutoff) = matching utcNow options files :=
  List.filter_congr fun f _ => Bool.eq_iff_iff.mpr (by rw [h, decide_eq_true_iff])

variable (refusals) in
theorem run_pruneDirectory_delete (hnull : s.result.deletedFiles = none)
    (hfound : directory.walk s.root refusals.listing = .ok found)
    (hrange : CutoffInRange utcNow options) (hdry : options.dryRun = false) :
    (pruneDirectory utcNow refusals options directory).run s = .ok () { s with
      root := (rootWithoutAll refusals (matching utcNow options (filesFound found))
        s.root).cleanupEmptyDirectories refusals.directory found } := by
  obtain ⟨cutoff, hcutoff, hmatch⟩ := exists_cutoffDate hrange
  have hloop := run_forM_pruneFile refusals hnull (matching utcNow options (filesFound found))
  rw [pruneDirectory, EStateM.run_bind, EStateM.run_get]
  simp only [hfound, hcutoff, ofExcept_ok_bind, hdry, filter_isMatch _ hmatch, EStateM.run_bind,
    hloop]
  rfl

variable (refusals) in
/-- A dry run gets past no file. -/
theorem run_pruneDirectory_dryRun (hnull : s.result.deletedFiles = none)
    (hfound : directory.walk s.root refusals.listing = .ok found)
    (hrange : CutoffInRange utcNow options) (hdry : options.dryRun = true) :
    (pruneDirectory utcNow refusals options directory).run s =
      if matching utcNow options (filesFound found) = [] then .ok () s
      else .error .nullReference s := by
  obtain ⟨cutoff, hcutoff, hmatch⟩ := exists_cutoffDate hrange
  rw [pruneDirectory, EStateM.run_bind, EStateM.run_get]
  simp only [hfound, hcutoff, ofExcept_ok_bind, hdry, filter_isMatch _ hmatch]
  cases hfiles : matching utcNow options (filesFound found) with
  | nil => rfl
  | cons f files =>
    rw [if_neg (List.cons_ne_nil f files)]
    change ((pruneFile refusals true f >>= fun _ => files.forM (pruneFile refusals true)) >>=
      fun _ => _).run s = _
    exact run_bind_error (run_bind_error (run_pruneFile_dryRun hnull f))

variable (refusals) in
/-- Without a list of the files or a cutoff date nothing happens. -/
theorem run_pruneDirectory_error
    (h : ¬ (directory.Listable s.root refusals.listing ∧ CutoffInRange utcNow options)) :
    ∃ e, (pruneDirectory utcNow refusals options directory).run s = .error e s := by
  rw [pruneDirectory, EStateM.run_bind, EStateM.run_get]
  by_cases hlistable : directory.Listable s.root refusals.listing
  · obtain ⟨e, he⟩ := exists_cutoffDate_error fun hrange => h ⟨hlistable, hrange⟩
    obtain ⟨found, hfound, -⟩ := Spot.exists_walk hlistable
    refine ⟨e, ?_⟩
    simp only [hfound, he, ofExcept_ok_bind, ofExcept_error_bind]
    rfl
  · obtain ⟨e, he⟩ := Spot.exists_walk_error hlistable
    refine ⟨e, ?_⟩
    simp only [he, ofExcept_error_bind]
    rfl

/-- A directory that is not there is not searched. -/
theorem run_prune_of_not_exists (hpath : searchPath store options.machineID = .ok path)
    (h : s.root.openDirectory refusals.links path.nodes = none) :
    (prune store utcNow refusals options).run s = .ok s.result s := by
  rw [prune, hpath, ofExcept_ok_bind, EStateM.run_bind, EStateM.run_get]
  simp only [h]
  rfl

theorem run_prune_of_exists (hpath : searchPath store options.machineID = .ok path)
    (h : s.root.openDirectory refusals.links path.nodes = some directory) :
    (prune store utcNow refusals options).run s =
      (pruneDirectory utcNow refusals options directory >>= fun _ =>
        get >>= fun s => pure s.result).run s := by
  rw [prune, hpath, ofExcept_ok_bind, EStateM.run_bind, EStateM.run_get]
  simp only [h]

/-! ### Which files are deleted -/

/-- What the file system is after a prune, whether it returns or raises. -/
def rootAfter (store : FileSystemMachineFileStore) (utcNow : DateTime) (refusals : Refusals)
    (options : PruneOptions) (root : Directory) : Directory :=
  (finalState ((prune store utcNow refusals options).run ⟨root, default⟩)).root

/-- The options ask for the file, no dry run is wanted, and the file system lets it go. -/
structure Deletes (utcNow : DateTime) (refusals : Refusals) (options : PruneOptions)
    (f : FoundFile) : Prop where
  dryRun : options.dryRun = false
  inRange : CutoffInRange utcNow options
  isMatch : Matches utcNow options f
  unrefused : refusals.file f.fullName = none

theorem mem_matching {files : List FoundFile} {f : FoundFile} :
    f ∈ matching utcNow options files ↔ f ∈ files ∧ Matches utcNow options f := by
  rw [matching, List.mem_filter, decide_eq_true_iff]

theorem rootAfter_delete (hpath : searchPath store options.machineID = .ok path)
    (hopen : root.openDirectory refusals.links path.nodes = some directory)
    (hfound : directory.walk root refusals.listing = .ok found) (hdry : options.dryRun = false)
    (hrange : CutoffInRange utcNow options) :
    rootAfter store utcNow refusals options root =
      (rootWithoutAll refusals (matching utcNow options (filesFound found))
        root).cleanupEmptyDirectories refusals.directory found := by
  have hdelete := run_pruneDirectory_delete refusals (s := ⟨root, default⟩) rfl hfound hrange hdry
  rw [rootAfter, run_prune_of_exists hpath hopen, run_bind_ok hdelete]
  rfl

/-- Nothing is deleted in a directory that is not there or cannot be listed, in a dry run, or when
the cutoff date is no date. -/
theorem rootAfter_of_not (hpath : searchPath store options.machineID = .ok path)
    (h : ∀ directory, root.openDirectory refusals.links path.nodes = some directory →
      ¬ (directory.Listable root refusals.listing ∧ options.dryRun = false ∧
        CutoffInRange utcNow options)) :
    rootAfter store utcNow refusals options root = root := by
  unfold rootAfter
  cases hopen : root.openDirectory refusals.links path.nodes with
  | none =>
    rw [run_prune_of_not_exists hpath hopen]
    rfl
  | some directory =>
    rw [run_prune_of_exists hpath hopen]
    by_cases hreturns : directory.Listable root refusals.listing ∧ CutoffInRange utcNow options
    · have hdry : options.dryRun = true := by
        rw [← Bool.not_eq_false]
        exact fun hdry => h directory hopen ⟨hreturns.1, hdry, hreturns.2⟩
      obtain ⟨found, hfound, -⟩ := Spot.exists_walk hreturns.1
      have hrun := run_pruneDirectory_dryRun refusals (s := ⟨root, default⟩) rfl hfound
        hreturns.2 hdry
      split at hrun
      · rw [run_bind_ok hrun]
        rfl
      · rw [run_bind_error hrun]
        rfl
    · obtain ⟨e, hrun⟩ := run_pruneDirectory_error refusals (s := ⟨root, default⟩) hreturns
      rw [run_bind_error hrun]
      rfl

/-- **A file is gone after a prune** just when it was met under some name and deleted. -/
theorem notMem_rootAfter_iff (hpath : searchPath store options.machineID = .ok path)
    {f : FoundFile} (hf : f ∈ root.allFiles) :
    f ∉ (rootAfter store utcNow refusals options root).allFiles ↔
      ∃ directory, root.openDirectory refusals.links path.nodes = some directory ∧
        directory.Listable root refusals.listing ∧
        ∃ g, directory.Meets root g ∧ Deletes utcNow refusals options g ∧ f.place = g.place := by
  by_cases h : ∃ directory, root.openDirectory refusals.links path.nodes = some directory ∧
      directory.Listable root refusals.listing ∧ options.dryRun = false ∧
        CutoffInRange utcNow options
  · obtain ⟨directory, hopen, hlistable, hdry, hrange⟩ := h
    obtain ⟨found, hfound, hmeets⟩ := Spot.exists_walk hlistable
    rw [rootAfter_delete hpath hopen hfound hdry hrange]
    constructor
    · intro hgone
      have hdeleted := mt Directory.mem_allFiles_cleanupEmptyDirectories hgone
      rw [mem_allFiles_rootWithoutAll, and_iff_right hf] at hdeleted
      push Not at hdeleted
      obtain ⟨g, hg, hunrefused, hplace⟩ := hdeleted
      obtain ⟨hg, hmatch⟩ := mem_matching.mp hg
      exact ⟨directory, hopen, hlistable, g, (hmeets g).mp hg,
        ⟨hdry, hrange, hmatch, hunrefused⟩, hplace⟩
    · rintro ⟨directory', hopen', -, g, hg, hdeletes, hplace⟩ hstays
      obtain rfl := Option.some.inj (hopen.symm.trans hopen')
      have hleaf := Directory.mem_leaves_of_cleanupEmptyDirectories
        (Directory.mem_leaves_of_mem_files hstays)
      exact (mem_leaves_rootWithoutAll.mp hleaf).2 g
        (mem_matching.mpr ⟨(hmeets g).mpr hg, hdeletes.isMatch⟩) hdeletes.unrefused hplace
  · rw [rootAfter_of_not hpath fun directory hopen hreturns => h ⟨directory, hopen, hreturns⟩]
    refine iff_of_false (fun hgone => hgone hf) ?_
    rintro ⟨directory, hopen, hlistable, g, -, hdeletes, -⟩
    exact h ⟨directory, hopen, hlistable, hdeletes.dryRun, hdeletes.inRange⟩

/-! ### Staying inside -/

/-- The directory that is searched, for a machine that is named. -/
theorem searchPath_eq {machineID : String} (h : isNullOrWhiteSpace (some machineID) = false) :
    searchPath store (some machineID) =
      .ok (Path.combine store.basePath (escapeDataString machineID)) := by
  rw [searchPath, h]
  rfl

/-- Where the directory of a machine is. -/
theorem nodes_machineDirectory (store : FileSystemMachineFileStore) {machineID : String}
    (hne : machineID ≠ "") :
    (Path.combine store.basePath (escapeDataString machineID)).nodes =
      if machineID = ".." then store.basePath.nodes.dropLast
      else if machineID = "." then store.basePath.nodes
      else store.basePath.nodes ++ [escapeDataString machineID] := by
  have hbase : store.basePath ≠ [] := store.isFull.ne_nil
  split
  · next h =>
    have hdots : escapeDataString machineID = [Path.dot, Path.dot] := by
      rw [h]
      decide
    rw [hdots, Path.nodes_combine_dots hbase]
  · next hdots =>
    split
    · next h =>
      have hdot : escapeDataString machineID = [Path.dot] := by
        rw [h]
        decide
      rw [hdot, Path.nodes_combine_dot hbase]
    · next hdot =>
      exact Path.nodes_combine_plain hbase (plain_escapeDataString ⟨hne, hdot, hdots⟩)

/-- The place is below the directory that a path leads to. -/
def IsIn (refusals : Refusals) (path : Path) (root : Directory) (place : List Path) : Prop :=
  ∃ directory, root.openDirectory refusals.links path.nodes = some directory ∧
    IsBelow directory.place place

instance (refusals : Refusals) (path : Path) (root : Directory) (place : List Path) :
    Decidable (IsIn refusals path root place) :=
  decidable_of_iff ((root.openDirectory refusals.links path.nodes).any
    fun directory => IsBelow directory.place place) (by simp [IsIn, Option.any_eq_true])

/-- The place is in the directory of the machine and in the directory of the store. -/
def StaysInside (store : FileSystemMachineFileStore) (refusals : Refusals) (machineID : String)
    (root : Directory) (place : List Path) : Prop :=
  IsIn refusals (Path.combine store.basePath (escapeDataString machineID)) root place ∧
    IsIn refusals store.basePath root place

instance (store : FileSystemMachineFileStore) (refusals : Refusals) (machineID : String)
    (root : Directory) (place : List Path) :
    Decidable (StaysInside store refusals machineID root place) :=
  inferInstanceAs (Decidable (_ ∧ _))

/-- Only files of the machine are gone after a prune. -/
def PrunesInside (store : FileSystemMachineFileStore) (utcNow : DateTime) (refusals : Refusals)
    (options : PruneOptions) (machineID : String) (root : Directory) : Prop :=
  ∀ f ∈ root.allFiles, f ∉ (rootAfter store utcNow refusals options root).allFiles →
    StaysInside store refusals machineID root f.place

/-- Only files of the machine are counted. -/
def CountsInside (store : FileSystemMachineFileStore) (refusals : Refusals) (machineID : String)
    (root : Directory) : Prop :=
  ∀ files, filesOf store refusals machineID root = .ok files →
    ∀ f ∈ files, StaysInside store refusals machineID root f.place

/-- The way from the store goes up, or along a link behind the directory of the store. -/
def Strays (store : FileSystemMachineFileStore) (refusals : Refusals) (machineID : String)
    (root : Directory) (directory : Spot) : Prop :=
  machineID = ".." ∨ ∃ base, root.openDirectory refusals.links store.basePath.nodes = some base ∧
    directory.links < base.links

/-- What a walk meets where it strays lies inside. -/
def StraysInside (store : FileSystemMachineFileStore) (refusals : Refusals) (machineID : String)
    (root : Directory) (concerns : FoundFile → Prop) : Prop :=
  ∀ directory, root.openDirectory refusals.links
      (Path.combine store.basePath (escapeDataString machineID)).nodes = some directory →
    directory.Listable root refusals.listing →
    ∀ t, directory.Reaches root t → Strays store refusals machineID root t →
      ∀ f, t.Has root (.file f) → concerns f → StaysInside store refusals machineID root f.place

/-- A directory that is there and can be listed has the files that the walk meets. -/
theorem exists_filesIn (hopen : root.openDirectory refusals.links path.nodes = some directory)
    (hlistable : directory.Listable root refusals.listing) :
    ∃ files, filesIn refusals path root = .ok files ∧
      ∀ f, f ∈ files ↔ directory.Meets root f := by
  obtain ⟨found, hfound, hmeets⟩ := Spot.exists_walk hlistable
  refine ⟨filesFound found, ?_, hmeets⟩
  simp only [filesIn, hopen, Spot.getFiles, hfound]
  rfl

theorem listable_of_filesIn (hopen : root.openDirectory refusals.links path.nodes = some directory)
    {files : List FoundFile} (h : filesIn refusals path root = .ok files) :
    directory.Listable root refusals.listing := by
  simp only [filesIn, hopen] at h
  obtain ⟨found, hfound, -⟩ := map_eq_ok_iff.mp h
  exact directory.walk_spec.returns_iff.mp ⟨found, hfound⟩

/-- Where a walk does not stray it is in the directories that it came through. -/
theorem staysInside_of_not_strays {machineID : String} (hne : machineID ≠ "") {t : Spot}
    (hopen : root.openDirectory refusals.links
      (Path.combine store.basePath (escapeDataString machineID)).nodes = some directory)
    (hreaches : directory.Reaches root t) (hstraight : ¬ Strays store refusals machineID root t)
    {f : FoundFile} (hfile : t.Has root (.file f)) :
    StaysInside store refusals machineID root f.place := by
  obtain ⟨hdots, hlinks⟩ := not_or.mp hstraight
  obtain ⟨base, hbase, hdown⟩ : ∃ base,
      root.openDirectory refusals.links store.basePath.nodes = some base ∧
        base.Reaches root directory := by
    rw [nodes_machineDirectory store hne, if_neg hdots] at hopen
    split at hopen
    · exact ⟨directory, hopen, .refl⟩
    · obtain ⟨base, hbase, hleads⟩ := Directory.exists_of_openDirectory_concat hopen
      exact ⟨base, hbase, .single hleads⟩
  obtain ⟨hle, hplace⟩ := hdown.place
  obtain ⟨hle', hplace'⟩ := hreaches.place
  have hsame : base.links ≤ t.links := not_lt.mp fun hlt => hlinks ⟨base, hbase, hlt⟩
  have hbelow : IsBelow directory.place f.place :=
    hfile.place.of_prefix (hplace' (hle'.antisymm (hle.trans hsame)))
  exact ⟨⟨directory, hopen, hbelow⟩,
    ⟨base, hbase, hbelow.of_prefix (hplace (hle.antisymm (hsame.trans hle')))⟩⟩

/-- **What is deleted and what is counted lies inside** just when the files do that are met on the
way up from the store, or along a link: all of them are counted, and those are deleted that the
options ask for and that the file system lets go. -/
theorem staysInside_iff (store : FileSystemMachineFileStore) (utcNow : DateTime)
    (refusals : Refusals) (options : PruneOptions) (machineID : String) (root : Directory)
    (hid : options.machineID = some machineID)
    (hblank : isNullOrWhiteSpace (some machineID) = false) :
    (PrunesInside store utcNow refusals options machineID root ↔
      StraysInside store refusals machineID root fun g =>
        Deletes utcNow refusals options g ∧ ∃ f ∈ root.allFiles, f.place = g.place) ∧
    (CountsInside store refusals machineID root ↔
      StraysInside store refusals machineID root fun _ => True) := by
  have hne : machineID ≠ "" := by
    rintro rfl
    cases hblank
  have hpath : searchPath store options.machineID =
      .ok (Path.combine store.basePath (escapeDataString machineID)) := by
    rw [hid, searchPath_eq hblank]
  have hmet (concerns : FoundFile → Prop) (h : StraysInside store refusals machineID root concerns)
      {directory : Spot} (hopen : root.openDirectory refusals.links
        (Path.combine store.basePath (escapeDataString machineID)).nodes = some directory)
      (hlistable : directory.Listable root refusals.listing) {g : FoundFile}
      (hmeets : directory.Meets root g) (hconcerns : concerns g) :
      StaysInside store refusals machineID root g.place := by
    obtain ⟨t, hreaches, hfile⟩ := hmeets
    by_cases hstrays : Strays store refusals machineID root t
    · exact h directory hopen hlistable t hreaches hstrays g hfile hconcerns
    · exact staysInside_of_not_strays hne hopen hreaches hstrays hfile
  refine ⟨⟨fun h => ?_, fun h f hf hgone => ?_⟩, ⟨fun h => ?_, fun h files hfiles f hf => ?_⟩⟩
  · rintro directory hopen hlistable t hreaches - g hfile ⟨hdeletes, f, hf, hplace⟩
    rw [← hplace]
    exact h f hf ((notMem_rootAfter_iff hpath hf).mpr
      ⟨directory, hopen, hlistable, g, ⟨t, hreaches, hfile⟩, hdeletes, hplace⟩)
  · obtain ⟨directory, hopen, hlistable, g, hmeets, hdeletes, hplace⟩ :=
      (notMem_rootAfter_iff hpath hf).mp hgone
    rw [hplace]
    exact hmet _ h hopen hlistable hmeets ⟨hdeletes, f, hf, hplace⟩
  · rintro directory hopen hlistable t hreaches - g hfile -
    obtain ⟨files, hfiles, hmeets⟩ := exists_filesIn hopen hlistable
    exact h files hfiles g ((hmeets g).mpr ⟨t, hreaches, hfile⟩)
  · cases hopen : root.openDirectory refusals.links
        (Path.combine store.basePath (escapeDataString machineID)).nodes with
    | none =>
      simp only [filesOf, filesIn, hopen] at hfiles
      cases hfiles
      cases hf
    | some directory =>
      have hlistable := listable_of_filesIn hopen hfiles
      obtain ⟨files', hfiles', hmeets⟩ := exists_filesIn hopen hlistable
      obtain rfl := Except.ok.inj (hfiles.symm.trans hfiles')
      exact hmet _ h hopen hlistable ((hmeets f).mp hf) trivial

/-! ### What is reported -/

/-- The account of a list of files. -/
def accountOf (files : List FoundFile) : PruneResult where
  filesDeleted := .ofNat files.length
  bytesFreed := .ofInt (files.map (·.attributes.length.toInt)).sum
  deletedFiles := some (files.map fullNameOf)

/-- The result, with `null` read as a list without elements. -/
def readNull (result : PruneResult) : PruneResult :=
  { result with deletedFiles := some (result.deletedFiles.getD []) }

/-- A prune returns the account of the files that match, and so does its dry run, which changes
nothing. -/
structure Reports (read : PruneResult → PruneResult) (store : FileSystemMachineFileStore)
    (utcNow : DateTime) (refusals : Refusals) (options : PruneOptions) (root : Directory)
    (path : Path) : Prop where
  real : ∃ result s, (prune store utcNow refusals { options with dryRun := false }).run
      ⟨root, default⟩ = .ok result s ∧
    read result = accountOf (matchingFiles utcNow refusals options path root)
  dry : ∃ result s, (prune store utcNow refusals { options with dryRun := true }).run
      ⟨root, default⟩ = .ok result s ∧
    read result = accountOf (matchingFiles utcNow refusals options path root) ∧ s.root = root

/-- If the directory is there, it can be listed, the cutoff date is a date, and no file that is met
matches. -/
def FindsNothing (utcNow : DateTime) (refusals : Refusals) (options : PruneOptions)
    (root : Directory) (path : Path) : Prop :=
  ∀ directory, root.openDirectory refusals.links path.nodes = some directory →
    directory.Listable root refusals.listing ∧ CutoffInRange utcNow options ∧
      ∀ f, directory.Meets root f → ¬ Matches utcNow options f

/-- Every machine ID has a directory to search, so the path of a prune is never wanting. -/
theorem exists_searchPath (store : FileSystemMachineFileStore) (machineID : NetString) :
    ∃ path, searchPath store machineID = .ok path := by
  cases hblank : isNullOrWhiteSpace machineID with
  | true => exact ⟨store.basePath, by rw [searchPath, hblank]; rfl⟩
  | false =>
    cases machineID with
    | none => cases hblank
    | some machineID => exact ⟨_, searchPath_eq hblank⟩

/-- A prune that returns has nothing to report. -/
theorem result_of_run_prune (hpath : searchPath store options.machineID = .ok path)
    {result : PruneResult} (h : (prune store utcNow refusals options).run ⟨root, default⟩ =
      .ok result s) : result = default := by
  cases hopen : root.openDirectory refusals.links path.nodes with
  | none =>
    rw [run_prune_of_not_exists hpath hopen] at h
    cases h
    rfl
  | some directory =>
    rw [run_prune_of_exists hpath hopen] at h
    obtain ⟨_, s', hrun, h⟩ := exists_of_run_bind_ok h
    have hresult : s'.result = default := by
      by_cases hreturns : directory.Listable root refusals.listing ∧ CutoffInRange utcNow options
      · obtain ⟨found, hfound, -⟩ := Spot.exists_walk hreturns.1
        cases hdry : options.dryRun with
        | true =>
          rw [run_pruneDirectory_dryRun refusals rfl hfound hreturns.2 hdry] at hrun
          split at hrun
          · cases hrun
            rfl
          · cases hrun
        | false =>
          rw [run_pruneDirectory_delete refusals rfl hfound hreturns.2 hdry] at hrun
          cases hrun
          rfl
      · obtain ⟨e, he⟩ := run_pruneDirectory_error refusals (s := ⟨root, default⟩) hreturns
        rw [he] at hrun
        cases hrun
    cases h
    exact hresult

theorem matchingFiles_of_findsNothing (h : FindsNothing utcNow refusals options root path) :
    matchingFiles utcNow refusals options path root = [] := by
  rw [List.eq_nil_iff_forall_not_mem]
  intro f hf
  obtain ⟨hf, hmatch⟩ := mem_matching.mp hf
  cases hopen : root.openDirectory refusals.links path.nodes with
  | none =>
    simp only [filesIn, hopen] at hf
    cases hf
  | some directory =>
    obtain ⟨hlistable, -, hnone⟩ := h directory hopen
    obtain ⟨files, hfiles, hmeets⟩ := exists_filesIn hopen hlistable
    rw [hfiles] at hf
    exact hnone f ((hmeets f).mp hf) hmatch

/-- A dry run returns when it meets no file. -/
theorem run_prune_dryRun_iff (hpath : searchPath store options.machineID = .ok path)
    (hdry : options.dryRun = true) :
    (∃ result s, (prune store utcNow refusals options).run ⟨root, default⟩ = .ok result s) ↔
      FindsNothing utcNow refusals options root path := by
  cases hopen : root.openDirectory refusals.links path.nodes with
  | none =>
    refine iff_of_true ⟨_, _, run_prune_of_not_exists hpath hopen⟩ fun directory hopen' => ?_
    cases hopen.symm.trans hopen'
  | some directory =>
    have hiff : FindsNothing utcNow refusals options root path ↔
        directory.Listable root refusals.listing ∧ CutoffInRange utcNow options ∧
          ∀ f, directory.Meets root f → ¬ Matches utcNow options f :=
      ⟨fun h => h directory hopen,
        fun h directory' hopen' => Option.some.inj (hopen.symm.trans hopen') ▸ h⟩
    rw [run_prune_of_exists hpath hopen, hiff]
    by_cases hreturns : directory.Listable root refusals.listing ∧ CutoffInRange utcNow options
    · obtain ⟨found, hfound, hmeets⟩ := Spot.exists_walk hreturns.1
      have hrun := run_pruneDirectory_dryRun refusals (s := ⟨root, default⟩) rfl hfound
        hreturns.2 hdry
      have hnil : matching utcNow options (filesFound found) = [] ↔
          ∀ f, directory.Meets root f → ¬ Matches utcNow options f := by
        rw [List.eq_nil_iff_forall_not_mem]
        simp only [mem_matching, hmeets, not_and]
      split at hrun
      · next h =>
        rw [run_bind_ok hrun]
        exact iff_of_true ⟨_, _, rfl⟩ ⟨hreturns.1, hreturns.2, hnil.mp h⟩
      · next h =>
        rw [run_bind_error hrun]
        exact iff_of_false nofun fun hall => h (hnil.mpr hall.2.2)
    · obtain ⟨e, hrun⟩ := run_pruneDirectory_error refusals (s := ⟨root, default⟩) hreturns
      rw [run_bind_error hrun]
      exact iff_of_false nofun fun h => hreturns ⟨h.1, h.2.1⟩

/-- A prune that finds nothing returns. -/
theorem exists_run_prune (hpath : searchPath store options.machineID = .ok path)
    (hdry : options.dryRun = false) (h : FindsNothing utcNow refusals options root path) :
    ∃ result s, (prune store utcNow refusals options).run ⟨root, default⟩ = .ok result s := by
  cases hopen : root.openDirectory refusals.links path.nodes with
  | none => exact ⟨_, _, run_prune_of_not_exists hpath hopen⟩
  | some directory =>
    obtain ⟨hlistable, hrange, -⟩ := h directory hopen
    obtain ⟨found, hfound, -⟩ := Spot.exists_walk hlistable
    rw [run_prune_of_exists hpath hopen,
      run_bind_ok (run_pruneDirectory_delete refusals rfl hfound hrange hdry)]
    exact ⟨_, _, rfl⟩

/-- What is deleted in a dry run: nothing. -/
theorem root_of_dryRun (hpath : searchPath store options.machineID = .ok path)
    (hdry : options.dryRun = true) {result : PruneResult}
    (h : (prune store utcNow refusals options).run ⟨root, default⟩ = .ok result s) :
    s.root = root := by
  have hafter : rootAfter store utcNow refusals options root = root := by
    refine rootAfter_of_not hpath fun directory hopen hdeletes => ?_
    rw [hdry] at hdeletes
    cases hdeletes.2.1
  rw [rootAfter, h] at hafter
  exact hafter

/-- **Prune never returns its account.** Its list is `null` always; if that is read as a list
without elements, the account is right just when the prune finds nothing. -/
theorem reports_iff (store : FileSystemMachineFileStore) (utcNow : DateTime)
    (refusals : Refusals) (options : PruneOptions) (root : Directory) (path : Path)
    (hpath : searchPath store options.machineID = .ok path) :
    ¬ Reports id store utcNow refusals options root path ∧
      (Reports readNull store utcNow refusals options root path ↔
        FindsNothing utcNow refusals options root path) := by
  have hreal : searchPath store { options with dryRun := false }.machineID = .ok path := hpath
  have hdry : searchPath store { options with dryRun := true }.machineID = .ok path := hpath
  refine ⟨fun h => ?_, fun h => ?_, fun h => ?_⟩
  · obtain ⟨result, s, hrun, hread⟩ := h.real
    rw [result_of_run_prune hreal hrun] at hread
    cases congrArg PruneResult.deletedFiles hread
  · obtain ⟨result, s, hrun, -⟩ := h.dry
    exact (run_prune_dryRun_iff hdry rfl).mp ⟨result, s, hrun⟩
  · have hread : readNull default =
        accountOf (matchingFiles utcNow refusals options path root) := by
      rw [matchingFiles_of_findsNothing h]
      rfl
    obtain ⟨result, s, hrun⟩ := exists_run_prune hreal rfl h
    obtain ⟨result', s', hrun'⟩ := (run_prune_dryRun_iff hdry rfl).mpr h
    obtain rfl := result_of_run_prune hreal hrun
    obtain rfl := result_of_run_prune hdry hrun'
    exact ⟨⟨_, s, hrun, hread⟩, ⟨_, s', hrun', hread, root_of_dryRun hdry rfl hrun'⟩⟩

/-! ### A store and a file beside it -/

private theorem isFull_besideNotes : Path.IsFull (utf16 "/files") := ⟨by decide, by decide⟩

private def besideNotes : FileSystemMachineFileStore := ⟨utf16 "/files", false, isFull_besideNotes⟩

/-- A store beside which there is another file. The machine `m` has a link in its directory. -/
private def notes (target : List Path) : Directory :=
  .subdirectory (utf16 "home") (.file (utf16 "notes") default .empty)
    (.subdirectory (utf16 "files") (.subdirectory (utf16 "m")
      (.file (utf16 "cube") default (.link (utf16 "link") default target
        (.subdirectory (utf16 "old") (.file (utf16 "part") default .empty) .empty)))
      .empty) .empty)

private def everything (machineID : String) : PruneOptions := ⟨false, none, none, some machineID⟩

private def noRefusals : Refusals := ⟨fun _ => none, fun _ => false, fun _ => none, 40⟩

/-- A link that leads back into the directory of the machine. -/
private def toOld : List Path := [utf16 "files", utf16 "m", utf16 "old"]

private theorem straysInside_toOld (concerns : FoundFile → Prop) :
    StraysInside besideNotes noRefusals "m" (notes toOld) concerns := by
  rintro directory hopen hlistable t hreaches - f hfile -
  obtain ⟨files, hfiles, hmeets⟩ := exists_filesIn hopen hlistable
  have hall : ((filesOf besideNotes noRefusals "m" (notes toOld)).toOption.getD []).all
      (fun f => StaysInside besideNotes noRefusals "m" (notes toOld) f.place) = true := by
    decide +kernel
  rw [filesOf, hfiles] at hall
  exact of_decide_eq_true (List.all_eq_true.mp hall f ((hmeets f).mpr ⟨t, hreaches, hfile⟩))

/-- A machine with a name, and a link that leads back to it. -/
theorem staysInside_named :
    PrunesInside besideNotes default noRefusals (everything "m") "m" (notes toOld) ∧
      CountsInside besideNotes noRefusals "m" (notes toOld) :=
  have h := staysInside_iff besideNotes default noRefusals (everything "m") "m" (notes toOld) rfl
    (by decide)
  ⟨h.1.mpr (straysInside_toOld _), h.2.mpr (straysInside_toOld _)⟩

/-- The machine `..` has the files beside the store, and a link leads any machine to them: they are
counted, and deleted with its own. -/
theorem staysInside_fails :
    (¬ PrunesInside besideNotes default noRefusals (everything "m") "m" (notes [utf16 "home"]) ∧
      ¬ CountsInside besideNotes noRefusals "m" (notes [utf16 "home"])) ∧
    ¬ PrunesInside besideNotes default noRefusals (everything "..") ".." (notes toOld) ∧
      ¬ CountsInside besideNotes noRefusals ".." (notes toOld) := by
  have hgone {machineID : String} {target : List Path} (f : FoundFile)
      (hf : f ∈ (notes target).allFiles)
      (hgone : f ∉ (rootAfter besideNotes default noRefusals (everything machineID)
        (notes target)).allFiles)
      (houtside : ¬ StaysInside besideNotes noRefusals machineID (notes target) f.place) :
      ¬ PrunesInside besideNotes default noRefusals (everything machineID) machineID
        (notes target) := fun h => houtside (h f hf hgone)
  have hcounted {machineID : String} {target : List Path} (f : FoundFile)
      (hf : f ∈ (filesOf besideNotes noRefusals machineID (notes target)).toOption.getD [])
      (houtside : ¬ StaysInside besideNotes noRefusals machineID (notes target) f.place) :
      ¬ CountsInside besideNotes noRefusals machineID (notes target) := by
    intro h
    cases hfiles : filesOf besideNotes noRefusals machineID (notes target) with
    | error e =>
      rw [hfiles] at hf
      cases hf
    | ok files =>
      rw [hfiles] at hf
      exact houtside (h files hfiles f hf)
  let stored : FoundFile :=
    ⟨[utf16 "home", utf16 "notes"], [utf16 "home", utf16 "notes"], default⟩
  let linked : FoundFile :=
    { stored with fullName := [utf16 "files", utf16 "m", utf16 "link", utf16 "notes"] }
  exact ⟨⟨hgone stored (by decide +kernel) (by decide +kernel) (by decide +kernel),
      hcounted linked (by decide +kernel) (by decide +kernel)⟩,
    hgone stored (by decide +kernel) (by decide +kernel) (by decide +kernel),
    hcounted stored (by decide +kernel) (by decide +kernel)⟩

/-- The files of the machine that were not read since the beginning of time. -/
private def unread (machineID : String) : PruneOptions :=
  ⟨false, none, some default, some machineID⟩

private theorem searchPath_besideNotes {options : PruneOptions} {machineID : String}
    (hid : options.machineID = some machineID)
    (h : isNullOrWhiteSpace (some machineID) = false) :
    searchPath besideNotes options.machineID =
      .ok (Path.combine besideNotes.basePath (escapeDataString machineID)) := by
  rw [hid, searchPath_eq h]

/-- A machine with files none of which matches. -/
theorem reports_without_match :
    Reports readNull besideNotes default noRefusals (unread "m") (notes toOld)
      (Path.combine besideNotes.basePath (escapeDataString "m")) := by
  refine (reports_iff besideNotes default noRefusals (unread "m") (notes toOld) _
    (searchPath_besideNotes rfl (by decide))).2.mpr fun directory hopen => ?_
  have hlistable : directory.Listable (notes toOld) noRefusals.listing := fun _ _ => rfl
  refine ⟨hlistable, nofun, fun f hmeets => ?_⟩
  obtain ⟨files, hfiles, hmem⟩ := exists_filesIn hopen hlistable
  have hall : ((filesOf besideNotes noRefusals "m" (notes toOld)).toOption.getD []).all
      (fun f => ¬ Matches default (unread "m") f) = true := by
    decide +kernel
  rw [filesOf, hfiles] at hall
  exact of_decide_eq_true (List.all_eq_true.mp hall f ((hmem f).mpr hmeets))

/-- A machine with files that all match: its dry run raises. -/
theorem reports_fails :
    ¬ Reports id besideNotes default noRefusals (everything "m") (notes toOld)
        (Path.combine besideNotes.basePath (escapeDataString "m")) ∧
      ¬ Reports readNull besideNotes default noRefusals (everything "m") (notes toOld)
        (Path.combine besideNotes.basePath (escapeDataString "m")) := by
  have hraises : ∀ read, ¬ Reports read besideNotes default noRefusals (everything "m")
      (notes toOld) (Path.combine besideNotes.basePath (escapeDataString "m")) := by
    intro read h
    obtain ⟨result, s, hrun, -⟩ := h.dry
    have hpath : searchPath besideNotes { everything "m" with dryRun := true }.machineID = _ :=
      searchPath_besideNotes rfl (by decide)
    have hnone :=
      matchingFiles_of_findsNothing ((run_prune_dryRun_iff hpath rfl).mp ⟨result, s, hrun⟩)
    revert hnone
    decide +kernel
  exact ⟨hraises id, hraises readNull⟩

end FileSystemMachineFileStore

end Connect3Dp
