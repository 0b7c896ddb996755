import Connect3Dp.Connectors.BambuLab
import Connect3Dp.Connectors.Outcome

/-!
# The FTP connection of a Bambu Lab printer

The scan loop lists the files of the printer again and again. What it does with a listing are two
steps here: `beginPass` forgets the files that are gone and finds the ones to download, `download`
handles the next of these. It keeps the paths of the files that it has reported (`knownPaths`) and
of those that could not be read (`failedFiles`), both without regard to case, and `download3MF` a
cache.

Two handlers of the machine connection put the files into `LocalJobs`. The one for a new file is
given its path without the leading `/`, and the one for removed files the paths as they are listed.
-/

namespace Connect3Dp

namespace BambuLab

/-! ### 3MF files -/

/-- `BambuLab3MF.FilamentInfo`. -/
structure FilamentInfo where
  id : Int32
  filament : Material
  usedGrams : Double
  nozzleDiameter : Double

/-- `BambuLab3MF`: what the local jobs take from a file. -/
structure BambuLab3MF where
  filaments : List FilamentInfo
  totalFilamentGrams : Double
  predictionSeconds : Double

def BambuLab3MF.predictedTime (bbl3MF : BambuLab3MF) : Except Fault TimeSpan :=
  TimeSpan.fromSeconds bbl3MF.predictionSeconds

/-- `Filaments.ToDictionary(...)`, which raises when two filaments have the same id. -/
def materialsUsed (filaments : List FilamentInfo) :
    Except Fault (Dictionary Int32 MaterialToPrint) :=
  filaments.foldlM (fun d f =>
    if d.containsKey f.id then .error .argument
    else .ok (d.set f.id ⟨f.filament, f.usedGrams.toInt32, f.nozzleDiameter⟩)) ∅

/-- The job of a file. `address` is that of the new dictionary. -/
def localJobOf (machineID : NetString) (fileName hash : String) (bbl3MF : BambuLab3MF)
    (address : ℕ) : Except Fault LocalPrintJob := do
  let matsUsed ← materialsUsed bbl3MF.filaments
  return {
    name := some (getFileNameWithoutExtension fileName)
    file := handleAs3MF machineID fileName (some hash)
    totalGramsUsed := bbl3MF.totalFilamentGrams.toInt32
    time := ← bbl3MF.predictedTime
    materialsToPrint := ⟨address, matsUsed⟩ }

/-- `FullName.EndsWith(".3mf", StringComparison.OrdinalIgnoreCase)`. -/
def is3MF (fullName : String) : Bool :=
  (".3mf".toList.map Char.toUpper).isSuffixOf (fullName.toList.map Char.toUpper)

/-- `path[1..]`, for a path that begins with `/`. -/
def withoutSlash (path : String) : String := .ofList (path.toList.drop 1)

/-! ### The connection -/

/-- `FtpListItem`. -/
structure FtpListItem where
  fullName : String
  isFile : Bool
  size : Int64
  modified : DateTime

/-- How the transfer of a file goes: it raises, or the content has a hash and, unless storing or
loading it raises, is a 3MF. -/
inductive Transfer
  | failed
  | received (hash : String) (loaded : Option BambuLab3MF)

/-- `BBLFTPConnection`. The keys of `knownPaths` and `failedFiles` are what their comparer
(`OrdinalIgnoreCase`) makes of the paths. -/
structure BBLFTPConnection where
  cached3MF : Dictionary String BambuLab3MF
  pathToHash : Dictionary String String
  lru : List String
  knownPaths : Dictionary String String
  failedFiles : Dictionary String (Int64 × DateTime)

namespace BBLFTPConnection

def initial : BBLFTPConnection := ⟨∅, ∅, [], ∅, ∅⟩

def maxCacheSize : ℕ := 100

/-- `TouchLRU`. -/
def touchLRU (ftp : BBLFTPConnection) (key : String) : BBLFTPConnection :=
  let lru := key :: ftp.lru.erase key
  if maxCacheSize < lru.length then
    { ftp with
      lru := lru.dropLast, cached3MF := ftp.cached3MF.remove (lru.getLast?.getD key) }
  else { ftp with lru }

/-- The cache recovery of `Download3MF`. -/
def recover (ftp : BBLFTPConnection) (remotePath : String) : Option (BambuLab3MF × String) := do
  let oldHash ← ftp.pathToHash.tryGetValue remotePath
  let cached ← ftp.cached3MF.tryGetValue oldHash
  return (cached, oldHash)

/-- `Download3MF`: the file and its hash, or `none` if it raises. -/
def download3MF (ftp : BBLFTPConnection) (remotePath : String) :
    Transfer → Option (BambuLab3MF × String) × BBLFTPConnection
  | .received hash loaded =>
    match ftp.cached3MF.tryGetValue hash, loaded with
    | some cached, _ =>
      (some (cached, hash),
        { ftp with pathToHash := ftp.pathToHash.set remotePath hash }.touchLRU hash)
    | none, some loaded =>
      (some (loaded, hash),
        { ftp with
          cached3MF := ftp.cached3MF.set hash loaded
          pathToHash := ftp.pathToHash.set remotePath hash }.touchLRU hash)
    | none, none => (ftp.recover remotePath, ftp)
  | .failed => (ftp.recover remotePath, ftp)

section Received

variable {hash : String} (ftp : BBLFTPConnection) (remotePath : String)

/-- The file is in the cache. -/
theorem download3MF_of_cached {cached : BambuLab3MF}
    (hcached : ftp.cached3MF.tryGetValue hash = some cached) (loaded : Option BambuLab3MF) :
    ftp.download3MF remotePath (.received hash loaded) = (some (cached, hash),
      { ftp with pathToHash := ftp.pathToHash.set remotePath hash }.touchLRU hash) := by
  simp only [download3MF, hcached]

/-- The file is loaded. -/
theorem download3MF_of_loaded (hcached : ftp.cached3MF.tryGetValue hash = none)
    (loaded : BambuLab3MF) :
    ftp.download3MF remotePath (.received hash (some loaded)) = (some (loaded, hash),
      { ftp with
        cached3MF := ftp.cached3MF.set hash loaded
        pathToHash := ftp.pathToHash.set remotePath hash }.touchLRU hash) := by
  simp only [download3MF, hcached]

/-- The file cannot be loaded. -/
theorem download3MF_of_fault (hcached : ftp.cached3MF.tryGetValue hash = none) :
    ftp.download3MF remotePath (.received hash none) = ftp.download3MF remotePath .failed := by
  simp only [download3MF, hcached]

end Received

/-- The download leaves the tables of the scan loop alone. -/
theorem download3MF_tables (ftp : BBLFTPConnection) (remotePath : String) (transfer : Transfer) :
    (ftp.download3MF remotePath transfer).2.knownPaths = ftp.knownPaths ∧
      (ftp.download3MF remotePath transfer).2.failedFiles = ftp.failedFiles := by
  have htouch : ∀ (ftp : BBLFTPConnection) (key : String),
      (ftp.touchLRU key).knownPaths = ftp.knownPaths ∧
        (ftp.touchLRU key).failedFiles = ftp.failedFiles := by
    intro ftp key
    unfold touchLRU
    dsimp only
    split
    all_goals exact ⟨rfl, rfl⟩
  cases transfer with
  | failed => exact ⟨rfl, rfl⟩
  | received hash loaded =>
    simp only [download3MF]
    split
    · exact htouch ..
    · exact htouch ..
    · exact ⟨rfl, rfl⟩

end BBLFTPConnection

/-! ### The handlers -/

section Handlers

variable {Cron : Type} [DecidableEq Cron] [Hashable (HeatingSchedule Cron)]
  [Hashable (ScheduledPrint Cron)] (ignoreCase : String → String)

/-- `LocalJobs.FirstOrDefault(...)` for a removed path. -/
def findRemoved (removed : String) : List LocalPrintJob → Except Fault (Option LocalPrintJob)
  | [] => .ok none
  | job :: jobs => do
    match ← tryParseAs3MFHandle job.file with
    | some localPath =>
      if ignoreCase localPath = ignoreCase removed then return some job
      else findRemoved removed jobs
    | none => findRemoved removed jobs

/-- `FTP_OnLocal3MFRemoved`. -/
def onLocal3MFRemoved (env : Environment Cron) (removedPaths : List String) :
    EStateM Fault (MachineConnection Cron) Unit := do
  let c ← get
  let stateChanges ← ofExcept (removedPaths.foldlM (fun (u : MachineStateUpdate) removed => do
    match ← findRemoved ignoreCase removed c.state.localJobs.elems with
    | none => return u
    | some jobToRemove =>
      return if jobToRemove = default then u else u.removeLocalJobs jobToRemove) default)
  discard (MachineConnection.commitState env stateChanges)

/-- `FTP_OnLocal3MFAdded`, which catches what it raises. -/
def onLocal3MFAdded (env : Environment Cron) (machineID : NetString) (address : ℕ)
    (fileName hash : String) (bbl3MF : BambuLab3MF) (c : MachineConnection Cron) :
    MachineConnection Cron :=
  match localJobOf machineID fileName hash bbl3MF address with
  | .error _ => c
  | .ok localJob =>
    MachineConnection.afterCommit env ((default : MachineStateUpdate).setLocalJobs localJob) c

end Handlers

/-! ### The scan loop -/

/-- `currentFiles`, whose keys ignore case: a path that is there already keeps its spelling. -/
def currentFiles (ignoreCase : String → String) (items : List FtpListItem) :
    Dictionary String (String × FtpListItem) :=
  items.foldl (fun files item =>
    if item.isFile && is3MF item.fullName then
      let key := ignoreCase item.fullName
      files.set key (((files.tryGetValue key).map Prod.fst).getD item.fullName, item)
    else files) ∅

/-- The listed 3MF files. -/
def listedPaths (items : List FtpListItem) : List String :=
  (items.filter fun item => item.isFile && is3MF item.fullName).map (·.fullName)

/-- A machine with its FTP connection. `toDownload` is what is left of the pass in progress, and
`nextObject` the next address. The last listing and how the last download of each path went are
observations. -/
structure LocalJobMirror (Cron : Type) where
  machine : MachineConnection Cron
  machineID : NetString
  ftp : BBLFTPConnection
  nextObject : ℕ
  toDownload : Option (List (String × FtpListItem))
  listing : List String
  succeeded : String → Bool

namespace LocalJobMirror

variable {Cron : Type} [DecidableEq Cron] [Hashable (HeatingSchedule Cron)]
  [Hashable (ScheduledPrint Cron)] (ignoreCase : String → String)

omit [DecidableEq Cron] [Hashable (HeatingSchedule Cron)] [Hashable (ScheduledPrint Cron)] in
/-- The known paths that are not listed. -/
def removed (σ : LocalJobMirror Cron) (items : List FtpListItem) : List String :=
  σ.ftp.knownPaths.values.filter fun p =>
    !(currentFiles ignoreCase items).containsKey (ignoreCase p)

/-- The tables without the removed files. -/
def forget (ftp : BBLFTPConnection) (removed : List String) : BBLFTPConnection :=
  { ftp with
    knownPaths := ftp.knownPaths.removeAll (removed.map ignoreCase)
    failedFiles := ftp.failedFiles.removeAll (removed.map ignoreCase)
    pathToHash := ftp.pathToHash.removeAll removed }

/-- The tables without the files that failed and are not listed. -/
def prune (ftp : BBLFTPConnection) (items : List FtpListItem) : BBLFTPConnection :=
  { ftp with
    failedFiles := ftp.failedFiles.removeAll
      (ftp.failedFiles.keys.filter fun key => !(currentFiles ignoreCase items).containsKey key) }

/-- The file is not known, and has not failed as it is. -/
def isNew (ftp : BBLFTPConnection) (file : String × FtpListItem) : Bool :=
  !ftp.knownPaths.containsKey (ignoreCase file.1) &&
    (ftp.failedFiles.tryGetValue (ignoreCase file.1) != some (file.2.size, file.2.modified))

/-- A pass up to the downloads. An exception of the handler ends the pass. -/
def beginPass (env : Environment Cron) (items : List FtpListItem) (σ : LocalJobMirror Cron) :
    LocalJobMirror Cron :=
  let removed := σ.removed ignoreCase items
  let ftp := forget ignoreCase σ.ftp removed
  let handled : EStateM.Result Fault (MachineConnection Cron) Unit :=
    if removed.isEmpty then .ok () σ.machine
    else (onLocal3MFRemoved ignoreCase env removed).run σ.machine
  match handled with
  | .ok _ machine =>
    let ftp := prune ignoreCase ftp items
    { σ with
      machine, ftp, listing := listedPaths items
      toDownload :=
        some ((currentFiles ignoreCase items).values.filter (isNew ignoreCase ftp)) }
  | .error _ machine => { σ with machine, ftp, listing := listedPaths items, toDownload := none }

/-- The next file of a pass. -/
def download (culture : Culture) (env : Environment Cron) (transfer : Transfer)
    (σ : LocalJobMirror Cron) : LocalJobMirror Cron :=
  match σ.toDownload with
  | some ((path, item) :: rest) =>
    let (result, ftp) := σ.ftp.download3MF path transfer
    match result with
    | some (bbl3MF, hash) =>
      let nPath := if culture.startsWith path "/" then withoutSlash path else path
      { σ with
        machine := onLocal3MFAdded env σ.machineID σ.nextObject nPath hash bbl3MF σ.machine
        ftp := { ftp with
          knownPaths := if ftp.knownPaths.containsKey (ignoreCase path) then ftp.knownPaths
            else ftp.knownPaths.set (ignoreCase path) path
          failedFiles := ftp.failedFiles.remove (ignoreCase path) }
        nextObject := σ.nextObject + 1
        toDownload := some rest
        succeeded := Function.update σ.succeeded path true }
    | none =>
      { σ with
        ftp := { ftp with
          failedFiles := ftp.failedFiles.set (ignoreCase path) (item.size, item.modified) }
        toDownload := some rest
        succeeded := Function.update σ.succeeded path false }
  | _ => σ

end LocalJobMirror

end BambuLab

end Connect3Dp
