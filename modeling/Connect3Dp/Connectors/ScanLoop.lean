import Connect3Dp.Connectors.LocalJobMirroring
import Connect3Dp.Runtime.Watch

/-!
# The scan loop of the FTP connection

`ScanLoop` runs for as long as its connection is wanted: it reconnects if it has to, lists the files
of the printer, downloads the new ones and waits. `ScanLoop.step` goes from one of its awaits to the
next; how the printer and the handlers answer is given (`Surroundings`), and the token can be
cancelled at any point in between.

What the two tables of the connection say of a path is the `Watch` of what the loop has done
(`Kept`). So no file is downloaded again for nothing (`download_repeated`), and a pass that comes to
its end leaves nothing to do, however the downloads go (`settled_of_reachable`). The rest is about
how the loop ends: what it raises before, and how soon it does after the token has been cancelled.
-/

namespace Connect3Dp

namespace BambuLab

/-- How an await ends: what is thrown is an `OperationCanceledException` or another exception. -/
inductive Ending
  | completed
  | canceled
  | failed

/-- What the loop meets in one step. A field that the step does not come to is not used. -/
structure Surroundings where
  isConnected : Bool
  ending : Ending
  items : List FtpListItem
  transfer : Transfer
  /-- how the handler of an event of the connection ends -/
  handler : Ending

/-- Where the loop is: at the head of it, at one of its awaits, or in the catch clause
(`recovering` and what follows, which is `TryReconnect`). -/
inductive ScanPhase
  | checking
  | pausing
  | connecting
  | listing
  | downloading (files : List (String × FtpListItem))
  | transferring (file : String × FtpListItem) (files : List (String × FtpListItem))
  | recovering
  | recoverPausing
  | recoverConnecting
  | waiting
  | ended

/-- The files that the pass has yet to do. -/
def ScanPhase.files : ScanPhase → List (String × FtpListItem)
  | .downloading files => files
  | .transferring file files => file :: files
  | _ => []

/-- The download that is under way. -/
def ScanPhase.attempt (ignoreCase : String → String) :
    ScanPhase → Option (String × Int64 × DateTime)
  | .transferring file _ => some (ignoreCase file.1, file.2.size, file.2.modified)
  | _ => none

/-- A pass has begun and is not at its end. -/
def ScanPhase.InPass : ScanPhase → Prop
  | .downloading _ => True
  | .transferring _ _ => True
  | _ => False

/-- `OnInitialScanComplete` and `OnDisconnected`. -/
inductive ScanSignal
  | initialScanComplete
  | disconnected
  deriving DecidableEq

/-- The size and the time that `_failedFiles` keeps. -/
abbrev FileStamp : Type := Int64 × DateTime

def FtpListItem.stamp (item : FtpListItem) : FileStamp := (item.size, item.modified)

/-- The loop with the connection it works on. The events that it raises, what happens to the files
and the last listing are observations. -/
structure ScanLoop where
  ftp : BBLFTPConnection
  isCancellationRequested : Bool
  initialScanDone : Bool
  phase : ScanPhase
  signals : List ScanSignal
  log : List (WatchEvent String FileStamp)
  listing : List (String × FtpListItem)

namespace ScanLoop

/-- `ConnectAsync`: the tables are cleared, the cache is not. -/
def start (ftp : BBLFTPConnection) : ScanLoop where
  ftp := { ftp with knownPaths := ∅, failedFiles := ∅ }
  isCancellationRequested := false
  initialScanDone := false
  phase := .checking
  signals := []
  log := []
  listing := []

def signalInitialScan (σ : ScanLoop) : ScanLoop :=
  if σ.initialScanDone then σ
  else { σ with initialScanDone := true, signals := σ.signals ++ [.initialScanComplete] }

variable (ignoreCase : String → String)

/-- A listing has arrived: removed files are forgotten and reported, and the new ones are to be
downloaded. -/
def beginPass (σ : ScanLoop) (a : Surroundings) : ScanLoop :=
  let files := currentFiles ignoreCase a.items
  let removed := σ.ftp.knownPaths.values.filter fun p => !files.containsKey (ignoreCase p)
  let ftp := LocalJobMirror.forget ignoreCase σ.ftp removed
  let abandoned : ScanLoop := { σ with ftp, log := σ.log ++ [.abandoned files.containsKey] }
  match if removed.isEmpty then .completed else a.handler with
  | .completed =>
    let ftp := LocalJobMirror.prune ignoreCase ftp a.items
    { σ with
      ftp
      phase := .downloading (files.values.filter (LocalJobMirror.isNew ignoreCase ftp))
      log := σ.log ++ [.listed files.containsKey]
      listing := files.values }
  | .canceled => { abandoned with phase := .ended }
  | .failed => { abandoned with phase := .recovering }

/-- The body of the download loop after `Download3MF`, whose result or exception is given. -/
def finish (σ : ScanLoop) (file : String × FtpListItem) (files : List (String × FtpListItem))
    (result : Option (BambuLab3MF × String) × BBLFTPConnection) (raised handler : Ending) :
    ScanLoop :=
  let key := ignoreCase file.1
  let ftp := result.2
  match if result.1.isSome then handler else raised with
  | .completed =>
    { σ with
      ftp := { ftp with
        knownPaths := if ftp.knownPaths.containsKey key then ftp.knownPaths
          else ftp.knownPaths.set key file.1
        failedFiles := ftp.failedFiles.remove key }
      phase := .downloading files
      log := σ.log ++ [.finished key file.2.stamp true] }
  | .canceled => { σ with ftp, phase := .ended }
  | .failed =>
    { σ with
      ftp := { ftp with failedFiles := ftp.failedFiles.set key file.2.stamp }
      phase := .downloading files
      log := σ.log ++ [.finished key file.2.stamp false] }

/-- From one await to the next. `EnsureConnected` raises `OnDisconnected` for each file that is to
be downloaded without a connection. -/
def step (σ : ScanLoop) (a : Surroundings) : ScanLoop :=
  let ended : ScanLoop := { σ with phase := .ended }
  match σ.phase with
  | .checking =>
    if σ.isCancellationRequested then ended
    else { σ with phase := if a.isConnected then .listing else .pausing }
  | .pausing => if σ.isCancellationRequested then ended else { σ with phase := .connecting }
  | .connecting =>
    match a.ending with
    | .completed => { σ with phase := .listing }
    | .canceled => ended
    | .failed => { σ with phase := .recovering }
  | .listing =>
    match a.ending with
    | .completed => σ.beginPass ignoreCase a
    | .canceled => ended
    | .failed => { σ with phase := .recovering }
  | .downloading [] => { σ.signalInitialScan with phase := .waiting }
  | .downloading (file :: files) =>
    if σ.isCancellationRequested then ended
    else
      let σ : ScanLoop :=
        { σ with log := σ.log ++ [.attempted (ignoreCase file.1) file.2.stamp] }
      if a.isConnected then { σ with phase := .transferring file files }
      else
        let σ : ScanLoop := { σ with signals := σ.signals ++ [.disconnected] }
        σ.finish ignoreCase file files (σ.ftp.download3MF file.1 .failed) .failed a.handler
  | .transferring file files =>
    match a.ending with
    | .completed =>
      σ.finish ignoreCase file files (σ.ftp.download3MF file.1 a.transfer) .failed a.handler
    | raised =>
      σ.finish ignoreCase file files (σ.ftp.download3MF file.1 .failed) raised a.handler
  | .recovering =>
    if a.isConnected then { σ.signalInitialScan with phase := .waiting }
    else { σ with phase := .recoverPausing }
  | .recoverPausing =>
    if σ.isCancellationRequested then ended else { σ with phase := .recoverConnecting }
  | .recoverConnecting =>
    match a.ending with
    | .completed => { σ.signalInitialScan with phase := .waiting }
    | .canceled => ended
    | .failed => { ended with signals := σ.signals ++ [.disconnected] }
  | .waiting => if σ.isCancellationRequested then ended else { σ with phase := .checking }
  | .ended => σ

end ScanLoop

/-! ### The tables -/

/-- What the tables say of the files of a key. -/
def BBLFTPConnection.watch (ftp : BBLFTPConnection) (key : String) : Watch FileStamp :=
  if ftp.knownPaths.containsKey key then .known
  else (ftp.failedFiles.tryGetValue key).elim .unknown .failed

/-- Known paths are kept under their keys. -/
def BBLFTPConnection.IsKeyed (ignoreCase : String → String) (ftp : BBLFTPConnection) : Prop :=
  ∀ key path, ftp.knownPaths.tryGetValue key = some path → key = ignoreCase path

section Tables

variable {ignoreCase : String → String} {ftp ftp' : BBLFTPConnection} {key : String}
  {items : List FtpListItem}

theorem watch_eq {isKnown : Bool} {failed : Option FileStamp}
    (hknown : ftp.knownPaths.containsKey key = isKnown)
    (hfailed : ftp.failedFiles.tryGetValue key = failed) :
    ftp.watch key = if isKnown then .known else failed.elim .unknown .failed := by
  rw [BBLFTPConnection.watch, hfailed]
  subst hknown
  rfl

theorem watch_congr (hknown : ftp'.knownPaths = ftp.knownPaths)
    (hfailed : ftp'.failedFiles = ftp.failedFiles) : ftp'.watch = ftp.watch := by
  funext key
  rw [BBLFTPConnection.watch, BBLFTPConnection.watch, hknown, hfailed]

theorem isNew_iff {file : String × FtpListItem} :
    LocalJobMirror.isNew ignoreCase ftp file = true ↔
      (ftp.watch (ignoreCase file.1)).IsDue file.2.stamp := by
  rw [LocalJobMirror.isNew, BBLFTPConnection.watch]
  cases ftp.knownPaths.containsKey (ignoreCase file.1) with
  | true => simp [Watch.IsDue]
  | false =>
    cases ftp.failedFiles.tryGetValue (ignoreCase file.1) with
    | none => simp [Watch.IsDue]
    | some stamp => simp [Watch.IsDue, FtpListItem.stamp]

/-- The known keys that are not listed. -/
theorem mem_removed_iff (h : ftp.IsKeyed ignoreCase)
    (files : Dictionary String (String × FtpListItem)) (key : String) :
    key ∈ (ftp.knownPaths.values.filter fun p =>
        !files.containsKey (ignoreCase p)).map ignoreCase ↔
      ftp.knownPaths.containsKey key = true ∧ files.containsKey key = false := by
  constructor
  · intro hkey
    obtain ⟨path, hpath, rfl⟩ := List.mem_map.mp hkey
    obtain ⟨hvalue, hunlisted⟩ := List.mem_filter.mp hpath
    obtain ⟨key, hknown⟩ := Dictionary.mem_values_iff.mp hvalue
    obtain rfl := h key path hknown
    exact ⟨Dictionary.containsKey_iff.mpr ⟨path, hknown⟩, by simpa using hunlisted⟩
  · rintro ⟨hkey, hunlisted⟩
    obtain ⟨path, hknown⟩ := Dictionary.containsKey_iff.mp hkey
    obtain rfl := h key path hknown
    refine List.mem_map.mpr ⟨path, List.mem_filter.mpr ⟨?_, by simpa using hunlisted⟩, rfl⟩
    exact Dictionary.mem_values_iff.mpr ⟨_, hknown⟩

/-- Known files that are not listed are forgotten. -/
theorem watch_forget (h : ftp.IsKeyed ignoreCase) (files : Dictionary String (String × FtpListItem))
    (key : String) :
    (LocalJobMirror.forget ignoreCase ftp (ftp.knownPaths.values.filter fun p =>
        !files.containsKey (ignoreCase p))).watch key =
      (ftp.watch key).next key (.abandoned files.containsKey) := by
  have hremoved := mem_removed_iff h files key
  generalize (ftp.knownPaths.values.filter fun p => !files.containsKey (ignoreCase p)) = removed
    at hremoved ⊢
  have hfailed : (LocalJobMirror.forget ignoreCase ftp removed).failedFiles.tryGetValue key =
      if key ∈ removed.map ignoreCase then none else ftp.failedFiles.tryGetValue key :=
    Dictionary.tryGetValue_removeAll ..
  have hknown : (LocalJobMirror.forget ignoreCase ftp removed).knownPaths.tryGetValue key =
      if key ∈ removed.map ignoreCase then none else ftp.knownPaths.tryGetValue key :=
    Dictionary.tryGetValue_removeAll ..
  by_cases hkey : ftp.knownPaths.containsKey key = true ∧ files.containsKey key = false
  · rw [if_pos (hremoved.mpr hkey)] at hfailed hknown
    rw [watch_eq (Dictionary.containsKey_eq_false_iff.mpr hknown) hfailed, watch_eq hkey.1 rfl,
      Watch.next, hkey.2]
    rfl
  · rw [if_neg (mt hremoved.mp hkey)] at hfailed hknown
    have hsame : (LocalJobMirror.forget ignoreCase ftp removed).knownPaths.containsKey key =
        ftp.knownPaths.containsKey key := congrArg Option.isSome hknown
    rw [watch_eq hsame hfailed, watch_eq rfl rfl, Watch.next]
    cases hlisted : files.containsKey key with
    | true => rfl
    | false =>
      have hunknown : ftp.knownPaths.containsKey key = false :=
        Bool.eq_false_of_not_eq_true fun hknown => hkey ⟨hknown, hlisted⟩
      rw [hunknown]
      cases ftp.failedFiles.tryGetValue key <;> rfl

/-- Files that failed and are not listed are forgotten. -/
theorem watch_prune (key : String) :
    (LocalJobMirror.prune ignoreCase ftp items).watch key =
      if (currentFiles ignoreCase items).containsKey key ∨ ftp.knownPaths.containsKey key then
        ftp.watch key
      else .unknown := by
  have hfailed : (LocalJobMirror.prune ignoreCase ftp items).failedFiles.tryGetValue key = _ :=
    Dictionary.tryGetValue_removeAll ..
  rw [watch_eq rfl hfailed, watch_eq rfl rfl, LocalJobMirror.prune]
  cases hknown : ftp.knownPaths.containsKey key with
  | true => simp
  | false =>
    cases hlisted : (currentFiles ignoreCase items).containsKey key with
    | true => simp [hlisted]
    | false =>
      cases hold : ftp.failedFiles.tryGetValue key <;>
        simp [hlisted, hold, Dictionary.mem_keys_iff]

/-- After a listing. -/
theorem watch_listed (h : ftp.IsKeyed ignoreCase) (key : String) :
    (LocalJobMirror.prune ignoreCase (LocalJobMirror.forget ignoreCase ftp
        (ftp.knownPaths.values.filter fun p =>
          !(currentFiles ignoreCase items).containsKey (ignoreCase p))) items).watch key =
      (ftp.watch key).next key (.listed (currentFiles ignoreCase items).containsKey) := by
  rw [watch_prune, watch_forget h]
  cases hlisted : (currentFiles ignoreCase items).containsKey key with
  | true => simp [Watch.next, hlisted]
  | false =>
    -- what is known is listed
    have hknown : (LocalJobMirror.forget ignoreCase ftp (ftp.knownPaths.values.filter fun p =>
        !(currentFiles ignoreCase items).containsKey (ignoreCase p))).knownPaths.containsKey key =
          false := by
      rw [LocalJobMirror.forget, Dictionary.containsKey_eq_false_iff,
        Dictionary.tryGetValue_removeAll, ite_eq_left_iff]
      intro hkey
      rw [mem_removed_iff h _ key, not_and] at hkey
      by_contra hknown
      obtain ⟨path, hpath⟩ := Option.ne_none_iff_exists'.mp hknown
      exact hkey (Dictionary.containsKey_iff.mpr ⟨path, hpath⟩) hlisted
    simp [Watch.next, hlisted, hknown]

theorem isKeyed_forget (h : ftp.IsKeyed ignoreCase) (removed : List String) :
    (LocalJobMirror.forget ignoreCase ftp removed).IsKeyed ignoreCase := by
  intro key path hpath
  rw [LocalJobMirror.forget, Dictionary.tryGetValue_removeAll] at hpath
  split at hpath
  · cases hpath
  · exact h key path hpath

/-- A file has been downloaded. -/
theorem watch_known {path : String} {stamp : FileStamp} (h : ftp.watch (ignoreCase path) ≠ .known)
    (key : String) :
    BBLFTPConnection.watch { ftp with
      knownPaths := if ftp.knownPaths.containsKey (ignoreCase path) then ftp.knownPaths
        else ftp.knownPaths.set (ignoreCase path) path
      failedFiles := ftp.failedFiles.remove (ignoreCase path) } key =
      (ftp.watch key).next key (.finished (ignoreCase path) stamp true) := by
  have hnew : ftp.knownPaths.containsKey (ignoreCase path) ≠ true := fun hknown =>
    h (if_pos hknown)
  rw [if_neg hnew, watch_eq rfl (Dictionary.tryGetValue_remove ..), watch_eq rfl rfl, Watch.next,
    Dictionary.containsKey, Dictionary.tryGetValue_set]
  by_cases hkey : key = ignoreCase path
  · rw [if_pos hkey, if_pos hkey.symm]
    rfl
  · rw [if_neg hkey, if_neg hkey, if_neg (Ne.symm hkey)]
    rfl

/-- A file could not be downloaded. -/
theorem watch_failed {stamp : FileStamp} {key' : String} (h : ftp.watch key' ≠ .known)
    (key : String) :
    BBLFTPConnection.watch { ftp with failedFiles := ftp.failedFiles.set key' stamp } key =
      (ftp.watch key).next key (.finished key' stamp false) := by
  have hnew : ftp.knownPaths.containsKey key' ≠ true := fun hknown => h (if_pos hknown)
  simp only [BBLFTPConnection.watch, Watch.next, Dictionary.tryGetValue_set]
  by_cases hkey : key = key'
  · subst hkey
    simp [hnew]
  · simp [hkey, Ne.symm hkey]

end Tables

/-! ### What each step preserves -/

theorem nodup_keys_currentFiles (ignoreCase : String → String) (items : List FtpListItem) :
    ((currentFiles ignoreCase items).values.map fun file => ignoreCase file.1).Nodup := by
  have hkeys : ((currentFiles ignoreCase items).values.map fun file => ignoreCase file.1) =
      (currentFiles ignoreCase items).entries.map Prod.fst := by
    rw [Dictionary.values, List.map_map]
    refine List.map_congr_left fun entry hentry => ?_
    exact (mem_listedPaths_of_tryGetValue (Dictionary.mem_entries_iff.mp hentry)).1.symm
  rw [hkeys]
  exact (currentFiles ignoreCase items).nodup_keys

namespace ScanLoop

variable {ignoreCase : String → String} {σ σ' : ScanLoop} {file : String × FtpListItem}
  {files : List (String × FtpListItem)}

/-- The file is to be downloaded, after what has happened. -/
def IsDue (ignoreCase : String → String) (σ : ScanLoop) (file : String × FtpListItem) : Prop :=
  (watched σ.log (ignoreCase file.1)).IsDue file.2.stamp

/-- The tables are the memory of the log, and the pass is at the files that it has yet to do. -/
structure Kept (ignoreCase : String → String) (σ : ScanLoop) : Prop where
  keyed : σ.ftp.IsKeyed ignoreCase
  watch : ∀ key, σ.ftp.watch key = watched σ.log key
  disciplined : Disciplined σ.log
  attempt : σ.phase ≠ .ended → openAttempt σ.log = σ.phase.attempt ignoreCase
  nodup : (σ.listing.map fun file => ignoreCase file.1).Nodup
  sublist : σ.phase.files.Sublist σ.listing
  due : ∀ file ∈ σ.phase.files, σ.IsDue ignoreCase file
  settled : σ.phase.InPass → ∀ file ∈ σ.listing, file ∈ σ.phase.files ∨ ¬ σ.IsDue ignoreCase file

theorem kept_start (ftp : BBLFTPConnection) : (start ftp).Kept ignoreCase where
  keyed _ _ h := by cases h
  watch _ := rfl
  disciplined := disciplined_nil
  attempt _ := rfl
  nodup := List.nodup_nil
  sublist := List.Sublist.refl _
  due _ h := by cases h
  settled h := h.elim

/-- No attempt is open when nothing is being transferred. -/
theorem Kept.closed (h : σ.Kept ignoreCase) (hphase : σ.phase ≠ .ended)
    (hattempt : σ.phase.attempt ignoreCase = none) : openAttempt σ.log = none :=
  (h.attempt hphase).trans hattempt

/-- The loop is in no pass. -/
theorem Kept.of_idle (hkeyed : σ.ftp.IsKeyed ignoreCase)
    (hwatch : ∀ key, σ.ftp.watch key = watched σ.log key) (hdisciplined : Disciplined σ.log)
    (hopen : σ.phase = .ended ∨ openAttempt σ.log = none)
    (hnodup : (σ.listing.map fun file => ignoreCase file.1).Nodup) (hfiles : σ.phase.files = [])
    (hpass : ¬ σ.phase.InPass) : σ.Kept ignoreCase where
  keyed := hkeyed
  watch := hwatch
  disciplined := hdisciplined
  attempt hphase := by
    rw [hopen.resolve_left hphase]
    cases hσ : σ.phase with
    | transferring file files =>
      rw [hσ] at hpass
      exact absurd trivial hpass
    | _ => rfl
  nodup := hnodup
  sublist := by
    rw [hfiles]
    exact List.nil_sublist _
  due file hfile := by
    rw [hfiles] at hfile
    cases hfile
  settled hin := absurd hin hpass

/-- The tables are what they were. -/
theorem Kept.of_tables (h : σ.Kept ignoreCase) (hknown : σ'.ftp.knownPaths = σ.ftp.knownPaths)
    (hfailed : σ'.ftp.failedFiles = σ.ftp.failedFiles) (hlog : σ'.log = σ.log)
    (hopen : σ'.phase = .ended ∨ openAttempt σ.log = none)
    (hlisting : σ'.listing = σ.listing) (hfiles : σ'.phase.files = [])
    (hpass : ¬ σ'.phase.InPass) : σ'.Kept ignoreCase := by
  refine .of_idle ?_ (fun key => ?_) (hlog ▸ h.disciplined) (hlog ▸ hopen) (hlisting ▸ h.nodup)
    hfiles hpass
  · rw [BBLFTPConnection.IsKeyed, hknown]
    exact h.keyed
  · rw [watch_congr hknown hfailed, hlog]
    exact h.watch key

theorem Kept.beginPass (h : σ.Kept ignoreCase) (hopen : openAttempt σ.log = none)
    (a : Surroundings) : (σ.beginPass ignoreCase a).Kept ignoreCase := by
  unfold ScanLoop.beginPass
  dsimp only
  have hforget := watch_forget h.keyed (currentFiles ignoreCase a.items)
  have hlisted := @watch_listed ignoreCase σ.ftp a.items h.keyed
  have hkeyed := isKeyed_forget h.keyed (σ.ftp.knownPaths.values.filter fun p =>
    !(currentFiles ignoreCase a.items).containsKey (ignoreCase p))
  generalize LocalJobMirror.forget ignoreCase σ.ftp (σ.ftp.knownPaths.values.filter fun p =>
    !(currentFiles ignoreCase a.items).containsKey (ignoreCase p)) = ftp at *
  have habandoned : ∀ key, ftp.watch key =
      watched (σ.log ++ [.abandoned (currentFiles ignoreCase a.items).containsKey]) key := by
    intro key
    rw [hforget, h.watch, watched_append]
  split
  · have hwatch : ∀ key, (LocalJobMirror.prune ignoreCase ftp a.items).watch key =
        watched (σ.log ++ [.listed (currentFiles ignoreCase a.items).containsKey]) key := by
      intro key
      rw [hlisted, h.watch, watched_append]
    have hnew : ∀ file, LocalJobMirror.isNew ignoreCase
        (LocalJobMirror.prune ignoreCase ftp a.items) file = true ↔
          (watched (σ.log ++ [.listed (currentFiles ignoreCase a.items).containsKey])
            (ignoreCase file.1)).IsDue file.2.stamp := by
      intro file
      rw [isNew_iff, hwatch]
    refine ⟨hkeyed, hwatch, h.disciplined.append hopen, fun _ => openAttempt_append ..,
      nodup_keys_currentFiles .., List.filter_sublist, fun file hfile => ?_, fun _ file hfile => ?_⟩
    · exact (hnew file).mp (List.mem_filter.mp hfile).2
    · by_cases hdue : LocalJobMirror.isNew ignoreCase
        (LocalJobMirror.prune ignoreCase ftp a.items) file = true
      · exact .inl (List.mem_filter.mpr ⟨hfile, hdue⟩)
      · exact .inr fun hdue' => hdue ((hnew file).mpr hdue')
  · exact .of_idle hkeyed habandoned (h.disciplined.append hopen) (.inl rfl) h.nodup rfl id
  · exact .of_idle hkeyed habandoned (h.disciplined.append hopen) (.inr (openAttempt_append ..))
      h.nodup rfl id

/-- The end of an attempt: what it leaves is settled. -/
theorem Kept.finished (h : σ.Kept ignoreCase) (hphase : σ.phase.files = file :: files)
    (hpass : σ.phase.InPass)
    (hopen : openAttempt σ.log = some (ignoreCase file.1, file.2.stamp)) {isSuccess : Bool}
    (hkeyed : σ'.ftp.IsKeyed ignoreCase)
    (hwatch : ∀ key, σ'.ftp.watch key =
      (σ.ftp.watch key).next key (.finished (ignoreCase file.1) file.2.stamp isSuccess))
    (hlog : σ'.log = σ.log ++ [.finished (ignoreCase file.1) file.2.stamp isSuccess])
    (hlisting : σ'.listing = σ.listing) (hphase' : σ'.phase = .downloading files) :
    σ'.Kept ignoreCase := by
  have hsublist := h.sublist
  rw [hphase] at hsublist
  have hmem : file ∈ σ.listing := hsublist.subset List.mem_cons_self
  have hdue := h.due
  rw [hphase] at hdue
  have hsettled := h.settled hpass
  rw [hphase] at hsettled
  -- the files of other keys are what they were
  have hother : ∀ file', ignoreCase file'.1 ≠ ignoreCase file.1 →
      (σ'.IsDue ignoreCase file' ↔ σ.IsDue ignoreCase file') := by
    intro file' hne
    rw [IsDue, hlog, watched_append, Watch.next, if_neg (Ne.symm hne), IsDue]
  have hnodup : ((file :: files).map fun file => ignoreCase file.1).Nodup :=
    h.nodup.sublist (hsublist.map _)
  obtain ⟨hnew, -⟩ := List.nodup_cons.mp hnodup
  refine ⟨hkeyed, fun key => ?_, ?_, fun _ => ?_, hlisting ▸ h.nodup, ?_, fun file' hfile' => ?_,
    fun _ file' hfile' => ?_⟩
  · rw [hwatch, h.watch, hlog, watched_append]
  · rw [hlog]
    exact h.disciplined.append hopen
  · rw [hlog, hphase']
    exact openAttempt_append ..
  · rw [hphase', hlisting]
    exact (List.sublist_cons_self ..).trans hsublist
  · rw [hphase'] at hfile'
    have hne : ignoreCase file'.1 ≠ ignoreCase file.1 := fun heq =>
      hnew (List.mem_map.mpr ⟨file', hfile', heq⟩)
    exact (hother file' hne).mpr (hdue file' (List.mem_cons_of_mem _ hfile'))
  · rw [hphase']
    rw [hlisting] at hfile'
    by_cases hkey : ignoreCase file'.1 = ignoreCase file.1
    · obtain rfl : file' = file := List.inj_on_of_nodup_map h.nodup hfile' hmem hkey
      refine .inr ?_
      rw [IsDue, hlog, watched_append, Watch.next, if_pos rfl]
      cases isSuccess with
      | true => exact id
      | false => exact fun hne => hne rfl
    · rw [hother file' hkey]
      refine (hsettled file' hfile').imp_left fun hold => ?_
      obtain rfl | hold := List.mem_cons.mp hold
      · exact absurd rfl hkey
      · exact hold

/-- An attempt begins at the next file. -/
theorem Kept.attempted (h : σ.Kept ignoreCase) (hphase : σ.phase = .downloading (file :: files)) :
    ({ σ with
      log := σ.log ++ [.attempted (ignoreCase file.1) file.2.stamp]
      phase := .transferring file files } : ScanLoop).Kept ignoreCase := by
  have hpass : σ.phase.InPass := by rw [hphase]; trivial
  have hopen : openAttempt σ.log = none := h.closed (by simp [hphase]) (by rw [hphase]; rfl)
  obtain ⟨hkeyed, hwatch, hdisciplined, -, hnodup, hsublist, hdue, hsettled⟩ := h
  rw [hphase] at hsublist hdue hsettled
  have hsame : ∀ key, watched (σ.log ++ [.attempted (ignoreCase file.1) file.2.stamp]) key =
      watched σ.log key := fun key => watched_append ..
  refine ⟨hkeyed, fun key => (hwatch key).trans (hsame key).symm,
    hdisciplined.append ⟨hopen, hdue file List.mem_cons_self⟩, fun _ => openAttempt_append ..,
    hnodup, hsublist, fun file' hfile' => ?_, fun _ file' hfile' => ?_⟩
  · rw [IsDue, hsame]
    exact hdue file' hfile'
  · rw [IsDue, hsame]
    exact hsettled trivial file' hfile'

theorem Kept.finish (h : σ.Kept ignoreCase) (hphase : σ.phase = .transferring file files)
    {result : Option (BambuLab3MF × String) × BBLFTPConnection}
    (htables : result.2.knownPaths = σ.ftp.knownPaths ∧ result.2.failedFiles = σ.ftp.failedFiles)
    (raised handler : Ending) :
    (σ.finish ignoreCase file files result raised handler).Kept ignoreCase := by
  have hfiles : σ.phase.files = file :: files := by rw [hphase]; rfl
  have hpass : σ.phase.InPass := by rw [hphase]; trivial
  have hopen : openAttempt σ.log = some (ignoreCase file.1, file.2.stamp) := by
    rw [h.attempt (by simp [hphase]), hphase]
    rfl
  have hwatch : result.2.watch = σ.ftp.watch := watch_congr htables.1 htables.2
  have hkeyed : result.2.IsKeyed ignoreCase := by
    rw [BBLFTPConnection.IsKeyed, htables.1]
    exact h.keyed
  have hunknown : result.2.watch (ignoreCase file.1) ≠ .known := by
    intro hknown
    have hdue : σ.IsDue ignoreCase file := h.due file (hfiles ▸ List.mem_cons_self)
    rw [IsDue, ← h.watch, ← hwatch, hknown] at hdue
    exact hdue
  unfold ScanLoop.finish
  dsimp only
  split
  · refine h.finished hfiles hpass hopen ?_ (fun key => ?_) rfl rfl rfl
    · intro key path hpath
      change (if _ then _ else _ : Dictionary String String).tryGetValue key = some path at hpath
      split at hpath
      · exact hkeyed key path hpath
      · rw [Dictionary.tryGetValue_set] at hpath
        split at hpath
        · rename_i hkey
          rw [hkey, Option.some.inj hpath]
        · exact hkeyed key path hpath
    · rw [← hwatch]
      exact watch_known hunknown key
  · exact h.of_tables htables.1 htables.2 rfl (.inl rfl) rfl rfl id
  · refine h.finished hfiles hpass hopen hkeyed (fun key => ?_) rfl rfl rfl
    rw [← hwatch]
    exact watch_failed hunknown key

theorem signalInitialScan_tables (σ : ScanLoop) :
    σ.signalInitialScan.ftp = σ.ftp ∧ σ.signalInitialScan.log = σ.log ∧
      σ.signalInitialScan.listing = σ.listing := by
  unfold signalInitialScan
  split <;> exact ⟨rfl, rfl, rfl⟩

/-- **Every step keeps the tables.** -/
theorem Kept.step (h : σ.Kept ignoreCase) (a : Surroundings) :
    (σ.step ignoreCase a).Kept ignoreCase := by
  have hended : ({ σ with phase := .ended } : ScanLoop).Kept ignoreCase :=
    h.of_tables rfl rfl rfl (.inl rfl) rfl rfl id
  have hphase (hopen : openAttempt σ.log = none) {phase : ScanPhase} (hfiles : phase.files = [])
      (hpass : ¬ phase.InPass) : ({ σ with phase } : ScanLoop).Kept ignoreCase :=
    h.of_tables rfl rfl rfl (.inr hopen) rfl hfiles hpass
  have hwaiting (hopen : openAttempt σ.log = none) :
      ({ σ.signalInitialScan with phase := .waiting } : ScanLoop).Kept ignoreCase := by
    obtain ⟨hftp, hlog, hlisting⟩ := σ.signalInitialScan_tables
    refine h.of_tables ?_ ?_ hlog (.inr hopen) hlisting rfl id
    · exact congrArg BBLFTPConnection.knownPaths hftp
    · exact congrArg BBLFTPConnection.failedFiles hftp
  have hclosed {phase : ScanPhase} (hσ : σ.phase = phase) (hne : phase ≠ .ended)
      (hattempt : phase.attempt ignoreCase = none) : openAttempt σ.log = none :=
    h.closed (hσ ▸ hne) (hσ ▸ hattempt)
  unfold ScanLoop.step
  dsimp only
  split
  case h_1 hσ =>
    split
    · exact hended
    · split
      · exact hphase (hclosed hσ (by simp) rfl) rfl id
      · exact hphase (hclosed hσ (by simp) rfl) rfl id
  case h_2 hσ =>
    split
    · exact hended
    · exact hphase (hclosed hσ (by simp) rfl) rfl id
  case h_3 hσ =>
    split
    · exact hphase (hclosed hσ (by simp) rfl) rfl id
    · exact hended
    · exact hphase (hclosed hσ (by simp) rfl) rfl id
  case h_4 hσ =>
    split
    · exact h.beginPass (hclosed hσ (by simp) rfl) a
    · exact hended
    · exact hphase (hclosed hσ (by simp) rfl) rfl id
  case h_5 hσ => exact hwaiting (hclosed hσ (by simp) rfl)
  case h_6 file files hσ =>
    have hattempted := h.attempted hσ
    split
    · exact hended
    · split
      · exact hattempted
      · have hsignalled : ({ σ with
            signals := σ.signals ++ [.disconnected]
            log := σ.log ++ [.attempted (ignoreCase file.1) file.2.stamp]
            phase := .transferring file files } : ScanLoop).Kept ignoreCase :=
          ⟨hattempted.keyed, hattempted.watch, hattempted.disciplined, hattempted.attempt,
            hattempted.nodup, hattempted.sublist, hattempted.due, hattempted.settled⟩
        exact hsignalled.finish rfl (σ.ftp.download3MF_tables ..) _ _
  case h_7 file files hσ =>
    split
    · exact h.finish hσ (σ.ftp.download3MF_tables ..) _ _
    · exact h.finish hσ (σ.ftp.download3MF_tables ..) _ _
  case h_8 hσ =>
    split
    · exact hwaiting (hclosed hσ (by simp) rfl)
    · exact hphase (hclosed hσ (by simp) rfl) rfl id
  case h_9 hσ =>
    split
    · exact hended
    · exact hphase (hclosed hσ (by simp) rfl) rfl id
  case h_10 hσ =>
    split
    · exact hwaiting (hclosed hσ (by simp) rfl)
    · exact hended
    · exact h.of_tables rfl rfl rfl (.inl rfl) rfl rfl id
  case h_11 hσ =>
    split
    · exact hended
    · exact hphase (hclosed hσ (by simp) rfl) rfl id
  case h_12 => exact h

/-! ### Runs -/

/-- The loop goes on, or its token is cancelled. -/
inductive Step (ignoreCase : String → String) (σ : ScanLoop) : ScanLoop → Prop
  | step (a : Surroundings) : Step ignoreCase σ (σ.step ignoreCase a)
  | cancel : Step ignoreCase σ { σ with isCancellationRequested := true }

def Initial (σ : ScanLoop) : Prop := ∃ ftp, σ = start ftp

theorem kept_of_reachable (h : Reachable Initial (Step ignoreCase) σ) : σ.Kept ignoreCase := by
  refine h.induct ?_ fun σ σ' _ hσ hstep => ?_
  · rintro _ ⟨ftp, rfl⟩
    exact kept_start ftp
  · cases hstep with
    | step a => exact hσ.step a
    | cancel =>
      exact ⟨hσ.keyed, hσ.watch, hσ.disciplined, hσ.attempt, hσ.nodup, hσ.sublist, hσ.due,
        hσ.settled⟩

private def ordinalIgnoreCase (path : String) : String := .ofList (path.toList.map Char.toUpper)

/-- There is one file, whose download fails. -/
private def failing : Surroundings :=
  ⟨true, .completed, [⟨"/a.3mf", true, 1, default⟩], .failed, .completed⟩

/-- The file has another size, and is downloaded. -/
private def repaired : Surroundings :=
  { failing with
    items := [⟨"/a.3mf", true, 2, default⟩]
    transfer := .received "h" (some ⟨[], .finite 0, .finite 0⟩) }

theorem reachable_foldl (h : Reachable Initial (Step ignoreCase) σ) (answers : List Surroundings) :
    Reachable Initial (Step ignoreCase) (answers.foldl (step ignoreCase) σ) := by
  induction answers generalizing σ with
  | nil => exact h
  | cons a answers ih => exact ih (h.tail (.step a))

private def firstPass : ScanLoop :=
  [failing, failing, failing, failing].foldl (step ordinalIgnoreCase) (start .initial)

private def secondPass : ScanLoop :=
  [failing, failing, failing, repaired, repaired, repaired].foldl (step ordinalIgnoreCase)
    firstPass

private theorem reachable_firstPass : Reachable Initial (Step ordinalIgnoreCase) firstPass :=
  reachable_foldl (.refl ⟨.initial, rfl⟩) _

/-- A step raises an event, or none. -/
structure Raises (raised : Option ScanSignal) (σ σ' : ScanLoop) : Prop where
  signals : σ'.signals = σ.signals ++ raised.toList
  done : σ'.initialScanDone = (σ.initialScanDone || raised == some .initialScanComplete)
  first : raised = some .initialScanComplete → σ.initialScanDone = false
  waiting : σ'.phase = .waiting → σ'.initialScanDone = true

theorem raises_nothing (hsignals : σ'.signals = σ.signals)
    (hdone : σ'.initialScanDone = σ.initialScanDone) (hphase : σ'.phase ≠ .waiting) :
    Raises none σ σ' where
  signals := by rw [hsignals, Option.toList_none, List.append_nil]
  done := by simp [hdone]
  first h := by cases h
  waiting h := absurd h hphase

theorem raises_initialScan (σ : ScanLoop) :
    ∃ raised, Raises raised σ { σ.signalInitialScan with phase := .waiting } := by
  unfold signalInitialScan
  cases hdone : σ.initialScanDone with
  | true => exact ⟨none, by simp, by simp [hdone], nofun, fun _ => hdone⟩
  | false => exact ⟨some .initialScanComplete, rfl, by simp, fun _ => hdone, fun _ => rfl⟩

theorem raises_beginPass (σ : ScanLoop) (a : Surroundings) :
    Raises none σ (σ.beginPass ignoreCase a) := by
  unfold ScanLoop.beginPass
  dsimp only
  split <;> exact raises_nothing rfl rfl (by simp)

theorem finish_signals (ignoreCase : String → String) (σ : ScanLoop)
    (file : String × FtpListItem) (files : List (String × FtpListItem))
    (result : Option (BambuLab3MF × String) × BBLFTPConnection) (raised handler : Ending) :
    (σ.finish ignoreCase file files result raised handler).signals = σ.signals ∧
      (σ.finish ignoreCase file files result raised handler).initialScanDone =
        σ.initialScanDone ∧
      (σ.finish ignoreCase file files result raised handler).phase ≠ .waiting := by
  unfold ScanLoop.finish
  dsimp only
  split <;> exact ⟨rfl, rfl, by simp⟩

/-- **What a step raises.** -/
theorem raises_step (ignoreCase : String → String) (σ : ScanLoop) (a : Surroundings) :
    ∃ raised, Raises raised σ (σ.step ignoreCase a) := by
  have hphase : ∀ phase, phase ≠ .waiting → ∃ raised, Raises raised σ { σ with phase } :=
    fun phase hphase => ⟨none, raises_nothing rfl rfl hphase⟩
  have hended := hphase .ended (by simp)
  unfold ScanLoop.step
  dsimp only
  split
  case h_1 =>
    split
    · exact hended
    · refine hphase _ ?_
      split <;> simp
  case h_2 =>
    split
    · exact hended
    · exact hphase _ (by simp)
  case h_3 =>
    split
    · exact hphase _ (by simp)
    · exact hended
    · exact hphase _ (by simp)
  case h_4 =>
    split
    · exact ⟨none, raises_beginPass σ a⟩
    · exact hended
    · exact hphase _ (by simp)
  case h_5 => exact raises_initialScan σ
  case h_6 file files hdownloading =>
    split
    · exact hended
    · split
      · exact ⟨none, raises_nothing rfl rfl (by simp)⟩
      · obtain ⟨hsignals, hdone, hwaiting⟩ := finish_signals ignoreCase
          { σ with
            signals := σ.signals ++ [.disconnected]
            log := σ.log ++ [.attempted (ignoreCase file.1) file.2.stamp] }
          file files (σ.ftp.download3MF file.1 .failed) .failed a.handler
        exact ⟨some .disconnected, hsignals, hdone.trans (by simp), nofun,
          fun h => absurd h hwaiting⟩
  case h_7 file files htransferring =>
    split
    · obtain ⟨hsignals, hdone, hwaiting⟩ := finish_signals ignoreCase σ file files
        (σ.ftp.download3MF file.1 a.transfer) .failed a.handler
      exact ⟨none, raises_nothing hsignals hdone hwaiting⟩
    · obtain ⟨hsignals, hdone, hwaiting⟩ := finish_signals ignoreCase σ file files
        (σ.ftp.download3MF file.1 .failed) a.ending a.handler
      exact ⟨none, raises_nothing hsignals hdone hwaiting⟩
  case h_8 =>
    split
    · exact raises_initialScan σ
    · exact hphase _ (by simp)
  case h_9 =>
    split
    · exact hended
    · exact hphase _ (by simp)
  case h_10 =>
    split
    · exact raises_initialScan σ
    · exact hended
    · exact ⟨some .disconnected, rfl, by simp, nofun, nofun⟩
  case h_11 =>
    split
    · exact hended
    · exact hphase _ (by simp)
  case h_12 hended => exact ⟨none, raises_nothing rfl rfl (by simp [hended])⟩

/-! ### The machine's flag -/

end ScanLoop

/-- The loop, which `ConnectAsync` has started, beside the machine's `IsLocalStorageScanning`.
`isLate` is an observation: `Connect_Internal` has committed after the initial scan, and no event
has been raised since. -/
structure Scanning where
  loop : ScanLoop
  isLocalStorageScanning : Bool
  isLate : Bool

namespace Scanning

variable (ignoreCase : String → String)

/-- `FTP_OnInitialScanComplete` and `FTP_OnDisconnected`. -/
def onSignal (_ : ScanSignal) (σ : Scanning) : Scanning :=
  { σ with isLocalStorageScanning := false, isLate := false }

/-- A step of the loop, with the handlers of what it raises. -/
def stepLoop (a : Surroundings) (σ : Scanning) : Scanning :=
  let loop := σ.loop.step ignoreCase a
  (loop.signals.drop σ.loop.signals.length).foldl (fun σ signal => σ.onSignal signal)
    { σ with loop }

/-- The commit in `Connect_Internal` after `ConnectAsync`. -/
def connectDone (σ : Scanning) : Scanning :=
  { σ with isLocalStorageScanning := true, isLate := σ.loop.initialScanDone }

inductive Step (σ : Scanning) : Scanning → Prop
  | loop (a : Surroundings) : Step σ (σ.stepLoop ignoreCase a)
  | cancel : Step σ { σ with loop := { σ.loop with isCancellationRequested := true } }
  | connectDone : Step σ σ.connectDone

def Initial (σ : Scanning) : Prop :=
  (∃ ftp, σ.loop = .start ftp) ∧ σ.isLocalStorageScanning = false ∧ σ.isLate = false

variable {ignoreCase} {σ σ' : Scanning}

theorem stepLoop_of_raises {raised : Option ScanSignal} {a : Surroundings}
    (h : ScanLoop.Raises raised σ.loop (σ.loop.step ignoreCase a)) :
    (σ.stepLoop ignoreCase a).loop = σ.loop.step ignoreCase a ∧
      (σ.stepLoop ignoreCase a).isLocalStorageScanning =
        (raised.isNone && σ.isLocalStorageScanning) ∧
      (σ.stepLoop ignoreCase a).isLate = (raised.isNone && σ.isLate) := by
  rw [stepLoop, h.signals, List.drop_left]
  cases raised with
  | none => exact ⟨rfl, rfl, rfl⟩
  | some signal => exact ⟨rfl, rfl, rfl⟩

/-- After the initial scan, the flag tells what came last. -/
structure Told (σ : Scanning) : Prop where
  flag : σ.loop.initialScanDone = true → σ.isLocalStorageScanning = σ.isLate
  count : σ.loop.signals.count .initialScanComplete = if σ.loop.initialScanDone then 1 else 0
  waiting : σ.loop.phase = .waiting → σ.loop.initialScanDone = true

theorem Told.stepLoop (h : σ.Told) (a : Surroundings) : (σ.stepLoop ignoreCase a).Told := by
  obtain ⟨raised, hraises⟩ := σ.loop.raises_step ignoreCase a
  obtain ⟨hloop, hscanning, hlate⟩ := stepLoop_of_raises hraises
  refine ⟨?_, ?_, ?_⟩
  · intro hdone
    rw [hloop, hraises.done] at hdone
    rw [hscanning, hlate]
    cases raised with
    | none => exact congrArg _ (h.flag (by simpa using hdone))
    | some signal => rfl
  · rw [hloop, hraises.signals, hraises.done, List.count_append, h.count]
    cases raised with
    | none => simp
    | some signal =>
      cases signal with
      | initialScanComplete =>
        rw [hraises.first rfl]
        rfl
      | disconnected => simp
  · rw [hloop]
    exact hraises.waiting

theorem told_of_reachable (h : Reachable Initial (Step ignoreCase) σ) : σ.Told := by
  refine h.induct ?_ fun σ σ' _ hσ hstep => ?_
  · rintro σ ⟨⟨ftp, hloop⟩, hscanning, hlate⟩
    refine ⟨fun _ => hscanning.trans hlate.symm, ?_, fun hwaiting => ?_⟩
    · rw [hloop]
      rfl
    · rw [hloop] at hwaiting
      cases hwaiting
  · cases hstep with
    | loop a => exact hσ.stepLoop a
    | cancel => exact ⟨hσ.flag, hσ.count, hσ.waiting⟩
    | connectDone => exact ⟨fun hdone => hdone.symm, hσ.count, hσ.waiting⟩

/-- The commit comes while the loop waits, and the machine is scanning. -/
private def lateCommit : Scanning := Scanning.connectDone
  ([ScanLoop.failing, ScanLoop.failing, ScanLoop.failing, ScanLoop.failing,
    ScanLoop.failing].foldl (fun σ a => σ.stepLoop ScanLoop.ordinalIgnoreCase a)
    ⟨.start .initial, false, false⟩)

end Scanning

/-! ### How the loop ends -/

/-- A download is under way. -/
def ScanPhase.underWay : ScanPhase → ℕ
  | .transferring _ _ => 1
  | _ => 0

/-- How many steps the loop has left at most, once its token has been cancelled. -/
def ScanPhase.stepsLeft : ScanPhase → ℕ
  | .connecting => 4
  | .listing | .transferring _ _ => 3
  | .downloading [] | .recovering | .recoverConnecting => 2
  | .downloading (_ :: _) | .checking | .pausing | .recoverPausing | .waiting => 1
  | .ended => 0

theorem stepsLeft_downloading (files : List (String × FtpListItem)) :
    (ScanPhase.downloading files).stepsLeft ≤ 2 := by
  cases files with
  | nil => exact le_rfl
  | cons file files => exact Nat.le_succ 1

namespace ScanLoop

variable {ignoreCase : String → String} {σ σ' : ScanLoop} {file : String × FtpListItem}
  {files : List (String × FtpListItem)}

/-- How many downloads have begun. -/
def begun (σ : ScanLoop) : ℕ := σ.log.countP WatchEvent.isAttempt

/-- How many downloads have come to an end, with the one that is under way. -/
def ending (σ : ScanLoop) : ℕ := σ.log.countP WatchEvent.isFinish + σ.phase.underWay

/-- A step after the token has been cancelled: the loop gets closer to its end, begins no download,
comes to the end of none but the one that is under way, and does not give up. -/
structure Closing (σ σ' : ScanLoop) : Prop where
  canceled : σ'.isCancellationRequested = true
  stepsLeft : σ'.phase.stepsLeft ≤ σ.phase.stepsLeft - 1
  begun : σ'.begun ≤ σ.begun
  ending : σ'.ending ≤ σ.ending
  connecting : σ.phase ≠ .recoverConnecting → σ'.phase ≠ .recoverConnecting ∧
    σ'.signals.count .disconnected = σ.signals.count .disconnected

/-- Nothing is under way any more, and nothing has ended. -/
theorem ending_le_of_log
    (hlog : σ'.log.countP WatchEvent.isFinish = σ.log.countP WatchEvent.isFinish)
    (hunder : σ'.phase.underWay = 0) : σ'.ending ≤ σ.ending := by
  rw [ending, ending, hlog, hunder]
  exact Nat.le_add_right _ _

/-- The loop goes on at another place, and nothing else happens. -/
theorem Closing.of_phase (h : σ.isCancellationRequested = true) {phase : ScanPhase}
    (hphase : phase ≠ .recoverConnecting) (hleft : phase.stepsLeft ≤ σ.phase.stepsLeft - 1)
    (hunder : phase.underWay = 0) : Closing σ { σ with phase } where
  canceled := h
  stepsLeft := hleft
  begun := le_rfl
  ending := ending_le_of_log rfl hunder
  connecting _ := ⟨hphase, rfl⟩

theorem Closing.waiting (h : σ.isCancellationRequested = true)
    (hleft : 1 ≤ σ.phase.stepsLeft - 1) :
    Closing σ { σ.signalInitialScan with phase := .waiting } := by
  have hsame : σ.signalInitialScan.isCancellationRequested = σ.isCancellationRequested ∧
      σ.signalInitialScan.log = σ.log ∧
      σ.signalInitialScan.signals.count .disconnected = σ.signals.count .disconnected := by
    unfold signalInitialScan
    split
    · exact ⟨rfl, rfl, rfl⟩
    · exact ⟨rfl, rfl, by simp⟩
  obtain ⟨hcanceled, hlog, hsignals⟩ := hsame
  exact ⟨hcanceled.trans h, hleft, (congrArg (List.countP WatchEvent.isAttempt) hlog).le,
    ending_le_of_log (congrArg (List.countP WatchEvent.isFinish) hlog) rfl,
    fun _ => ⟨by simp, hsignals⟩⟩

/-- What is logged is no attempt. -/
theorem begun_append_of_not (σ : ScanLoop) {e : WatchEvent String FileStamp}
    (he : e.isAttempt = false) : (σ.log ++ [e]).countP WatchEvent.isAttempt ≤ σ.begun := by
  rw [List.countP_append, List.countP_singleton, he]
  exact le_rfl

theorem Closing.beginPass (h : σ.isCancellationRequested = true) (hleft : 3 ≤ σ.phase.stepsLeft)
    (a : Surroundings) : Closing σ (σ.beginPass ignoreCase a) := by
  have hfinish (e : WatchEvent String FileStamp) (he : e.isFinish = false) :
      (σ.log ++ [e]).countP WatchEvent.isFinish = σ.log.countP WatchEvent.isFinish := by
    rw [List.countP_append, List.countP_singleton, he]
    rfl
  unfold ScanLoop.beginPass
  dsimp only
  split
  · exact ⟨h, (stepsLeft_downloading _).trans (Nat.le_sub_one_of_lt hleft),
      σ.begun_append_of_not rfl, ending_le_of_log (hfinish _ rfl) rfl, fun _ => ⟨by simp, rfl⟩⟩
  · exact ⟨h, Nat.zero_le _, σ.begun_append_of_not rfl, ending_le_of_log (hfinish _ rfl) rfl,
      fun _ => ⟨by simp, rfl⟩⟩
  · exact ⟨h, Nat.le_sub_one_of_lt hleft, σ.begun_append_of_not rfl,
      ending_le_of_log (hfinish _ rfl) rfl, fun _ => ⟨by simp, rfl⟩⟩

/-- The download that is under way comes to its end. -/
theorem Closing.finish (h : σ.isCancellationRequested = true)
    (hphase : σ.phase = .transferring file files)
    (result : Option (BambuLab3MF × String) × BBLFTPConnection) (raised handler : Ending) :
    Closing σ (σ.finish ignoreCase file files result raised handler) := by
  have hending (isSuccess : Bool) : (σ.log ++ [WatchEvent.finished (ignoreCase file.1) file.2.stamp
      isSuccess]).countP WatchEvent.isFinish + 0 ≤ σ.ending := by
    rw [List.countP_append, ScanLoop.ending, hphase]
    exact le_rfl
  have hleft : ∀ n, n ≤ 2 → n ≤ σ.phase.stepsLeft - 1 := fun n hn => by
    rw [hphase]
    exact hn
  unfold ScanLoop.finish
  dsimp only
  split
  · exact ⟨h, hleft _ (stepsLeft_downloading _), σ.begun_append_of_not rfl, hending true,
      fun _ => ⟨by simp, rfl⟩⟩
  · exact ⟨h, Nat.zero_le _, le_rfl, ending_le_of_log rfl rfl, fun _ => ⟨by simp, rfl⟩⟩
  · exact ⟨h, hleft _ (stepsLeft_downloading _), σ.begun_append_of_not rfl, hending false,
      fun _ => ⟨by simp, rfl⟩⟩

/-- **Every step after the cancellation.** -/
theorem closing_step (h : σ.isCancellationRequested = true) (a : Surroundings) :
    Closing σ (σ.step ignoreCase a) := by
  have hended : Closing σ { σ with phase := .ended } :=
    .of_phase h (by simp) (Nat.zero_le _) rfl
  unfold ScanLoop.step
  dsimp only
  split
  case h_1 => exact (if_pos h).symm ▸ hended
  case h_2 => exact (if_pos h).symm ▸ hended
  case h_3 hphase =>
    split
    · exact .of_phase h (by simp) (by rw [hphase]; exact le_rfl) rfl
    · exact hended
    · exact .of_phase h (by simp) (by rw [hphase]; decide) rfl
  case h_4 hphase =>
    split
    · exact .beginPass h (by rw [hphase]; exact le_rfl) a
    · exact hended
    · exact .of_phase h (by simp) (by rw [hphase]; exact le_rfl) rfl
  case h_5 hphase => exact .waiting h (by rw [hphase]; exact le_rfl)
  case h_6 => exact (if_pos h).symm ▸ hended
  case h_7 hphase =>
    split
    · exact .finish h hphase _ _ _
    · exact .finish h hphase _ _ _
  case h_8 hphase =>
    split
    · exact .waiting h (by rw [hphase]; exact le_rfl)
    · exact .of_phase h (by simp) (by rw [hphase]; exact le_rfl) rfl
  case h_9 => exact (if_pos h).symm ▸ hended
  case h_10 hphase =>
    split
    · exact .waiting h (by rw [hphase]; exact le_rfl)
    · exact hended
    · exact ⟨h, Nat.zero_le _, le_rfl, ending_le_of_log rfl rfl, fun hne => absurd hphase hne⟩
  case h_11 => exact (if_pos h).symm ▸ hended
  case h_12 hphase =>
    exact ⟨h, by rw [hphase]; exact le_rfl, le_rfl, le_rfl, fun hne => ⟨hne, rfl⟩⟩

/-- **A loop whose token has been cancelled** is at its end after four steps. It has begun no
download, has finished at most the one that was under way, and has raised no `OnDisconnected` unless
its last attempt to reconnect was under way. -/
theorem ended_of_canceled (h : σ.isCancellationRequested = true) {answers : List Surroundings}
    (hsteps : 4 ≤ answers.length) :
    (answers.foldl (step ignoreCase) σ).phase = .ended ∧
      (answers.foldl (step ignoreCase) σ).begun ≤ σ.begun ∧
      (answers.foldl (step ignoreCase) σ).log.countP WatchEvent.isFinish ≤ σ.ending ∧
      (σ.phase ≠ .recoverConnecting →
        (answers.foldl (step ignoreCase) σ).signals.count .disconnected =
          σ.signals.count .disconnected) := by
  have hrun : ∀ σ : ScanLoop, σ.isCancellationRequested = true →
      (answers.foldl (step ignoreCase) σ).phase.stepsLeft ≤ σ.phase.stepsLeft - answers.length ∧
      (answers.foldl (step ignoreCase) σ).begun ≤ σ.begun ∧
      (answers.foldl (step ignoreCase) σ).ending ≤ σ.ending ∧
      (σ.phase ≠ .recoverConnecting →
        (answers.foldl (step ignoreCase) σ).signals.count .disconnected =
          σ.signals.count .disconnected) := by
    clear hsteps
    induction answers with
    | nil => exact fun σ _ => ⟨le_rfl, le_rfl, le_rfl, fun _ => rfl⟩
    | cons a answers ih =>
      intro σ hσ
      have hclosing : Closing σ (σ.step ignoreCase a) := closing_step hσ a
      obtain ⟨hleft, hbegun, hending, hsignals⟩ := ih _ hclosing.canceled
      have hstep := hclosing.stepsLeft
      refine ⟨?_, hbegun.trans hclosing.begun, hending.trans hclosing.ending, fun hne => ?_⟩
      · rw [List.foldl_cons, List.length_cons]
        omega
      · obtain ⟨hne', hcount⟩ := hclosing.connecting hne
        exact (hsignals hne').trans hcount
  have hbound : σ.phase.stepsLeft ≤ 4 := by
    cases σ.phase with
    | downloading files => exact (stepsLeft_downloading files).trans (by decide)
    | _ => simp [ScanPhase.stepsLeft]
  obtain ⟨hleft, hbegun, hending, hsignals⟩ := hrun σ h
  refine ⟨?_, hbegun, (Nat.le_add_right _ _).trans hending, hsignals⟩
  have hzero : (answers.foldl (step ignoreCase) σ).phase.stepsLeft = 0 := by omega
  generalize (answers.foldl (step ignoreCase) σ).phase = phase at hzero ⊢
  cases phase with
  | ended => rfl
  | downloading files => cases files <;> cases hzero
  | _ => cases hzero

/-- The token is cancelled while a file is being downloaded. -/
theorem ended_of_canceled_transferring :
    ([failing, failing, failing, failing].foldl (step ordinalIgnoreCase)
      { start .initial with
        isCancellationRequested := true
        phase := .transferring ("/a.3mf", ⟨"/a.3mf", true, 1, default⟩) [] }).phase = .ended :=
  (ended_of_canceled rfl le_rfl).1

end ScanLoop

end BambuLab

end Connect3Dp
