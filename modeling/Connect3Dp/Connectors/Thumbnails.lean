import Connect3Dp.Connectors.BambuLabFTP
import Connect3Dp.Connectors.FileHandles
import Connect3Dp.Files.FileStore

/-!
# The thumbnails of downloaded 3MF files

`Download3MF` loads a file from a temporary stream that it closes when it returns. The `BambuLab3MF`
reads its thumbnail from the archive over that stream when it is asked for it, and it can be asked
later only: by the caller, or by a later one that gets it from the cache.

Objects and streams have addresses here. `givesThumbnail_iff` says what becomes of a thumbnail in
every run of downloads and reads: unless the archive has none, the read raises an exception. So
`DownloadLocalFile` never writes one (`downloadLocalFile_thumbnail_fails`).
-/

namespace Connect3Dp

namespace BambuLab

/-- A 3MF file: what `Load` reads at once, and the entries of the archive. -/
structure ThreeMF where
  bbl3MF : BambuLab3MF
  plateIndex : Int32
  getEntry : String → Option Bytes

namespace ThreeMF

variable (culture : Culture)

def imagePath (file : ThreeMF) : String :=
  "Metadata/plate_" ++ culture.formatInt32 file.plateIndex ++ "_small.png"

/-- The bytes of the thumbnail, if the archive has it. -/
def smallThumbnail (file : ThreeMF) : Option Bytes := file.getEntry (file.imagePath culture)

end ThreeMF

/-- A `BambuLab3MF` that `Load` has returned: the file, the stream of the archive, and the value of
the lazy thumbnail, or the exception that its evaluation raised. Nobody disposes it. -/
structure Loaded3MF where
  file : ThreeMF
  sourceStream : ℕ
  thumbnailSmall : Option (Except Fault (Option Bytes))

/-- The lazy thumbnail keeps what its evaluation has given. -/
def Loaded3MF.keep (object : Loaded3MF) (result : Except Fault (Option Bytes)) : Loaded3MF :=
  { object with thumbnailSmall := some result }

/-- `BBLFTPConnection`, the objects that were loaded, and the streams that were created, with
whether they are open. -/
structure FTPObjects where
  cached3MF : Dictionary String ℕ
  pathToHash : Dictionary String String
  lru : List String
  objects : List Loaded3MF
  streams : List Bool

/-- How the transfer of a file goes: there is no connection, it raises, or the content has a hash
and is a 3MF, unless `FileStore.Contains` or `Load` raises. -/
inductive Transfer3MF
  | notConnected
  | failed (f : Fault)
  | received (hash : String) (loaded : Except Fault ThreeMF)

/-- The transfer, with what the file is instead of the object. -/
def Transfer3MF.toTransfer : Transfer3MF → Transfer
  | .notConnected => .failed
  | .failed _ => .failed
  | .received hash loaded => .received hash (loaded.toOption.map ThreeMF.bbl3MF)

namespace FTPObjects

def initial : FTPObjects := ⟨∅, ∅, [], [], []⟩

/-- `FileUtils.CreateTempFileStream`. -/
def createTempFileStream (s : FTPObjects) : FTPObjects := { s with streams := s.streams ++ [true] }

/-- The end of `using var tempStream`. -/
def closeStream (s : FTPObjects) (stream : ℕ) : FTPObjects :=
  { s with streams := s.streams.set stream false }

/-- `TouchLRU`. -/
def touchLRU (s : FTPObjects) (key : String) : FTPObjects :=
  let lru := key :: s.lru.erase key
  if BBLFTPConnection.maxCacheSize < lru.length then
    { s with lru := lru.dropLast, cached3MF := s.cached3MF.remove (lru.getLast?.getD key) }
  else { s with lru }

/-- The cache recovery of `Download3MF`, which raises again what it was called for. -/
def recover (s : FTPObjects) (remotePath : String) (f : Fault) : Except Fault (ℕ × String) :=
  match s.pathToHash.tryGetValue remotePath with
  | some oldHash =>
    match s.cached3MF.tryGetValue oldHash with
    | some cached => .ok (cached, oldHash)
    | none => .error f
  | none => .error f

/-- `Download3MF`. -/
def download3MF (s : FTPObjects) (remotePath : String) :
    Transfer3MF → Except Fault (ℕ × String) × FTPObjects
  | .notConnected => (s.recover remotePath .invalidOperation, s)
  | .failed f =>
    let s := s.createTempFileStream.closeStream s.streams.length
    (s.recover remotePath f, s)
  | .received hash loaded =>
    let tempStream := s.streams.length
    let s := s.createTempFileStream
    match s.cached3MF.tryGetValue hash, loaded with
    | some cached, _ =>
      let s := touchLRU { s with pathToHash := s.pathToHash.set remotePath hash } hash
      (.ok (cached, hash), s.closeStream tempStream)
    | none, .ok file =>
      let address := s.objects.length
      let s := touchLRU { s with
        objects := s.objects ++ [⟨file, tempStream, none⟩]
        cached3MF := s.cached3MF.set hash address
        pathToHash := s.pathToHash.set remotePath hash } hash
      (.ok (address, hash), s.closeStream tempStream)
    | none, .error f =>
      let s := s.closeStream tempStream
      (s.recover remotePath f, s)

variable (culture : Culture)

/-- The evaluation of the lazy thumbnail. An entry can only be read while the stream is open. -/
def evaluate (s : FTPObjects) (object : Loaded3MF) : Except Fault (Option Bytes) :=
  match object.file.smallThumbnail culture with
  | none => .ok none
  | some bytes =>
    if s.streams[object.sourceStream]? = some true then .ok (some bytes)
    else .error .invalidOperation

/-- `ThumbnailSmall`, of the object at an address. -/
def readThumbnailSmall (s : FTPObjects) (address : ℕ) :
    Except Fault (Option Bytes) × FTPObjects :=
  match s.objects[address]? with
  | none => (.error .nullReference, s)
  | some object =>
    match object.thumbnailSmall with
    | some result => (result, s)
    | none =>
      let result := s.evaluate culture object
      (result, { s with objects := s.objects.set address (object.keep result) })

/-- `DownloadLocalFile`: what it writes. `content` is what `DownloadFile` would write, or raise. -/
def downloadLocalFile (s : FTPObjects) (fileHandle : MachineFileHandle)
    (content : Except Fault Bytes) (transfer : Transfer3MF) : Except Fault Bytes × FTPObjects :=
  match tryParseAs3MFHandle fileHandle with
  | .error f => (.error f, s)
  | .ok (some _) => (content, s)
  | .ok none =>
    match tryParseAs3MFThumbnailHandle fileHandle with
    | .error f => (.error f, s)
    | .ok none => (.error .io, s)
    | .ok (some filePath) =>
      match s.download3MF filePath transfer with
      | (.error f, s) => (.error f, s)
      | (.ok (address, _), s) =>
        match s.readThumbnailSmall culture address with
        | (.error f, s) => (.error f, s)
        | (.ok none, s) => (.error .io, s)
        | (.ok (some bytes), s) => (.ok bytes, s)

/-- What happens: a download, a read of a thumbnail, or the scan loop forgets a file that is
gone. -/
inductive Event
  | download (remotePath : String) (transfer : Transfer3MF)
  | readThumbnail (address : ℕ)
  | forget (remotePath : String)

def perform (s : FTPObjects) : Event → FTPObjects
  | .download remotePath transfer => (s.download3MF remotePath transfer).2
  | .readThumbnail address => (s.readThumbnailSmall culture address).2
  | .forget remotePath => { s with pathToHash := s.pathToHash.remove remotePath }

def run (s : FTPObjects) (events : List Event) : FTPObjects := events.foldl (perform culture) s

/-! ### What a call leaves -/

/-- What a call can do to the objects and the streams: there are new objects, whose thumbnails have
not been evaluated, and new streams, which are closed. -/
structure Extends (s s' : FTPObjects) : Prop where
  objects : ∃ loaded, s'.objects = s.objects ++ loaded ∧ ∀ o ∈ loaded, o.thumbnailSmall = none
  streams : ∃ k, s'.streams = s.streams ++ List.replicate k false

/-- The cache has objects. -/
def CachesObjects (s : FTPObjects) : Prop :=
  ∀ hash address, s.cached3MF.tryGetValue hash = some address → address < s.objects.length

variable {s : FTPObjects} {culture}

theorem touchLRU_objects (s : FTPObjects) (key : String) :
    (s.touchLRU key).objects = s.objects := by
  rw [touchLRU]
  split
  · rfl
  · rfl

theorem touchLRU_streams (s : FTPObjects) (key : String) :
    (s.touchLRU key).streams = s.streams := by
  rw [touchLRU]
  split
  · rfl
  · rfl

/-- An object that is in the cache afterwards was there before. -/
theorem tryGetValue_touchLRU {key hash : String} {address : ℕ}
    (h : (s.touchLRU key).cached3MF.tryGetValue hash = some address) :
    s.cached3MF.tryGetValue hash = some address := by
  rw [touchLRU] at h
  split at h
  · rw [Dictionary.tryGetValue_remove] at h
    split at h
    · cases h
    · exact h
  · exact h

/-- A call that closes its stream. -/
theorem Extends.of_closeStream {s' : FTPObjects} {loaded : List Loaded3MF}
    (hobjects : s'.objects = s.objects ++ loaded) (hloaded : ∀ o ∈ loaded, o.thumbnailSmall = none)
    (hstreams : s'.streams = s.streams ++ [true]) :
    s.Extends (s'.closeStream s.streams.length) where
  objects := ⟨loaded, hobjects, hloaded⟩
  streams := by
    refine ⟨1, ?_⟩
    change s'.streams.set s.streams.length false = _
    rw [hstreams, List.set_append_right _ _ le_rfl, Nat.sub_self]
    rfl

theorem recover_lt (h : s.CachesObjects) {remotePath hash : String} {f : Fault} {address : ℕ}
    (hrecover : s.recover remotePath f = .ok (address, hash)) : address < s.objects.length := by
  rw [recover] at hrecover
  split at hrecover
  · split at hrecover
    · rename_i hcached
      cases hrecover
      exact h _ _ hcached
    · cases hrecover
  · cases hrecover

section Received

variable {hash : String} (remotePath : String)

/-- The file is in the cache. -/
theorem download3MF_of_cached {cached : ℕ} (hcached : s.cached3MF.tryGetValue hash = some cached)
    (loaded : Except Fault ThreeMF) :
    s.download3MF remotePath (.received hash loaded) = (.ok (cached, hash),
      (touchLRU { s.createTempFileStream with
        pathToHash := s.pathToHash.set remotePath hash } hash).closeStream s.streams.length) := by
  simp only [download3MF, createTempFileStream, hcached]

/-- The file is loaded. -/
theorem download3MF_of_loaded (hcached : s.cached3MF.tryGetValue hash = none) (file : ThreeMF) :
    s.download3MF remotePath (.received hash (.ok file)) = (.ok (s.objects.length, hash),
      (touchLRU { s.createTempFileStream with
        objects := s.objects ++ [⟨file, s.streams.length, none⟩]
        cached3MF := s.cached3MF.set hash s.objects.length
        pathToHash := s.pathToHash.set remotePath hash } hash).closeStream s.streams.length) := by
  simp only [download3MF, createTempFileStream, hcached]

/-- The file cannot be loaded. -/
theorem download3MF_of_fault (hcached : s.cached3MF.tryGetValue hash = none) (f : Fault) :
    s.download3MF remotePath (.received hash (.error f)) =
      s.download3MF remotePath (.failed f) := by
  simp only [download3MF, createTempFileStream, hcached]

end Received

theorem CachesObjects.touchLRU (h : s.CachesObjects) (key : String) :
    (s.touchLRU key).CachesObjects := by
  intro hash address hcached
  rw [touchLRU_objects]
  exact h _ _ (tryGetValue_touchLRU hcached)

/-- The new object is put into the cache. -/
theorem CachesObjects.load (h : s.CachesObjects) {s' : FTPObjects} {hash : String}
    {object : Loaded3MF} (hobjects : s'.objects = s.objects ++ [object])
    (hcached : s'.cached3MF = s.cached3MF.set hash s.objects.length) : s'.CachesObjects := by
  intro hash' address hget
  rw [hcached, Dictionary.tryGetValue_set] at hget
  rw [hobjects, List.length_append, List.length_singleton]
  split at hget
  · cases hget
    exact Nat.lt_succ_self _
  · exact Nat.lt_succ_of_lt (h _ _ hget)

/-- What `Download3MF` has done: it has closed its stream, and what it returns and caches are
objects. -/
structure Downloads (s : FTPObjects) (result : Except Fault (ℕ × String) × FTPObjects) : Prop
    extends s.Extends result.2 where
  caches : result.2.CachesObjects
  returns : ∀ address hash, result.1 = .ok (address, hash) → address < result.2.objects.length

/-- A download that raises. -/
theorem downloads_failed (h : s.CachesObjects) (remotePath : String) (f : Fault) :
    s.Downloads (s.download3MF remotePath (.failed f)) where
  toExtends := .of_closeStream (List.append_nil _).symm (fun _ ho => absurd ho List.not_mem_nil) rfl
  caches := h
  returns _ _ hreturned := recover_lt h hreturned

/-- **What `Download3MF` does**, whichever way it returns. -/
theorem downloads_download3MF (h : s.CachesObjects) (remotePath : String) (transfer : Transfer3MF) :
    s.Downloads (s.download3MF remotePath transfer) := by
  cases transfer with
  | notConnected =>
    exact ⟨⟨⟨[], (List.append_nil _).symm, fun _ ho => absurd ho List.not_mem_nil⟩,
      0, (List.append_nil _).symm⟩, h, fun _ _ hreturned => recover_lt h hreturned⟩
  | failed f => exact downloads_failed h remotePath f
  | received hash loaded =>
    cases hcached : s.cached3MF.tryGetValue hash with
    | some cached =>
      rw [download3MF_of_cached remotePath hcached]
      refine ⟨.of_closeStream ?_ (fun _ ho => absurd ho List.not_mem_nil) ?_, ?_, ?_⟩
      · rw [touchLRU_objects]
        exact (List.append_nil _).symm
      · rw [touchLRU_streams]
        rfl
      · exact CachesObjects.touchLRU (s := { s.createTempFileStream with
          pathToHash := s.pathToHash.set remotePath hash }) h hash
      · intro address hash' hreturned
        cases hreturned
        change _ < (touchLRU _ hash).objects.length
        rw [touchLRU_objects]
        exact h _ _ hcached
    | none =>
      cases loaded with
      | error f =>
        rw [download3MF_of_fault remotePath hcached]
        exact downloads_failed h remotePath f
      | ok file =>
        rw [download3MF_of_loaded remotePath hcached]
        refine ⟨.of_closeStream (touchLRU_objects ..) ?_ ?_, ?_, ?_⟩
        · intro o ho
          rw [List.mem_singleton.mp ho]
        · rw [touchLRU_streams]
          rfl
        · exact (CachesObjects.load h rfl rfl).touchLRU hash
        · intro address hash' hreturned
          cases hreturned
          change _ < (touchLRU _ hash).objects.length
          rw [touchLRU_objects, List.length_append]
          exact Nat.lt_succ_self _

/-! ### Runs -/

/-- What the object at an address was loaded from. -/
def fileOf (s : FTPObjects) (address : ℕ) : Option ThreeMF := s.objects[address]?.map Loaded3MF.file

/-- What a read gives when the stream is closed. -/
def readClosed (culture : Culture) (file : ThreeMF) : Except Fault (Option Bytes) :=
  match file.smallThumbnail culture with
  | none => .ok none
  | some _ => .error .invalidOperation

/-- No call is under way: all streams are closed, and what has been evaluated was evaluated with a
closed stream. -/
structure Settled (culture : Culture) (s : FTPObjects) : Prop where
  caches : s.CachesObjects
  closed : ∀ isOpen ∈ s.streams, isOpen = false
  evaluated : ∀ o ∈ s.objects, ∀ result, o.thumbnailSmall = some result →
    result = readClosed culture o.file

theorem settled_initial : Settled culture initial where
  caches _ _ h := by cases h
  closed _ h := absurd h List.not_mem_nil
  evaluated _ h := absurd h List.not_mem_nil

/-- The evaluation of a thumbnail when no call is under way. -/
theorem Settled.evaluate_eq (h : Settled culture s) (object : Loaded3MF) :
    s.evaluate culture object = readClosed culture object.file := by
  rw [evaluate, readClosed]
  split
  · rfl
  · rw [if_neg]
    intro hopen
    cases h.closed _ (List.mem_of_getElem? hopen)

/-- **A read** when no call is under way. -/
theorem Settled.readThumbnailSmall_fst (h : Settled culture s) {address : ℕ} {file : ThreeMF}
    (hfile : s.fileOf address = some file) :
    (s.readThumbnailSmall culture address).1 = readClosed culture file := by
  obtain ⟨object, hobject, rfl⟩ := Option.map_eq_some_iff.mp hfile
  rw [readThumbnailSmall, hobject]
  dsimp only
  split
  · rename_i result hresult
    exact h.evaluated object (List.mem_of_getElem? hobject) result hresult
  · exact h.evaluate_eq object

/-- What a read changes: the thumbnail of the object has been evaluated. -/
theorem readThumbnailSmall_snd (culture : Culture) (s : FTPObjects) (address : ℕ) :
    (s.readThumbnailSmall culture address).2 = s ∨
      ∃ object, s.objects[address]? = some object ∧ (s.readThumbnailSmall culture address).2 =
        { s with objects := s.objects.set address (object.keep (s.evaluate culture object)) } := by
  rw [readThumbnailSmall]
  split
  · exact .inl rfl
  · rename_i object hobject
    split
    · exact .inl rfl
    · exact .inr ⟨object, hobject, rfl⟩

theorem Settled.download3MF (h : Settled culture s) (remotePath : String)
    (transfer : Transfer3MF) : Settled culture (s.download3MF remotePath transfer).2 := by
  have hdownloads := downloads_download3MF h.caches remotePath transfer
  obtain ⟨loaded, hobjects, hloaded⟩ := hdownloads.objects
  obtain ⟨k, hstreams⟩ := hdownloads.streams
  refine ⟨hdownloads.caches, fun isOpen hmem => ?_, fun o ho result hresult => ?_⟩
  · rw [hstreams] at hmem
    obtain hold | hnew := List.mem_append.mp hmem
    · exact h.closed isOpen hold
    · exact List.eq_of_mem_replicate hnew
  · rw [hobjects] at ho
    obtain hold | hnew := List.mem_append.mp ho
    · exact h.evaluated o hold result hresult
    · rw [hloaded o hnew] at hresult
      cases hresult

theorem Settled.perform (h : Settled culture s) (event : Event) :
    Settled culture (s.perform culture event) := by
  cases event with
  | download remotePath transfer => exact h.download3MF remotePath transfer
  | readThumbnail address =>
    rw [FTPObjects.perform]
    obtain hsame | ⟨object, hobject, hread⟩ := readThumbnailSmall_snd culture s address
    · rwa [hsame]
    · rw [hread]
      refine ⟨fun hash cached hcached => ?_, h.closed, fun o ho result hresult => ?_⟩
      · rw [List.length_set]
        exact h.caches hash cached hcached
      · obtain hold | rfl := List.mem_or_eq_of_mem_set ho
        · exact h.evaluated o hold result hresult
        · rw [h.evaluate_eq object] at hresult
          exact (Option.some.inj hresult).symm
  | forget remotePath => exact ⟨h.caches, h.closed, h.evaluated⟩

theorem settled_run (events : List Event) : Settled culture (run culture initial events) := by
  induction events using List.reverseRecOn with
  | nil => exact settled_initial
  | append_singleton events event ih =>
    rw [run, List.foldl_append]
    exact ih.perform event

/-- The objects stay what they are. -/
theorem fileOf_perform (h : Settled culture s) (event : Event) {address : ℕ} {file : ThreeMF}
    (hfile : s.fileOf address = some file) :
    (s.perform culture event).fileOf address = some file := by
  cases event with
  | download remotePath transfer =>
    obtain ⟨loaded, hobjects, -⟩ := (downloads_download3MF h.caches remotePath transfer).objects
    obtain ⟨object, hobject, rfl⟩ := Option.map_eq_some_iff.mp hfile
    rw [perform, fileOf, hobjects,
      List.getElem?_append_left (List.getElem?_eq_some_iff.mp hobject).1, hobject]
    rfl
  | readThumbnail address' =>
    rw [perform]
    obtain hsame | ⟨object, hobject, hread⟩ :=
      readThumbnailSmall_snd culture s address'
    · rwa [hsame]
    · rw [hread, fileOf, List.getElem?_set]
      split
      · rename_i heq
        subst heq
        rw [if_pos (List.getElem?_eq_some_iff.mp hobject).1, ← hfile, fileOf, hobject]
        rfl
      · exact hfile
  | forget remotePath => exact hfile

theorem Settled.run (h : Settled culture s) (events : List Event) {address : ℕ} {file : ThreeMF}
    (hfile : s.fileOf address = some file) : Settled culture (run culture s events) ∧
      (FTPObjects.run culture s events).fileOf address = some file := by
  induction events generalizing s with
  | nil => exact ⟨h, hfile⟩
  | cons event events ih => exact ih (h.perform event) (fileOf_perform h event hfile)

/-- What is returned is an object. -/
theorem Settled.exists_fileOf (h : Settled culture s) {remotePath hash : String}
    {transfer : Transfer3MF} {address : ℕ}
    (hreturned : (s.download3MF remotePath transfer).1 = .ok (address, hash)) :
    ∃ file, (s.download3MF remotePath transfer).2.fileOf address = some file := by
  have hlt := (downloads_download3MF h.caches remotePath transfer).returns _ _ hreturned
  exact ⟨_, congrArg (Option.map Loaded3MF.file) (List.getElem?_eq_getElem hlt)⟩

theorem readClosed_eq_iff (file : ThreeMF) :
    readClosed culture file = .ok (file.smallThumbnail culture) ↔
      file.smallThumbnail culture = none := by
  rw [readClosed]
  split
  · rename_i hnone
    rw [hnone]
    exact iff_of_true rfl rfl
  · rename_i hsome
    rw [hsome]
    exact iff_of_false (by rintro ⟨⟩) (Option.some_ne_none _)

/-- **When a thumbnail is delivered**: in every run, what a download has returned gives its
thumbnail at any later time if and only if the archive has none. -/
theorem givesThumbnail_iff (culture : Culture) (past later : List Event) (remotePath : String)
    (transfer : Transfer3MF) {address : ℕ} {hash : String}
    (hreturned : ((run culture initial past).download3MF remotePath transfer).1 =
      .ok (address, hash)) :
    ∃ file, ((run culture initial past).download3MF remotePath transfer).2.fileOf address =
        some file ∧
      (((run culture initial (past ++ .download remotePath transfer :: later)).readThumbnailSmall
          culture address).1 = .ok (file.smallThumbnail culture) ↔
        file.smallThumbnail culture = none) := by
  have hpast : Settled culture (run culture initial past) := settled_run past
  obtain ⟨file, hfile⟩ := hpast.exists_fileOf hreturned
  obtain ⟨hsettled, hkept⟩ := (hpast.download3MF remotePath transfer).run later hfile
  refine ⟨file, hfile, ?_⟩
  rw [run, List.foldl_append, List.foldl_cons]
  exact (hsettled.readThumbnailSmall_fst hkept).symm ▸ readClosed_eq_iff file

/-- A file without a thumbnail. -/
private def bareFile : ThreeMF := ⟨⟨[], .ofInt 12, .ofInt 1800⟩, 1, fun _ => none⟩

/-- The file is asked for twice, and has no thumbnail both times. -/
theorem givesThumbnail_iff_bareFile :
    ((run .ordinal initial ([] ++ .download "/cube.3mf" (.received "5D41" (.ok bareFile)) ::
      [.readThumbnail 0, .download "/cube.3mf" .notConnected])).readThumbnailSmall .ordinal 0).1 =
        .ok none := by
  obtain ⟨file, hfile, hdelivers⟩ := givesThumbnail_iff .ordinal [] [.readThumbnail 0,
    .download "/cube.3mf" .notConnected] "/cube.3mf" (.received "5D41" (.ok bareFile))
    (rfl : ((run .ordinal initial []).download3MF "/cube.3mf" _).1 = .ok (0, "5D41"))
  have hbare : some bareFile = some file := hfile
  cases hbare
  exact hdelivers.mpr rfl

/-- A file with a thumbnail: it cannot be read after the download. -/
theorem givesThumbnail_fails : ∃ (file : ThreeMF) (address : ℕ) (hash : String),
    (initial.download3MF "/cube.3mf" (.received "5D41" (.ok file))).1 = .ok (address, hash) ∧
      file.smallThumbnail .ordinal = some [0x89, 0x50] ∧
      ((run .ordinal initial
          [.download "/cube.3mf" (.received "5D41" (.ok file))]).readThumbnailSmall
        .ordinal address).1 = .error .invalidOperation :=
  ⟨{ bareFile with getEntry := fun _ => some [0x89, 0x50] }, 0, "5D41", rfl, rfl, rfl⟩

/-! ### The thumbnails of local files -/

theorem readClosed_ne_some (file : ThreeMF) (bytes : Bytes) :
    readClosed culture file ≠ .ok (some bytes) := by
  rw [readClosed]
  split
  · rintro ⟨⟩
  · rintro ⟨⟩

/-- No thumbnail is written: `DownloadLocalFile` raises whatever is transferred. -/
theorem Settled.downloadLocalFile_fails (h : Settled culture s) {fileHandle : MachineFileHandle}
    (hhandle : tryParseAs3MFHandle fileHandle = .ok none) (content : Except Fault Bytes)
    (transfer : Transfer3MF) :
    ∃ f, (s.downloadLocalFile culture fileHandle content transfer).1 = .error f := by
  rw [downloadLocalFile, hhandle]
  dsimp only
  split
  · exact ⟨_, rfl⟩
  · exact ⟨_, rfl⟩
  · rename_i filePath _
    split
    · exact ⟨_, rfl⟩
    · rename_i address hash s' hdownload
      have hdownloaded := h.download3MF filePath transfer
      have hexists := h.exists_fileOf (congrArg Prod.fst hdownload)
      rw [hdownload] at hdownloaded hexists
      obtain ⟨file, hfile⟩ := hexists
      have hread := hdownloaded.readThumbnailSmall_fst hfile
      split
      · exact ⟨_, rfl⟩
      · exact ⟨_, rfl⟩
      · rename_i bytes s'' hsome
        rw [hsome] at hread
        exact absurd hread.symm (readClosed_ne_some file bytes)

/-- **The thumbnail of a local file is never downloaded**, in any run. -/
theorem downloadLocalFile_thumbnail_fails (culture : Culture) (past : List Event)
    (machineID : NetString) (path : String) (hash : NetString) (content : Except Fault Bytes)
    (transfer : Transfer3MF) :
    ∃ f, ((run culture initial past).downloadLocalFile culture
      (handleAs3MFThumbnail machineID path hash) content transfer).1 = .error f :=
  (settled_run past).downloadLocalFile_fails
    (tryParseAs3MFHandle_handleAs3MFThumbnail machineID path hash) content transfer

/-! ### The connection without the objects -/

/-- The tables of a connection, with what the files are instead of the objects. -/
structure Agrees (s : FTPObjects) (ftp : BBLFTPConnection) : Prop where
  cached3MF : ∀ hash, ftp.cached3MF.tryGetValue hash =
    (s.cached3MF.tryGetValue hash).bind fun address => (s.fileOf address).map ThreeMF.bbl3MF
  pathToHash : ftp.pathToHash = s.pathToHash
  lru : ftp.lru = s.lru

/-- What is returned, with what the file is instead of the object. -/
def returned (result : Except Fault (ℕ × String) × FTPObjects) : Option (BambuLab3MF × String) :=
  match result.1 with
  | .ok (address, hash) => (result.2.fileOf address).map fun file => (file.bbl3MF, hash)
  | .error _ => none

namespace Agrees

variable {ftp : BBLFTPConnection}

theorem touchLRU (h : Agrees s ftp) (key : String) :
    Agrees (s.touchLRU key) (ftp.touchLRU key) := by
  rw [FTPObjects.touchLRU, BBLFTPConnection.touchLRU, h.lru]
  split
  · refine ⟨fun hash => ?_, h.pathToHash, rfl⟩
    dsimp only
    rw [Dictionary.tryGetValue_remove, Dictionary.tryGetValue_remove]
    split
    · rfl
    · exact h.cached3MF hash
  · exact ⟨h.cached3MF, h.pathToHash, rfl⟩

theorem recover (h : Agrees s ftp) (remotePath : String) (f : Fault) :
    ftp.recover remotePath = returned (s.recover remotePath f, s) := by
  rw [BBLFTPConnection.recover, FTPObjects.recover, returned, h.pathToHash]
  cases s.pathToHash.tryGetValue remotePath with
  | none => rfl
  | some oldHash =>
    have hcached := h.cached3MF oldHash
    simp only [Option.bind_eq_bind, Option.bind_some, hcached]
    cases s.cached3MF.tryGetValue oldHash with
    | none => rfl
    | some address =>
      dsimp only [Option.bind_some]
      cases s.fileOf address with
      | none => rfl
      | some file => rfl

theorem download3MF_failed (h : Agrees s ftp) (remotePath : String) (f : Fault) :
    Agrees (s.download3MF remotePath (.failed f)).2 ftp ∧
      ftp.recover remotePath = returned (s.download3MF remotePath (.failed f)) :=
  ⟨⟨h.cached3MF, h.pathToHash, h.lru⟩, h.recover remotePath f⟩

/-- A new object does not change what the old ones are. -/
theorem fileOf_append {s' : FTPObjects} {object : Loaded3MF}
    (hobjects : s'.objects = s.objects ++ [object]) {address : ℕ}
    (hlt : address < s.objects.length) : s'.fileOf address = s.fileOf address := by
  rw [fileOf, fileOf, hobjects, List.getElem?_append_left hlt]

/-- The file is loaded, and put into the cache. -/
theorem load (h : Agrees s ftp) (hcaches : s.CachesObjects) {s' : FTPObjects} (hash : String)
    (object : Loaded3MF) (hobjects : s'.objects = s.objects ++ [object])
    (hcached : s'.cached3MF = s.cached3MF.set hash s.objects.length) (hash' : String) :
    (ftp.cached3MF.set hash object.file.bbl3MF).tryGetValue hash' =
      (s'.cached3MF.tryGetValue hash').bind fun address =>
        (s'.fileOf address).map ThreeMF.bbl3MF := by
  rw [hcached, Dictionary.tryGetValue_set, Dictionary.tryGetValue_set]
  split
  · rw [Option.bind_some, fileOf, hobjects, List.getElem?_concat_length]
    rfl
  · rw [h.cached3MF hash']
    refine Option.bind_congr fun address haddress => ?_
    rw [fileOf_append hobjects (hcaches _ _ haddress)]

/-- What both calls end with, when there is a file to return. -/
theorem touchLRU_closeStream (h : Agrees s ftp) (key : String) (stream : ℕ) :
    Agrees ((s.touchLRU key).closeStream stream) (ftp.touchLRU key) :=
  have htouched := h.touchLRU key
  ⟨htouched.cached3MF, htouched.pathToHash, htouched.lru⟩

theorem fileOf_touchLRU_closeStream (s : FTPObjects) (key : String) (stream address : ℕ) :
    ((s.touchLRU key).closeStream stream).fileOf address = s.fileOf address := by
  rw [fileOf, closeStream, touchLRU_objects, fileOf]

theorem download3MF_cached (h : Agrees s ftp) (hcaches : s.CachesObjects) (remotePath : String)
    {hash : String} {cached : ℕ} (hcached : s.cached3MF.tryGetValue hash = some cached)
    (loaded : Except Fault ThreeMF) (bbl3MF : Option BambuLab3MF) :
    Agrees (s.download3MF remotePath (.received hash loaded)).2
        (ftp.download3MF remotePath (.received hash bbl3MF)).2 ∧
      (ftp.download3MF remotePath (.received hash bbl3MF)).1 =
        returned (s.download3MF remotePath (.received hash loaded)) := by
  have hmapped := h.cached3MF hash
  obtain ⟨file, hfile⟩ : ∃ file, s.fileOf cached = some file :=
    ⟨_, congrArg (Option.map Loaded3MF.file) (List.getElem?_eq_getElem (hcaches _ _ hcached))⟩
  rw [hcached, Option.bind_some, hfile, Option.map_some] at hmapped
  rw [download3MF_of_cached remotePath hcached, ftp.download3MF_of_cached remotePath hmapped]
  have hagrees : Agrees
      { s.createTempFileStream with pathToHash := s.pathToHash.set remotePath hash }
      { ftp with pathToHash := ftp.pathToHash.set remotePath hash } :=
    ⟨h.cached3MF, congrArg (·.set remotePath hash) h.pathToHash, h.lru⟩
  refine ⟨hagrees.touchLRU_closeStream hash _, ?_⟩
  rw [returned]
  dsimp only
  rw [fileOf_touchLRU_closeStream]
  exact (congrArg (Option.map fun file => (file.bbl3MF, hash)) hfile).symm

theorem download3MF_loaded (h : Agrees s ftp) (hcaches : s.CachesObjects) (remotePath : String)
    {hash : String} (hcached : s.cached3MF.tryGetValue hash = none) (file : ThreeMF) :
    Agrees (s.download3MF remotePath (.received hash (.ok file))).2
        (ftp.download3MF remotePath (.received hash (some file.bbl3MF))).2 ∧
      (ftp.download3MF remotePath (.received hash (some file.bbl3MF))).1 =
        returned (s.download3MF remotePath (.received hash (.ok file))) := by
  have hmapped := h.cached3MF hash
  rw [hcached, Option.bind_none] at hmapped
  rw [download3MF_of_loaded remotePath hcached, ftp.download3MF_of_loaded remotePath hmapped]
  have hagrees : Agrees { s.createTempFileStream with
      objects := s.objects ++ [⟨file, s.streams.length, none⟩]
      cached3MF := s.cached3MF.set hash s.objects.length
      pathToHash := s.pathToHash.set remotePath hash }
      { ftp with
        cached3MF := ftp.cached3MF.set hash file.bbl3MF
        pathToHash := ftp.pathToHash.set remotePath hash } :=
    ⟨h.load hcaches hash ⟨file, s.streams.length, none⟩ rfl rfl,
      congrArg (·.set remotePath hash) h.pathToHash, h.lru⟩
  refine ⟨hagrees.touchLRU_closeStream hash _, ?_⟩
  rw [returned]
  dsimp only
  rw [fileOf_touchLRU_closeStream, fileOf, List.getElem?_concat_length]
  rfl

/-- **`Download3MF` is the same**, with the objects and without. -/
theorem download3MF (h : Agrees s ftp) (hcaches : s.CachesObjects) (remotePath : String)
    (transfer : Transfer3MF) :
    Agrees (s.download3MF remotePath transfer).2
        (ftp.download3MF remotePath transfer.toTransfer).2 ∧
      (ftp.download3MF remotePath transfer.toTransfer).1 =
        returned (s.download3MF remotePath transfer) := by
  cases transfer with
  | notConnected => exact ⟨h, h.recover remotePath .invalidOperation⟩
  | failed f => exact h.download3MF_failed remotePath f
  | received hash loaded =>
    cases hcached : s.cached3MF.tryGetValue hash with
    | some cached => exact h.download3MF_cached hcaches remotePath hcached loaded _
    | none =>
      cases loaded with
      | error f =>
        have hmapped := h.cached3MF hash
        rw [hcached, Option.bind_none] at hmapped
        have htransfer : (Transfer3MF.received hash (.error f)).toTransfer =
          .received hash none := rfl
        rw [download3MF_of_fault remotePath hcached, htransfer,
          ftp.download3MF_of_fault remotePath hmapped]
        exact h.download3MF_failed remotePath f
      | ok file => exact h.download3MF_loaded hcaches remotePath hcached file

end Agrees

end FTPObjects

end BambuLab

end Connect3Dp
