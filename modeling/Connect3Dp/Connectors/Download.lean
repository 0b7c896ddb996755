import Connect3Dp.Files.FileStore

/-!
# Downloading a file

`DownloadFile` takes a file from the store, and if the store does not have it or cannot read it,
from the machine: into the store's own file, or into a temporary one that is stored afterwards. The
stream it gets from the store holds the file. It is what the caller gets in the end, and it is lost
when the download raises.
-/

namespace Connect3Dp

/-- What `DownloadLocalFile` does to the stream it gets: it writes bytes one after another, leaves
the stream at a position, and returns or raises. The connectors leave it at its end, or where it
began when they have hashed what was written. -/
structure LocalDownload where
  written : Bytes
  position : ℕ
  fault : Option Fault

/-- The calls that are refused during one download. -/
structure DownloadTroubles where
  read : Trouble
  stream : Trouble
  /-- `FileUtils.CreateTempFileStream` -/
  temporary : Option Fault
  store : Trouble
  /-- where the temporary file is left when `Store` stops to transfer its bytes -/
  reached : ℕ
  deriving Inhabited

namespace MachineConnection

open FileSystemMachineFileStore

variable (host : FileHost) (store : FileSystemMachineFileStore) (troubles : DownloadTroubles)
  (download : LocalDownload) (fileHandle : MachineFileHandle)

/-- Where the file is downloaded to, and whether that is a temporary file. -/
def openStorage : EStateM Fault Disk (ByteStream × Bool) :=
  tryCatch (do return (← stream host store troubles.stream fileHandle, false)) fun _ => do
    raise troubles.temporary
    return (⟨.temporary [], 0⟩, true)

def downloadLocalFile (storeAt : ByteStream) : EStateM Fault Disk ByteStream := do
  let storeAt ← storeAt.write download.written
  raise download.fault
  return { storeAt with position := download.position }

/-- Where `Store` leaves the stream that it reads from. -/
def positionAfterStore (storeAt : ByteStream) (disk : Disk) : ℕ :=
  match validPath host store fileHandle with
  | .error _ => storeAt.position
  | .ok path =>
    match (troubles.store.whenHeld (disk path).held).opening, troubles.store.transfer with
    | some _, _ => storeAt.position
    | none, some _ => troubles.reached
    | none, none => max storeAt.position (storeAt.content disk).length

/-- The end of a download into a temporary file, which `Store` reads from where it is. -/
def addToStore (storeAt : ByteStream) : EStateM Fault Disk ByteStream := do
  let disk ← get
  tryCatch (storeBytes host store troubles.store fileHandle (storeAt.readToEnd disk)) fun
    | .io => pure ()
    | e => throw e
  return { storeAt with
    position := positionAfterStore host store troubles fileHandle storeAt disk }

/-- `DownloadFile`, when the store does not serve the file. -/
def downloadFromMachine : EStateM Fault Disk ByteStream := do
  let (storeAt, isTempStream) ← openStorage host store troubles fileHandle
  let storeAt ← downloadLocalFile download storeAt
  if isTempStream then addToStore host store troubles fileHandle storeAt
  else return storeAt

def downloadFile : EStateM Fault Disk ByteStream := do
  let disk ← get
  if ← ofExcept (contains host store fileHandle disk) then
    match read host store troubles.read fileHandle disk with
    | .ok fromStore => return fromStore
    | .error .io => downloadFromMachine host store troubles download fileHandle
    | .error e => throw e
  else
    downloadFromMachine host store troubles download fileHandle

/-! ### The routes -/

variable {host : FileHost} {store : FileSystemMachineFileStore} {troubles : DownloadTroubles}
  {download : LocalDownload} {fileHandle : MachineFileHandle} {path : Path} {disk : Disk}

/-- A file that the store has and reads is served. -/
theorem run_downloadFile_of_read {content : Bytes} {opened : ByteStream}
    (hpath : validPath host store fileHandle = .ok path)
    (hcontent : (disk path).content = some content)
    (hread : FileSystemMachineFileStore.read host store troubles.read fileHandle disk =
      .ok opened) :
    (downloadFile host store troubles download fileHandle).run disk = .ok opened disk := by
  have hcontains := contains_eq hpath disk
  rw [hcontent] at hcontains
  change (ofExcept (contains host store fileHandle disk) >>= _ : EStateM Fault Disk _).run disk = _
  rw [hcontains, ofExcept_ok_bind, Option.isSome_some, if_pos rfl, hread]
  rfl

/-- The store does not have the file, or the file system keeps it from being read. -/
def FallsBack (host : FileHost) (store : FileSystemMachineFileStore) (troubles : DownloadTroubles)
    (fileHandle : MachineFileHandle) (path : Path) (disk : Disk) : Prop :=
  (disk path).content ≠ none →
    FileSystemMachineFileStore.read host store troubles.read fileHandle disk = .error .io

theorem run_downloadFile_of_contains_false (h : contains host store fileHandle disk = .ok false) :
    (downloadFile host store troubles download fileHandle).run disk =
      (downloadFromMachine host store troubles download fileHandle).run disk := by
  change (ofExcept (contains host store fileHandle disk) >>= _ : EStateM Fault Disk _).run disk = _
  rw [h, ofExcept_ok_bind, if_neg Bool.false_ne_true]

theorem run_downloadFile_of_fallsBack (hpath : validPath host store fileHandle = .ok path)
    (h : FallsBack host store troubles fileHandle path disk) :
    (downloadFile host store troubles download fileHandle).run disk =
      (downloadFromMachine host store troubles download fileHandle).run disk := by
  have hcontains := contains_eq hpath disk
  cases hcontent : (disk path).content with
  | none =>
    rw [hcontent] at hcontains
    exact run_downloadFile_of_contains_false hcontains
  | some content =>
    change (ofExcept (contains host store fileHandle disk) >>= _ : EStateM Fault Disk _).run disk =
      _
    have hfail := h (hcontent ▸ Option.some_ne_none content)
    rw [hcontains, ofExcept_ok_bind, hcontent, Option.isSome_some, if_pos rfl, hfail]

/-- The file that `FileMode.OpenOrCreate` leaves, which `FileShare.None` holds. -/
def opened (path : Path) (disk : Disk) : Disk :=
  Function.update disk path ⟨some ((disk path).content.getD []), true⟩

/-- How a download ends. -/
def finish (fault : Option Fault) (storeAt : ByteStream) (disk : Disk) :
    EStateM.Result Fault Disk ByteStream :=
  match fault with
  | none => .ok storeAt disk
  | some e => .error e disk

/-- What is written over the file of the store from its beginning on, and what remains behind. -/
def overwritten (bytes : Bytes) (path : Path) (disk : Disk) : Bytes :=
  bytes ++ ((disk path).content.getD []).drop bytes.length

theorem downloadLocalFile_stored (download : LocalDownload) (path : Path) (disk : Disk) :
    downloadLocalFile download ⟨.stored path, 0⟩ disk =
      finish download.fault ⟨.stored path, download.position⟩
        (disk.put path (overwritten download.written path disk)) := by
  have hwrite : ByteStream.write ⟨.stored path, 0⟩ download.written disk =
      .ok ⟨.stored path, download.written.length⟩
        (disk.put path (overwritten download.written path disk)) := by
    change EStateM.Result.ok (⟨.stored path, 0 + download.written.length⟩ : ByteStream)
      (disk.put path (ByteStream.overwrite ((disk path).content.getD []) 0 download.written)) = _
    rw [ByteStream.overwrite, List.take_zero, List.nil_append, Nat.zero_add]
    rfl
  unfold downloadLocalFile
  simp only [Bind.bind, EStateM.bind, hwrite]
  cases download.fault <;> rfl

/-- A temporary file is written from its beginning on. -/
theorem downloadLocalFile_temporary (download : LocalDownload) (disk : Disk) :
    downloadLocalFile download ⟨.temporary [], 0⟩ disk =
      finish download.fault ⟨.temporary download.written, download.position⟩ disk := by
  have hcontent : ByteStream.overwrite [] 0 download.written = download.written := by
    simp [ByteStream.overwrite]
  have hwrite : ByteStream.write ⟨.temporary [], 0⟩ download.written disk =
      .ok ⟨.temporary download.written, download.written.length⟩ disk := by
    change EStateM.Result.ok (⟨.temporary (ByteStream.overwrite [] 0 download.written),
      0 + download.written.length⟩ : ByteStream) disk = _
    rw [hcontent, Nat.zero_add]
  unfold downloadLocalFile
  simp only [Bind.bind, EStateM.bind, hwrite]
  cases download.fault <;> rfl

/-- `Stream` does not open the file. -/
def StreamShut (troubles : DownloadTroubles) (entry : DiskEntry) : Prop :=
  (troubles.stream.whenHeld entry.held).opening ≠ none

/-- `Stream` raises, before or after it opens the file. -/
def StreamRefused (troubles : DownloadTroubles) (entry : DiskEntry) : Prop :=
  StreamShut troubles entry ∨ troubles.stream.touch ≠ none

instance (entry : DiskEntry) : Decidable (StreamShut troubles entry) :=
  inferInstanceAs (Decidable (_ ≠ none))

instance (entry : DiskEntry) : Decidable (StreamRefused troubles entry) :=
  inferInstanceAs (Decidable (_ ∨ _ ≠ none))

/-- The disk after that. The stream that was opened is lost, and holds the file. -/
def afterRefusal (troubles : DownloadTroubles) (path : Path) (disk : Disk) : Disk :=
  if StreamShut troubles (disk path) then disk else opened path disk

theorem stream_of_refused (hpath : validPath host store fileHandle = .ok path)
    (h : StreamRefused troubles (disk path)) :
    ∃ e, stream host store troubles.stream fileHandle disk =
      .error e (afterRefusal troubles path disk) := by
  rw [stream_eq hpath, afterRefusal]
  by_cases hshut : StreamShut troubles (disk path)
  · obtain ⟨e, hopening⟩ := Option.ne_none_iff_exists'.mp hshut
    rw [hopening, if_pos hshut]
    exact ⟨e, rfl⟩
  · obtain ⟨e, htouch⟩ := Option.ne_none_iff_exists'.mp (h.resolve_left hshut)
    rw [not_not.mp hshut, htouch, if_neg hshut]
    exact ⟨e, rfl⟩

/-- **The store's own file** is downloaded into. -/
theorem run_of_not_streamRefused (download : LocalDownload)
    (hpath : validPath host store fileHandle = .ok path)
    (hfalls : FallsBack host store troubles fileHandle path disk)
    (hstream : ¬ StreamRefused troubles (disk path)) :
    (downloadFile host store troubles download fileHandle).run disk =
      finish download.fault ⟨.stored path, download.position⟩
        ((opened path disk).put path (overwritten download.written path disk)) := by
  obtain ⟨hopening, htouch⟩ := not_or.mp hstream
  have hopened : openStorage host store troubles fileHandle disk =
      .ok (⟨.stored path, 0⟩, false) (opened path disk) := by
    unfold openStorage
    simp only [tryCatch, tryCatchThe, MonadExceptOf.tryCatch, EStateM.tryCatch, Bind.bind,
      EStateM.bind, stream_eq hpath, not_not.mp hopening, not_not.mp htouch]
    rfl
  have hsame : overwritten download.written path (opened path disk) =
      overwritten download.written path disk := by
    rw [overwritten, opened, Function.update_self, overwritten, Option.getD_some]
  rw [run_downloadFile_of_fallsBack hpath hfalls]
  unfold downloadFromMachine
  simp only [EStateM.run, Bind.bind, EStateM.bind, hopened, downloadLocalFile_stored, hsame]
  cases download.fault <;> rfl

/-- What happens to a temporary file: it is created, downloaded into and stored. -/
def storeTemporary (host : FileHost) (store : FileSystemMachineFileStore)
    (troubles : DownloadTroubles) (fileHandle : MachineFileHandle) (download : LocalDownload) :
    EStateM Fault Disk ByteStream := do
  raise troubles.temporary
  raise download.fault
  addToStore host store troubles fileHandle ⟨.temporary download.written, download.position⟩

/-- **A temporary file** is downloaded into when the store's own is refused. -/
theorem run_of_stream_error (download : LocalDownload) {e : Fault} {disk' : Disk}
    (hrun : (downloadFile host store troubles download fileHandle).run disk =
      (downloadFromMachine host store troubles download fileHandle).run disk)
    (hstream : stream host store troubles.stream fileHandle disk = .error e disk') :
    (downloadFile host store troubles download fileHandle).run disk =
      (storeTemporary host store troubles fileHandle download).run disk' := by
  rw [hrun]
  unfold downloadFromMachine storeTemporary openStorage
  simp only [EStateM.run, tryCatch, tryCatchThe, MonadExceptOf.tryCatch, EStateM.tryCatch,
    Bind.bind, EStateM.bind, hstream]
  cases troubles.temporary with
  | some e => rfl
  | none =>
    change EStateM.bind _ _ disk' = _
    simp only [EStateM.bind, downloadLocalFile_temporary]
    cases download.fault <;> rfl

/-! ### Storing a temporary file -/

/-- What `Store` leaves of the bytes of a temporary file from the position on, and what is left to
read there. `Store` returns, or raises an exception that `DownloadFile` handles. -/
inductive StoredFrom (host : FileHost) (store : FileSystemMachineFileStore)
    (troubles : DownloadTroubles) (fileHandle : MachineFileHandle) (entry : DiskEntry)
    (bytes : Bytes) (position : ℕ) : Option Bytes → Bytes → Prop
  /-- the file is held, or not opened for another reason -/
  | shut (hopening : (troubles.store.whenHeld entry.held).opening = some .io) :
    StoredFrom host store troubles fileHandle entry bytes position entry.content
      (bytes.drop position)
  /-- the transfer stops -/
  | stopped (n : ℕ) (hopening : (troubles.store.whenHeld entry.held).opening = none)
      (htransfer : troubles.store.transfer = some (n, .io)) :
    StoredFrom host store troubles fileHandle entry bytes position
      (some ((bytes.drop position).take n)) (bytes.drop troubles.reached)
  /-- the bytes are there, with the right hash or another one, and nothing is left to read -/
  | transferred (hopening : (troubles.store.whenHeld entry.held).opening = none)
      (htransfer : troubles.store.transfer = none)
      (hraises : if store.verifyHashes && !hashMatches host fileHandle (bytes.drop position) then
        troubles.store.deletion = some .io
      else troubles.store.touch = none ∨ troubles.store.touch = some .io) :
    StoredFrom host store troubles fileHandle entry bytes position
      (some (bytes.drop position)) []

/-- `DownloadFile` goes on when `Store` returns or raises an `IOException`. -/
theorem addToStore_eq (storeAt : ByteStream) (disk : Disk) :
    addToStore host store troubles fileHandle storeAt disk =
      let storeAt' := { storeAt with
        position := positionAfterStore host store troubles fileHandle storeAt disk }
      match storeBytes host store troubles.store fileHandle (storeAt.readToEnd disk) disk with
      | .ok _ disk' => .ok storeAt' disk'
      | .error e disk' => if e = .io then .ok storeAt' disk' else .error e disk' := by
  have hrun : addToStore host store troubles fileHandle storeAt disk =
      (tryCatch (storeBytes host store troubles.store fileHandle (storeAt.readToEnd disk))
        (fun
          | .io => pure ()
          | e => throw e) >>= fun _ => pure { storeAt with
        position := positionAfterStore host store troubles fileHandle storeAt disk }).run
          disk := rfl
  rw [hrun]
  cases hstore : storeBytes host store troubles.store fileHandle (storeAt.readToEnd disk) disk with
  | ok _ disk' => exact run_bind_ok (run_tryCatch_ok hstore)
  | error e disk' =>
    cases e with
    | io => exact run_bind_ok (run_tryCatch_error hstore)
    | _ => exact run_bind_error (run_tryCatch_error hstore)

theorem readToEnd_temporary (bytes : Bytes) (position : ℕ) (disk : Disk) :
    ByteStream.readToEnd ⟨.temporary bytes, position⟩ disk = bytes.drop position := rfl

/-- **What becomes of a temporary file** that is stored. -/
theorem addToStore_iff (hpath : validPath host store fileHandle = .ok path) (bytes : Bytes)
    (position : ℕ) (disk : Disk) (content : Option Bytes) (rest : Bytes) :
    (∃ storeAt disk', addToStore host store troubles fileHandle ⟨.temporary bytes, position⟩ disk =
        .ok storeAt disk' ∧ (disk' path).content = content ∧ storeAt.readToEnd disk' = rest) ↔
      StoredFrom host store troubles fileHandle (disk path) bytes position content rest := by
  have hput (content : Bytes) : ((disk.put path content) path).content = some content := by
    rw [Disk.put, Function.update_self]
  have hend (disk' : Disk) : ByteStream.readToEnd ⟨.temporary bytes,
      max position (ByteStream.content ⟨.temporary bytes, position⟩ disk).length⟩ disk' = [] :=
    List.drop_eq_nil_of_le (le_max_right position bytes.length)
  rw [addToStore_eq, readToEnd_temporary, storeBytes_eq hpath, positionAfterStore, hpath]
  constructor
  · rintro ⟨storeAt, disk', hrun, rfl, rfl⟩
    cases hopening : (troubles.store.whenHeld (disk path).held).opening with
    | some e =>
      simp only [hopening] at hrun
      split at hrun
      · cases hrun
        rename_i he
        exact .shut (he ▸ hopening)
      · cases hrun
    | none =>
      cases htransfer : troubles.store.transfer with
      | some p =>
        simp only [hopening, htransfer] at hrun
        split at hrun
        · cases hrun
          rename_i he
          rw [hput]
          exact .stopped p.1 hopening (he ▸ htransfer)
        · cases hrun
      | none =>
        simp only [hopening, htransfer] at hrun
        by_cases hmatch : (store.verifyHashes &&
          !hashMatches host fileHandle (bytes.drop position)) = true
        · rw [if_pos hmatch] at hrun
          cases hdeletion : troubles.store.deletion with
          | none =>
            rw [hdeletion] at hrun
            cases hrun
          | some e =>
            simp only [hdeletion] at hrun
            split at hrun
            · cases hrun
              rename_i he
              rw [hput, hend]
              exact .transferred hopening htransfer (by rw [if_pos hmatch, hdeletion, he])
            · cases hrun
        · rw [if_neg hmatch] at hrun
          have hdone (htouch : troubles.store.touch = none ∨ troubles.store.touch = some .io) :
              StoredFrom host store troubles fileHandle (disk path) bytes position
                (some (bytes.drop position)) [] :=
            .transferred hopening htransfer (by rwa [if_neg hmatch])
          cases htouch : troubles.store.touch with
          | none =>
            simp only [htouch] at hrun
            cases hrun
            rw [hput, hend]
            exact hdone (.inl htouch)
          | some e =>
            simp only [htouch] at hrun
            split at hrun
            · cases hrun
              rename_i he
              rw [hput, hend]
              exact hdone (.inr (he ▸ htouch))
            · cases hrun
  · intro h
    cases h with
    | shut hopening =>
      simp only [hopening, if_true]
      exact ⟨_, _, rfl, rfl, rfl⟩
    | stopped n hopening htransfer =>
      simp only [hopening, htransfer, if_true]
      exact ⟨_, _, rfl, hput _, rfl⟩
    | transferred hopening htransfer hraises =>
      simp only [hopening, htransfer]
      split at hraises
      · rename_i hmatch
        rw [if_pos hmatch, hraises]
        exact ⟨_, _, rfl, hput _, hend _⟩
      · rename_i hmatch
        rw [if_neg hmatch]
        obtain htouch | htouch := hraises
        · rw [htouch]
          exact ⟨_, _, rfl, hput _, hend _⟩
        · rw [htouch]
          exact ⟨_, _, rfl, hput _, hend _⟩

end MachineConnection

end Connect3Dp
