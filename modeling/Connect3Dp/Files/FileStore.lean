import Connect3Dp.Runtime.Json
import Connect3Dp.Runtime.Paths
import Connect3Dp.State.Values

/-!
# The file store of the machines

`FileSystemMachineFileStore` keeps a file under the machine and the hash of its handle. The disk is
a map from full paths to contents; times of access and directories are left out of it. Whatever the
file system refuses, a missing permission, a file that another process has open, a full disk, is
given by a `Trouble`: the exception that each call of an operation raises. A file that `Stream` has
opened is held until the stream is closed, by `Dispose` or else by its finalizer, and whoever opens
it in between gets an `IOException`.

An operation touches no path but the one of its handle (`run_of_ne`).
-/

namespace Connect3Dp

abbrev Bytes := List UInt8

/-- What is under a path. -/
structure DiskEntry where
  /-- the bytes of the file, if there is one -/
  content : Option Bytes
  /-- a stream has the file open under `FileShare.None` -/
  held : Bool
  deriving Inhabited

/-- The files of a file system. -/
abbrev Disk := Path → DiskEntry

/-- The file with other bytes. -/
def Disk.put (disk : Disk) (path : Path) (content : Bytes) : Disk :=
  Function.update disk path { disk path with content := some content }

/-- Without the file. -/
def Disk.remove (disk : Disk) (path : Path) : Disk := Function.update disk path default

/-- What the store gets from its host. -/
structure FileHost where
  /-- the lower case of a character beyond ASCII -/
  lower : Char → Char
  /-- `input.StartsWith(value)`, under the culture of the process -/
  startsWith : Path → Path → Bool
  /-- `Convert.ToHexString(SHA256.HashData(bytes)).ToLowerInvariant()` -/
  sha256 : Bytes → String

/-- The calls of one operation that the file system refuses. -/
structure Trouble where
  /-- the directory is not created, or the file not opened -/
  opening : Option Fault
  /-- the bytes are transferred up to a place -/
  transfer : Option (ℕ × Fault)
  /-- `File.SetLastAccessTime` -/
  touch : Option Fault
  /-- `File.Delete`, which a platform may also refuse because the file is held -/
  deletion : Option Fault
  /-- the directory of a deleted file is not listed, or is empty and not deleted -/
  cleanup : Option Fault
  deriving Inhabited

/-- A file that is held is not opened, be it to hash it, to read it or to write it. -/
def Trouble.whenHeld (trouble : Trouble) : Bool → Trouble
  | false => trouble
  | true => { trouble with
      opening := some (trouble.opening.getD .io)
      transfer := some (trouble.transfer.getD (0, .io)) }

def raise : Option Fault → EStateM Fault Disk Unit
  | some e => throw e
  | none => pure ()

/-! ### Streams -/

inductive StreamTarget
  /-- a file of the store -/
  | stored (path : Path)
  /-- a file that is gone when the stream is closed -/
  | temporary (content : Bytes)

structure ByteStream where
  target : StreamTarget
  position : ℕ

namespace ByteStream

def content (stream : ByteStream) (disk : Disk) : Bytes :=
  match stream.target with
  | .stored path => (disk path).content.getD []
  | .temporary content => content

/-- From the current position to the end. -/
def readToEnd (stream : ByteStream) (disk : Disk) : Bytes :=
  (stream.content disk).drop stream.position

/-- The content after bytes are written at a position. -/
def overwrite (content : Bytes) (position : ℕ) (bytes : Bytes) : Bytes :=
  content.take position ++ bytes ++ content.drop (position + bytes.length)

/-- `Write`. -/
def write (stream : ByteStream) (bytes : Bytes) : EStateM Fault Disk ByteStream := do
  let disk ← get
  let content := overwrite (stream.content disk) stream.position bytes
  let position := stream.position + bytes.length
  match stream.target with
  | .stored path =>
    set (disk.put path content)
    return ⟨.stored path, position⟩
  | .temporary _ => return ⟨.temporary content, position⟩

/-- `Dispose`, of a stream that holds its file. -/
def dispose (stream : ByteStream) : EStateM Fault Disk Unit :=
  match stream.target with
  | .stored path =>
    modify fun disk => Function.update disk path { disk path with held := false }
  | .temporary _ => pure ()

end ByteStream

/-! ### The store -/

structure FileSystemMachineFileStore where
  basePath : Path
  verifyHashes : Bool
  isFull : basePath.IsFull

namespace FileSystemMachineFileStore

def maxPathLength : ℕ := 200

def validateFileHandle (fileHandle : MachineFileHandle) : Except Fault Unit := do
  if isNullOrWhiteSpace fileHandle.machineID then throw .argument
  if utf16Length ((fileHandle.machineID.getD "").toList) > 100 then throw .argument

def normalizeMachineId : NetString → Except Fault Path
  | some machineID => .ok (escapeDataString machineID)
  | none => .error .argument

/-- `fileHandle.HashSHA256.ToLowerInvariant()`. -/
def safeFileName (host : FileHost) (fileHandle : MachineFileHandle) : Except Fault String :=
  match fileHandle.hashSHA256 with
  | some hash => .ok (toLowerInvariant host.lower hash)
  | none => .error .nullReference

/-- `s[..2]`. -/
def subDirOf (s : Path) : Except Fault Path :=
  if s.length < 2 then .error .argumentOutOfRange else .ok (s.take 2)

/-- The constructor, for a rooted `options.BasePath`. -/
def ofOptions (basePath : Path) (verifyHashes : Bool) :
    Except Fault FileSystemMachineFileStore :=
  match h : Path.getFullPath basePath with
  | .ok full => .ok ⟨full, verifyHashes, Path.isFull_of_getFullPath h⟩
  | .error e => .error e

variable (host : FileHost) (store : FileSystemMachineFileStore)

/-- `Path.Combine(BasePath, machineId, subDir, safeFileName)`. -/
def combined (machineId subDir safeFileName : Path) : Path :=
  Path.combine (Path.combine (Path.combine store.basePath machineId) subDir) safeFileName

/-- The path from the base directory leads out of it. -/
def isTraversal (relativePath : Path) : Bool :=
  Path.isPathRooted relativePath || relativePath == [Path.dot, Path.dot] ||
    host.startsWith relativePath [Path.dot, Path.dot, Path.separator]

/-- The checks of `GetFilePath` on the full path. -/
def checkFullPath (fullPath : Path) : Except Fault Path :=
  if isTraversal host (Path.getRelativePath store.basePath fullPath) then
    .error .unauthorizedAccess
  else if fullPath.length > maxPathLength then .error .argument
  else .ok fullPath

def getFilePath (fileHandle : MachineFileHandle) : Except Fault Path := do
  let safeFileName := utf16 (← safeFileName host fileHandle)
  let subDir ← subDirOf safeFileName
  let machineId ← normalizeMachineId fileHandle.machineID
  let fullPath ← Path.getFullPath (combined store machineId subDir safeFileName)
  checkFullPath host store fullPath

/-- What every operation starts with. -/
def validPath (fileHandle : MachineFileHandle) : Except Fault Path := do
  validateFileHandle fileHandle
  getFilePath host store fileHandle

/-- `computedHash.Equals(fileHandle.HashSHA256.ToLowerInvariant(), …)`. -/
def hashMatches (fileHandle : MachineFileHandle) (bytes : Bytes) : Bool :=
  match safeFileName host fileHandle with
  | .ok hash => equalsIgnoreCase hash (host.sha256 bytes)
  | .error _ => false

/-- `Contains`. -/
def contains (fileHandle : MachineFileHandle) (disk : Disk) : Except Fault Bool :=
  match validPath host store fileHandle with
  | .ok path => .ok (disk path).content.isSome
  | .error .argument => .ok false
  | .error .argumentOutOfRange => .ok false
  | .error e => .error e

/-- `Read`, of a file that is there and not held. -/
def readFile (trouble : Trouble) (fileHandle : MachineFileHandle) (path : Path)
    (content : Bytes) : Except Fault ByteStream :=
  match if store.verifyHashes then trouble.transfer else none with
  | some (_, e) => .error e
  | none =>
    if store.verifyHashes && !hashMatches host fileHandle content then .error .invalidData
    else match trouble.touch, trouble.opening with
      | some e, _ => .error e
      | none, some e => .error e
      | none, none => .ok ⟨.stored path, 0⟩

/-- `Read`. -/
def read (trouble : Trouble) (fileHandle : MachineFileHandle) (disk : Disk) :
    Except Fault ByteStream :=
  match validPath host store fileHandle with
  | .error e => .error e
  | .ok path =>
    match (disk path).content with
    | none => .error .io
    | some content =>
      readFile host store (trouble.whenHeld (disk path).held) fileHandle path content

/-- What `Contains` and `Read` report. -/
def reports (trouble : Trouble) (fileHandle : MachineFileHandle) (disk : Disk) :
    Except Fault Bool × Except Fault Bytes :=
  (contains host store fileHandle disk,
    (read host store trouble fileHandle disk).map (·.readToEnd disk))

/-- `Stream`. -/
def stream (trouble : Trouble) (fileHandle : MachineFileHandle) :
    EStateM Fault Disk ByteStream := do
  let path ← ofExcept (validPath host store fileHandle)
  raise (trouble.whenHeld ((← get) path).held).opening
  -- `FileMode.OpenOrCreate` keeps what is there, and `FileShare.None` keeps others out.
  modify fun disk => Function.update disk path ⟨some ((disk path).content.getD []), true⟩
  raise trouble.touch
  return ⟨.stored path, 0⟩

/-- `fileStream.CopyToAsync(fileWriteStream)`, into a file that was created. -/
def copyInto (trouble : Trouble) (path : Path) (bytes : Bytes) : EStateM Fault Disk Unit := do
  match trouble.transfer with
  | some (n, e) =>
    modify fun disk => disk.put path (bytes.take n)
    throw e
  | none => modify fun disk => disk.put path bytes

/-- `Store`, of the bytes from the current position of the stream on. -/
def storeBytes (trouble : Trouble) (fileHandle : MachineFileHandle) (bytes : Bytes) :
    EStateM Fault Disk Unit := do
  let path ← ofExcept (validPath host store fileHandle)
  raise (trouble.whenHeld ((← get) path).held).opening
  copyInto trouble path bytes
  if store.verifyHashes && !hashMatches host fileHandle bytes then
    raise trouble.deletion
    modify fun disk => disk.remove path
    throw .invalidData
  raise trouble.touch

/-- `Delete`. -/
def delete (trouble : Trouble) (fileHandle : MachineFileHandle) : EStateM Fault Disk Unit := do
  let path ← ofExcept (validPath host store fileHandle)
  if ((← get) path).content.isSome then
    raise trouble.deletion
    modify fun disk => disk.remove path
    raise trouble.cleanup

/-- Storing bytes, writing bytes through a stream, or deleting. Or a stream that nobody has any more
is finalized. -/
inductive Operation
  | store (bytes : Bytes)
  | stream (bytes : Bytes)
  | delete
  | finalize

def run (trouble : Trouble) (fileHandle : MachineFileHandle) :
    Operation → EStateM Fault Disk Unit
  | .store bytes => storeBytes host store trouble fileHandle bytes
  | .stream bytes => do
    let opened ← stream host store trouble fileHandle
    let opened ← opened.write bytes
    opened.dispose
  | .delete => delete host store trouble fileHandle
  | .finalize => do
    let path ← ofExcept (validPath host store fileHandle)
    ByteStream.dispose ⟨.stored path, 0⟩

end FileSystemMachineFileStore

/-! ### What is left of a disk -/

/-- The disk after a computation, whether it returns or raises. -/
def diskAfter {α : Type} (x : EStateM Fault Disk α) (disk : Disk) : Disk :=
  match x.run disk with
  | .ok _ disk' => disk'
  | .error _ disk' => disk'

/-- A computation that touches one path alone. -/
def OnlyAt {α : Type} (path : Path) (x : EStateM Fault Disk α) : Prop :=
  ∀ disk p, p ≠ path → diskAfter x disk p = disk p

namespace OnlyAt

variable {α β : Type} {path : Path}

theorem pure (a : α) : OnlyAt path (Pure.pure a) := fun _ _ _ => rfl

theorem throw (e : Fault) : OnlyAt path (throw e : EStateM Fault Disk α) := fun _ _ _ => rfl

theorem get : OnlyAt path (MonadState.get : EStateM Fault Disk Disk) := fun _ _ _ => rfl

theorem raise (trouble : Option Fault) : OnlyAt path (raise trouble) := by
  cases trouble with
  | none => exact pure ()
  | some e => exact throw e

theorem modify (f : Disk → DiskEntry) :
    OnlyAt path (modify fun disk => Function.update disk path (f disk)) := by
  intro disk p hp
  exact Function.update_of_ne hp (f disk) disk

/-- What follows is known to get a value that the first computation returns. -/
theorem bind_of_run {x : EStateM Fault Disk α} {f : α → EStateM Fault Disk β} (hx : OnlyAt path x)
    (hf : ∀ a disk disk', x disk = .ok a disk' → OnlyAt path (f a)) : OnlyAt path (x >>= f) := by
  intro disk p hp
  have hfirst : diskAfter x disk p = disk p := hx disk p hp
  cases hrun : x disk with
  | ok a disk' =>
    have hx' : diskAfter x disk = disk' := by simp only [diskAfter, EStateM.run, hrun]
    have hbind : diskAfter (x >>= f) disk = diskAfter (f a) disk' := by
      simp only [diskAfter, EStateM.run, Bind.bind, EStateM.bind, hrun]
    rw [hbind, hf a disk disk' hrun disk' p hp, ← hx', hfirst]
  | error e disk' =>
    have hx' : diskAfter x disk = disk' := by simp only [diskAfter, EStateM.run, hrun]
    have hbind : diskAfter (x >>= f) disk = disk' := by
      simp only [diskAfter, EStateM.run, Bind.bind, EStateM.bind, hrun]
    rw [hbind, ← hx', hfirst]

theorem bind {x : EStateM Fault Disk α} {f : α → EStateM Fault Disk β} (hx : OnlyAt path x)
    (hf : ∀ a, OnlyAt path (f a)) : OnlyAt path (x >>= f) :=
  bind_of_run hx fun a _ _ _ => hf a

end OnlyAt

namespace ByteStream

variable {path : Path}

theorem onlyAt_write (position : ℕ) (bytes : Bytes) :
    OnlyAt path (ByteStream.write ⟨.stored path, position⟩ bytes) :=
  fun disk _ hp => Function.update_of_ne hp _ disk

/-- What a stream writes to stays the file that it writes to. -/
theorem target_of_write {position : ℕ} {bytes : Bytes} {disk disk' : Disk} {stream : ByteStream}
    (h : ByteStream.write ⟨.stored path, position⟩ bytes disk = .ok stream disk') :
    stream.target = .stored path := by
  cases h
  rfl

theorem onlyAt_dispose {stream : ByteStream} (h : stream.target = .stored path) :
    OnlyAt path stream.dispose := by
  unfold dispose
  rw [h]
  exact .modify _

end ByteStream

namespace FileSystemMachineFileStore

variable {host : FileHost} {store : FileSystemMachineFileStore} {fileHandle : MachineFileHandle}
  {path : Path}

theorem contains_eq (h : validPath host store fileHandle = .ok path) (disk : Disk) :
    contains host store fileHandle disk = .ok (disk path).content.isSome := by
  rw [contains, h]

theorem read_eq {content : Bytes} {disk : Disk} (h : validPath host store fileHandle = .ok path)
    (hcontent : (disk path).content = some content) (trouble : Trouble) :
    read host store trouble fileHandle disk =
      readFile host store (trouble.whenHeld (disk path).held) fileHandle path content := by
  rw [FileSystemMachineFileStore.read, h]
  simp only [hcontent]

/-- A file that is read is read from its beginning. -/
theorem eq_of_readFile {trouble : Trouble} {content : Bytes} {opened : ByteStream}
    (h : readFile host store trouble fileHandle path content = .ok opened) :
    opened = ⟨.stored path, 0⟩ := by
  unfold readFile at h
  split at h
  · cases h
  · split at h
    · cases h
    · split at h <;> cases h
      rfl

/-- What is reported about a handle depends on its own file. -/
theorem reports_congr (trouble : Trouble) {disk disk' : Disk}
    (h : ∀ path, validPath host store fileHandle = .ok path → disk path = disk' path) :
    reports host store trouble fileHandle disk = reports host store trouble fileHandle disk' := by
  unfold reports contains read
  cases hpath : validPath host store fileHandle with
  | error e => cases e <;> rfl
  | ok path =>
    have hfile : disk path = disk' path := h path hpath
    simp only [hfile]
    cases hcontent : (disk' path).content with
    | none => rfl
    | some content =>
      cases hread : readFile host store (trouble.whenHeld (disk' path).held) fileHandle path
          content with
      | error e => simp only [hread, Except.map]
      | ok opened =>
        have hopened : opened = ⟨.stored path, 0⟩ := eq_of_readFile hread
        simp only [hread, Except.map, hopened, ByteStream.readToEnd, ByteStream.content, hfile]

/-- Where `Store` ends, and what it leaves under its handle: the file is truncated before the bytes
are known to be good. -/
theorem storeBytes_eq (hpath : validPath host store fileHandle = .ok path) (trouble : Trouble)
    (bytes : Bytes) (disk : Disk) :
    storeBytes host store trouble fileHandle bytes disk =
      match (trouble.whenHeld (disk path).held).opening, trouble.transfer with
      | some e, _ => .error e disk
      | none, some (n, e) => .error e (disk.put path (bytes.take n))
      | none, none =>
        if store.verifyHashes && !hashMatches host fileHandle bytes then
          match trouble.deletion with
          | some e => .error e (disk.put path bytes)
          | none => .error .invalidData (disk.remove path)
        else
          match trouble.touch with
          | some e => .error e (disk.put path bytes)
          | none => .ok () (disk.put path bytes) := by
  unfold storeBytes copyInto
  rw [hpath, ofExcept_ok_bind]
  change (raise (trouble.whenHeld (disk path).held).opening >>= fun _ => _ :
    EStateM Fault Disk Unit) disk = _
  cases (trouble.whenHeld (disk path).held).opening with
  | some e => rfl
  | none =>
    cases trouble.transfer with
    | some p => rfl
    | none =>
      by_cases hmatch : (store.verifyHashes && !hashMatches host fileHandle bytes) = true
      · simp only [if_pos hmatch]
        cases trouble.deletion with
        | some e => rfl
        | none =>
          have hgone : (disk.put path bytes).remove path = disk.remove path :=
            Function.update_idem ..
          rw [← hgone]
          rfl
      · simp only [if_neg hmatch]
        cases trouble.touch <;> rfl

theorem onlyAt_copyInto (trouble : Trouble) (bytes : Bytes) :
    OnlyAt path (copyInto trouble path bytes) := by
  unfold copyInto
  split
  · exact .bind (.modify _) fun _ => .throw _
  · exact .modify _

theorem onlyAt_storeBytes (h : validPath host store fileHandle = .ok path) (trouble : Trouble)
    (bytes : Bytes) : OnlyAt path (storeBytes host store trouble fileHandle bytes) := by
  unfold storeBytes
  rw [h, ofExcept_ok_bind]
  refine .bind .get fun _ => .bind (.raise _) fun _ =>
    .bind (onlyAt_copyInto trouble bytes) fun _ => ?_
  split
  · exact .bind (.raise _) fun _ => .bind (.modify _) fun _ => .throw _
  · exact .raise _

theorem onlyAt_stream (h : validPath host store fileHandle = .ok path) (trouble : Trouble) :
    OnlyAt path (stream host store trouble fileHandle) := by
  unfold stream
  rw [h, ofExcept_ok_bind]
  exact .bind .get fun _ => .bind (.raise _) fun _ => .bind (.modify _) fun _ =>
    .bind (.raise _) fun _ => .pure _

/-- Where `Stream` ends, and what it leaves under its handle: the file is held from when it is
opened on. -/
theorem stream_eq (h : validPath host store fileHandle = .ok path) (trouble : Trouble)
    (disk : Disk) :
    stream host store trouble fileHandle disk =
      let opened := Function.update disk path ⟨some ((disk path).content.getD []), true⟩
      match (trouble.whenHeld (disk path).held).opening, trouble.touch with
      | some e, _ => .error e disk
      | none, some e => .error e opened
      | none, none => .ok ⟨.stored path, 0⟩ opened := by
  unfold stream
  rw [h, ofExcept_ok_bind]
  change (raise (trouble.whenHeld (disk path).held).opening >>= fun _ => _ :
    EStateM Fault Disk ByteStream) disk = _
  cases (trouble.whenHeld (disk path).held).opening with
  | some e => rfl
  | none => cases trouble.touch <;> rfl

/-- A stream of the store starts at its beginning. -/
theorem eq_of_stream (h : validPath host store fileHandle = .ok path) {trouble : Trouble}
    {disk disk' : Disk} {opened : ByteStream}
    (hrun : stream host store trouble fileHandle disk = .ok opened disk') :
    opened = ⟨.stored path, 0⟩ := by
  rw [stream_eq h] at hrun
  dsimp only at hrun
  split at hrun
  · cases hrun
  · cases hrun
  · cases hrun
    rfl

theorem onlyAt_delete (h : validPath host store fileHandle = .ok path) (trouble : Trouble) :
    OnlyAt path (delete host store trouble fileHandle) := by
  unfold delete
  rw [h, ofExcept_ok_bind]
  refine .bind .get fun disk => ?_
  split
  · exact .bind (.raise _) fun _ => .bind (.modify _) fun _ => .raise _
  · exact .pure _

/-- **An operation touches the path of its handle alone.** -/
theorem run_of_ne (trouble : Trouble) (operation : Operation) (disk : Disk) {p : Path}
    (hp : ∀ path, validPath host store fileHandle = .ok path → p ≠ path) :
    diskAfter (run host store trouble fileHandle operation) disk p = disk p := by
  cases h : validPath host store fileHandle with
  | error e =>
    -- An invalid handle is refused before anything is touched.
    cases operation <;> simp only [run, storeBytes, stream, delete, h] <;> rfl
  | ok path =>
    refine (?_ : OnlyAt path _) disk p (hp path h)
    cases operation with
    | store bytes => exact onlyAt_storeBytes h trouble bytes
    | stream bytes =>
      refine .bind_of_run (onlyAt_stream h trouble) fun opened disk disk' hrun => ?_
      rw [eq_of_stream h hrun]
      exact .bind_of_run (ByteStream.onlyAt_write 0 bytes) fun written _ _ hwrite =>
        ByteStream.onlyAt_dispose (ByteStream.target_of_write hwrite)
    | delete => exact onlyAt_delete h trouble
    | finalize =>
      simp only [run]
      rw [h, ofExcept_ok_bind]
      exact ByteStream.onlyAt_dispose rfl

end FileSystemMachineFileStore

end Connect3Dp
