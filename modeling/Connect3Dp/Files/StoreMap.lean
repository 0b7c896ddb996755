import Connect3Dp.Files.Isolation

/-!
# The file store is a map

`FileMap` is what the store is for: the bytes of each machine and hash, and which of them are held.
`FileCall.performMap` is an operation on it, which changes what is under one key and nothing else,
whatever the file system refuses. The store on a disk refines it: along every run of operations
under plain handles, the results are those of the map, and so is what `Contains` and `Read` report
afterwards (`run_refines`). What connects the two is that plain handles have one path just when they
have one key (`path_eq_iff_keyOf_eq`).
-/

namespace Connect3Dp

namespace FileSystemMachineFileStore

/-! ### The map -/

/-- What a file is kept under. The hash is in lower case. -/
structure FileKey where
  machineID : String
  hash : String
  deriving DecidableEq

abbrev FileMap := FileKey → DiskEntry

def keyOf (host : FileHost) (fileHandle : MachineFileHandle) : FileKey :=
  ⟨fileHandle.machineID.getD "", (safeFileName host fileHandle).toOption.getD ""⟩

/-- What an operation does to its file, with its result. -/
def entryAfter (mismatch : Bytes → Bool) (trouble : Trouble) (old : DiskEntry) :
    Operation → Except Fault Unit × DiskEntry
  | .store bytes =>
    match (trouble.whenHeld old.held).opening, trouble.transfer with
    | some e, _ => (.error e, old)
    | none, some (n, e) => (.error e, { old with content := some (bytes.take n) })
    | none, none =>
      if mismatch bytes then
        match trouble.deletion with
        | some e => (.error e, { old with content := some bytes })
        | none => (.error .invalidData, default)
      else
        match trouble.touch with
        | some e => (.error e, { old with content := some bytes })
        | none => (.ok (), { old with content := some bytes })
  | .stream bytes =>
    match (trouble.whenHeld old.held).opening, trouble.touch with
    | some e, _ => (.error e, old)
    -- nobody gets the stream that has been opened
    | none, some e => (.error e, ⟨some (old.content.getD []), true⟩)
    | none, none => (.ok (), ⟨some (ByteStream.overwrite (old.content.getD []) 0 bytes), false⟩)
  | .delete =>
    match old.content, trouble.deletion with
    | none, _ => (.ok (), old)
    | some _, some e => (.error e, old)
    | some _, none =>
      match trouble.cleanup with
      | some e => (.error e, default)
      | none => (.ok (), default)
  | .finalize => (.ok (), { old with held := false })

/-- What `Read` returns of a file. -/
def readEntry (mismatch : Bytes → Bool) (verifyHashes : Bool) (trouble : Trouble)
    (entry : DiskEntry) : Except Fault Bytes :=
  match entry.content with
  | none => .error .io
  | some content =>
    let refused := trouble.whenHeld entry.held
    match if verifyHashes then refused.transfer else none with
    | some (_, e) => .error e
    | none =>
      if mismatch content then .error .invalidData
      else match refused.touch, refused.opening with
        | some e, _ => .error e
        | none, some e => .error e
        | none, none => .ok content

variable (host : FileHost) (store : FileSystemMachineFileStore)

def mismatch (fileHandle : MachineFileHandle) (bytes : Bytes) : Bool :=
  store.verifyHashes && !hashMatches host fileHandle bytes

/-- A call under a plain handle that the store accepts. -/
structure FileCall where
  fileHandle : MachineFileHandle
  trouble : Trouble
  operation : Operation
  path : Path
  isPlain : PlainHandle host fileHandle
  isValid : validPath host store fileHandle = .ok path

variable {host store}

/-- The result of a computation, and the disk it leaves. -/
def outcomeOf : EStateM.Result Fault Disk Unit → Except Fault Unit × Disk
  | .ok _ disk => (.ok (), disk)
  | .error e disk => (.error e, disk)

namespace FileCall

variable (c : FileCall host store)

/-- On the disk. -/
def perform (disk : Disk) : Except Fault Unit × Disk :=
  outcomeOf ((run host store c.trouble c.fileHandle c.operation).run disk)

/-- On the map. -/
def performMap (files : FileMap) : Except Fault Unit × FileMap :=
  let key := keyOf host c.fileHandle
  let (result, entry) :=
    entryAfter (mismatch host store c.fileHandle) c.trouble (files key) c.operation
  (result, Function.update files key entry)

end FileCall

/-- The results of a run, and what it leaves. -/
def runAll {σ : Type} (perform : FileCall host store → σ → Except Fault Unit × σ) :
    List (FileCall host store) → σ → List (Except Fault Unit) × σ
  | [], s => ([], s)
  | c :: calls, s =>
    let (result, s') := perform c s
    let (results, s'') := runAll perform calls s'
    (result :: results, s'')

/-! ### Keys and paths -/

variable {fileHandle other : MachineFileHandle} {path : Path} {disk : Disk} {files : FileMap}

theorem keyOf_eq_of_not_differ (h : ¬ Differ host fileHandle other) :
    keyOf host fileHandle = keyOf host other := by
  rw [Differ, not_or, not_not, not_not] at h
  rw [keyOf, keyOf, h.1, h.2]

/-- Plain handles that are accepted have one path just when they have one key. -/
theorem path_eq_iff_keyOf_eq {path' : Path} (hplain : PlainHandle host fileHandle)
    (hother : PlainHandle host other) (h : validPath host store fileHandle = .ok path)
    (h' : validPath host store other = .ok path') :
    path = path' ↔ keyOf host fileHandle = keyOf host other := by
  obtain ⟨-, -, hpath⟩ := bind_eq_ok_iff.mp h
  obtain ⟨-, -, hpath'⟩ := bind_eq_ok_iff.mp h'
  constructor
  · rintro rfl
    exact keyOf_eq_of_not_differ (not_differ_of_path hplain hother hpath hpath')
  · intro hkey
    obtain ⟨id, name, hid, hname, -, -, rfl⟩ := path_of_plainHandle hplain hpath
    obtain ⟨id', name', hid', hname', -, -, rfl⟩ := path_of_plainHandle hother hpath'
    rw [keyOf, keyOf, hid, hid', hname, hname'] at hkey
    obtain ⟨rfl, rfl⟩ : id = id' ∧ name = name' := by simpa [Except.toOption] using hkey
    rfl

/-! ### An operation on the disk -/

theorem run_stream_eq (hvalid : validPath host store fileHandle = .ok path) (trouble : Trouble)
    (bytes : Bytes) (disk : Disk) :
    outcomeOf ((run host store trouble fileHandle (.stream bytes)).run disk) =
      let (result, entry) :=
        entryAfter (mismatch host store fileHandle) trouble (disk path) (.stream bytes)
      (result, Function.update disk path entry) := by
  have hself : Function.update disk path (disk path) = disk := Function.update_eq_self ..
  change outcomeOf (EStateM.bind (stream host store trouble fileHandle) (fun opened => do
    let opened ← opened.write bytes
    opened.dispose) disk) = _
  rw [EStateM.bind, stream_eq hvalid]
  cases hopening : (trouble.whenHeld (disk path).held).opening with
  | some e => simp only [entryAfter, hopening, hself, outcomeOf]
  | none =>
    cases htouch : trouble.touch with
    | some e => simp only [entryAfter, hopening, htouch, outcomeOf]
    | none =>
      simp only [entryAfter, hopening, htouch]
      let opened : Disk :=
        Function.update disk path ⟨some ((disk path).content.getD []), true⟩
      have hopened : opened path = ⟨some ((disk path).content.getD []), true⟩ :=
        Function.update_self ..
      let written : Disk :=
        opened.put path (ByteStream.overwrite ((opened path).content.getD []) 0 bytes)
      have hwritten : written path =
          ⟨some (ByteStream.overwrite ((disk path).content.getD []) 0 bytes), true⟩ := by
        simp only [written, Disk.put, Function.update_self, hopened, Option.getD_some]
      change (Except.ok (), Function.update written path { written path with held := false }) = _
      rw [hwritten]
      refine congrArg (Prod.mk _) ?_
      simp only [written, opened, Disk.put, Function.update_idem]

theorem delete_eq (hvalid : validPath host store fileHandle = .ok path) (trouble : Trouble)
    (disk : Disk) :
    outcomeOf ((run host store trouble fileHandle .delete).run disk) =
      let (result, entry) :=
        entryAfter (mismatch host store fileHandle) trouble (disk path) .delete
      (result, Function.update disk path entry) := by
  have hself : Function.update disk path (disk path) = disk := Function.update_eq_self ..
  have hrun : (run host store trouble fileHandle .delete).run disk =
      (if (disk path).content.isSome then (do
        raise trouble.deletion
        modify fun disk => disk.remove path
        raise trouble.cleanup)
      else pure () : EStateM Fault Disk Unit) disk := by
    change delete host store trouble fileHandle disk = _
    unfold delete
    rw [hvalid, ofExcept_ok_bind]
    rfl
  rw [hrun]
  cases hold : (disk path).content with
  | none =>
    simp only [entryAfter, hold, hself]
    rfl
  | some content =>
    cases hdeletion : trouble.deletion with
    | some e =>
      simp only [entryAfter, hold, hdeletion, hself]
      rfl
    | none =>
      cases hcleanup : trouble.cleanup <;>
        simp only [entryAfter, hold, hdeletion, hcleanup] <;> rfl

/-- **An operation does to its file what it does to what is under a key.** -/
theorem FileCall.perform_eq (c : FileCall host store) (disk : Disk) :
    c.perform disk =
      let (result, entry) :=
        entryAfter (mismatch host store c.fileHandle) c.trouble (disk c.path) c.operation
      (result, Function.update disk c.path entry) := by
  obtain ⟨fileHandle, trouble, operation, path, hplain, hvalid⟩ := c
  have hself : Function.update disk path (disk path) = disk := Function.update_eq_self ..
  cases operation with
  | store bytes =>
    change outcomeOf (storeBytes host store trouble fileHandle bytes disk) = _
    rw [storeBytes_eq hvalid]
    cases hopening : (trouble.whenHeld (disk path).held).opening with
    | some e => simp only [entryAfter, hopening, hself, outcomeOf]
    | none =>
      cases htransfer : trouble.transfer with
      | some p =>
        simp only [entryAfter, hopening, htransfer, outcomeOf]
        rfl
      | none =>
        by_cases hmatch : mismatch host store fileHandle bytes = true
        · simp only [entryAfter, hopening, htransfer, if_pos hmatch]
          rw [mismatch] at hmatch
          simp only [if_pos hmatch]
          cases trouble.deletion <;> rfl
        · simp only [entryAfter, hopening, htransfer, if_neg hmatch]
          rw [mismatch] at hmatch
          simp only [if_neg hmatch]
          cases trouble.touch <;> rfl
  | stream bytes => exact run_stream_eq hvalid trouble bytes disk
  | delete => exact delete_eq hvalid trouble disk
  | finalize =>
    change outcomeOf ((do
      let path ← ofExcept (validPath host store fileHandle)
      ByteStream.dispose ⟨.stored path, 0⟩ : EStateM Fault Disk Unit) disk) = _
    rw [hvalid, ofExcept_ok_bind]
    rfl

/-! ### Refinement -/

/-- The disk has the files of the map, as far as plain handles can tell. -/
def Stores (host : FileHost) (store : FileSystemMachineFileStore) (disk : Disk)
    (files : FileMap) : Prop :=
  ∀ fileHandle path, PlainHandle host fileHandle → validPath host store fileHandle = .ok path →
    disk path = files (keyOf host fileHandle)

theorem stores_empty : Stores host store default default := fun _ _ _ _ => rfl

/-- **The step**: the operation has the same result on both sides, and they stay related. -/
theorem Stores.perform (h : Stores host store disk files) (c : FileCall host store) :
    (c.perform disk).1 = (c.performMap files).1 ∧
      Stores host store (c.perform disk).2 (c.performMap files).2 := by
  have hentry : disk c.path = files (keyOf host c.fileHandle) :=
    h c.fileHandle c.path c.isPlain c.isValid
  rw [c.perform_eq, FileCall.performMap, hentry]
  refine ⟨rfl, fun fileHandle path hplain hvalid => ?_⟩
  have hkeys := path_eq_iff_keyOf_eq hplain c.isPlain hvalid c.isValid
  dsimp only
  rw [Function.update_apply, Function.update_apply]
  by_cases hpath : path = c.path
  · rw [if_pos hpath, if_pos (hkeys.mp hpath)]
  · rw [if_neg hpath, if_neg (mt hkeys.mpr hpath), h fileHandle path hplain hvalid]

/-- **The run.** -/
theorem Stores.runAll (h : Stores host store disk files) (calls : List (FileCall host store)) :
    (runAll FileCall.perform calls disk).1 = (runAll FileCall.performMap calls files).1 ∧
      Stores host store (runAll FileCall.perform calls disk).2
        (runAll FileCall.performMap calls files).2 := by
  induction calls generalizing disk files with
  | nil => exact ⟨rfl, h⟩
  | cons c calls ih =>
    obtain ⟨hresult, hnext⟩ := h.perform c
    obtain ⟨hresults, hlast⟩ := ih hnext
    exact ⟨congrArg₂ List.cons hresult hresults, hlast⟩

/-- What is reported about a plain handle is what the map has under its key. -/
theorem Stores.reports (h : Stores host store disk files) (hplain : PlainHandle host fileHandle)
    (hvalid : validPath host store fileHandle = .ok path) (trouble : Trouble) :
    reports host store trouble fileHandle disk =
      (.ok (files (keyOf host fileHandle)).content.isSome,
        readEntry (mismatch host store fileHandle) store.verifyHashes trouble
          (files (keyOf host fileHandle))) := by
  have hentry : disk path = files (keyOf host fileHandle) := h fileHandle path hplain hvalid
  rw [← hentry, FileSystemMachineFileStore.reports, contains_eq hvalid]
  refine congrArg _ ?_
  cases hcontent : (disk path).content with
  | none =>
    rw [FileSystemMachineFileStore.read, hvalid, readEntry]
    simp only [hcontent]
    rfl
  | some content =>
    rw [read_eq hvalid hcontent, readFile, readEntry]
    simp only [hcontent]
    have hread : (ByteStream.readToEnd ⟨.stored path, 0⟩ disk) = content := by
      rw [ByteStream.readToEnd, ByteStream.content]
      simp only [hcontent, Option.getD_some, List.drop_zero]
    generalize trouble.whenHeld (disk path).held = refused
    generalize (if store.verifyHashes then refused.transfer else none) = transfer
    cases transfer with
    | some p => rfl
    | none =>
      rw [mismatch]
      by_cases hmatch : (store.verifyHashes && !hashMatches host fileHandle content) = true
      · simp only [if_pos hmatch]
        rfl
      · simp only [if_neg hmatch]
        cases refused.touch with
        | some e => rfl
        | none =>
          cases refused.opening with
          | some e => rfl
          | none => exact congrArg _ hread

/-- **The store refines the map.** -/
theorem run_refines (calls : List (FileCall host store))
    (hplain : PlainHandle host fileHandle) (hvalid : validPath host store fileHandle = .ok path)
    (trouble : Trouble) :
    (runAll FileCall.perform calls default).1 = (runAll FileCall.performMap calls default).1 ∧
      FileSystemMachineFileStore.reports host store trouble fileHandle
          (runAll FileCall.perform calls default).2 =
        let entry := (runAll FileCall.performMap calls default).2 (keyOf host fileHandle)
        (.ok entry.content.isSome,
          readEntry (mismatch host store fileHandle) store.verifyHashes trouble entry) :=
  have hrun := stores_empty.runAll calls
  ⟨hrun.1, hrun.2.reports hplain hvalid trouble⟩

private def latinHost : FileHost := ⟨id, fun text part => part.isPrefixOf text, fun _ => ""⟩

private theorem isFull_shelf : Path.IsFull (utf16 "/files") := ⟨by decide, by decide⟩

private def shelf : FileSystemMachineFileStore := ⟨utf16 "/files", false, isFull_shelf⟩

private def boat : MachineFileHandle :=
  ⟨some "m", some "boat.gcode", some "text/x-gcode", some "ABCD"⟩

private theorem isPlain_boat : PlainHandle latinHost boat where
  machine := by
    rintro machineID ⟨⟩
    decide
  hash := by
    rintro name h
    obtain rfl : "abcd" = name := Except.ok.inj h
    decide

private theorem isValid_boat :
    validPath latinHost shelf boat = .ok (utf16 "/files/m/ab/abcd") := by
  decide +kernel

private def boatCall (operation : Operation) (trouble : Trouble) : FileCall latinHost shelf :=
  ⟨boat, trouble, operation, _, isPlain_boat, isValid_boat⟩

/-- A stream writes over the beginning of what is stored. One whose file has no time of access is
opened and lost, and nobody can read the file until it is finalized. -/
private def boatCalls : List (FileCall latinHost shelf) :=
  [boatCall (.store [1, 2, 3]) default, boatCall (.stream [7]) default,
    boatCall (.stream [8]) { (default : Trouble) with touch := some .unauthorizedAccess }]

theorem run_refines_streamed :
    FileSystemMachineFileStore.reports latinHost shelf default boat
        (runAll FileCall.perform boatCalls default).2 = (.ok true, .error .io) ∧
      FileSystemMachineFileStore.reports latinHost shelf default boat
        (runAll FileCall.perform (boatCalls ++ [boatCall .finalize default]) default).2 =
          (.ok true, .ok [7, 2, 3]) :=
  ⟨(run_refines boatCalls isPlain_boat isValid_boat default).2,
    (run_refines (boatCalls ++ [boatCall .finalize default]) isPlain_boat isValid_boat default).2⟩

end FileSystemMachineFileStore

end Connect3Dp
