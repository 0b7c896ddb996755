import Connect3Dp.Connectors.Download

/-!
# What a download delivers

Whoever is given the stream of a download reads on from where it was left. A stream left at its end
yields nothing, and a temporary file is stored from there, so that neither the caller nor the store
gets anything. Left at its beginning, it yields the file, and what remains of a longer file that was
written over; but a temporary file has been read to its end by `Store` (`delivers_iff`).

The store's own file is there before the download starts, and held. A download that fails leaves it
so, whatever it has written (`leavesNoTrace_iff`).
-/

namespace Connect3Dp

namespace MachineConnection

open FileSystemMachineFileStore

section

variable (host : FileHost) (store : FileSystemMachineFileStore) (troubles : DownloadTroubles)
  (fileHandle : MachineFileHandle)

/-- The store has the bytes under the handle. -/
def Holds (disk : Disk) (bytes : Bytes) : Prop :=
  ∃ path, validPath host store fileHandle = .ok path ∧ (disk path).content = some bytes

/-- A machine that writes `bytes`, and leaves the stream at the position, is read from: the caller
gets them, or the intact copy of the store, and the store has what the caller gets. -/
def Delivers (disk : Disk) (bytes : Bytes) (position : ℕ) : Prop :=
  ∃ stream disk', (downloadFile host store troubles ⟨bytes, position, none⟩ fileHandle).run disk =
      .ok stream disk' ∧ Holds host store fileHandle disk' (stream.readToEnd disk') ∧
    (stream.readToEnd disk' = bytes ∨ Holds host store fileHandle disk (stream.readToEnd disk') ∧
      hashMatches host fileHandle (stream.readToEnd disk') = true)

/-- The content is what the machine writes, or the intact copy of the store. -/
def IsRight (path : Path) (disk : Disk) (bytes content : Bytes) : Prop :=
  content = bytes ∨ (disk path).content = some content ∧ hashMatches host fileHandle content = true

/-- When a file is delivered. -/
inductive Deliverable (path : Path) (disk : Disk) (bytes : Bytes) (position : ℕ) : Prop
  /-- the store serves a copy, which is the file -/
  | served (content : Bytes) (hcontent : (disk path).content = some content)
      (hread : ∃ stream, FileSystemMachineFileStore.read host store troubles.read fileHandle disk =
        .ok stream)
      (hright : IsRight host fileHandle path disk bytes content)
  /-- the store's own file is written over, which leaves the right one, and the stream is left at
  its beginning, unless there is nothing in it -/
  | written (hfalls : FallsBack host store troubles fileHandle path disk)
      (hstream : ¬ StreamRefused troubles (disk path))
      (hposition : position = 0 ∨ overwritten bytes path disk = [])
      (hright : IsRight host fileHandle path disk bytes (overwritten bytes path disk))
  /-- a temporary file is stored, or `Store` fails: the store has what is left to read -/
  | stored (hfalls : FallsBack host store troubles fileHandle path disk)
      (hstream : StreamRefused troubles (disk path)) (htemporary : troubles.temporary = none)
      (content : Bytes)
      (hstored : StoredFrom host store troubles fileHandle (afterRefusal troubles path disk path)
        bytes position (some content) content)
      (hright : IsRight host fileHandle path disk bytes content)

end

variable {host : FileHost} {store : FileSystemMachineFileStore} {troubles : DownloadTroubles}
  {fileHandle : MachineFileHandle} {path : Path} {disk : Disk} {bytes : Bytes} {position : ℕ}

/-! ### The four outcomes -/

/-- A file that cannot be read, unless the file system is to blame, is not downloaded either. -/
theorem run_downloadFile_of_error {content : Bytes} {e : Fault}
    (hpath : validPath host store fileHandle = .ok path)
    (hcontent : (disk path).content = some content)
    (hread : FileSystemMachineFileStore.read host store troubles.read fileHandle disk = .error e)
    (he : e ≠ .io) (download : LocalDownload) :
    (downloadFile host store troubles download fileHandle).run disk = .error e disk := by
  have hcontains := FileSystemMachineFileStore.contains_eq hpath disk
  rw [hcontent] at hcontains
  change (ofExcept (contains host store fileHandle disk) >>= _ : EStateM Fault Disk _).run disk = _
  rw [hcontains, ofExcept_ok_bind, Option.isSome_some, if_pos rfl, hread]
  cases e with
  | io => exact absurd rfl he
  | _ => rfl

/-- A file that the store has is served, or its exception is raised, or the machine is asked. -/
theorem served_or_raised_or_fallsBack (hpath : validPath host store fileHandle = .ok path)
    (download : LocalDownload) (disk : Disk) :
    (∃ content, (disk path).content = some content ∧
      (∃ stream, FileSystemMachineFileStore.read host store troubles.read fileHandle disk =
        .ok stream) ∧
      (downloadFile host store troubles download fileHandle).run disk =
        .ok ⟨.stored path, 0⟩ disk) ∨
    (∃ e, (downloadFile host store troubles download fileHandle).run disk = .error e disk) ∨
    FallsBack host store troubles fileHandle path disk := by
  cases hcontent : (disk path).content with
  | none => exact .inr (.inr fun hne => absurd hcontent hne)
  | some content =>
    cases hread : FileSystemMachineFileStore.read host store troubles.read fileHandle disk with
    | ok stream =>
      have hfile := (read_eq hpath hcontent troubles.read).symm.trans hread
      obtain rfl := eq_of_readFile hfile
      exact .inl ⟨content, rfl, ⟨_, rfl⟩, run_downloadFile_of_read hpath hcontent hread⟩
    | error e =>
      by_cases he : e = .io
      · subst he
        exact .inr (.inr fun _ => hread)
      · exact .inr (.inl ⟨e, run_downloadFile_of_error hpath hcontent hread he download⟩)

/-! ### Delivery -/

theorem readToEnd_stored {content : Bytes} (hcontent : (disk path).content = some content) :
    ByteStream.readToEnd ⟨.stored path, position⟩ disk = content.drop position := by
  simp [ByteStream.readToEnd, ByteStream.content, hcontent]

theorem content_put (disk : Disk) (path : Path) (content : Bytes) :
    (disk.put path content path).content = some content := by
  rw [Disk.put, Function.update_self]

theorem drop_eq_self_iff {l : Bytes} : l.drop position = l ↔ position = 0 ∨ l = [] := by
  constructor
  · intro h
    have hlength := congrArg List.length h
    rw [List.length_drop] at hlength
    rw [← List.length_eq_zero_iff]
    omega
  · rintro (rfl | rfl)
    · exact List.drop_zero
    · exact List.drop_nil

/-- A download into the store's own file, or into a temporary one. -/
theorem run_of_fallsBack (hpath : validPath host store fileHandle = .ok path)
    (hfalls : FallsBack host store troubles fileHandle path disk) (download : LocalDownload) :
    (downloadFile host store troubles download fileHandle).run disk =
      if StreamRefused troubles (disk path) then
        (storeTemporary host store troubles fileHandle download).run
          (afterRefusal troubles path disk)
      else finish download.fault ⟨.stored path, download.position⟩
        ((opened path disk).put path (overwritten download.written path disk)) := by
  by_cases hrefused : StreamRefused troubles (disk path)
  · obtain ⟨e, he⟩ := stream_of_refused hpath hrefused
    rw [if_pos hrefused, run_of_stream_error _ (run_downloadFile_of_fallsBack hpath hfalls) he]
  · rw [if_neg hrefused, run_of_not_streamRefused _ hpath hfalls hrefused]

/-- **A file is delivered when the store serves it**, or when its own file is written and left at
the beginning, or else only when there is nothing left to read. -/
theorem delivers_iff (host : FileHost) (store : FileSystemMachineFileStore)
    (troubles : DownloadTroubles) (fileHandle : MachineFileHandle) (disk : Disk) (bytes : Bytes)
    (position : ℕ) :
    Delivers host store troubles fileHandle disk bytes position ↔
      ∃ path, validPath host store fileHandle = .ok path ∧
        Deliverable host store troubles fileHandle path disk bytes position := by
  have hholds {path : Path} (hpath : validPath host store fileHandle = .ok path) (disk' : Disk)
      (bytes' : Bytes) : Holds host store fileHandle disk' bytes' ↔
        (disk' path).content = some bytes' := by
    refine ⟨?_, fun h => ⟨path, hpath, h⟩⟩
    rintro ⟨path', hpath', h⟩
    obtain rfl := Except.ok.inj (hpath.symm.trans hpath')
    exact h
  constructor
  · rintro ⟨stream, disk', hrun, hheld, hright⟩
    obtain ⟨path, hpath, -⟩ := id hheld
    rw [hholds hpath] at hheld hright
    refine ⟨path, hpath, ?_⟩
    rcases served_or_raised_or_fallsBack hpath ⟨bytes, position, none⟩ disk with
      ⟨content, hcontent, hread, hserved⟩ | ⟨e, hraised⟩ | hfalls
    · rw [hserved] at hrun
      cases hrun
      rw [readToEnd_stored hcontent, List.drop_zero] at hright
      exact .served content hcontent hread hright
    · rw [hraised] at hrun
      cases hrun
    · rw [run_of_fallsBack hpath hfalls] at hrun
      split at hrun
      · rename_i hrefused
        cases htemporary : troubles.temporary with
        | some e =>
          rw [storeTemporary, htemporary] at hrun
          cases hrun
        | none =>
          rw [storeTemporary, htemporary] at hrun
          exact .stored hfalls hrefused htemporary _
            ((addToStore_iff hpath bytes position _ _ _).mp ⟨stream, disk', hrun, hheld, rfl⟩)
            hright
      · rename_i hrefused
        cases hrun
        have hcontent := content_put (opened path disk) path (overwritten bytes path disk)
        rw [readToEnd_stored hcontent] at hheld hright
        have hall := Option.some.inj (hcontent.symm.trans hheld)
        rw [← hall] at hright
        exact .written hfalls hrefused (drop_eq_self_iff.mp hall.symm) hright
  · rintro ⟨path, hpath, hdeliverable⟩
    unfold Delivers
    simp only [hholds hpath]
    cases hdeliverable with
    | served content hcontent hread hright =>
      obtain ⟨stream, hread⟩ := hread
      obtain rfl := eq_of_readFile ((read_eq hpath hcontent troubles.read).symm.trans hread)
      refine ⟨_, disk, run_downloadFile_of_read hpath hcontent hread, ?_⟩
      rw [readToEnd_stored hcontent, List.drop_zero]
      exact ⟨hcontent, hright⟩
    | written hfalls hstream hposition hright =>
      have hrun := run_of_fallsBack hpath hfalls ⟨bytes, position, none⟩
      rw [if_neg hstream] at hrun
      have hcontent := content_put (opened path disk) path (overwritten bytes path disk)
      refine ⟨_, _, hrun, ?_⟩
      rw [readToEnd_stored hcontent, drop_eq_self_iff.mpr hposition]
      exact ⟨hcontent, hright⟩
    | stored hfalls hstream htemporary content hstored hright =>
      obtain ⟨stream, disk', hadd, hcontent, hrest⟩ :=
        (addToStore_iff hpath bytes position _ _ _).mpr hstored
      have hrun := run_of_fallsBack hpath hfalls ⟨bytes, position, none⟩
      rw [if_pos hstream, storeTemporary, htemporary] at hrun
      refine ⟨stream, disk', hrun.trans hadd, ?_⟩
      rw [hrest]
      exact ⟨hcontent, hright⟩

/-- A host of ASCII texts. -/
private def printHost : FileHost := ⟨id, fun text part => part.isPrefixOf text, fun _ => ""⟩

private theorem isFull_printFiles : Path.IsFull (utf16 "/files") := ⟨by decide, by decide⟩

private def printFiles : FileSystemMachineFileStore := ⟨utf16 "/files", false, isFull_printFiles⟩

private def cube : MachineFileHandle :=
  ⟨some "m", some "cube.gcode", some "text/x-gcode", some "abcd"⟩

private theorem validPath_cube :
    validPath printHost printFiles cube = .ok (utf16 "/files/m/ab/abcd") := by
  decide +kernel

private theorem fallsBack_cube : FallsBack printHost printFiles default cube
    (utf16 "/files/m/ab/abcd") default := fun h => absurd rfl h

private theorem not_streamRefused_default (path : Path) :
    ¬ StreamRefused default ((default : Disk) path) := by
  rintro (h | h)
  · exact h rfl
  · exact h rfl

/-- A byte that is downloaded into an empty store is delivered from the end of the stream only. -/
theorem delivers_fails :
    ¬ ∀ (host : FileHost) (store : FileSystemMachineFileStore) (troubles : DownloadTroubles)
      (fileHandle : MachineFileHandle) (disk : Disk) (bytes : Bytes) (position : ℕ),
      Delivers host store troubles fileHandle disk bytes position := by
  intro hall
  obtain ⟨stream, disk', hrun, -, hright⟩ :=
    hall printHost printFiles default cube default [1] 1
  rw [run_of_fallsBack validPath_cube fallsBack_cube, if_neg (not_streamRefused_default _)] at hrun
  cases hrun
  rw [readToEnd_stored (content_put _ _ _)] at hright
  rcases hright with hyields | ⟨⟨path, -, hheld⟩, -⟩
  · cases hyields
  · cases hheld

/-! ### Failure -/

/-- `DownloadLocalFile` is called. -/
def Asks (host : FileHost) (store : FileSystemMachineFileStore) (troubles : DownloadTroubles)
    (fileHandle : MachineFileHandle) (disk : Disk) : Prop :=
  (contains host store fileHandle disk = .ok false ∨
    contains host store fileHandle disk = .ok true ∧
      FileSystemMachineFileStore.read host store troubles.read fileHandle disk = .error .io) ∧
  ((∃ storeAt disk', stream host store troubles.stream fileHandle disk = .ok storeAt disk') ∨
    troubles.temporary = none)

/-- When `DownloadLocalFile` writes and raises, so does `DownloadFile`, and what is reported about
any handle is what was reported before. -/
def LeavesNoTrace (host : FileHost) (store : FileSystemMachineFileStore)
    (troubles : DownloadTroubles) (fileHandle : MachineFileHandle) (disk : Disk) (bytes : Bytes)
    (e : Fault) : Prop :=
  Asks host store troubles fileHandle disk →
    ∃ e' disk', (downloadFile host store troubles ⟨bytes, bytes.length, some e⟩ fileHandle).run
        disk = .error e' disk' ∧
      ∀ other trouble, reports host store trouble other disk' =
        reports host store trouble other disk

/-- Two contents of a file are told apart by no handle. -/
def Indistinct (host : FileHost) (store : FileSystemMachineFileStore) (path : Path)
    (content content' : Bytes) : Prop :=
  content' = content ∨ store.verifyHashes = true ∧ ∀ other, validPath host store other = .ok path →
    hashMatches host other content = false ∧ hashMatches host other content' = false

/-- A file that is read without trouble. -/
theorem readFile_default (other : MachineFileHandle) (path : Path) (content : Bytes) :
    readFile host store default other path content =
      if store.verifyHashes && !hashMatches host other content then .error .invalidData
      else .ok ⟨.stored path, 0⟩ := by
  have htransfer : (if store.verifyHashes then (default : Trouble).transfer else none) = none := by
    split <;> rfl
  rw [readFile, htransfer]
  rfl

/-- A file that is held is not read. -/
theorem readFile_whenHeld (other : MachineFileHandle) (path : Path) (content : Bytes) :
    readFile host store ((default : Trouble).whenHeld true) other path content = .error .io := by
  rw [readFile]
  cases store.verifyHashes <;> rfl

/-- A file is opened only if it is not held. -/
theorem held_eq_false {trouble : Trouble} {held : Bool}
    (h : (trouble.whenHeld held).opening = none) : held = false := by
  cases held with
  | false => rfl
  | true => cases h

/-- Reports about a file that is there tell contents apart by their bytes, unless both are taken
for corrupt. -/
theorem reports_eq_iff {other : MachineFileHandle} {disk' : Disk} {content content' : Bytes}
    (hpath : validPath host store other = .ok path) (hentry : disk path = ⟨some content, false⟩)
    (hentry' : disk' path = ⟨some content', false⟩) :
    (∀ trouble, reports host store trouble other disk' = reports host store trouble other disk) ↔
      content' = content ∨ store.verifyHashes = true ∧
        hashMatches host other content = false ∧ hashMatches host other content' = false := by
  have hread {disk : Disk} {content : Bytes} (h : disk path = ⟨some content, false⟩)
      (trouble : Trouble) : FileSystemMachineFileStore.read host store trouble other disk =
        readFile host store trouble other path content := by
    rw [read_eq hpath (congrArg DiskEntry.content h), h]
    rfl
  have hall {disk : Disk} {content : Bytes} (h : disk path = ⟨some content, false⟩) :
      ByteStream.readToEnd ⟨.stored path, 0⟩ disk = content :=
    (readToEnd_stored (congrArg DiskEntry.content h)).trans List.drop_zero
  constructor
  -- a read without trouble yields the content, or raises where the hash does not match
  · intro h
    have hread' := congrArg Prod.snd (h default)
    simp only [reports, hread hentry, hread hentry', readFile_default] at hread'
    split at hread' <;> split at hread'
    · rename_i hbad' hbad
      rw [Bool.and_eq_true, Bool.not_eq_true'] at hbad hbad'
      exact .inr ⟨hbad.1, hbad.2, hbad'.2⟩
    · cases hread'
    · cases hread'
    · have hok : ByteStream.readToEnd ⟨.stored path, 0⟩ disk' =
          ByteStream.readToEnd ⟨.stored path, 0⟩ disk := Except.ok.inj hread'
      rw [hall hentry, hall hentry'] at hok
      exact .inl hok
  · rintro (rfl | ⟨hverify, hbad, hbad'⟩) trouble
    · refine reports_congr trouble fun path' hpath' => ?_
      obtain rfl := Except.ok.inj (hpath.symm.trans hpath')
      rw [hentry, hentry']
    · have hsame : readFile host store trouble other path content' =
          readFile host store trouble other path content := by
        simp only [readFile, hbad, hbad']
      -- a corrupt content is not opened, whatever the trouble
      have hraises : ∀ opened, readFile host store trouble other path content ≠ .ok opened := by
        intro opened hopened
        obtain rfl := eq_of_readFile hopened
        simp only [readFile, hverify, hbad] at hopened
        cases htransfer : trouble.transfer with
        | none =>
          rw [htransfer] at hopened
          cases hopened
        | some p =>
          rw [htransfer] at hopened
          cases hopened
      rw [reports, reports, contains_eq hpath, contains_eq hpath, hread hentry, hread hentry',
        hentry, hentry', hsame]
      cases hread : readFile host store trouble other path content with
      | error e => rfl
      | ok opened => exact absurd hread (hraises opened)

/-- Reports show whether a file is there. -/
theorem isSome_of_reports (hpath : validPath host store fileHandle = .ok path) {disk' : Disk}
    (h : ∀ other trouble, reports host store trouble other disk' =
      reports host store trouble other disk) :
    (disk' path).content.isSome = (disk path).content.isSome := by
  have hcontains := congrArg Prod.fst (h fileHandle default)
  rw [reports, reports, contains_eq hpath, contains_eq hpath] at hcontains
  exact Except.ok.inj hcontains

/-- **A file that is held is noticed.** -/
theorem not_reports_of_held (hpath : validPath host store fileHandle = .ok path) {disk' : Disk}
    (hfree : (disk path).held = false) (hheld : (disk' path).held = true)
    (hthere : (disk' path).content ≠ none) :
    ¬ ∀ other trouble, reports host store trouble other disk' =
      reports host store trouble other disk := by
  intro h
  have hsome := isSome_of_reports hpath h
  obtain ⟨content', hcontent'⟩ := Option.ne_none_iff_exists'.mp hthere
  rw [hcontent'] at hsome
  obtain ⟨content, hcontent⟩ := Option.isSome_iff_exists.mp hsome.symm
  have hread := congrArg Prod.snd (h fileHandle default)
  rw [reports, reports, read_eq hpath hcontent, read_eq hpath hcontent', hfree, hheld,
    readFile_whenHeld] at hread
  change _ = Except.map _ (readFile host store default fileHandle path content) at hread
  rw [readFile_default] at hread
  split at hread
  · cases hread
  · cases hread

/-- **A file that is written anew is noticed** unless it was there and no handle can tell. -/
theorem reports_put_iff (hpath : validPath host store fileHandle = .ok path)
    (hfree : (disk path).held = false) {content' : Bytes} :
    (∀ other trouble, reports host store trouble other (disk.put path content') =
      reports host store trouble other disk) ↔
      ∃ content, (disk path).content = some content ∧
        Indistinct host store path content content' := by
  have hwritten : disk.put path content' path = ⟨some content', false⟩ :=
    (Function.update_self ..).trans (congrArg (DiskEntry.mk (some content')) hfree)
  have hentry {content : Bytes} (h : (disk path).content = some content) :
      disk path = ⟨some content, false⟩ := by
    rw [← h, ← hfree]
  constructor
  · intro h
    have hthere := isSome_of_reports hpath h
    rw [hwritten] at hthere
    obtain ⟨content, hcontent⟩ := Option.isSome_iff_exists.mp hthere.symm
    refine ⟨content, hcontent, ?_⟩
    by_cases hsame : content' = content
    · exact .inl hsame
    · have hothers : ∀ other, validPath host store other = .ok path →
          store.verifyHashes = true ∧ hashMatches host other content = false ∧
            hashMatches host other content' = false :=
        fun other hother =>
          ((reports_eq_iff hother (hentry hcontent) hwritten).mp (h other)).resolve_left hsame
      exact .inr ⟨(hothers fileHandle hpath).1, fun other hother => (hothers other hother).2⟩
  · rintro ⟨content, hcontent, hindistinct⟩ other
    by_cases hother : validPath host store other = .ok path
    · refine (reports_eq_iff hother (hentry hcontent) hwritten).mpr ?_
      exact hindistinct.imp_right fun h => ⟨h.1, h.2 other hother⟩
    · intro trouble
      refine reports_congr trouble fun path' hpath' => ?_
      refine Function.update_of_ne ?_ _ _
      rintro rfl
      exact hother hpath'

/-- A file that is removed is noticed unless there was none. -/
theorem reports_remove_iff (hpath : validPath host store fileHandle = .ok path)
    (hfree : (disk path).held = false) :
    (∀ other trouble, reports host store trouble other (disk.remove path) =
      reports host store trouble other disk) ↔ (disk path).content = none := by
  constructor
  · intro h
    have hthere := isSome_of_reports hpath h
    rw [Disk.remove, Function.update_self] at hthere
    exact Option.isSome_eq_false_iff.mp hthere.symm |> Option.isNone_iff_eq_none.mp
  · intro h other trouble
    have hentry : disk path = default := by
      rw [show disk path = ⟨(disk path).content, (disk path).held⟩ from rfl, h, hfree]
      rfl
    rw [Disk.remove, ← hentry, Function.update_eq_self]

/-- A download that is asked for while the handle is valid. -/
theorem fallsBack_of_asks (hpath : validPath host store fileHandle = .ok path)
    (hasks : Asks host store troubles fileHandle disk) :
    FallsBack host store troubles fileHandle path disk := by
  intro hthere
  rcases hasks.1 with hfalse | ⟨-, hread⟩
  · rw [contains_eq hpath, Except.ok.injEq, Option.isSome_eq_false_iff,
      Option.isNone_iff_eq_none] at hfalse
    exact absurd hfalse hthere
  · exact hread

/-- A refused stream is followed by a temporary file, and a failure by nothing. -/
theorem run_of_asks_of_stream_error {e e' : Fault} {disk' : Disk}
    (hasks : Asks host store troubles fileHandle disk)
    (hrun : (downloadFile host store troubles ⟨bytes, position, some e⟩ fileHandle).run disk =
      (downloadFromMachine host store troubles ⟨bytes, position, some e⟩ fileHandle).run disk)
    (hstream : stream host store troubles.stream fileHandle disk = .error e' disk') :
    (downloadFile host store troubles ⟨bytes, position, some e⟩ fileHandle).run disk =
      .error e disk' := by
  have htemporary : troubles.temporary = none := by
    rcases hasks.2 with ⟨storeAt, disk'', hok⟩ | hnone
    · rw [hstream] at hok
      cases hok
    · exact hnone
  rw [run_of_stream_error _ hrun hstream, storeTemporary, htemporary]
  rfl

/-- **What a failed download leaves**: everything as it is, or a file that is held. -/
theorem run_of_asks (hpath : validPath host store fileHandle = .ok path)
    (hasks : Asks host store troubles fileHandle disk) (e : Fault) :
    ∃ disk', (downloadFile host store troubles ⟨bytes, position, some e⟩ fileHandle).run disk =
        .error e disk' ∧
      (StreamShut troubles (disk path) ∧ disk' = disk ∨
        ¬ StreamShut troubles (disk path) ∧ (disk path).held = false ∧
          (disk' path).held = true ∧ (disk' path).content ≠ none) := by
  have hfalls := fallsBack_of_asks hpath hasks
  have hopened : opened path disk path = ⟨some ((disk path).content.getD []), true⟩ :=
    Function.update_self ..
  by_cases hrefused : StreamRefused troubles (disk path)
  · obtain ⟨e', he⟩ := stream_of_refused hpath hrefused
    refine ⟨_, run_of_asks_of_stream_error hasks (run_downloadFile_of_fallsBack hpath hfalls) he,
      ?_⟩
    by_cases hshut : StreamShut troubles (disk path)
    · exact .inl ⟨hshut, if_pos hshut⟩
    · rw [afterRefusal, if_neg hshut, hopened]
      exact .inr ⟨hshut, held_eq_false (not_not.mp hshut), rfl, Option.some_ne_none _⟩
  · refine ⟨_, run_of_not_streamRefused _ hpath hfalls hrefused, .inr ?_⟩
    obtain ⟨hshut, -⟩ := not_or.mp hrefused
    rw [Disk.put, Function.update_self, hopened]
    exact ⟨hshut, held_eq_false (not_not.mp hshut), rfl, Option.some_ne_none _⟩

/-- **A failed download leaves no trace when the store's own file is not opened.** -/
theorem leavesNoTrace_iff (host : FileHost) (store : FileSystemMachineFileStore)
    (troubles : DownloadTroubles) (fileHandle : MachineFileHandle) (disk : Disk) (bytes : Bytes)
    (e : Fault) :
    LeavesNoTrace host store troubles fileHandle disk bytes e ↔
      (Asks host store troubles fileHandle disk →
        ∀ path, validPath host store fileHandle = .ok path → StreamShut troubles (disk path)) := by
  constructor
  · intro h hasks path hpath
    obtain ⟨e', disk', hrun, hreports⟩ := h hasks
    obtain ⟨disk'', hrun', ⟨hshut, -⟩ | ⟨-, hfree, hheld, hthere⟩⟩ := run_of_asks hpath hasks e
    · exact hshut
    · rw [hrun] at hrun'
      cases hrun'
      exact absurd hreports (not_reports_of_held hpath hfree hheld hthere)
  · intro h hasks
    cases hpath : validPath host store fileHandle with
    | error e' =>
      have hfalse : contains host store fileHandle disk = .ok false := by
        rcases hasks.1 with hfalse | ⟨htrue, -⟩
        · exact hfalse
        · rw [contains, hpath] at htrue
          cases e' <;> cases htrue
      have hstream : stream host store troubles.stream fileHandle disk = .error e' disk := by
        rw [stream, hpath]
        rfl
      exact ⟨e, disk, run_of_asks_of_stream_error hasks
        (run_downloadFile_of_contains_false hfalse) hstream, fun _ _ => rfl⟩
    | ok path =>
      obtain ⟨disk', hrun, ⟨-, rfl⟩ | ⟨hopen, -⟩⟩ := run_of_asks hpath hasks e
      · exact ⟨e, _, hrun, fun _ _ => rfl⟩
      · exact absurd (h hasks path hpath) hopen

/-- **What a failed download leaves is taken for the file** once the stream is finalized. -/
theorem run_downloadFile_after_failure (hpath : validPath host store fileHandle = .ok path)
    (habsent : disk path = default) (hstream : ¬ StreamRefused troubles (disk path))
    (hverify : store.verifyHashes = false) (e : Fault) (download : LocalDownload) :
    ∃ disk', (downloadFile host store troubles ⟨bytes, position, some e⟩ fileHandle).run disk =
        .error e disk' ∧
      let finalized :=
        diskAfter (FileSystemMachineFileStore.run host store default fileHandle .finalize) disk'
      (downloadFile host store default download fileHandle).run finalized =
          .ok ⟨.stored path, 0⟩ finalized ∧
        ByteStream.readToEnd ⟨.stored path, 0⟩ finalized = bytes := by
  have hfalls : FallsBack host store troubles fileHandle path disk := by
    intro hthere
    rw [habsent] at hthere
    exact absurd rfl hthere
  have hwritten : overwritten bytes path disk = bytes := by
    rw [overwritten, habsent]
    change bytes ++ List.drop bytes.length [] = bytes
    rw [List.drop_nil, List.append_nil]
  refine ⟨_, run_of_not_streamRefused _ hpath hfalls hstream, ?_⟩
  rw [hwritten]
  generalize hleft : (opened path disk).put path bytes = left
  have hfinalized :
      diskAfter (FileSystemMachineFileStore.run host store default fileHandle .finalize) left =
        Function.update left path ⟨some bytes, false⟩ := by
    have hcontent : (left path).content = some bytes := hleft ▸ content_put _ _ _
    simp only [FileSystemMachineFileStore.run]
    rw [hpath, ofExcept_ok_bind, ← hcontent]
    rfl
  rw [hfinalized]
  have hentry : Function.update left path ⟨some bytes, false⟩ path = ⟨some bytes, false⟩ :=
    Function.update_self ..
  have hcontent := congrArg DiskEntry.content hentry
  refine ⟨run_downloadFile_of_read hpath hcontent ?_,
    (readToEnd_stored hcontent).trans List.drop_zero⟩
  rw [read_eq hpath hcontent, hentry]
  change readFile host store default fileHandle path bytes = _
  rw [readFile_default, hverify]
  rfl

/-- A printer without downloads leaves an empty file. -/
theorem leavesNoTrace_fails :
    ¬ ∀ (host : FileHost) (store : FileSystemMachineFileStore) (troubles : DownloadTroubles)
      (fileHandle : MachineFileHandle) (disk : Disk) (bytes : Bytes) (e : Fault),
      LeavesNoTrace host store troubles fileHandle disk bytes e := by
  intro hall
  have hasks : Asks printHost printFiles default cube default := by
    refine ⟨.inl ?_, .inr rfl⟩
    rw [contains_eq validPath_cube]
    rfl
  obtain ⟨e, disk', hrun, hreports⟩ :=
    hall printHost printFiles default cube default [] .notSupported hasks
  obtain ⟨disk'', hrun', ⟨hshut, -⟩ | ⟨-, hfree, hheld, hthere⟩⟩ :=
    run_of_asks validPath_cube hasks .notSupported
  · exact hshut rfl
  · rw [hrun] at hrun'
    cases hrun'
    exact not_reports_of_held validPath_cube hfree hheld hthere hreports

end MachineConnection

end Connect3Dp
