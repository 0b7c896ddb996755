import Connect3Dp.Connectors.Delivery

/-!
# What a failed store leaves

`Store` creates its file before it has seen the bytes, so a file that was there is truncated first.
When the bytes stop, what came until then stays; when their hash is wrong, the file is deleted, and
the one before it is gone as well. Nothing is noticed only when what is left looks like what was
there (`storeFailsCleanly_iff`).
-/

namespace Connect3Dp

namespace FileSystemMachineFileStore

open MachineConnection (Indistinct held_eq_false reports_put_iff reports_remove_iff)

variable (host : FileHost) (store : FileSystemMachineFileStore) (trouble : Trouble)
  (fileHandle : MachineFileHandle)

/-- If `Store` raises, what is reported about every handle is what was reported before. -/
def StoreFailsCleanly (disk : Disk) (bytes : Bytes) : Prop :=
  ∀ e disk', (storeBytes host store trouble fileHandle bytes).run disk = .error e disk' →
    ∀ other trouble', reports host store trouble' other disk' =
      reports host store trouble' other disk

/-- The file is there, and no handle tells the content from what it has. -/
def LooksLike (path : Path) (disk : Disk) (content' : Bytes) : Prop :=
  ∃ content, (disk path).content = some content ∧ Indistinct host store path content content'

/-- When the store can tell nothing from a `Store` that raises. -/
def Unnoticed (path : Path) (disk : Disk) (bytes : Bytes) : Prop :=
  match (trouble.whenHeld (disk path).held).opening, trouble.transfer with
  -- the file is held, or not opened for another reason
  | some _, _ => True
  -- the bytes stop, and what came until then stays
  | none, some (n, _) => LooksLike host store path disk (bytes.take n)
  | none, none =>
    if store.verifyHashes && !hashMatches host fileHandle bytes then
      -- the wrong bytes are deleted with the file, or stay if it cannot be deleted
      match trouble.deletion with
      | some _ => LooksLike host store path disk bytes
      | none => (disk path).content = none
    else
      -- only the time of access may be missing
      match trouble.touch with
      | some _ => LooksLike host store path disk bytes
      | none => True

variable {host : FileHost} {store : FileSystemMachineFileStore} {trouble : Trouble}
  {fileHandle : MachineFileHandle} {path : Path} {disk : Disk} {bytes : Bytes}

/-- A `Store` that raises is clean when what it leaves is reported as what was there. -/
theorem storeFailsCleanly_of_error {e : Fault} {disk' : Disk}
    (h : storeBytes host store trouble fileHandle bytes disk = .error e disk') :
    StoreFailsCleanly host store trouble fileHandle disk bytes ↔
      ∀ other trouble', reports host store trouble' other disk' =
        reports host store trouble' other disk := by
  constructor
  · exact fun hclean => hclean e disk' h
  · intro hreports e' disk'' hrun
    rw [EStateM.run, h] at hrun
    cases hrun
    exact hreports

theorem storeFailsCleanly_of_path (hpath : validPath host store fileHandle = .ok path) :
    StoreFailsCleanly host store trouble fileHandle disk bytes ↔
      Unnoticed host store trouble fileHandle path disk bytes := by
  have hrun := storeBytes_eq hpath trouble bytes disk
  unfold Unnoticed
  cases hopening : (trouble.whenHeld (disk path).held).opening with
  | some e =>
    rw [hopening] at hrun
    rw [storeFailsCleanly_of_error hrun]
    exact iff_of_true (fun _ _ => rfl) trivial
  | none =>
    have hfree := held_eq_false hopening
    cases htransfer : trouble.transfer with
    | some p =>
      rw [hopening, htransfer] at hrun
      rw [storeFailsCleanly_of_error hrun, reports_put_iff hpath hfree]
      rfl
    | none =>
      rw [hopening, htransfer] at hrun
      by_cases hmatch : (store.verifyHashes && !hashMatches host fileHandle bytes) = true
      · simp only [if_pos hmatch] at hrun ⊢
        cases hdeletion : trouble.deletion with
        | some e =>
          rw [hdeletion] at hrun
          rw [storeFailsCleanly_of_error hrun, reports_put_iff hpath hfree]
          rfl
        | none =>
          rw [hdeletion] at hrun
          rw [storeFailsCleanly_of_error hrun, reports_remove_iff hpath hfree]
      · simp only [if_neg hmatch] at hrun ⊢
        cases htouch : trouble.touch with
        | some e =>
          rw [htouch] at hrun
          rw [storeFailsCleanly_of_error hrun, reports_put_iff hpath hfree]
          rfl
        | none =>
          rw [htouch] at hrun
          refine iff_of_true (fun e disk' h => ?_) trivial
          rw [EStateM.run, hrun] at h
          cases h

/-- **A failed store is unnoticed when what it leaves looks like what was there.** A handle that is
refused leaves everything as it is. -/
theorem storeFailsCleanly_iff (host : FileHost) (store : FileSystemMachineFileStore)
    (trouble : Trouble) (fileHandle : MachineFileHandle) (disk : Disk) (bytes : Bytes) :
    StoreFailsCleanly host store trouble fileHandle disk bytes ↔
      ∀ path, validPath host store fileHandle = .ok path →
        Unnoticed host store trouble fileHandle path disk bytes := by
  cases hpath : validPath host store fileHandle with
  | error e =>
    have hrefused : storeBytes host store trouble fileHandle bytes disk = .error e disk := by
      rw [storeBytes, hpath]
      rfl
    rw [storeFailsCleanly_of_error hrefused]
    refine iff_of_true (fun _ _ => rfl) ?_
    rintro path ⟨⟩
  | ok path =>
    rw [storeFailsCleanly_of_path hpath]
    constructor
    · rintro h path' ⟨⟩
      exact h
    · exact fun h => h path rfl

/-- **A valid file does not survive a failed `Store`**: what came before the failure, or nothing, is
in its place. -/
theorem not_storeFailsCleanly_of_valid {content : Bytes} {n : ℕ} {e : Fault}
    (hpath : validPath host store fileHandle = .ok path)
    (hentry : disk path = ⟨some content, false⟩)
    (hvalid : store.verifyHashes = true → hashMatches host fileHandle content = true)
    (hopening : trouble.opening = none) (htransfer : trouble.transfer = some (n, e))
    (hne : bytes.take n ≠ content) :
    ¬ StoreFailsCleanly host store trouble fileHandle disk bytes := by
  have hcontent := congrArg DiskEntry.content hentry
  have hopened : (trouble.whenHeld (disk path).held).opening = none := by rwa [hentry]
  rw [storeFailsCleanly_of_path hpath, Unnoticed, hopened, htransfer]
  rintro ⟨content', hcontent', hsame | ⟨hverify, hcorrupt⟩⟩
  · exact hne (hsame.trans (Option.some.inj (hcontent'.symm.trans hcontent)))
  · obtain rfl := Option.some.inj (hcontent'.symm.trans hcontent)
    have hbad := (hcorrupt fileHandle hpath).1
    rw [hvalid hverify] at hbad
    cases hbad

/-- A store of one machine's files. -/
private def cubeFiles : FileSystemMachineFileStore :=
  ⟨utf16 "/files", false, ⟨by decide, by decide⟩⟩

private def cubeHost : FileHost := ⟨id, fun text part => part.isPrefixOf text, fun _ => ""⟩

private def cubeHandle : MachineFileHandle :=
  ⟨some "m", some "cube.gcode", some "text/x-gcode", some "abcd"⟩

/-- A stream that breaks off after a byte, over a file of two. -/
theorem storeFailsCleanly_fails :
    ¬ StoreFailsCleanly cubeHost cubeFiles { (default : Trouble) with transfer := some (1, .io) }
      cubeHandle (fun _ => ⟨some [1, 2], false⟩) [3, 4] := by
  have hpath : validPath cubeHost cubeFiles cubeHandle = .ok (utf16 "/files/m/ab/abcd") := by
    decide +kernel
  exact not_storeFailsCleanly_of_valid hpath rfl nofun rfl rfl (by decide)

end FileSystemMachineFileStore

end Connect3Dp
