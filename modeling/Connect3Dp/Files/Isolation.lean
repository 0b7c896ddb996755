import Connect3Dp.Files.FileStore

/-!
# Isolation of the machines' files

The path of a file is joined from three texts of its handle before it is checked, and it is checked
against the base directory alone. So it is the steps in these texts that decide whether two handles
keep to the directories of their machines and to files of their own (`isolated_iff`). Handles whose
texts are names (`PlainHandle`) do (`isolated_of_plainHandle`). But a hash is not checked to be one,
and behind every hash there are steps that lead nowhere: no handle that the store accepts has its
file to itself (`exists_not_isolated`).
-/

namespace Connect3Dp

namespace FileSystemMachineFileStore

variable (host : FileHost) (store : FileSystemMachineFileStore)

/-- The handles name another machine, or another hash if case is ignored. -/
def Differ (fileHandle other : MachineFileHandle) : Prop :=
  fileHandle.machineID ≠ other.machineID ∨ safeFileName host fileHandle ≠ safeFileName host other

/-- `Path.Combine(BasePath, NormalizeMachineId(MachineID))`. -/
def machineDirectory (fileHandle : MachineFileHandle) : Path :=
  Path.combine store.basePath (escapeDataString (fileHandle.machineID.getD ""))

/-- What `GetFilePath` takes the full path of. -/
def joined (fileHandle : MachineFileHandle) : Path :=
  let safeFileName := utf16 ((safeFileName host fileHandle).toOption.getD "")
  combined store (escapeDataString (fileHandle.machineID.getD "")) (safeFileName.take 2)
    safeFileName

/-- The file of a handle is in its machine's directory. -/
def Inside (fileHandle : MachineFileHandle) : Prop :=
  ∀ path, getFilePath host store fileHandle = .ok path →
    IsBelow (machineDirectory store fileHandle).nodes path.nodes

/-- No operation under another handle changes what is reported about the handle. -/
def Undisturbed (fileHandle other : MachineFileHandle) : Prop :=
  ∀ trouble operation disk trouble',
    reports host store trouble' fileHandle
        (diskAfter (run host store trouble other operation) disk) =
      reports host store trouble' fileHandle disk

/-- Two handles keep to the directories of their machines, and if they are of two machines or two
hashes, then to files of their own, and nothing done under one is noticed under the other. -/
structure Isolated (fileHandle other : MachineFileHandle) : Prop where
  inside : Inside host store fileHandle
  insideOther : Inside host store other
  separate : Differ host fileHandle other → ∀ path, getFilePath host store fileHandle = .ok path →
    getFilePath host store other ≠ .ok path
  undisturbed : Differ host fileHandle other → Undisturbed host store fileHandle other
  undisturbedOther : Differ host fileHandle other → Undisturbed host store other fileHandle

/-- The steps of the texts lead to the machine's directory and from there down. -/
def LeadsDown (fileHandle : MachineFileHandle) : Prop :=
  ∃ names, names ≠ [] ∧ (∀ name ∈ names, Path.IsName name) ∧
    Path.SamePlace (joined host store fileHandle).segments
      ((machineDirectory store fileHandle).segments ++ names)

/-- The steps of the texts lead to one place, and there, unless it is the root, both or neither of
the texts ends in a separator. -/
def LeadsAlike (fileHandle other : MachineFileHandle) : Prop :=
  Path.SamePlace (joined host store fileHandle).segments (joined host store other).segments ∧
    (Path.SamePlace (joined host store fileHandle).segments [] ∨
      Path.endsInSeparator (joined host store fileHandle) =
        Path.endsInSeparator (joined host store other))

/-- The texts of the handle are names: the machine is no step, and the hash has no separator and
does not start with the step to the directory above. -/
structure PlainHandle (fileHandle : MachineFileHandle) : Prop where
  machine : ∀ machineID, fileHandle.machineID = some machineID →
    machineID ≠ "" ∧ machineID ≠ "." ∧ machineID ≠ ".."
  hash : ∀ name, safeFileName host fileHandle = .ok name →
    Path.separator ∉ utf16 name ∧ ¬ [Path.dot, Path.dot] <+: utf16 name

variable {host : FileHost} {store : FileSystemMachineFileStore}
  {fileHandle other : MachineFileHandle} {path : Path}

/-! ### What the path is -/

theorem eq_of_checkFullPath {full : Path} (h : checkFullPath host store full = .ok path) :
    full = path := by
  unfold checkFullPath at h
  split at h
  · cases h
  · split at h
    · cases h
    · exact Except.ok.inj h

/-- A handle that is accepted, with its texts. -/
theorem exists_of_getFilePath (h : getFilePath host store fileHandle = .ok path) :
    ∃ machineID name, fileHandle.machineID = some machineID ∧
      safeFileName host fileHandle = .ok name ∧ 2 ≤ (utf16 name).length ∧
      Path.getFullPath (combined store (escapeDataString machineID) ((utf16 name).take 2)
        (utf16 name)) = .ok path := by
  obtain ⟨name, hname, h⟩ := bind_eq_ok_iff.mp h
  obtain ⟨subDir, hsubDir, h⟩ := bind_eq_ok_iff.mp h
  obtain ⟨machineId, hmachineId, h⟩ := bind_eq_ok_iff.mp h
  obtain ⟨full, hfull, h⟩ := bind_eq_ok_iff.mp h
  obtain rfl := eq_of_checkFullPath h
  unfold subDirOf at hsubDir
  split at hsubDir
  · cases hsubDir
  · cases hsubDir
    cases hmachine : fileHandle.machineID with
    | none =>
      rw [hmachine] at hmachineId
      cases hmachineId
    | some machineID =>
      rw [hmachine] at hmachineId
      cases hmachineId
      exact ⟨machineID, name, rfl, hname, by omega, hfull⟩

/-! ### Plain handles -/

theorem plain_escapeDataString {machineID : String}
    (h : machineID ≠ "" ∧ machineID ≠ "." ∧ machineID ≠ "..") :
    Path.Plain (escapeDataString machineID) where
  ne_nil heq := h.1 (escapeDataString_injective (heq.trans rfl))
  ne_dot heq := h.2.1 (escapeDataString_injective (heq.trans (by decide)))
  ne_dots heq := h.2.2 (escapeDataString_injective (heq.trans (by decide)))
  separator_notMem := slash_notMem_escapeDataString machineID

/-- A name of at least two code units, and its first two. -/
theorem plain_of_name {name : Path} (hlength : 2 ≤ name.length)
    (h : Path.separator ∉ name ∧ ¬ [Path.dot, Path.dot] <+: name) :
    Path.Plain name ∧ Path.Plain (name.take 2) := by
  obtain ⟨hseparator, hdots⟩ := h
  have htake : (name.take 2).length = 2 := List.length_take_of_le hlength
  refine ⟨⟨?_, ?_, ?_, hseparator⟩, ⟨?_, ?_, ?_, ?_⟩⟩
  · rintro rfl
    simp at hlength
  · rintro rfl
    simp at hlength
  · rintro rfl
    exact hdots (List.prefix_refl _)
  · intro heq
    rw [heq] at htake
    cases htake
  · intro heq
    rw [heq] at htake
    cases htake
  · intro heq
    exact hdots (heq ▸ List.take_prefix 2 name)
  · exact fun hmem => hseparator (List.mem_of_mem_take hmem)

/-- What a directory of the store is continued with: nothing or a separator. -/
theorem combine_combine {base segment next : Path} (hbase : base ≠ []) (hsegment : segment.Plain)
    (hnext : next.Plain) :
    Path.combine (Path.combine base segment) next =
      Path.combine base segment ++ Path.separator :: next := by
  rw [hnext.combine_eq (hsegment.combine_ne_nil base), hsegment.asDirectory_combine hbase,
    List.append_assoc, List.singleton_append]

/-- **The path of a plain handle** is the one that its texts are joined to. -/
theorem path_of_plainHandle (hplain : PlainHandle host fileHandle)
    (h : getFilePath host store fileHandle = .ok path) :
    ∃ machineID name, fileHandle.machineID = some machineID ∧
      safeFileName host fileHandle = .ok name ∧
      Path.Plain (escapeDataString machineID) ∧ Path.separator ∉ (utf16 name).take 2 ∧
      path = Path.combine store.basePath (escapeDataString machineID) ++
        Path.separator :: (utf16 name).take 2 ++ Path.separator :: utf16 name := by
  obtain ⟨machineID, name, hmachine, hname, hlength, hfull⟩ := exists_of_getFilePath h
  have hid : Path.Plain (escapeDataString machineID) :=
    plain_escapeDataString (hplain.machine machineID hmachine)
  obtain ⟨hfile, hsub⟩ := plain_of_name hlength (hplain.hash name hname)
  have hbase : store.basePath ≠ [] := store.isFull.ne_nil
  have hjoined : (combined store (escapeDataString machineID) ((utf16 name).take 2)
      (utf16 name)).IsFull := ((store.isFull.combine hid).combine hsub).combine hfile
  refine ⟨machineID, name, hmachine, hname, hid, hsub.separator_notMem, ?_⟩
  unfold Path.getFullPath at hfull
  split at hfull
  · cases hfull
  · rw [← Except.ok.inj hfull, hjoined.full, combined,
      combine_combine (hid.combine_ne_nil _) hsub hfile, combine_combine hbase hid hsub]

/-- Plain handles with one path are of one machine and one hash. -/
theorem not_differ_of_path (hplain : PlainHandle host fileHandle) (hother : PlainHandle host other)
    (h : getFilePath host store fileHandle = .ok path)
    (h' : getFilePath host store other = .ok path) : ¬ Differ host fileHandle other := by
  obtain ⟨id, name, hid, hname, hidPlain, hsub, hpath⟩ := path_of_plainHandle hplain h
  obtain ⟨id', name', hid', hname', hidPlain', hsub', hpath'⟩ := path_of_plainHandle hother h'
  have hbase : store.basePath ≠ [] := store.isFull.ne_nil
  have hjoin : escapeDataString id ++ Path.separator :: ((utf16 name).take 2 ++
      Path.separator :: utf16 name) = escapeDataString id' ++ Path.separator ::
        ((utf16 name').take 2 ++ Path.separator :: utf16 name') := by
    rw [hpath, hidPlain.combine_eq hbase, hidPlain'.combine_eq hbase] at hpath'
    simpa using hpath'
  obtain ⟨hmachine, hrest⟩ :=
    Path.append_separator_inj hidPlain.separator_notMem hidPlain'.separator_notMem hjoin
  obtain ⟨-, hfile⟩ := Path.append_separator_inj hsub hsub' hrest
  rintro (hne | hne)
  · exact hne (by rw [hid, hid', escapeDataString_injective hmachine])
  · exact hne (by rw [hname, hname', utf16_injective hfile])

/-! ### Hidden tails -/

/-- The handle with more behind its hash. -/
def withTail (fileHandle : MachineFileHandle) (tail : String) : MachineFileHandle :=
  { fileHandle with hashSHA256 := fileHandle.hashSHA256.map (· ++ tail) }

theorem getFilePath_eq {machineID name : String} (hmachine : fileHandle.machineID = some machineID)
    (hname : safeFileName host fileHandle = .ok name) (hlength : 2 ≤ (utf16 name).length) :
    getFilePath host store fileHandle =
      (Path.getFullPath (combined store (escapeDataString machineID) ((utf16 name).take 2)
        (utf16 name)) >>= checkFullPath host store) := by
  have hsub : subDirOf (utf16 name) = .ok ((utf16 name).take 2) := if_neg (by omega)
  rw [getFilePath, hname, hmachine]
  change (subDirOf (utf16 name) >>= fun subDir => _) = _
  rw [hsub]
  rfl

theorem safeFileName_withTail {name : String} (hname : safeFileName host fileHandle = .ok name)
    (tail : String) : safeFileName host (withTail fileHandle tail) =
      .ok (name ++ toLowerInvariant host.lower tail) := by
  unfold safeFileName at hname ⊢
  cases hhash : fileHandle.hashSHA256 with
  | none =>
    rw [hhash] at hname
    cases hname
  | some hash =>
    rw [hhash] at hname
    rw [← Except.ok.inj hname, ← toLowerInvariant_append, withTail, hhash]
    rfl

/-- **Every file of the store has more than one hash.** -/
theorem exists_same_path (h : getFilePath host store fileHandle = .ok path) :
    ∃ tail, Differ host fileHandle (withTail fileHandle tail) ∧
      getFilePath host store (withTail fileHandle tail) = .ok path := by
  obtain ⟨machineID, name, hmachine, hname, hlength, -⟩ := exists_of_getFilePath h
  let joined := combined store (escapeDataString machineID) ((utf16 name).take 2) (utf16 name)
  have hroot : Path.isPathRooted joined = true :=
    Path.isPathRooted_combine (Path.isPathRooted_combine
      (Path.isPathRooted_combine store.isFull.rooted _) _) _
  obtain ⟨tail, hlower, hunits, hne⟩ : ∃ tail : String, toLowerInvariant host.lower tail = tail ∧
      utf16 tail = Path.hiddenTail joined ∧ tail ≠ "" := by
    unfold Path.hiddenTail
    split
    · exact ⟨"/", rfl, rfl, by decide⟩
    · exact ⟨"/.", rfl, rfl, by decide⟩
  have hname' := safeFileName_withTail hname tail
  rw [hlower] at hname'
  have hunits' : utf16 (name ++ tail) = utf16 name ++ Path.hiddenTail joined := by
    rw [utf16_append, hunits]
  have hnil : utf16 name ≠ [] := by
    rintro heq
    rw [heq] at hlength
    cases hlength
  refine ⟨tail, .inr ?_, ?_⟩
  · rw [hname, hname']
    intro heq
    have hcancel := congrArg String.toList (Except.ok.inj heq)
    rw [String.toList_append, List.self_eq_append_right] at hcancel
    exact hne (String.toList_injective hcancel)
  · have hlength' : 2 ≤ (utf16 (name ++ tail)).length := by
      rw [hunits', List.length_append]
      omega
    have hlonger : getFilePath host store (withTail fileHandle tail) =
        (Path.getFullPath (combined store (escapeDataString machineID)
          ((utf16 (name ++ tail)).take 2) (utf16 (name ++ tail))) >>= checkFullPath host store) :=
      getFilePath_eq hmachine hname' hlength'
    rw [hlonger, hunits', List.take_append_of_le_length hlength, combined, Path.combine_append hnil,
      ← combined, Path.getFullPath_hiddenTail hroot, ← getFilePath_eq hmachine hname hlength, h]

/-! ### Isolation -/

theorem isPathRooted_joined (host : FileHost) (store : FileSystemMachineFileStore)
    (fileHandle : MachineFileHandle) :
    Path.isPathRooted (joined host store fileHandle) = true :=
  Path.isPathRooted_combine (Path.isPathRooted_combine
    (Path.isPathRooted_combine store.isFull.rooted _) _) _

/-- The path of a handle is the full path of its texts. -/
theorem path_eq (h : getFilePath host store fileHandle = .ok path) :
    path = Path.removeRelativeSegments (joined host store fileHandle) := by
  obtain ⟨machineID, name, hmachine, hname, -, hfull⟩ := exists_of_getFilePath h
  have hjoined : joined host store fileHandle =
      combined store (escapeDataString machineID) ((utf16 name).take 2) (utf16 name) := by
    rw [joined, hmachine, hname]
    rfl
  rw [hjoined]
  unfold Path.getFullPath at hfull
  split at hfull
  · cases hfull
  · exact (Except.ok.inj hfull).symm

/-- **A file is in its machine's directory** just when the texts lead there. -/
theorem inside_iff (h : getFilePath host store fileHandle = .ok path) :
    Inside host store fileHandle ↔ LeadsDown host store fileHandle := by
  have hnodes : path.nodes = (joined host store fileHandle).nodes := by
    rw [path_eq h, Path.nodes_removeRelativeSegments]
  have hnames : ∀ name ∈ path.nodes, Path.IsName name :=
    hnodes ▸ (Path.samePlace_resolve _).2
  constructor
  · intro hinside
    obtain ⟨names, hne, hbelow⟩ := isBelow_iff.mp (hinside path h)
    have hisName : ∀ name ∈ names, Path.IsName name := fun name hname =>
      hnames name (hbelow ▸ List.mem_append_right _ hname)
    refine ⟨names, hne, hisName, Path.samePlace_iff.mpr ?_⟩
    rw [Path.resolve_append_names hisName]
    exact hnodes.symm.trans hbelow
  · rintro ⟨names, hne, hisName, hsame⟩ path' h'
    obtain rfl := Except.ok.inj (h.symm.trans h')
    rw [Path.samePlace_iff, Path.resolve_append_names hisName] at hsame
    exact isBelow_iff.mpr ⟨names, hne, hnodes.trans hsame⟩

/-- **Two handles have one path** just when their texts lead alike. -/
theorem path_eq_iff {path' : Path} (h : getFilePath host store fileHandle = .ok path)
    (h' : getFilePath host store other = .ok path') :
    path = path' ↔ LeadsAlike host store fileHandle other := by
  rw [path_eq h, path_eq h', Path.removeRelativeSegments_eq_iff (isPathRooted_joined ..)
    (isPathRooted_joined ..), LeadsAlike, Path.samePlace_iff, Path.samePlace_iff]
  rfl

/-- What happens to one file is not noticed at another. -/
theorem undisturbed_of_ne {path' : Path} (h : getFilePath host store fileHandle = .ok path)
    (h' : getFilePath host store other = .ok path') (hne : path ≠ path') :
    Undisturbed host store fileHandle other := by
  intro trouble operation disk trouble'
  refine reports_congr trouble' fun p hp => ?_
  refine run_of_ne trouble operation disk fun p' hp' heq => ?_
  obtain ⟨-, -, hp⟩ := bind_eq_ok_iff.mp hp
  obtain ⟨-, -, hp'⟩ := bind_eq_ok_iff.mp hp'
  obtain rfl := Except.ok.inj (h.symm.trans hp)
  obtain rfl := Except.ok.inj (h'.symm.trans hp')
  exact hne heq

/-- Handles with two paths are isolated if each is inside its machine's directory. -/
theorem isolated_of_ne {path' : Path} (h : getFilePath host store fileHandle = .ok path)
    (h' : getFilePath host store other = .ok path') (hinside : Inside host store fileHandle)
    (hinsideOther : Inside host store other) (hne : Differ host fileHandle other → path ≠ path') :
    Isolated host store fileHandle other where
  inside := hinside
  insideOther := hinsideOther
  separate hdiffer p hp hp' := by
    obtain rfl := Except.ok.inj (h.symm.trans hp)
    exact hne hdiffer (Except.ok.inj (hp'.symm.trans h'))
  undisturbed hdiffer := undisturbed_of_ne h h' (hne hdiffer)
  undisturbedOther hdiffer := undisturbed_of_ne h' h (hne hdiffer).symm

/-- **Two handles that the store accepts are isolated** just when the texts of each lead down from
its machine's directory and, unless machine and hash are the same, do not lead alike. -/
theorem isolated_iff {path' : Path} (h : getFilePath host store fileHandle = .ok path)
    (h' : getFilePath host store other = .ok path') :
    Isolated host store fileHandle other ↔
      LeadsDown host store fileHandle ∧ LeadsDown host store other ∧
        (Differ host fileHandle other → ¬ LeadsAlike host store fileHandle other) := by
  rw [← inside_iff h, ← inside_iff h']
  constructor
  · intro hisolated
    refine ⟨hisolated.inside, hisolated.insideOther, fun hdiffer halike => ?_⟩
    obtain rfl := (path_eq_iff h h').mpr halike
    exact hisolated.separate hdiffer path h h'
  · rintro ⟨hinside, hinsideOther, hapart⟩
    exact isolated_of_ne h h' hinside hinsideOther fun hdiffer heq =>
      hapart hdiffer ((path_eq_iff h h').mp heq)

/-- A host of ASCII texts. -/
private def asciiHost : FileHost := ⟨id, fun text part => part.isPrefixOf text, fun _ => ""⟩

private theorem isFull_files : Path.IsFull (utf16 "/files") := ⟨by decide, by decide⟩

private def files : FileSystemMachineFileStore := ⟨utf16 "/files", false, isFull_files⟩

/-- A file of one printer. -/
private def victim : MachineFileHandle :=
  ⟨some "m", some "a.gcode", some "text/x-gcode", some "abcd"⟩

/-- A handle of the same printer, with a hash that takes a directory of its own. -/
private def nested : MachineFileHandle :=
  ⟨some "m", some "a.gcode", some "text/x-gcode", some "ab/cd"⟩

/-- A handle of another printer whose hash steps out of its directory. -/
private def intruder : MachineFileHandle :=
  ⟨some "x", some "a.gcode", some "text/x-gcode", some "ab/../../../m/ab/abcd"⟩

/-- A hash with a separator in it, and one that starts alike. -/
theorem isolated_iff_nested : Isolated asciiHost files victim nested := by
  have hvictim : getFilePath asciiHost files victim = .ok (utf16 "/files/m/ab/abcd") := by
    decide +kernel
  have hnested : getFilePath asciiHost files nested = .ok (utf16 "/files/m/ab/ab/cd") := by
    decide +kernel
  refine (isolated_iff hvictim hnested).mpr ⟨?_, ?_, fun _ halike => ?_⟩
  · exact ⟨[utf16 "ab", utf16 "abcd"], by simp, by decide +kernel,
      Path.samePlace_iff.mpr (by decide +kernel)⟩
  · exact ⟨[utf16 "ab", utf16 "ab", utf16 "cd"], by simp, by decide +kernel,
      Path.samePlace_iff.mpr (by decide +kernel)⟩
  · exact absurd (Path.samePlace_iff.mp halike.1) (by decide +kernel)

/-- The handle of one printer reaches the file of another. -/
theorem isolated_fails :
    ¬ ∀ (host : FileHost) (store : FileSystemMachineFileStore)
      (fileHandle other : MachineFileHandle), Isolated host store fileHandle other := by
  intro hall
  have hmachine : victim.machineID ≠ intruder.machineID := by decide
  have hvictim : getFilePath asciiHost files victim = .ok (utf16 "/files/m/ab/abcd") := by
    decide +kernel
  have hintruder : getFilePath asciiHost files intruder = .ok (utf16 "/files/m/ab/abcd") := by
    decide +kernel
  exact (hall asciiHost files victim intruder).separate (.inl hmachine) _ hvictim hintruder

/-- The file of a plain handle is two names below its machine's directory. -/
theorem inside_of_plainHandle (hplain : PlainHandle host fileHandle) :
    Inside host store fileHandle := by
  intro path h
  obtain ⟨machineID, name, hmachine, hname, hlength, -⟩ := exists_of_getFilePath h
  have hid : Path.Plain (escapeDataString machineID) :=
    plain_escapeDataString (hplain.machine machineID hmachine)
  obtain ⟨hfile, hsub⟩ := plain_of_name hlength (hplain.hash name hname)
  have hjoined : joined host store fileHandle = Path.combine (Path.combine
      (machineDirectory store fileHandle) ((utf16 name).take 2)) (utf16 name) := by
    rw [joined, machineDirectory, hmachine, hname]
    rfl
  have hdirectory : machineDirectory store fileHandle ≠ [] := by
    rw [machineDirectory, hmachine]
    exact hid.combine_ne_nil store.basePath
  rw [isBelow_iff, path_eq h, Path.nodes_removeRelativeSegments, hjoined,
    Path.nodes_combine_plain (hsub.combine_ne_nil _) hfile,
    Path.nodes_combine_plain hdirectory hsub, List.append_assoc]
  exact ⟨_, by simp, rfl⟩

/-- **Plain handles are isolated.** -/
theorem isolated_of_plainHandle {path' : Path} (hplain : PlainHandle host fileHandle)
    (hother : PlainHandle host other) (h : getFilePath host store fileHandle = .ok path)
    (h' : getFilePath host store other = .ok path') : Isolated host store fileHandle other := by
  refine isolated_of_ne h h' (inside_of_plainHandle hplain) (inside_of_plainHandle hother) ?_
  rintro hdiffer rfl
  exact not_differ_of_path hplain hother h h' hdiffer

/-- **No handle is isolated from all others.** -/
theorem exists_not_isolated (h : getFilePath host store fileHandle = .ok path) :
    ∃ other, getFilePath host store other = .ok path ∧ ¬ Isolated host store fileHandle other := by
  obtain ⟨tail, hdiffer, hpath⟩ := exists_same_path h
  exact ⟨_, hpath, fun hisolated => hisolated.separate hdiffer path h hpath⟩

end FileSystemMachineFileStore

end Connect3Dp
