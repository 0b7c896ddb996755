import Connect3Dp.Builder.Faulting
import Connect3Dp.Runtime.Paths
import Connect3Dp.Runtime.Values

/-!
# Directory trees

What a file system looks like to a program that walks it. A directory has files, links and
directories in it, and a place is given by the names from the root down to it. A link that leads to
a directory is entered like one, as long as the file system follows links on the way, and is a file
otherwise (`Entry.meet`). So a walk can meet one file under several names, and files outside of the
directory that it starts from.

The walk of `SearchOption.AllDirectories` raises when the file system refuses to list one of the
directories, and else it meets just what can be reached (`Spot.walk_spec`). Deleting a file takes it
from the files of the tree and nothing else (`mem_allFiles_deleteFile`), and cleaning up takes
directories and links to them only (`mem_allFiles_cleanupEmptyDirectories`).
-/

namespace Connect3Dp

/-- What `FileInfo` tells about a file. -/
structure FileAttributes where
  length : Int64
  creationTimeUtc : DateTime
  lastAccessTimeUtc : DateTime
  deriving DecidableEq, Inhabited

/-- A file, by the name that it is met under and by the place where it is. -/
structure FoundFile where
  fullName : List Path
  place : List Path
  attributes : FileAttributes
  deriving DecidableEq, Inhabited

/-- The entries of a directory, one after another. A link has the place where it ends, after all
other links on its way. -/
inductive Directory
  | empty
  | file (name : Path) (attributes : FileAttributes) (rest : Directory)
  | link (name : Path) (attributes : FileAttributes) (target : List Path) (rest : Directory)
  | subdirectory (name : Path) (entries rest : Directory)
  deriving DecidableEq, Inhabited

/-- One entry of a directory. -/
inductive Entry
  | file (name : Path) (attributes : FileAttributes)
  | link (name : Path) (attributes : FileAttributes) (target : List Path)
  | subdirectory (name : Path) (entries : Directory)
  deriving DecidableEq

def Entry.name : Entry → Path
  | file name _ => name
  | link name _ _ => name
  | subdirectory name _ => name

/-- A directory on the way of a walk, with the number of links that the file system follows behind
it. -/
structure Spot where
  fullName : List Path
  place : List Path
  entries : Directory
  links : ℕ
  deriving DecidableEq

/-- What an entry is to a walk. -/
inductive Met
  | file (f : FoundFile)
  | directory (spot : Spot)
  deriving DecidableEq

/-- What a walk returns: the files and, each after its entries, the directories, with the place of
the entry and the place that it leads to. -/
inductive Found
  | file (f : FoundFile)
  | directory (fullName place target : List Path)
  deriving DecidableEq

namespace Directory

def list : Directory → List Entry
  | empty => []
  | file name attributes rest => .file name attributes :: rest.list
  | link name attributes target rest => .link name attributes target :: rest.list
  | subdirectory name entries rest => .subdirectory name entries :: rest.list

/-- The entries of the directory at a place below. -/
def entriesAt : Directory → List Path → Option Directory
  | d, [] => some d
  | empty, _ :: _ => none
  | file _ _ rest, names => rest.entriesAt names
  | link _ _ _ rest, names => rest.entriesAt names
  | subdirectory name entries rest, next :: names =>
    (if name = next then entries.entriesAt names else none).or (rest.entriesAt (next :: names))

def isDirectory (root : Directory) (place : List Path) : Bool := (root.entriesAt place).isSome

end Directory

/-- What an entry of a directory is to a walk. -/
def Entry.meet (root : Directory) (fullName place : List Path) (links : ℕ) : Entry → Met
  | file name attributes => .file ⟨fullName ++ [name], place ++ [name], attributes⟩
  | subdirectory name entries =>
    .directory ⟨fullName ++ [name], place ++ [name], entries, links⟩
  | link name attributes target =>
    match root.entriesAt target, links with
    | some entries, links + 1 => .directory ⟨fullName ++ [name], target, entries, links⟩
    | _, _ => .file ⟨fullName ++ [name], place ++ [name], attributes⟩

/-- The directory of a name in a directory. -/
def Spot.enter (root : Directory) (s : Spot) (name : Path) : Option Spot :=
  match s.entries.list.find? (·.name = name) with
  | some entry =>
    match entry.meet root s.fullName s.place s.links with
    | .directory t => some t
    | .file _ => none
  | none => none

namespace Directory

/-- The directory that a path leads to. It is there if `Directory.Exists` says so. -/
def openDirectory (root : Directory) (links : ℕ) (path : List Path) : Option Spot :=
  path.foldlM (Spot.enter root) ⟨[], [], root, links⟩

/-- A directory that is listed, unless the file system refuses. -/
def listing (refused : List Path → Option Fault) (fullName : List Path)
    (found : Except Fault (List Found)) : Except Fault (List Found) :=
  match refused fullName with
  | some e => .error e
  | none => found

/-- The walk through a directory that is met, with the directory itself after its entries. -/
def entered (refused : List Path → Option Fault) (fullName place target : List Path)
    (found : Except Fault (List Found)) : Except Fault (List Found) := do
  return (← listing refused fullName found) ++ [.directory fullName place target]

/-- The walk at a link, which is a file if it is not followed to a directory. -/
def atLink (refused : List Path → Option Fault)
    (follow : Option (List Path → List Path → Directory → Except Fault (List Found)))
    (f : FoundFile) (target : List Path) (entries : Option Directory) :
    Except Fault (List Found) :=
  match entries, follow with
  | some entries, some follow =>
    entered refused f.fullName f.place target (follow f.fullName target entries)
  | _, _ => .ok [.file f]

/-- The walk through the entries of a directory, by the walk behind a link if one is followed. -/
def walkWith (root : Directory) (refused : List Path → Option Fault)
    (follow : Option (List Path → List Path → Directory → Except Fault (List Found)))
    (fullName place : List Path) : Directory → Except Fault (List Found)
  | empty => .ok []
  | file name attributes rest => do
    let found := [.file ⟨fullName ++ [name], place ++ [name], attributes⟩]
    return found ++ (← walkWith root refused follow fullName place rest)
  | link name attributes target rest => do
    let found ← atLink refused follow ⟨fullName ++ [name], place ++ [name], attributes⟩ target
      (root.entriesAt target)
    return found ++ (← walkWith root refused follow fullName place rest)
  | subdirectory name entries rest => do
    let found ← entered refused (fullName ++ [name]) (place ++ [name]) (place ++ [name])
      (walkWith root refused follow (fullName ++ [name]) (place ++ [name]) entries)
    return found ++ (← walkWith root refused follow fullName place rest)

/-- The walk through the entries of a directory. -/
def walk (root : Directory) (refused : List Path → Option Fault) :
    ℕ → List Path → List Path → Directory → Except Fault (List Found)
  | 0 => walkWith root refused none
  | links + 1 => walkWith root refused (some (walk root refused links))

end Directory

/-- The walk of `SearchOption.AllDirectories`. -/
def Spot.walk (root : Directory) (refused : List Path → Option Fault) (s : Spot) :
    Except Fault (List Found) :=
  Directory.listing refused s.fullName
    (Directory.walk root refused s.links s.fullName s.place s.entries)

def filesFound (found : List Found) : List FoundFile :=
  found.filterMap fun
    | .file f => some f
    | .directory .. => none

/-- `Directory.GetFiles(path, "*", SearchOption.AllDirectories)`. -/
def Spot.getFiles (root : Directory) (refused : List Path → Option Fault) (s : Spot) :
    Except Fault (List FoundFile) :=
  filesFound <$> s.walk root refused

namespace Directory

/-- The files in a directory and in the directories below it, by their places. -/
def files (isDirectory : List Path → Bool) (place : List Path) : Directory → List FoundFile
  | empty => []
  | file name attributes rest =>
    ⟨place ++ [name], place ++ [name], attributes⟩ :: rest.files isDirectory place
  | link name attributes target rest =>
    if isDirectory target then rest.files isDirectory place
    else ⟨place ++ [name], place ++ [name], attributes⟩ :: rest.files isDirectory place
  | subdirectory name entries rest =>
    entries.files isDirectory (place ++ [name]) ++ rest.files isDirectory place

/-- All files of a file system. -/
def allFiles (root : Directory) : List FoundFile := root.files root.isDirectory []

/-- The files in a directory and in the directories below it, and all links. -/
def leaves (place : List Path) : Directory → List FoundFile
  | empty => []
  | file name attributes rest =>
    ⟨place ++ [name], place ++ [name], attributes⟩ :: rest.leaves place
  | link name attributes _ rest =>
    ⟨place ++ [name], place ++ [name], attributes⟩ :: rest.leaves place
  | subdirectory name entries rest => entries.leaves (place ++ [name]) ++ rest.leaves place

/-- `File.Delete`, which does not follow a link that it is asked to delete. -/
def deleteFile (deleted place : List Path) : Directory → Directory
  | empty => empty
  | file name attributes rest =>
    if place ++ [name] = deleted then rest.deleteFile deleted place
    else file name attributes (rest.deleteFile deleted place)
  | link name attributes target rest =>
    if place ++ [name] = deleted then rest.deleteFile deleted place
    else link name attributes target (rest.deleteFile deleted place)
  | subdirectory name entries rest =>
    subdirectory name (entries.deleteFile deleted (place ++ [name]))
      (rest.deleteFile deleted place)

/-- `Directory.Delete`, of an empty directory or of a link to one. -/
def deleteDirectory (deleted leadsTo place : List Path) : Directory → Directory
  | empty => empty
  | file name attributes rest => file name attributes (rest.deleteDirectory deleted leadsTo place)
  | link name attributes target rest =>
    if place ++ [name] = deleted ∧ target = leadsTo then rest.deleteDirectory deleted leadsTo place
    else link name attributes target (rest.deleteDirectory deleted leadsTo place)
  | subdirectory name entries rest =>
    if place ++ [name] = deleted ∧ entries = empty then rest.deleteDirectory deleted leadsTo place
    else subdirectory name (entries.deleteDirectory deleted leadsTo (place ++ [name]))
      (rest.deleteDirectory deleted leadsTo place)

/-- `CleanupEmptyDirectories` at one of the directories that it walks through. -/
def removeEmpty (refused : List Path → Bool) (root : Directory) : Found → Directory
  | .file _ => root
  | .directory fullName place target =>
    if root.entriesAt target = some empty ∧ refused fullName = false then
      root.deleteDirectory place target []
    else root

/-- `CleanupEmptyDirectories`. A directory that cannot be deleted stays. -/
def cleanupEmptyDirectories (refused : List Path → Bool) (found : List Found)
    (root : Directory) : Directory :=
  found.foldl (removeEmpty refused) root

/-! ### What is left of the files -/

theorem entriesAt_deleteFile (deleted place : List Path) (d : Directory) (names : List Path) :
    (d.deleteFile deleted place).entriesAt names =
      (d.entriesAt names).map fun e => e.deleteFile deleted (place ++ names) := by
  induction d generalizing place names with
  | empty => cases names <;> simp [deleteFile, entriesAt]
  | file name attributes rest ih =>
    cases names with
    | nil => simp [entriesAt]
    | cons next names =>
      rw [deleteFile]
      split <;> simp only [entriesAt, ih]
  | link name attributes target rest ih =>
    cases names with
    | nil => simp [entriesAt]
    | cons next names =>
      rw [deleteFile]
      split <;> simp only [entriesAt, ih]
  | subdirectory name entries rest ihEntries ihRest =>
    cases names with
    | nil => simp [entriesAt]
    | cons next names =>
      simp only [deleteFile, entriesAt, ihEntries, ihRest]
      by_cases h : name = next
      · subst h
        cases entries.entriesAt names <;> simp
      · simp [h]

theorem isDirectory_deleteFile (root : Directory) (deleted : List Path) :
    (root.deleteFile deleted []).isDirectory = root.isDirectory := by
  funext place
  rw [isDirectory, entriesAt_deleteFile, Option.isSome_map, isDirectory]

theorem files_deleteFile (isDirectory : List Path → Bool) (deleted place : List Path)
    (d : Directory) : (d.deleteFile deleted place).files isDirectory place =
      (d.files isDirectory place).filter fun f => f.place ≠ deleted := by
  induction d generalizing place with
  | empty => rfl
  | file name attributes rest ih =>
    rw [deleteFile, files]
    split
    · next h => rw [List.filter_cons_of_neg (by simpa using h), ih]
    · next h => rw [files, List.filter_cons_of_pos (by simpa using h), ih]
  | link name attributes target rest ih =>
    rw [deleteFile, files]
    by_cases htarget : isDirectory target = true
    · rw [if_pos htarget]
      split
      · exact ih place
      · rw [files, if_pos htarget, ih]
    · rw [if_neg htarget]
      split
      · next h => rw [List.filter_cons_of_neg (by simpa using h), ih]
      · next h => rw [files, if_neg htarget, List.filter_cons_of_pos (by simpa using h), ih]
  | subdirectory name entries rest ihEntries ihRest =>
    rw [deleteFile, files, files, List.filter_append, ihEntries, ihRest]

theorem leaves_deleteFile (deleted place : List Path) (d : Directory) :
    (d.deleteFile deleted place).leaves place =
      (d.leaves place).filter fun f => f.place ≠ deleted := by
  induction d generalizing place with
  | empty => rfl
  | file name attributes rest ih =>
    rw [deleteFile, leaves]
    split
    · next h => rw [List.filter_cons_of_neg (by simpa using h), ih]
    · next h => rw [leaves, List.filter_cons_of_pos (by simpa using h), ih]
  | link name attributes target rest ih =>
    rw [deleteFile, leaves]
    split
    · next h => rw [List.filter_cons_of_neg (by simpa using h), ih]
    · next h => rw [leaves, List.filter_cons_of_pos (by simpa using h), ih]
  | subdirectory name entries rest ihEntries ihRest =>
    rw [deleteFile, leaves, leaves, List.filter_append, ihEntries, ihRest]

theorem mem_leaves_of_mem_files {isDirectory : List Path → Bool} {place : List Path}
    {d : Directory} {f : FoundFile} (h : f ∈ d.files isDirectory place) : f ∈ d.leaves place := by
  induction d generalizing place with
  | empty => cases h
  | file name attributes rest ih =>
    obtain rfl | h := List.mem_cons.mp h
    · exact List.mem_cons_self
    · exact List.mem_cons_of_mem _ (ih h)
  | link name attributes target rest ih =>
    rw [files] at h
    split at h
    · exact List.mem_cons_of_mem _ (ih h)
    · obtain rfl | h := List.mem_cons.mp h
      · exact List.mem_cons_self
      · exact List.mem_cons_of_mem _ (ih h)
  | subdirectory name entries rest ihEntries ihRest =>
    exact List.mem_append.mpr ((List.mem_append.mp h).imp ihEntries ihRest)

theorem mem_allFiles_deleteFile {root : Directory} {deleted : List Path} {f : FoundFile} :
    f ∈ (root.deleteFile deleted []).allFiles ↔ f ∈ root.allFiles ∧ f.place ≠ deleted := by
  rw [allFiles, isDirectory_deleteFile, files_deleteFile, List.mem_filter, decide_eq_true_iff,
    allFiles]

theorem isSome_entriesAt_of_deleteDirectory {deleted leadsTo place names : List Path}
    {d : Directory} (h : ((d.deleteDirectory deleted leadsTo place).entriesAt names).isSome) :
    (d.entriesAt names).isSome := by
  induction d generalizing place names with
  | empty => exact h
  | file name attributes rest ih =>
    cases names with
    | nil => rfl
    | cons next names => exact ih h
  | link name attributes target rest ih =>
    cases names with
    | nil => rfl
    | cons next names =>
      rw [deleteDirectory] at h
      split at h
      · exact ih h
      · exact ih h
  | subdirectory name entries rest ihEntries ihRest =>
    cases names with
    | nil => rfl
    | cons next names =>
      rw [entriesAt, Option.isSome_or]
      rw [deleteDirectory] at h
      split at h
      · exact Bool.or_eq_true_iff.mpr (.inr (ihRest h))
      · rw [entriesAt, Option.isSome_or] at h
        refine Bool.or_eq_true_iff.mpr ((Bool.or_eq_true_iff.mp h).imp (fun h => ?_) ihRest)
        split at h
        · next hname => rw [if_pos hname]; exact ihEntries h
        · cases h

/-- Deleting empty directories takes no file. -/
theorem mem_files_deleteDirectory {isDirectory isDirectory' : List Path → Bool}
    {deleted leadsTo place : List Path} {d : Directory} {f : FoundFile}
    (hdirectory : ∀ place, isDirectory' place = true → isDirectory place = true)
    (hleadsTo : isDirectory leadsTo = true) (h : f ∈ d.files isDirectory place) :
    f ∈ (d.deleteDirectory deleted leadsTo place).files isDirectory' place := by
  induction d generalizing place with
  | empty => cases h
  | file name attributes rest ih =>
    obtain rfl | h := List.mem_cons.mp h
    · exact List.mem_cons_self
    · exact List.mem_cons_of_mem _ (ih h)
  | link name attributes target rest ih =>
    rw [files] at h
    rw [deleteDirectory]
    split at h
    · split
      · exact ih h
      · rw [files]
        split
        · exact ih h
        · exact List.mem_cons_of_mem _ (ih h)
    · next hfile =>
      rw [if_neg (by rintro ⟨-, rfl⟩; exact hfile hleadsTo), files,
        if_neg (fun hlink => hfile (hdirectory target hlink))]
      obtain rfl | h := List.mem_cons.mp h
      · exact List.mem_cons_self
      · exact List.mem_cons_of_mem _ (ih h)
  | subdirectory name entries rest ihEntries ihRest =>
    obtain h | h := List.mem_append.mp h
    · have hne : entries ≠ empty := by
        rintro rfl
        cases h
      rw [deleteDirectory, if_neg (fun hempty => hne hempty.2)]
      exact List.mem_append_left _ (ihEntries h)
    · rw [deleteDirectory]
      split
      · exact ihRest h
      · exact List.mem_append_right _ (ihRest h)

theorem mem_leaves_of_deleteDirectory {deleted leadsTo place : List Path} {d : Directory}
    {f : FoundFile} (h : f ∈ (d.deleteDirectory deleted leadsTo place).leaves place) :
    f ∈ d.leaves place := by
  induction d generalizing place with
  | empty => exact h
  | file name attributes rest ih =>
    exact List.mem_cons.mpr ((List.mem_cons.mp h).imp id ih)
  | link name attributes target rest ih =>
    rw [deleteDirectory] at h
    split at h
    · exact List.mem_cons_of_mem _ (ih h)
    · exact List.mem_cons.mpr ((List.mem_cons.mp h).imp id ih)
  | subdirectory name entries rest ihEntries ihRest =>
    rw [deleteDirectory] at h
    split at h
    · exact List.mem_append_right _ (ihRest h)
    · exact List.mem_append.mpr ((List.mem_append.mp h).imp ihEntries ihRest)

variable {refused : List Path → Bool} {found : List Found} {root : Directory} {f : FoundFile}

theorem mem_allFiles_removeEmpty {entry : Found} (h : f ∈ root.allFiles) :
    f ∈ (removeEmpty refused root entry).allFiles := by
  cases entry with
  | file g => exact h
  | directory fullName place target =>
    rw [removeEmpty]
    split
    · next hempty =>
      have hleadsTo : root.isDirectory target = true := by rw [isDirectory, hempty.1]; rfl
      exact mem_files_deleteDirectory (fun _ => isSome_entriesAt_of_deleteDirectory) hleadsTo h
    · exact h

theorem mem_leaves_of_removeEmpty {entry : Found}
    (h : f ∈ (removeEmpty refused root entry).leaves []) : f ∈ root.leaves [] := by
  cases entry with
  | file g => exact h
  | directory fullName place target =>
    rw [removeEmpty] at h
    split at h
    · exact mem_leaves_of_deleteDirectory h
    · exact h

/-- Cleaning up takes no file. -/
theorem mem_allFiles_cleanupEmptyDirectories (h : f ∈ root.allFiles) :
    f ∈ (root.cleanupEmptyDirectories refused found).allFiles := by
  induction found generalizing root with
  | nil => exact h
  | cons entry found ih => exact ih (mem_allFiles_removeEmpty h)

theorem mem_leaves_of_cleanupEmptyDirectories
    (h : f ∈ (root.cleanupEmptyDirectories refused found).leaves []) : f ∈ root.leaves [] := by
  induction found generalizing root with
  | nil => exact h
  | cons entry found ih => exact mem_leaves_of_removeEmpty (ih h)

end Directory

/-! ### What a walk meets -/

/-- What the entries of a directory are to a walk. -/
def Spot.Has (root : Directory) (s : Spot) (met : Met) : Prop :=
  ∃ entry ∈ s.entries.list, entry.meet root s.fullName s.place s.links = met

/-- A directory can be entered from another. -/
def Spot.Leads (root : Directory) (s t : Spot) : Prop := s.Has root (.directory t)

def Spot.Reaches (root : Directory) : Spot → Spot → Prop := Relation.ReflTransGen (Spot.Leads root)

/-- The file system lists all directories that can be reached. -/
def Spot.Listable (root : Directory) (refused : List Path → Option Fault) (s : Spot) : Prop :=
  ∀ t, s.Reaches root t → refused t.fullName = none

/-- A file is in a directory that can be reached. -/
def Spot.Meets (root : Directory) (s : Spot) (f : FoundFile) : Prop :=
  ∃ t, s.Reaches root t ∧ t.Has root (.file f)

/-- What is asked of the directories behind an entry. -/
def Met.Listable (root : Directory) (refused : List Path → Option Fault) : Met → Prop
  | file _ => True
  | directory t => t.Listable root refused

/-- The files behind an entry. -/
def Met.Gives (root : Directory) : Met → FoundFile → Prop
  | file g => fun f => f = g
  | directory t => t.Meets root

namespace Spot

variable {root : Directory} {refused : List Path → Option Fault} {s t : Spot} {f : FoundFile}

theorem listable_iff : s.Listable root refused ↔ refused s.fullName = none ∧
    ∀ met, s.Has root met → met.Listable root refused := by
  constructor
  · intro h
    refine ⟨h s .refl, fun met hmet => ?_⟩
    cases met with
    | file g => trivial
    | directory t => exact fun u hreaches => h u (.head hmet hreaches)
  · rintro ⟨hself, hmet⟩ t hreaches
    obtain rfl | ⟨u, hleads, hreaches⟩ := Relation.ReflTransGen.cases_head hreaches
    · exact hself
    · exact hmet _ hleads t hreaches

theorem meets_iff : s.Meets root f ↔ ∃ met, s.Has root met ∧ met.Gives root f := by
  constructor
  · rintro ⟨t, hreaches, hfile⟩
    obtain rfl | ⟨u, hleads, hreaches⟩ := Relation.ReflTransGen.cases_head hreaches
    · exact ⟨.file f, hfile, rfl⟩
    · exact ⟨.directory u, hleads, t, hreaches, hfile⟩
  · rintro ⟨met, hmet, hgives⟩
    cases met with
    | file g =>
      obtain rfl : f = g := hgives
      exact ⟨s, .refl, hmet⟩
    | directory u =>
      obtain ⟨t, hreaches, hfile⟩ := hgives
      exact ⟨t, .head hmet hreaches, hfile⟩

end Spot

/-- A walk returns if it can, and then the files that it can meet. -/
structure WalkSpec (listable : Prop) (gives : FoundFile → Prop)
    (result : Except Fault (List Found)) : Prop where
  returns_iff : (∃ found, result = .ok found) ↔ listable
  mem_iff : ∀ found, result = .ok found → ∀ f, .file f ∈ found ↔ gives f

namespace WalkSpec

variable {listable listable' : Prop} {gives gives' : FoundFile → Prop}
  {result result' : Except Fault (List Found)}

theorem congr (h : WalkSpec listable gives result) (hlistable : listable' ↔ listable)
    (hgives : ∀ f, gives' f ↔ gives f) : WalkSpec listable' gives' result :=
  ⟨h.returns_iff.trans hlistable.symm, fun found hfound f =>
    (h.mem_iff found hfound f).trans (hgives f).symm⟩

theorem append (h : WalkSpec listable gives result) (h' : WalkSpec listable' gives' result') :
    WalkSpec (listable ∧ listable') (fun f => gives f ∨ gives' f)
      (do return (← result) ++ (← result')) := by
  rw [← h.returns_iff, ← h'.returns_iff]
  constructor
  · cases result <;> cases result' <;> simp [bind, Except.bind, pure, Except.pure]
  · intro found hfound f
    obtain ⟨first, hfirst, hrest⟩ := bind_eq_ok_iff.mp hfound
    obtain ⟨second, hsecond, hboth⟩ := bind_eq_ok_iff.mp hrest
    obtain rfl := Except.ok.inj hboth
    rw [List.mem_append, h.mem_iff first hfirst, h'.mem_iff second hsecond]

theorem listing (h : WalkSpec listable gives result) (refused : List Path → Option Fault)
    (fullName : List Path) : WalkSpec (refused fullName = none ∧ listable) gives
      (Directory.listing refused fullName result) := by
  unfold Directory.listing
  cases refused fullName with
  | none => exact h.congr (by simp) fun _ => .rfl
  | some e => exact ⟨by simp, nofun⟩

theorem entered (h : WalkSpec listable gives result) (refused : List Path → Option Fault)
    (fullName place target : List Path) : WalkSpec (refused fullName = none ∧ listable) gives
      (Directory.entered refused fullName place target result) := by
  have hdirectory : WalkSpec True (fun _ => False)
      (.ok [.directory fullName place target]) := ⟨by simp, by rintro found ⟨⟩ f; simp⟩
  exact ((h.listing refused fullName).append hdirectory).congr (by simp) fun f => by simp

end WalkSpec

namespace Directory

variable {root : Directory} {refused : List Path → Option Fault} {links : ℕ}
  {fullName place : List Path}

/-- What a walk through the entries of a directory is to do. -/
def EntriesSpec (root : Directory) (refused : List Path → Option Fault) (links : ℕ)
    (fullName place : List Path) (d : Directory) (result : Except Fault (List Found)) : Prop :=
  WalkSpec (∀ entry ∈ d.list, (entry.meet root fullName place links).Listable root refused)
    (fun f => ∃ entry ∈ d.list, (entry.meet root fullName place links).Gives root f) result

/-- The walk behind a link is right, if links are followed. -/
def FollowSpec (root : Directory) (refused : List Path → Option Fault) :
    ℕ → Option (List Path → List Path → Directory → Except Fault (List Found)) → Prop
  | 0, follow => follow = none
  | links + 1, follow => ∃ behind, follow = some behind ∧ ∀ fullName place d,
    EntriesSpec root refused links fullName place d (behind fullName place d)

/-- A walk into a directory, from the walk through its entries. -/
theorem EntriesSpec.entered {d : Directory} {result : Except Fault (List Found)}
    (h : EntriesSpec root refused links fullName place d result) (entryPlace target : List Path) :
    WalkSpec ((Met.directory ⟨fullName, place, d, links⟩).Listable root refused)
      ((Met.directory ⟨fullName, place, d, links⟩).Gives root)
      (entered refused fullName entryPlace target result) :=
  (WalkSpec.entered h refused fullName entryPlace target).congr
    (Spot.listable_iff.trans (by simp [Spot.Has]))
    fun f => Spot.meets_iff.trans (by simp [Spot.Has])

theorem walkSpec_file (f : FoundFile) : WalkSpec ((Met.file f).Listable root refused)
    ((Met.file f).Gives root) (.ok [.file f]) :=
  ⟨by simp [Met.Listable], by rintro found ⟨⟩ g; simp [Met.Gives]⟩

theorem entriesSpec_walkWith
    {follow : Option (List Path → List Path → Directory → Except Fault (List Found))}
    (hfollow : FollowSpec root refused links follow) (d : Directory) :
    EntriesSpec root refused links fullName place d
      (walkWith root refused follow fullName place d) := by
  have hcons (entry : Entry) {rest : Directory} {result : Except Fault (List Found)}
      {fullName place : List Path}
      (hentry : WalkSpec ((entry.meet root fullName place links).Listable root refused)
        ((entry.meet root fullName place links).Gives root) result)
      (hrest : EntriesSpec root refused links fullName place rest
        (walkWith root refused follow fullName place rest)) :
      WalkSpec (∀ e ∈ entry :: rest.list, (e.meet root fullName place links).Listable root refused)
        (fun f => ∃ e ∈ entry :: rest.list, (e.meet root fullName place links).Gives root f)
        (do return (← result) ++ (← walkWith root refused follow fullName place rest)) :=
    (hentry.append hrest).congr List.forall_mem_cons fun f => by simp
  induction d generalizing fullName place with
  | empty => exact ⟨by simp [walkWith, list], by rintro found ⟨⟩ f; simp [list]⟩
  | file name attributes rest ih => exact hcons (.file name attributes) (walkSpec_file _) ih
  | link name attributes target rest ih =>
    refine hcons (.link name attributes target) ?_ ih
    simp only [Entry.meet]
    cases root.entriesAt target with
    | none => exact walkSpec_file _
    | some entries =>
      cases links with
      | zero =>
        obtain rfl : follow = none := hfollow
        exact walkSpec_file _
      | succ links =>
        obtain ⟨behind, rfl, hbehind⟩ := hfollow
        exact (hbehind _ _ entries).entered _ _
  | subdirectory name entries rest ihEntries ihRest =>
    exact hcons (.subdirectory name entries) (ihEntries.entered _ _) ihRest

theorem entriesSpec_walk (d : Directory) : EntriesSpec root refused links fullName place d
    (walk root refused links fullName place d) := by
  induction links generalizing fullName place d with
  | zero =>
    have hfollow : FollowSpec root refused 0 none := rfl
    exact entriesSpec_walkWith hfollow d
  | succ links ih =>
    have hfollow : FollowSpec root refused (links + 1) (some (walk root refused links)) :=
      ⟨_, rfl, fun _ _ d => ih d⟩
    exact entriesSpec_walkWith hfollow d

end Directory

namespace Spot

variable {root : Directory} {refused : List Path → Option Fault} {s : Spot}

/-- **The walk meets what can be reached**, and returns if it is all listed. -/
theorem walk_spec (s : Spot) :
    WalkSpec (s.Listable root refused) (s.Meets root) (s.walk root refused) :=
  (WalkSpec.listing (Directory.entriesSpec_walk s.entries) refused s.fullName).congr
    (listable_iff.trans (by simp [Has])) fun f => meets_iff.trans (by simp [Has])

theorem exists_walk (h : s.Listable root refused) :
    ∃ found, s.walk root refused = .ok found ∧ ∀ f, f ∈ filesFound found ↔ s.Meets root f := by
  obtain ⟨found, hfound⟩ := s.walk_spec.returns_iff.mpr h
  refine ⟨found, hfound, fun f => ?_⟩
  rw [← s.walk_spec.mem_iff found hfound f, filesFound, List.mem_filterMap]
  constructor
  · rintro ⟨entry, hentry, hfile⟩
    cases entry with
    | file g =>
      obtain rfl : g = f := Option.some.inj hfile
      exact hentry
    | directory => cases hfile
  · exact fun hfile => ⟨_, hfile, rfl⟩

theorem exists_walk_error (h : ¬ s.Listable root refused) :
    ∃ e, s.walk root refused = .error e := by
  cases hwalk : s.walk root refused with
  | error e => exact ⟨e, rfl⟩
  | ok found => exact absurd (s.walk_spec.returns_iff.mp ⟨found, hwalk⟩) h

/-! ### Where it is met -/

theorem leads_of_enter {name : Path} {t : Spot} (h : s.enter root name = some t) :
    s.Leads root t := by
  unfold enter at h
  split at h
  · next entry hentry =>
    split at h
    · next hmeet =>
      cases h
      exact ⟨entry, List.mem_of_find?_eq_some hentry, hmeet⟩
    · cases h
  · cases h

/-- Without a link, a walk stays below the directory that it started from. -/
theorem Leads.place {t : Spot} (h : s.Leads root t) :
    t.links ≤ s.links ∧ (t.links = s.links → s.place <+: t.place) := by
  obtain ⟨entry, -, hmeet⟩ := h
  cases entry with
  | file name attributes => cases hmeet
  | subdirectory name entries =>
    cases hmeet
    exact ⟨le_rfl, fun _ => List.prefix_append ..⟩
  | link name attributes target =>
    simp only [Entry.meet] at hmeet
    split at hmeet
    · next links _ hlinks =>
      cases hmeet
      rw [hlinks]
      exact ⟨Nat.le_succ links, fun h => absurd h (Nat.succ_ne_self links).symm⟩
    · cases hmeet

theorem Reaches.place {t : Spot} (h : s.Reaches root t) :
    t.links ≤ s.links ∧ (t.links = s.links → s.place <+: t.place) := by
  induction h with
  | refl => exact ⟨le_rfl, fun _ => List.prefix_refl _⟩
  | tail _ hleads ih =>
    obtain ⟨hle, hplace⟩ := hleads.place
    refine ⟨hle.trans ih.1, fun heq => ?_⟩
    have hmiddle := le_antisymm (ih.1) (heq ▸ hle)
    exact (ih.2 hmiddle).trans (hplace (heq.trans hmiddle.symm))

theorem Has.place {f : FoundFile} (h : s.Has root (.file f)) : IsBelow s.place f.place := by
  obtain ⟨entry, -, hmeet⟩ := h
  rw [isBelow_iff]
  cases entry with
  | file name attributes =>
    cases hmeet
    exact ⟨[name], by simp, rfl⟩
  | subdirectory name entries => cases hmeet
  | link name attributes target =>
    simp only [Entry.meet] at hmeet
    split at hmeet
    · cases hmeet
    · cases hmeet
      exact ⟨[name], by simp, rfl⟩

end Spot

theorem Directory.exists_of_openDirectory_concat {root : Directory} {links : ℕ}
    {names : List Path} {name : Path} {t : Spot}
    (h : root.openDirectory links (names ++ [name]) = some t) :
    ∃ s, root.openDirectory links names = some s ∧ s.Leads root t := by
  rw [openDirectory, List.foldlM_append] at h
  obtain ⟨s, hs, hlast⟩ := Option.bind_eq_some_iff.mp h
  obtain ⟨t', ht, hnil⟩ := Option.bind_eq_some_iff.mp hlast
  obtain rfl := Option.some.inj hnil
  exact ⟨s, hs, Spot.leads_of_enter ht⟩

end Connect3Dp
