import Connect3Dp.Connectors.Creality
import Connect3Dp.Connectors.Elegoo

/-!
# File listings

Two connectors turn the entries of a file listing into local jobs, and each job gets a dictionary
of its own. What an entry is read as does not depend on the dictionaries, so the jobs of a listing
are its files (`ListedFile`) with consecutive new addresses (`allocate`).
-/

namespace Connect3Dp

/-- What an entry of a listing is read as: a job without its dictionary. -/
structure ListedFile where
  name : NetString
  file : MachineFileHandle
  deriving DecidableEq, Inhabited

/-- The job of a file, with a new dictionary at the address. -/
def ListedFile.job (f : ListedFile) (address : ℕ) : LocalPrintJob where
  name := f.name
  file := f.file
  totalGramsUsed := 0
  time := .zero
  materialsToPrint := ⟨address, ∅⟩

/-- The jobs of a listing, with new dictionaries from the address on. -/
def allocate (files : List ListedFile) (address : ℕ) : List LocalPrintJob :=
  (files.zipIdx address).map fun f => f.1.job f.2

theorem allocate_append (files files' : List ListedFile) (address : ℕ) :
    allocate (files ++ files') address =
      allocate files address ++ allocate files' (address + files.length) := by
  rw [allocate, List.zipIdx_append, List.map_append]
  rfl

@[simp]
theorem allocate_eq_nil_iff {files : List ListedFile} {address : ℕ} :
    allocate files address = [] ↔ files = [] := by
  rw [allocate, List.map_eq_nil_iff, List.zipIdx_eq_nil_iff]

@[simp]
theorem length_allocate (files : List ListedFile) (address : ℕ) :
    (allocate files address).length = files.length := by
  rw [allocate, List.length_map, List.length_zipIdx]

theorem map_file_allocate (files : List ListedFile) (address : ℕ) :
    (allocate files address).map (·.file) = files.map (·.file) := by
  rw [allocate, List.map_map]
  change (files.zipIdx address).map ((·.file) ∘ Prod.fst) = _
  rw [← List.map_map, List.zipIdx_map_fst]

/-- The dictionaries of a listing are at the addresses that it was given. -/
theorem address_of_mem_allocate {files : List ListedFile} {address : ℕ} {job : LocalPrintJob}
    (h : job ∈ allocate files address) :
    address ≤ job.materialsToPrint.address ∧
      job.materialsToPrint.address < address + files.length := by
  obtain ⟨⟨f, a⟩, hf, rfl⟩ := List.mem_map.mp h
  obtain ⟨hle, hlt, -⟩ := List.mem_zipIdx hf
  exact ⟨hle, hlt⟩

/-! ### Reading a listing -/

/-- How the fields of a connector count the objects it allocates. -/
structure Allocator (F : Type) where
  id : F → NetString
  next : F → ℕ
  setNext : F → ℕ → F
  id_setNext : ∀ f n, id (setNext f n) = id f
  next_setNext : ∀ f n, next (setNext f n) = n
  setNext_setNext : ∀ f n m, setNext (setNext f n) m = setNext f m
  setNext_next : ∀ f, setNext f (next f) = f

/-- What the entries of a listing are read as, if none of them raises. -/
def listed {E : Type} (read : E → Except Fault (Option ListedFile)) (entries : List E) :
    List ListedFile :=
  entries.filterMap fun e => match read e with
    | .ok o => o
    | .error _ => none

namespace Allocator

variable {F E : Type} (a : Allocator F)

/-- A step reads an entry and allocates the dictionary of its job, if it has one. -/
def Reads (read : NetString → E → Except Fault (Option ListedFile))
    (step : E → EStateM Fault F (Option LocalPrintJob)) : Prop :=
  ∀ e fields, (step e).run fields = match read (a.id fields) e with
    | .ok (some f) => .ok (some (f.job (a.next fields))) (a.setNext fields (a.next fields + 1))
    | .ok none => .ok none fields
    | .error fault => .error fault fields

variable {a} {read : NetString → E → Except Fault (Option ListedFile)}
  {step : E → EStateM Fault F (Option LocalPrintJob)}

/-- **Reading a listing** gives the jobs of its files if no entry raises. -/
theorem Reads.run_filterMapM (h : a.Reads read step) (entries : List E) (fields : F)
    (hreads : ∀ e ∈ entries, ∃ o, read (a.id fields) e = .ok o) :
    (entries.filterMapM step).run fields =
      .ok (allocate (listed (read (a.id fields)) entries) (a.next fields))
        (a.setNext fields (a.next fields + (listed (read (a.id fields)) entries).length)) := by
  induction entries generalizing fields with
  | nil =>
    change EStateM.Result.ok [] fields = .ok [] (a.setNext fields (a.next fields + 0))
    rw [Nat.add_zero, a.setNext_next]
  | cons e entries ih =>
    rw [List.forall_mem_cons] at hreads
    obtain ⟨⟨o, ho⟩, hrest⟩ := hreads
    have hstep := h e fields
    rw [ho] at hstep
    rw [List.filterMapM_cons, listed]
    cases o with
    | none =>
      rw [run_bind_ok hstep, List.filterMap_cons_none (by rw [ho])]
      exact ih fields hrest
    | some f =>
      have ih := ih (a.setNext fields (a.next fields + 1)) (by rwa [a.id_setNext])
      rw [a.id_setNext, a.next_setNext, a.setNext_setNext] at ih
      rw [run_bind_ok hstep, List.filterMap_cons_some (by rw [ho])]
      dsimp only
      rw [run_bind_ok ih, List.length_cons, Nat.add_right_comm, Nat.add_assoc]
      rfl

/-- It raises if an entry does. -/
theorem Reads.run_filterMapM_ne_ok (h : a.Reads read step) (entries : List E) (fields : F)
    (hreads : ¬ ∀ e ∈ entries, ∃ o, read (a.id fields) e = .ok o) (jobs : List LocalPrintJob)
    (fields' : F) : (entries.filterMapM step).run fields ≠ .ok jobs fields' := by
  induction entries generalizing fields jobs fields' with
  | nil => exact absurd (List.forall_mem_nil _) hreads
  | cons e entries ih =>
    have hstep := h e fields
    rw [List.filterMapM_cons]
    cases ho : read (a.id fields) e with
    | error fault =>
      rw [ho] at hstep
      rw [run_bind_error hstep]
      exact fun heq => by cases heq
    | ok o =>
      have hrest : ¬ ∀ e ∈ entries, ∃ o, read (a.id fields) e = .ok o := fun hrest =>
        hreads (List.forall_mem_cons.mpr ⟨⟨o, ho⟩, hrest⟩)
      rw [ho] at hstep
      cases o with
      | none =>
        rw [run_bind_ok hstep]
        exact ih fields hrest jobs fields'
      | some f =>
        rw [run_bind_ok hstep]
        dsimp only
        have ih := ih (a.setNext fields (a.next fields + 1)) (by rwa [a.id_setNext])
        cases htail : (entries.filterMapM step).run (a.setNext fields (a.next fields + 1)) with
        | ok jobs₁ fields₁ => exact absurd htail (ih jobs₁ fields₁)
        | error fault fields₁ =>
          rw [run_bind_error htail]
          exact fun heq => by cases heq

/-- What a listing is read as if it is. -/
theorem Reads.eq_of_run_filterMapM (h : a.Reads read step) {entries : List E} {fields fields' : F}
    {jobs : List LocalPrintJob} (hrun : (entries.filterMapM step).run fields = .ok jobs fields') :
    jobs = allocate (listed (read (a.id fields)) entries) (a.next fields) := by
  by_cases hreads : ∀ e ∈ entries, ∃ o, read (a.id fields) e = .ok o
  · rw [h.run_filterMapM entries fields hreads] at hrun
    exact (EStateM.Result.ok.inj hrun).1.symm
  · exact absurd hrun (h.run_filterMapM_ne_ok entries fields hreads jobs fields')

end Allocator

/-! ### The two connectors -/

namespace Creality

def allocator : Allocator Fields where
  id := Fields.id
  next := Fields.nextObject
  setNext f n := { f with nextObject := n }
  id_setNext _ _ := rfl
  next_setNext _ _ := rfl
  setNext_setNext _ _ _ := rfl
  setNext_next _ := rfl

/-- What `ExtractFiles` reads of an entry. -/
def listedFile (host : Host) (id : NetString) (file : JsonElement) :
    Except Fault (Option ListedFile) := do
  let path := (← file.tryGetStringValue "path").getD ""
  let name := (← file.tryGetStringValue "name").getD ""
  if path = "" ∧ name = "" then return none
  let path := if path = "" then s!"/usr/data/printer_data/gcodes/{name}" else path
  let size := (← file.tryGetInt64Lenient host "file_size").getD 0
  let hash := host.sha256 s!"{path}:{size.toInt}"
  let jobName := getFileNameWithoutExtension (if name = "" then path else name)
  return some {
    name := some (if jobName = "" then "Unknown" else jobName)
    file := ⟨id, some path, some "application/gcode", some hash⟩ }

theorem reads_extractFile (host : Host) : allocator.Reads (listedFile host) (extractFile host) := by
  intro file fields
  rw [extractFile, listedFile]
  cases file.tryGetStringValue "path" with
  | error f => rfl
  | ok path =>
    cases file.tryGetStringValue "name" with
    | error f => rfl
    | ok name =>
      rw [ofExcept_ok_bind, ofExcept_ok_bind, ok_bind, ok_bind]
      by_cases hempty : path.getD "" = "" ∧ name.getD "" = ""
      · rw [if_pos hempty, if_pos hempty]
        rfl
      · rw [if_neg hempty, if_neg hempty]
        cases file.tryGetInt64Lenient host "file_size" with
        | error f => rfl
        | ok size => rfl

end Creality

namespace Elegoo

def allocator : Allocator Fields where
  id := Fields.id
  next := Fields.nextObject
  setNext f n := { f with nextObject := n }
  id_setNext _ _ := rfl
  next_setNext _ _ := rfl
  setNext_setNext _ _ _ := rfl
  setNext_next _ := rfl

/-- What `HandleFileListResponse` reads of an entry. -/
def listedFile (host : Host) (id : NetString) (file : JsonElement) :
    Except Fault (Option ListedFile) := do
  let name ← file.readOr "name" "" fun n => return (← n.getString).getD ""
  let size ← file.readOr "size" 0 JsonElement.getInt64
  if name = "" then return none
  let uri := if name.startsWith "/" then name else s!"/local/{name}"
  let hash := host.sha256 s!"{name}:{size.toInt}"
  return some {
    name := some (getFileNameWithoutExtension name)
    file := ⟨id, some uri, some "application/gcode", some hash⟩ }

theorem reads_readFile (host : Host) : allocator.Reads (listedFile host) (readFile host) := by
  intro file fields
  rw [readFile, listedFile]
  cases file.readOr "name" "" fun n => return (← n.getString).getD "" with
  | error f => rfl
  | ok name =>
    cases file.readOr "size" 0 JsonElement.getInt64 with
    | error f => rfl
    | ok size =>
      rw [ofExcept_ok_bind, ofExcept_ok_bind, ok_bind, ok_bind]
      by_cases hempty : name = ""
      · rw [if_pos hempty, if_pos hempty]
        rfl
      · rw [if_neg hempty, if_neg hempty]
        rfl

end Elegoo

end Connect3Dp
