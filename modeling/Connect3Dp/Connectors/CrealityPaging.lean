import Connect3Dp.Connectors.FileListings

/-!
# The cycle of file pages

The Creality connector asks for a file listing page by page. It does not know how many pages there
are: it ends the cycle at the first page that has no files or fewer than the first one, and commits
what it has by then. Are these all files of the printer?

The files of a page are counted after entries without a path and a name have been left out. So a
page can end the cycle although it is full, and the files behind it are not committed unless an
earlier page lists them too (`complete_iff`).
-/

namespace Connect3Dp

namespace Creality

/-! ### What is committed -/

/-- One step of the loop that drops duplicates. -/
def keepFirst (deduped : List LocalPrintJob) (job : LocalPrintJob) : List LocalPrintJob :=
  if deduped.any fun other => other.file = job.file then deduped else deduped ++ [job]

theorem dedupe_eq_foldl (files : List LocalPrintJob) :
    dedupe files = files.foldl keepFirst [] := rfl

section Dedupe

variable {acc files files' : List LocalPrintJob} {job : LocalPrintJob}

theorem keepFirst_of_mem (h : ∃ other ∈ acc, other.file = job.file) : keepFirst acc job = acc :=
  if_pos (by simpa using h)

theorem keepFirst_of_not_mem (h : ¬ ∃ other ∈ acc, other.file = job.file) :
    keepFirst acc job = acc ++ [job] := if_neg (by simpa using h)

theorem prefix_foldl_keepFirst (acc files : List LocalPrintJob) :
    acc <+: files.foldl keepFirst acc := by
  induction files generalizing acc with
  | nil => exact List.prefix_rfl
  | cons job files ih =>
    rw [List.foldl_cons]
    by_cases h : ∃ other ∈ acc, other.file = job.file
    · rw [keepFirst_of_mem h]
      exact ih acc
    · rw [keepFirst_of_not_mem h]
      exact (List.prefix_append acc [job]).trans (ih _)

/-- Nothing is added just when every file is there already. -/
theorem foldl_keepFirst_eq_self_iff : files.foldl keepFirst acc = acc ↔
    ∀ job ∈ files, ∃ other ∈ acc, other.file = job.file := by
  induction files with
  | nil => simp
  | cons job files ih =>
    rw [List.foldl_cons, List.forall_mem_cons]
    by_cases h : ∃ other ∈ acc, other.file = job.file
    · rw [keepFirst_of_mem h, ih]
      exact (and_iff_right h).symm
    · rw [keepFirst_of_not_mem h]
      refine iff_of_false (fun heq => ?_) fun hall => h hall.1
      have hlength := (prefix_foldl_keepFirst (acc ++ [job]) files).length_le
      rw [heq, List.length_append] at hlength
      exact Nat.not_succ_le_self _ hlength

/-- The files that are kept are those that are listed. -/
theorem mem_map_foldl_keepFirst {file : MachineFileHandle} :
    file ∈ (files.foldl keepFirst acc).map (·.file) ↔
      file ∈ acc.map (·.file) ∨ file ∈ files.map (·.file) := by
  induction files generalizing acc with
  | nil => simp
  | cons job files ih =>
    rw [List.foldl_cons, ih, List.map_cons, List.mem_cons, ← or_assoc]
    refine or_congr_left ?_
    by_cases h : ∃ other ∈ acc, other.file = job.file
    · rw [keepFirst_of_mem h]
      refine (or_iff_left_of_imp ?_).symm
      rintro rfl
      obtain ⟨other, hother, hfile⟩ := h
      exact List.mem_map.mpr ⟨other, hother, hfile⟩
    · rw [keepFirst_of_not_mem h, List.map_append, List.mem_append, List.map_singleton,
        List.mem_singleton]

theorem nodup_foldl_keepFirst (h : (acc.map (·.file)).Nodup) :
    ((files.foldl keepFirst acc).map (·.file)).Nodup := by
  induction files generalizing acc with
  | nil => exact h
  | cons job files ih =>
    refine ih ?_
    by_cases hmem : ∃ other ∈ acc, other.file = job.file
    · rwa [keepFirst_of_mem hmem]
    · rw [keepFirst_of_not_mem hmem, List.map_append]
      refine List.nodup_append.mpr ⟨h, List.nodup_singleton _, ?_⟩
      rintro file hfile _ hjob rfl
      rw [List.map_singleton, List.mem_singleton] at hjob
      obtain ⟨other, hother, heq⟩ := List.mem_map.mp hfile
      exact hmem ⟨other, hother, heq.trans hjob⟩

/-- **The files behind a listing** are in it already just when they are dropped. -/
theorem dedupe_append_eq_iff : dedupe (files ++ files') = dedupe files ↔
    ∀ file ∈ files'.map (·.file), file ∈ files.map (·.file) := by
  rw [dedupe_eq_foldl, dedupe_eq_foldl files, List.foldl_append, foldl_keepFirst_eq_self_iff,
    List.forall_mem_map]
  refine forall₂_congr fun job _ => ?_
  rw [← List.mem_map, mem_map_foldl_keepFirst]
  exact or_iff_right List.not_mem_nil

end Dedupe

/-! ### What a page does -/

section Page

variable {host : Host} {fields fields' : Fields} {page : List JsonElement}

/-- The update of a listing tells the jobs that it sets. -/
theorem dedupe_eq_of_listFiles_eq {files files' : List LocalPrintJob}
    (h : listFiles default files default = listFiles default files' default) :
    dedupe files = dedupe files' := by
  have hset : ∀ files, ((listFiles default files default).localJobs.toSet.getD ∅).elems =
      dedupe files := by
    intro files
    have hbuffer : (listFiles default files default).localJobs =
        (dedupe files).foldl (SetBuffer.set (.values LocalPrintJob)) default :=
      congrArg MachineStateUpdate.localJobs
        (MachineStateUpdate.foldl_setLocalJobs (dedupe files) default)
    have hnodup : (dedupe files).Nodup :=
      (@nodup_foldl_keepFirst [] files List.nodup_nil).of_map
    rw [hbuffer, SetBuffer.toSet_foldl_set]
    exact HashSetOps.elems_unionWith_of_nodup hnodup
  rw [← hset, h, hset]

theorem extractFiles_array (host : Host) (entries : List JsonElement) :
    extractFiles host (.array entries) = entries.filterMapM (extractFile host) := rfl

/-- The page ends the cycle. -/
def EndsCycle (fields : Fields) (files : List ListedFile) : Prop :=
  files = [] ∨ (0 < fields.firstPageSize ∧ Int32.ofNat files.length < fields.firstPageSize) ∨
    maxFilePages ≤ fields.nextFilePage

/-- The fields when the files of a page have been gathered. -/
def gathered (host : Host) (fields : Fields) (files : List ListedFile) : Fields :=
  { fields with
    pendingFiles := fields.pendingFiles ++ allocate files fields.nextObject
    nextObject := fields.nextObject + files.length
    firstPageSize := if fields.firstPageSize < 0 ∧ 0 < Int32.ofNat files.length
      then Int32.ofNat files.length else fields.firstPageSize
    paginationLastActivity := host.utcNow }

/-- **What a page does**: it ends the cycle and commits what was gathered, or it asks for the next
page. -/
theorem run_handleFilePage {files : List ListedFile}
    (hreads : ∀ e ∈ page, ∃ o, listedFile host fields.id e = .ok o)
    (hfiles : listed (listedFile host fields.id) page = files) :
    (EndsCycle fields files → ∃ fields', fields'.paginatingFiles = false ∧
      ∀ s u, (handleFilePage host s (.array page) u).run fields =
        .ok (listFiles s (gathered host fields files).pendingFiles u) fields') ∧
    (¬ EndsCycle fields files → ∀ s u, (handleFilePage host s (.array page) u).run fields =
      .ok u { gathered host fields files with nextFilePage := fields.nextFilePage + 1 }) := by
  have hextract : (page.filterMapM (extractFile host)).run fields =
      .ok (allocate files fields.nextObject)
        { fields with nextObject := fields.nextObject + files.length } := by
    rw [← hfiles]
    exact (reads_extractFile host).run_filterMapM page fields hreads
  have hends_iff : ((allocate files fields.nextObject).isEmpty = true ∨
      (0 < fields.firstPageSize ∧
        Int32.ofNat (allocate files fields.nextObject).length < fields.firstPageSize) ∨
      maxFilePages ≤ fields.nextFilePage) ↔ EndsCycle fields files := by
    rw [List.isEmpty_iff, allocate_eq_nil_iff, length_allocate, EndsCycle]
  have hget (f : Fields) : (get : EStateM Fault Fields Fields).run f = .ok f f := rfl
  refine ⟨fun hends => ⟨{ (gathered host fields files).resetPagination with
    hasLocalFiles := !(dedupe (gathered host fields files).pendingFiles).isEmpty }, rfl,
    fun s u => ?_⟩, fun hgoes s u => ?_⟩
  · rw [handleFilePage, extractFiles_array, run_bind_ok hextract, run_bind_ok (hget _)]
    dsimp only
    rw [if_pos (hends_iff.mpr hends), length_allocate]
    rfl
  · rw [handleFilePage, extractFiles_array, run_bind_ok hextract, run_bind_ok (hget _)]
    dsimp only
    rw [if_neg (mt hends_iff.mp hgoes), length_allocate]
    rfl

end Page

/-! ### The cycle -/

/-- The page that a printer with `p` entries a page answers a request with. -/
def pageAt (listing : List JsonElement) (p n : ℕ) : List JsonElement :=
  (listing.drop (n * p)).take p

/-- The fields when a new cycle has begun. -/
def Fields.beginCycle (fields : Fields) (utcNow : DateTimeOffset) : Fields :=
  { fields.resetPagination with
    paginatingFiles := true
    paginationLastActivity := utcNow }

/-- A cycle whose pages arrive in order, at some time each, and to which nothing else happens: from
fields, by what the last page makes of an update, to the fields it leaves. -/
inductive Cycle (host : Host) (utcNow : Int32 → DateTimeOffset) (listing : List JsonElement)
    (p : ℕ) : Fields → (MachineState → MachineStateUpdate → MachineStateUpdate) → Fields → Prop
  | last {fields fields' : Fields}
    {commit : MachineState → MachineStateUpdate → MachineStateUpdate}
    (hpage : ∀ s u, (handleFilePage { host with utcNow := utcNow fields.nextFilePage } s
      (.array (pageAt listing p (fields.nextFilePage.toInt.toNat - 1))) u).run fields =
        .ok (commit s u) fields')
    (hended : fields'.paginatingFiles = false) : Cycle host utcNow listing p fields commit fields'
  | next {fields fields₁ fields' : Fields}
    {commit : MachineState → MachineStateUpdate → MachineStateUpdate}
    (hpage : ∀ s u, (handleFilePage { host with utcNow := utcNow fields.nextFilePage } s
      (.array (pageAt listing p (fields.nextFilePage.toInt.toNat - 1))) u).run fields =
        .ok u fields₁)
    (hgoes : fields₁.paginatingFiles = true)
    (hrest : Cycle host utcNow listing p fields₁ commit fields') :
    Cycle host utcNow listing p fields commit fields'

/-- The last page of a cycle commits one thing only. -/
theorem Cycle.unique {host : Host} {utcNow : Int32 → DateTimeOffset} {listing : List JsonElement}
    {p : ℕ} {fields fields' fields'' : Fields}
    {commit commit' : MachineState → MachineStateUpdate → MachineStateUpdate}
    (h : Cycle host utcNow listing p fields commit fields')
    (h' : Cycle host utcNow listing p fields commit' fields'') : commit = commit' := by
  induction h with
  | last hpage hended =>
    cases h' with
    | last hpage' _ =>
      funext s u
      exact (EStateM.Result.ok.inj ((hpage s u).symm.trans (hpage' s u))).1
    | next hpage' hgoes _ =>
      obtain ⟨-, rfl⟩ :=
        EStateM.Result.ok.inj ((hpage default default).symm.trans (hpage' default default))
      rw [hended] at hgoes
      cases hgoes
  | next hpage hgoes _ ih =>
    cases h' with
    | last hpage' hended =>
      obtain ⟨-, rfl⟩ :=
        EStateM.Result.ok.inj ((hpage default default).symm.trans (hpage' default default))
      rw [hended] at hgoes
      cases hgoes
    | next hpage' _ hrest' =>
      obtain ⟨-, rfl⟩ :=
        EStateM.Result.ok.inj ((hpage default default).symm.trans (hpage' default default))
      exact ih hrest'

/-! ### The pages of a listing -/

section Listing

variable (host : Host) (utcNow : Int32 → DateTimeOffset) (listing : List JsonElement) (p : ℕ)
  (fields : Fields)

/-- The files of a zero-based page. -/
def filesAt (n : ℕ) : List ListedFile := listed (listedFile host fields.id) (pageAt listing p n)

/-- The files of the first pages. -/
def filesBefore (n : ℕ) : List ListedFile :=
  listed (listedFile host fields.id) (listing.take (n * p))

/-- The files behind the first pages. -/
def filesFrom (n : ℕ) : List ListedFile :=
  listed (listedFile host fields.id) (listing.drop (n * p))

/-- The page has no files or fewer than the first. -/
def IsShort (n : ℕ) : Prop :=
  filesAt host listing p fields n = [] ∨
    (filesAt host listing p fields n).length < (filesAt host listing p fields 0).length

/-- The fields before a page, in a cycle that began with the given ones. -/
def fieldsAt (n : ℕ) (activity : DateTimeOffset) : Fields :=
  { fields with
    pendingFiles := allocate (filesBefore host listing p fields n) fields.nextObject
    nextFilePage := Int32.ofNat (n + 1)
    firstPageSize := if n = 0 then -1 else Int32.ofNat (filesAt host listing p fields 0).length
    paginationLastActivity := activity
    nextObject := fields.nextObject + (filesBefore host listing p fields n).length }

/-- What the page ends a cycle with. -/
def commitAt (n : ℕ) (s : MachineState) : MachineStateUpdate → MachineStateUpdate :=
  listFiles s (allocate (filesBefore host listing p fields (n + 1)) fields.nextObject)

theorem filesBefore_succ (n : ℕ) : filesBefore host listing p fields (n + 1) =
    filesBefore host listing p fields n ++ filesAt host listing p fields n := by
  rw [filesBefore, Nat.succ_mul, List.take_add, listed, List.filterMap_append]
  rfl

theorem filesBefore_append_filesFrom (n : ℕ) :
    filesBefore host listing p fields n ++ filesFrom host listing p fields n =
      listed (listedFile host fields.id) listing := by
  rw [filesBefore, filesFrom, listed, listed, ← List.filterMap_append, List.take_append_drop]
  rfl

theorem length_filesAt_le (n : ℕ) :
    (filesAt host listing p fields n).length ≤ (pageAt listing p 0).length := by
  refine (List.length_filterMap_le _ _).trans ?_
  rw [pageAt, pageAt, List.length_take, List.length_take, List.length_drop, List.length_drop]
  omega

/-- Behind the last page there are no files. -/
theorem filesAt_eq_nil {n : ℕ} (h : listing.length ≤ n * p) :
    filesAt host listing p fields n = [] := by
  rw [filesAt, pageAt, List.drop_eq_nil_of_le h, List.take_nil]
  rfl

variable {host utcNow listing p fields} {n : ℕ} {activity : DateTimeOffset}

theorem mem_listing_of_mem_pageAt {e : JsonElement} (h : e ∈ pageAt listing p n) : e ∈ listing :=
  List.mem_of_mem_drop (List.mem_of_mem_take h)

/-- Among fewer than 200 pages the counters of the cycle tell the short ones. -/
theorem endsCycle_fieldsAt_iff (hcount : (pageAt listing p 0).length < 2 ^ 31)
    (hpages : listing.length ≤ 199 * p) (hn : n ≤ 199)
    (hfirst : n ≠ 0 → filesAt host listing p fields 0 ≠ []) :
    EndsCycle (fieldsAt host listing p fields n activity) (filesAt host listing p fields n) ↔
      IsShort host listing p fields n := by
  have hlength (n : ℕ) : (filesAt host listing p fields n).length < 2 ^ 31 :=
    (length_filesAt_le host listing p fields n).trans_lt hcount
  refine or_congr_right ?_
  by_cases hzero : n = 0
  · subst hzero
    refine iff_of_false ?_ (Nat.lt_irrefl _)
    rintro (⟨hpos, -⟩ | hmax)
    · exact absurd (show (0 : Int32) < -1 from hpos) (by decide)
    · exact absurd (show maxFilePages ≤ Int32.ofNat 1 from hmax) (by decide)
  · have hpos : 0 < (filesAt host listing p fields 0).length :=
      List.length_pos_of_ne_nil (hfirst hzero)
    have hsize : (fieldsAt host listing p fields n activity).firstPageSize =
        Int32.ofNat (filesAt host listing p fields 0).length := if_neg hzero
    rw [hsize, Int32.ofNat_lt_iff_lt (hlength n) (hlength 0)]
    constructor
    · rintro (⟨-, hshort⟩ | hmax)
      · exact hshort
      · have hlast : 199 < n + 1 := by
          have hlt200 : ¬ Int32.ofNat (n + 1) < Int32.ofNat 200 := Int32.not_lt.mpr hmax
          rw [Int32.ofNat_lt_iff_lt (by omega) (by decide)] at hlt200
          omega
        rw [filesAt_eq_nil host listing p fields (hpages.trans (Nat.mul_le_mul_right p (by omega)))]
        exact hpos
    · exact fun hshort => .inl ⟨(Int32.ofNat_lt_iff_lt (by decide) (hlength 0)).mpr hpos, hshort⟩

/-- **A page that is not short** asks for the next. -/
theorem gathered_fieldsAt (hgoes : ¬ IsShort host listing p fields n)
    (hcount : (pageAt listing p 0).length < 2 ^ 31) (now : DateTimeOffset) :
    { gathered { host with utcNow := now } (fieldsAt host listing p fields n activity)
        (filesAt host listing p fields n) with
      nextFilePage := (fieldsAt host listing p fields n activity).nextFilePage + 1 } =
      fieldsAt host listing p fields (n + 1) now := by
  have hfirst : (if (fieldsAt host listing p fields n activity).firstPageSize < 0 ∧
      0 < Int32.ofNat (filesAt host listing p fields n).length
      then Int32.ofNat (filesAt host listing p fields n).length
      else (fieldsAt host listing p fields n activity).firstPageSize) =
        Int32.ofNat (filesAt host listing p fields 0).length := by
    have hlength := (length_filesAt_le host listing p fields 0).trans_lt hcount
    by_cases hzero : n = 0
    · subst hzero
      have hpos : 0 < (filesAt host listing p fields 0).length :=
        List.length_pos_of_ne_nil fun hnil => hgoes (.inl hnil)
      exact if_pos ⟨show (-1 : Int32) < 0 by decide,
        (Int32.ofNat_lt_iff_lt (by decide) hlength).mpr hpos⟩
    · have hsize : (fieldsAt host listing p fields n activity).firstPageSize =
          Int32.ofNat (filesAt host listing p fields 0).length := if_neg hzero
      rw [hsize, if_neg]
      rintro ⟨hneg, -⟩
      exact Nat.not_lt_zero _ ((Int32.ofNat_lt_iff_lt hlength (by decide)).mp hneg)
  have hpage : Int32.ofNat (n + 1) + 1 = Int32.ofNat (n + 1 + 1) := (Int32.ofNat_add _ 1).symm
  simp only [gathered, hfirst]
  rw [fieldsAt, fieldsAt, if_neg n.succ_ne_zero, filesBefore_succ, allocate_append,
    List.length_append, ← Nat.add_assoc]
  dsimp only
  rw [hpage]

/-- What was gathered with the last page. -/
theorem pendingFiles_gathered_fieldsAt (host' : Host) :
    (gathered host' (fieldsAt host listing p fields n activity)
      (filesAt host listing p fields n)).pendingFiles =
      allocate (filesBefore host listing p fields (n + 1)) fields.nextObject := by
  rw [filesBefore_succ, allocate_append]
  rfl

/-- The page that is asked for is the next. -/
theorem pageAt_fieldsAt (hn : n ≤ 199) :
    pageAt listing p ((fieldsAt host listing p fields n activity).nextFilePage.toInt.toNat - 1) =
      pageAt listing p n := by
  have hpage : (Int32.ofNat (n + 1)).toInt = ((n + 1 : ℕ) : ℤ) :=
    Int32.toInt_ofNat_of_lt (by omega)
  change pageAt listing p ((Int32.ofNat (n + 1)).toInt.toNat - 1) = _
  rw [hpage, Int.toNat_natCast, Nat.add_sub_cancel]

/-- **A step of the cycle**: a short page ends it, any other asks for the next. -/
theorem run_handleFilePage_fieldsAt
    (hreads : ∀ e ∈ listing, ∃ o, listedFile host fields.id e = .ok o)
    (hcount : (pageAt listing p 0).length < 2 ^ 31) (hpages : listing.length ≤ 199 * p)
    (hn : n ≤ 199) (hfirst : n ≠ 0 → filesAt host listing p fields 0 ≠ [])
    (activity now : DateTimeOffset) :
    (IsShort host listing p fields n → ∃ fields', fields'.paginatingFiles = false ∧
      ∀ s u, (handleFilePage { host with utcNow := now } s (.array (pageAt listing p n)) u).run
        (fieldsAt host listing p fields n activity) =
          .ok (commitAt host listing p fields n s u) fields') ∧
    (¬ IsShort host listing p fields n → ∀ s u,
      (handleFilePage { host with utcNow := now } s (.array (pageAt listing p n)) u).run
        (fieldsAt host listing p fields n activity) =
          .ok u (fieldsAt host listing p fields (n + 1) now)) := by
  have hpage := @run_handleFilePage { host with utcNow := now }
    (fieldsAt host listing p fields n activity) (pageAt listing p n)
    (filesAt host listing p fields n) (fun e he => hreads e (mem_listing_of_mem_pageAt he)) rfl
  rw [endsCycle_fieldsAt_iff hcount hpages hn hfirst, pendingFiles_gathered_fieldsAt] at hpage
  refine ⟨hpage.1, fun hgoes s u => ?_⟩
  rw [hpage.2 hgoes s u, gathered_fieldsAt hgoes hcount]

/-- **The cycle** ends with the first short page, and commits what the pages up to it list. -/
theorem cycle_fieldsAt {m : ℕ} (hbegun : fields.paginatingFiles = true)
    (hreads : ∀ e ∈ listing, ∃ o, listedFile host fields.id e = .ok o)
    (hcount : (pageAt listing p 0).length < 2 ^ 31) (hpages : listing.length ≤ 199 * p)
    (hshort : IsShort host listing p fields m)
    (hfirst : ∀ n < m, ¬ IsShort host listing p fields n) (hn : n ≤ m)
    (activity : DateTimeOffset) :
    ∃ fields', Cycle host utcNow listing p (fieldsAt host listing p fields n activity)
      (commitAt host listing p fields m) fields' := by
  have hm : m ≤ 199 := by
    refine not_lt.mp fun hlt => hfirst 199 hlt (.inl ?_)
    exact filesAt_eq_nil host listing p fields hpages
  have hnonempty {n : ℕ} (hle : n ≤ m) (hne : n ≠ 0) : filesAt host listing p fields 0 ≠ [] :=
    fun hnil => hfirst 0 (hle.trans_lt' (Nat.pos_of_ne_zero hne)) (.inl hnil)
  induction hn using Nat.decreasingInduction generalizing activity with
  | self =>
    obtain ⟨fields', hended, hpage⟩ := (run_handleFilePage_fieldsAt hreads hcount hpages hm
      (hnonempty le_rfl) activity _).1 hshort
    refine ⟨fields', .last (fun s u => ?_) hended⟩
    rw [pageAt_fieldsAt hm]
    exact hpage s u
  | of_succ n hlt ih =>
    have hn : n ≤ 199 := hlt.le.trans hm
    obtain ⟨fields', hrest⟩ :=
      ih (utcNow (fieldsAt host listing p fields n activity).nextFilePage)
    refine ⟨fields', .next (fun s u => ?_) ?_ hrest⟩
    rotate_left
    · exact hbegun
    rw [pageAt_fieldsAt hn]
    exact (run_handleFilePage_fieldsAt hreads hcount hpages hn (hnonempty hlt.le) _ _).2
      (hfirst n hlt) s u

theorem fieldsAt_zero (t : DateTimeOffset) :
    fieldsAt host listing p (fields.beginCycle t) 0 t = fields.beginCycle t := by
  rw [fieldsAt, filesBefore, Nat.zero_mul]
  rfl

/-- What the cycle commits is the whole listing just when nothing new is behind its last page. -/
theorem commitAt_eq_iff {m : ℕ} :
    (commitAt host listing p fields m = fun s u => listFiles s
      (allocate (listed (listedFile host fields.id) listing) fields.nextObject) u) ↔
    ∀ f ∈ filesFrom host listing p fields (m + 1),
      ∃ g ∈ filesBefore host listing p fields (m + 1), g.file = f.file := by
  have hdedupe : dedupe (allocate (filesBefore host listing p fields (m + 1)) fields.nextObject) =
      dedupe (allocate (listed (listedFile host fields.id) listing) fields.nextObject) ↔
        ∀ f ∈ filesFrom host listing p fields (m + 1),
          ∃ g ∈ filesBefore host listing p fields (m + 1), g.file = f.file := by
    rw [eq_comm, ← filesBefore_append_filesFrom host listing p fields (m + 1), allocate_append,
      dedupe_append_eq_iff, map_file_allocate, map_file_allocate, List.forall_mem_map]
    simp only [List.mem_map]
  rw [← hdedupe]
  refine ⟨fun h => dedupe_eq_of_listFiles_eq (congrFun (congrFun h default) default), fun h => ?_⟩
  funext s u
  rw [commitAt, listFiles, listFiles, h]

end Listing

/-! ### Completeness -/

/-- The cycle ends, and it commits the extraction of the whole listing. -/
def Complete (host : Host) (utcNow : Int32 → DateTimeOffset) (listing : List JsonElement) (p : ℕ)
    (fields : Fields) : Prop :=
  ∃ files fields₁ fields', (extractFiles host (.array listing)).run fields = .ok files fields₁ ∧
    Cycle host utcNow listing p fields (fun s u => listFiles s files u) fields'

section Complete

variable {host : Host} {utcNow : Int32 → DateTimeOffset} {listing : List JsonElement} {p : ℕ}
  {fields : Fields} {t : DateTimeOffset}

theorem reads_of_complete (h : Complete host utcNow listing p (fields.beginCycle t)) :
    ∀ e ∈ listing, ∃ o, listedFile host fields.id e = .ok o := by
  by_contra hreads
  obtain ⟨files, fields₁, fields', hfiles, -⟩ := h
  exact (reads_extractFile host).run_filterMapM_ne_ok listing (fields.beginCycle t) hreads files
    fields₁ hfiles

/-- A listing that can be read is committed if the first short page has nothing new behind it. -/
theorem complete_beginCycle_iff (hcount : (pageAt listing p 0).length < 2 ^ 31)
    (hpages : listing.length ≤ 199 * p)
    (hreads : ∀ e ∈ listing, ∃ o, listedFile host fields.id e = .ok o) {m : ℕ}
    (hshort : IsShort host listing p fields m)
    (hfirst : ∀ n < m, ¬ IsShort host listing p fields n) :
    Complete host utcNow listing p (fields.beginCycle t) ↔
      ∀ f ∈ filesFrom host listing p fields (m + 1),
        ∃ g ∈ filesBefore host listing p fields (m + 1), g.file = f.file := by
  have hextract := (reads_extractFile host).run_filterMapM listing (fields.beginCycle t) hreads
  obtain ⟨fields', hends⟩ := @cycle_fieldsAt host utcNow listing p (fields.beginCycle t) 0 m rfl
    hreads hcount hpages hshort hfirst (Nat.zero_le m) t
  rw [fieldsAt_zero] at hends
  constructor
  · rintro ⟨files, fields₁, fields'', hfiles, hends'⟩
    obtain ⟨rfl, -⟩ := EStateM.Result.ok.inj (hextract.symm.trans hfiles)
    exact commitAt_eq_iff.mp (hends.unique hends')
  · intro hcovers
    have hcommit := (@commitAt_eq_iff host listing p (fields.beginCycle t) _).mpr hcovers
    rw [hcommit] at hends
    exact ⟨_, _, fields', hextract, hends⟩

end Complete

/-- **The cycle is complete** just when every entry can be read and the first page that is short
has no files behind it that the pages up to it do not list. -/
theorem complete_iff (host : Host) (utcNow : Int32 → DateTimeOffset) (listing : List JsonElement)
    (p : ℕ) (fields : Fields) (t : DateTimeOffset) (hcount : (pageAt listing p 0).length < 2 ^ 31)
    (hpages : listing.length ≤ 199 * p) :
    Complete host utcNow listing p (fields.beginCycle t) ↔
      (∀ e ∈ listing, ∃ o, listedFile host fields.id e = .ok o) ∧
      ∀ m, IsShort host listing p fields m → (∀ n < m, ¬ IsShort host listing p fields n) →
        ∀ f ∈ filesFrom host listing p fields (m + 1),
          ∃ g ∈ filesBefore host listing p fields (m + 1), g.file = f.file := by
  constructor
  · intro hcomplete
    have hreads := reads_of_complete hcomplete
    refine ⟨hreads, fun m hshort hfirst => ?_⟩
    exact (complete_beginCycle_iff hcount hpages hreads hshort hfirst).mp hcomplete
  · rintro ⟨hreads, hcovers⟩
    classical
    have hlast : ∃ m, IsShort host listing p fields m :=
      ⟨199, .inl (filesAt_eq_nil host listing p fields hpages)⟩
    have hshort := Nat.find_spec hlast
    have hfirst (n : ℕ) (hlt : n < Nat.find hlast) : ¬ IsShort host listing p fields n :=
      Nat.find_min hlast hlt
    exact (complete_beginCycle_iff hcount hpages hreads hshort hfirst).mpr
      (hcovers _ hshort hfirst)

/-- A listing whose second entry has neither a path nor a name. -/
private def unnamedSecond : List JsonElement :=
  [.object [("name", .string "a")], .object [], .object [("name", .string "b")]]

private theorem reads_unnamedSecond :
    ∀ e ∈ unnamedSecond, ∃ o, listedFile default (default : Fields).id e = .ok o := by
  rw [unnamedSecond, List.forall_mem_cons, List.forall_mem_cons, List.forall_mem_singleton]
  exact ⟨⟨_, rfl⟩, ⟨_, rfl⟩, ⟨_, rfl⟩⟩

/-- Pages of three entries list all of it. -/
theorem complete_iff_one_page :
    Complete default (fun _ => default) unnamedSecond 3
      ((default : Fields).beginCycle default) := by
  refine (complete_iff default _ unnamedSecond 3 default default (by decide) (by decide)).mpr
    ⟨reads_unnamedSecond, fun m _ _ f hf => ?_⟩
  have hnil : unnamedSecond.drop ((m + 1) * 3) = [] :=
    List.drop_eq_nil_of_le (Nat.le_mul_of_pos_left 3 m.succ_pos)
  rw [filesFrom, hnil] at hf
  exact absurd hf List.not_mem_nil

/-- **The cycle is not complete** where a page of one entry lists nothing. -/
theorem complete_fails : ¬ ∀ (host : Host) (utcNow : Int32 → DateTimeOffset)
    (listing : List JsonElement) (p : ℕ) (fields : Fields) (t : DateTimeOffset), 1 ≤ p →
      (pageAt listing p 0).length < 2 ^ 31 → listing.length ≤ 199 * p →
        Complete host utcNow listing p (fields.beginCycle t) := by
  intro h
  have hcomplete := h default (fun _ => default) unnamedSecond 1 default default le_rfl (by decide)
    (by decide)
  have hshort : IsShort default unnamedSecond 1 default 1 := .inl (by decide)
  have hfirst : ∀ n < 1, ¬ IsShort default unnamedSecond 1 default n := by
    intro n hn
    rw [Nat.lt_one_iff.mp hn]
    rintro (hnil | hlt)
    · exact absurd hnil (by decide)
    · exact Nat.lt_irrefl _ hlt
  have hcovers := (complete_beginCycle_iff (by decide) (by decide) reads_unnamedSecond hshort
    hfirst).mp hcomplete
  exact absurd hcovers (by decide)

end Creality

end Connect3Dp
